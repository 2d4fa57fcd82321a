import StyleGuide.Proofs.Imports.Scanning

/-!
# Scans that fail

A scan of statements takes all their arguments in order, those in blocks included. It succeeds if
every argument does, and otherwise fails like one of them. `ArgumentFault` tells apart the four ways
in which an argument fails.
-/

namespace StyleGuide.Imports

theorem bind_eq_error {ε α β : Type} {first : Except ε α} {next : α → Except ε β} {x : ε} :
    (first >>= next) = .error x ↔
      first = .error x ∨ ∃ a, first = .ok a ∧ next a = .error x := by
  cases first with
  | error y =>
    change (.error y : Except ε β) = .error x ↔ _
    refine ⟨fun h ↦ .inl (congrArg _ (Except.error.inj h)), fun h ↦ ?_⟩
    rcases h with h | ⟨a, ha, -⟩
    · exact congrArg _ (Except.error.inj h)
    · cases ha
  | ok a =>
    refine ⟨fun h ↦ .inr ⟨a, rfl, h⟩, fun h ↦ ?_⟩
    rcases h with h | ⟨a', ha, h⟩
    · cases h
    · cases ha
      exact h

/-- Two results that are put together fail like one of them. -/
theorem error_of_both {ε α β γ : Type} {first : Except ε α} {second : Except ε β} {f : α → β → γ}
    {x : ε} (h : (do let a ← first; let b ← second; return f a b) = .error x) :
    first = .error x ∨ second = .error x := by
  rcases bind_eq_error.mp h with hfirst | ⟨a, -, h⟩
  · exact .inl hfirst
  · rcases bind_eq_error.mp h with hsecond | ⟨b, -, h⟩
    · exact .inr hsecond
    · cases h

variable {fs : FileSystem} {loadPaths : List Path} {chain : Chain fs} {importer : Importer}

/-! ## Arguments -/

/-- What comes of an import argument whose scan fails. -/
inductive ArgumentFault (fs : FileSystem) (loadPaths : List Path) (chain : Chain fs)
    (importer : Importer) (arg : String) : CompileError → Prop
  | missing {target} (named : sassTarget? arg = some target)
      (missing : resolve fs (importer.dir :: loadPaths) target = none) :
      ArgumentFault fs loadPaths chain importer arg (.notFound target importer.file)
  | looped {target path} (named : sassTarget? arg = some target)
      (found : resolve fs (importer.dir :: loadPaths) target = some path)
      (sheet : path.hasExtension "css" = false) (present : chain.contains path = true) :
      ArgumentFault fs loadPaths chain importer arg (.importLoop path)
  | unreadable {target path x} (named : sassTarget? arg = some target)
      (found : resolve fs (importer.dir :: loadPaths) target = some path)
      (sheet : path.hasExtension "css" = false) (new : chain.contains path = false)
      (unread : readStylesheet fs path = .error x) :
      ArgumentFault fs loadPaths chain importer arg x
  | within {target path source x} (named : sassTarget? arg = some target)
      (found : resolve fs (importer.dir :: loadPaths) target = some path)
      (sheet : path.hasExtension "css" = false) (new : chain.contains path = false)
      (read : readStylesheet fs path = .ok source)
      (failed : statementNodes fs loadPaths (chain.push path (isFile_of_resolve found) new)
        (.ofFile path) (statements (.ofPath path) source) = .error x) :
      ArgumentFault fs loadPaths chain importer arg x

theorem importNode_eq_error {arg : String} {x : CompileError} :
    importNode fs loadPaths chain importer arg = .error x ↔
      ArgumentFault fs loadPaths chain importer arg x := by
  constructor
  · intro h
    cases named : sassTarget? arg with
    | none =>
      rw [importNode_of_plainCss named] at h
      cases h
    | some target =>
      cases found : resolve fs (importer.dir :: loadPaths) target with
      | none =>
        rw [importNode_of_missing named found] at h
        cases h
        exact .missing named found
      | some path =>
        rw [importNode_of_found named found] at h
        split_ifs at h with css new
        · have sheet := Bool.eq_false_iff.mpr css
          rcases bind_eq_error.mp h with unread | ⟨source, read, h⟩
          · exact .unreadable named found sheet new unread
          · rcases bind_eq_error.mp h with failed | ⟨nodes, -, h⟩
            · exact .within named found sheet new read failed
            · cases h
        · cases h
          exact .looped named found (Bool.eq_false_iff.mpr css) (Bool.not_eq_false _ ▸ new)
  · intro h
    cases h with
    | missing named missing => exact importNode_of_missing named missing
    | looped named found sheet present =>
      rw [importNode_of_found named found, if_neg (Bool.eq_false_iff.mp sheet), dif_neg]
      exact fun new ↦ Bool.false_ne_true (new.symm.trans present)
    | unreadable named found sheet new unread =>
      rw [importNode_of_found named found, if_neg (Bool.eq_false_iff.mp sheet), dif_pos new]
      exact bind_eq_error.mpr (.inl unread)
    | within named found sheet new read failed =>
      rw [importNode_of_found named found, if_neg (Bool.eq_false_iff.mp sheet), dif_pos new]
      exact bind_eq_error.mpr (.inr ⟨_, read, bind_eq_error.mpr (.inl failed)⟩)

theorem exists_of_argumentNodes_eq_error {args : List String} {x : CompileError}
    (h : argumentNodes fs loadPaths chain importer args = .error x) :
    ∃ arg ∈ args, importNode fs loadPaths chain importer arg = .error x := by
  induction args with
  | nil => cases argumentNodes_nil.symm.trans h
  | cons arg args ih =>
    rw [argumentNodes] at h
    rcases error_of_both h with hnode | hrest
    · exact ⟨arg, List.mem_cons_self, hnode⟩
    · obtain ⟨arg', harg', hnode⟩ := ih hrest
      exact ⟨arg', List.mem_cons_of_mem _ harg', hnode⟩

theorem exists_of_argumentNodes_eq_ok {args : List String} {nodes : List ImportTree}
    (h : argumentNodes fs loadPaths chain importer args = .ok nodes) {arg : String}
    (harg : arg ∈ args) : ∃ node, importNode fs loadPaths chain importer arg = .ok node := by
  induction args generalizing nodes with
  | nil => cases harg
  | cons first args ih =>
    obtain ⟨node, rest, hnode, hrest, -⟩ := argumentNodes_cons_eq_ok.mp h
    rcases List.mem_cons.mp harg with rfl | harg
    · exact ⟨node, hnode⟩
    · exact ih hrest harg

/-! ## Statements -/

def Statement.arguments : Statement → List String
  | load args => args
  | block args => args

theorem exists_of_statementNodes_eq_error {sts : List Statement} {x : CompileError}
    (h : statementNodes fs loadPaths chain importer sts = .error x) :
    ∃ arg ∈ sts.flatMap Statement.arguments,
      importNode fs loadPaths chain importer arg = .error x := by
  induction sts with
  | nil => cases statementNodes_nil.symm.trans h
  | cons statement sts ih =>
    have hcases : argumentNodes fs loadPaths chain importer statement.arguments = .error x ∨
        statementNodes fs loadPaths chain importer sts = .error x := by
      cases statement <;> rw [statementNodes] at h <;> exact error_of_both h
    rw [List.flatMap_cons]
    rcases hcases with hargs | hrest
    · obtain ⟨arg, harg, hnode⟩ := exists_of_argumentNodes_eq_error hargs
      exact ⟨arg, List.mem_append_left _ harg, hnode⟩
    · obtain ⟨arg, harg, hnode⟩ := ih hrest
      exact ⟨arg, List.mem_append_right _ harg, hnode⟩

theorem exists_of_statementNodes_eq_ok {sts : List Statement} {nodes : List ImportTree}
    (h : statementNodes fs loadPaths chain importer sts = .ok nodes) {arg : String}
    (harg : arg ∈ sts.flatMap Statement.arguments) :
    ∃ node, importNode fs loadPaths chain importer arg = .ok node := by
  induction sts generalizing nodes with
  | nil => cases harg
  | cons statement sts ih =>
    have hparts : ∃ first rest,
        argumentNodes fs loadPaths chain importer statement.arguments = .ok first ∧
          statementNodes fs loadPaths chain importer sts = .ok rest := by
      cases statement with
      | load args =>
        obtain ⟨first, rest, hfirst, hrest, -⟩ := statementNodes_load_eq_ok.mp h
        exact ⟨first, rest, hfirst, hrest⟩
      | block args =>
        obtain ⟨first, rest, hfirst, hrest, -⟩ := statementNodes_block_eq_ok.mp h
        exact ⟨first, rest, hfirst, hrest⟩
    obtain ⟨first, rest, hfirst, hrest⟩ := hparts
    rw [List.flatMap_cons, List.mem_append] at harg
    rcases harg with harg | harg
    · exact exists_of_argumentNodes_eq_ok hfirst harg
    · exact ih hrest harg

end StyleGuide.Imports
