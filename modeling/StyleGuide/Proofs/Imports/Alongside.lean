import Mathlib.Data.List.Forall2
import StyleGuide.Proofs.Imports.Failing

/-!
# Scans side by side

Two scans of the same statements that look in different places, or come by different chains. What
goes together for every import argument goes together for the statements. An argument goes together
if the two scans find files that are told apart by neither chain and hold the same source, and the
scans of the files go together. Some errors of the first scan may be excused: behind one of them
nothing is asked of the second.
-/

namespace StyleGuide.Imports

/-! ## Outcomes -/

section Outcome

variable {ε α β γ δ : Type}

/-- Two outcomes go together: they are results that go together, or errors that do, or the first is
an error that is excused. -/
inductive Alongside (excused : ε → Prop) (errors : ε → ε → Prop) (values : α → β → Prop) :
    Except ε α → Except ε β → Prop
  | ok {a b} (h : values a b) : Alongside excused errors values (.ok a) (.ok b)
  | error {x y} (h : errors x y) : Alongside excused errors values (.error x) (.error y)
  | excused {x outcome} (h : excused x) : Alongside excused errors values (.error x) outcome

variable {excused : ε → Prop} {errors : ε → ε → Prop} {values : α → β → Prop}

theorem Alongside.bind {values' : γ → δ → Prop} {first : Except ε α} {second : Except ε β}
    {next : α → Except ε γ} {next' : β → Except ε δ}
    (h : Alongside excused errors values first second)
    (hnext : ∀ a b, first = .ok a → values a b →
      Alongside excused errors values' (next a) (next' b)) :
    Alongside excused errors values' (first >>= next) (second >>= next') := by
  cases h with
  | ok h => exact hnext _ _ rfl h
  | error h => exact .error h
  | excused h => exact .excused h

/-- Where results and errors go together only with themselves, outcomes do as well. -/
theorem Alongside.eq {first second : Except ε α} (h : Alongside excused Eq Eq first second)
    (unexcused : ∀ x, excused x → first ≠ .error x) : second = first := by
  cases h with
  | ok h => rw [h]
  | error h => rw [h]
  | excused h => exact absurd rfl (unexcused _ h)

/-- Where results go together only with themselves, a result is the result of both. -/
theorem Alongside.eq_ok {first second : Except ε α} {a : α}
    (h : Alongside excused errors Eq first second) (hfirst : first = .ok a) : second = .ok a := by
  subst hfirst
  cases h with
  | ok h => rw [h]

end Outcome

/-! ## Scans -/

section Scan

variable {excused : CompileError → Prop} {errors : CompileError → CompileError → Prop}
  {together : ImportTree → ImportTree → Prop} {fs fs' : FileSystem}
  {loadPaths loadPaths' : List Path} {chain : Chain fs} {chain' : Chain fs'}
  {importer importer' : Importer}

/-- Two scans that find a file for an argument go together if the files hold the same source and
the scans of the files go together. -/
theorem importNode_alongside {arg target : String} {path path' : Path}
    (named : sassTarget? arg = some target)
    (found : resolve fs (importer.dir :: loadPaths) target = some path)
    (found' : resolve fs' (importer'.dir :: loadPaths') target = some path')
    (css : path.hasExtension "css" = path'.hasExtension "css")
    (contains : chain.contains path = chain'.contains path')
    (looped : errors (.importLoop path) (.importLoop path'))
    (imported : ∀ nodes nodes', List.Forall₂ together nodes nodes' →
      together (.imported target (.root (some path) nodes) none [])
        (.imported target (.root (some path') nodes') none []))
    (read : Alongside excused errors Eq (readStylesheet fs path) (readStylesheet fs' path'))
    (inner : ∀ (new : chain.contains path = false) (new' : chain'.contains path' = false)
      (source : String), path.hasExtension "css" = false → readStylesheet fs path = .ok source →
      Alongside excused errors (List.Forall₂ together)
        (statementNodes fs loadPaths (chain.push path (isFile_of_resolve found) new)
          (.ofFile path) (statements (.ofPath path) source))
        (statementNodes fs' loadPaths' (chain'.push path' (isFile_of_resolve found') new')
          (.ofFile path') (statements (.ofPath path') source))) :
    Alongside excused errors together (importNode fs loadPaths chain importer arg)
      (importNode fs' loadPaths' chain' importer' arg) := by
  rw [importNode_of_found named found, importNode_of_found named found', ← css]
  by_cases hcss : path.hasExtension "css" = true
  · rw [if_pos hcss, if_pos hcss]
    exact .ok (imported [] [] .nil)
  · rw [if_neg hcss, if_neg hcss]
    by_cases new : chain.contains path = false
    · have new' : chain'.contains path' = false := contains ▸ new
      rw [dif_pos new, dif_pos new']
      refine read.bind fun source source' hsource heq ↦ ?_
      subst heq
      have hnodes := inner new new' source (Bool.eq_false_iff.mpr hcss) hsource
      exact hnodes.bind fun nodes nodes' _ h ↦ .ok (imported _ _ h)
    · have new' : ¬ chain'.contains path' = false := contains ▸ new
      rw [dif_neg new, dif_neg new']
      exact .error looped

section Statement

variable {args : List String} {sts : List Statement}

theorem argumentNodes_alongside
    (hnode : ∀ arg ∈ args, Alongside excused errors together
      (importNode fs loadPaths chain importer arg)
      (importNode fs' loadPaths' chain' importer' arg)) :
    Alongside excused errors (List.Forall₂ together)
      (argumentNodes fs loadPaths chain importer args)
      (argumentNodes fs' loadPaths' chain' importer' args) := by
  induction args with
  | nil =>
    rw [argumentNodes_nil, argumentNodes_nil]
    exact .ok .nil
  | cons arg args ih =>
    obtain ⟨hfirst, hrest⟩ := List.forall_mem_cons.mp hnode
    rw [argumentNodes, argumentNodes]
    exact hfirst.bind fun _ _ _ h ↦ (ih hrest).bind fun _ _ _ hs ↦ .ok (.cons h hs)

/-- Scans of statements go together if those of all their arguments do. -/
theorem statementNodes_alongside
    (hrule : ∀ inner inner', List.Forall₂ together inner inner' →
      together (.rule none inner) (.rule none inner'))
    (hnode : ∀ arg ∈ sts.flatMap Statement.arguments, Alongside excused errors together
      (importNode fs loadPaths chain importer arg)
      (importNode fs' loadPaths' chain' importer' arg)) :
    Alongside excused errors (List.Forall₂ together)
      (statementNodes fs loadPaths chain importer sts)
      (statementNodes fs' loadPaths' chain' importer' sts) := by
  induction sts with
  | nil =>
    rw [statementNodes_nil, statementNodes_nil]
    exact .ok .nil
  | cons statement sts ih =>
    rw [List.flatMap_cons, List.forall_mem_append] at hnode
    have hargs := argumentNodes_alongside hnode.1
    have hrest := ih hnode.2
    cases statement with
    | load args =>
      rw [statementNodes, statementNodes]
      exact hargs.bind fun _ _ _ h ↦ hrest.bind fun _ _ _ hs ↦ .ok (List.rel_append h hs)
    | block args =>
      rw [statementNodes, statementNodes]
      exact hargs.bind fun _ _ _ h ↦ hrest.bind fun _ _ _ hs ↦ .ok (.cons (hrule _ _ h) hs)

/-- A scan of statements carries over to another chain if that of every argument does. -/
theorem statementNodes_of_carried {other : Chain fs} {nodes : List ImportTree}
    (carried : ∀ arg node, importNode fs loadPaths chain importer arg = .ok node →
      importNode fs loadPaths other importer arg = .ok node)
    (h : statementNodes fs loadPaths chain importer sts = .ok nodes) :
    statementNodes fs loadPaths other importer sts = .ok nodes := by
  have hside : Alongside (fun _ ↦ True) Eq (List.Forall₂ Eq)
      (statementNodes fs loadPaths chain importer sts)
      (statementNodes fs loadPaths other importer sts) := by
    refine statementNodes_alongside (fun inner inner' hinner ↦ ?_) fun arg _ ↦ ?_
    · rw [List.forall₂_eq_eq_eq] at hinner
      rw [hinner]
    · cases hnode : importNode fs loadPaths chain importer arg with
      | error x => exact .excused trivial
      | ok node =>
        rw [carried arg node hnode]
        exact .ok rfl
  rw [List.forall₂_eq_eq_eq] at hside
  exact hside.eq_ok h

end Statement

end Scan

/-! ## Scans that find the same files -/

section Same

variable {fs : FileSystem} {excused : CompileError → Prop} {loadPaths loadPaths' : List Path}
  {importer importer' : Importer}

/-- Wherever one importer finds a file, another one finds the same. Where it finds none, that is
excused, or the other one goes by the same name and finds none either. -/
structure FindsSame (fs : FileSystem) (excused : CompileError → Prop)
    (loadPaths loadPaths' : List Path) (importer importer' : Importer) : Prop where
  found : ∀ target path, resolve fs (importer.dir :: loadPaths) target = some path →
    resolve fs (importer'.dir :: loadPaths') target = some path
  missing : ∀ target, resolve fs (importer.dir :: loadPaths) target = none →
    excused (.notFound target importer.file) ∨
      (importer'.file = importer.file ∧ resolve fs (importer'.dir :: loadPaths') target = none)

theorem FindsSame.of_resolve_eq (hfile : importer'.file = importer.file)
    (hresolve : ∀ target, resolve fs (importer.dir :: loadPaths) target =
      resolve fs (importer'.dir :: loadPaths') target) :
    FindsSame fs excused loadPaths loadPaths' importer importer' where
  found target _ found := (hresolve target).symm.trans found
  missing target missing := .inr ⟨hfile, (hresolve target).symm.trans missing⟩

variable (inFiles : ∀ p, FindsSame fs excused loadPaths loadPaths' (.ofFile p) (.ofFile p))
include inFiles

/-- Scans that find the same files have the same outcome, up to what is excused. -/
theorem statementNodes_of_findsSame (chain : Chain fs)
    (h : FindsSame fs excused loadPaths loadPaths' importer importer') (sts : List Statement) :
    Alongside excused Eq (List.Forall₂ Eq) (statementNodes fs loadPaths chain importer sts)
      (statementNodes fs loadPaths' chain importer' sts) := by
  -- The chain grows with every file that is entered, so the room in it bounds the recursion.
  induction hroom : chain.room using Nat.strongRecOn generalizing chain importer importer' sts with
  | ind room ih =>
    refine statementNodes_alongside (fun inner inner' hinner ↦ ?_) fun arg _ ↦ ?_
    · rw [List.forall₂_eq_eq_eq] at hinner
      rw [hinner]
    · cases named : sassTarget? arg with
      | none =>
        rw [importNode_of_plainCss named, importNode_of_plainCss named]
        exact .ok rfl
      | some target =>
        cases found : resolve fs (importer.dir :: loadPaths) target with
        | none =>
          rw [importNode_of_missing named found]
          rcases h.missing target found with hexcused | ⟨hfile, missing⟩
          · exact .excused hexcused
          · rw [importNode_of_missing named missing, hfile]
            exact .error rfl
        | some path =>
          refine importNode_alongside named found (h.found target path found) rfl rfl rfl
            (fun nodes nodes' hnodes ↦ ?_) ?_ fun new _ source _ _ ↦ ?_
          · rw [List.forall₂_eq_eq_eq] at hnodes
            rw [hnodes]
          · cases readStylesheet fs path with
            | error x => exact .error rfl
            | ok source => exact .ok rfl
          · exact ih _ (hroom ▸ chain.room_push_lt path (isFile_of_resolve found) new) _
              (inFiles path) _ rfl

theorem scanSource_of_findsSame {file : Option Path} {dir dir' : Path}
    (h : FindsSame fs excused loadPaths loadPaths' ⟨file, dir⟩ ⟨file, dir'⟩) (source : String) :
    Alongside excused Eq Eq (scanSource fs loadPaths file dir source)
      (scanSource fs loadPaths' file dir' source) := by
  unfold scanSource
  refine (statementNodes_of_findsSame inFiles _ h _).bind fun nodes nodes' _ hnodes ↦ ?_
  rw [List.forall₂_eq_eq_eq] at hnodes
  exact .ok (hnodes ▸ rfl)

end Same

end StyleGuide.Imports
