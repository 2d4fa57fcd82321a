import Mathlib.Data.List.Chain
import StyleGuide.Fragments.Glob
import StyleGuide.Proofs.Fragments.Matching
import StyleGuide.Proofs.Path.Components

/-!
# What patterns mean

A pattern is matched component by component: `?`, `*` and brackets stand for characters of one name,
and `**` for directories at any depth. A path may be its own pattern, and then it need not match
itself. What is assumed of a search is `Glob.Documented`: it finds all that is there and matches, it
makes nothing up, and a path without pattern characters is searched for as it is.
-/

namespace StyleGuide

namespace Pattern

def ownText (w : Path) : List Char :=
  if w.isAbsolute then w.text.toList.drop 1 else w.text.toList

def components (w : Path) : List (List Char) :=
  Path.segments (ownText w)

/-- A component that is the name of an entry, not empty, `.` or `..`. -/
def IsNamed (name : List Char) : Prop :=
  Path.Component.ofSegment name = some (.name name)

instance : DecidablePred IsNamed :=
  fun name ↦ decEq (Path.Component.ofSegment name) (some (.name name))

/-- The text is a pattern, and so is every component of it. -/
def Valid (w : Path) : Prop :=
  (tokens? w.text.toList).isSome ∧ ∀ s ∈ components w, (tokens? s).isSome

instance : DecidablePred Valid :=
  fun w ↦ inferInstanceAs (Decidable
    ((tokens? w.text.toList).isSome ∧ ∀ s ∈ components w, (tokens? s).isSome))

/-! ## Matching -/

def Stands (pattern name : List Char) : Prop :=
  ∃ tokens, tokens? pattern = some tokens ∧ covers tokens name = true

/-- The components of a pattern match those of a path, one by one but for `**`. -/
inductive Fits : List (List Char) → List (List Char) → Prop
  | nil : Fits [] []
  /-- What leads to no entry is only matched by itself. -/
  | special {name : List Char} {ps ns : List (List Char)} (special : ¬ IsNamed name)
      (onward : Fits ps ns) : Fits (name :: ps) (name :: ns)
  | name {pattern name : List Char} {ps ns : List (List Char)} (flat : pattern ≠ ['*', '*'])
      (named : IsNamed name) (stands : Stands pattern name) (onward : Fits ps ns) :
      Fits (pattern :: ps) (name :: ns)
  /-- Several `**` count once. The name behind them may be at any depth. -/
  | depth (again : Nat) {above : List (List Char)} {pattern name : List Char}
      {ps ns : List (List Char)} (flat : pattern ≠ ['*', '*']) (leads : ∀ n ∈ above, IsNamed n)
      (named : IsNamed name) (stands : Stands pattern name) (onward : Fits ps ns) :
      Fits (List.replicate (again + 1) ['*', '*'] ++ pattern :: ps) (above ++ name :: ns)

/-- A relative path has no separator before its first component, not even behind a `.`. -/
def Spelled (q : Path) : Prop :=
  q.isAbsolute = false → ((components q).dropWhile (· = ['.'])).head? ≠ some []

instance : DecidablePred Spelled :=
  fun q ↦ inferInstanceAs (Decidable
    (q.isAbsolute = false → ((components q).dropWhile (· = ['.'])).head? ≠ some []))

/-- The path `w`, read as a pattern, matches the path `q`. -/
structure Matches (w q : Path) : Prop where
  start : w.isAbsolute = q.isAbsolute
  fits : Fits (components w) (components q)
  spelled : Spelled q

/-! ## Paths without brackets -/

/-- A path without brackets, with nothing but names behind a directory that is named `**`. -/
structure Plain (w : Path) : Prop where
  noBracket : '[' ∉ w.text.toList
  named : (components w).IsChain fun before behind ↦ before = ['*', '*'] → IsNamed behind
  last : (components w).getLast? ≠ some ['*', '*']
  spelled : Spelled w

/-- Components that stand for themselves match themselves, whether or not some `**` stand before
them: the first of these is the first directory on the way. -/
theorem fits_self {names : List (List Char)} (own : ∀ n ∈ names, Stands n n)
    (named : names.IsChain fun before behind ↦ before = ['*', '*'] → IsNamed behind)
    (last : names.getLast? ≠ some ['*', '*']) :
    Fits names names ∧ ∀ again, (∀ n ∈ names.head?, IsNamed n) → names ≠ [] →
      Fits (List.replicate (again + 1) ['*', '*'] ++ names)
        (List.replicate (again + 1) ['*', '*'] ++ names) := by
  induction names with
  | nil => exact ⟨.nil, fun _ _ hne ↦ absurd rfl hne⟩
  | cons name names ih =>
    obtain ⟨ownName, ownNames⟩ := List.forall_mem_cons.mp own
    have hlast : names.getLast? ≠ some ['*', '*'] := by
      intro h
      apply last
      rw [List.getLast?_cons, h]
      rfl
    obtain ⟨honward, hdepth⟩ := ih ownNames named.tail hlast
    by_cases hflat : name = ['*', '*']
    · subst hflat
      have hne : names ≠ [] := by
        rintro rfl
        exact last rfl
      have hhead : ∀ n ∈ names.head?, IsNamed n := by
        intro n hn
        obtain ⟨rest, rfl⟩ := List.head?_eq_some_iff.mp hn
        exact (List.isChain_cons_cons.mp named).1 rfl
      refine ⟨hdepth 0 hhead hne, fun again _ _ ↦ ?_⟩
      have hshift : List.replicate (again + 1) ['*', '*'] ++ ['*', '*'] :: names =
          List.replicate (again + 1 + 1) ['*', '*'] ++ names := by
        rw [List.replicate_succ' (n := again + 1), List.append_assoc, List.singleton_append]
      rw [hshift]
      exact hdepth (again + 1) hhead hne
    · have hstars : ∀ again, ∀ n ∈ List.replicate (again + 1) ['*', '*'], IsNamed n := by
        intro again n hn
        rw [(List.mem_replicate.mp hn).2]
        rfl
      constructor
      · by_cases hnamed : IsNamed name
        · exact .name hflat hnamed ownName honward
        · exact .special hnamed honward
      · intro again hhead _
        exact .depth again hflat (hstars again) (hhead name rfl) ownName honward

theorem mem_of_mem_components {w : Path} {s : List Char} {c : Char} (hs : s ∈ components w)
    (hc : c ∈ s) : c ∈ w.text.toList := by
  have hown : c ∈ ownText w := (Path.of_mem_segments s hs).2 c hc
  unfold ownText at hown
  split at hown
  · exact List.mem_of_mem_drop hown
  · exact hown

theorem Plain.matches_self {w : Path} (plain : Plain w) (valid : Valid w) : Matches w w := by
  refine ⟨rfl, (fits_self (fun n hn ↦ ?_) plain.named plain.last).1, plain.spelled⟩
  obtain ⟨tokens, htokens⟩ := Option.isSome_iff_exists.mp (valid.2 n hn)
  refine ⟨tokens, htokens, (Reads.of_tokens? htokens).covers_self fun hbracket ↦ ?_⟩
  exact plain.noBracket (mem_of_mem_components hn hbracket)

/-! ## Paths without pattern characters -/

/-- A text without pattern characters. -/
def Verbatim (cs : List Char) : Prop :=
  ∀ c ∈ cs, c ≠ '?' ∧ c ≠ '*' ∧ c ≠ '['

instance : DecidablePred Verbatim :=
  fun cs ↦ List.decidableBAll (fun c ↦ c ≠ '?' ∧ c ≠ '*' ∧ c ≠ '[') cs

theorem Verbatim.tokensFrom_eq {fresh : Bool} {cs : List Char} (h : Verbatim cs) :
    tokensFrom fresh cs = some (cs.map .char) := by
  fun_induction tokensFrom fresh cs with
  | case1 => rfl
  | case12 fresh c rest _ _ _ _ _ _ _ ih =>
    rw [ih (List.forall_mem_cons.mp h).2]
    rfl
  | _ => exact absurd (List.forall_mem_cons.mp h).1 (by decide)

/-- Without pattern characters there is nothing that could be invalid. -/
theorem valid_of_verbatim {w : Path} (h : Verbatim w.text.toList) : Valid w := by
  have hsome {cs : List Char} (hcs : Verbatim cs) : (tokens? cs).isSome := by
    rw [tokens?, hcs.tokensFrom_eq]
    rfl
  exact ⟨hsome h, fun s hs ↦ hsome fun c hc ↦ h c (mem_of_mem_components hs hc)⟩

theorem plain_of_verbatim {w : Path} (h : Verbatim w.text.toList) (spelled : Spelled w) :
    Plain w := by
  have hstars : ['*', '*'] ∉ components w := by
    intro hmem
    exact (h '*' (mem_of_mem_components hmem List.mem_cons_self)).2.1 rfl
  refine ⟨fun hbracket ↦ (h '[' hbracket).2.2 rfl, ?_, ?_, spelled⟩
  · apply List.Pairwise.isChain
    apply List.pairwise_of_forall_mem_list
    intro before hbefore behind _ hdepth
    exact absurd (hdepth ▸ hbefore) hstars
  · intro hlast
    exact hstars (List.mem_of_getLast? hlast)

/-! ## Searches -/

/-- There is something at a path, unless the path is too long to be looked up. -/
def Existing (d : Disk) (p : Path) : Prop :=
  d.contains p = true ∨ Disk.longestPath < byteCount p.text.toList

end Pattern

/-- What is known of the search of a disk for a pattern. -/
structure Glob.Documented (glob : Glob) (d : Disk) (w : Path) : Prop where
  parses : (glob d w).isSome ↔ Pattern.Valid w
  /-- What is there and matches is found, under this or another spelling. -/
  complete : ∀ entries, glob d w = some entries → ∀ q, Pattern.Matches w q →
    d.contains q = true → ∃ p, .ok p ∈ entries ∧ d.locate p = d.locate q
  existing : ∀ entries, glob d w = some entries → ∀ p, .ok p ∈ entries → Pattern.Existing d p
  /-- Without pattern characters one path may be found, in one spelling, and it can be looked up. -/
  literal : ∀ entries, glob d w = some entries → Pattern.Verbatim w.text.toList →
    byteCount w.text.toList ≤ Disk.longestPath → Pattern.Spelled w →
    entries.length ≤ 1 ∧ ∀ p, .ok p ∈ entries → d.contains p = true ∧ d.locate p = d.locate w

end StyleGuide
