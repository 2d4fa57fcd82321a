import StyleGuide.Imports.Statement
import StyleGuide.Imports.Target
import StyleGuide.Proofs.Imports.Scanning
import StyleGuide.Proofs.Text.ByteOffsets

/-!
# Import statements at byte offsets

The scan for import statements with its offsets written out: it looks at one byte after the other, moves
its offset by one or two bytes or to where a helper stopped, and cuts the text there. Every byte that is
looked at, every cut and every count that goes down is checked, and a scan that meets an offset it cannot
use fails with it.
-/

namespace StyleGuide.Imports.Bytewise

open Text

/-! ## Interpolations -/

/-- Behind the brace that closes an interpolation, of which `depth` braces are open before the
bytes from `i` on. -/
def closing (s : String) (i depth : Nat) : List UInt8 → Except OffsetFault Nat
  | [] => .ok s.utf8ByteSize
  | b :: bs =>
    if b = '{'.toUInt8 then closing s (i + 1) (depth + 1) bs
    else if b = '}'.toUInt8 then
      match decrement depth with
      | .error fault => .error fault
      | .ok 0 => .ok (i + 1)
      | .ok (depth + 1) => closing s (i + 1) (depth + 1) bs
    else closing s (i + 1) depth bs

def skipInterpolation (s : String) (opened : Nat) : Except OffsetFault Nat :=
  if opened ≤ s.utf8ByteSize then closing s opened 0 ((bytes s).drop opened)
  else .error (.noByte opened)

/-! ## Statements -/

def statementEndFrom (s : String) (quote : Option UInt8) (parens i : Nat) :
    Except OffsetFault Nat :=
  if i < s.utf8ByteSize then
    match byteAt s i with
    | .error fault => .error fault
    | .ok b =>
      match quote with
      | some q =>
        if b = '\\'.toUInt8 then statementEndFrom s quote parens (i + 2)
        else if b = q then statementEndFrom s none parens (i + 1)
        else statementEndFrom s quote parens (i + 1)
      | none =>
        if b = '"'.toUInt8 ∨ b = '\''.toUInt8 then statementEndFrom s (some b) parens (i + 1)
        else if b = '('.toUInt8 then statementEndFrom s none (parens + 1) (i + 1)
        else if b = ')'.toUInt8 then statementEndFrom s none (parens - 1) (i + 1)
        else if (b = ';'.toUInt8 ∨ b = '{'.toUInt8 ∨ b = '}'.toUInt8) ∧ parens = 0 then .ok i
        else statementEndFrom s none parens (i + 1)
  else .ok s.utf8ByteSize
termination_by s.utf8ByteSize - i

/-- The offset of the `;`, `{` or `}` that ends the statement at an offset. -/
def statementEnd (s : String) (start : Nat) : Except OffsetFault Nat :=
  statementEndFrom s none 0 start

/-- Where the scan stands, and what it has found. -/
structure BlockScan where
  index : Nat
  quote : Option UInt8
  depth : Nat
  /-- The imports inside the open blocks. -/
  inner : List String
  found : List Statement
deriving DecidableEq, Repr

def BlockScan.import? (s : String) (scan : BlockScan) :
    Except OffsetFault (Option (Nat × List String)) := do
  let rest ← slice s scan.index s.utf8ByteSize
  if (importRest? rest.toList).isSome then
    let start := scan.index + keyword.length
    let stop ← statementEnd s start
    let text ← slice s start stop
    return some (stop, splitArgs text.toList)
  else return none

/-- The scan behind a closing brace, with `depth` blocks still open. -/
def BlockScan.closed (scan : BlockScan) (depth : Nat) : BlockScan :=
  if depth = 0 then ⟨scan.index + 1, scan.quote, 0, [], scan.found ++ [.block scan.inner]⟩
  else ⟨scan.index + 1, scan.quote, depth, scan.inner, scan.found⟩

def BlockScan.imported (scan : BlockScan) (stop : Nat) (args : List String) : BlockScan :=
  if scan.depth = 0 then ⟨stop, scan.quote, 0, scan.inner, scan.found ++ [.load args]⟩
  else ⟨stop, scan.quote, scan.depth, scan.inner ++ args, scan.found⟩

def BlockScan.step (s : String) (scan : BlockScan) : Except OffsetFault BlockScan := do
  let b ← byteAt s scan.index
  let passed := { scan with index := scan.index + 1 }
  match scan.quote with
  | some q =>
    if b = '\\'.toUInt8 then return { scan with index := scan.index + 2 }
    else if b = q then return { passed with quote := none }
    else return passed
  | none =>
    if b = '"'.toUInt8 ∨ b = '\''.toUInt8 then return { passed with quote := some b }
    else if b = '#'.toUInt8 ∧ (bytes s)[scan.index + 1]? = some '{'.toUInt8 then
      let behind ← skipInterpolation s (scan.index + 1)
      return { scan with index := behind }
    else if b = '{'.toUInt8 then return { passed with depth := scan.depth + 1 }
    else if b = '}'.toUInt8 ∧ 0 < scan.depth then return scan.closed (← decrement scan.depth)
    else if b = '@'.toUInt8 then
      match ← scan.import? s with
      | some (stop, args) => return scan.imported stop args
      | none => return passed
    else return passed

/-! ## Progress -/

variable {s : String} {i j depth parens : Nat} {quote : Option UInt8} {bs : List UInt8}

theorem le_of_closing (h : closing s i depth bs = .ok j) : min i s.utf8ByteSize ≤ j := by
  fun_induction closing s i depth bs with
  | case1 | case4 =>
    cases h
    omega
  | case3 => cases h
  | _ =>
    rename_i ih
    have hle := ih h
    omega

theorem le_of_statementEndFrom (h : statementEndFrom s quote parens i = .ok j) :
    min i s.utf8ByteSize ≤ j := by
  fun_induction statementEndFrom s quote parens i with
  | case1 => cases h
  | case8 | case10 =>
    cases h
    omega
  | _ =>
    rename_i ih
    have hle := ih h
    omega

namespace BlockScan

theorem le_of_import? {scan : BlockScan} {stop : Nat} {args : List String}
    (h : scan.import? s = .ok (some (stop, args))) :
    min (scan.index + keyword.length) s.utf8ByteSize ≤ stop := by
  obtain ⟨rest, -, h⟩ := bind_eq_ok.mp h
  split_ifs at h
  · obtain ⟨stop, hstop, h⟩ := bind_eq_ok.mp h
    obtain ⟨text, -, h⟩ := bind_eq_ok.mp h
    cases h
    exact le_of_statementEndFrom hstop
  · cases h

theorem index_closed (scan : BlockScan) (depth : Nat) :
    (scan.closed depth).index = scan.index + 1 := by
  unfold closed
  split <;> rfl

theorem index_imported (scan : BlockScan) (stop : Nat) (args : List String) :
    (scan.imported stop args).index = stop := by
  unfold imported
  split <;> rfl

/-- Every round of the scan moves its offset on, whatever it has met. -/
theorem index_lt_of_step {scan next : BlockScan} (h : scan.step s = .ok next) :
    scan.index < next.index := by
  obtain ⟨b, hbyte, h⟩ := bind_eq_ok.mp h
  have hlt : scan.index < s.utf8ByteSize := lt_size_of_byteAt hbyte
  dsimp only at h
  split at h
  · split_ifs at h <;> cases h <;> dsimp only <;> omega
  · split_ifs at h
    · cases h
      exact Nat.lt_succ_self _
    · obtain ⟨behind, hbehind, h⟩ := bind_eq_ok.mp h
      cases h
      rw [skipInterpolation, if_pos (Nat.succ_le_of_lt hlt)] at hbehind
      have hle := le_of_closing hbehind
      dsimp only
      omega
    · cases h
      exact Nat.lt_succ_self _
    · obtain ⟨depth, -, h⟩ := bind_eq_ok.mp h
      cases h
      rw [index_closed]
      exact Nat.lt_succ_self _
    · obtain ⟨_ | ⟨stop, args⟩, himport, h⟩ := bind_eq_ok.mp h
      · cases h
        exact Nat.lt_succ_self _
      · have hle := le_of_import? himport
        have hkeyword : 0 < keyword.length := by decide
        cases h
        rw [index_imported]
        omega
    · cases h
      exact Nat.lt_succ_self _

end BlockScan

def BlockScan.run (s : String) (scan : BlockScan) : Except OffsetFault (List Statement) :=
  if scan.index < s.utf8ByteSize then
    match _h : scan.step s with
    | .error fault => .error fault
    | .ok next => next.run s
  else .ok scan.found
termination_by s.utf8ByteSize - scan.index
decreasing_by
  have := scan.index_lt_of_step _h
  omega

def statementsInBraces (s : String) : Except OffsetFault (List Statement) :=
  BlockScan.run s ⟨0, none, 0, [], []⟩

/-! ## Lines and arguments -/

/-- The arguments of the import that a line without blanks at the front opens. -/
def lineImport? (text : String) : Except OffsetFault (Option (List String)) := do
  if (importRest? text.toList).isSome then
    let after ← slice text keyword.length text.utf8ByteSize
    return some (splitArgs (dropSemicolons (trimEnd after.toList)))
  else return none

/-- The statements of the remaining lines; `block` holds the imports of the block under way. -/
def indentedFrom (block : Option (List String)) :
    List (List Char) → Except OffsetFault (List Statement)
  | [] => return closeBlock block
  | line :: rest => do
    let text := String.ofList (trimStart line)
    if text.utf8ByteSize = 0 then indentedFrom block rest
    else
      let topLevel := text.utf8ByteSize = (String.ofList line).utf8ByteSize
      match ← lineImport? text with
      | some args =>
        if topLevel then return closeBlock block ++ .load args :: (← indentedFrom none rest)
        else indentedFrom (some (block.getD [] ++ args)) rest
      | none =>
        if topLevel then return closeBlock block ++ (← indentedFrom (some []) rest)
        else indentedFrom block rest

def indentedStatements (s : String) : Except OffsetFault (List Statement) :=
  indentedFrom none (lines s.toList)

/-- The offset of the first `c`, for characters that begin at `i`. -/
def findFrom (c : Char) (i : Nat) : List Char → Option Nat
  | [] => none
  | d :: ds => if d = c then some i else findFrom c (i + d.utf8Size) ds

/-- The stylesheet that an argument names; none for a plain CSS import. -/
def sassTarget? (arg : String) : Except OffsetFault (Option String) := do
  let named (target : String) := if isPlainCss target.toList then none else some target
  match arg.toList.head? with
  | none => return named arg
  | some quote =>
    if quote = '"' ∨ quote = '\'' then
      let inner ← slice arg 1 arg.utf8ByteSize
      match findFrom quote 0 inner.toList with
      | none => return none
      | some close =>
        let after ← slice inner (close + 1) inner.utf8ByteSize
        if trim after.toList = [] then return named (← slice inner 0 close)
        else return none
    else return named arg

end StyleGuide.Imports.Bytewise
