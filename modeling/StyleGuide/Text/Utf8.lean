/-!
# Bytes as text

Strict decoding accepts valid UTF-8 only. Lossy decoding writes one replacement character for each
maximal part of the input that begins like a character and then breaks off.
-/

namespace StyleGuide.Text.Utf8

def decode? (bytes : ByteArray) : Option String :=
  String.fromUTF8? bytes

/-- U+FFFD stands for what cannot be decoded. -/
def replacement : Char := Char.ofNat 0xFFFD

/-- The number of bytes that follow a lead byte, with the range of the first of them; none if no
character starts with the byte. -/
def following (lead : Nat) : Option (Nat × Nat × Nat) :=
  if 0xC2 ≤ lead ∧ lead ≤ 0xDF then some (1, 0x80, 0xBF)
  else if lead = 0xE0 then some (2, 0xA0, 0xBF)
  else if lead = 0xED then some (2, 0x80, 0x9F)
  else if 0xE1 ≤ lead ∧ lead ≤ 0xEF then some (2, 0x80, 0xBF)
  else if lead = 0xF0 then some (3, 0x90, 0xBF)
  else if 0xF1 ≤ lead ∧ lead ≤ 0xF3 then some (3, 0x80, 0xBF)
  else if lead = 0xF4 then some (3, 0x80, 0x8F)
  else none

/-- A character under way: its value so far, how many bytes it still needs, and the range of the
next one. -/
structure Partial where
  value : Nat
  missing : Nat
  low : Nat
  high : Nat

/-- The value bits of a lead byte that `n` bytes follow. -/
def leadBits (lead n : Nat) : Nat :=
  if n = 1 then lead % 32 else if n = 2 then lead % 16 else lead % 8

/-- Reads a byte that starts a character: what it writes at once, and what it leaves under way. -/
def start (b : Nat) : List Char × Option Partial :=
  if b < 0x80 then ([Char.ofNat b], none)
  else match following b with
    | some (n, low, high) => ([], some ⟨leadBits b n, n, low, high⟩)
    | none => ([replacement], none)

/-- Lossy decoding with at most one character under way. -/
def lossyFrom (state : Option Partial) : List UInt8 → List Char
  | [] => if state.isSome then [replacement] else []
  | byte :: bytes =>
    let b := byte.toNat
    match state with
    | some p =>
      if p.low ≤ b ∧ b ≤ p.high then
        let value := p.value * 64 + b % 64
        if p.missing ≤ 1 then Char.ofNat value :: lossyFrom none bytes
        else lossyFrom (some ⟨value, p.missing - 1, 0x80, 0xBF⟩) bytes
      else
        let (out, next) := start b
        replacement :: out ++ lossyFrom next bytes
    | none =>
      let (out, next) := start b
      out ++ lossyFrom next bytes

/-- Lossy decoding; valid UTF-8 is read as it is. -/
def decodeLossy (bytes : ByteArray) : String :=
  match decode? bytes with
  | some s => s
  | none => String.ofList (lossyFrom none bytes.toList)

end StyleGuide.Text.Utf8
