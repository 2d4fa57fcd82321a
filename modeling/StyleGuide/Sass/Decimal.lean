/-!
# Decimal numbers

Numbers as they are written in stylesheets: an integer over a power of ten. They are printed without
superfluous zeros and with at most ten places.
-/

namespace StyleGuide.Sass

/-- The number `mantissa / 10 ^ places`. -/
structure Decimal where
  mantissa : Int
  places : Nat
deriving DecidableEq, Repr

namespace Decimal

def precision : Nat := 10

/-- The number with the given digits before and after its point, times a power of ten. -/
def ofDigits (whole fraction : List Char) (exponent : Int) : Decimal :=
  let digits : Nat := (whole ++ fraction).foldl (fun n c ↦ n * 10 + (c.toNat - 48)) 0
  let places : Int := fraction.length - exponent
  if 0 ≤ places then ⟨digits, places.toNat⟩ else ⟨digits * Nat.pow 10 (-places).toNat, 0⟩

def negate (d : Decimal) : Decimal :=
  ⟨-d.mantissa, d.places⟩

/-- The absolute value in units of the last printed place, a half rounded up. -/
def rounded (d : Decimal) : Nat :=
  let n := d.mantissa.natAbs
  if d.places ≤ precision then n * Nat.pow 10 (precision - d.places)
  else
    let unit := Nat.pow 10 (d.places - precision)
    (n + unit / 2) / unit

/-- The number as text. In the short form a zero before the point is left out. -/
def text (d : Decimal) (short : Bool) : List Char :=
  let n := d.rounded
  let whole := (toString (n / Nat.pow 10 precision)).toList
  let part := (toString (n % Nat.pow 10 precision)).toList
  let padded := List.replicate (precision - part.length) '0' ++ part
  let fraction := (padded.reverse.dropWhile (· == '0')).reverse
  let sign := if d.mantissa < 0 ∧ n ≠ 0 then ['-'] else []
  if fraction = [] then sign ++ whole
  else if short ∧ whole = ['0'] then sign ++ '.' :: fraction
  else sign ++ whole ++ '.' :: fraction

end Decimal

end StyleGuide.Sass
