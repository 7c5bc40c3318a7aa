/-!
The shortest decimal that reads back as a floating-point number. A number of 64 bits stands for all
reals that round to it; the shortest decimal is the one on the coarsest decimal grid that has a point
among them, and of two such points the nearer to the number itself.
-/
namespace MiniJava.Decimal

/-- The first bit of a mantissa, which is not written: two to the power of 52. -/
def hiddenBit : Nat := Nat.pow 2 52

/-- The decimal `digits * 10 ^ exponent`. -/
structure Scaled where
  digits : Nat
  exponent : Int
  deriving DecidableEq

/-- A positive number and the reals that round to it, as numerators over one denominator. The ends
round to it as well if `closed`. -/
structure Rounding where
  low : Nat
  value : Nat
  high : Nat
  denominator : Nat
  closed : Bool

namespace Rounding

/-- The reals that round to `mantissa * 2 ^ exponent`. Below a power of two the next number is nearer
than above, except at the least exponent. -/
def ofBinary (mantissa : Nat) (exponent : Int) : Rounding :=
  let quarter := exponent - 2
  let unit := Nat.pow 2 quarter.toNat
  let half := if mantissa = hiddenBit ∧ exponent ≠ -1074 then 1 else 2
  { low := (4 * mantissa - half) * unit
    value := 4 * mantissa * unit
    high := (4 * mantissa + 2) * unit
    denominator := Nat.pow 2 (-quarter).toNat
    closed := mantissa % 2 = 0 }

/-- The fraction is one of the reals. -/
def contains (r : Rounding) (numerator denominator : Nat) : Bool :=
  let point := numerator * r.denominator
  if r.closed then r.low * denominator ≤ point && point ≤ r.high * denominator
  else r.low * denominator < point && point < r.high * denominator

/-- The point of the grid of `10 ^ k` that is one of the reals, if one of the two next to the number
is: the nearer of them, in the middle the even one. -/
def onGrid? (r : Rounding) (k : Int) : Option Nat :=
  let up := Nat.pow 10 k.toNat
  let down := Nat.pow 10 (-k).toNat
  let below := r.value * down / (r.denominator * up)
  match r.contains (below * up) down, r.contains ((below + 1) * up) down with
  | true, true =>
    let twice := 2 * (r.value * down)
    let middle := (2 * below + 1) * (r.denominator * up)
    if twice < middle ∨ twice = middle ∧ below % 2 = 0 then some below else some (below + 1)
  | true, false => some below
  | false, true => some (below + 1)
  | false, false => none

/-- The first point found on grids that get finer from `10 ^ k` on. -/
def search (r : Rounding) : Nat → Int → Scaled
  | 0, k => ⟨r.value / r.denominator, k⟩
  | grids + 1, k =>
    match r.onGrid? k with
    | some digits => ⟨digits, k⟩
    | none => search r grids (k - 1)

/-- The shortest decimal among the reals. Seventeen digits are always enough, and the first grid is
at most three powers too coarse. -/
def shortest (r : Rounding) : Scaled :=
  let size (n : Nat) : Int := (Nat.toDigits 10 n).length
  r.search 21 (size r.value - size r.denominator + 1)

end Rounding

/-- The decimal as text: positional from a hundred thousandth up to sixteen digits before the point,
beyond that with an exponent, which always has a sign; a whole number written positionally keeps one
place. -/
def Scaled.text (s : Scaled) : String :=
  let digits := Nat.toDigits 10 s.digits
  let zeros (n : Int) : List Char := List.replicate n.toNat '0'
  let point : Int := digits.length + s.exponent
  if 0 ≤ s.exponent ∧ point ≤ 16 then
    String.ofList (digits ++ zeros s.exponent) ++ ".0"
  else if 0 < point ∧ point ≤ 16 then
    String.ofList (digits.take point.toNat) ++ "." ++ String.ofList (digits.drop point.toNat)
  else if -5 < point ∧ point ≤ 0 then
    "0." ++ String.ofList (zeros (-point) ++ digits)
  else
    let places := if digits.length = 1 then "" else "." ++ String.ofList digits.tail
    let sign := if 0 < point then "+" else ""
    String.ofList (digits.take 1) ++ places ++ "e" ++ sign ++ toString (point - 1)

/-- A finite number of 64 bits as the shortest decimal that reads back as it. -/
def ofFloat (x : Float) : String :=
  let bits := x.toBits.toNat
  let sign := if bits / hiddenBit < 2048 then "" else "-"
  let field := bits / hiddenBit % 2048
  let fraction := bits % hiddenBit
  if field = 0 ∧ fraction = 0 then sign ++ "0.0"
  else if field = 0 then sign ++ (Rounding.ofBinary fraction (-1074)).shortest.text
  else sign ++ (Rounding.ofBinary (fraction + hiddenBit) ((field : Int) - 1075)).shortest.text

end MiniJava.Decimal
