import ObjectGateway.Binary64
/-!
# Shortest decimals

The text of a binary floating-point number: the fewest decimal digits from which
the same number is read back, and among those the nearest ones.
-/
namespace ObjectGateway.Binary64

/-- The value and the two ends of the interval of the reals that are rounded to
a number, over one denominator. The ends belong to it for an even significand. -/
structure Interval where
  value : Nat
  low : Nat
  high : Nat
  denominator : Nat
  closed : Bool

/-- The gap below a power of two is half as wide as the gap above it. -/
def interval (x : Binary64) : Interval :=
  let unit := 1 <<< x.exponent.toNat
  let narrow := x.significand = significandBound / 2 ∧ leastExponent < x.exponent
  let value := 4 * x.significand * unit
  { value
    low := value - (if narrow then unit else 2 * unit)
    high := value + 2 * unit
    denominator := 4 <<< (-x.exponent).toNat
    closed := x.significand % 2 == 0 }

/-- Whether `d · 10^e` lies in the interval. -/
def Interval.contains (i : Interval) (d : Nat) (e : Int) : Bool :=
  let up := Nat.pow 10 (-e).toNat
  let point := d * Nat.pow 10 e.toNat * i.denominator
  if i.closed then i.low * up ≤ point && point ≤ i.high * up
  else i.low * up < point && point < i.high * up

/-- Whether the value is below `10^e`. -/
def Interval.isBelowTenTo (i : Interval) (e : Int) : Bool :=
  i.value * Nat.pow 10 (-e).toNat < i.denominator * Nat.pow 10 e.toNat

/-- The first `e` from `start` on for which the value is below `10^e`; the bound
is the number of steps that may still be taken. -/
def Interval.scaleFrom (i : Interval) (start : Int) : (bound : Nat) → Int
  | 0 => start
  | bound + 1 => if i.isBelowTenTo start then start else i.scaleFrom (start + 1) bound

/-- The number of digits before the point; zero or less for a number that starts
with zeros behind the point. The binary logarithm gives a start from which three
steps suffice. -/
def Interval.scale (i : Interval) : Int :=
  let bits : Int := i.value.log2 - i.denominator.log2 - 1
  i.scaleFrom ((bits * 30103).fdiv 100000) 4

/-- The decimal `digits · 10^exponent`. -/
structure Decimal where
  digits : Nat
  exponent : Int
deriving DecidableEq, Repr

/-- The neighbour of the value among the multiples of `10^e` that is read back
as the same number: of two the nearer, at a tie the even one. -/
def Interval.onGrid? (i : Interval) (e : Int) : Option Decimal :=
  let num := i.value * Nat.pow 10 (-e).toNat
  let den := i.denominator * Nat.pow 10 e.toNat
  let down := num / den
  match i.contains down e, i.contains (down + 1) e with
  | true, true => some ⟨roundQuotient num den, e⟩
  | true, false => some ⟨down, e⟩
  | false, true => some ⟨down + 1, e⟩
  | false, false => none

/-- Search grids of more and more digits, for which `more` is the number of
grids left. Seventeen digits always suffice. -/
def Interval.search (i : Interval) (e : Int) : (more : Nat) → Decimal
  | 0 => ⟨i.value * Nat.pow 10 (-e).toNat / (i.denominator * Nat.pow 10 e.toNat), e⟩
  | more + 1 => (i.onGrid? e).getD (i.search (e - 1) more)

/-- The shortest decimal of a number other than zero. -/
def shortest (x : Binary64) : Decimal :=
  x.interval.search (x.interval.scale - 1) 17

/-- The text of a number. It is positional while the first digit stands at most
sixteen places before and five behind the point, and has one digit on either
side of the point at least; otherwise a signed exponent follows one digit. -/
def text (x : Binary64) : String :=
  if x.isZero then "0.0"
  else
    let decimal := x.shortest
    let all := Nat.toDigits 10 decimal.digits
    let point : Int := all.length + decimal.exponent
    let digits := (all.reverse.dropWhile (· == '0')).reverse
    let size : Int := digits.length
    if size ≤ point ∧ point ≤ 16 then
      String.ofList (digits ++ List.replicate (point - size).toNat '0') ++ ".0"
    else if 0 < point ∧ point ≤ 16 then
      String.ofList (digits.take point.toNat ++ '.' :: digits.drop point.toNat)
    else if -5 < point ∧ point ≤ 0 then
      "0." ++ String.ofList (List.replicate (-point).toNat '0' ++ digits)
    else
      let tail := digits.drop 1
      let sign := if point ≤ 0 then "" else "+"
      String.ofList (digits.take 1 ++ if tail.isEmpty then [] else '.' :: tail) ++
        "e" ++ sign ++ toString (point - 1)

end ObjectGateway.Binary64
