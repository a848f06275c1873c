/-!
# Binary floating point

The finite numbers of zero or more that 64 bits of binary floating point can
hold, with the operations that reading a decimal needs. Every operation computes
the exact result and rounds it once, to the nearest number that can be held and
to the even one of two that are equally near.
-/
namespace ObjectGateway

/-- The number `significand · 2^exponent`. The significand is below `2^53`, and
at least `2^52` except at the least exponent. -/
structure Binary64 where
  significand : Nat
  exponent : Int
deriving DecidableEq, Repr

namespace Binary64

/-- The exponent of the numbers next to zero. -/
def leastExponent : Int := -1074

/-- The exponent of the largest numbers. -/
def greatestExponent : Int := 971

/-- The first significand that is too large, `2^53`. -/
def significandBound : Nat := 0x20000000000000

def zero : Binary64 := ⟨0, leastExponent⟩

def isZero (x : Binary64) : Bool := x.significand == 0

/-- A quotient rounded to the nearest whole number, a half to the even one. -/
def roundQuotient (num den : Nat) : Nat :=
  let q := num / den
  let r := num % den
  if 2 * r < den then q
  else if den < 2 * r then q + 1
  else q + q % 2

/-- The quotient `num / (den · 2^e)` as numerator and denominator. -/
def descale (num den : Nat) (e : Int) : Nat × Nat :=
  (num <<< (-e).toNat, den <<< e.toNat)

/-- The number nearest to `num / den`; nothing if that is past the largest one. -/
def ofRatio (num den : Nat) : Option Binary64 :=
  if num = 0 then some zero
  else
    let guess : Int := num.log2 - den.log2 - 53
    let (n, d) := descale num den guess
    let exponent := max leastExponent (if significandBound ≤ n / d then guess + 1 else guess)
    let (n, d) := descale num den exponent
    let significand := roundQuotient n d
    let x : Binary64 :=
      if significand = significandBound then ⟨significand / 2, exponent + 1⟩
      else ⟨significand, exponent⟩
    if greatestExponent < x.exponent then none else some x

/-- The number as a quotient of whole numbers. -/
def ratio (x : Binary64) : Nat × Nat := descale x.significand 1 (-x.exponent)

def mul (x y : Binary64) : Option Binary64 :=
  ofRatio (x.ratio.1 * y.ratio.1) (x.ratio.2 * y.ratio.2)

def div (x y : Binary64) : Option Binary64 :=
  ofRatio (x.ratio.1 * y.ratio.2) (x.ratio.2 * y.ratio.1)

/-- The number nearest to a power of ten. -/
def tenTo (e : Nat) : Option Binary64 := ofRatio (Nat.pow 10 e) 1

/-- The largest power of ten that is no larger than every number. -/
def greatestTen : Nat := 308

/-- Divide by the greatest power of ten a number of times, or until zero. -/
def divideByGreatestTen : (times : Nat) → Binary64 → Option Binary64
  | 0, x => some x
  | times + 1, x =>
    if x.isZero then some x
    else ((tenTo greatestTen).bind x.div).bind (divideByGreatestTen times)

/-- Divide by a power of ten, in steps of at most the greatest one. -/
def divideByTenTo (x : Binary64) (e : Nat) : Option Binary64 := do
  let times := (e - 1) / greatestTen
  let x ← divideByGreatestTen times x
  if x.isZero then some x else x.div (← tenTo (e - greatestTen * times))

/-- The number for `n · 10^e`, in two steps that each round: first the digits
`n`, then the power of ten. Nothing if it is past the largest number. -/
def ofDecimal (n : Nat) (e : Int) : Option Binary64 := do
  let x ← ofRatio n 1
  if e < 0 then x.divideByTenTo e.natAbs
  else if e.toNat ≤ greatestTen then x.mul (← tenTo e.toNat)
  else if x.isZero then some x
  else none

end Binary64
end ObjectGateway
