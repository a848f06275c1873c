/-!
# Hexadecimal text

Fixed-width lowercase digits of a number, and the value of a run of digits in
either case.
-/
namespace ObjectGateway.Hex

/-- The `width` lowest base-16 digits of `n`, most significant first. -/
def ofNat : (width : Nat) → (n : Nat) → List Char
  | 0, _ => []
  | width + 1, n => ofNat width (n / 16) ++ [Nat.digitChar (n % 16)]

/-- The value of one digit, in either case. -/
def digit? (c : Char) : Option Nat :=
  if '0' ≤ c ∧ c ≤ '9' then some (c.toNat - '0'.toNat)
  else if 'a' ≤ c ∧ c ≤ 'f' then some (c.toNat - 'a'.toNat + 10)
  else if 'A' ≤ c ∧ c ≤ 'F' then some (c.toNat - 'A'.toNat + 10)
  else none

/-- The value of a run of digits read on top of `acc`, or nothing when a
character is no digit. -/
def readFrom (acc : Nat) : List Char → Option Nat
  | [] => some acc
  | c :: cs => (digit? c).bind fun d => readFrom (16 * acc + d) cs

/-- The value of a run of digits. -/
def toNat? (cs : List Char) : Option Nat :=
  readFrom 0 cs

/-- Two digits for each byte. -/
def ofBytes (bytes : List UInt8) : List Char :=
  bytes.flatMap fun b => ofNat 2 b.toNat

end ObjectGateway.Hex
