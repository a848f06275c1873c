/-!
# Decimal integers with a bound

Reading stops at the first character that decides the outcome: one that is no
digit, or one that carries the value past the bound. A sign alone is no number,
and the empty text is told apart from a malformed one.
-/
namespace ObjectGateway.Decimal

/-- Why a text is not an integer of the wanted range. -/
inductive Malformed
  | empty
  | invalidDigit
  | tooLarge
  | tooSmall
deriving DecidableEq, Repr

def Malformed.message : Malformed → String
  | .empty => "cannot parse integer from empty string"
  | .invalidDigit => "invalid digit found in string"
  | .tooLarge => "number too large to fit in target type"
  | .tooSmall => "number too small to fit in target type"

def digit? (c : Char) : Option Nat :=
  if '0' ≤ c ∧ c ≤ '9' then some (c.toNat - '0'.toNat) else none

/-- Read digits on top of `acc`; `past` is the failure reported once the value
exceeds `max`. -/
def readFrom (max : Nat) (past : Malformed) (acc : Nat) : List Char → Except Malformed Nat
  | [] => .ok acc
  | c :: cs =>
    match digit? c with
    | none => .error .invalidDigit
    | some d =>
      if 10 * acc + d > max then .error past else readFrom max past (10 * acc + d) cs

/-- An unsigned integer of at most `max`: digits behind an optional `+`. -/
def natUpTo (max : Nat) (text : String) : Except Malformed Nat :=
  match text.toList with
  | [] => .error .empty
  | ['+'] | ['-'] => .error .invalidDigit
  | '+' :: cs => readFrom max .tooLarge 0 cs
  | cs => readFrom max .tooLarge 0 cs

def maxUInt16 : Nat := 0xFFFF

def maxUInt64 : Nat := 0xFFFFFFFFFFFFFFFF

def maxInt64 : Nat := 0x7FFFFFFFFFFFFFFF

/-- A signed integer of 64 bits: digits behind an optional sign. There is one more
negative number than there are positive ones. -/
def int64 (text : String) : Except Malformed Int :=
  match text.toList with
  | [] => .error .empty
  | ['+'] | ['-'] => .error .invalidDigit
  | '+' :: cs => (readFrom maxInt64 .tooLarge 0 cs).map Int.ofNat
  | '-' :: cs => (readFrom (maxInt64 + 1) .tooSmall 0 cs).map fun n => -(n : Int)
  | cs => (readFrom maxInt64 .tooLarge 0 cs).map Int.ofNat

/-- At least `width` digits, with zeros in front. -/
def padded (width n : Nat) : String :=
  let digits := Nat.toDigits 10 n
  String.ofList (List.replicate (width - digits.length) '0' ++ digits)

end ObjectGateway.Decimal
