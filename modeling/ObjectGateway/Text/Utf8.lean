import ObjectGateway.Bytes
/-!
# UTF-8

Lenient decoding never fails: every longest run of bytes that begins a character
but does not complete it becomes one replacement character. The first such run
is the fault of a byte string that is no UTF-8.
-/
namespace ObjectGateway.Utf8

def replacement : Char := Char.ofNat 0xFFFD

/-- The first byte of a character: how many bytes follow, the bounds of the next
one, and the bits it contributes itself. -/
def lead? (b : Nat) : Option (Nat × (Nat × Nat) × Nat) :=
  if b < 0x80 then some (0, (0x80, 0xBF), b)
  else if b < 0xC2 then none
  else if b < 0xE0 then some (1, (0x80, 0xBF), b - 0xC0)
  else if b = 0xE0 then some (2, (0xA0, 0xBF), 0)
  else if b = 0xED then some (2, (0x80, 0x9F), 0x0D)
  else if b < 0xF0 then some (2, (0x80, 0xBF), b - 0xE0)
  else if b = 0xF0 then some (3, (0x90, 0xBF), 0)
  else if b < 0xF4 then some (3, (0x80, 0xBF), b - 0xF0)
  else if b = 0xF4 then some (3, (0x80, 0x8F), 4)
  else none

/-- The bytes that follow a first byte: the value, if all are there, and what
follows those that fit. -/
def tail : (count : Nat) → (bounds : Nat × Nat) → (value : Nat) → Bytes → Option Nat × Bytes
  | 0, _, value, bytes => (some value, bytes)
  | _ + 1, _, _, [] => (none, [])
  | count + 1, (lo, hi), value, b :: rest =>
    if lo ≤ b.toNat ∧ b.toNat ≤ hi then
      tail count (0x80, 0xBF) (64 * value + (b.toNat - 0x80)) rest
    else (none, b :: rest)

/-- The bound is the number of characters that may be decoded. -/
def decodeFrom : (bound : Nat) → Bytes → List Char
  | 0, _ | _ + 1, [] => []
  | bound + 1, b :: rest =>
    match lead? b.toNat with
    | none => replacement :: decodeFrom bound rest
    | some (count, bounds, value) =>
      match tail count bounds value rest with
      | (some n, rest) => Char.ofNat n :: decodeFrom bound rest
      | (none, rest) => replacement :: decodeFrom bound rest

/-- The text of a byte string, whatever its bytes. -/
def decodeLenient (bytes : Bytes) : String :=
  String.ofList (decodeFrom bytes.length bytes)

/-- Where a byte string stops being UTF-8. -/
structure Fault where
  index : Nat
  /-- The number of bytes that do not fit; none when the bytes end within a
  character. -/
  length : Option Nat
deriving DecidableEq, Repr

def Fault.message (f : Fault) : String :=
  match f.length with
  | some n =>
    "invalid utf-8 sequence of " ++ toString n ++ " bytes from index " ++ toString f.index
  | none => "incomplete utf-8 byte sequence from index " ++ toString f.index

/-- The bound is the number of characters that may be read. -/
def faultFrom : (bound index : Nat) → Bytes → Option Fault
  | 0, _, _ | _ + 1, _, [] => none
  | bound + 1, index, b :: rest =>
    match lead? b.toNat with
    | none => some ⟨index, some 1⟩
    | some (count, bounds, value) =>
      match tail count bounds value rest with
      | (some _, left) => faultFrom bound (index + 1 + (rest.length - left.length)) left
      | (none, []) => some ⟨index, none⟩
      | (none, left) => some ⟨index, some (1 + (rest.length - left.length))⟩

/-- The first fault of a byte string, if it is not UTF-8. -/
def fault? (bytes : Bytes) : Option Fault :=
  faultFrom bytes.length 0 bytes

end ObjectGateway.Utf8
