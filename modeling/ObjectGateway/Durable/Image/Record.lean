import ObjectGateway.Text.Utf8
/-!
# Records

The row of a table as it is stored in a file: a head that gives the form of
every column, and the columns one behind the other. Numbers in the head have
variable length: seven bits a byte, eight in the ninth, the top bit saying that
more follows.
-/
namespace ObjectGateway.Durable

/-- A stored value. -/
inductive Stored
  | null
  | integer (n : Nat)
  | real
  | bytes (content : Bytes)
deriving DecidableEq

namespace Stored

/-- The number that bytes stand for, the first one counting most. -/
def number (bytes : Bytes) : Nat :=
  bytes.foldl (fun n b => 256 * n + b.toNat) 0

/-- A number of variable length in front, and the bytes behind it. Up to `more`
bytes may say that another one follows. -/
def varintFrom : (more value : Nat) → Bytes → Option (Nat × Bytes)
  | _, _, [] => none
  | 0, value, b :: rest => some (256 * value + b.toNat, rest)
  | more + 1, value, b :: rest =>
    if b.toNat < 128 then some (128 * value + b.toNat, rest)
    else varintFrom more (128 * value + (b.toNat - 128)) rest

def varint (bytes : Bytes) : Option (Nat × Bytes) := varintFrom 8 0 bytes

/-- The number of bytes that a column of a form takes. -/
def width : (form : Nat) → Nat
  | 0 | 8 | 9 | 10 | 11 => 0
  | 1 => 1
  | 2 => 2
  | 3 => 3
  | 4 => 4
  | 5 => 6
  | 6 | 7 => 8
  | form => (form - 12) / 2

/-- The value of a column from its form and its bytes. -/
def ofForm (form : Nat) (bytes : Bytes) : Stored :=
  if form = 0 ∨ form = 10 ∨ form = 11 then null
  else if form = 7 then real
  else if form = 8 then integer 0
  else if form = 9 then integer 1
  else if form < 12 then integer (number bytes)
  else .bytes bytes

/-- The forms in a head. The bound is their number. -/
def forms : (bound : Nat) → Bytes → Option (List Nat)
  | _, [] => some []
  | 0, _ => none
  | bound + 1, head => do
    let (form, rest) ← varint head
    return form :: (← forms bound rest)

/-- The columns of the given forms. -/
def columns : (forms : List Nat) → Bytes → Option (List Stored)
  | [], _ => some []
  | form :: forms, content =>
    if content.length < width form then none
    else do
      let (this, further) := content.splitAt (width form)
      return ofForm form this :: (← columns forms further)

/-- The values of a record. One without a head has none. -/
def ofRecord? (record : Bytes) : Option (List Stored) :=
  match varint record with
  | none => if record.isEmpty then some [] else none
  | some (size, rest) =>
    let before := record.length - rest.length
    if size ≤ before then some []
    else if record.length < size then none
    else do
      let head := rest.take (size - before)
      columns (← forms head.length head) (record.drop size)

end Stored
end ObjectGateway.Durable
