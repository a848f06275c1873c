/-!
# Byte strings

Payloads are lists of bytes, cut by position and joined in order.
-/
namespace ObjectGateway

abbrev Bytes := List UInt8

namespace Bytes

/-- The UTF-8 encoding of a text. -/
def ofText (text : String) : Bytes :=
  text.toUTF8.toList

/-- The text a byte string encodes, if it is valid UTF-8. -/
def text? (bytes : Bytes) : Option String :=
  String.fromUTF8? ⟨bytes.toArray⟩

/-- The bytes from `offset` on, `length` of them as far as there are. -/
def slice (bytes : Bytes) (offset length : Nat) : Bytes :=
  (bytes.drop offset).take length

/-- Cut into pieces of `size` bytes, the last one possibly shorter. The bound is
the number of pieces that may be cut. -/
def cutFrom (size : Nat) : (bound : Nat) → Bytes → List Bytes
  | 0, _ => []
  | _ + 1, [] => []
  | bound + 1, bytes => bytes.take size :: cutFrom size bound (bytes.drop size)

/-- The pieces of `size` bytes (at least one) that a byte string consists of. -/
def pieces (size : Nat) (bytes : Bytes) : List Bytes :=
  cutFrom (max size 1) bytes.length bytes

end Bytes
end ObjectGateway
