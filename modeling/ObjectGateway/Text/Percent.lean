import ObjectGateway.Text.Hex
import ObjectGateway.Text.Segments
import ObjectGateway.Text.Utf8
/-!
# Percent encoding

A percent sign and two hexadecimal digits stand for a byte. A percent sign that
two digits do not follow stands for itself.
-/
namespace ObjectGateway.Percent

/-- The bytes that a percent-encoded byte string stands for. -/
def decode : Bytes → Bytes
  | 0x25 :: hi :: lo :: rest =>
    match Hex.digit? (Char.ofNat hi.toNat), Hex.digit? (Char.ofNat lo.toNat) with
    | some h, some l => UInt8.ofNat (16 * h + l) :: decode rest
    | _, _ => 0x25 :: decode (hi :: lo :: rest)
  | b :: rest => b :: decode rest
  | [] => []

/-- The text that an encoded text stands for, if that is valid UTF-8. -/
def text? (raw : List Char) : Option String :=
  Bytes.text? (decode (Bytes.ofText (String.ofList raw)))

/-- A name or value of a query: a plus sign stands for a space, and what is not
valid UTF-8 is replaced. -/
def queryText (raw : List Char) : String :=
  let spaced := raw.map fun c => if c = '+' then ' ' else c
  Utf8.decodeLenient (decode (Bytes.ofText (String.ofList spaced)))

/-- The names and values of a query in order. Empty parts are skipped, and a part
without an equals sign has an empty value. -/
def queryPairs (query : List Char) : List (String × String) :=
  ((Segments.split '&' query).filter (!·.isEmpty)).map fun part =>
    let (name, value) := Segments.cut '=' part
    (queryText name, queryText (value.getD []))

end ObjectGateway.Percent
