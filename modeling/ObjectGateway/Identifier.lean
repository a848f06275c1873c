import ObjectGateway.Text.Hex
import ObjectGateway.Text.LetterCase
import ObjectGateway.Text.Segments
/-!
# Identifiers

Buckets, objects and owners are named by 128-bit keys that the store hands out.
A key is written as 32 lowercase digits in five groups, and read in any of four
forms: the groups, the bare digits, and the groups between braces or behind
`urn:uuid:`. Letters may be of either case when a key is read. What kind of
thing a key names is part of its type.
-/
namespace ObjectGateway

/-- What an identifier names. -/
inductive IdKind
  | bucket
  | object
  | owner
deriving DecidableEq, Repr

/-- A 128-bit key. -/
structure Id (kind : IdKind) where
  bits : BitVec 128
deriving DecidableEq

abbrev BucketId := Id .bucket
abbrev ObjectId := Id .object
abbrev OwnerId := Id .owner

namespace Id

variable {kind : IdKind}

/-- The key of which every bit is zero. -/
def nil : Id kind := ⟨0⟩

instance : Inhabited (Id kind) := ⟨nil⟩

def isNil (id : Id kind) : Bool := id.bits == 0

/-! ## Text -/

/-- The digits of a key with hyphens after the 8th, 12th, 16th and 20th. -/
def group (digits : List Char) : List Char :=
  digits.take 8 ++ '-' :: (digits.drop 8).take 4 ++ '-' :: (digits.drop 12).take 4 ++
    '-' :: (digits.drop 16).take 4 ++ '-' :: digits.drop 20

/-- The digits of a grouped text, if its groups are of the right lengths. -/
def ungroup? (cs : List Char) : Option (List Char) :=
  match Segments.split '-' cs with
  | [a, b, c, d, e] =>
    if a.length = 8 ∧ b.length = 4 ∧ c.length = 4 ∧ d.length = 4 ∧ e.length = 12 then
      some (a ++ b ++ c ++ d ++ e)
    else none
  | _ => none

def chars (id : Id kind) : List Char :=
  group (Hex.ofNat 32 id.bits.toNat)

/-- The one text a key is written as. -/
def text (id : Id kind) : String :=
  String.ofList id.chars

/-- The digits of a key in any of its four forms. The fourth may change the case
of the digits, which does not change the key. -/
def digits? (cs : List Char) : Option (List Char) :=
  if cs.length = 32 then some cs
  else if cs.length = 36 then ungroup? cs
  else if cs.length = 38 then
    match cs with
    | '\x7b' :: rest => if rest.getLast? = some '\x7d' then ungroup? rest.dropLast else none
    | _ => none
  else if cs.length = 45 then
    (Segments.after? "urn:uuid:".toList (cs.map LetterCase.lowerChar)).bind ungroup?
  else none

/-- The key that a text names. -/
def parse? (text : String) : Option (Id kind) :=
  (digits? text.toList).bind fun digits =>
    (Hex.toNat? digits).map fun n => ⟨BitVec.ofNat 128 n⟩

end Id

/-! ## Fresh identifiers -/

/-- A supply of fresh keys: the `n`th key drawn is `nth n`. -/
structure IdSupply where
  nth : Nat → BitVec 128
  drawn : Nat := 0

/-- The next key, and the supply without it. -/
def IdSupply.draw (s : IdSupply) (kind : IdKind) : Id kind × IdSupply :=
  (⟨s.nth s.drawn⟩, { s with drawn := s.drawn + 1 })

end ObjectGateway
