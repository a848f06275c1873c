import ObjectGateway.Json.Text
import ObjectGateway.Text.Blank
import ObjectGateway.Text.Decimal
import ObjectGateway.Time.Calendar
/-!
# Attributes

Ordered pairs of texts attached to buckets and objects. A key may occur more
than once; the last occurrence is the one that counts. Display names and the
time of creation are attributes under well-known keys.
-/
namespace ObjectGateway

structure Attributes where
  pairs : List (String × String) := []
deriving DecidableEq, Repr

namespace Attributes

/-- Key of an object's display name. -/
def fileNameKey : String := "FileName"

/-- Key of the time of creation, in decimal Unix seconds. -/
def timestampKey : String := "Timestamp"

/-- Key of an object's logical path, which is carried and never used to nest. -/
def filePathKey : String := "FilePath"

/-- Key of a bucket's display name. -/
def nameKey : String := "Name"

/-- The value of the last pair under `key`. -/
def get? (a : Attributes) (key : String) : Option String :=
  (a.pairs.reverse.find? fun pair => pair.1 == key).map Prod.snd

/-- Append a pair. -/
def push (a : Attributes) (key value : String) : Attributes :=
  ⟨a.pairs ++ [(key, value)]⟩

/-- A moment written as decimal Unix seconds, blanks around it allowed. Zero
and moments outside the calendar count as absent. -/
def moment? (raw : String) : Option Int :=
  match Decimal.int64 (String.ofList (Blank.trim raw.toList)) with
  | .error _ => none
  | .ok seconds =>
    if seconds = 0 then none
    else if Calendar.firstSecond ≤ seconds ∧ seconds ≤ Calendar.lastSecond then some seconds
    else none

/-- The time of creation, `now` when no usable one is recorded. -/
def created (a : Attributes) (now : Int) : Int :=
  ((a.get? timestampKey).bind moment?).getD now

/-- The pairs as the text they are stored under: a JSON array of two-element
arrays. -/
def encode (a : Attributes) : List Char :=
  Json.bracketed '[' ']' <| a.pairs.map fun (key, value) =>
    Json.bracketed '[' ']' [Json.string key, Json.string value]

/-- What a new object or bucket is stored with: its display name under `key`
and the time `now`. -/
def named (key name : String) (now : Int) : Attributes :=
  ⟨[(key, name), (timestampKey, toString now)]⟩

end Attributes
end ObjectGateway
