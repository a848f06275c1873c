import ObjectGateway.Durable.Document.Reader
import ObjectGateway.Fault.System
/-!
# Searching JSON documents

A search goes through the parts of a stored document one by one and takes the
first two items of each. What it takes out of a document is a text of its own: a
string without its quotes and escapes, a list or an object written out again. To
look inside a part, its text is read as a document once more.
-/
namespace ObjectGateway.Durable.Document

/-- The parts that a search goes through one by one. -/
def parts : Document → List Document
  | list items => items
  | object members => members.map Prod.snd
  | d => [d]

/-- What a document is outside of JSON: a text, or a value that equals no text. A
number without a value is none of both. -/
def outside : Document → Except DatabaseError (Option (List Symbol))
  | text body => .ok (some (unescape body))
  | list items => .ok (some (list items).render)
  | object members => .ok (some (object members).render)
  | number n => if n.hasValue then .ok none else .error .malformedJson
  | bool _ | null => .ok none

/-- Whether an item of a list is there and equals a text. -/
def itemIs (index : Nat) (wanted : String) (d : Document) : Except DatabaseError Bool := do
  match d with
  | list items =>
    match items[index]? with
    | some item => return (← item.outside) == some (Symbol.ofText wanted)
    | none => return false
  | _ => return false

/-- Whether a part is a list that begins with `key` and `value`. -/
def isPair (key value : String) (part : Document) : Except DatabaseError Bool := do
  match ← part.outside with
  | none => return false
  | some written =>
    match parse? written with
    | none => throw .malformedJson
    | some inner => if ← inner.itemIs 0 key then inner.itemIs 1 value else return false

/-- Whether some part is the pair, the parts being tried in order. -/
def anyPair (key value : String) : List Document → Except DatabaseError Bool
  | [] => return false
  | part :: rest => do if ← isPair key value part then return true else anyPair key value rest

/-- Whether an attribute text holds a pair. -/
def hasPair (key value : String) (raw : String) : Except DatabaseError Bool :=
  match parse? (Symbol.ofText raw) with
  | some d => anyPair key value d.parts
  | none => .error .malformedJson

end ObjectGateway.Durable.Document
