import ObjectGateway.Json.Text
/-!
# JSON documents

The documents that answers are made of, with the members of an object in a
fixed order, and their text without blanks.
-/
namespace ObjectGateway.Json

inductive Value
  | null
  | bool (b : Bool)
  | number (n : Int)
  | text (s : String)
  | list (items : List Value)
  | object (members : List (String × Value))

namespace Value

/-- An optional text, `null` when absent. -/
def optionalText : Option String → Value
  | none => null
  | some s => text s

mutual

/-- The text of a document. -/
def render : Value → List Char
  | null => "null".toList
  | bool true => "true".toList
  | bool false => "false".toList
  | number n => (toString n).toList
  | text s => string s
  | list items => bracketed '[' ']' (renderAll items)
  | object members => bracketed '\x7b' '\x7d' (renderMembers members)

def renderAll : List Value → List (List Char)
  | [] => []
  | v :: vs => v.render :: renderAll vs

def renderMembers : List (String × Value) → List (List Char)
  | [] => []
  | (key, v) :: rest => (string key ++ ':' :: v.render) :: renderMembers rest

end

end Value
end ObjectGateway.Json
