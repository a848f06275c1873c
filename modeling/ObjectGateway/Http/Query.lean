import ObjectGateway.Text.Decimal
import ObjectGateway.Text.Percent
/-!
# Query parameters

The parameters that the filesystem routes understand. Each may be given once;
parameters of other names are ignored. The first fault in the order of the
query is the one reported.
-/
namespace ObjectGateway.Http

structure Query where
  op : Option String := none
  offset : Option Nat := none
  length : Option Nat := none
  limit : Option Nat := none
  target : Option String := none
deriving DecidableEq, Repr

/-- What is wrong with a query. -/
inductive QueryError
  | repeated (name : String)
  | malformed (name : String) (cause : Decimal.Malformed)
deriving DecidableEq, Repr

def QueryError.message : QueryError → String
  | repeated name => "Failed to deserialize query string: duplicate field `" ++ name ++ "`"
  | malformed name cause =>
    "Failed to deserialize query string: " ++ name ++ ": " ++ cause.message

namespace Query

/-- A parameter that has no value yet. -/
def once {α : Type} (name : String) (current : Option α) : Except QueryError Unit :=
  if current.isSome then .error (.repeated name) else .ok ()

def number (name value : String) : Except QueryError (Option Nat) :=
  match Decimal.natUpTo Decimal.maxUInt64 value with
  | .ok n => .ok (some n)
  | .error cause => .error (.malformed name cause)

/-- Take in one parameter. -/
def set (q : Query) (pair : String × String) : Except QueryError Query := do
  let (name, value) := pair
  if name = "op" then
    once name q.op
    return { q with op := some value }
  else if name = "offset" then
    once name q.offset
    return { q with offset := ← number name value }
  else if name = "length" then
    once name q.length
    return { q with length := ← number name value }
  else if name = "limit" then
    once name q.limit
    return { q with limit := ← number name value }
  else if name = "target" then
    once name q.target
    return { q with target := some value }
  else return q

/-- The parameters of a query text. -/
def parse (query : List Char) : Except QueryError Query :=
  (Percent.queryPairs query).foldlM set {}

end Query
end ObjectGateway.Http
