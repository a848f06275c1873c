import ObjectGateway.Durable.Image
import ObjectGateway.Durable.Schema.Definition
import ObjectGateway.Text.Decimal
/-!
# Schemas

What a database holds: tables and views by their names, and indexes. The tables
of the service are made by four statements that leave alone what is there. Names
do not differ by the case of their letters.
-/
namespace ObjectGateway.Durable

/-- What rows are read from. -/
inductive Relation
  /-- A table of its own, by its columns and its root page, if that is in a file. -/
  | table (columns : List String) (root : Option Nat)
  | view
  /-- A table whose rows somebody else keeps. -/
  | virtual
deriving DecidableEq, Repr

structure Schema where
  relations : List (String × Relation) := []
  indexes : List String := []
deriving DecidableEq, Repr

namespace Schema

def find? (s : Schema) (name : String) : Option Relation :=
  (s.relations.find? fun entry => LetterCase.same entry.1 name).map Prod.snd

def hasIndex (s : Schema) (name : String) : Bool :=
  s.indexes.any (LetterCase.same name)

def addRelation (s : Schema) (name : String) (r : Relation) : Schema :=
  { s with relations := s.relations ++ [(name, r)] }

def addIndex (s : Schema) (name : String) : Schema :=
  { s with indexes := s.indexes ++ [name] }

/-! ## Reading -/

/-- The text that 16-bit units stand for. A half of a pair that stands alone is
replaced. -/
def ofUnits : List Nat → List Char
  | [] => []
  | [u] => [if 0xD800 ≤ u ∧ u < 0xE000 then Utf8.replacement else Char.ofNat u]
  | u :: v :: rest =>
    if 0xD800 ≤ u ∧ u < 0xDC00 ∧ 0xDC00 ≤ v ∧ v < 0xE000 then
      Char.ofNat (0x10000 + 1024 * (u - 0xD800) + (v - 0xDC00)) :: ofUnits rest
    else
      (if 0xD800 ≤ u ∧ u < 0xE000 then Utf8.replacement else Char.ofNat u) :: ofUnits (v :: rest)

/-- The 16-bit units of a byte string. -/
def units (bigEndian : Bool) : Bytes → List Nat
  | a :: b :: rest =>
    (if bigEndian then 256 * a.toNat + b.toNat else 256 * b.toNat + a.toNat) ::
      units bigEndian rest
  | _ => []

/-- The text of stored bytes, which a zero ends. -/
def decode (e : Encoding) (bytes : Bytes) : String :=
  let chars :=
    match e with
    | .utf8 => (Utf8.decodeLenient bytes).toList
    | .utf16 bigEndian => ofUnits (units bigEndian bytes)
  String.ofList (chars.takeWhile (· != '\x00'))

/-- A stored value as a text, if it is any. -/
def textOf (e : Encoding) : Stored → Option String
  | .null => none
  | .integer n => some (toString n)
  | .real => some ""
  | .bytes content => some (decode e content)

/-- What is remarked on an entry that needs a table that is not there. -/
def missingTable (table : String) : String := "no such table: main." ++ table

/-- Take in an entry that was made by a statement. -/
def addDefined (s : Schema) (kind name table statement : String) (root : Nat) :
    Except DatabaseError Schema :=
  match Definition.parse? statement with
  | none => .error (.malformedSchema name "")
  | some d =>
    if !LetterCase.same d.kind kind || !LetterCase.same d.name name then
      .error (.malformedSchema name "")
    else if d.kind == "index" then
      if (s.find? table).isNone then .error (.malformedSchema name (missingTable table))
      else .ok (s.addIndex name)
    else if d.kind == "view" then .ok (s.addRelation name .view)
    else if d.kind == "table" then
      .ok (s.addRelation name (if d.virtual then .virtual else .table d.columns (some root)))
    else .ok s

/-- The root page that an entry names, if the database has it. -/
def rootOf (i : Image) : Stored → Option Nat
  | .integer n => if n ≤ i.pages then some n else none
  | _ => none

/-- Take in one row of the schema's table. An index without a statement belongs to
a constraint of a table. -/
def addRow (i : Image) (s : Schema) (row : List Stored) : Except DatabaseError Schema :=
  let column (k : Nat) := textOf i.encoding (row.getD k .null)
  let label := (column 1).getD "?"
  let statement := (column 4).getD ""
  let table := (column 2).getD ""
  if (column 3).isNone then .error (.malformedSchema label "")
  else if LetterCase.same (String.ofList (statement.toList.take 2)) "cr" then
    match rootOf i (row.getD 3 .null) with
    | none => .error (.malformedSchema label "invalid rootpage")
    | some root => s.addDefined ((column 0).getD "") label table statement root
  else if (column 1).isNone || !statement.isEmpty then .error (.malformedSchema label "")
  else if (s.find? table).isNone then .error (.malformedSchema label "orphan index")
  else
    match rootOf i (row.getD 3 .null) with
    | none | some 0 | some 1 => .error (.malformedSchema label "invalid rootpage")
    | some _ => .ok (s.addIndex label)

/-- The greatest form of a schema that is understood. -/
def maxForm : Nat := 4

/-- The schema in a database file. -/
def ofImage (i : Image) : Except DatabaseError Schema := do
  if i.schemaForm > maxForm then throw .unsupportedFormat
  (← i.schemaRows).foldlM (addRow i) {}

/-! ## Statements -/

/-- A statement that makes a part of a schema unless it is there. -/
inductive Statement
  | table (name : String) (columns : List String)
  | index (name table : String) (columns : List String)
deriving DecidableEq, Repr

/-- The statements that make the tables of the service. -/
def statements : List Statement :=
  [.table "containers"
      ["seq", "id", "owner_id", "policy", "basic_acl", "attributes", "created_at"],
    .index "idx_containers_owner" "containers" ["owner_id"],
    .table "objects"
      ["seq", "id", "container_id", "owner_id", "parent_id", "payload_size", "checksum",
        "attributes", "created_at"],
    .index "idx_objects_container" "objects" ["container_id", "seq"]]

/-- What a statement makes of a schema, or nothing when what it makes is there. -/
def apply (s : Schema) : Statement → Except DatabaseError (Option Schema)
  | .table name columns =>
    if (s.find? name).isSome then .ok none
    else if s.hasIndex name then .error (.indexExists name)
    else .ok (some (s.addRelation name (.table columns none)))
  | .index name table columns =>
    match s.find? table with
    | none => .error (.noSuchTable ("main." ++ table))
    | some .view => .error .viewNotIndexed
    | some .virtual => .error .virtualNotIndexed
    | some (.table present _) =>
      if (s.find? name).isSome then .error (.tableExists name)
      else if s.hasIndex name then .ok none
      else
        match columns.find? fun column => !present.any (LetterCase.same column) with
        | some column => .error (.noSuchColumn column)
        | none => .ok (some (s.addIndex name))

end Schema
end ObjectGateway.Durable
