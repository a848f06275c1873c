import ObjectGateway.Text.Blank
import ObjectGateway.Text.LetterCase
/-!
# Definitions in a schema

The statement that made a table or an index, as far as it matters: what it is
that is defined, its name, and for a table the names of its columns.
-/
namespace ObjectGateway.Durable

/-- A piece of a statement. -/
inductive Token
  /-- A name or a key word as it stands, or a number. -/
  | word (text : String)
  /-- A name in quotes, or a text. -/
  | quoted (text : String)
  | mark (c : Char)
deriving DecidableEq, Repr

namespace Token

def isWordChar (c : Char) : Bool :=
  c.isAlphanum || c == '_' || c == '$' || c.toNat ≥ 0x80

def isSpace (c : Char) : Bool :=
  c == ' ' || ('\x09' ≤ c && c ≤ '\x0d')

/-- What stands before the closing quote, where a doubled quote stands for one, and
what follows it. -/
def quotation (close : Char) : List Char → List Char × List Char
  | [] => ([], [])
  | [c] => if c = close then ([], []) else ([c], [])
  | c :: d :: rest =>
    if c = close then
      if d = close && close != ']' then
        let (text, rest) := quotation close rest
        (close :: text, rest)
      else ([], d :: rest)
    else
      let (text, rest) := quotation close (d :: rest)
      (c :: text, rest)

/-- What follows a remark between slashes and asterisks. -/
def afterRemark : List Char → List Char
  | '*' :: '/' :: rest => rest
  | _ :: rest => afterRemark rest
  | [] => []

/-- The closing quote that belongs to an opening one. -/
def closing? (c : Char) : Option Char :=
  if c = '"' ∨ c = '\x27' ∨ c = '\x60' then some c else if c = '[' then some ']' else none

/-- The tokens of a text. The bound is the number of characters that are looked
at. -/
def scan : (bound : Nat) → List Char → List Token
  | 0, _ | _, [] => []
  | bound + 1, '-' :: '-' :: rest => scan bound (rest.dropWhile (· != '\n'))
  | bound + 1, '/' :: '*' :: rest => scan bound (afterRemark rest)
  | bound + 1, c :: rest =>
    if isSpace c then scan bound rest
    else
      match closing? c with
      | some close =>
        let (text, rest) := quotation close rest
        quoted (String.ofList text) :: scan bound rest
      | none =>
        if isWordChar c then
          word (String.ofList (c :: rest.takeWhile isWordChar)) ::
            scan bound (rest.dropWhile isWordChar)
        else mark c :: scan bound rest

def ofText (text : String) : List Token := scan text.length text.toList

/-- Whether a token is a key word. -/
def isKey (key : String) : Token → Bool
  | word text => LetterCase.same text key
  | _ => false

/-- The name that a token is. -/
def name? : Token → Option String
  | word text | quoted text => some text
  | mark _ => none

end Token

/-- What a statement defines. -/
structure Definition where
  /-- What kind of thing it is, by its key word. -/
  kind : String
  /-- Whether rows are kept by somebody else. -/
  virtual : Bool := false
  name : String
  columns : List String := []
deriving DecidableEq, Repr

namespace Definition

/-- The words that begin a constraint of a table. -/
def constraintWords : List String := ["constraint", "primary", "unique", "check", "foreign"]

/-- What follows the comma behind a column, at the given depth of brackets. Nothing
follows when the list ends first. -/
def afterComma : (depth : Nat) → List Token → List Token
  | _, [] => []
  | depth, .mark c :: rest =>
    if c = '(' then afterComma (depth + 1) rest
    else if c = ')' then if depth = 0 then [] else afterComma (depth - 1) rest
    else if c = ',' && depth = 0 then rest
    else afterComma depth rest
  | depth, _ :: rest => afterComma depth rest

/-- The names of the columns in a list of columns and constraints. The bound is
their number. -/
def columnNames : (bound : Nat) → List Token → List String
  | 0, _ | _, [] => []
  | bound + 1, t :: rest =>
    if constraintWords.any fun key => t.isKey key then []
    else
      match t.name? with
      | none => []
      | some name => name :: columnNames bound (afterComma 0 rest)

/-- What follows a key word, if it is there. -/
def skip (key : String) : List Token → List Token
  | t :: rest => if t.isKey key then rest else t :: rest
  | [] => []

/-- The name in front, the name of a schema before it left out, and the rest. -/
def nameOf? : List Token → Option (String × List Token)
  | first :: .mark '.' :: second :: rest => do
    let _ ← first.name?
    return (← second.name?, rest)
  | first :: rest => do return (← first.name?, rest)
  | [] => none

/-- The definition that a statement is. -/
def parse? (statement : String) : Option Definition := do
  let tokens := skip "create" (Token.ofText statement)
  let tokens := skip "unique" (skip "temporary" (skip "temp" tokens))
  let virtual := tokens.head?.any (Token.isKey "virtual")
  let (kind, tokens) ←
    match skip "virtual" tokens with
    | .word kind :: rest => some (LetterCase.lower kind, rest)
    | _ => none
  let (name, tokens) ← nameOf? (skip "exists" (skip "not" (skip "if" tokens)))
  let columns :=
    match tokens with
    | .mark '(' :: rest => if kind == "table" && !virtual then columnNames rest.length rest else []
    | _ => []
  return { kind, virtual, name, columns }

end Definition
end ObjectGateway.Durable
