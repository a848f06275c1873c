import ObjectGateway.Json.Text
/-!
# JSON documents in the database

The database looks into stored attribute texts by itself when it searches. Its
documents keep the spelling of what was read: when a list or an object is taken
out of a text, its strings and numbers come out as they were written, as far as
strict JSON allows them to be written that way.
-/
namespace ObjectGateway.Durable

/-- A character, or nothing for half a surrogate pair: an escape can write one,
but no text can hold it. -/
abbrev Symbol := Option Char

/-- The symbols of a text. -/
def Symbol.ofText (text : String) : List Symbol := text.toList.map some

/-- A number as strict JSON writes it. A whole number in hexadecimal that needs
more than 64 bits can be written, but has no value. -/
structure Numeral where
  text : List Char
  hasValue : Bool := true
deriving DecidableEq, Repr

/-- A JSON document. A string is kept as what stands between its quotes. -/
inductive Document
  | null
  | bool (b : Bool)
  | number (n : Numeral)
  | text (body : List Symbol)
  | list (items : List Document)
  | object (members : List (List Symbol × Document))

namespace Document

/-! ## Strings -/

/-- The two characters that end a line without being controls. -/
def isLineSeparator (c : Char) : Bool := c.toNat == 0x2028 || c.toNat == 0x2029

/-- The number that symbols stand for as hexadecimal digits. -/
def hexOf (digits : List Symbol) : Nat :=
  digits.foldl (fun n d => 16 * n + ((d.bind Hex.digit?).getD 0)) 0

/-- What one character or escape of a string stands for. -/
inductive Piece
  | symbol (c : Symbol)
  | code (n : Nat)
  | joint
deriving DecidableEq, Repr

/-- The character that a letter stands for behind a backslash. -/
def letterEscape (c : Char) : Char :=
  if c = 'b' then Char.ofNat 8
  else if c = 'f' then Char.ofNat 12
  else if c = 'n' then '\n'
  else if c = 'r' then '\r'
  else if c = 't' then '\t'
  else if c = 'v' then Char.ofNat 11
  else if c = '0' then Char.ofNat 0
  else c

/-- The characters and escapes of a string. A backslash at the end of a line
joins the line with the next one. -/
def pieces : List Symbol → List Piece
  | some '\\' :: some 'u' :: a :: b :: c :: d :: rest => .code (hexOf [a, b, c, d]) :: pieces rest
  | some '\\' :: some 'x' :: a :: b :: rest => .code (hexOf [a, b]) :: pieces rest
  | some '\\' :: some '\r' :: some '\n' :: rest => .joint :: pieces rest
  | some '\\' :: some c :: rest =>
    if c = '\n' ∨ c = '\r' ∨ isLineSeparator c then .joint :: pieces rest
    else .symbol (letterEscape c) :: pieces rest
  | c :: rest => .symbol c :: pieces rest
  | [] => []

/-- The symbol of a code; nothing for half a surrogate pair. -/
def symbolOf (n : Nat) : Symbol :=
  if 0xD800 ≤ n ∧ n ≤ 0xDFFF then none else some (Char.ofNat n)

/-- Put pieces together. Two halves of a surrogate pair are one character when
nothing stands between them. A joint leaves nothing behind, except that at the
end of a string the last one leaves a zero. -/
def assemble : List Piece → List Symbol
  | .code high :: .code low :: rest =>
    if 0xD800 ≤ high ∧ high ≤ 0xDBFF ∧ 0xDC00 ≤ low ∧ low ≤ 0xDFFF then
      some (Char.ofNat ((high - 0xD800) * 1024 + (low - 0xDC00) + 0x10000)) :: assemble rest
    else symbolOf high :: assemble (.code low :: rest)
  | .code n :: rest => symbolOf n :: assemble rest
  | .symbol c :: rest => c :: assemble rest
  | [.joint] => [some (Char.ofNat 0)]
  | .joint :: rest => assemble rest
  | [] => []

/-- The text that stands between the quotes. -/
def unescape (body : List Symbol) : List Symbol := assemble (pieces body)

/-- What stands between the quotes as strict JSON writes it. Escapes that it
knows stay as they are, and a vertical tab becomes a horizontal one. -/
def strict : List Symbol → List Symbol
  | some '\\' :: some 'x' :: a :: b :: rest =>
    ['\\', 'u', '0', '0'].map some ++ a :: b :: strict rest
  | some '\\' :: some '\r' :: some '\n' :: rest => strict rest
  | some '\\' :: some c :: rest =>
    if c = '\n' ∨ c = '\r' ∨ isLineSeparator c then strict rest
    else if c = '\'' then some c :: strict rest
    else if c = 'v' then ['\\', 'u', '0', '0', '0', '9'].map some ++ strict rest
    else if c = '0' then ['\\', 'u', '0', '0', '0', '0'].map some ++ strict rest
    else some '\\' :: some c :: strict rest
  | some c :: rest => (Json.escape c).map some ++ strict rest
  | none :: rest => none :: strict rest
  | [] => []

/-! ## Writing -/

/-- Items between brackets, separated by commas. -/
def bracketed (opening closing : Char) (items : List (List Symbol)) : List Symbol :=
  some opening :: (items.intersperse [some ',']).flatten ++ [some closing]

def quoted (body : List Symbol) : List Symbol :=
  some '"' :: strict body ++ [some '"']

mutual

/-- The text of a document without blanks. -/
def render : Document → List Symbol
  | null => Symbol.ofText "null"
  | bool true => Symbol.ofText "true"
  | bool false => Symbol.ofText "false"
  | number n => n.text.map some
  | text body => quoted body
  | list items => bracketed '[' ']' (renderAll items)
  | object members => bracketed '\x7b' '\x7d' (renderMembers members)

def renderAll : List Document → List (List Symbol)
  | [] => []
  | d :: ds => d.render :: renderAll ds

def renderMembers : List (List Symbol × Document) → List (List Symbol)
  | [] => []
  | (key, d) :: rest => (quoted key ++ some ':' :: d.render) :: renderMembers rest

end

end Document
end ObjectGateway.Durable
