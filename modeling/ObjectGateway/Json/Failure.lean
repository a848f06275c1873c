import ObjectGateway.Binary64.Shortest
import ObjectGateway.Text.Quoted
/-!
# Why a JSON text is refused

A failure names its reason and its place, counted in lines and in bytes from
the start of the line.
-/
namespace ObjectGateway.Json

/-- What stood where something else was wanted. -/
inductive Found
  | null
  | bool (b : Bool)
  | integer (n : Int)
  | float (negative : Bool) (size : Binary64)
  | text (s : String)
  | list
  | object
deriving DecidableEq, Repr

def Found.describe : Found → String
  | null => "null"
  | bool b => "boolean `" ++ toString b ++ "`"
  | integer n => "integer `" ++ toString n ++ "`"
  | float negative size =>
    "floating point `" ++ (if negative then "-" else "") ++ size.text ++ "`"
  | text s => "string " ++ Quoted.quote s
  | list => "sequence"
  | object => "map"

/-- What was wanted. -/
inductive Wanted
  | pairs
  | pair
  | text
deriving DecidableEq, Repr

def Wanted.describe : Wanted → String
  | pairs => "a sequence"
  | pair => "a tuple of size 2"
  | text => "a string"

inductive Reason
  | listUnfinished
  | stringUnfinished
  | valueUnfinished
  | wantedCommaOrEnd
  | wantedWord
  | wantedValue
  | badEscape
  | badNumber
  | numberTooLarge
  | bareControl
  | loneSurrogate
  | surrogateUnfinished
  | commaAtEnd
  | textAfterEnd
  | wrongType (found : Found) (wanted : Wanted)
  | wrongLength (length : Nat) (wanted : Wanted)
deriving DecidableEq, Repr

def Reason.message : Reason → String
  | listUnfinished => "EOF while parsing a list"
  | stringUnfinished => "EOF while parsing a string"
  | valueUnfinished => "EOF while parsing a value"
  | wantedCommaOrEnd => "expected `,` or `]`"
  | wantedWord => "expected ident"
  | wantedValue => "expected value"
  | badEscape => "invalid escape"
  | badNumber => "invalid number"
  | numberTooLarge => "number out of range"
  | bareControl => "control character (\\u0000-\\u001F) found while parsing a string"
  | loneSurrogate => "lone leading surrogate in hex escape"
  | surrogateUnfinished => "unexpected end of hex escape"
  | commaAtEnd => "trailing comma"
  | textAfterEnd => "trailing characters"
  | wrongType found wanted =>
    "invalid type: " ++ found.describe ++ ", expected " ++ wanted.describe
  | wrongLength length wanted =>
    "invalid length " ++ toString length ++ ", expected " ++ wanted.describe

/-- A reason and the place it was noticed at. -/
structure Failure where
  reason : Reason
  line : Nat
  column : Nat
deriving DecidableEq, Repr

def Failure.message (f : Failure) : String :=
  f.reason.message ++ " at line " ++ toString f.line ++ " column " ++ toString f.column

end ObjectGateway.Json
