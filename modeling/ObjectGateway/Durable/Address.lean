import ObjectGateway.Text.Percent
import ObjectGateway.Text.Quoted
/-!
# Database addresses

A URL says which database is meant and how it is opened: behind the scheme a
percent-encoded file name, or `:memory:` for one that lives in memory only, and
behind a question mark parameters.
-/
namespace ObjectGateway.Durable

/-- What a database URL says. -/
structure Address where
  /-- The file name, decoded once. -/
  file : String
  inMemory : Bool := false
  readOnly : Bool := false
  /-- Create the file if it is missing. -/
  create : Bool := false
  /-- Nobody else changes the file. -/
  immutable : Bool := false
  /-- The way of accessing files; the usual one when unset. -/
  vfs : Option String := none
deriving DecidableEq, Repr

/-- What is wrong with a database URL. -/
inductive AddressError
  | notText (fault : Utf8.Fault)
  | unknownParameter (name : String)
  | unknownValue (name value : String)
deriving DecidableEq, Repr

def AddressError.message (e : AddressError) : String :=
  "error with configuration: " ++
    match e with
    | notText fault => fault.message
    | unknownParameter name =>
      "unknown query parameter `" ++ name ++ "` while parsing connection URL"
    | unknownValue name value =>
      "unknown value " ++ Quoted.quote value ++ " for `" ++ name ++ "`"

namespace Address

/-- A text without any number of repetitions of `lead` in front. The bound is the
number of repetitions that may be dropped. -/
def dropAll (lead : List Char) : (bound : Nat) → List Char → List Char
  | 0, cs => cs
  | bound + 1, cs =>
    match Segments.after? lead cs with
    | some rest => dropAll lead bound rest
    | none => cs

def dropScheme (scheme : String) (cs : List Char) : List Char :=
  dropAll scheme.toList cs.length cs

/-- A URL without its scheme: the name and the parameters. -/
def split (url : String) : List Char × List Char :=
  let (name, parameters) :=
    Segments.cut '?' (dropScheme "sqlite:" (dropScheme "sqlite://" url.toList))
  (name, parameters.getD [])

/-- The file that is prepared before a database is opened, by its name as written. -/
def preparedFile (url : String) : String :=
  let cs := dropScheme "sqlite:" (dropScheme "sqlite://" url.toList)
  String.ofList (Segments.cut '?' (dropScheme "file:" cs)).1

/-- Whether a URL mentions memory, in which case no file is prepared. -/
def mentionsMemory (url : String) : Bool :=
  (url.splitOn ":memory:").length > 1

/-! ## Reading -/

/-- Take in one parameter. -/
def set (a : Address) (parameter : String × String) : Except AddressError Address :=
  let (name, value) := parameter
  let unknown : Except AddressError Address := .error (.unknownValue name value)
  match name with
  | "mode" =>
    match value with
    | "ro" => .ok { a with readOnly := true }
    | "rw" => .ok a
    | "rwc" => .ok { a with create := true }
    | "memory" => .ok { a with inMemory := true }
    | _ => unknown
  | "cache" =>
    match value with
    | "private" | "shared" => .ok a
    | _ => unknown
  | "immutable" =>
    match value with
    | "true" | "1" => .ok { a with immutable := true }
    | "false" | "0" => .ok { a with immutable := false }
    | _ => unknown
  | "vfs" => .ok { a with vfs := some value }
  | _ => .error (.unknownParameter name)

/-- The address that a URL is. The name is read before the parameters. -/
def parse (url : String) : Except AddressError Address := do
  let (name, parameters) := split url
  let bytes := Percent.decode (Bytes.ofText (String.ofList name))
  match Utf8.fault? bytes with
  | some fault => throw (.notText fault)
  | none =>
    (Percent.queryPairs parameters).foldlM set
      { file := Utf8.decodeLenient bytes, inMemory := name == ":memory:".toList }

end Address
end ObjectGateway.Durable
