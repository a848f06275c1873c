import ObjectGateway.Config.Options
import ObjectGateway.Text.Decimal
import ObjectGateway.Text.LetterCase
import ObjectGateway.Text.Segments
import ObjectGateway.Text.Terminal
/-!
# Command-line arguments

Options are read one argument after the other. A value is attached by an equals
sign, or to a letter directly, or it is the next argument unless that one begins
with a hyphen. The value of an option is looked at only when the next option
begins or the line ends, so a fault in between is reported before one in the
value.
-/
namespace ObjectGateway.Config

/-- Which store serves the gateway. -/
inductive BackendKind
  | sqlite
  | memory
deriving DecidableEq, Repr

namespace BackendKind

def name : BackendKind → String
  | sqlite => "sqlite"
  | memory => "memory"

/-- The store of a name, in exactly this spelling. -/
def ofName? (name : String) : Option BackendKind :=
  [sqlite, memory].find? fun k => k.name == name

/-- The store of a name, in any ASCII letter case. -/
def ofAnyCase? (name : String) : Option BackendKind :=
  [sqlite, memory].find? fun k => LetterCase.same k.name name

end BackendKind

/-- What was given on the command line. -/
structure Arguments where
  host : Option String := none
  port : Option Nat := none
  backend : Option BackendKind := none
  storageDir : Option String := none
  databaseUrl : Option String := none
  stagingDir : Option String := none
  owner : Option String := none
  policy : Option String := none
  requestTimeout : Option Nat := none
  chunkSize : Option Nat := none
  readOnly : Bool := false
  rejectDuplicates : Bool := false
  debugLevel : Option String := none
  debugStderr : Bool := false
  migrate : Bool := false
deriving DecidableEq, Repr

/-- Why a command line leads to no configuration: it is faulty, or it asks for
information only. -/
inductive UsageError
  | help (detailed : Bool)
  | version
  | unknown (argument : String)
  | valueMissing (option : Switch)
  | notAChoice (option : Switch) (value : String)
  | badValue (option : Switch) (value reason : String)
  | repeated (option : Switch)
  | valueUnexpected (option : Switch) (value : String)
deriving DecidableEq, Repr

namespace UsageError

/-- Whether the text is what was asked for. -/
def isInformation : UsageError → Bool
  | help _ | version => true
  | _ => false

def exitCode (e : UsageError) : Nat :=
  if e.isInformation then 0 else 2

/-- What a user wrote is repeated as far as it shows. -/
def message : UsageError → String
  | help detailed => helpText detailed
  | version => versionText
  | unknown argument => "error: unexpected argument '" ++ Terminal.plain argument ++ "' found"
  | valueMissing option =>
    "error: a value is required for '" ++ option.shown ++ "' but none was supplied"
  | notAChoice option value =>
    "error: invalid value '" ++ Terminal.plain value ++ "' for '" ++ option.shown ++ "'"
  | badValue option value reason =>
    "error: invalid value '" ++ Terminal.plain value ++ "' for '" ++ option.shown ++ "': " ++ reason
  | repeated option =>
    "error: the argument '" ++ option.shown ++ "' cannot be used multiple times"
  | valueUnexpected option value =>
    "error: unexpected value '" ++ Terminal.plain value ++ "' for '--" ++ option.long ++
      "' found; no more were expected"

end UsageError

namespace Arguments

/-! ## Values -/

def port? (value : String) : Except String Nat :=
  match Decimal.int64 value with
  | .error cause => .error cause.message
  | .ok n =>
    if 0 ≤ n ∧ n ≤ 65535 then .ok n.toNat
    else .error (toString n ++ " is not in 0..=65535")

def number? (value : String) : Except String Nat :=
  (Decimal.natUpTo Decimal.maxUInt64 value).mapError Decimal.Malformed.message

/-- Take in the value of an option. -/
def setValue (a : Arguments) (option : Switch) (value : String) : Except UsageError Arguments :=
  let checked (r : Except String Nat) (use : Nat → Arguments) : Except UsageError Arguments :=
    match r with
    | .ok n => .ok (use n)
    | .error reason => .error (.badValue option value reason)
  match option with
  | .setting .host => .ok { a with host := some value }
  | .setting .port => checked (port? value) fun n => { a with port := some n }
  | .setting .backend =>
    match BackendKind.ofName? value with
    | some k => .ok { a with backend := some k }
    | none =>
      .error (if value.isEmpty then .valueMissing option else .notAChoice option value)
  | .setting .storageDir => .ok { a with storageDir := some value }
  | .setting .databaseUrl => .ok { a with databaseUrl := some value }
  | .setting .stagingDir =>
    if value.isEmpty then .error (.valueMissing option)
    else .ok { a with stagingDir := some value }
  | .setting .owner => .ok { a with owner := some value }
  | .setting .policy => .ok { a with policy := some value }
  | .setting .requestTimeout =>
    checked (number? value) fun n => { a with requestTimeout := some n }
  | .setting .chunkSize => checked (number? value) fun n => { a with chunkSize := some n }
  | .setting .debugLevel => .ok { a with debugLevel := some value }
  | _ => .ok a

/-- Take in an option that has no value. -/
def setFlag (a : Arguments) (option : Switch) (detailed : Bool) : Except UsageError Arguments :=
  match option with
  | .setting .readOnly => .ok { a with readOnly := true }
  | .setting .rejectDuplicates => .ok { a with rejectDuplicates := true }
  | .setting .debugStderr => .ok { a with debugStderr := true }
  | .migrate => .ok { a with migrate := true }
  | .help => .error (.help detailed)
  | .version => .error .version
  | _ => .ok a

/-! ## Reading -/

/-- The state of a reader: what has been taken in, the options given so far, and
an option that is still to be taken in, with its value if that has come. -/
structure Progress where
  arguments : Arguments := {}
  given : List Switch := []
  pending : Option (Switch × Option String) := none

namespace Progress

/-- Take in an option with a value. No option may be given twice. -/
def addValue (p : Progress) (option : Switch) (value : String) : Except UsageError Progress := do
  if p.given.contains option then throw (.repeated option)
  return ⟨← p.arguments.setValue option value, option :: p.given, none⟩

/-- Take in the option that is pending. -/
def settle (p : Progress) : Except UsageError Progress :=
  match p.pending with
  | none => .ok p
  | some (option, none) => .error (.valueMissing option)
  | some (option, some value) => p.addValue option value

/-- Take in an option without a value. -/
def addFlag (p : Progress) (option : Switch) (detailed : Bool) : Except UsageError Progress := do
  let p ← p.settle
  if p.given.contains option && option != .help && option != .version then
    throw (.repeated option)
  return ⟨← p.arguments.setFlag option detailed, option :: p.given, none⟩

/-- An option that takes a value, which may be attached to it. -/
def addOption (p : Progress) (option : Switch) (attached : Option String) :
    Except UsageError Progress := do
  let p ← p.settle
  match attached with
  | some value => p.addValue option value
  | none => return { p with pending := some (option, none) }

/-- An argument that begins with two hyphens. -/
def long (p : Progress) (text : List Char) : Except UsageError Progress :=
  let (name, attached) := Segments.cut '=' text
  let name := String.ofList name
  match Switch.ofLong? name with
  | none => .error (.unknown ("--" ++ name))
  | some option =>
    if option.takesValue then p.addOption option (attached.map String.ofList)
    else
      match attached with
      | some value => .error (.valueUnexpected option (String.ofList value))
      | none => p.addFlag option true

/-- The letters of an argument that begins with one hyphen. -/
def short (p : Progress) : List Char → Except UsageError Progress
  | [] => .ok p
  | c :: rest =>
    match Switch.ofShort? c with
    | none => .error (.unknown ("-" ++ c.toString))
    | some option =>
      if option.takesValue then
        match rest with
        | [] => p.addOption option none
        | '=' :: value => p.addOption option (some (String.ofList value))
        | value => p.addOption option (some (String.ofList value))
      else
        match p.addFlag option false with
        | .ok p => p.short rest
        | .error e => .error e

/-- An argument that is no option: the value that is waited for. -/
def value (p : Progress) (text : String) : Except UsageError Progress :=
  match p.pending with
  | some (option, none) => .ok { p with pending := some (option, some text) }
  | _ => .error (.unknown text)

/-- Read the arguments in order. Behind two hyphens alone nothing may follow. -/
def read (p : Progress) : List String → Except UsageError Progress
  | [] => p.settle
  | argument :: rest =>
    match argument.toList with
    | ['-', '-'] =>
      match rest with
      | [] => p.settle
      | next :: _ => .error (.unknown next)
    | '-' :: '-' :: text => (p.long text).bind fun p => p.read rest
    | '-' :: c :: text => (p.short (c :: text)).bind fun p => p.read rest
    | _ => (p.value argument).bind fun p => p.read rest

end Progress

/-- The arguments of a command line. -/
def parse (line : List String) : Except UsageError Arguments :=
  (({} : Progress).read line).map Progress.arguments

end Arguments
end ObjectGateway.Config
