import ObjectGateway.Config.Arguments
/-!
# Environment variables

A variable is absent, unreadable or a text. Reading one setting from the
environment fails when the variable is unreadable or its text does not fit the
setting.
-/
namespace ObjectGateway.Config

/-- The state of one variable. -/
inductive Variable
  | absent
  /-- Set to bytes that are no text. -/
  | unreadable
  | text (value : String)
deriving DecidableEq, Repr

/-- What a program finds under each variable name. -/
abbrev Environment := String → Variable

/-- What is wrong with a configuration. -/
inductive ConfigError
  | unreadable (s : Setting)
  | malformed (s : Setting) (value reason : String)
  | notAFlag (s : Setting) (value : String)
  | badOwner (value : String)
deriving DecidableEq, Repr

def ConfigError.message : ConfigError → String
  | unreadable s => "reading " ++ s.variable
  | malformed s value reason =>
    "parsing " ++ s.variable ++ " value `" ++ value ++ "`: " ++ reason
  | notAFlag s value => "parsing " ++ s.variable ++ " value `" ++ value ++ "` as a flag"
  | badOwner value => "parsing owner id `" ++ value ++ "`"

namespace Environment

/-- The text of a setting's variable. -/
def text? (env : Environment) (s : Setting) : Except ConfigError (Option String) :=
  match env s.variable with
  | .absent => .ok none
  | .unreadable => .error (.unreadable s)
  | .text value => .ok (some value)

/-- The text of a setting's variable, read by `parse`. -/
def value? {α : Type} (env : Environment) (s : Setting) (parse : String → Except String α) :
    Except ConfigError (Option α) := do
  match ← env.text? s with
  | none => return none
  | some value =>
    match parse value with
    | .ok a => return some a
    | .error reason => throw (.malformed s value reason)

def number? (env : Environment) (s : Setting) (max : Nat) : Except ConfigError (Option Nat) :=
  env.value? s fun value => (Decimal.natUpTo max value).mapError Decimal.Malformed.message

def backend? (env : Environment) (s : Setting) : Except ConfigError (Option BackendKind) :=
  env.value? s fun value =>
    match BackendKind.ofAnyCase? value with
    | some k => .ok k
    | none => .error ("invalid variant: " ++ value)

/-- The words that say yes. -/
def trueWords : List String := ["1", "true", "yes", "on"]

/-- The words that say no; so does an absent variable. -/
def falseWords : List String := ["", "0", "false", "no", "off"]

/-- A setting that is on or off, its word in any ASCII letter case. -/
def flag (env : Environment) (s : Setting) : Except ConfigError Bool := do
  match (← env.text? s).map LetterCase.lower with
  | none => return false
  | some word =>
    if falseWords.contains word then return false
    else if trueWords.contains word then return true
    else throw (.notAFlag s word)

end Environment
end ObjectGateway.Config
