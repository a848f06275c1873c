import ObjectGateway.Text.Decimal
import ObjectGateway.Text.LetterCase
/-!
# Log levels

How important an event is, and the texts that name a level.
-/
namespace ObjectGateway.Config

/-- How important an event is, the most important first. -/
inductive LogLevel
  | off
  | error
  | warn
  | info
  | debug
  | trace
deriving DecidableEq, Repr

namespace LogLevel

def all : List (LogLevel × String) :=
  [(off, "off"), (error, "error"), (warn, "warn"), (info, "info"), (debug, "debug"),
    (trace, "trace")]

def rank : LogLevel → Nat
  | off => 0
  | error => 1
  | warn => 2
  | info => 3
  | debug => 4
  | trace => 5

/-- A level by its rank, or by its name in any ASCII letter case. -/
def ofText? (text : String) : Option LogLevel :=
  let number := (Decimal.natUpTo Decimal.maxUInt64 text).toOption
  (all.find? fun (level, name) =>
    number == some level.rank || LetterCase.same name text).map Prod.fst

end LogLevel
end ObjectGateway.Config
