import ObjectGateway.Text.Decimal
/-!
# Lengths of time

Whole seconds and nanoseconds, written in the largest unit that leaves a
whole part, with as many decimals as are needed.
-/
namespace ObjectGateway

/-- The number of nanoseconds in a second. -/
def nanosPerSecond : Nat := 1000000000

/-- A length of time of `seconds` and `nanos` billionths, of which there is less
than a whole second. -/
structure Span where
  seconds : Nat
  nanos : Nat
  nanos_lt : nanos < nanosPerSecond
deriving DecidableEq, Repr

namespace Span

/-- A length of time in two parts. Billionths that make up whole seconds are
carried over. -/
def ofParts (seconds nanos : Nat) : Span where
  seconds := seconds + nanos / nanosPerSecond
  nanos := nanos % nanosPerSecond
  nanos_lt := Nat.mod_lt _ (by decide)

def ofSeconds (seconds : Nat) : Span := ofParts seconds 0

def ofMillis (ms : Nat) : Span := ofParts (ms / 1000) (ms % 1000 * 1000000)

def isZero (s : Span) : Bool :=
  s.seconds = 0 && s.nanos = 0

/-- `whole` and the decimal places of `part`, an amount written with `places`
digits, without zeros at the end. -/
def decimal (whole part places : Nat) : String :=
  let digits := (Decimal.padded places part).toList.reverse.dropWhile (· == '0')
  if digits.isEmpty then toString whole
  else toString whole ++ "." ++ String.ofList digits.reverse

def text (s : Span) : String :=
  if s.seconds > 0 then decimal s.seconds s.nanos 9 ++ "s"
  else if s.nanos ≥ 1000000 then decimal (s.nanos / 1000000) (s.nanos % 1000000) 6 ++ "ms"
  else if s.nanos ≥ 1000 then decimal (s.nanos / 1000) (s.nanos % 1000) 3 ++ "µs"
  else toString s.nanos ++ "ns"

end Span
end ObjectGateway
