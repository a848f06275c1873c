import ObjectGateway.Config.Directive
/-!
# Log filters

A filter is a comma-separated list of directives, of which the most specific one
about an event decides whether the event is logged.
-/
namespace ObjectGateway.Config

structure LogFilter where
  directives : List Directive
deriving DecidableEq, Repr

namespace LogFilter

/-- The parts of a filter text that are not empty. -/
def parts (text : String) : List String :=
  ((Segments.split ',' text.toList).filter (!·.isEmpty)).map String.ofList

/-- A filter that lets errors through only, which is what no directive means. -/
def ofDirectives (directives : List Directive) : LogFilter :=
  ⟨if directives.isEmpty then [{ level := .error }] else directives⟩

/-- The filter of a text, if every directive of it makes sense. -/
def parse? (text : String) : Option LogFilter :=
  ((parts text).mapM Directive.parse?).map ofDirectives

/-- The filter of a text without the directives that make no sense, and whether
there are any of those. -/
def parseLenient (text : String) : LogFilter × Bool :=
  let read := (parts text).map Directive.parse?
  (ofDirectives (read.filterMap id), read.any Option.isNone)

/-- The directive that decides about events of a source with some fields. -/
def deciding? (f : LogFilter) (source : String) (fields : List String) : Option Directive :=
  (f.directives.filter (·.isAbout source fields)).foldl (fun best d =>
    match best with
    | some b => if b.yieldsTo d then some d else best
    | none => some d) none

/-- Whether an event is logged. -/
def enables (f : LogFilter) (source : String) (fields : List String) (level : LogLevel) : Bool :=
  (f.deciding? source fields).any fun d => level.rank ≤ d.level.rank

end LogFilter
end ObjectGateway.Config
