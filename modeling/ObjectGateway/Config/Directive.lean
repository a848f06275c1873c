import ObjectGateway.Config.LogLevel
import ObjectGateway.Text.Alphanumeric
import ObjectGateway.Text.Blank
import ObjectGateway.Text.LetterCase
import ObjectGateway.Text.Pattern
import ObjectGateway.Text.Segments
/-!
# Log directives

A directive sets the level from which events are logged: all of them, or those
below a named source, within a span or with a field. It is written as
`source[span{field=value}]=level`, where each part may be left out, and a level may
stand alone.
-/
namespace ObjectGateway.Config

/-- A field that a directive asks for, and whether it asks for a value of it. -/
structure FieldMatch where
  name : String
  hasValue : Bool
deriving DecidableEq, Repr

/-- A level for the events that meet all conditions. -/
structure Directive where
  source : Option String := none
  span : Option String := none
  field : Option FieldMatch := none
  level : LogLevel := .trace
deriving DecidableEq, Repr

namespace Directive

/-- Whether an event alone tells if the directive is about it. Spans and values
of fields are known only while the service runs. -/
def isStatic (d : Directive) : Bool :=
  d.span.isNone && !d.field.any FieldMatch.hasValue

/-- Whether the directive is about events of a source with some fields. -/
def isAbout (d : Directive) (source : String) (fields : List String) : Bool :=
  d.isStatic && d.source.all (source.startsWith ·) &&
    d.field.all fun f => fields.contains f.name

/-- Whether a directive about an event gives way to another one about it, which
stands behind it: to one with a longer source, and of two with the same source to
one with a field or with the later field name. -/
def yieldsTo (d e : Directive) : Bool :=
  let size (d : Directive) : Nat := (d.source.map (·.utf8ByteSize + 1)).getD 0
  let fieldPrecedes : Bool :=
    match d.field, e.field with
    | none, _ => true
    | some _, none => false
    | some f, some g => (compare f.name g.name).isLE
  size d < size e || (size d == size e && fieldPrecedes)

/-! ## Reading -/

/-- Whether a text is a number with or without a fraction and an exponent, or one of
the words for what is no finite number. -/
def isUnsignedNumber (cs : List Char) : Bool :=
  let digits (cs : List Char) := !cs.isEmpty && cs.all Char.isDigit
  let mantissa := cs.takeWhile fun c => c.isDigit || c == '.'
  let exponent :=
    match cs.drop mantissa.length with
    | [] => true
    | c :: '+' :: rest | c :: '-' :: rest => (c == 'e' || c == 'E') && digits rest
    | c :: rest => (c == 'e' || c == 'E') && digits rest
  ["inf", "infinity", "nan"].contains (LetterCase.lower (String.ofList cs)) ||
    (digits (mantissa.filter (· != '.')) && mantissa.count '.' ≤ 1 && exponent)

/-- A number with a plus sign in front, which is a value but no pattern. -/
def isPlusNumber : List Char → Bool
  | '+' :: cs => isUnsignedNumber cs
  | _ => false

/-- A field, with a value behind an equals sign if it has one. The value is a
number, a truth value or a pattern; what stands behind a second equals sign is
left out. -/
def fieldMatch? (text : List Char) : Option FieldMatch :=
  match Segments.split '=' text with
  | [] | [[]] => none
  | [name] => some ⟨String.ofList name, false⟩
  | name :: value :: _ =>
    if isPlusNumber value || Pattern.isValid value then some ⟨String.ofList name, true⟩ else none

/-- What a directive is being read for, with the place where that began. -/
inductive Part
  | first
  | name (start : Nat)
  | span (start : Nat)
  | field (start : Nat)
  | fieldEnd
  | spanEnd
  | level (start : Nat)

/-- Read one more character, which is the `i`-th. Parts are taken out of `whole`. -/
def step (whole : List Char) (i : Nat) (c : Char) (d : Directive) :
    Part → Option (Part × Directive)
  | .first =>
    if c = '[' then some (.span (i + 1), d)
    else if Alphanumeric.isAlphanumeric c || c = '-' || c = ':' || c = '_' then some (.name i, d)
    else none
  | .name start =>
    let named := { d with source := some (taken start) }
    if c = '=' then some (.level (i + 1), named)
    else if c = '[' then some (.span (i + 1), named)
    else some (.name start, d)
  | .span start =>
    if c = ']' then some (.spanEnd, { d with span := some (taken start) })
    else if c = '\x7b' then
      let name := taken start
      some (.field (i + 1), { d with span := if name.isEmpty then none else some name })
    else some (.span start, d)
  | .field start =>
    if c = '\x7d' then
      (fieldMatch? (taken start).toList).map fun f => (.fieldEnd, { d with field := some f })
    else some (.field start, d)
  | .fieldEnd => if c = ']' then some (.spanEnd, d) else none
  | .spanEnd => if c = '=' then some (.level (i + 1), d) else none
  | .level start => some (.level start, d)
where
  taken (start : Nat) : String := String.ofList ((whole.drop start).take (i - start))

/-- Read characters from the `i`-th on. -/
def walk (whole : List Char) (i : Nat) (d : Directive) (part : Part) :
    List Char → Option (Part × Directive)
  | [] => some (part, d)
  | c :: cs => (step whole i c d part).bind fun (part, d) => walk whole (i + 1) d part cs

/-- The directive of a text. Blanks around it do not count when its parts are
told apart, but they do when a part is taken out: it is taken from where it would
stand without the blanks. -/
def parse? (text : String) : Option Directive := do
  let whole := text.toList
  let (part, d) ← walk whole 0 {} .first (Blank.trim whole)
  match part with
  | .name start =>
    let name := String.ofList (whole.drop start)
    match LogLevel.ofText? name with
    | some level => return { d with level }
    | none => return { d with source := some name }
  | .level start =>
    let rest := String.ofList (whole.drop start)
    if rest.isEmpty then return d else return { d with level := ← LogLevel.ofText? rest }
  | .spanEnd => return d
  | _ => none

end Directive
end ObjectGateway.Config
