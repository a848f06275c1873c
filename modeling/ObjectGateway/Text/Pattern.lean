import ObjectGateway.Text.Alphanumeric
import ObjectGateway.Text.Blank
import ObjectGateway.Text.Hex
import ObjectGateway.Text.Segments
/-!
# Regular expressions

Which texts are regular expressions. The language has groups, classes, flags and
repetitions. It does without the tables of Unicode: named sets of characters are
known only where a flag confines the expression to ASCII, and so is what counts
as the same letter in another case. No count of repetitions is accepted, since
its closing brace stands in no expression here.
-/
namespace ObjectGateway.Pattern

/-- How a part of an expression is read. -/
structure Modes where
  /-- Letters count as the same in either case. -/
  fold : Bool := false
  /-- Blanks do not count. -/
  free : Bool := false
  /-- Characters are those of Unicode, not bytes. -/
  unicode : Bool := true

namespace Modes

/-- Whether single characters and classes can be read. -/
def readsCharacters (m : Modes) : Bool := !(m.unicode && m.fold)

/-- Whether sets of characters beyond ASCII can be read, such as that of every
character. -/
def readsBeyond (m : Modes) : Bool := m.unicode

end Modes

/-! ## Escapes -/

/-- What an escape stands for. -/
inductive Escape
  | character (code : Nat)
  /-- A named set, or all characters outside of one. -/
  | set (negated : Bool)
  | edge

/-- The characters that stand for others behind a backslash. -/
def controls : List (Char × Nat) :=
  [('a', 7), ('f', 12), ('t', 9), ('n', 10), ('r', 13), ('v', 11)]

/-- The number of digits behind a letter that announces them. -/
def digitsBehind : Char → Option Nat
  | 'x' => some 2
  | 'u' => some 4
  | 'U' => some 8
  | _ => none

/-- An escape whose backslash has been read, and what follows it. -/
def escape? (m : Modes) : List Char → Option (Escape × List Char)
  | [] => none
  | c :: rest =>
    match digitsBehind c with
    | some width =>
      let digits := rest.take width
      match Hex.toNat? digits with
      | some n =>
        let isByte := c = 'x' ∧ !m.unicode ∧ 0x80 ≤ n
        if digits.length = width ∧ n.isValidChar ∧ !isByte then
          some (.character n, rest.drop width)
        else none
      | none => none
    | none =>
      match controls.lookup c with
      | some code => some (.character code, rest)
      | none =>
        if "dsw".toList.contains c then if m.unicode then none else some (.set false, rest)
        else if "DSW".toList.contains c then if m.unicode then none else some (.set true, rest)
        else if "Az".toList.contains c then some (.edge, rest)
        else if "bB<>".toList.contains c then if m.unicode then none else some (.edge, rest)
        else if c.toNat < 0x80 ∧ !c.isAlphanum then some (.character c.toNat, rest)
        else none

/-! ## Classes -/

/-- The names of sets that a class may hold between colons. -/
def setNames : List String :=
  ["alnum", "alpha", "ascii", "blank", "cntrl", "digit", "graph", "lower", "print", "punct",
    "space", "upper", "word", "xdigit"]

/-- What follows a named set, whose opening bracket has been read. -/
def namedSet? : List Char → Option (List Char)
  | ':' :: rest =>
    let rest := if rest.head? = some '^' then rest.drop 1 else rest
    let name := rest.takeWhile Char.isLower
    if setNames.contains (String.ofList name) then
      Segments.after? ":]".toList (rest.drop name.length)
    else none
  | _ => none

/-- What follows the opening bracket of a class: a caret negates the class, then
hyphens stand for themselves, and a closing bracket does if it comes first. -/
def classHead? (m : Modes) (cs : List Char) : Option (List Char) :=
  let negated := cs.head? = some '^'
  let cs := if negated then cs.drop 1 else cs
  let rest := cs.dropWhile (· == '-')
  if negated && !m.readsBeyond then none
  else if rest.length = cs.length ∧ cs.head? = some ']' then some (cs.drop 1)
  else some rest

/-- A member of a class, by its code if it is a single character, and what follows
it. -/
def member? (m : Modes) : List Char → Option (Option Nat × List Char)
  | '\\' :: rest =>
    match escape? m rest with
    | some (.character code, rest) => some (some code, rest)
    | some (.set negated, rest) => if negated then none else some (none, rest)
    | _ => none
  | c :: rest => some (some c.toNat, rest)
  | [] => none

/-- What follows a member of a class or a range of members, whose ends must be
single characters in order. -/
def range? (m : Modes) (cs : List Char) : Option (List Char) := do
  let (first, rest) ← member? m cs
  match rest with
  | '-' :: next :: _ =>
    if next = ']' ∨ next = '-' then return rest
    else
      let (last, rest) ← member? m (rest.drop 1)
      match first, last with
      | some a, some b => if a ≤ b then return rest else none
      | _, _ => none
  | _ => return rest

/-- Whether a text begins with an operator on classes. -/
def startsOperator : List Char → Bool
  | a :: b :: _ => a == b && "&-~".toList.contains a
  | _ => false

/-! ## Groups -/

/-- Modes after the given flags, those behind a hyphen being taken back. -/
def withFlags (m : Modes) (flags : List Char) : Modes :=
  let (on, off) := Segments.cut '-' flags
  let off := off.getD []
  let settle (flag : Char) (was : Bool) : Bool :=
    if on.contains flag then true else if off.contains flag then false else was
  { fold := settle 'i' m.fold, free := settle 'x' m.free, unicode := settle 'u' m.unicode }

/-- Whether flags make sense: none is given twice, and a hyphen is not the last. -/
def areFlags (flags : List Char) : Bool :=
  flags.Nodup && flags.getLast? != some '-'

def isNameChar (c : Char) : Bool :=
  Alphanumeric.isAlphanumeric c || "_.[]".toList.contains c

/-- How a group begins. -/
inductive GroupHead
  /-- A group with its modes, and its name if it has one. -/
  | group (modes : Modes) (name : Option String)
  /-- No group: the modes change from here on. -/
  | flags (modes : Modes)

/-- The beginning of a group whose bracket has been read, and what follows it. -/
def groupHead? (m : Modes) (cs : List Char) : Option (GroupHead × List Char) :=
  let named (rest : List Char) : Option (GroupHead × List Char) :=
    let name := rest.takeWhile isNameChar
    match name, rest.drop name.length with
    | c :: _, '>' :: after =>
      if c = '_' ∨ (Alphanumeric.isAlphanumeric c ∧ !c.isDigit) then
        some (.group m (String.ofList name), after)
      else none
    | _, _ => none
  match cs with
  | '?' :: 'P' :: '<' :: rest => named rest
  | '?' :: '<' :: rest => named rest
  | '?' :: rest =>
    let flags := rest.takeWhile "imsURux-".toList.contains
    if !areFlags flags then none
    else
      match rest.drop flags.length with
      | ':' :: after => some (.group (withFlags m flags) none, after)
      | ')' :: after => if flags.isEmpty then none else some (.flags (withFlags m flags), after)
      | _ => none
  | cs => some (.group m none, cs)

/-! ## Expressions -/

/-- What has been read of an expression: the modes to go back to at the end of each
open group, the number of open classes, and whether there is something to repeat. -/
structure State where
  modes : Modes := {}
  groups : List Modes := []
  classes : Nat := 0
  operand : Bool := false
  names : List String := []

/-- Whether a text is the rest of a regular expression. The bound is the number of
characters that may still be read. -/
def isRest : (bound : Nat) → State → List Char → Bool
  | 0, _, _ => false
  | _ + 1, s, [] => s.groups.isEmpty && s.classes == 0
  | bound + 1, s, c :: rest =>
    let m := s.modes
    let read (s : State) (rest : List Char) : Bool := isRest bound { s with operand := true } rest
    let openClass (rest : List Char) : Bool :=
      match classHead? m rest with
      | some rest => m.readsCharacters && read { s with classes := s.classes + 1 } rest
      | none => false
    if m.free && Blank.isBlank c then isRest bound s rest
    else if m.free && c == '#' then isRest bound s (rest.dropWhile (· != '\n'))
    else if s.classes ≠ 0 then
      if c = ']' then read { s with classes := s.classes - 1 } rest
      else if c = '[' then
        match namedSet? rest with
        | some rest => read s rest
        | none => openClass rest
      else if startsOperator (c :: rest) then read s (rest.drop 1)
      else
        match range? m (c :: rest) with
        | some rest => read s rest
        | none => false
    else if c = '[' then openClass rest
    else if c = '\\' then
      match escape? m rest with
      | some (.character _, rest) => m.readsCharacters && read s rest
      | some (.set negated, rest) => !negated && read s rest
      | some (.edge, rest) => read s rest
      | none => false
    else if c = '(' then
      match groupHead? m rest with
      | some (.flags modes, rest) => isRest bound { s with modes, operand := false } rest
      | some (.group modes name, rest) =>
        let names := name.toList ++ s.names
        names.Nodup && isRest bound
          { s with modes, groups := m :: s.groups, operand := false, names } rest
      | none => false
    else if c = ')' then
      match s.groups with
      | modes :: groups => read { s with modes, groups } rest
      | [] => false
    else if c = '|' then isRest bound { s with operand := false } rest
    else if c = '*' ∨ c = '+' ∨ c = '?' then s.operand && read s rest
    else if c = '.' then m.readsBeyond && read s rest
    else if c = '^' ∨ c = '$' then read s rest
    else c ≠ '\x7b' && m.readsCharacters && read s rest

def isValid (cs : List Char) : Bool := isRest (cs.length + 1) {} cs

end ObjectGateway.Pattern
