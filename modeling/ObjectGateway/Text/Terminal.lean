/-!
# Text without terminal sequences

What is left of a text when everything is taken out of it that a terminal would
obey and not show: control characters other than blanks, and the sequences that
an escape character begins.
-/
namespace ObjectGateway.Terminal

/-- Where a reader of sequences stands. -/
inductive State
  /-- Outside of every sequence. -/
  | ground
  /-- Behind the character that begins a sequence. -/
  | escape
  /-- In a sequence that the first letter, digit or sign ends. -/
  | escapeTail
  /-- Among the parameters of a control sequence, which a letter ends. -/
  | parameters
  /-- In a command to the operating system, which a bell ends. -/
  | command
  /-- In a string that only another escape or a cancel ends. -/
  | string
deriving DecidableEq, Repr

def escapeCode : Nat := 0x1B

/-- The two characters that cancel a sequence. -/
def isCancel (n : Nat) : Bool := n == 0x18 || n == 0x1A

/-- The control characters that show as blanks. -/
def isBlankControl (n : Nat) : Bool := n == 9 || n == 10 || n == 12 || n == 13

/-- Whether a character outside of every sequence shows. -/
def shows (n : Nat) : Bool := (0x20 ≤ n && n != 0x7F) || isBlankControl n

/-- The state behind a character within a sequence; nothing if the character
breaks the sequence off and shows. -/
def State.next? (s : State) (n : Nat) : Option State :=
  if n = escapeCode then some .escape
  else if isCancel n then some .ground
  else
    match s with
    | .ground => if shows n then none else some .ground
    | .escape =>
      if isBlankControl n then none
      else if 0x20 ≤ n ∧ n ≤ 0x2F then some .escapeTail
      else if n = 0x5B then some .parameters
      else if n = 0x5D then some .command
      else if n = 0x50 ∨ n = 0x58 ∨ n = 0x5E ∨ n = 0x5F then some .string
      else if 0x30 ≤ n ∧ n ≤ 0x7E then some .ground
      else some .escape
    | .escapeTail =>
      if isBlankControl n then none
      else if 0x30 ≤ n ∧ n ≤ 0x7E then some .ground
      else some .escapeTail
    | .parameters =>
      if isBlankControl n then none
      else if 0x40 ≤ n ∧ n ≤ 0x7E then some .ground
      else some .parameters
    | .command => if n = 7 then some .ground else some .command
    | .string => some .string

/-- The characters that show, from a state on. -/
def plainFrom : State → List Char → List Char
  | _, [] => []
  | s, c :: cs =>
    match s.next? c.toNat with
    | some s => plainFrom s cs
    | none => c :: plainFrom .ground cs

def plain (text : String) : String :=
  String.ofList (plainFrom .ground text.toList)

end ObjectGateway.Terminal
