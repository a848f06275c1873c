import ObjectGateway.Durable.Document
import ObjectGateway.Text.Blank
/-!
# Reading JSON documents in the database

The database reads more than strict JSON: comments and any blanks between the
tokens, a comma behind the last item, strings in single quotes, keys without
quotes, numbers with a plus sign, in hexadecimal or without digits on one side of
the point, and words for what is no finite number. A text ends at its first zero.
-/
namespace ObjectGateway.Durable.Document

/-! ## Blanks -/

/-- The characters that may stand between two tokens. -/
def isBlank (c : Char) : Bool :=
  (Blank.isBlank c && c.toNat != 0x85) || c.toNat == 0xFEFF

/-- What follows the end of a block comment, if it has one. -/
def afterBlock? : List Symbol → Option (List Symbol)
  | some '*' :: some '/' :: rest => some rest
  | _ :: rest => afterBlock? rest
  | [] => none

/-- What follows the line that a text begins in. -/
def afterLine : List Symbol → List Symbol
  | some c :: rest => if c = '\n' ∨ c = '\r' ∨ isLineSeparator c then rest else afterLine rest
  | none :: rest => afterLine rest
  | [] => []

/-- The text without the blanks and comments in front of it. A block comment
without an end is none. The bound is the number of them that may be left out. -/
def skipUpTo : (bound : Nat) → List Symbol → List Symbol
  | 0, cs => cs
  | bound + 1, cs =>
    match cs with
    | some '/' :: some '*' :: rest =>
      match afterBlock? rest with
      | some rest => skipUpTo bound rest
      | none => cs
    | some '/' :: some '/' :: rest => skipUpTo bound (afterLine rest)
    | some c :: rest => if isBlank c then skipUpTo bound rest else cs
    | cs => cs

def skipBlanks (cs : List Symbol) : List Symbol :=
  if cs.head?.any (·.any fun c => isBlank c || c = '/') then skipUpTo cs.length cs else cs

/-! ## Strings -/

def isHexDigit (c : Symbol) : Bool := c.any fun c => (Hex.digit? c).isSome

/-- Whether a text starts with a number of hexadecimal digits. -/
def startsWithHex (count : Nat) (cs : List Symbol) : Bool :=
  (cs.take count).length == count && (cs.take count).all isHexDigit

/-- Whether a backslash may stand in front of `c` and the text behind it. -/
def isEscape (c : Char) (rest : List Symbol) : Bool :=
  if c = 'u' then startsWithHex 4 rest
  else if c = 'x' then startsWithHex 2 rest
  else "\"'\\/bfnrtv0\n\r".toList.contains c || isLineSeparator c

/-- The body of a string up to its closing quote, and what follows it. -/
def stringBody? (quote : Char) : List Symbol → Option (List Symbol × List Symbol)
  | some '\\' :: some c :: rest =>
    if isEscape c rest then
      (stringBody? quote rest).map fun (body, rest) => (some '\\' :: some c :: body, rest)
    else none
  | some '\\' :: _ => none
  | c :: rest =>
    if c = some quote then some ([], rest)
    else (stringBody? quote rest).map fun (body, rest) => (c :: body, rest)
  | [] => none

/-! ## Words -/

def isAlphanumeric (c : Symbol) : Bool := c.any Char.isAlphanum

/-- What follows a word at the start of a text. -/
def after? (word : String) (cs : List Symbol) : Option (List Symbol) :=
  go word.toList cs
where
  go : List Char → List Symbol → Option (List Symbol)
    | [], cs => some cs
    | l :: ls, some c :: cs => if c = l then go ls cs else none
    | _ :: _, _ => none

/-- What follows a word at the start of a text, in letters of either case. -/
def afterAnyCase? (word : String) (cs : List Symbol) : Option (List Symbol) :=
  after? word ((cs.take word.length).map (Option.map Char.toLower)) |>.map fun _ =>
    cs.drop word.length

/-- The words for values, in the order they are tried in. Words for what is no
number count as null. -/
def words : List (String × Bool × Document) :=
  [("true", true, bool true), ("false", true, bool false), ("null", true, null),
   ("inf", false, number ⟨"9e999".toList, true⟩),
   ("infinity", false, number ⟨"9e999".toList, true⟩),
   ("nan", false, null), ("qnan", false, null), ("snan", false, null)]

/-- The value of a word at the start of a text, and what follows it. No letter or
digit may follow it. -/
def word? (cs : List Symbol) : Option (Document × List Symbol) :=
  words.findSome? fun (word, exactCase, value) =>
    match if exactCase then after? word cs else afterAnyCase? word cs with
    | some rest => if (rest.head?.any isAlphanumeric) then none else some (value, rest)
    | none => none

/-- Whether a symbol may stand in a key without quotes. -/
def isKeySymbol (c : Symbol) : Bool :=
  match c with
  | none => true
  | some c => c.isAlphanum || c = '$' || c = '_' || (0x80 ≤ c.toNat && !isBlank c)

/-- What a text starts with that may stand in a key without quotes, and what
follows it. -/
def bareKey : List Symbol → List Symbol × List Symbol
  | some '\\' :: some 'u' :: rest =>
    if startsWithHex 4 rest then
      let (key, rest) := bareKey rest
      (some '\\' :: some 'u' :: key, rest)
    else ([], some '\\' :: some 'u' :: rest)
  | c :: rest =>
    if isKeySymbol c then
      let (key, rest) := bareKey rest
      (c :: key, rest)
    else ([], c :: rest)
  | [] => ([], [])

/-! ## Numbers -/

/-- The digits in front of a text, and what follows them. -/
def digits : List Symbol → List Char × List Symbol
  | some c :: rest =>
    if c.isDigit then
      let (more, rest) := digits rest
      (c :: more, rest)
    else ([], some c :: rest)
  | cs => ([], cs)

/-- The exponent of a number, and what follows it. -/
def exponent? (cs : List Symbol) : Option (List Char × List Symbol) :=
  match cs with
  | some e :: rest =>
    if e = 'e' ∨ e = 'E' then
      let (sign, rest) :=
        match rest with
        | some '+' :: rest => (['+'], rest)
        | some '-' :: rest => (['-'], rest)
        | _ => ([], rest)
      let (digits, rest) := digits rest
      if digits.isEmpty then none else some (e :: sign ++ digits, rest)
    else some ([], cs)
  | _ => some ([], cs)

/-- A decimal number behind its sign. At least one digit stands before or behind
the point, and a zero is put where there is none. -/
def decimal? (cs : List Symbol) : Option (List Char × List Symbol) := do
  let (whole, cs) := digits cs
  if 1 < whole.length ∧ whole.head? = some '0' then none
  match cs with
  | some '.' :: rest =>
    let (fraction, rest) := digits rest
    if whole.isEmpty ∧ fraction.isEmpty then none
    let (scale, rest) ← exponent? rest
    let orZero (digits : List Char) := if digits.isEmpty then ['0'] else digits
    return (orZero whole ++ '.' :: orZero fraction ++ scale, rest)
  | _ =>
    if whole.isEmpty then none
    let (scale, rest) ← exponent? cs
    return (whole ++ scale, rest)

/-- A hexadecimal number behind its mark. It is written in decimal if 64 bits can
hold it, and otherwise as a number that is larger than every other one. -/
def hexadecimal (cs : List Symbol) : Numeral × List Symbol :=
  let digits := cs.takeWhile isHexDigit
  let n := hexOf digits
  let rest := cs.drop digits.length
  if n ≤ 0xFFFFFFFFFFFFFFFF then (⟨Nat.toDigits 10 n, true⟩, rest)
  else (⟨"9.0e999".toList, false⟩, rest)

/-- A number, and what follows it. An infinite one is written with its sign as
well, and then anything may follow the word. -/
def number? (cs : List Symbol) : Option (Numeral × List Symbol) :=
  let (signed, sign, cs) :=
    match cs with
    | some '-' :: rest => (true, ['-'], rest)
    | some '+' :: rest => (true, [], rest)
    | _ => (false, [], cs)
  let signedNumeral (n : Numeral) : Numeral := { n with text := sign ++ n.text }
  match cs with
  | some '0' :: some x :: rest =>
    if (x = 'x' ∨ x = 'X') ∧ startsWithHex 1 rest then
      let (n, rest) := hexadecimal rest
      some (signedNumeral n, rest)
    else (decimal? cs).map fun (written, rest) => (signedNumeral ⟨written, true⟩, rest)
  | _ =>
    match if signed then afterAnyCase? "inf" cs else none with
    | some rest =>
      some (signedNumeral ⟨"9e999".toList, true⟩, (afterAnyCase? "inity" rest).getD rest)
    | none => (decimal? cs).map fun (written, rest) => (signedNumeral ⟨written, true⟩, rest)

/-! ## Documents -/

/-- The key of a member, and what follows it. A key without quotes is no word for
a value. -/
def key? (cs : List Symbol) : Option (List Symbol × List Symbol) :=
  match cs with
  | some '"' :: rest => stringBody? '"' rest
  | some '\'' :: rest => stringBody? '\'' rest
  | cs =>
    if (word? cs).isSome || cs.head?.any (·.any Char.isDigit) then none
    else
      let (key, rest) := bareKey cs
      if key.isEmpty then none else some (key, rest)

/-- How deep lists and objects may be nested. -/
def maxDepth : Nat := 1000

mutual

/-- The document in front of a text, and what follows it. `depth` is the number
of levels that may still be entered. The bound is on the depth of the document
and the number of its parts together. -/
def value? : (bound depth : Nat) → List Symbol → Option (Document × List Symbol)
  | 0, _, _ => none
  | bound + 1, depth, cs =>
    match skipBlanks cs with
    | some '"' :: rest => (stringBody? '"' rest).map fun (body, rest) => (text body, rest)
    | some '\'' :: rest => (stringBody? '\'' rest).map fun (body, rest) => (text body, rest)
    | some '[' :: rest =>
      match depth with
      | 0 => none
      | depth + 1 => (items? bound depth rest).map fun (items, rest) => (list items, rest)
    | some '\x7b' :: rest =>
      match depth with
      | 0 => none
      | depth + 1 => (members? bound depth rest).map fun (members, rest) => (object members, rest)
    | cs => (word? cs).or ((number? cs).map fun (n, rest) => (number n, rest))

/-- The items of a list up to its closing bracket. -/
def items? : (bound depth : Nat) → List Symbol → Option (List Document × List Symbol)
  | 0, _, _ => none
  | bound + 1, depth, cs =>
    match skipBlanks cs with
    | some ']' :: rest => some ([], rest)
    | cs => do
      let (item, cs) ← value? bound depth cs
      match skipBlanks cs with
      | some ',' :: rest =>
        let (items, rest) ← items? bound depth rest
        return (item :: items, rest)
      | some ']' :: rest => return ([item], rest)
      | _ => failure

/-- The members of an object up to its closing brace. -/
def members? : (bound depth : Nat) → List Symbol →
    Option (List (List Symbol × Document) × List Symbol)
  | 0, _, _ => none
  | bound + 1, depth, cs =>
    match skipBlanks cs with
    | some '\x7d' :: rest => some ([], rest)
    | cs => do
      let (key, cs) ← key? cs
      match skipBlanks cs with
      | some ':' :: cs =>
        let (item, cs) ← value? bound depth cs
        match skipBlanks cs with
        | some ',' :: rest =>
          let (members, rest) ← members? bound depth rest
          return ((key, item) :: members, rest)
        | some '\x7d' :: rest => return ([(key, item)], rest)
        | _ => failure
      | _ => failure

end

/-- The document that a text is, as far as its first zero. -/
def parse? (cs : List Symbol) : Option Document :=
  let cs := cs.takeWhile (· != some (Char.ofNat 0))
  match value? (2 * cs.length + 2) maxDepth cs with
  | some (d, rest) => if (skipBlanks rest).isEmpty then some d else none
  | none => none

end ObjectGateway.Durable.Document
