import ObjectGateway.Attributes
import ObjectGateway.Json.Failure
/-!
# Reading stored attributes

The reader of the text that `Attributes.encode` writes. It accepts any JSON
array of two-element arrays of strings, and tells where and why another text
fails.

Readers take the text still to be read and return what is left of it. A failure
remembers how many bytes were left when it was noticed, from which its line and
column follow.
-/
namespace ObjectGateway.Attributes

open Json (Reason Found Wanted Failure)

/-- A reason, with the number of bytes left when it was noticed. -/
structure Stop where
  reason : Reason
  left : Nat
deriving DecidableEq, Repr

/-- The number of bytes that a text takes up. -/
def byteCount : List Char → Nat
  | [] => 0
  | c :: cs => c.utf8Size + byteCount cs

/-- Stop in front of the text `cs`. -/
def stopAt {α : Type} (reason : Reason) (cs : List Char) : Except Stop α :=
  .error ⟨reason, byteCount cs⟩

/-- Stop within the next byte of the text `cs`, or at its end. -/
def stopOn {α : Type} (reason : Reason) (cs : List Char) : Except Stop α :=
  .error ⟨reason, byteCount cs - 1⟩

/-- Line and column of a stop in the text `whole`. -/
def Stop.place (whole : List Char) (s : Stop) : Failure :=
  let read := ((String.ofList whole).toUTF8.toList).take (byteCount whole - s.left)
  let lines := read.count 10
  let column := (read.reverse.takeWhile (· != 10)).length
  ⟨s.reason, lines + 1, column⟩

/-! ## Tokens -/

/-- The text without the blanks in front of it. -/
def skipBlanks (cs : List Char) : List Char :=
  cs.dropWhile fun c => c = ' ' || c = '\n' || c = '\t' || c = '\r'

/-- The value of four hexadecimal digits, and what follows them. -/
def hexEscape (cs : List Char) : Except Stop (Nat × List Char) :=
  if byteCount cs < 4 then stopAt .stringUnfinished []
  else
    match Hex.toNat? (cs.take 4) with
    | some n => .ok (n, cs.drop 4)
    | none => .error ⟨.badEscape, byteCount cs - 4⟩

/-- The character that a letter stands for behind a backslash. -/
def letterEscape? (c : Char) : Option Char :=
  if c = '"' ∨ c = '\\' ∨ c = '/' then some c
  else if c = 'b' then some (Char.ofNat 8)
  else if c = 'f' then some (Char.ofNat 12)
  else if c = 'n' then some '\n'
  else if c = 'r' then some '\r'
  else if c = 't' then some '\t'
  else none

/-- The character written by a four-digit escape. A leading surrogate must be
followed by the escape of a trailing one; the two together are one character. -/
def unicodeEscape (cs : List Char) : Except Stop (Char × List Char) := do
  let (n, cs) ← hexEscape cs
  if 0xDC00 ≤ n ∧ n ≤ 0xDFFF then stopAt .loneSurrogate cs
  else if n < 0xD800 ∨ 0xDBFF < n then .ok (Char.ofNat n, cs)
  else
    match cs with
    | '\\' :: 'u' :: rest =>
      let (low, rest) ← hexEscape rest
      if low < 0xDC00 ∨ 0xDFFF < low then stopAt .loneSurrogate rest
      else .ok (Char.ofNat ((n - 0xD800) * 1024 + (low - 0xDC00) + 0x10000), rest)
    | [] | ['\\'] => stopAt .stringUnfinished []
    | '\\' :: rest => stopOn .surrogateUnfinished rest
    | _ => stopOn .surrogateUnfinished cs

/-- The rest of a string behind its opening quote. The bound is the number of
characters that may still be read. -/
def stringBody : (bound : Nat) → List Char → Except Stop (List Char × List Char)
  | 0, cs => stopAt .stringUnfinished cs
  | _ + 1, [] => stopAt .stringUnfinished []
  | bound + 1, c :: cs =>
    if c = '"' then .ok ([], cs)
    else if c = '\\' then
      match cs with
      | [] => stopAt .stringUnfinished []
      | 'u' :: cs => do
        let (d, cs) ← unicodeEscape cs
        let (body, rest) ← stringBody bound cs
        return (d :: body, rest)
      | e :: cs =>
        match letterEscape? e with
        | none => stopOn .badEscape (e :: cs)
        | some d => do
          let (body, rest) ← stringBody bound cs
          return (d :: body, rest)
    else if c.toNat < 32 then stopAt .bareControl cs
    else do
      let (body, rest) ← stringBody bound cs
      return (c :: body, rest)

/-- A string behind its opening quote. -/
def stringRest (cs : List Char) : Except Stop (String × List Char) := do
  let (body, rest) ← stringBody (cs.length + 1) cs
  return (String.ofList body, rest)

/-! ## Values of another type -/

/-- The remaining letters of a word. -/
def word : (letters : List Char) → List Char → Except Stop (List Char)
  | [], cs => .ok cs
  | _ :: _, [] => stopAt .valueUnfinished []
  | l :: ls, c :: cs => if c = l then word ls cs else stopOn .wantedWord (c :: cs)

/-- Take digits on top of the value `n` while it stays within 64 bits. The result
is the value, the number of digits taken and the text behind them, which starts
with a digit if one did not fit. -/
def digitsThatFit (n taken : Nat) : List Char → Nat × Nat × List Char
  | [] => (n, taken, [])
  | c :: cs =>
    match Decimal.digit? c with
    | none => (n, taken, c :: cs)
    | some d =>
      if 10 * n + d > Decimal.maxUInt64 then (n, taken, c :: cs)
      else digitsThatFit (10 * n + d) (taken + 1) cs

/-- The largest exponent that can be written. -/
def maxExponent : Nat := 0x7FFFFFFF

/-- The digits of an exponent on top of `e`, and what follows them; no exponent
if a digit carries it past the largest one, and then what follows that digit. -/
def exponentDigits (e : Nat) : List Char → Option Nat × List Char
  | [] => (some e, [])
  | c :: cs =>
    match Decimal.digit? c with
    | none => (some e, c :: cs)
    | some d =>
      if 10 * e + d > maxExponent then (none, cs) else exponentDigits (10 * e + d) cs

/-- The number `n · 10^e` in front of the text `cs`. -/
def scaled (negative : Bool) (n : Nat) (e : Int) (cs : List Char) :
    Except Stop (Found × List Char) :=
  match Binary64.ofDecimal n e with
  | some x => .ok (.float negative x, cs)
  | none => stopAt .numberTooLarge cs

/-- The number `n · 10^e` times the power of ten whose exponent, if it has one,
stands behind its letter. -/
def exponentPart (negative : Bool) (n : Nat) (e : Int) (cs : List Char) :
    Except Stop (Found × List Char) :=
  match cs with
  | 'e' :: cs | 'E' :: cs =>
    let (down, cs) :=
      match cs with
      | '+' :: rest => (false, rest)
      | '-' :: rest => (true, rest)
      | _ => (false, cs)
    match cs with
    | [] => stopAt .valueUnfinished []
    | c :: _ =>
      if !c.isDigit then stopOn .badNumber cs
      else
        match exponentDigits 0 cs with
        | (some x, rest) => scaled negative n (if down then e - x else e + x) rest
        | (none, rest) =>
          if n ≠ 0 ∧ !down then stopAt .numberTooLarge rest
          else .ok (.float negative Binary64.zero, rest.dropWhile Char.isDigit)
  | _ => scaled negative n e cs

/-- The rest of a number behind its point. Digits that no longer fit are left
out. -/
def fractionPart (negative : Bool) (n : Nat) (e : Int) (cs : List Char) :
    Except Stop (Found × List Char) :=
  let (n, taken, rest) := digitsThatFit n 0 cs
  let left := rest.dropWhile Char.isDigit
  if taken = 0 ∧ left.length = rest.length then
    stopOn (if rest.isEmpty then .valueUnfinished else .badNumber) rest
  else exponentPart negative n (e - taken) left

/-- A number behind its sign. Whole numbers of 64 bits are kept as they are;
every other number is rounded. -/
def number (negative : Bool) (cs : List Char) : Except Stop (Found × List Char) :=
  match cs with
  | [] => stopAt .valueUnfinished []
  | first :: behind =>
    if !first.isDigit then stopOn .badNumber cs
    else if first = '0' ∧ behind.head?.any Char.isDigit then stopOn .badNumber behind
    else
      let (n, _, rest) := digitsThatFit 0 0 cs
      let left := rest.dropWhile Char.isDigit
      let e : Int := (rest.length : Int) - left.length
      match left with
      | '.' :: left => fractionPart negative n e left
      | 'e' :: _ | 'E' :: _ => exponentPart negative n e left
      | _ =>
        if e ≠ 0 then scaled negative n e left
        else if !negative then .ok (.integer n, left)
        else if n ≠ 0 ∧ n ≤ Decimal.maxInt64 + 1 then .ok (.integer (-n), left)
        else scaled negative n 0 left

/-- The failure at a value that is not of the wanted type. A value that is
itself malformed fails for that reason. -/
def wrongType {α : Type} (wanted : Wanted) (cs : List Char) : Except Stop α :=
  match cs with
  | 'n' :: rest => do
    let rest ← word "ull".toList rest
    stopAt (.wrongType .null wanted) rest
  | 't' :: rest => do
    let rest ← word "rue".toList rest
    stopAt (.wrongType (.bool true) wanted) rest
  | 'f' :: rest => do
    let rest ← word "alse".toList rest
    stopAt (.wrongType (.bool false) wanted) rest
  | '-' :: rest => do
    let (found, rest) ← number true rest
    stopAt (.wrongType found wanted) rest
  | '"' :: rest => do
    let (text, rest) ← stringRest rest
    stopAt (.wrongType (.text text) wanted) rest
  | '[' :: _ => stopAt (.wrongType .list wanted) cs
  | '\x7b' :: _ => stopAt (.wrongType .object wanted) cs
  | c :: _ =>
    if c.isDigit then do
      let (found, rest) ← number false cs
      stopAt (.wrongType found wanted) rest
    else stopOn .wantedValue cs
  | [] => stopOn .wantedValue cs

/-! ## Lists -/

/-- Step to the next item of a list: the text in front of it, or nothing when
the list ends. `first` says that no item has been read yet. -/
def nextItem (first : Bool) (cs : List Char) : Except Stop (Option (List Char)) :=
  let cs := skipBlanks cs
  match cs with
  | [] => stopOn .listUnfinished []
  | ']' :: _ => .ok none
  | c :: rest =>
    if first then .ok (some cs)
    else if c = ',' then
      let rest := skipBlanks rest
      match rest with
      | [] => stopOn .valueUnfinished []
      | ']' :: _ => stopOn .commaAtEnd rest
      | _ => .ok (some rest)
    else stopOn .wantedCommaOrEnd cs

/-- The closing bracket of a list whose items have all been read. -/
def closeList (cs : List Char) : Except Stop (List Char) :=
  let cs := skipBlanks cs
  match cs with
  | [] => stopOn .listUnfinished []
  | ']' :: rest => .ok rest
  | ',' :: rest =>
    let rest := skipBlanks rest
    match rest with
    | ']' :: _ => stopOn .commaAtEnd rest
    | _ => stopOn .textAfterEnd rest
  | _ => stopOn .textAfterEnd cs

def readText (cs : List Char) : Except Stop (String × List Char) :=
  match skipBlanks cs with
  | [] => stopOn .valueUnfinished []
  | '"' :: rest => stringRest rest
  | cs => wrongType .text cs

/-- A list of exactly two strings. -/
def readPair (cs : List Char) : Except Stop ((String × String) × List Char) :=
  match skipBlanks cs with
  | [] => stopOn .valueUnfinished []
  | '[' :: rest => do
    match ← nextItem true rest with
    | none => stopAt (.wrongLength 0 .pair) (← closeList rest)
    | some cs =>
      let (key, cs) ← readText cs
      match ← nextItem false cs with
      | none => stopAt (.wrongLength 1 .pair) (← closeList cs)
      | some cs =>
        let (value, cs) ← readText cs
        return ((key, value), ← closeList cs)
  | cs => wrongType .pair cs

/-- The pairs of a list behind its opening bracket, and what follows the list.
The bound is the number of pairs that may still be read. -/
def readPairs (bound : Nat) (first : Bool) (cs : List Char) :
    Except Stop (List (String × String) × List Char) :=
  match bound with
  | 0 => stopOn .listUnfinished cs
  | bound + 1 => do
    match ← nextItem first cs with
    | none => return ([], ← closeList cs)
    | some cs =>
      let (pair, cs) ← readPair cs
      let (pairs, cs) ← readPairs bound false cs
      return (pair :: pairs, cs)

/-- A whole text that holds one list of pairs. -/
def readAll (cs : List Char) : Except Stop Attributes :=
  match skipBlanks cs with
  | [] => stopOn .valueUnfinished []
  | '[' :: rest => do
    let (pairs, rest) ← readPairs (rest.length + 1) true rest
    match skipBlanks rest with
    | [] => return ⟨pairs⟩
    | rest => stopOn .textAfterEnd rest
  | cs => wrongType .pairs cs

/-- The attributes that a stored text holds. -/
def decode (text : String) : Except Failure Attributes :=
  (readAll text.toList).mapError (Stop.place text.toList)

end ObjectGateway.Attributes
