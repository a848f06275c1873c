/-!
# ASCII letter case

Only the 26 Latin letters have a case here; every other character is its own
lower case.
-/
namespace ObjectGateway.LetterCase

/-- The lower case of an ASCII capital; every other character unchanged. -/
def lowerChar (c : Char) : Char :=
  if 'A' ≤ c ∧ c ≤ 'Z' then Char.ofNat (c.toNat + 32) else c

def lower (text : String) : String :=
  String.ofList (text.toList.map lowerChar)

/-- Equal up to the case of ASCII letters. -/
def same (a b : String) : Bool :=
  a.toList.map lowerChar == b.toList.map lowerChar

end ObjectGateway.LetterCase
