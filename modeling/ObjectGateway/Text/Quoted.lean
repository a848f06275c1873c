import ObjectGateway.Text.Unprintable
/-!
# Quoted text for diagnostics

A text between double quotes in which every character that cannot be read on
its own is written as an escape: quotes, backslashes and the usual control
characters by a letter, other unprintable characters by their number.
-/
namespace ObjectGateway.Quoted

/-- How one character stands between the quotes. -/
def escape (c : Char) : List Char :=
  if c = '"' then ['\\', '"']
  else if c = '\\' then ['\\', '\\']
  else if c = '\n' then ['\\', 'n']
  else if c = '\r' then ['\\', 'r']
  else if c = '\t' then ['\\', 't']
  else if c.toNat = 0 then ['\\', '0']
  else if Unprintable.isUnprintable c then
    ['\\', 'u', '\x7b'] ++ Nat.toDigits 16 c.toNat ++ ['\x7d']
  else [c]

def quote (text : String) : String :=
  String.ofList ('"' :: text.toList.flatMap escape ++ ['"'])

end ObjectGateway.Quoted
