import ObjectGateway.Text.Hex
/-!
# JSON strings

How a text stands between the quotes of a JSON string. Quotes, backslashes and
control characters are escaped; every other character stands for itself.
-/
namespace ObjectGateway.Json

/-- One character of a string. -/
def escape (c : Char) : List Char :=
  if c = '"' then ['\\', '"']
  else if c = '\\' then ['\\', '\\']
  else if c.toNat = 8 then ['\\', 'b']
  else if c.toNat = 9 then ['\\', 't']
  else if c.toNat = 10 then ['\\', 'n']
  else if c.toNat = 12 then ['\\', 'f']
  else if c.toNat = 13 then ['\\', 'r']
  else if c.toNat < 32 then ['\\', 'u'] ++ Hex.ofNat 4 c.toNat
  else [c]

/-- A text as a JSON string, quotes included. -/
def string (text : String) : List Char :=
  '"' :: text.toList.flatMap escape ++ ['"']

/-- Items between brackets, separated by commas. -/
def bracketed (opening closing : Char) (items : List (List Char)) : List Char :=
  opening :: (items.intersperse [',']).flatten ++ [closing]

end ObjectGateway.Json
