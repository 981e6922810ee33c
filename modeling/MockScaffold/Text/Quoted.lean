import MockScaffold.Text.Shown

namespace MockScaffold.Text

def quoteChar (c : Char) : List Char :=
  if c = '\x00' then ['\\', '0']
  else if c = '\t' then ['\\', 't']
  else if c = '\r' then ['\\', 'r']
  else if c = '\n' then ['\\', 'n']
  else if c = '"' then ['\\', '"']
  else if c = '\\' then ['\\', '\\']
  else if isShown c then [c]
  else ['\\', 'u', '\x7b'] ++ Nat.toDigits 16 c.toNat ++ ['\x7d']

/-- A text between quotes. -/
def quoted (text : String) : String :=
  String.ofList ('"' :: (text.toList.flatMap quoteChar ++ ['"']))

/-- A quote gets a backslash; a character that is not shown is spelled by its code point. -/
example : "a\"é\u00a0".toList.flatMap quoteChar =
    ['a', '\\', '"', 'é', '\\', 'u', '\x7b', 'a', '0', '\x7d'] := by decide +kernel

end MockScaffold.Text
