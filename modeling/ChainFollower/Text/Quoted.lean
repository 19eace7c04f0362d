import ChainFollower.Text.Number
import ChainFollower.Text.Unprintable

/-!
Text in double quotes for messages and diagnostics: a backslash before a quote or a backslash, short
escapes for the usual controls, the code point in braces for whatever else would not show.
-/

namespace ChainFollower.Text

/-- How one character stands inside the quotes. A single quote stands for itself. -/
def escapeChar (c : Char) : List Char :=
  if c = '\x00' then ['\\', '0']
  else if c = '\t' then ['\\', 't']
  else if c = '\r' then ['\\', 'r']
  else if c = '\n' then ['\\', 'n']
  else if c = '\\' then ['\\', '\\']
  else if c = '"' then ['\\', '"']
  else if 0x20 ≤ c.toNat && c.toNat < 0x7f then [c]
  else if c.toNat < 0x20 || Unprintable.contains c.toNat then
    ['\\', 'u', '\x7b'] ++ hexadecimal c.toNat ++ ['\x7d']
  else [c]

def escape (s : List Char) : List Char :=
  s.flatMap escapeChar

def quote (s : String) : String :=
  String.ofList ('"' :: escape s.toList ++ ['"'])

end ChainFollower.Text
