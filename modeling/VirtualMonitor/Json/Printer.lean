import VirtualMonitor.Json

/-!
# Writing JSON

A value is written without blanks.  In strings, quotes, backslashes and control
characters are escaped, with a short escape where there is one; everything else
stands for itself.
-/

namespace VirtualMonitor.Json

def hexDigit (value : Nat) : Char := Nat.digitChar value

/-- How a character is written inside a string. -/
def escape (character : Char) : List Char :=
  if character = '"' then ['\\', '"']
  else if character = '\\' then ['\\', '\\']
  else if character = '\x08' then ['\\', 'b']
  else if character = '\x0c' then ['\\', 'f']
  else if character = '\n' then ['\\', 'n']
  else if character = '\r' then ['\\', 'r']
  else if character = '\t' then ['\\', 't']
  else if character.toNat < 0x20 then
    ['\\', 'u', '0', '0', hexDigit (character.toNat / 16), hexDigit (character.toNat % 16)]
  else [character]

def quote (text : List Char) : List Char := '"' :: text.flatMap escape ++ ['"']

def commaSeparated (parts : List (List Char)) : List Char := (parts.intersperse [',']).flatten

def quoteAll (texts : List String) : List Char :=
  '[' :: commaSeparated (texts.map fun text => quote text.toList) ++ [']']

/-- An object whose members are already written. -/
def writeObject (members : List (String × List Char)) : List Char :=
  '\x7b' :: commaSeparated (members.map fun (key, value) => quote key.toList ++ ':' :: value) ++
    ['\x7d']

def writeInt (value : Int) : List Char := value.repr.toList

end VirtualMonitor.Json
