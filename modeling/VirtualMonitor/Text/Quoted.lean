import VirtualMonitor.Text.Hidden

/-!
# Quoted text

A text is shown to a person between double quotes.  Double quotes and backslashes
inside it, a few controls and the characters that cannot be seen on their own are
written as escapes, so that the text can be read off what is shown.
-/

namespace VirtualMonitor.Text

def hexNumeral (value : Nat) : List Char := Nat.toDigits 16 value

/-- How a character is shown inside quotes. -/
def showCharacter (character : Char) : List Char :=
  if character = Char.ofNat 0 then ['\\', '0']
  else if character = '\t' then ['\\', 't']
  else if character = '\n' then ['\\', 'n']
  else if character = '\r' then ['\\', 'r']
  else if character = '"' then ['\\', '"']
  else if character = '\\' then ['\\', '\\']
  else if isHidden character then ['\\', 'u', '\x7b'] ++ hexNumeral character.toNat ++ ['\x7d']
  else [character]

def quoted (text : String) : String :=
  String.ofList ('"' :: text.toList.flatMap showCharacter ++ ['"'])

end VirtualMonitor.Text
