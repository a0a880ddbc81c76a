/-!
# Universally unique identifiers

A client session is known by a UUID: 32 hexadecimal digits.  It is read with or
without hyphens and in either case, and written in lower case with hyphens after
8, 12, 16 and 20 digits.
-/

namespace VirtualMonitor

/-- A UUID, digit by digit. -/
structure Uuid where
  digits : Vector (Fin 16) 32
  deriving DecidableEq

namespace Uuid

def digitChar (digit : Fin 16) : Char := Nat.digitChar digit.val

def digitOf (number : Nat) : Fin 16 := Fin.ofNat 16 number

/-- The digit that a character stands for, in either case. -/
def digit? (character : Char) : Option (Fin 16) :=
  if '0' ≤ character ∧ character ≤ '9' then some (digitOf (character.toNat - '0'.toNat))
  else if 'a' ≤ character ∧ character ≤ 'f' then
    some (digitOf (character.toNat - 'a'.toNat + 10))
  else if 'A' ≤ character ∧ character ≤ 'F' then
    some (digitOf (character.toNat - 'A'.toNat + 10))
  else none

def plain (uuid : Uuid) : List Char := uuid.digits.toList.map digitChar

/-- The written form, with hyphens. -/
def text (uuid : Uuid) : String :=
  let digits := uuid.plain
  String.ofList (digits.take 8 ++ '-' :: (digits.drop 8).take 4 ++ '-' :: (digits.drop 12).take 4 ++
    '-' :: (digits.drop 16).take 4 ++ '-' :: digits.drop 20)

/-- The first eight digits, which displays are named after. -/
def short (uuid : Uuid) : String := String.ofList (uuid.plain.take 8)

/-- The digits of a text whose hyphens stand in their four places, or that has none. -/
def undashed (text : List Char) : List Char :=
  let hyphens := [8, 13, 18, 23]
  if text.length = 36 ∧ hyphens.all fun place => text[place]? == some '-' then
    text.take 8 ++ (text.drop 9).take 4 ++ (text.drop 14).take 4 ++ (text.drop 19).take 4 ++
      text.drop 24
  else text

def parse? (text : String) : Option Uuid :=
  ((undashed text.toList).mapM digit?).bind fun digits =>
    if h : digits.toArray.size = 32 then some ⟨⟨digits.toArray, h⟩⟩ else none

end Uuid

end VirtualMonitor
