/-!
# Lines and words

A line is ended by a line feed, by a carriage return and a line feed, or by the
end of the text.  A word is a longest run of characters that are not blank, where
the blanks are the 25 characters with the Unicode property `White_Space`.
-/

namespace VirtualMonitor.Text

/-- The characters with the property `White_Space`. -/
def isBlank (character : Char) : Bool :=
  let code := character.toNat
  (0x09 ≤ code && code ≤ 0x0D) || code == 0x20 || code == 0x85 || code == 0xA0 ||
    code == 0x1680 || (0x2000 ≤ code && code ≤ 0x200A) || code == 0x2028 || code == 0x2029 ||
    code == 0x202F || code == 0x205F || code == 0x3000

/-- Drops the carriage return at the end of a line that a line feed ended. -/
def dropReturn (line : List Char) : List Char :=
  if line.getLast? = some '\r' then line.dropLast else line

/-- The lines of a text, without their ends; a text that ends in a line feed has
no empty line after it. -/
def lines (text : List Char) : List (List Char) :=
  let pieces := text.splitOn '\n'
  pieces.dropLast.map dropReturn ++ (pieces.getLast?.toList.filter fun piece => !piece.isEmpty)

/-- The first word of a line, if it has one. -/
def firstWord? (line : List Char) : Option (List Char) :=
  let word := (line.dropWhile isBlank).takeWhile fun character => !isBlank character
  if word.isEmpty then none else some word

def occursIn (pattern : List Char) : List Char → Bool
  | [] => pattern.isEmpty
  | character :: rest => pattern.isPrefixOf (character :: rest) || occursIn pattern rest

theorem occursIn_nil (text : List Char) : occursIn [] text = true := by
  cases text <;> simp [occursIn]

theorem occursIn_iff_isInfix (pattern text : List Char) :
    occursIn pattern text = true ↔ pattern <:+: text := by
  induction text with
  | nil => simp [occursIn]
  | cons character rest ih =>
    rw [occursIn, Bool.or_eq_true, List.isPrefixOf_iff_prefix, ih, List.infix_cons_iff]

end VirtualMonitor.Text
