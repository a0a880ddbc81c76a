import VirtualMonitor.Proofs.Json.Utf16

/-!
# How JSON is written

The grammar of JSON texts, said without a reader.  A text is a row of tokens with blanks
wherever one likes (`Written`).  A mark or a word is written in one way only; a number may
have a fraction and an exponent, and only zero starts with a zero; a string consists of
characters that stand for themselves, of escapes with one character, and of escapes with four
hexadecimal digits (`Token.WrittenAs`).
-/

namespace VirtualMonitor.Json

/-! ### Strings -/

def IsHexDigit (character : Char) (value : Nat) : Prop :=
  value < 16 ∧ (character = Nat.digitChar value ∨ character = (Nat.digitChar value).toUpper)

/-- What may stand behind a backslash, and what it stands for. -/
def shortEscapes : List (Char × Char) :=
  [('"', '"'), ('\\', '\\'), ('/', '/'), ('b', '\x08'), ('f', '\x0c'), ('n', '\n'), ('r', '\r'),
    ('t', '\t')]

/-- The ways to write a piece of a string. -/
inductive Piece.WrittenAs : Piece → List Char → Prop
  /-- Quotes, backslashes and control characters do not stand for themselves. -/
  | plain {character : Char} (quote : character ≠ '"') (backslash : character ≠ '\\')
      (control : 0x20 ≤ character.toNat) : WrittenAs (.character character) [character]
  | short {escape character : Char} (escapes : (escape, character) ∈ shortEscapes) :
      WrittenAs (.character character) ['\\', escape]
  | unit {first second third fourth : Char} {one two three four : Nat}
      (firstDigit : IsHexDigit first one) (secondDigit : IsHexDigit second two)
      (thirdDigit : IsHexDigit third three) (fourthDigit : IsHexDigit fourth four) :
      WrittenAs (.unit (((one * 16 + two) * 16 + three) * 16 + four))
        ['\\', 'u', first, second, third, fourth]

/-- The pieces of a string, written one after the other. -/
inductive Inside : List Piece → List Char → Prop
  | nil : Inside [] []
  | cons {piece : Piece} {word : List Char} {pieces : List Piece} {text : List Char}
      (head : piece.WrittenAs word) (tail : Inside pieces text) :
      Inside (piece :: pieces) (word ++ text)

/-! ### Numbers -/

structure IsDigits (text : List Char) : Prop where
  ne_nil : text ≠ []
  isDigit : ∀ digit ∈ text, digit.isDigit = true

/-- A fraction, or nothing where there is none. -/
inductive FractionWritten : Bool → List Char → Prop
  | absent : FractionWritten false []
  | present {digits : List Char} (isDigits : IsDigits digits) :
      FractionWritten true ('.' :: digits)

/-- An exponent, or nothing where there is none. -/
inductive ExponentWritten : Bool → List Char → Prop
  | absent : ExponentWritten false []
  | present {mark : Char} {sign digits : List Char} (isMark : mark = 'e' ∨ mark = 'E')
      (isSign : sign = [] ∨ sign = ['+'] ∨ sign = ['-']) (isDigits : IsDigits digits) :
      ExponentWritten true (mark :: (sign ++ digits))

/-- A number without its sign. -/
inductive UnsignedWritten (negative : Bool) : Number → List Char → Prop
  | mk {whole fraction exponent : List Char} {fractional scaled : Bool}
      (isDigits : IsDigits whole) (zero : whole.head? = some '0' → whole = ['0'])
      (hasFraction : FractionWritten fractional fraction)
      (hasExponent : ExponentWritten scaled exponent) :
      UnsignedWritten negative ⟨negative, Nat.ofDigitChars 10 whole 0, !fractional && !scaled⟩
        (whole ++ (fraction ++ exponent))

/-! ### Tokens -/

/-- The character of each mark. -/
def Mark.character : Mark → Char
  | .openArray => '['
  | .closeArray => ']'
  | .openObject => '\x7b'
  | .closeObject => '\x7d'
  | .colon => ':'
  | .comma => ','

/-- The ways to write a token. -/
inductive Token.WrittenAs : Token → List Char → Prop
  | mark (mark : Mark) : WrittenAs (.mark mark) [mark.character]
  | nullWord : WrittenAs .null ['n', 'u', 'l', 'l']
  | trueWord : WrittenAs (.bool true) ['t', 'r', 'u', 'e']
  | falseWord : WrittenAs (.bool false) ['f', 'a', 'l', 's', 'e']
  | unsigned {number : Number} {text : List Char} (written : UnsignedWritten false number text) :
      WrittenAs (.number number) text
  | signed {number : Number} {text : List Char} (written : UnsignedWritten true number text) :
      WrittenAs (.number number) ('-' :: text)
  /-- A string is the text that has the units of its pieces. -/
  | string {pieces : List Piece} {body characters : List Char} (inside : Inside pieces body)
      (units : pieces.flatMap Piece.units = characters.flatMap utf16) :
      WrittenAs (.string (some (String.ofList characters))) ('"' :: (body ++ ['"']))
  /-- A string with half of a pair alone is no text. -/
  | lone {pieces : List Piece} {body : List Char} (inside : Inside pieces body)
      (units : ∀ characters : List Char,
        pieces.flatMap Piece.units ≠ characters.flatMap utf16) :
      WrittenAs (.string none) ('"' :: (body ++ ['"']))

/-- A row of tokens, with blanks wherever one likes. -/
inductive Written : List Token → List Char → Prop
  | nil : Written [] []
  | blank {character : Char} {tokens : List Token} {text : List Char}
      (isBlank : character ∈ [' ', '\t', '\n', '\r']) (tail : Written tokens text) :
      Written tokens (character :: text)
  | cons {token : Token} {word : List Char} {tokens : List Token} {text : List Char}
      (head : token.WrittenAs word) (tail : Written tokens text) :
      Written (token :: tokens) (word ++ text)

end VirtualMonitor.Json
