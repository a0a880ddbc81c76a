import VirtualMonitor.Json

/-!
# JSON tokens

A JSON text is cut into marks, words, numbers and strings, with blanks between
them.  Every token shows where it ends, so the cut needs no look at the grammar
above: two values side by side are a fault of the grammar, not of the cut.
-/

namespace VirtualMonitor.Json

/-- The marks that give a text its structure. -/
inductive Mark where
  | openArray
  | closeArray
  | openObject
  | closeObject
  | colon
  | comma
  deriving DecidableEq

/-- A smallest piece of a JSON text. -/
inductive Token where
  | mark (value : Mark)
  | null
  | bool (value : Bool)
  | number (value : Number)
  | string (text : Option String)
  deriving DecidableEq

def isBlank (character : Char) : Bool :=
  character == ' ' || character == '\t' || character == '\n' || character == '\r'

/-! ## Strings -/

/-- A piece of a string: a character, or a 16-bit unit written as an escape. -/
inductive Piece where
  | character (value : Char)
  | unit (value : Nat)
  deriving DecidableEq

def hexDigit? (character : Char) : Option Nat :=
  if character.isDigit then some (character.toNat - '0'.toNat)
  else if 'a' ≤ character ∧ character ≤ 'f' then some (character.toNat - 'a'.toNat + 10)
  else if 'A' ≤ character ∧ character ≤ 'F' then some (character.toNat - 'A'.toNat + 10)
  else none

def hexUnit? (first second third fourth : Char) : Option Nat := do
  let first ← hexDigit? first
  let second ← hexDigit? second
  let third ← hexDigit? third
  let fourth ← hexDigit? fourth
  return ((first * 16 + second) * 16 + third) * 16 + fourth

/-- What an escape with one character stands for. -/
def shortEscape? : Char → Option Char
  | '"' => some '"'
  | '\\' => some '\\'
  | '/' => some '/'
  | 'b' => some '\x08'
  | 'f' => some '\x0c'
  | 'n' => some '\n'
  | 'r' => some '\r'
  | 't' => some '\t'
  | _ => none

/-- Reads the pieces of a string up to its closing quote, and the text behind
it.  Control characters must be escaped. -/
def pieces? : List Char → Option (List Piece × List Char)
  | '"' :: rest => some ([], rest)
  | '\\' :: 'u' :: first :: second :: third :: fourth :: rest => do
    let value ← hexUnit? first second third fourth
    let (pieces, rest) ← pieces? rest
    return (.unit value :: pieces, rest)
  | '\\' :: escape :: rest => do
    let value ← shortEscape? escape
    let (pieces, rest) ← pieces? rest
    return (.character value :: pieces, rest)
  | character :: rest =>
    if character.toNat < 0x20 || character == '\\' then none
    else do
      let (pieces, rest) ← pieces? rest
      return (.character character :: pieces, rest)
  | [] => none

def isHighHalf (value : Nat) : Bool := 0xD800 ≤ value && value ≤ 0xDBFF

def isLowHalf (value : Nat) : Bool := 0xDC00 ≤ value && value ≤ 0xDFFF

/-- The characters of a string: two matching halves make one character, and a
half alone makes the string no text. -/
def characters? : List Piece → Option (List Char)
  | [] => some []
  | .character value :: rest => (characters? rest).map (value :: ·)
  | .unit high :: .unit low :: rest =>
    if isHighHalf high then
      if isLowHalf low then
        (characters? rest).map (Char.ofNat (0x10000 + (high - 0xD800) * 0x400 + (low - 0xDC00)) :: ·)
      else none
    else if isLowHalf high then none
    else (characters? (.unit low :: rest)).map (Char.ofNat high :: ·)
  | .unit value :: rest =>
    if isHighHalf value || isLowHalf value then none
    else (characters? rest).map (Char.ofNat value :: ·)

def string? (text : List Char) : Option (Token × List Char) := do
  let (pieces, rest) ← pieces? text
  return (.string ((characters? pieces).map String.ofList), rest)

/-! ## Numbers -/

/-- The digits a text starts with, and the text behind them; there must be one. -/
def digits? (text : List Char) : Option (List Char × List Char) :=
  let digits := text.takeWhile Char.isDigit
  if digits.isEmpty then none else some (digits, text.dropWhile Char.isDigit)

def digitsValue (digits : List Char) : Nat :=
  digits.foldl (fun value digit => 10 * value + (digit.toNat - '0'.toNat)) 0

/-- Passes a fraction, if there is one; says whether there was. -/
def fraction? : List Char → Option (Bool × List Char)
  | '.' :: rest => (digits? rest).map fun (_, rest) => (true, rest)
  | rest => some (false, rest)

/-- Passes the sign of an exponent, if there is one. -/
def afterSign : List Char → List Char
  | '+' :: rest => rest
  | '-' :: rest => rest
  | rest => rest

/-- Passes an exponent, if there is one; says whether there was. -/
def exponent? : List Char → Option (Bool × List Char)
  | 'e' :: rest => (digits? (afterSign rest)).map fun (_, rest) => (true, rest)
  | 'E' :: rest => (digits? (afterSign rest)).map fun (_, rest) => (true, rest)
  | rest => some (false, rest)

/-- Reads a number behind its sign.  Only zero itself may start with a zero. -/
def unsignedNumber? (negative : Bool) (text : List Char) : Option (Token × List Char) := do
  let (digits, rest) ← digits? text
  if digits.head? == some '0' && digits.length != 1 then none
  let (fractional, rest) ← fraction? rest
  let (scaled, rest) ← exponent? rest
  return (.number ⟨negative, digitsValue digits, !fractional && !scaled⟩, rest)

/-! ## The cut -/

/-- The first token of a text that does not start with a blank, and the text
behind it. -/
def token? : List Char → Option (Token × List Char)
  | '[' :: rest => some (.mark .openArray, rest)
  | ']' :: rest => some (.mark .closeArray, rest)
  | '\x7b' :: rest => some (.mark .openObject, rest)
  | '\x7d' :: rest => some (.mark .closeObject, rest)
  | ':' :: rest => some (.mark .colon, rest)
  | ',' :: rest => some (.mark .comma, rest)
  | 'n' :: 'u' :: 'l' :: 'l' :: rest => some (.null, rest)
  | 't' :: 'r' :: 'u' :: 'e' :: rest => some (.bool true, rest)
  | 'f' :: 'a' :: 'l' :: 's' :: 'e' :: rest => some (.bool false, rest)
  | '"' :: rest => string? rest
  | '-' :: rest => unsignedNumber? true rest
  | text => unsignedNumber? false text

/-- Cuts a text into at most `fuel` tokens. -/
def tokensWithin? : Nat → List Char → Option (List Token)
  | fuel, text =>
    match text.dropWhile isBlank with
    | [] => some []
    | rest =>
      match fuel with
      | 0 => none
      | fuel + 1 => do
        let (token, rest) ← token? rest
        let tokens ← tokensWithin? fuel rest
        return token :: tokens

/-- The tokens of a text.  A token takes at least one character, so there are no
more of them than characters. -/
def tokens? (text : List Char) : Option (List Token) := tokensWithin? text.length text

end VirtualMonitor.Json
