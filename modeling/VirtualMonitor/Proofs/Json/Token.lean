import Mathlib.Data.List.Chain
import VirtualMonitor.Json.Printer
import VirtualMonitor.Proofs.Json.Grammar
import VirtualMonitor.Proofs.Text.Numeral

/-!
# Written text is cut into the tokens it was written for

`Spells text tokens` says that the cut takes exactly `tokens` off a text that starts
with `text`, whatever stands behind it.  Only a number needs to know what follows: a
digit, a point or the sign of an exponent would prolong it, and `Stops` excludes them.

* `spells_of_writtenAs`: each way to write a token spells that token;
* `spells_of_written`: a row of tokens with blanks between them spells these tokens, unless
  two of them that are no marks stand side by side;
* `spells_quote`, `spells_writeInt`: what the printer writes for a text is a string that holds
  the text, whatever characters it is made of, and what it writes for an integer is a number
  that denotes it;
* `Spells.tokens?_eq`: a whole text that spells tokens is cut into them.
-/

namespace VirtualMonitor.Json

/-! ### Strings -/

theorem hexDigit?_of_isHexDigit {character : Char} {value : Nat}
    (hdigit : IsHexDigit character value) : hexDigit? character = some value := by
  have hlower : ∀ value < 16, hexDigit? (Nat.digitChar value) = some value := by decide
  have hupper : ∀ value < 16, hexDigit? (Nat.digitChar value).toUpper = some value := by decide
  obtain ⟨hlt, rfl | rfl⟩ := hdigit
  · exact hlower value hlt
  · exact hupper value hlt

theorem shortEscape?_of_mem {escape character : Char} (hmem : (escape, character) ∈ shortEscapes) :
    shortEscape? escape = some character := by
  have hall : ∀ pair ∈ shortEscapes, shortEscape? pair.1 = some pair.2 := by decide
  exact hall _ hmem

theorem pieces?_plain {character : Char} (hquote : character ≠ '"') (hescape : character ≠ '\\')
    (hcontrol : 0x20 ≤ character.toNat) (rest : List Char) :
    pieces? (character :: rest) =
      (pieces? rest).map fun (pieces, rest) => (.character character :: pieces, rest) := by
  have hnotControl : ¬character.toNat < 0x20 := Nat.not_lt.mpr hcontrol
  rw [pieces?]
  · simp only [hnotControl, hescape, decide_false, beq_iff_eq, Bool.false_or, if_false]
    cases pieces? rest <;> rfl
  · exact hquote
  · exact fun _ _ _ _ _ h _ => hescape h
  · exact fun _ _ h _ => hescape h

/-- An escape of one character stands for what it was written for. -/
theorem pieces?_shortEscape {character escaped : Char}
    (hshort : shortEscape? escaped = some character) (rest : List Char) :
    pieces? ('\\' :: escaped :: rest) =
      (pieces? rest).map fun (pieces, rest) => (.character character :: pieces, rest) := by
  have hunit : escaped ≠ 'u' := by
    rintro rfl
    exact nomatch hshort
  rw [pieces?, hshort]
  · cases pieces? rest <;> rfl
  · exact fun _ _ _ _ _ h _ => hunit h

/-- However a piece is written, it is read as that piece. -/
theorem pieces?_of_writtenAs {piece : Piece} {word : List Char} (hwritten : piece.WrittenAs word)
    (rest : List Char) :
    pieces? (word ++ rest) =
      (pieces? rest).map fun (pieces, rest) => (piece :: pieces, rest) := by
  cases hwritten with
  | plain hquote hbackslash hcontrol => exact pieces?_plain hquote hbackslash hcontrol rest
  | short hescapes => exact pieces?_shortEscape (shortEscape?_of_mem hescapes) rest
  | unit hfirst hsecond hthird hfourth =>
      simp only [List.cons_append, List.nil_append]
      rw [pieces?]
      simp only [hexUnit?, hexDigit?_of_isHexDigit hfirst, hexDigit?_of_isHexDigit hsecond,
        hexDigit?_of_isHexDigit hthird, hexDigit?_of_isHexDigit hfourth, Option.bind_eq_bind,
        Option.bind_some, Option.pure_def]
      cases pieces? rest <;> rfl

/-- The inside of a string is read up to the closing quote. -/
theorem pieces?_of_inside {pieces : List Piece} {body : List Char} (hinside : Inside pieces body)
    (rest : List Char) : pieces? (body ++ '"' :: rest) = some (pieces, rest) := by
  induction hinside with
  | nil => rfl
  | cons head tail ih => rw [List.append_assoc, pieces?_of_writtenAs head, ih, Option.map_some]

/-- Four hexadecimal digits write 16 bits. -/
theorem Inside.lt_of_unit_mem {pieces : List Piece} {body : List Char}
    (hinside : Inside pieces body) {value : Nat} (hmem : .unit value ∈ pieces) :
    value < 0x10000 := by
  induction hinside with
  | nil => cases hmem
  | cons head tail ih =>
      rcases List.mem_cons.mp hmem with heq | htail
      · cases head with
        | plain => cases heq
        | short => cases heq
        | unit hfirst hsecond hthird hfourth =>
            have hlt := And.intro hfirst.1 (And.intro hsecond.1 (And.intro hthird.1 hfourth.1))
            have hvalue := Piece.unit.inj heq
            omega
      · exact ih htail

theorem token?_of_inside {pieces : List Piece} {body : List Char} (hinside : Inside pieces body)
    (rest : List Char) :
    token? ('"' :: (body ++ ['"']) ++ rest) =
      some (.string ((characters? pieces).map String.ofList), rest) := by
  have hshape : '"' :: (body ++ ['"']) ++ rest = '"' :: (body ++ '"' :: rest) := by simp
  rw [hshape, token?, string?, pieces?_of_inside hinside]
  rfl

/-! ### Numbers -/

/-- Characters that would prolong a number. -/
def prolongs (character : Char) : Bool :=
  character.isDigit || character == '.' || character == 'e' || character == 'E'

/-- What follows ends a number: it is nothing, or starts with no character that would
prolong it. -/
def Stops (rest : List Char) : Prop := ∀ character ∈ rest.head?, prolongs character = false

theorem stops_nil : Stops [] := by simp [Stops]

theorem stops_cons {character : Char} {rest : List Char} :
    Stops (character :: rest) ↔ prolongs character = false := by
  simp [Stops]

theorem Stops.append {first second : List Char} (hfirst : Stops first) (hsecond : Stops second) :
    Stops (first ++ second) := by
  cases first with
  | nil => exact hsecond
  | cons character first => exact stops_cons.mpr (stops_cons.mp hfirst)

theorem Stops.isDigit {rest : List Char} (hstops : Stops rest) :
    ∀ character ∈ rest.head?, character.isDigit = false ∧ character ≠ '.' := by
  intro character hcharacter
  have hstop := hstops character hcharacter
  simp only [prolongs, Bool.or_eq_false_iff, beq_eq_false_iff_ne] at hstop
  exact hstop.1.1

theorem digits?_append {digits rest : List Char} (hdigits : IsDigits digits)
    (hrest : ∀ character ∈ rest.head?, character.isDigit = false) :
    digits? (digits ++ rest) = some (digits, rest) := by
  have htake : rest.takeWhile Char.isDigit = [] ∧ rest.dropWhile Char.isDigit = rest := by
    cases rest with
    | nil => exact ⟨rfl, rfl⟩
    | cons character rest =>
        have hstop : character.isDigit = false := hrest character rfl
        simp [hstop]
  unfold digits?
  rw [List.takeWhile_append_of_pos hdigits.isDigit, List.dropWhile_append_of_pos hdigits.isDigit,
    htake.1, htake.2, List.append_nil]
  simp [hdigits.ne_nil]

theorem fraction?_append {fractional : Bool} {fraction rest : List Char}
    (hfraction : FractionWritten fractional fraction)
    (hrest : ∀ character ∈ rest.head?, character.isDigit = false ∧ character ≠ '.') :
    fraction? (fraction ++ rest) = some (fractional, rest) := by
  cases hfraction with
  | absent =>
      rw [List.nil_append]
      unfold fraction?
      split
      · exact absurd rfl (hrest '.' rfl).2
      · rfl
  | present hdigits =>
      have hbehind : ∀ character ∈ rest.head?, character.isDigit = false :=
        fun character hcharacter => (hrest character hcharacter).1
      rw [List.cons_append, fraction?, digits?_append hdigits hbehind, Option.map_some]

/-- A digit is no sign of an exponent, so only the sign is passed. -/
theorem afterSign_append {sign digits : List Char}
    (hsign : sign = [] ∨ sign = ['+'] ∨ sign = ['-']) (hdigits : IsDigits digits)
    (rest : List Char) : afterSign (sign ++ digits ++ rest) = digits ++ rest := by
  rcases hsign with rfl | rfl | rfl
  · obtain ⟨digit, digits, rfl⟩ := List.exists_cons_of_ne_nil hdigits.ne_nil
    have hdigit := hdigits.isDigit digit List.mem_cons_self
    rw [List.nil_append, List.cons_append]
    unfold afterSign
    split
    · rename_i heq
      rw [(List.cons.inj heq).1] at hdigit
      cases hdigit
    · rename_i heq
      rw [(List.cons.inj heq).1] at hdigit
      cases hdigit
    · rfl
  · rfl
  · rfl

theorem exponent?_append {scaled : Bool} {exponent rest : List Char}
    (hexponent : ExponentWritten scaled exponent) (hstops : Stops rest) :
    exponent? (exponent ++ rest) = some (scaled, rest) := by
  cases hexponent with
  | absent =>
      rw [List.nil_append]
      unfold exponent?
      split
      · exact absurd (stops_cons.mp hstops) (by decide)
      · exact absurd (stops_cons.mp hstops) (by decide)
      · rfl
  | @present mark sign digits hmark hsign hdigits =>
      have hbehind := digits?_append hdigits fun character hcharacter =>
        (hstops.isDigit character hcharacter).1
      rcases hmark with rfl | rfl <;>
        rw [List.cons_append, exponent?, afterSign_append hsign hdigits, hbehind, Option.map_some]

/-- What an exponent starts with prolongs neither digits nor a fraction. -/
theorem head?_exponent {scaled : Bool} {exponent rest : List Char}
    (hexponent : ExponentWritten scaled exponent) (hstops : Stops rest) :
    ∀ character ∈ (exponent ++ rest).head?, character.isDigit = false ∧ character ≠ '.' := by
  cases hexponent with
  | absent => exact hstops.isDigit
  | present hmark hsign hdigits =>
      rintro character ⟨rfl⟩
      rcases hmark with rfl | rfl <;> decide

/-- What a fraction starts with is no digit. -/
theorem head?_fraction {fractional : Bool} {fraction rest : List Char}
    (hfraction : FractionWritten fractional fraction)
    (hrest : ∀ character ∈ rest.head?, character.isDigit = false ∧ character ≠ '.') :
    ∀ character ∈ (fraction ++ rest).head?, character.isDigit = false := by
  cases hfraction with
  | absent => exact fun character hcharacter => (hrest character hcharacter).1
  | present hdigits =>
      rintro character ⟨rfl⟩
      decide

/-- A number without its sign is read to its end, unless something prolongs it. -/
theorem unsignedNumber?_append {negative : Bool} {number : Number} {text rest : List Char}
    (hwritten : UnsignedWritten negative number text) (hstops : Stops rest) :
    unsignedNumber? negative (text ++ rest) = some (.number number, rest) := by
  obtain @⟨whole, fraction, exponent, fractional, scaled, hdigits, hzero, hfraction, hexponent⟩ :=
    hwritten
  have hbehind := head?_exponent hexponent hstops
  have hwhole := digits?_append hdigits (head?_fraction hfraction hbehind)
  have hleading : ¬(whole.head? == some '0' && whole.length != 1) = true := by
    rw [Bool.and_eq_true, beq_iff_eq, bne_iff_ne]
    rintro ⟨hhead, hlength⟩
    rw [hzero hhead] at hlength
    exact hlength rfl
  simp only [unsignedNumber?, List.append_assoc, hwhole, Option.bind_eq_bind, Option.bind_some,
    if_neg hleading, fraction?_append hfraction hbehind, exponent?_append hexponent hstops,
    Option.pure_def]
  rfl

theorem token?_of_isDigit {character : Char} (hdigit : character.isDigit = true)
    (rest : List Char) :
    token? (character :: rest) = unsignedNumber? false (character :: rest) := by
  have hne : ∀ other : Char, other.isDigit = false → character ≠ other := by
    rintro other hother rfl
    exact absurd hdigit (by simp [hother])
  rw [token?] <;> (intros; rename_i h; exact absurd (List.cons.inj h).1 (hne _ (by decide)))

/-! ### Tokens -/

theorem UnsignedWritten.eq_cons {negative : Bool} {number : Number} {text : List Char}
    (hwritten : UnsignedWritten negative number text) :
    ∃ digit rest, text = digit :: rest ∧ digit.isDigit = true := by
  obtain ⟨hdigits, -, -, -⟩ := hwritten
  obtain ⟨digit, digits, rfl⟩ := List.exists_cons_of_ne_nil hdigits.ne_nil
  exact ⟨digit, _, rfl, hdigits.isDigit digit List.mem_cons_self⟩

theorem isBlank_of_isDigit {character : Char} (hdigit : character.isDigit = true) :
    isBlank character = false := by
  cases hblank : isBlank character with
  | false => rfl
  | true =>
      simp only [isBlank, Bool.or_eq_true, beq_iff_eq] at hblank
      rcases hblank with ((rfl | rfl) | rfl) | rfl <;> exact absurd hdigit (by decide)

/-- However a token is written, it starts with no blank. -/
theorem Token.WrittenAs.eq_cons {token : Token} {word : List Char}
    (hwritten : token.WrittenAs word) :
    ∃ character rest, word = character :: rest ∧ isBlank character = false := by
  cases hwritten with
  | mark mark => exact ⟨_, _, rfl, by cases mark <;> decide⟩
  | unsigned written =>
      obtain ⟨digit, rest, hword, hdigit⟩ := written.eq_cons
      exact ⟨digit, rest, hword, isBlank_of_isDigit hdigit⟩
  | _ => exact ⟨_, _, rfl, by decide⟩

/-- However a token is written, it is read as that token, unless something prolongs it. -/
theorem token?_append {token : Token} {word rest : List Char} (hwritten : token.WrittenAs word)
    (hstops : Stops rest) : token? (word ++ rest) = some (token, rest) := by
  cases hwritten with
  | mark mark => cases mark <;> rfl
  | nullWord => rfl
  | trueWord => rfl
  | falseWord => rfl
  | unsigned written =>
      have hnumber := unsignedNumber?_append written hstops
      obtain ⟨digit, digits, rfl, hdigit⟩ := written.eq_cons
      rw [List.cons_append, token?_of_isDigit hdigit]
      exact hnumber
  | signed written =>
      rw [List.cons_append, token?]
      exact unsignedNumber?_append written hstops
  | string inside units =>
      have htext := (characters?_eq_some_iff fun _ => inside.lt_of_unit_mem).mpr units
      rw [token?_of_inside inside, htext, Option.map_some]
  | lone inside units =>
      have htext : characters? _ = none := Option.eq_none_iff_forall_not_mem.mpr fun text htext =>
        units text ((characters?_eq_some_iff fun _ => inside.lt_of_unit_mem).mp htext)
      rw [token?_of_inside inside, htext, Option.map_none]

/-! ### Spelling -/

/-- A text spells tokens when the cut takes them off every text that goes on from it
without prolonging a number. -/
structure Spells (text : List Char) (tokens : List Token) : Prop where
  length_le : tokens.length ≤ text.length
  cut : ∀ fuel rest, Stops rest →
    tokensWithin? (tokens.length + fuel) (text ++ rest) =
      (tokensWithin? fuel rest).map (tokens ++ ·)

theorem tokensWithin?_nil (fuel : Nat) : tokensWithin? fuel [] = some [] := by
  unfold tokensWithin?
  rfl

theorem tokensWithin?_of_token? {text rest : List Char} {character : Char} {token : Token}
    (fuel : Nat) (hblank : isBlank character = false)
    (htoken : token? (character :: text) = some (token, rest)) :
    tokensWithin? (fuel + 1) (character :: text) = (tokensWithin? fuel rest).map (token :: ·) := by
  rw [tokensWithin?, List.dropWhile_cons_of_neg (by simp [hblank])]
  simp only [htoken, Option.bind_eq_bind, Option.bind_some]
  cases tokensWithin? fuel rest <;> rfl

/-- A whole text that spells tokens is cut into them. -/
theorem Spells.tokens?_eq {text : List Char} {tokens : List Token} (h : Spells text tokens) :
    tokens? text = some tokens := by
  obtain ⟨fuel, hfuel⟩ := Nat.exists_eq_add_of_le h.length_le
  have hcut := h.cut fuel [] stops_nil
  rw [List.append_nil, ← hfuel, tokensWithin?_nil, Option.map_some, List.append_nil] at hcut
  exact hcut

theorem spells_nil : Spells [] [] where
  length_le := Nat.le_refl _
  cut fuel rest _ := by simp

theorem spells_of_writtenAs {token : Token} {word : List Char} (hwritten : token.WrittenAs word) :
    Spells word [token] := by
  have htoken := fun rest (hstops : Stops rest) => token?_append hwritten hstops
  obtain ⟨character, text, rfl, hblank⟩ := hwritten.eq_cons
  refine ⟨Nat.succ_le_succ (Nat.zero_le _), fun fuel rest hstops => ?_⟩
  rw [List.length_singleton, Nat.add_comm]
  exact tokensWithin?_of_token? fuel hblank (htoken rest hstops)

theorem Mark.stops (mark : Mark) (rest : List Char) : Stops (mark.character :: rest) := by
  rw [stops_cons]
  cases mark <;> decide

/-- A mark may stand in front of anything. -/
theorem Spells.mark_cons {text : List Char} {tokens : List Token} (h : Spells text tokens)
    (mark : Mark) : Spells (mark.character :: text) (.mark mark :: tokens) where
  length_le := Nat.succ_le_succ h.length_le
  cut fuel rest hstops := by
    have hblank : isBlank mark.character = false := by cases mark <;> decide
    have hmark : token? (mark.character :: (text ++ rest)) = some (.mark mark, text ++ rest) := by
      cases mark <;> rfl
    rw [List.length_cons, Nat.add_right_comm, List.cons_append,
      tokensWithin?_of_token? _ hblank hmark, h.cut fuel rest hstops, Option.map_map]
    rfl

/-- Texts in a row spell their tokens in a row. -/
theorem Spells.append {first second : List Char} {tokens further : List Token}
    (hfirst : Spells first tokens) (hsecond : Spells second further) (hstops : Stops second) :
    Spells (first ++ second) (tokens ++ further) where
  length_le := by
    rw [List.length_append, List.length_append]
    exact Nat.add_le_add hfirst.length_le hsecond.length_le
  cut fuel rest hrest := by
    rw [List.length_append, Nat.add_assoc, List.append_assoc, hfirst.cut _ _ (hstops.append hrest),
      hsecond.cut _ _ hrest, Option.map_map]
    simp [Function.comp_def]

/-- Blanks in front make no difference. -/
theorem Spells.blank_cons {character : Char} {text : List Char} {tokens : List Token}
    (h : Spells text tokens) (hblank : isBlank character = true) :
    Spells (character :: text) tokens where
  length_le := Nat.le_succ_of_le h.length_le
  cut fuel rest hrest := by
    rw [← h.cut fuel rest hrest, List.cons_append]
    unfold tokensWithin?
    rw [List.dropWhile_cons_of_pos hblank]

theorem isBlank_of_mem {character : Char} (hmem : character ∈ [' ', '\t', '\n', '\r']) :
    isBlank character = true := by
  simp only [List.mem_cons, List.not_mem_nil, or_false] at hmem
  rcases hmem with rfl | rfl | rfl | rfl <;> rfl

def Token.IsMark (token : Token) : Prop := ∃ mark, token = .mark mark

/-- Of two tokens that stand side by side, one is a mark. -/
def Separated (tokens : List Token) : Prop :=
  tokens.IsChain fun first second => first.IsMark ∨ second.IsMark

/-- Neither a mark nor a blank prolongs a number. -/
theorem stops_of_written {tokens : List Token} {text : List Char} (hwritten : Written tokens text)
    (hhead : ∀ token ∈ tokens.head?, token.IsMark) : Stops text := by
  cases hwritten with
  | nil => exact stops_nil
  | blank isBlank tail =>
      simp only [List.mem_cons, List.not_mem_nil, or_false] at isBlank
      rcases isBlank with rfl | rfl | rfl | rfl <;> exact stops_cons.mpr rfl
  | cons head tail =>
      obtain ⟨mark, rfl⟩ := hhead _ rfl
      cases head
      exact Mark.stops mark _

/-- A row of tokens, with blanks wherever one likes, spells these tokens. -/
theorem spells_of_written {tokens : List Token} {text : List Char} (hwritten : Written tokens text)
    (hseparated : Separated tokens) : Spells text tokens := by
  induction hwritten with
  | nil => exact spells_nil
  | blank isBlank tail ih => exact (ih hseparated).blank_cons (isBlank_of_mem isBlank)
  | @cons token word tokens text head tail ih =>
      have htail := ih hseparated.tail
      by_cases hmark : token.IsMark
      · obtain ⟨mark, rfl⟩ := hmark
        cases head
        exact htail.mark_cons mark
      · -- what follows a token that is no mark is a mark, if anything
        have hstops : Stops text := by
          refine stops_of_written tail fun next hnext => ?_
          obtain ⟨others, rfl⟩ := List.head?_eq_some_iff.mp hnext
          exact (List.isChain_cons_cons.mp hseparated).1.resolve_left hmark
        exact (spells_of_writtenAs head).append htail hstops

/-! ### What the printer writes -/

/-- The three ways to write a character inside a string. -/
theorem escape_cases (character : Char) :
    (∃ escaped, escape character = ['\\', escaped] ∧ (escaped, character) ∈ shortEscapes) ∨
      (character.toNat < 0x20 ∧ escape character = ['\\', 'u', '0', '0',
        hexDigit (character.toNat / 16), hexDigit (character.toNat % 16)]) ∨
      (character ≠ '"' ∧ character ≠ '\\' ∧ ¬ character.toNat < 0x20 ∧
        escape character = [character]) := by
  fun_cases escape character
  case case1 | case2 | case3 | case4 | case5 | case6 | case7 =>
    subst_vars
    exact .inl ⟨_, rfl, by decide⟩
  case case8 hcontrol => exact .inr (.inl ⟨hcontrol, rfl⟩)
  case case9 hquote hbackslash _ _ _ _ _ hcontrol =>
    exact .inr (.inr ⟨hquote, hbackslash, hcontrol, rfl⟩)

/-- Whatever a character is written as inside a string is one piece with its units. -/
theorem writtenAs_escape (character : Char) :
    ∃ piece : Piece, piece.WrittenAs (escape character) ∧ piece.units = utf16 character := by
  rcases escape_cases character with ⟨escaped, hwritten, hshort⟩ | ⟨hcontrol, hwritten⟩ |
    ⟨hquote, hbackslash, hcontrol, hwritten⟩ <;> rw [hwritten]
  · exact ⟨.character character, .short hshort, rfl⟩
  · have hdigit : ∀ value < 16, IsHexDigit (hexDigit value) value :=
      fun value hvalue => ⟨hvalue, .inl rfl⟩
    have hunit := Piece.WrittenAs.unit (hdigit 0 (by omega)) (hdigit 0 (by omega))
      (hdigit (character.toNat / 16) (by omega)) (hdigit (character.toNat % 16) (by omega))
    refine ⟨_, hunit, ?_⟩
    have hvalue : ((0 * 16 + 0) * 16 + character.toNat / 16) * 16 + character.toNat % 16 =
        character.toNat := by omega
    have hfirst : character.toNat < 0x10000 := by omega
    rw [Piece.units, hvalue]
    exact (if_pos hfirst).symm
  · exact ⟨.character character, .plain hquote hbackslash (Nat.not_lt.mp hcontrol), rfl⟩

theorem inside_escape (text : List Char) :
    ∃ pieces, Inside pieces (text.flatMap escape) ∧
      pieces.flatMap Piece.units = text.flatMap utf16 := by
  induction text with
  | nil => exact ⟨[], .nil, rfl⟩
  | cons character text ih =>
      obtain ⟨pieces, hinside, hunits⟩ := ih
      obtain ⟨piece, hwritten, hunit⟩ := writtenAs_escape character
      exact ⟨piece :: pieces, .cons hwritten hinside, congrArg₂ (· ++ ·) hunit hunits⟩

theorem spells_quote (text : String) : Spells (quote text.toList) [.string (some text)] := by
  obtain ⟨pieces, hinside, hunits⟩ := inside_escape text.toList
  have hwritten := Token.WrittenAs.string hinside hunits
  rw [String.ofList_toList] at hwritten
  exact spells_of_writtenAs hwritten

/-- Only zero is written with a zero in front. -/
theorem toDigits_eq_cons {number : Nat} (hpos : 0 < number) :
    ∃ digit digits, Nat.toDigits 10 number = digit :: digits ∧ digit ≠ '0' := by
  induction number using Nat.strongRecOn with
  | ind number ih =>
      by_cases hsmall : number < 10
      · have hdigit : ∀ value < 10, 0 < value → Nat.digitChar value ≠ '0' := by decide
        exact ⟨_, _, Nat.toDigits_of_lt_base hsmall, hdigit number hsmall hpos⟩
      · obtain ⟨digit, digits, hfront, hdigit⟩ := ih (number / 10) (by omega) (by omega)
        rw [Nat.toDigits_of_base_le (by decide) (by omega), hfront]
        exact ⟨digit, _, List.cons_append, hdigit⟩

/-- The digits of a number are a number without fraction and exponent. -/
theorem unsignedWritten_repr (negative : Bool) (number : Nat) :
    UnsignedWritten negative ⟨negative, number, true⟩ number.repr.toList := by
  have hdigits : IsDigits number.repr.toList := by
    refine ⟨?_, fun _ => Text.isDigit_of_mem_repr⟩
    rw [Nat.toList_repr]
    exact Nat.toDigits_ne_nil
  have hzero : number.repr.toList.head? = some '0' → number.repr.toList = ['0'] := by
    rw [Nat.toList_repr]
    intro hhead
    rcases Nat.eq_zero_or_pos number with rfl | hpos
    · rfl
    · obtain ⟨digit, digits, hfront, hdigit⟩ := toDigits_eq_cons hpos
      rw [hfront] at hhead
      exact absurd (Option.some.inj hhead) hdigit
  have hvalue : Nat.ofDigitChars 10 number.repr.toList 0 = number := by
    rw [Nat.toList_repr]
    exact Nat.ofDigitChars_ten_toDigits
  have hwritten := @UnsignedWritten.mk negative _ _ _ _ _ hdigits hzero .absent .absent
  rwa [hvalue, List.append_nil, List.append_nil] at hwritten

theorem spells_writeInt (value : Int) : Spells (writeInt value) [.number (Number.ofInt value)] := by
  cases value with
  | ofNat number =>
      have hofInt : Number.ofInt (Int.ofNat number) = ⟨false, number, true⟩ := by
        simp [Number.ofInt]
      rw [hofInt]
      exact spells_of_writtenAs (.unsigned (unsignedWritten_repr false number))
  | negSucc number =>
      have hofInt : Number.ofInt (Int.negSucc number) = ⟨true, number + 1, true⟩ := by
        simp [Number.ofInt]
      have hwritten : writeInt (Int.negSucc number) = '-' :: (number + 1).repr.toList := by
        simp [writeInt, Int.repr]
      rw [hofInt, hwritten]
      exact spells_of_writtenAs (.signed (unsignedWritten_repr true (number + 1)))

end VirtualMonitor.Json
