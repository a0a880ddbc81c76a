import VirtualMonitor.Proofs.Json.Value

/-!
# The reader gives what a text denotes

A text denotes a value if it is written with the tokens of that value (`Denotes`).  The
reader gives exactly the values that texts denote (`parse?_eq_some_iff`): it reads every way
of writing a value, however deep the value is nested, and nothing else.

One direction goes through `Spells`.  It needs that two tokens of a value which stand side by
side are never both without a mark (`separated_tokens`), as no blank has to part them.  For
the other direction each function of the reader gives back the text that it has taken off.
-/

namespace VirtualMonitor.Json

/-- A text denotes a value if it is a row of the value's tokens, with blanks wherever one
likes. -/
def Denotes (text : String) (value : Json) : Prop := Written value.tokens text.toList

/-! ### Every way of writing a value is read -/

theorem separated_mark_cons {tokens : List Token} (mark : Mark) (hseparated : Separated tokens) :
    Separated (.mark mark :: tokens) := by
  cases tokens with
  | nil => exact List.isChain_singleton _
  | cons token tokens => exact List.isChain_cons_cons.mpr ⟨.inl ⟨mark, rfl⟩, hseparated⟩

theorem separated_append_mark {tokens further : List Token} (mark : Mark)
    (htokens : Separated tokens) (hfurther : Separated further) :
    Separated (tokens ++ .mark mark :: further) := by
  refine List.isChain_append.mpr ⟨htokens, separated_mark_cons mark hfurther, ?_⟩
  intro last _ next hnext
  obtain rfl := Option.some_inj.mp hnext
  exact .inr ⟨mark, rfl⟩

theorem commaTokens_items (item next : Json) (items : List Json) :
    commaTokens (itemTokens (item :: next :: items)) =
      item.tokens ++ .mark .comma :: commaTokens (itemTokens (next :: items)) := by
  rw [itemTokens, itemTokens, commaTokens_cons_cons]

theorem commaTokens_members (key : Option String) (value : Json)
    (next : Option String × Json) (members : List (Option String × Json)) :
    commaTokens (memberTokens ((key, value) :: next :: members)) =
      .string key :: .mark .colon :: value.tokens ++
        .mark .comma :: commaTokens (memberTokens (next :: members)) := by
  rw [memberTokens, memberTokens, commaTokens_cons_cons]

mutual

/-- Between two values there is always a mark. -/
theorem separated_tokens : ∀ value : Json, Separated value.tokens
  | .null => List.isChain_singleton _
  | .bool _ => List.isChain_singleton _
  | .number _ => List.isChain_singleton _
  | .string _ => List.isChain_singleton _
  | .array items => by
      rw [tokens]
      exact separated_mark_cons _
        (separated_append_mark _ (separated_itemTokens items) List.isChain_nil)
  | .object members => by
      rw [tokens]
      exact separated_mark_cons _
        (separated_append_mark _ (separated_memberTokens members) List.isChain_nil)

theorem separated_itemTokens : ∀ items : List Json, Separated (commaTokens (itemTokens items))
  | [] => List.isChain_nil
  | [item] => by
      rw [itemTokens, itemTokens, commaTokens_singleton]
      exact separated_tokens item
  | item :: next :: items => by
      rw [commaTokens_items]
      exact separated_append_mark _ (separated_tokens item) (separated_itemTokens (next :: items))

theorem separated_memberTokens : ∀ members : List (Option String × Json),
    Separated (commaTokens (memberTokens members))
  | [] => List.isChain_nil
  | [(key, value)] => by
      rw [memberTokens, memberTokens, commaTokens_singleton]
      exact separated_append_mark _ (List.isChain_singleton (.string key)) (separated_tokens value)
  | (key, value) :: (next, member) :: members => by
      rw [commaTokens_members]
      have hmember := separated_append_mark .colon (List.isChain_singleton (.string key))
        (separated_tokens value)
      exact separated_append_mark _ hmember (separated_memberTokens ((next, member) :: members))

end

theorem parse?_of_denotes {text : String} {value : Json} (hdenotes : Denotes text value) :
    parse? text = some value :=
  parse?_of_spells (spells_of_written hdenotes (separated_tokens value))

/-! ### Strings that are read -/

theorem isHexDigit_of_hexDigit? {character : Char} {value : Nat}
    (hread : hexDigit? character = some value) : IsHexDigit character value := by
  have hlower : ∀ value < 16, 10 ≤ value → (Nat.digitChar value).toNat = value + 87 := by decide
  have hupper : ∀ value < 16, 10 ≤ value → (Nat.digitChar value).toUpper.toNat = value + 55 := by
    decide
  have hdigit : ∀ value < 10, (Nat.digitChar value).toNat = value + 48 := by decide
  -- the ranges of the reader, in order: digits, small letters, capitals
  unfold hexDigit? at hread
  split at hread
  · rename_i hrange
    obtain rfl := Option.some_inj.mp hread
    obtain ⟨hlow, hhigh⟩ : 48 ≤ character.toNat ∧ character.toNat ≤ 57 := by
      simpa [Char.isDigit, UInt32.le_iff_toNat_le] using hrange
    have hzero : '0'.toNat = 48 := rfl
    refine ⟨by omega, .inl (Char.toNat_inj.mp ?_)⟩
    rw [hdigit _ (by omega)]
    omega
  · split at hread
    · rename_i hrange
      obtain rfl := Option.some_inj.mp hread
      have hlow : 97 ≤ character.toNat := hrange.1
      have hhigh : character.toNat ≤ 102 := hrange.2
      have hletter : 'a'.toNat = 97 := rfl
      refine ⟨by omega, .inl (Char.toNat_inj.mp ?_)⟩
      rw [hlower _ (by omega) (by omega)]
      omega
    · split at hread
      · rename_i hrange
        obtain rfl := Option.some_inj.mp hread
        have hlow : 65 ≤ character.toNat := hrange.1
        have hhigh : character.toNat ≤ 70 := hrange.2
        have hletter : 'A'.toNat = 65 := rfl
        refine ⟨by omega, .inr (Char.toNat_inj.mp ?_)⟩
        rw [hupper _ (by omega) (by omega)]
        omega
      · cases hread

theorem mem_shortEscapes_of_shortEscape? {escape character : Char}
    (hread : shortEscape? escape = some character) : (escape, character) ∈ shortEscapes := by
  unfold shortEscape? at hread
  split at hread <;> cases hread <;> decide

/-- The reader of a string takes off its inside and the closing quote. -/
theorem inside_of_pieces? {text rest : List Char} {pieces : List Piece}
    (hread : pieces? text = some (pieces, rest)) :
    ∃ body, text = body ++ '"' :: rest ∧ Inside pieces body := by
  -- along the reader: each piece taken off is one that `Inside` writes
  induction text using pieces?.induct generalizing pieces with
  | case1 behind =>
      rw [pieces?, Option.some_inj, Prod.mk.injEq] at hread
      obtain ⟨rfl, rfl⟩ := hread
      exact ⟨[], rfl, .nil⟩
  | case2 first second third fourth behind ih =>
      rw [pieces?] at hread
      simp only [hexUnit?, Option.bind_eq_bind, Option.bind_eq_some_iff, Option.pure_def,
        Option.some_inj, Prod.exists, Prod.mk.injEq] at hread
      obtain ⟨_, ⟨one, hone, two, htwo, three, hthree, four, hfour, rfl⟩, others, _, hbehind, rfl,
        rfl⟩ := hread
      obtain ⟨body, rfl, hbody⟩ := ih hbehind
      exact ⟨['\\', 'u', first, second, third, fourth] ++ body, rfl,
        .cons (.unit (isHexDigit_of_hexDigit? hone) (isHexDigit_of_hexDigit? htwo)
          (isHexDigit_of_hexDigit? hthree) (isHexDigit_of_hexDigit? hfour)) hbody⟩
  | case3 escape behind hshape ih =>
      rw [pieces?] at hread
      · simp only [Option.bind_eq_bind, Option.bind_eq_some_iff, Option.pure_def, Option.some_inj,
          Prod.exists, Prod.mk.injEq] at hread
        obtain ⟨character, hescape, others, _, hbehind, rfl, rfl⟩ := hread
        obtain ⟨body, rfl, hbody⟩ := ih hbehind
        exact ⟨['\\', escape] ++ body, rfl,
          .cons (.short (mem_shortEscapes_of_shortEscape? hescape)) hbody⟩
      · exact hshape
  | case4 character behind hquote hunit hshort hbad =>
      rw [pieces?, if_pos hbad] at hread
      · cases hread
      · exact hquote
      · exact hunit
      · exact hshort
  | case5 character behind hquote hunit hshort hgood ih =>
      rw [pieces?, if_neg hgood] at hread
      · simp only [Option.bind_eq_bind, Option.bind_eq_some_iff, Option.pure_def, Option.some_inj,
          Prod.exists, Prod.mk.injEq] at hread
        obtain ⟨others, _, hbehind, rfl, rfl⟩ := hread
        obtain ⟨body, rfl, hbody⟩ := ih hbehind
        rw [Bool.or_eq_true, not_or, decide_eq_true_eq, beq_iff_eq, Nat.not_lt] at hgood
        exact ⟨[character] ++ body, rfl, .cons (.plain hquote hgood.2 hgood.1) hbody⟩
      · exact hquote
      · exact hunit
      · exact hshort
  | case6 => cases hread

theorem written_of_string? {text rest : List Char} {token : Token}
    (hread : string? text = some (token, rest)) :
    ∃ word, '"' :: text = word ++ rest ∧ token.WrittenAs word := by
  simp only [string?, Option.bind_eq_bind, Option.bind_eq_some_iff, Option.pure_def,
    Option.some_inj, Prod.exists, Prod.mk.injEq] at hread
  obtain ⟨pieces, _, hpieces, rfl, rfl⟩ := hread
  obtain ⟨body, rfl, hinside⟩ := inside_of_pieces? hpieces
  refine ⟨'"' :: (body ++ ['"']), by simp, ?_⟩
  -- the pieces are a text's encoding, or there is half of a pair alone among them
  have hunits := fun text => @characters?_eq_some_iff pieces (fun _ => hinside.lt_of_unit_mem) text
  cases htext : characters? pieces with
  | some text => exact .string hinside ((hunits text).mp htext)
  | none =>
      refine .lone hinside fun text hsame => ?_
      rw [(hunits text).mpr hsame] at htext
      cases htext

/-! ### Numbers that are read -/

theorem isDigits_of_digits? {text digits rest : List Char}
    (hread : digits? text = some (digits, rest)) : text = digits ++ rest ∧ IsDigits digits := by
  unfold digits? at hread
  dsimp only at hread
  split at hread
  · cases hread
  · rename_i hne
    obtain ⟨rfl, rfl⟩ := Prod.mk.inj (Option.some_inj.mp hread)
    refine ⟨List.takeWhile_append_dropWhile.symm, ⟨?_, fun digit hdigit => ?_⟩⟩
    · simpa using hne
    · exact List.all_eq_true.mp List.all_takeWhile digit hdigit

theorem written_of_fraction? {text rest : List Char} {fractional : Bool}
    (hread : fraction? text = some (fractional, rest)) :
    ∃ fraction, text = fraction ++ rest ∧ FractionWritten fractional fraction := by
  unfold fraction? at hread
  split at hread
  · obtain ⟨⟨digits, _⟩, hdigits, hsame⟩ := Option.map_eq_some_iff.mp hread
    obtain ⟨rfl, rfl⟩ := Prod.mk.inj hsame
    obtain ⟨rfl, hwritten⟩ := isDigits_of_digits? hdigits
    exact ⟨'.' :: digits, rfl, .present hwritten⟩
  · obtain ⟨rfl, rfl⟩ := Prod.mk.inj (Option.some_inj.mp hread)
    exact ⟨[], rfl, .absent⟩

theorem sign_of_afterSign (text : List Char) :
    ∃ sign, text = sign ++ afterSign text ∧ (sign = [] ∨ sign = ['+'] ∨ sign = ['-']) := by
  unfold afterSign
  split
  · exact ⟨['+'], rfl, .inr (.inl rfl)⟩
  · exact ⟨['-'], rfl, .inr (.inr rfl)⟩
  · exact ⟨[], rfl, .inl rfl⟩

theorem written_of_exponentDigits {mark : Char} {text rest : List Char} {scaled : Bool}
    (hmark : mark = 'e' ∨ mark = 'E')
    (hread : ((digits? (afterSign text)).map fun (_, rest) => (true, rest)) =
      some (scaled, rest)) :
    ∃ exponent, mark :: text = exponent ++ rest ∧ ExponentWritten scaled exponent := by
  obtain ⟨⟨digits, _⟩, hdigits, hsame⟩ := Option.map_eq_some_iff.mp hread
  obtain ⟨rfl, rfl⟩ := Prod.mk.inj hsame
  obtain ⟨hbehind, hwritten⟩ := isDigits_of_digits? hdigits
  obtain ⟨sign, htext, hsign⟩ := sign_of_afterSign text
  refine ⟨mark :: (sign ++ digits), ?_, .present hmark hsign hwritten⟩
  rw [List.cons_append, List.append_assoc, ← hbehind, ← htext]

theorem written_of_exponent? {text rest : List Char} {scaled : Bool}
    (hread : exponent? text = some (scaled, rest)) :
    ∃ exponent, text = exponent ++ rest ∧ ExponentWritten scaled exponent := by
  unfold exponent? at hread
  split at hread
  · exact written_of_exponentDigits (.inl rfl) hread
  · exact written_of_exponentDigits (.inr rfl) hread
  · obtain ⟨rfl, rfl⟩ := Prod.mk.inj (Option.some_inj.mp hread)
    exact ⟨[], rfl, .absent⟩

theorem written_of_unsignedNumber? {negative : Bool} {text rest : List Char} {token : Token}
    (hread : unsignedNumber? negative text = some (token, rest)) :
    ∃ number word, token = .number number ∧ text = word ++ rest ∧
      UnsignedWritten negative number word := by
  simp only [unsignedNumber?, Option.bind_eq_bind, Option.bind_eq_some_iff, Prod.exists] at hread
  obtain ⟨whole, behind, hwhole, hread⟩ := hread
  obtain ⟨rfl, hdigits⟩ := isDigits_of_digits? hwhole
  split at hread
  · cases hread
  · rename_i hleading
    simp only [Option.bind_eq_some_iff, Option.pure_def, Option.some_inj, Prod.exists,
      Prod.mk.injEq] at hread
    obtain ⟨fractional, _, hbehind, scaled, _, hend, rfl, rfl⟩ := hread
    obtain ⟨fraction, rfl, hfraction⟩ := written_of_fraction? hbehind
    obtain ⟨exponent, rfl, hexponent⟩ := written_of_exponent? hend
    -- a zero in front was turned away unless it is the whole part
    have hzero : whole.head? = some '0' → whole = ['0'] := by
      intro hhead
      obtain ⟨rest, rfl⟩ := List.head?_eq_some_iff.mp hhead
      simpa using hleading
    refine ⟨_, whole ++ (fraction ++ exponent), rfl, by simp only [List.append_assoc], ?_⟩
    exact .mk hdigits hzero hfraction hexponent

/-! ### Every text that is cut is written with the tokens -/

theorem written_of_token? {text rest : List Char} {token : Token}
    (hread : token? text = some (token, rest)) :
    ∃ word, text = word ++ rest ∧ token.WrittenAs word := by
  unfold token? at hread
  split at hread
  case h_10 => exact written_of_string? hread
  case h_11 =>
    obtain ⟨number, word, rfl, rfl, hwritten⟩ := written_of_unsignedNumber? hread
    exact ⟨'-' :: word, rfl, .signed hwritten⟩
  case h_12 =>
    obtain ⟨number, word, rfl, rfl, hwritten⟩ := written_of_unsignedNumber? hread
    exact ⟨word, rfl, .unsigned hwritten⟩
  all_goals obtain ⟨rfl, rfl⟩ := Prod.mk.inj (Option.some_inj.mp hread)
  case h_1 => exact ⟨['['], rfl, .mark .openArray⟩
  case h_2 => exact ⟨[']'], rfl, .mark .closeArray⟩
  case h_3 => exact ⟨['\x7b'], rfl, .mark .openObject⟩
  case h_4 => exact ⟨['\x7d'], rfl, .mark .closeObject⟩
  case h_5 => exact ⟨[':'], rfl, .mark .colon⟩
  case h_6 => exact ⟨[','], rfl, .mark .comma⟩
  case h_7 => exact ⟨['n', 'u', 'l', 'l'], rfl, .nullWord⟩
  case h_8 => exact ⟨['t', 'r', 'u', 'e'], rfl, .trueWord⟩
  case h_9 => exact ⟨['f', 'a', 'l', 's', 'e'], rfl, .falseWord⟩

theorem written_of_dropWhile_isBlank {tokens : List Token} {text : List Char}
    (hwritten : Written tokens (text.dropWhile isBlank)) : Written tokens text := by
  induction text with
  | nil => exact hwritten
  | cons character text ih =>
      cases hblank : isBlank character with
      | false => rwa [List.dropWhile_cons_of_neg (by simp [hblank])] at hwritten
      | true =>
          rw [List.dropWhile_cons_of_pos hblank] at hwritten
          have hmem : character ∈ [' ', '\t', '\n', '\r'] := by
            simpa [isBlank, or_assoc] using hblank
          exact .blank hmem (ih hwritten)

theorem written_of_tokensWithin? {fuel : Nat} {text : List Char} {tokens : List Token}
    (hread : tokensWithin? fuel text = some tokens) : Written tokens text := by
  fun_induction tokensWithin? fuel text generalizing tokens with
  | case1 fuel text hend =>
      apply written_of_dropWhile_isBlank
      obtain rfl := Option.some_inj.mp hread
      rw [hend]
      exact .nil
  | case2 => cases hread
  -- blanks may come before each token, so they are put back first
  | case3 text fuel hmore ih =>
      apply written_of_dropWhile_isBlank
      simp only [Option.bind_eq_bind, Option.bind_eq_some_iff, Option.pure_def, Option.some_inj,
        Prod.exists] at hread
      obtain ⟨token, behind, htoken, others, hothers, rfl⟩ := hread
      obtain ⟨word, hword, hwritten⟩ := written_of_token? htoken
      rw [hword]
      exact .cons hwritten (ih behind hothers)

/-! ### Every row of tokens that is read is that of the value -/

mutual

theorem tokens_of_value? : ∀ {fuel : Nat} {text rest : List Token} {value : Json},
    value? fuel text = some (value, rest) → text = value.tokens ++ rest
  | 0, _, _, _, hread => by cases hread
  | fuel + 1, text, rest, value, hread => by
      unfold value? at hread
      split at hread
      case h_7 hfuel =>
        cases hfuel
        simp only [Option.bind_eq_bind, Option.bind_eq_some_iff, Option.pure_def, Option.some_inj,
          Prod.exists, Prod.mk.injEq] at hread
        obtain ⟨items, _, hitems, rfl, rfl⟩ := hread
        rw [(tokens_of_items? hitems).2, tokens]
        simp only [List.cons_append, List.append_assoc, List.nil_append]
      case h_9 hfuel =>
        cases hfuel
        simp only [Option.bind_eq_bind, Option.bind_eq_some_iff, Option.pure_def, Option.some_inj,
          Prod.exists, Prod.mk.injEq] at hread
        obtain ⟨members, _, hmembers, rfl, rfl⟩ := hread
        rw [(tokens_of_members? hmembers).2, tokens]
        simp only [List.cons_append, List.append_assoc, List.nil_append]
      all_goals cases hread <;> rfl

theorem tokens_of_items? : ∀ {fuel : Nat} {text rest : List Token} {items : List Json},
    items? fuel text = some (items, rest) →
      items ≠ [] ∧ text = commaTokens (itemTokens items) ++ .mark .closeArray :: rest
  | 0, _, _, _, hread => by cases hread
  | fuel + 1, text, rest, items, hread => by
      simp only [items?, Option.bind_eq_bind, Option.bind_eq_some_iff, Prod.exists] at hread
      obtain ⟨item, behind, hitem, hread⟩ := hread
      obtain rfl := tokens_of_value? hitem
      split at hread
      · obtain ⟨rfl, rfl⟩ := Prod.mk.inj (Option.some_inj.mp hread)
        exact ⟨List.cons_ne_nil _ _, by rw [itemTokens, itemTokens, commaTokens_singleton]⟩
      · simp only [Option.bind_eq_some_iff, Option.pure_def, Option.some_inj, Prod.exists,
          Prod.mk.injEq] at hread
        obtain ⟨others, _, hothers, rfl, rfl⟩ := hread
        obtain ⟨hne, rfl⟩ := tokens_of_items? hothers
        -- behind a comma there is an item, so the comma stands between two
        obtain ⟨next, others, rfl⟩ := List.exists_cons_of_ne_nil hne
        refine ⟨List.cons_ne_nil _ _, ?_⟩
        rw [commaTokens_items]
        simp only [List.cons_append, List.append_assoc]
      · cases hread

theorem tokens_of_members? : ∀ {fuel : Nat} {text rest : List Token}
    {members : List (Option String × Json)}, members? fuel text = some (members, rest) →
      members ≠ [] ∧ text = commaTokens (memberTokens members) ++ .mark .closeObject :: rest
  | 0, _, _, _, hread => by cases hread
  | fuel + 1, text, rest, members, hread => by
      unfold members? at hread
      split at hread
      case h_2 hfuel =>
        cases hfuel
        simp only [Option.bind_eq_bind, Option.bind_eq_some_iff, Prod.exists] at hread
        obtain ⟨value, behind, hvalue, hread⟩ := hread
        obtain rfl := tokens_of_value? hvalue
        split at hread
        · obtain ⟨rfl, rfl⟩ := Prod.mk.inj (Option.some_inj.mp hread)
          refine ⟨List.cons_ne_nil _ _, ?_⟩
          rw [memberTokens, memberTokens, commaTokens_singleton]
          simp only [List.cons_append]
        · simp only [Option.bind_eq_some_iff, Option.pure_def, Option.some_inj, Prod.exists,
            Prod.mk.injEq] at hread
          obtain ⟨others, _, hothers, rfl, rfl⟩ := hread
          obtain ⟨hne, rfl⟩ := tokens_of_members? hothers
          obtain ⟨⟨next, member⟩, others, rfl⟩ := List.exists_cons_of_ne_nil hne
          refine ⟨List.cons_ne_nil _ _, ?_⟩
          rw [commaTokens_members]
          simp only [List.cons_append, List.append_assoc]
        · cases hread
      all_goals cases hread

end

/-- The reader gives a value exactly if the text denotes it. -/
theorem parse?_eq_some_iff {text : String} {value : Json} :
    parse? text = some value ↔ Denotes text value := by
  constructor
  · intro hread
    simp only [parse?, tokens?, Option.bind_eq_bind, Option.bind_eq_some_iff, Prod.exists] at hread
    obtain ⟨tokens, htokens, _, rest, hvalue, hend⟩ := hread
    split at hend
    · rename_i hempty
      obtain rfl := Option.some_inj.mp hend
      have hwritten := written_of_tokensWithin? htokens
      rw [tokens_of_value? hvalue, List.isEmpty_iff.mp hempty, List.append_nil] at hwritten
      exact hwritten
    · cases hend
  · exact parse?_of_denotes

end VirtualMonitor.Json
