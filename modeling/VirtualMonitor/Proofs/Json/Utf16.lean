import VirtualMonitor.Json.Token

/-!
# Strings are written in 16-bit units

An escape of four digits writes a 16-bit unit, and a character beyond the first plane takes
two of them.  `characters?_eq_some_iff` says what the reader makes of that: a string is the
text whose units are those of its pieces, and no text if there is none.

The units of a character never start those of another one (`utf16_append_eq_flatMap_iff`), so
a text is determined by its units.
-/

namespace VirtualMonitor.Json

/-- The 16-bit units of a character: itself, or the two halves of a pair. -/
def utf16 (character : Char) : List Nat :=
  let value := character.toNat
  if value < 0x10000 then [value]
  else [0xD800 + (value - 0x10000) / 0x400, 0xDC00 + (value - 0x10000) % 0x400]

/-- The 16-bit units that a piece of a string stands for. -/
def Piece.units : Piece → List Nat
  | .character value => utf16 value
  | .unit value => [value]

theorem isHighHalf_iff {value : Nat} :
    isHighHalf value = true ↔ 0xD800 ≤ value ∧ value ≤ 0xDBFF := by
  simp [isHighHalf]

theorem isLowHalf_iff {value : Nat} :
    isLowHalf value = true ↔ 0xDC00 ≤ value ∧ value ≤ 0xDFFF := by
  simp [isLowHalf]

/-- A character is written as itself, and is no half of a pair, or as two halves. -/
theorem utf16_cases (character : Char) :
    (utf16 character = [character.toNat] ∧
      isHighHalf character.toNat = false ∧ isLowHalf character.toNat = false) ∨
    ∃ high low, utf16 character = [high, low] ∧ isHighHalf high = true ∧ isLowHalf low = true ∧
      character.toNat = 0x10000 + (high - 0xD800) * 0x400 + (low - 0xDC00) := by
  have hvalid : character.toNat < 0xD800 ∨
      0xDFFF < character.toNat ∧ character.toNat < 0x110000 := character.valid
  unfold utf16
  simp only [Bool.eq_false_iff, ne_eq, isHighHalf_iff, isLowHalf_iff]
  split
  · left
    refine ⟨rfl, by omega, by omega⟩
  · right
    exact ⟨_, _, rfl, by omega, by omega, by omega⟩

theorem utf16_ne_nil (character : Char) : utf16 character ≠ [] := by
  rcases utf16_cases character with ⟨hunits, -⟩ | ⟨high, low, hunits, -⟩ <;> simp [hunits]

theorem toNat_ofNat {value : Nat} (hvalid : value.isValidChar) :
    (Char.ofNat value).toNat = value := by
  rw [Char.ofNat, dif_pos hvalid]
  rfl

/-- A unit that is no half of a pair is a character. -/
theorem utf16_ofNat {value : Nat} (hbound : value < 0x10000) (hhigh : ¬isHighHalf value = true)
    (hlow : ¬isLowHalf value = true) : utf16 (Char.ofNat value) = [value] := by
  rw [isHighHalf_iff] at hhigh
  rw [isLowHalf_iff] at hlow
  have hvalid : value.isValidChar := by
    unfold Nat.isValidChar
    omega
  simp only [utf16, toNat_ofNat hvalid, if_pos hbound]

/-- Two matching halves are a character. -/
theorem utf16_ofNat_pair {high low : Nat} (hhigh : isHighHalf high = true)
    (hlow : isLowHalf low = true) :
    utf16 (Char.ofNat (0x10000 + (high - 0xD800) * 0x400 + (low - 0xDC00))) = [high, low] := by
  rw [isHighHalf_iff] at hhigh
  rw [isLowHalf_iff] at hlow
  have hvalid : (0x10000 + (high - 0xD800) * 0x400 + (low - 0xDC00)).isValidChar := by
    unfold Nat.isValidChar
    omega
  have hfirst : 0xD800 + (0x10000 + (high - 0xD800) * 0x400 + (low - 0xDC00) - 0x10000) / 0x400 =
      high := by omega
  have hsecond : 0xDC00 + (0x10000 + (high - 0xD800) * 0x400 + (low - 0xDC00) - 0x10000) % 0x400 =
      low := by omega
  simp only [utf16, toNat_ofNat hvalid]
  rw [if_neg (by omega), hfirst, hsecond]

/-- The units of a text start with those of a character only if the text does. -/
theorem utf16_append_eq_flatMap_iff {character : Char} {units : List Nat} {text : List Char} :
    utf16 character ++ units = text.flatMap utf16 ↔
      ∃ rest, text = character :: rest ∧ units = rest.flatMap utf16 := by
  constructor
  · intro hunits
    cases text with
    | nil =>
        rw [List.flatMap_nil, List.append_eq_nil_iff] at hunits
        exact absurd hunits.1 (utf16_ne_nil character)
    | cons first rest =>
        rw [List.flatMap_cons] at hunits
        -- the first unit tells whether there is a second, and the units tell the character
        have hsame : character = first ∧ units = rest.flatMap utf16 := by
          rcases utf16_cases character with ⟨hwritten, hhigh, hlow⟩ |
            ⟨high, low, hwritten, hhigh, hlow, hvalue⟩ <;>
          rcases utf16_cases first with ⟨hfirst, hfirstHigh, hfirstLow⟩ |
            ⟨firstHigh, firstLow, hfirst, hfirstHigh, hfirstLow, hfirstValue⟩
          all_goals simp only [hwritten, hfirst, List.cons_append, List.nil_append,
            List.cons.injEq] at hunits
          · exact ⟨Char.toNat_inj.mp hunits.1, hunits.2⟩
          · rw [hunits.1, hfirstHigh] at hhigh
            cases hhigh
          · rw [← hunits.1, hhigh] at hfirstHigh
            cases hfirstHigh
          · obtain ⟨rfl, rfl, hrest⟩ := hunits
            exact ⟨Char.toNat_inj.mp (hvalue.trans hfirstValue.symm), hrest⟩
        obtain ⟨rfl, hrest⟩ := hsame
        exact ⟨rest, rfl, hrest⟩
  · rintro ⟨rest, rfl, rfl⟩
    rfl

/-- What starts with a character does not start with a low half. -/
theorem isLowHalf_head_utf16 (character : Char) (units : List Nat) :
    ∀ unit ∈ (utf16 character ++ units).head?, isLowHalf unit = false := by
  rcases utf16_cases character with ⟨hwritten, -, hlow⟩ | ⟨high, low, hwritten, hhigh, -⟩
  · simpa [hwritten] using hlow
  · rw [isHighHalf_iff] at hhigh
    simp only [hwritten, List.cons_append, List.head?_cons, Option.mem_some_iff, forall_eq',
      Bool.eq_false_iff, ne_eq, isLowHalf_iff]
    omega

/-- No text starts with a low half, or with a high half that no low half follows. -/
theorem flatMap_utf16_ne_of_half {value : Nat} {units : List Nat}
    (hhalf : isHighHalf value = true ∨ isLowHalf value = true)
    (hlone : isHighHalf value = true → ∀ low ∈ units.head?, isLowHalf low = false)
    (text : List Char) : value :: units ≠ text.flatMap utf16 := by
  intro hunits
  cases text with
  | nil => cases hunits
  | cons first rest =>
      rw [List.flatMap_cons] at hunits
      rcases utf16_cases first with ⟨hfirst, hhigh, hlow⟩ | ⟨high, low, hfirst, hhigh, hlow, -⟩
      · rw [hfirst, List.cons_append, List.cons.injEq] at hunits
        rw [← hunits.1] at hhigh hlow
        rcases hhalf with htrue | htrue
        · rw [hhigh] at htrue
          cases htrue
        · rw [hlow] at htrue
          cases htrue
      · rw [hfirst, List.cons_append, List.cons_append, List.cons.injEq] at hunits
        obtain ⟨rfl, rfl⟩ := hunits
        have hfalse := hlone hhigh low (by simp)
        rw [hlow] at hfalse
        cases hfalse

/-- The reader of strings gives the text whose units are those of the pieces. -/
theorem characters?_eq_some_iff {pieces : List Piece}
    (hbound : ∀ value, .unit value ∈ pieces → value < 0x10000) {text : List Char} :
    characters? pieces = some text ↔ pieces.flatMap Piece.units = text.flatMap utf16 := by
  induction pieces using characters?.induct generalizing text with
  | case1 =>
      cases text with
      | nil => simp [characters?]
      | cons first rest => simp [characters?, utf16_ne_nil]
  | case2 value rest ih =>
      rw [characters?, List.flatMap_cons, Piece.units, utf16_append_eq_flatMap_iff,
        Option.map_eq_some_iff]
      simp only [ih fun value hvalue => hbound value (.tail _ hvalue), and_comm, eq_comm]
  -- a high half before a low half: the two are one character above the basic plane
  | case3 high low rest hhigh hlow ih =>
      have hrest : ∀ value, .unit value ∈ rest → value < 0x10000 :=
        fun value hvalue => hbound value (.tail _ (.tail _ hvalue))
      have hpair : (Piece.unit high :: .unit low :: rest).flatMap Piece.units =
          utf16 (Char.ofNat (0x10000 + (high - 0xD800) * 0x400 + (low - 0xDC00))) ++
            rest.flatMap Piece.units := by
        rw [utf16_ofNat_pair hhigh hlow]
        rfl
      rw [characters?, if_pos hhigh, if_pos hlow, hpair, utf16_append_eq_flatMap_iff,
        Option.map_eq_some_iff]
      simp only [ih hrest, and_comm, eq_comm]
  -- a half that stands alone is in the encoding of no text, whatever follows it
  | case4 high low rest hhigh hlow =>
      rw [characters?, if_pos hhigh, if_neg hlow]
      refine iff_of_false nofun (flatMap_utf16_ne_of_half (.inl hhigh) (fun _ => ?_) text)
      simpa [Piece.units] using hlow
  | case5 high low rest hhigh hlow =>
      rw [characters?, if_neg hhigh, if_pos hlow]
      exact iff_of_false nofun
        (flatMap_utf16_ne_of_half (.inr hlow) (fun htrue => absurd htrue hhigh) text)
  -- neither half: the unit is a character by itself
  | case6 high low rest hhigh hlow ih =>
      have hsingle : (Piece.unit high :: .unit low :: rest).flatMap Piece.units =
          utf16 (Char.ofNat high) ++ (Piece.unit low :: rest).flatMap Piece.units := by
        rw [utf16_ofNat (hbound high List.mem_cons_self) hhigh hlow]
        rfl
      rw [characters?, if_neg hhigh, if_neg hlow, hsingle, utf16_append_eq_flatMap_iff,
        Option.map_eq_some_iff]
      simp only [ih fun value hvalue => hbound value (.tail _ hvalue), and_comm, eq_comm]
  | case7 value rest hlast hhalf =>
      rw [characters?, if_pos hhalf]
      · rw [Bool.or_eq_true] at hhalf
        refine iff_of_false nofun (flatMap_utf16_ne_of_half hhalf (fun _ => ?_) text)
        cases rest with
        | nil => nofun
        | cons piece rest =>
            cases piece with
            | unit low => exact absurd rfl (hlast low rest)
            | character next => exact isLowHalf_head_utf16 next _
      · exact hlast
  | case8 value rest hlast hhalf ih =>
      rw [Bool.or_eq_true, not_or] at hhalf
      have hsingle : (Piece.unit value :: rest).flatMap Piece.units =
          utf16 (Char.ofNat value) ++ rest.flatMap Piece.units := by
        rw [utf16_ofNat (hbound value List.mem_cons_self) hhalf.1 hhalf.2]
        rfl
      rw [characters?, if_neg (by rwa [Bool.or_eq_true, not_or]), hsingle,
        utf16_append_eq_flatMap_iff, Option.map_eq_some_iff]
      · simp only [ih fun value hvalue => hbound value (.tail _ hvalue), and_comm, eq_comm]
      · exact hlast

end VirtualMonitor.Json
