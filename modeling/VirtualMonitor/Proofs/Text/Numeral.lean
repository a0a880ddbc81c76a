import VirtualMonitor.Text.Numeral
import VirtualMonitor.Text.Utf8

/-!
# Numerals and the numbers they write

`IsNumeral` is the grammar of numerals.  `readNumeral_eq_ok_iff` says that what is read is
exactly the numerals up to the bound, `isNumeral_repr` that the decimal digits of a number are
a numeral of it, and `map_utf8_of_lt` that digits survive being stored as bytes: like every
character below 128, a digit is one byte of its own value.
-/

namespace VirtualMonitor.Text

/-! ## Digits are read to the end -/

/-- Digits stand for a number no smaller than what they go on from. -/
private theorem le_ofDigitChars (value : Nat) (digits : List Char) :
    value ≤ Nat.ofDigitChars 10 digits value := by
  induction digits generalizing value with
  | nil => simp
  | cons digit digits ih =>
      rw [Nat.ofDigitChars_cons]
      exact Nat.le_trans (by omega) (ih _)

/-- Reading digits gives their number, provided that the number keeps the bound. -/
theorem readDigits_of_isDigit {bound value : Nat} {digits : List Char}
    (hdigits : ∀ digit ∈ digits, digit.isDigit = true)
    (hbound : Nat.ofDigitChars 10 digits value ≤ bound) :
    readDigits bound value digits = .ok (Nat.ofDigitChars 10 digits value) := by
  induction digits generalizing value with
  | nil => rw [readDigits, Nat.ofDigitChars_nil]
  | cons digit digits ih =>
      have hdigit : digit.isDigit = true := hdigits digit List.mem_cons_self
      rw [Nat.ofDigitChars_cons] at hbound ⊢
      -- what is read so far is no more than the whole, so the bound holds all along
      have hsofar := Nat.le_trans (le_ofDigitChars _ digits) hbound
      rw [readDigits, if_pos hdigit, if_pos hsofar]
      exact ih (fun other hother => hdigits other (List.mem_cons_of_mem _ hother)) hbound

theorem isDigit_of_mem_repr {number : Nat} {character : Char}
    (hcharacter : character ∈ number.repr.toList) : character.isDigit = true := by
  rw [Nat.toList_repr] at hcharacter
  exact Nat.isDigit_of_mem_toDigits (by decide) (by decide) hcharacter

/-- A row of digits is a numeral without a sign. -/
theorem readNumeral_of_isDigit {bound : Nat} {digits : List Char} (hne : digits ≠ [])
    (hdigits : ∀ digit ∈ digits, digit.isDigit = true) :
    readNumeral bound digits = readDigits bound 0 digits := by
  unfold readNumeral
  split
  · exact absurd rfl hne
  · exact absurd (hdigits '+' (by simp)) (by decide)
  · exact absurd (hdigits '+' (by simp)) (by decide)
  · rfl

/-! ## What is a numeral -/

/-- At most one plus sign and behind it digits, at least one, that stand for a value. -/
def IsNumeral (text : List Char) (value : Nat) : Prop :=
  ∃ digits, digits ≠ [] ∧ (∀ digit ∈ digits, digit.isDigit = true) ∧
    (text = digits ∨ text = '+' :: digits) ∧ value = Nat.ofDigitChars 10 digits 0

/-- A numeral is written with digits and plus signs. -/
theorem IsNumeral.isDigit_or {text : List Char} {value : Nat} (hnumeral : IsNumeral text value) :
    ∀ character ∈ text, character.isDigit = true ∨ character = '+' := by
  obtain ⟨digits, -, hdigits, rfl | rfl, -⟩ := hnumeral
  · exact fun character hcharacter => .inl (hdigits character hcharacter)
  · intro character hcharacter
    rcases List.mem_cons.mp hcharacter with rfl | hdigit
    · exact .inr rfl
    · exact .inl (hdigits character hdigit)

theorem isNumeral_repr (number : Nat) : IsNumeral number.repr.toList number := by
  refine ⟨number.repr.toList, ?_, fun _ => isDigit_of_mem_repr, .inl rfl, ?_⟩
  · rw [Nat.toList_repr]
    exact Nat.toDigits_ne_nil
  · rw [Nat.toList_repr, Nat.ofDigitChars_ten_toDigits]

/-- Only digits are read to the end, and only up to the bound. -/
theorem digits_of_readDigits {bound value number : Nat} {digits : List Char}
    (hread : readDigits bound value digits = .ok number) (hvalue : value ≤ bound) :
    (∀ digit ∈ digits, digit.isDigit = true) ∧ number = Nat.ofDigitChars 10 digits value ∧
      number ≤ bound := by
  induction digits generalizing value with
  | nil =>
      rw [readDigits] at hread
      obtain rfl := Except.ok.inj hread
      exact ⟨fun _ hmem => absurd hmem List.not_mem_nil, (Nat.ofDigitChars_nil ..).symm, hvalue⟩
  | cons digit digits ih =>
      rw [readDigits] at hread
      split at hread
      next hdigit =>
        dsimp only at hread
        split at hread
        next hsofar =>
          obtain ⟨hdigits, hnumber, hbound⟩ := ih hread hsofar
          refine ⟨List.forall_mem_cons.mpr ⟨hdigit, hdigits⟩, ?_, hbound⟩
          rw [Nat.ofDigitChars_cons]
          exact hnumber
        next => cases hread
      next => cases hread

/-- What is read is exactly the numerals that keep the bound. -/
theorem readNumeral_eq_ok_iff {bound number : Nat} {text : List Char} :
    readNumeral bound text = .ok number ↔ IsNumeral text number ∧ number ≤ bound := by
  constructor
  · intro hread
    have hsound {digits : List Char} (hne : digits ≠ [])
        (hread : readDigits bound 0 digits = .ok number)
        (htext : text = digits ∨ text = '+' :: digits) :
        IsNumeral text number ∧ number ≤ bound := by
      obtain ⟨hdigits, hnumber, hbound⟩ := digits_of_readDigits hread (Nat.zero_le _)
      exact ⟨⟨digits, hne, hdigits, htext, hnumber⟩, hbound⟩
    unfold readNumeral at hread
    split at hread
    next => cases hread
    next => cases hread
    next digits hplus => exact hsound (fun hnil => hplus hnil) hread (.inr rfl)
    next hne _ _ => exact hsound hne hread (.inl rfl)
  · rintro ⟨⟨digits, hne, hdigits, htext, rfl⟩, hbound⟩
    have hread : readDigits bound 0 digits = .ok (Nat.ofDigitChars 10 digits 0) :=
      readDigits_of_isDigit hdigits hbound
    rcases htext with rfl | rfl
    · rw [readNumeral_of_isDigit hne hdigits, hread]
    · rw [readNumeral, hread]
      exact hne

/-! ## Digits as bytes -/

theorem toNat_lt_of_isDigit {character : Char} (hdigit : character.isDigit = true) :
    character.toNat < 128 := by
  simp only [Char.isDigit, Bool.and_eq_true, decide_eq_true_eq] at hdigit
  have hle : character.toNat ≤ 57 := hdigit.2
  omega

theorem IsNumeral.toNat_lt {text : List Char} {value : Nat} (hnumeral : IsNumeral text value) :
    ∀ character ∈ text, character.toNat < 128 := by
  intro character hcharacter
  rcases hnumeral.isDigit_or character hcharacter with hdigit | rfl
  · exact toNat_lt_of_isDigit hdigit
  · decide

theorem utf8EncodeChar_of_lt {character : Char} (hlt : character.toNat < 128) :
    String.utf8EncodeChar character = [UInt8.ofNat character.toNat] := by
  have hsize : character.utf8Size = 1 :=
    Char.utf8Size_eq_one_iff.mpr (UInt32.le_iff_toNat_le.mpr (Nat.le_of_lt_succ hlt))
  exact String.utf8EncodeChar_eq_singleton hsize

/-- A text of characters below 128 has one byte for each. -/
theorem utf8_of_lt {text : String} (hlt : ∀ character ∈ text.toList, character.toNat < 128) :
    utf8 text = text.toList.map fun character => UInt8.ofNat character.toNat := by
  unfold utf8
  generalize text.toList = characters at hlt ⊢
  induction characters with
  | nil => rfl
  | cons character rest ih =>
      rw [List.flatMap_cons, List.map_cons, utf8EncodeChar_of_lt (hlt character List.mem_cons_self),
        ih fun other hother => hlt other (List.mem_cons_of_mem _ hother), List.singleton_append]

/-- Read byte by byte, such a text is what it was. -/
theorem map_utf8_of_lt {text : String}
    (hlt : ∀ character ∈ text.toList, character.toNat < 128) :
    (utf8 text).map (fun byte => Char.ofNat byte.toNat) = text.toList := by
  rw [utf8_of_lt hlt, List.map_map]
  have hsame : ∀ character ∈ text.toList,
      Char.ofNat (UInt8.ofNat character.toNat).toNat = id character := by
    intro character hcharacter
    have hmod : (UInt8.ofNat character.toNat).toNat = character.toNat :=
      UInt8.toNat_ofNat_of_lt (Nat.lt_trans (hlt character hcharacter) (by decide))
    rw [hmod, Char.ofNat_toNat, id]
  exact (List.map_congr_left hsame).trans (List.map_id _)

/-- Bytes that read byte by byte give such a text are those of the text. -/
theorem utf8_of_map_eq {bytes : List UInt8} {text : String}
    (hread : bytes.map (fun byte => Char.ofNat byte.toNat) = text.toList)
    (hlt : ∀ character ∈ text.toList, character.toNat < 128) : utf8 text = bytes := by
  rw [utf8_of_lt hlt, ← hread, List.map_map]
  have hsame : ∀ byte ∈ bytes, UInt8.ofNat (Char.ofNat byte.toNat).toNat = id byte := by
    intro byte _
    have hvalid : byte.toNat.isValidChar := .inl (by have hbyte := byte.toNat_lt; omega)
    have hvalue : (Char.ofNat byte.toNat).toNat = byte.toNat := by
      rw [Char.ofNat, dif_pos hvalid]
      rfl
    rw [hvalue, UInt8.ofNat_toNat, id]
  exact (List.map_congr_left hsame).trans (List.map_id _)

end VirtualMonitor.Text
