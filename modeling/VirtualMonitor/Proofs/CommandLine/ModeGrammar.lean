import VirtualMonitor.Proofs.CommandLine.Checks
import VirtualMonitor.Proofs.Text.Numeral

/-!
# The grammar of modes

A mode is written as a width, a cross and a height, and perhaps an at sign and a rate, each
number a numeral of one word.  The reader knows nothing of this: it cuts a text at its first
at sign and the size at its first cross.  Numerals are made of digits and plus signs, so in a
mode the first of these marks is the right one.

* `parseMode_grammar`: a text is read as a mode exactly if it is written as that mode, and
  refused exactly for the first fault it has, where the rate counts before the shape and the
  width before the height; every mode is read back from how it is printed.
-/

namespace VirtualMonitor.CommandLine

open Text (IsNumeral readNumeral)

/-! ## What is a mode -/

/-- The numerals of one word. -/
def IsWord (text : List Char) : Prop := ∃ value : UInt32, IsNumeral text value.toNat

/-- The texts of a mode.  Where no rate is written it is 60. -/
inductive IsMode : List Char → Mode → Prop where
  | plain {width height : List Char} {cross : Char} {wide high : UInt32}
      (hwidth : IsNumeral width wide.toNat) (hcross : isCross cross)
      (hheight : IsNumeral height high.toNat) :
      IsMode (width ++ cross :: height) ⟨wide, high, 60⟩
  | rated {width height rate : List Char} {cross : Char} {wide high hertz : UInt32}
      (hwidth : IsNumeral width wide.toNat) (hcross : isCross cross)
      (hheight : IsNumeral height high.toNat) (hrate : IsNumeral rate hertz.toNat) :
      IsMode (width ++ cross :: height ++ '@' :: rate) ⟨wide, high, hertz⟩

/-- A text with nothing wrong with its rate: the size in front of the first at sign, and the
rate behind it or 60. -/
def IsRated (text size : List Char) (hertz : UInt32) : Prop :=
  '@' ∉ size ∧ (text = size ∧ hertz = 60 ∨
    ∃ rate, text = size ++ '@' :: rate ∧ IsNumeral rate hertz.toNat)

/-- Why a text is refused.  Each fault is reported only if there is none of those before it. -/
inductive Refused (text : String) : Failure → Prop where
  | refresh {size rate : List Char} {cause : Text.NumeralError}
      (htext : text.toList = size ++ '@' :: rate) (hfirst : '@' ∉ size) (hrate : ¬IsWord rate)
      (hcause : readNumeral (UInt32.size - 1) rate = .error cause) :
      Refused text (.badRefresh (String.ofList rate) cause)
  | shape {size : List Char} {hertz : UInt32} (hrated : IsRated text.toList size hertz)
      (hcross : ∀ character ∈ size, ¬isCross character) : Refused text (.badMode text)
  | width {width height : List Char} {cross : Char} {hertz : UInt32} {cause : Text.NumeralError}
      (hrated : IsRated text.toList (width ++ cross :: height) hertz) (hcross : isCross cross)
      (hfirst : ∀ character ∈ width, ¬isCross character) (hwidth : ¬IsWord width)
      (hcause : readNumeral (UInt32.size - 1) width = .error cause) :
      Refused text (.badWidth (String.ofList width) cause)
  | height {width height : List Char} {cross : Char} {hertz : UInt32} {cause : Text.NumeralError}
      (hrated : IsRated text.toList (width ++ cross :: height) hertz) (hcross : isCross cross)
      (hfirst : ∀ character ∈ width, ¬isCross character) (hwidth : IsWord width)
      (hheight : ¬IsWord height)
      (hcause : readNumeral (UInt32.size - 1) height = .error cause) :
      Refused text (.badHeight (String.ofList height) cause)

/-! ## Cutting a text -/

section Cut

variable {mark : Char → Bool} {text before behind : List Char}

theorem cutAt?_append {character : Char} (hmark : mark character)
    (hbefore : ∀ other ∈ before, ¬mark other) :
    cutAt? mark (before ++ character :: behind) = some (before, behind) := by
  induction before with
  | nil => rw [List.nil_append, cutAt?, if_pos hmark]
  | cons other before ih =>
      obtain ⟨hother, hrest⟩ := List.forall_mem_cons.mp hbefore
      rw [List.cons_append, cutAt?, if_neg hother, ih hrest]
      rfl

theorem cutAt?_eq_none (htext : ∀ character ∈ text, ¬mark character) :
    cutAt? mark text = none := by
  induction text with
  | nil => rfl
  | cons character text ih =>
      obtain ⟨hcharacter, hrest⟩ := List.forall_mem_cons.mp htext
      rw [cutAt?, if_neg hcharacter, ih hrest]
      rfl

/-- A text has no mark, or a first one. -/
theorem exists_first_or (mark : Char → Bool) (text : List Char) :
    (∀ character ∈ text, ¬mark character) ∨
      ∃ before character behind, text = before ++ character :: behind ∧
        mark character ∧ ∀ other ∈ before, ¬mark other := by
  cases hfind : text.find? mark with
  | none => exact .inl (List.find?_eq_none.mp hfind)
  | some character =>
      obtain ⟨hmark, before, behind, htext, hbefore⟩ := List.find?_eq_some_iff_append.mp hfind
      refine .inr ⟨before, character, behind, htext, hmark, fun other hother => ?_⟩
      simpa using hbefore other hother

end Cut

/-! ## Reading a numeral of one word -/

section Words

variable {failure : Text.NumeralError → Failure} {text : List Char}

theorem word?_of_isNumeral {value : UInt32} (htext : IsNumeral text value.toNat) :
    word? failure text = .ok value := by
  have hread : readNumeral (UInt32.size - 1) text = .ok value.toNat :=
    Text.readNumeral_eq_ok_iff.mpr ⟨htext, Nat.le_sub_one_of_lt value.toNat_lt⟩
  rw [word?, hread]
  show Except.ok (UInt32.ofNat value.toNat) = _
  rw [UInt32.ofNat_toNat]

/-- A text that is no numeral has a fault. -/
theorem exists_cause (htext : ¬IsWord text) :
    ∃ cause, readNumeral (UInt32.size - 1) text = .error cause := by
  cases hread : readNumeral (UInt32.size - 1) text with
  | error cause => exact ⟨cause, rfl⟩
  | ok number =>
      obtain ⟨hnumeral, hbound⟩ := Text.readNumeral_eq_ok_iff.mp hread
      have hword : (UInt32.ofNat number).toNat = number := by
        apply UInt32.toNat_ofNat_of_lt'
        have hsize : UInt32.size = 4294967296 := rfl
        omega
      exact absurd ⟨UInt32.ofNat number, by rwa [hword]⟩ htext

theorem word?_of_cause {cause : Text.NumeralError}
    (hcause : readNumeral (UInt32.size - 1) text = .error cause) :
    word? failure text = .error (failure cause) := by
  rw [word?, hcause]

end Words

/-! ## Reading a mode -/

theorem not_isAt {text : List Char} (htext : '@' ∉ text) :
    ∀ character ∈ text, ¬(character == '@') = true := by
  intro character hcharacter hat
  obtain rfl := beq_iff_eq.mp hat
  exact htext hcharacter

theorem isCross_iff {character : Char} :
    isCross character ↔ character = 'x' ∨ character = 'X' := by
  rw [isCross, Bool.or_eq_true, beq_iff_eq, beq_iff_eq]

theorem notMem_of_isNumeral {mark : Char} {text : List Char} {value : Nat}
    (hdigit : ¬mark.isDigit) (hplus : mark ≠ '+') (htext : IsNumeral text value) :
    mark ∉ text := by
  intro hmark
  rcases htext.isDigit_or mark hmark with hmember | hmember
  · exact hdigit hmember
  · exact hplus hmember

theorem not_isCross_of_isNumeral {text : List Char} {value : Nat} (htext : IsNumeral text value) :
    ∀ character ∈ text, ¬isCross character := by
  intro character hcharacter hcross
  rcases isCross_iff.mp hcross with rfl | rfl
  · exact notMem_of_isNumeral (by decide) (by decide) htext hcharacter
  · exact notMem_of_isNumeral (by decide) (by decide) htext hcharacter

theorem splitRefresh_of_isRated {text size : List Char} {hertz : UInt32}
    (hrated : IsRated text size hertz) : splitRefresh text = .ok (size, hertz) := by
  obtain ⟨hfirst, ⟨rfl, rfl⟩ | ⟨rate, rfl, hrate⟩⟩ := hrated
  · rw [splitRefresh, cutAt?_eq_none (not_isAt hfirst)]
    rfl
  · rw [splitRefresh, cutAt?_append rfl (not_isAt hfirst)]
    dsimp only
    rw [word?_of_isNumeral hrate]

section Sizes

variable {text : String} {width height : List Char} {cross : Char} {hertz : UInt32}

/-- Once the rate is read and the size is cut, the width is read before the height. -/
theorem parseMode_of_isCross (hrated : IsRated text.toList (width ++ cross :: height) hertz)
    (hcross : isCross cross) (hfirst : ∀ character ∈ width, ¬isCross character) :
    parseMode text = (do
      let wide ← word? (.badWidth (String.ofList width)) width
      let high ← word? (.badHeight (String.ofList height)) height
      return ⟨wide, high, hertz⟩) := by
  have hcut : cutAt? (fun character => character == 'x' || character == 'X')
      (width ++ cross :: height) = some (width, height) :=
    cutAt?_append hcross hfirst
  unfold parseMode
  rw [splitRefresh_of_isRated hrated]
  refine (pure_bind (width ++ cross :: height, hertz) _).trans ?_
  dsimp only
  rw [hcut]

theorem parseMode_of_isNumeral {wide high : UInt32}
    (hrated : IsRated text.toList (width ++ cross :: height) hertz) (hcross : isCross cross)
    (hwidth : IsNumeral width wide.toNat) (hheight : IsNumeral height high.toNat) :
    parseMode text = .ok ⟨wide, high, hertz⟩ := by
  rw [parseMode_of_isCross hrated hcross (not_isCross_of_isNumeral hwidth),
    word?_of_isNumeral hwidth, word?_of_isNumeral hheight]
  rfl

end Sizes

/-- What is written as a mode has a size and a rate. -/
theorem IsMode.exists_size {text : List Char} {mode : Mode} (hmode : IsMode text mode) :
    ∃ width cross height, IsRated text (width ++ cross :: height) mode.hertz ∧ isCross cross ∧
      IsNumeral width mode.width.toNat ∧ IsNumeral height mode.height.toNat := by
  have hsize {width height : List Char} {cross : Char} {wide high : Nat}
      (hwidth : IsNumeral width wide) (hcross : isCross cross) (hheight : IsNumeral height high) :
      '@' ∉ width ++ cross :: height := by
    rw [List.mem_append, List.mem_cons, not_or, not_or]
    have hat {text : List Char} {value : Nat} (htext : IsNumeral text value) : '@' ∉ text :=
      notMem_of_isNumeral (by decide) (by decide) htext
    refine ⟨hat hwidth, ?_, hat hheight⟩
    rcases isCross_iff.mp hcross with rfl | rfl <;> decide
  cases hmode with
  | plain hwidth hcross hheight =>
      exact ⟨_, _, _, ⟨hsize hwidth hcross hheight, .inl ⟨rfl, rfl⟩⟩, hcross, hwidth, hheight⟩
  | rated hwidth hcross hheight hrate =>
      exact ⟨_, _, _, ⟨hsize hwidth hcross hheight, .inr ⟨_, rfl, hrate⟩⟩, hcross, hwidth,
        hheight⟩

theorem parseMode_of_isMode {text : String} {mode : Mode} (hmode : IsMode text.toList mode) :
    parseMode text = .ok mode := by
  obtain ⟨width, cross, height, hrated, hcross, hwidth, hheight⟩ := hmode.exists_size
  exact parseMode_of_isNumeral hrated hcross hwidth hheight

theorem parseMode_of_refused {text : String} {failure : Failure}
    (hrefused : Refused text failure) : parseMode text = .error failure := by
  -- whatever stands in front of the part that is at fault is read as it should be
  cases hrefused with
  | @refresh size rate cause htext hfirst hrate hcause =>
      have hsplit : splitRefresh text.toList =
          .error (.badRefresh (String.ofList rate) cause) := by
        rw [htext, splitRefresh, cutAt?_append rfl (not_isAt hfirst)]
        dsimp only
        rw [word?_of_cause hcause]
      unfold parseMode
      rw [hsplit]
      rfl
  | @shape size hertz hrated hcross =>
      have hcut : cutAt? (fun character => character == 'x' || character == 'X') size = none :=
        cutAt?_eq_none hcross
      unfold parseMode
      rw [splitRefresh_of_isRated hrated]
      refine (pure_bind (size, hertz) _).trans ?_
      dsimp only
      rw [hcut]
  | width hrated hcross hfirst hwidth hcause =>
      rw [parseMode_of_isCross hrated hcross hfirst, word?_of_cause hcause]
      rfl
  | height hrated hcross hfirst hwidth hheight hcause =>
      obtain ⟨wide, hwide⟩ := hwidth
      rw [parseMode_of_isCross hrated hcross hfirst, word?_of_isNumeral hwide,
        word?_of_cause hcause]
      rfl

/-! ## Every text is a mode or has a fault -/

/-- A text has a size and a rate, or the rate is at fault. -/
theorem isRated_or_refused (text : String) :
    (∃ size hertz, IsRated text.toList size hertz) ∨ ∃ failure, Refused text failure := by
  rcases exists_first_or (· == '@') text.toList with hnone | ⟨size, mark, rate, htext, hmark, hsize⟩
  · refine .inl ⟨text.toList, 60, fun hat => ?_, .inl ⟨rfl, rfl⟩⟩
    exact absurd (hnone '@' hat) (by decide)
  · obtain rfl : mark = '@' := beq_iff_eq.mp hmark
    have hfirst : '@' ∉ size := fun hat => absurd (hsize '@' hat) (by decide)
    by_cases hrate : IsWord rate
    · obtain ⟨hertz, hhertz⟩ := hrate
      exact .inl ⟨size, hertz, hfirst, .inr ⟨rate, htext, hhertz⟩⟩
    · obtain ⟨cause, hcause⟩ := exists_cause hrate
      exact .inr ⟨_, .refresh htext hfirst hrate hcause⟩

/-- A size and a rate make a mode where the size is made of two numerals. -/
theorem isMode_of_isRated {text width height : List Char} {cross : Char} {wide high hertz : UInt32}
    (hrated : IsRated text (width ++ cross :: height) hertz) (hcross : isCross cross)
    (hwidth : IsNumeral width wide.toNat) (hheight : IsNumeral height high.toNat) :
    IsMode text ⟨wide, high, hertz⟩ := by
  obtain ⟨-, ⟨rfl, rfl⟩ | ⟨rate, rfl, hrate⟩⟩ := hrated
  · exact .plain hwidth hcross hheight
  · exact .rated hwidth hcross hheight hrate

theorem isMode_or_refused (text : String) :
    (∃ mode, IsMode text.toList mode) ∨ ∃ failure, Refused text failure := by
  rcases isRated_or_refused text with ⟨size, hertz, hrated⟩ | hrefused
  · rcases exists_first_or isCross size with
      hnone | ⟨width, cross, height, rfl, hcross, hfirst⟩
    · exact .inr ⟨_, .shape hrated hnone⟩
    · by_cases hwidth : IsWord width
      · by_cases hheight : IsWord height
        · obtain ⟨wide, hwide⟩ := hwidth
          obtain ⟨high, hhigh⟩ := hheight
          exact .inl ⟨_, isMode_of_isRated hrated hcross hwide hhigh⟩
        · obtain ⟨cause, hcause⟩ := exists_cause hheight
          exact .inr ⟨_, .height hrated hcross hfirst hwidth hheight hcause⟩
      · obtain ⟨cause, hcause⟩ := exists_cause hwidth
        exact .inr ⟨_, .width hrated hcross hfirst hwidth hcause⟩
  · exact .inr hrefused

/-! ## Reading back what is printed -/

theorem isMode_printMode (mode : Mode) : IsMode (printMode mode).toList mode := by
  have htext : (printMode mode).toList = mode.width.toNat.repr.toList ++
      'x' :: mode.height.toNat.repr.toList ++ '@' :: mode.hertz.toNat.repr.toList := by
    rw [printMode]
    simp only [String.toList_append, List.append_assoc]
    rfl
  rw [htext]
  exact .rated (Text.isNumeral_repr _) rfl (Text.isNumeral_repr _) (Text.isNumeral_repr _)

/-- Every mode is read back from how it is printed, the texts that are read are those of the
grammar, and every other text is refused for its first fault. -/
theorem parseMode_grammar :
    (∀ mode, parseMode (printMode mode) = .ok mode) ∧
      ∀ text, (∀ mode, parseMode text = .ok mode ↔ IsMode text.toList mode) ∧
        ∀ failure, parseMode text = .error failure ↔ Refused text failure := by
  refine ⟨fun mode => parseMode_of_isMode (isMode_printMode mode), fun text => ?_⟩
  refine ⟨fun mode => ⟨fun hread => ?_, parseMode_of_isMode⟩,
    fun failure => ⟨fun hread => ?_, parseMode_of_refused⟩⟩
  · rcases isMode_or_refused text with ⟨other, hmode⟩ | ⟨failure, hrefused⟩
    · rw [parseMode_of_isMode hmode] at hread
      exact Except.ok.inj hread ▸ hmode
    · rw [parseMode_of_refused hrefused] at hread
      cases hread
  · rcases isMode_or_refused text with ⟨mode, hmode⟩ | ⟨other, hrefused⟩
    · rw [parseMode_of_isMode hmode] at hread
      cases hread
    · rw [parseMode_of_refused hrefused] at hread
      exact Except.error.inj hread ▸ hrefused

end VirtualMonitor.CommandLine
