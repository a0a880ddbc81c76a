import Mathlib.Data.List.Basic
import Mathlib.Tactic.SplitIfs
import VirtualMonitor.Text.Utf8

/-!
# Which bytes are text

Some bytes are the UTF-8 of a text, and of one text only (`ofUtf8?_eq_some_iff`).  The bytes of
a character are a first one and trailing ones, and no byte can be both
(`utf8EncodeChar_eq_cons`).  So a single byte of `0x80` or more that stands between two texts
spoils them both (`utf8_ne_of_stray`): it can neither end what comes before it nor begin what
comes after it.  A mark that is one byte, such as a slash, is in the bytes of a text exactly if
it is in the text (`mem_utf8_iff`).
-/

namespace VirtualMonitor.Text

theorem ofUtf8?_eq_some_iff {bytes : List UInt8} {text : String} :
    ofUtf8? bytes = some text ↔ bytes = utf8 text := by
  constructor
  · intro htext
    unfold ofUtf8? String.fromUTF8? at htext
    split at htext
    next hvalid =>
      obtain rfl := Option.some.inj htext
      have hbytes : (utf8 (String.fromUTF8 _ hvalid)).toByteArray = bytes.toByteArray :=
        String.utf8Encode_toList
      exact (List.toByteArray_inj.mp hbytes).symm
    next => cases htext
  · rintro rfl
    exact ofUtf8?_utf8 text

theorem utf8_injective {first second : String} (heq : utf8 first = utf8 second) :
    first = second := by
  have htext := congrArg ofUtf8? heq
  rw [ofUtf8?_utf8, ofUtf8?_utf8] at htext
  exact Option.some.inj htext

theorem utf8_eq_nil_iff {text : String} : utf8 text = [] ↔ text = "" := by
  have hnil : utf8 "" = [] := rfl
  constructor
  · exact fun htext => utf8_injective (htext.trans hnil.symm)
  · rintro rfl
    exact hnil

/-! ## The bytes of a character -/

/-- A byte inside a character, after its first one. -/
def IsTrailing (byte : UInt8) : Prop := 0x80 ≤ byte.toNat ∧ byte.toNat < 0xC0

private theorem isTrailing_digit (code : Nat) : IsTrailing (UInt8.ofNat (code % 64 + 128)) := by
  rw [IsTrailing, UInt8.toNat_ofNat_of_lt' (by simp only [UInt8.size]; omega)]
  omega

/-- A large byte in front of trailing ones is the first one of several. -/
private theorem exists_first_of_le {value : Nat} {trail : List UInt8} (hle : 0xC0 ≤ value)
    (hlt : value < UInt8.size) (hne : trail ≠ []) (htrail : ∀ byte ∈ trail, IsTrailing byte) :
    ∃ first others, UInt8.ofNat value :: trail = first :: others ∧ ¬IsTrailing first ∧
      (0x80 ≤ first.toNat ↔ others ≠ []) ∧ ∀ byte ∈ others, IsTrailing byte := by
  have hvalue : (UInt8.ofNat value).toNat = value := UInt8.toNat_ofNat_of_lt' hlt
  refine ⟨_, trail, rfl, ?_, iff_of_true ?_ hne, htrail⟩
  · rw [IsTrailing, hvalue]
    omega
  · rw [hvalue]
    omega

/-- The first byte of a character is no trailing one, and the others are; there are others
exactly if the first one is not below `0x80`. -/
theorem utf8EncodeChar_eq_cons (character : Char) :
    ∃ first trail, String.utf8EncodeChar character = first :: trail ∧ ¬IsTrailing first ∧
      (0x80 ≤ first.toNat ↔ trail ≠ []) ∧ ∀ byte ∈ trail, IsTrailing byte := by
  simp only [String.utf8EncodeChar]
  generalize character.val.toNat = code
  split_ifs with hone
  · have hvalue : (UInt8.ofNat code).toNat = code :=
      UInt8.toNat_ofNat_of_lt' (by simp only [UInt8.size]; omega)
    refine ⟨_, [], rfl, ?_, ?_, nofun⟩
    · rw [IsTrailing, hvalue]
      omega
    · rw [hvalue, ne_self_iff_false, iff_false]
      omega
  all_goals
    refine exists_first_of_le (by omega) (by simp only [UInt8.size]; omega)
      (List.cons_ne_nil _ _) ?_
    simp only [List.forall_mem_cons, isTrailing_digit, true_and, List.not_mem_nil, false_implies,
      implies_true]

/-- A text starts with no trailing byte. -/
theorem not_isTrailing_of_utf8 {text : String} {byte : UInt8} {bytes : List UInt8}
    (hbytes : utf8 text = byte :: bytes) : ¬IsTrailing byte := by
  unfold utf8 at hbytes
  cases htext : text.toList with
  | nil =>
      rw [htext] at hbytes
      cases hbytes
  | cons character rest =>
      obtain ⟨first, trail, hencode, hfirst, -, -⟩ := utf8EncodeChar_eq_cons character
      rw [htext, List.flatMap_cons, hencode] at hbytes
      exact (List.cons.inj hbytes).1 ▸ hfirst

/-! ## Texts inside of texts -/

/-- Bytes that start with those of a character are read as that character. -/
private theorem eq_of_utf8EncodeChar_append {first second : Char} {after later : List UInt8}
    (heq : String.utf8EncodeChar first ++ after = String.utf8EncodeChar second ++ later) :
    first = second := by
  have hread := congrArg (fun bytes : List UInt8 => bytes.toByteArray.utf8DecodeChar? 0) heq
  simp only [List.toByteArray_append, ByteArray.utf8DecodeChar?_utf8EncodeChar_append] at hread
  exact Option.some.inj hread

private theorem exists_flatMap_of_append {characters fronts : List Char} {bytes : List UInt8}
    (heq : characters.flatMap String.utf8EncodeChar =
      fronts.flatMap String.utf8EncodeChar ++ bytes) :
    ∃ rest : List Char, bytes = rest.flatMap String.utf8EncodeChar := by
  induction fronts generalizing characters with
  | nil => exact ⟨characters, heq.symm⟩
  | cons front fronts ih =>
      rw [List.flatMap_cons, List.append_assoc] at heq
      cases characters with
      | nil => exact absurd (List.append_eq_nil_iff.mp heq.symm).1 String.utf8EncodeChar_ne_nil
      | cons character characters =>
          rw [List.flatMap_cons] at heq
          obtain rfl := eq_of_utf8EncodeChar_append heq
          exact ih (List.append_cancel_left heq)

theorem exists_utf8_of_append {text front : String} {bytes : List UInt8}
    (heq : utf8 text = utf8 front ++ bytes) : ∃ rest, bytes = utf8 rest := by
  obtain ⟨rest, hrest⟩ := exists_flatMap_of_append heq
  exact ⟨String.ofList rest, by rw [hrest, utf8, String.toList_ofList]⟩

/-- A single byte that is not below `0x80`, between two texts, makes what is no text. -/
theorem utf8_ne_of_stray {byte : UInt8} (hbyte : 0x80 ≤ byte.toNat) (before after text : String) :
    utf8 text ≠ utf8 before ++ byte :: utf8 after := by
  intro heq
  obtain ⟨rest, hrest⟩ := exists_utf8_of_append heq
  unfold utf8 at hrest
  cases hcharacters : rest.toList with
  | nil =>
      rw [hcharacters] at hrest
      cases hrest
  | cons character characters =>
      obtain ⟨first, trail, hencode, -, hmore, htrail⟩ := utf8EncodeChar_eq_cons character
      rw [hcharacters, List.flatMap_cons, hencode, List.cons_append] at hrest
      obtain ⟨rfl, hafter⟩ := List.cons.inj hrest
      -- the byte begins a character, so a trailing byte comes next, where a text begins
      cases trail with
      | nil => exact absurd rfl (hmore.mp hbyte)
      | cons next trail =>
          exact not_isTrailing_of_utf8 hafter (htrail next List.mem_cons_self)

/-! ## Marks of one byte -/

section Mark

variable {mark : Char} {byte : UInt8}

/-- The byte of a mark is in the bytes of no other character. -/
theorem mem_utf8EncodeChar_iff (hmark : String.utf8EncodeChar mark = [byte]) {character : Char} :
    byte ∈ String.utf8EncodeChar character ↔ character = mark := by
  constructor
  · intro hmem
    obtain ⟨_, _, hsingle, -, hsmall, -⟩ := utf8EncodeChar_eq_cons mark
    obtain ⟨rfl, rfl⟩ := List.cons.inj (hmark.symm.trans hsingle)
    obtain ⟨first, trail, hencode, -, hmore, htrail⟩ := utf8EncodeChar_eq_cons character
    rw [hencode] at hmem
    rcases List.mem_cons.mp hmem with rfl | hmem
    · have hnil : trail = [] := by simpa using hmore.symm.trans hsmall
      have hsame : String.utf8EncodeChar character = String.utf8EncodeChar mark := by
        rw [hencode, hnil, hmark]
      exact eq_of_utf8EncodeChar_append (congrArg (· ++ []) hsame)
    · exact absurd rfl (hsmall.mp (htrail byte hmem).1)
  · rintro rfl
    rw [hmark]
    exact List.mem_cons_self

theorem mem_utf8_iff (hmark : String.utf8EncodeChar mark = [byte]) {text : String} :
    byte ∈ utf8 text ↔ mark ∈ text.toList := by
  simp only [utf8, List.mem_flatMap, mem_utf8EncodeChar_iff hmark, exists_eq_right]

/-- A text starts with a mark exactly if its bytes start with that of the mark. -/
theorem head?_utf8_eq_some_iff (hmark : String.utf8EncodeChar mark = [byte]) {text : String} :
    (utf8 text).head? = some byte ↔ text.toList.head? = some mark := by
  unfold utf8
  cases text.toList with
  | nil => exact iff_of_false nofun nofun
  | cons character characters =>
      rw [List.flatMap_cons, List.head?_append_of_ne_nil _ String.utf8EncodeChar_ne_nil,
        List.head?_cons, Option.some_inj]
      constructor
      · intro hhead
        exact (mem_utf8EncodeChar_iff hmark).mp (List.mem_of_head? hhead)
      · rintro rfl
        rw [hmark, List.head?_singleton]

/-- A text ends in a mark exactly if its bytes end in that of the mark. -/
theorem getLast?_utf8_eq_some_iff (hmark : String.utf8EncodeChar mark = [byte]) {text : String} :
    (utf8 text).getLast? = some byte ↔ text.toList.getLast? = some mark := by
  unfold utf8
  rcases List.eq_nil_or_concat' text.toList with hnil | ⟨characters, character, hconcat⟩
  · rw [hnil]
    exact iff_of_false nofun nofun
  · rw [hconcat, List.flatMap_append, List.flatMap_singleton,
      List.getLast?_append_of_ne_nil _ String.utf8EncodeChar_ne_nil, List.getLast?_concat,
      Option.some_inj]
    constructor
    · intro hlast
      exact (mem_utf8EncodeChar_iff hmark).mp (List.mem_of_getLast? hlast)
    · rintro rfl
      rw [hmark, List.getLast?_singleton]

end Mark

end VirtualMonitor.Text
