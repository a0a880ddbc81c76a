import VirtualMonitor.Config
import VirtualMonitor.Proofs.Path
import VirtualMonitor.Proofs.Text.Numeral

/-!
# Card numbers and device slots

The node of a card is found by the slot of its device, and the slot is read off the
node again.  The number of a node is the numeral behind its stem, and no other name has one
(`numberOfName?_eq_some_iff`).  `number?_nodePathBytes` says that this leads back to the slot,
whatever the directory of the nodes is called, and that a negative slot, which no device has, is
taken for no number.

* `number_read_off_name`: which paths have a number, and which numbers the nodes of slots have.
-/

namespace VirtualMonitor.Card

/-! ## Names and their numbers -/

theorem exists_of_numberOfName? {name : List UInt8} {number : UInt32}
    (hnumber : numberOfName? name = some number) : ∃ rest, name = stem ++ rest := by
  unfold numberOfName? at hnumber
  split at hnumber
  next hstem =>
    obtain ⟨rest, hrest⟩ := List.isPrefixOf_iff_prefix.mp hstem
    exact ⟨rest, hrest.symm⟩
  next => cases hnumber

/-- The number of a name is that of the numeral behind the stem. -/
theorem numberOfName?_append {rest : List UInt8} {number : UInt32} :
    numberOfName? (stem ++ rest) = some number ↔
      Text.IsNumeral (rest.map fun byte => Char.ofNat byte.toNat) number.toNat := by
  have hstem : stem.isPrefixOf (stem ++ rest) = true :=
    List.isPrefixOf_iff_prefix.mpr (List.prefix_append ..)
  unfold numberOfName?
  rw [if_pos hstem, List.drop_left]
  dsimp only
  constructor
  · intro hnumber
    split at hnumber
    next value hread =>
      obtain ⟨hnumeral, hbound⟩ := Text.readNumeral_eq_ok_iff.mp hread
      have hvalue : number.toNat = value := by
        rw [← Option.some.inj hnumber]
        exact UInt32.toNat_ofNat_of_lt' (Nat.lt_of_le_pred (by decide) hbound)
      exact hvalue ▸ hnumeral
    next => cases hnumber
  · intro hnumeral
    have hread : Text.readNumeral (UInt32.size - 1)
        (rest.map fun byte => Char.ofNat byte.toNat) = .ok number.toNat :=
      Text.readNumeral_eq_ok_iff.mpr ⟨hnumeral, Nat.le_pred_of_lt number.toNat_lt_size⟩
    simp only [hread, UInt32.ofNat_toNat]

/-- A name has a number exactly if it is the stem with a numeral behind it. -/
theorem numberOfName?_eq_some_iff {name : List UInt8} {number : UInt32} :
    numberOfName? name = some number ↔
      ∃ text numeral, name = Text.utf8 text ∧ text.toList = "card".toList ++ numeral ∧
        Text.IsNumeral numeral number.toNat := by
  constructor
  · intro hnumber
    obtain ⟨rest, rfl⟩ := exists_of_numberOfName? hnumber
    have hnumeral := numberOfName?_append.mp hnumber
    -- a numeral is ASCII, so the name is text although only its bytes were looked at
    refine ⟨"card" ++ String.ofList (rest.map fun byte => Char.ofNat byte.toNat), _, ?_, ?_,
      hnumeral⟩
    · rw [Text.utf8_append, ← stem, Text.utf8_of_map_eq String.toList_ofList.symm]
      rw [String.toList_ofList]
      exact hnumeral.toNat_lt
    · simp only [String.toList_append, String.toList_ofList]
  · rintro ⟨text, numeral, rfl, htext, hnumeral⟩
    obtain rfl : text = "card" ++ String.ofList numeral := by
      simp only [← String.toList_inj, htext, String.toList_append, String.toList_ofList]
    rw [Text.utf8_append, ← stem, numberOfName?_append, Text.map_utf8_of_lt, String.toList_ofList]
    · exact hnumeral
    · rw [String.toList_ofList]
      exact hnumeral.toNat_lt

/-! ## The nodes of slots -/

/-- What starts with the stem and has no slash is the name of an entry. -/
theorem isEntry_stem_append {rest : List UInt8} (hslash : Path.slash ∉ rest) :
    Path.IsEntry (stem ++ rest) where
  slash_notMem := by
    rw [List.mem_append, not_or]
    exact ⟨by decide, hslash⟩
  not_idle := rfl
  ne_dotDot := nofun

def slotName (slot : Int32) : String := "card" ++ slot.toInt.repr

/-- Digits, and a minus sign in front of them, are no slash. -/
private theorem slash_notMem_repr (number : Int) : Path.slash ∉ Text.utf8 number.repr := by
  rw [Text.mem_utf8_iff Path.utf8EncodeChar_slash, Int.repr_eq_if]
  have hdigits (magnitude : Nat) : '/' ∉ magnitude.repr.toList := fun hslash =>
    absurd (Text.isDigit_of_mem_repr hslash) (by decide)
  split
  next => exact hdigits _
  next =>
    rw [String.toList_append, List.mem_append, not_or]
    exact ⟨by decide, hdigits _⟩

theorem isEntry_slotName (slot : Int32) : Path.IsEntry (Text.utf8 (slotName slot)) := by
  rw [slotName, Text.utf8_append]
  exact isEntry_stem_append (slash_notMem_repr slot.toInt)

theorem numberOfName?_slotName {slot : Int32} (hslot : 0 ≤ slot) :
    numberOfName? (Text.utf8 (slotName slot)) = some slot.toUInt32 := by
  have hnonneg : 0 ≤ slot.toInt := Int32.le_iff_toInt_le.mp hslot
  refine numberOfName?_eq_some_iff.mpr
    ⟨_, slot.toInt.repr.toList, rfl, String.toList_append .., ?_⟩
  rw [Int.repr_eq_if, if_pos hnonneg, Int32.toNat_toUInt32_of_le hslot]
  exact Text.isNumeral_repr _

/-- A minus sign is in no numeral, so a negative slot is no number. -/
theorem numberOfName?_slotName_of_neg {slot : Int32} (hslot : ¬0 ≤ slot) :
    numberOfName? (Text.utf8 (slotName slot)) = none := by
  have hneg : ¬0 ≤ slot.toInt := fun hnonneg => hslot (Int32.le_iff_toInt_le.mpr hnonneg)
  have hname : Text.utf8 (slotName slot) =
      stem ++ 0x2D :: Text.utf8 (-slot.toInt).toNat.repr := by
    rw [slotName, Int.repr_eq_if, if_neg hneg, Text.utf8_append, Text.utf8_append]
    rfl
  rw [hname, Option.eq_none_iff_forall_ne_some]
  intro number hnumber
  have hminus := (numberOfName?_append.mp hnumber).isDigit_or '-' List.mem_cons_self
  exact absurd hminus (by decide)

/-- The path of the node of a slot, in a directory whose path need not be text. -/
def nodePathBytes (directory : List UInt8) (slot : Int32) : List UInt8 :=
  Path.joinBytes directory (Text.utf8 (slotName slot))

theorem utf8_nodePath (directory : String) (slot : Int32) :
    Text.utf8 (nodePath directory slot) = nodePathBytes (Text.utf8 directory) slot :=
  Path.utf8_join directory _

theorem number?_joinBytes (directory : List UInt8) {name : List UInt8}
    (hname : Path.IsEntry name) : number? (Path.joinBytes directory name) = numberOfName? name := by
  rw [number?, Path.finalName?_joinBytes directory hname, Option.bind_some]

/-- What is read off the path of a node is its slot, unless this is negative. -/
theorem number?_nodePathBytes (directory : List UInt8) (slot : Int32) :
    number? (nodePathBytes directory slot) = if 0 ≤ slot then some slot.toUInt32 else none := by
  rw [nodePathBytes, number?_joinBytes directory (isEntry_slotName slot)]
  split
  next hslot => exact numberOfName?_slotName hslot
  next hslot => exact numberOfName?_slotName_of_neg hslot

theorem number?_nodePath (directory : String) {slot : Int32} (hslot : 0 ≤ slot) :
    number? (Text.utf8 (nodePath directory slot)) = some slot.toUInt32 := by
  rw [utf8_nodePath, number?_nodePathBytes, if_pos hslot]

theorem toNat_number?_nodePathBytes (directory : List UInt8) (slot : Int32) :
    (number? (nodePathBytes directory slot)).map UInt32.toNat =
      if 0 ≤ slot then some slot.toInt.toNat else none := by
  rw [number?_nodePathBytes]
  split
  next hslot =>
    rw [Option.map_some, Int32.toNat_toUInt32_of_le hslot]
    rfl
  next => rfl

/-- The node of a slot has the slot for its number, in whatever directory, also in one whose path
is no text, unless the slot is negative.  A path has a number exactly if the name that it ends in
is text, and is the stem with at most one plus sign and digits behind it, that stand for the
number and keep the bound. -/
theorem number_read_off_name (config : Config) (directory : List UInt8) (slot : Int32)
    (path : List UInt8) (value : Nat) :
    (number? (Text.utf8 (config.cardPath slot))).map UInt32.toNat =
        (if 0 ≤ slot then some slot.toInt.toNat else none) ∧
      (number? (nodePathBytes directory slot)).map UInt32.toNat =
        (if 0 ≤ slot then some slot.toInt.toNat else none) ∧
      ((number? path).map UInt32.toNat = some value ↔
        ∃ name numeral, Path.finalName? path = some (Text.utf8 name) ∧
          name.toList = "card".toList ++ numeral ∧ Text.IsNumeral numeral value ∧
          value ≤ 4294967295) := by
  refine ⟨?_, toNat_number?_nodePathBytes directory slot, ?_⟩
  · rw [Config.cardPath, utf8_nodePath, toNat_number?_nodePathBytes]
  · constructor
    · intro hvalue
      obtain ⟨number, hnumber, rfl⟩ := Option.map_eq_some_iff.mp hvalue
      obtain ⟨bytes, hbytes, hread⟩ := Option.bind_eq_some_iff.mp hnumber
      obtain ⟨name, numeral, rfl, hname, hnumeral⟩ := numberOfName?_eq_some_iff.mp hread
      exact ⟨name, numeral, hbytes, hname, hnumeral, Nat.le_pred_of_lt number.toNat_lt_size⟩
    · rintro ⟨name, numeral, hfinal, hname, hnumeral, hbound⟩
      -- a value in bounds is the number of a word
      have hword : (UInt32.ofNat value).toNat = value :=
        UInt32.toNat_ofNat_of_lt' (Nat.lt_succ_of_le hbound)
      have hread := numberOfName?_eq_some_iff.mpr
        ⟨name, numeral, rfl, hname, hword.symm ▸ hnumeral⟩
      rw [number?, hfinal, Option.bind_some, hread, Option.map_some, hword]

/-- Slashes and dots at the end do not matter, nor do zeros and a plus sign. -/
example : number? (Text.utf8 "/dev/dri/card+007//./") = some 7 := by decide +kernel

end VirtualMonitor.Card
