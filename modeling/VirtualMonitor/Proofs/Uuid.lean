import Mathlib.Data.List.Basic
import Mathlib.Data.String.Basic
import VirtualMonitor.Uuid

/-!
# The written form of a UUID

The text of a UUID starts with its eight short digits, and no digit is a hyphen.  So a
UUID is known by its text (`text_injective`), and texts in ascending order have short
digits in non-descending order (`not_short_lt_of_text_lt`).
-/

namespace VirtualMonitor

/-- If one text comes first by its first characters, it comes first. -/
theorem Text.lt_of_take_lt_take {first second : List Char} {count : Nat}
    (hlt : first.take count < second.take count) : first < second := by
  induction count generalizing first second with
  | zero => simp at hlt
  | succ count ih =>
      cases second with
      | nil => simp at hlt
      | cons other rest =>
          cases first with
          | nil => exact List.nil_lt_cons other rest
          | cons character characters =>
              rw [List.take_succ_cons, List.take_succ_cons, List.cons_lt_cons_iff] at hlt
              rw [List.cons_lt_cons_iff]
              exact hlt.imp_right fun hrest => ⟨hrest.1, ih hrest.2⟩

namespace Uuid

/-! ## Digits and hyphens -/

theorem digitChar_injective : Function.Injective digitChar := by
  unfold Function.Injective
  decide

theorem digitChar_ne_hyphen (digit : Fin 16) : digitChar digit ≠ '-' := by
  revert digit
  decide

theorem length_plain (uuid : Uuid) : uuid.plain.length = 32 := by simp [plain]

theorem toList_short (uuid : Uuid) : uuid.short.toList = uuid.text.toList.take 8 := by
  have hlength : (uuid.plain.take 8).length = 8 := by simp [length_plain]
  simp only [short, text, String.toList_ofList, List.append_assoc, List.cons_append]
  exact (List.take_left' hlength).symm

/-- Without its hyphens the text is the digits. -/
theorem filter_text (uuid : Uuid) :
    uuid.text.toList.filter (fun character => character != '-') = uuid.plain := by
  have hkept : ∀ digits ⊆ uuid.plain,
      digits.filter (fun character => character != '-') = digits := by
    intro digits hdigits
    refine List.filter_eq_self.mpr fun character hcharacter => ?_
    obtain ⟨digit, -, rfl⟩ := List.mem_map.mp (hdigits hcharacter)
    exact bne_iff_ne.mpr (digitChar_ne_hyphen digit)
  have hpart : ∀ start count, ((uuid.plain.drop start).take count).filter
      (fun character => character != '-') = (uuid.plain.drop start).take count :=
    fun start count => hkept _ (List.Subset.trans (List.take_subset _ _) (List.drop_subset _ _))
  have hjoin : ∀ start count, (uuid.plain.drop start).take count ++
      uuid.plain.drop (start + count) = uuid.plain.drop start := by
    intro start count
    rw [← List.drop_drop, List.take_append_drop]
  calc uuid.text.toList.filter (fun character => character != '-')
      = uuid.plain.take 8 ++ ((uuid.plain.drop 8).take 4 ++ ((uuid.plain.drop 12).take 4 ++
          ((uuid.plain.drop 16).take 4 ++ uuid.plain.drop 20))) := by
        have hfirst := hkept _ (List.take_subset 8 uuid.plain)
        have hlast := hkept _ (List.drop_subset 20 uuid.plain)
        simp [text, hfirst, hpart, hlast]
    _ = uuid.plain.take 8 ++ uuid.plain.drop 8 := by
        rw [hjoin 16 4, hjoin 12 4, hjoin 8 4]
    _ = uuid.plain := List.take_append_drop 8 uuid.plain

theorem text_injective : Function.Injective text := by
  intro first second htext
  have hplain : first.plain = second.plain := by
    rw [← filter_text, ← filter_text, htext]
  have hdigits := (List.map_inj_right digitChar_injective).mp hplain
  exact congrArg Uuid.mk (Vector.toList_inj.mp hdigits)

/-! ## Order -/

/-- Where the texts ascend, the short digits do not descend. -/
theorem not_short_lt_of_text_lt {first second : Uuid} (hlt : first.text < second.text) :
    ¬second.short < first.short := by
  intro hshort
  rw [String.lt_iff_toList_lt, toList_short, toList_short] at hshort
  exact String.lt_asymm hlt (String.lt_iff_toList_lt.mpr (Text.lt_of_take_lt_take hshort))

end Uuid

end VirtualMonitor
