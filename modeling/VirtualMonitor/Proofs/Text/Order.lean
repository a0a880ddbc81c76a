import Mathlib.Data.String.Basic
import VirtualMonitor.Text.Utf8

/-!
# The order of texts is that of their bytes

Texts are ordered by their characters.  UTF-8 is made so that this is also the order of
their bytes.
-/

namespace VirtualMonitor.Text

/-- Of two different characters, the lesser has the lesser bytes, whatever comes after. -/
private theorem utf8EncodeChar_append_lt {first second : Char} (hlt : first < second)
    (after later : List UInt8) :
    String.utf8EncodeChar first ++ after < String.utf8EncodeChar second ++ later := by
  have hvalid : second.val.toNat < 55296 ∨ 57343 < second.val.toNat ∧ second.val.toNat < 1114112 :=
    second.valid
  have hval : first.val.toNat < second.val.toNat := UInt32.lt_iff_toNat_lt.mp hlt
  simp only [String.utf8EncodeChar]
  generalize first.val.toNat = lesser at *
  generalize second.val.toNat = greater at *
  -- one case for each pair of lengths; in the same length the digits to base 64 are compared
  split_ifs <;>
    simp (disch := omega) only [List.cons_append, List.nil_append, List.cons_lt_cons_iff,
      UInt8.lt_iff_toNat_lt, ← UInt8.toNat_inj, UInt8.toNat_ofNat', Nat.mod_eq_of_lt] <;> omega

private theorem flatMap_utf8EncodeChar_lt {first second : List Char} (hlt : first < second) :
    first.flatMap String.utf8EncodeChar < second.flatMap String.utf8EncodeChar := by
  induction first generalizing second with
  | nil =>
      cases second with
      | nil => exact absurd hlt (List.lt_irrefl _)
      | cons character rest =>
          rw [List.flatMap_nil, List.flatMap_cons]
          cases hbytes : String.utf8EncodeChar character with
          | nil => exact absurd hbytes String.utf8EncodeChar_ne_nil
          | cons byte bytes => exact List.nil_lt_cons ..
  | cons character rest ih =>
      cases second with
      | nil => exact absurd hlt (List.not_lt_nil _)
      | cons other others =>
          rw [List.flatMap_cons, List.flatMap_cons]
          rcases List.cons_lt_cons_iff.mp hlt with hcharacter | ⟨rfl, hrest⟩
          · exact utf8EncodeChar_append_lt hcharacter _ _
          · exact List.append_left_lt (ih hrest)

theorem utf8_lt_utf8 {first second : String} (hlt : first < second) :
    utf8 first < utf8 second :=
  flatMap_utf8EncodeChar_lt (String.lt_iff_toList_lt.mp hlt)

theorem utf8_lt_utf8_iff {first second : String} : utf8 first < utf8 second ↔ first < second := by
  refine ⟨fun hbytes => ?_, utf8_lt_utf8⟩
  rcases lt_trichotomy first second with hlt | rfl | hgt
  · exact hlt
  · exact absurd hbytes (List.lt_irrefl _)
  · exact absurd hbytes (List.lt_asymm (utf8_lt_utf8 hgt))

end VirtualMonitor.Text
