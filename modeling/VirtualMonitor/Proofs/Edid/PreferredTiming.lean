import Mathlib.Data.Nat.Bitwise
import VirtualMonitor.Proofs.Edid.Layout

/-!
# The preferred timing

The first detailed timing of an EDID is the one a host prefers.  Its sizes have 12 bits, a
low byte and one half of a shared byte each, and the encoder takes sizes of 32 bits.

* `preferredSize?_ofMode`: the advertised size is the requested one cut to 12 bits, so it
  is the requested one for sizes below 4096 and for no others.
-/

namespace VirtualMonitor

namespace DetailedTiming

/-! ## Fields of 12 bits -/

theorem toNat_topNibble (value : UInt32) :
    ((value >>> 8) &&& 0x0F).toNat = value.toNat / 256 % 16 := by
  have hshift : (value >>> 8).toNat = value.toNat / 256 := by
    rw [UInt32.toNat_shiftRight]
    exact Nat.shiftRight_eq_div_pow _ 8
  rw [UInt32.toNat_and, hshift]
  exact Nat.and_two_pow_sub_one_eq_mod _ 4

/-- The two halves of a shared byte do not overlap. -/
theorem toNat_packNibbles (high low : UInt32) :
    (packNibbles high low).toNat = high.toNat / 256 % 16 * 16 + low.toNat / 256 % 16 := by
  have hhigh : high.toNat / 256 % 16 < 2 ^ 4 := Nat.mod_lt _ (by decide)
  have hlow : low.toNat / 256 % 16 < 2 ^ 4 := Nat.mod_lt _ (by decide)
  have hshift : (((high >>> 8) &&& 0x0F) <<< 4).toNat = (high.toNat / 256 % 16) <<< 4 := by
    rw [UInt32.toNat_shiftLeft, toNat_topNibble]
    refine Nat.mod_eq_of_lt ?_
    change (high.toNat / 256 % 16) <<< 4 < 2 ^ 32
    rw [Nat.shiftLeft_eq]
    omega
  rw [packNibbles, UInt32.toNat_toUInt8, UInt32.toNat_or, hshift, toNat_topNibble,
    ← Nat.shiftLeft_add_eq_or_of_lt hlow, Nat.shiftLeft_eq]
  omega

/-- A low byte and the upper half of a shared byte keep 12 bits of a value. -/
theorem toNat_upperField (value low : UInt32) :
    value.toUInt8.toNat + (packNibbles value low).toNat / 16 * 256 = value.toNat % 4096 := by
  rw [toNat_packNibbles, UInt32.toNat_toUInt8]
  omega

end DetailedTiming

namespace Edid

/-! ## The advertised size -/

/-- The size in pixels that a host reads off the preferred timing of an EDID. -/
def preferredSize? (bytes : List UInt8) : Option (Nat × Nat) := do
  let width ← bytes[56]?
  let widthTop ← bytes[58]?
  let height ← bytes[59]?
  let heightTop ← bytes[61]?
  some (width.toNat + widthTop.toNat / 16 * 256, height.toNat + heightTop.toNat / 16 * 256)

theorem preferredSize?_eq (mode : Mode) : preferredSize? (ofMode mode).bytes =
    some (mode.width.toNat % 4096, mode.height.toNat % 4096) := by
  let timing := DetailedTiming.ofMode mode
  have htiming (index : Nat) (hindex : index < 18) :
      (ofMode mode).bytes[54 + index]? = timing.encode[index]? :=
    getElem?_of_field (field_timing mode) index hindex
  have hwidth : (ofMode mode).bytes[56]? = some mode.width.toUInt8 := htiming 2 (by decide)
  have hwidthTop : (ofMode mode).bytes[58]? =
      some (DetailedTiming.packNibbles mode.width timing.hBlank) := htiming 4 (by decide)
  have hheight : (ofMode mode).bytes[59]? = some mode.height.toUInt8 := htiming 5 (by decide)
  have hheightTop : (ofMode mode).bytes[61]? =
      some (DetailedTiming.packNibbles mode.height timing.vBlank) := htiming 7 (by decide)
  simp only [preferredSize?, hwidth, hwidthTop, hheight, hheightTop, Option.bind_eq_bind,
    Option.bind_some, DetailedTiming.toNat_upperField]

/-- A host is offered the requested size exactly if both lengths fit into 12 bits; larger
lengths are cut to 12 bits. -/
theorem preferredSize?_ofMode (mode : Mode) :
    preferredSize? (ofMode mode).bytes =
        some (mode.width.toNat % 4096, mode.height.toNat % 4096) ∧
      (preferredSize? (ofMode mode).bytes = some (mode.width.toNat, mode.height.toNat) ↔
        mode.width < 4096 ∧ mode.height < 4096) := by
  refine ⟨preferredSize?_eq mode, ?_⟩
  have hfits (length : Nat) : length % 4096 = length ↔ length < 4096 :=
    ⟨fun hcut => hcut ▸ Nat.mod_lt _ (by decide), Nat.mod_eq_of_lt⟩
  rw [preferredSize?_eq, Option.some_inj, Prod.mk.injEq, hfits, hfits]
  rfl

/-- A monitor asked for 5120 by 2880 pixels advertises 1024 by 2880. -/
theorem preferredSize?_cut :
    preferredSize? (ofMode ⟨5120, 2880, 60⟩).bytes = some (1024, 2880) ∧
      preferredSize? (ofMode ⟨5120, 2880, 60⟩).bytes ≠ some (5120, 2880) := by
  rw [preferredSize?_eq]
  decide

end Edid

end VirtualMonitor
