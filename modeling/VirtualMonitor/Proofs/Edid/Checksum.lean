import Mathlib.Algebra.BigOperators.Group.List.Basic
import Mathlib.Algebra.Ring.Basic
import Mathlib.Data.UInt
import VirtualMonitor.Edid.Checksum

/-!
# The checksum completes a block

The sum of bytes is additive over concatenation, so the byte that `sealBlock` appends
brings the sum of the block to zero (`blockValid_sealBlock`), and no other byte does
(`checksum?_eq_some_iff`).  In a sum modulo 256 a byte can be replaced by no other without
changing the sum (`blockValid_set_iff`).

* `checksum_completes`: validity and checksum decide each other, and a valid block shows
  every change of one byte.
-/

namespace VirtualMonitor.Edid

/-! ## Sums of bytes -/

@[simp] theorem total_nil : total [] = 0 := rfl

@[simp] theorem total_cons (byte : UInt8) (bytes : List UInt8) :
    total (byte :: bytes) = byte + total bytes := rfl

@[simp] theorem total_append (first second : List UInt8) :
    total (first ++ second) = total first + total second := by
  induction first with
  | nil => simp
  | cons byte first ih => simp [ih, add_assoc]

theorem total_eq_sum (bytes : List UInt8) : total bytes = bytes.sum := rfl

/-- What wraps around at every byte may as well do so once, at the end. -/
theorem toNat_total (bytes : List UInt8) :
    (total bytes).toNat = (bytes.map UInt8.toNat).sum % 256 := by
  induction bytes with
  | nil => rfl
  | cons byte bytes ih =>
      rw [total_cons, UInt8.toNat_add, ih, List.map_cons, List.sum_cons]
      exact Nat.add_mod_mod ..

theorem total_set {bytes : List UInt8} {index : Nat} {old : UInt8}
    (hold : bytes[index]? = some old) (byte : UInt8) :
    total (bytes.set index byte) = total bytes - old + byte := by
  obtain ⟨hindex, rfl⟩ := List.getElem?_eq_some_iff.mp hold
  rw [total_eq_sum, List.sum_set', dif_pos hindex, ← total_eq_sum, ← add_assoc, sub_eq_add_neg]

/-! ## Valid blocks -/

theorem blockValid_sealBlock {body : List UInt8} (hlength : body.length = 127) :
    BlockValid (sealBlock body) := by
  refine ⟨by simp [hlength, blockLength], ?_⟩
  simp [sealBlock]

theorem blockValid_iff_dvd {bytes : List UInt8} :
    BlockValid bytes ↔ bytes.length = 128 ∧ 256 ∣ (bytes.map UInt8.toNat).sum := by
  have htotal : total bytes = 0 ↔ (bytes.map UInt8.toNat).sum % 256 = 0 := by
    rw [← toNat_total, ← UInt8.toNat_inj, UInt8.toNat_zero]
  rw [BlockValid, htotal, Nat.dvd_iff_mod_eq_zero, blockLength]

theorem checksum?_of_le {bytes : List UInt8} (hlength : 127 ≤ bytes.length) :
    checksum? bytes = some (0 - total (bytes.take 127)) := if_pos hlength

/-- The checksum, and nothing else, completes the first 127 bytes to a valid block; fewer
bytes are completed by nothing. -/
theorem checksum?_eq_some_iff {bytes : List UInt8} {sum : UInt8} :
    checksum? bytes = some sum ↔ BlockValid (bytes.take 127 ++ [sum]) := by
  by_cases hlength : 127 ≤ bytes.length
  · have hblock : (bytes.take 127 ++ [sum]).length = blockLength := by
      simp [hlength, blockLength]
    have hsum : total (bytes.take 127 ++ [sum]) = 0 ↔ 0 - total (bytes.take 127) = sum := by
      rw [total_append, total_cons, total_nil, add_zero, add_eq_zero_iff_eq_neg', zero_sub]
      exact eq_comm
    rw [BlockValid, hsum, checksum?_of_le hlength, Option.some_inj]
    exact (and_iff_right hblock).symm
  · have hnone : checksum? bytes = none := if_neg hlength
    have hshort : (bytes.take 127 ++ [sum]).length ≠ blockLength := by
      simp only [List.length_append, List.length_take, List.length_singleton, blockLength]
      omega
    rw [hnone]
    exact iff_of_false nofun fun hvalid => hshort hvalid.1

theorem checksum?_congr {bytes other : List UInt8} (htake : other.take 127 = bytes.take 127) :
    checksum? other = checksum? bytes :=
  Option.ext fun sum => by rw [checksum?_eq_some_iff, checksum?_eq_some_iff, htake]

/-- A block is the first 127 bytes and the last, so it is valid if that is their checksum. -/
theorem blockValid_iff_getElem? {bytes : List UInt8} (hlength : bytes.length = 128) :
    BlockValid bytes ↔ bytes[127]? = checksum? bytes := by
  have hlast : 127 < bytes.length := by omega
  have hsplit : bytes.take 127 ++ [bytes[127]] = bytes := by
    rw [List.take_append_getElem, List.take_of_length_le hlength.le]
  calc BlockValid bytes
      ↔ BlockValid (bytes.take 127 ++ [bytes[127]]) := by rw [hsplit]
    _ ↔ checksum? bytes = some bytes[127] := checksum?_eq_some_iff.symm
    _ ↔ bytes[127]? = checksum? bytes := by rw [List.getElem?_eq_getElem hlast, eq_comm]

/-- In a valid block only the byte that stands in a place is right there. -/
theorem blockValid_set_iff {bytes : List UInt8} {index : Nat} {old byte : UInt8}
    (hvalid : BlockValid bytes) (hold : bytes[index]? = some old) :
    BlockValid (bytes.set index byte) ↔ byte = old := by
  have hlength : (bytes.set index byte).length = blockLength := by
    rw [List.length_set, hvalid.1]
  rw [BlockValid, and_iff_right hlength, total_set hold, hvalid.2, zero_sub, neg_add_eq_zero]
  exact eq_comm

/-- For every row of bytes:

* it is a valid block exactly if it has 128 bytes and their sum is a multiple of 256, so no
  row of another length is;
* a row of 128 bytes is valid exactly if its last byte is its checksum;
* a row of at least 127 bytes has a checksum, which is the one byte that completes the first
  127 to a valid block, and which every row that begins with the same 127 bytes shares;
* another byte in any one place of a valid block makes it invalid. -/
theorem checksum_completes (bytes : List UInt8) :
    (BlockValid bytes ↔ bytes.length = 128 ∧ 256 ∣ (bytes.map UInt8.toNat).sum) ∧
    (bytes.length = 128 → (BlockValid bytes ↔ bytes[127]? = checksum? bytes)) ∧
    (127 ≤ bytes.length → ∃ sum, checksum? bytes = some sum ∧
      (∀ byte, BlockValid (bytes.take 127 ++ [byte]) ↔ byte = sum) ∧
      ∀ other, other.take 127 = bytes.take 127 → checksum? other = some sum) ∧
    ∀ index old byte, BlockValid bytes → bytes[index]? = some old → byte ≠ old →
      ¬BlockValid (bytes.set index byte) := by
  refine ⟨blockValid_iff_dvd, blockValid_iff_getElem?, ?_, ?_⟩
  · intro hlength
    have hsum := checksum?_of_le hlength
    refine ⟨_, hsum, fun byte => ?_, fun other htake => ?_⟩
    · rw [← checksum?_eq_some_iff, hsum, Option.some_inj, eq_comm]
    · rw [checksum?_congr htake, hsum]
  · intro index old byte hvalid hold hne hchanged
    exact hne ((blockValid_set_iff hvalid hold).mp hchanged)

/-- The checksum of 127 ones is 129, and a two among them shows. -/
theorem checksum_completes_ones :
    let block := sealBlock (List.replicate 127 1)
    block.length = 128 ∧ BlockValid block ∧
      (∀ byte, BlockValid (block.take 127 ++ [byte]) ↔ byte = 129) ∧
      block[40]? = some 1 ∧ ¬BlockValid (block.set 40 2) := by
  intro block
  obtain ⟨-, hlast, hsum, hchange⟩ := checksum_completes block
  have hlength : block.length = 128 := by simp [block]
  have hvalid : BlockValid block := (hlast hlength).mpr (by decide +kernel)
  have hold : block[40]? = some 1 := by decide +kernel
  obtain ⟨sum, hchecksum, hunique, -⟩ := hsum (by rw [hlength]; decide)
  obtain rfl : sum = 129 := Option.some_inj.mp (hchecksum.symm.trans (by decide +kernel))
  exact ⟨hlength, hvalid, hunique, hold, hchange 40 1 2 hvalid hold (by decide)⟩

end VirtualMonitor.Edid
