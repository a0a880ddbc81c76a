import VirtualMonitor.Proofs.Edid.InPlace
import VirtualMonitor.Proofs.Edid.PreferredTiming

/-!
# What a host reads off a detailed timing

Most values of a detailed timing are scattered over two bytes: a low byte of their own, and
two or four bits in a byte that they share with others.  Brought to numbers, packing is
division and remainder, and reading is a sum, so each field keeps its value modulo a power
of two (`decode?_encode`).

* `copyAll?_contiguous`: fields that are written one behind the other from the start of a
  buffer fill its front; they fail to be written exactly if the buffer is too short for
  them.
* `decode?_writeInto?_ofMode`: what a host reads off the timing of a mode, field by field.
-/

namespace VirtualMonitor

namespace Edid

/-! ## Fields that follow one another -/

/-- The places of parts that stand one behind the other. -/
def contiguous (start : Nat) : List (List UInt8) → List (Nat × Nat × List UInt8)
  | [] => []
  | part :: parts =>
    (start, start + part.length, part) :: contiguous (start + part.length) parts

/-- One part takes the place of as many bytes, if there are as many. -/
theorem copy?_over {done part rest : List UInt8} {start : Nat} (hstart : done.length = start) :
    copy? start (start + part.length) part (done ++ rest) =
      if part.length ≤ rest.length then some (done ++ part ++ rest.drop part.length)
      else none := by
  subst hstart
  by_cases hfits : part.length ≤ rest.length
  · simp [copy?, within?, hfits]
  · simp [copy?, within?, hfits]

/-- Parts that stand one behind the other are written exactly if there is room for them all;
they replace what was there, and what is behind them stays. -/
theorem copyAll?_contiguous {parts : List (List UInt8)} {done rest : List UInt8} {start : Nat}
    (hstart : done.length = start) :
    copyAll? (contiguous start parts) (done ++ rest) =
      if parts.flatten.length ≤ rest.length then
        some (done ++ parts.flatten ++ rest.drop parts.flatten.length)
      else none := by
  induction parts generalizing done rest start with
  | nil => simp [contiguous, copyAll?]
  | cons part parts ih =>
      have hcopy := @copy?_over done part rest start hstart
      simp only [contiguous, copyAll?, List.foldlM_cons, hcopy, List.flatten_cons,
        List.length_append]
      by_cases hfits : part.length ≤ rest.length
      · have hnext : (done ++ part).length = start + part.length := by
          rw [List.length_append, hstart]
        have hparts := @ih (done ++ part) (rest.drop part.length) _ hnext
        -- room for all parts is room for the others behind the first
        have hroom : part.length + parts.flatten.length ≤ rest.length ↔
            parts.flatten.length ≤ rest.length - part.length := by omega
        simp only [copyAll?, List.length_drop, List.drop_drop] at hparts
        simp only [if_pos hfits, Option.bind_eq_bind, Option.bind_some, hparts, hroom]
        simp only [List.append_assoc]
      · have hroom : ¬part.length + parts.flatten.length ≤ rest.length := by omega
        simp only [if_neg hfits, if_neg hroom, Option.bind_eq_bind, Option.bind_none]

end Edid

namespace DetailedTiming

/-! ## Writing in place -/

/-- The bytes of a detailed timing in the order in which they are written: the clock takes
two bytes at once. -/
def parts (timing : DetailedTiming) : List (List UInt8) :=
  [[timing.pixelClock.toUInt8, (timing.pixelClock >>> 8).toUInt8],
   [timing.hActive.toUInt8], [timing.hBlank.toUInt8],
   [packNibbles timing.hActive timing.hBlank],
   [timing.vActive.toUInt8], [timing.vBlank.toUInt8],
   [packNibbles timing.vActive timing.vBlank],
   [timing.hFront.toUInt8], [timing.hSync.toUInt8],
   [packLowNibbles timing.vFront timing.vSync], [timing.packSyncBits],
   [timing.hSize.toUInt8], [timing.vSize.toUInt8], [packNibbles timing.hSize timing.vSize],
   [timing.hBorder], [timing.vBorder], [timing.flags]]

/-- Writes a detailed timing part by part over the front of a buffer.  Every access is
checked. -/
def writeInPlace? (timing : DetailedTiming) : List UInt8 → Option (List UInt8) :=
  Edid.copyAll? (Edid.contiguous 0 timing.parts)

/-- Whether it is written at once or part by part, the same buffers take a timing and the
same bytes are left in them. -/
theorem writeInPlace?_eq (timing : DetailedTiming) (buffer : List UInt8) :
    timing.writeInPlace? buffer = timing.writeInto? buffer :=
  @Edid.copyAll?_contiguous timing.parts [] buffer 0 rfl

/-! ## Bits as numbers -/

theorem toNat_lowNibble (value : UInt32) : (value &&& 0x0F).toNat = value.toNat % 16 := by
  rw [UInt32.toNat_and]
  exact Nat.and_two_pow_sub_one_eq_mod _ 4

theorem toNat_topPair (value : UInt32) :
    ((value >>> 8) &&& 0x03).toNat = value.toNat / 256 % 4 := by
  rw [UInt32.toNat_and, UInt32.toNat_shiftRight, Nat.shiftRight_eq_div_pow]
  exact Nat.and_two_pow_sub_one_eq_mod _ 2

theorem toNat_middlePair (value : UInt32) :
    ((value >>> 4) &&& 0x03).toNat = value.toNat / 16 % 4 := by
  rw [UInt32.toNat_and, UInt32.toNat_shiftRight, Nat.shiftRight_eq_div_pow]
  exact Nat.and_two_pow_sub_one_eq_mod _ 2

/-- A low byte, or a part of one, and further bits above it. -/
theorem toNat_join {low high : UInt8} {shift : UInt32} (hshift : shift ≤ 8)
    (hlow : low.toNat < 2 ^ shift.toNat) :
    (low.toUInt32 ||| high.toUInt32 <<< shift).toNat =
      low.toNat + high.toNat * 2 ^ shift.toNat := by
  have hsmall : shift.toNat ≤ 8 := UInt32.le_iff_toNat_le.mp hshift
  have hbound : high.toNat * 2 ^ shift.toNat < 2 ^ 32 :=
    calc high.toNat * 2 ^ shift.toNat
        ≤ high.toNat * 2 ^ 8 :=
          Nat.mul_le_mul_left _ (Nat.pow_le_pow_right (by decide) hsmall)
      _ < 2 ^ 32 := by
          have := high.toNat_lt
          omega
  have hshifted : (high.toUInt32 <<< shift).toNat = high.toNat <<< shift.toNat := by
    rw [UInt32.toNat_shiftLeft, Nat.mod_eq_of_lt (by omega : shift.toNat < 32),
      UInt8.toNat_toUInt32, Nat.shiftLeft_eq, Nat.mod_eq_of_lt hbound]
  rw [UInt32.toNat_or, hshifted, UInt8.toNat_toUInt32, Nat.or_comm,
    ← Nat.shiftLeft_add_eq_or_of_lt hlow, Nat.shiftLeft_eq, Nat.add_comm]

theorem toNat_joinByte (low high : UInt8) :
    (low.toUInt32 ||| high.toUInt32 <<< 8).toNat = low.toNat + high.toNat * 256 :=
  toNat_join (by decide) low.toNat_lt

/-- The lower half of a shared byte keeps the top bits of the second value. -/
theorem toNat_lowerField (high value : UInt32) :
    value.toUInt8.toNat + (packNibbles high value).toNat % 16 * 256 = value.toNat % 4096 := by
  rw [toNat_packNibbles, UInt32.toNat_toUInt8]
  omega

theorem toNat_packLowNibbles (high low : UInt32) :
    (packLowNibbles high low).toNat = high.toNat % 16 * 16 + low.toNat % 16 := by
  have hlow : low.toNat % 16 < 2 ^ 4 := Nat.mod_lt _ (by decide)
  have hbound : (high.toNat % 16) <<< 4 < 2 ^ 32 := by
    rw [Nat.shiftLeft_eq]
    omega
  have hshift : ((high &&& 0x0F) <<< 4).toNat = (high.toNat % 16) <<< 4 := by
    rw [UInt32.toNat_shiftLeft, toNat_lowNibble]
    exact Nat.mod_eq_of_lt hbound
  rw [packLowNibbles, UInt32.toNat_toUInt8, UInt32.toNat_or, hshift, toNat_lowNibble,
    ← Nat.shiftLeft_add_eq_or_of_lt hlow, Nat.shiftLeft_eq]
  omega

theorem shiftLeft_pairs : ∀ first < 4, ∀ second < 4, ∀ third < 4, ∀ fourth < 4,
    (first <<< 6 ||| second <<< 4 ||| third <<< 2 ||| fourth) =
      first * 64 + second * 16 + third * 4 + fourth := by
  decide +kernel

theorem toNat_packSyncBits (timing : DetailedTiming) :
    timing.packSyncBits.toNat =
      timing.hFront.toNat / 256 % 4 * 64 + timing.hSync.toNat / 256 % 4 * 16 +
        timing.vFront.toNat / 16 % 4 * 4 + timing.vSync.toNat / 16 % 4 := by
  have hpair (value : Nat) : value % 4 < 4 := Nat.mod_lt _ (by decide)
  -- two bits moved up by six at most stay inside the word
  have hshift (value shift : UInt32) (hvalue : value.toNat < 4) (hshift : shift ≤ 6) :
      (value <<< shift).toNat = value.toNat <<< shift.toNat := by
    have hsmall : shift.toNat ≤ 6 := UInt32.le_iff_toNat_le.mp hshift
    have hpower : 2 ^ shift.toNat ≤ 2 ^ 6 := Nat.pow_le_pow_right (by decide) hsmall
    rw [UInt32.toNat_shiftLeft, Nat.mod_eq_of_lt (by omega : shift.toNat < 32), Nat.shiftLeft_eq]
    refine Nat.mod_eq_of_lt (Nat.lt_of_le_of_lt (Nat.mul_le_mul hvalue.le hpower) (by decide))
  have hpairs := shiftLeft_pairs _ (hpair (timing.hFront.toNat / 256)) _
    (hpair (timing.hSync.toNat / 256)) _ (hpair (timing.vFront.toNat / 16)) _
    (hpair (timing.vSync.toNat / 16))
  rw [packSyncBits, UInt32.toNat_toUInt8, UInt32.toNat_or, UInt32.toNat_or, UInt32.toNat_or,
    hshift _ 6 (by rw [toNat_topPair]; exact hpair _) (by decide),
    hshift _ 4 (by rw [toNat_topPair]; exact hpair _) (by decide),
    hshift _ 2 (by rw [toNat_middlePair]; exact hpair _) (by decide),
    toNat_topPair, toNat_topPair, toNat_middlePair, toNat_middlePair]
  exact (congrArg (· % 2 ^ 8) hpairs).trans (Nat.mod_eq_of_lt (by omega))

/-! ## Fields read back -/

theorem toNat_readUpper (low shared : UInt8) :
    (readUpper low shared).toNat = low.toNat + shared.toNat / 16 * 256 := by
  have hupper : (shared >>> 4).toNat = shared.toNat / 16 := by
    rw [UInt8.toNat_shiftRight, Nat.shiftRight_eq_div_pow]
    rfl
  rw [readUpper, toNat_joinByte, hupper]

theorem toNat_readLower (low shared : UInt8) :
    (readLower low shared).toNat = low.toNat + shared.toNat % 16 * 256 := by
  have hlower : (shared &&& 0x0F).toNat = shared.toNat % 16 := by
    rw [UInt8.toNat_and]
    exact Nat.and_two_pow_sub_one_eq_mod _ 4
  rw [readLower, toNat_joinByte, hlower]

theorem readUpper_packNibbles (value low : UInt32) :
    readUpper value.toUInt8 (packNibbles value low) = value % 4096 := by
  rw [← UInt32.toNat_inj, toNat_readUpper, toNat_upperField, UInt32.toNat_mod]
  rfl

theorem readLower_packNibbles (high value : UInt32) :
    readLower value.toUInt8 (packNibbles high value) = value % 4096 := by
  rw [← UInt32.toNat_inj, toNat_readLower, toNat_lowerField, UInt32.toNat_mod]
  rfl

theorem toNat_pairAt (shared shift : UInt8) (hshift : shift < 8) :
    ((shared >>> shift) &&& 0x03).toNat = shared.toNat / 2 ^ shift.toNat % 4 := by
  have hsmall : shift.toNat < 8 := UInt8.lt_iff_toNat_lt.mp hshift
  rw [UInt8.toNat_and, UInt8.toNat_shiftRight, Nat.mod_eq_of_lt hsmall,
    Nat.shiftRight_eq_div_pow]
  exact Nat.and_two_pow_sub_one_eq_mod _ 2

section Sync

variable (timing : DetailedTiming)

theorem read_hFront :
    timing.hFront.toUInt8.toUInt32 ||| (timing.packSyncBits >>> 6).toUInt32 <<< 8 =
      timing.hFront % 1024 := by
  have hhigh : (timing.packSyncBits >>> 6).toNat = timing.packSyncBits.toNat / 64 := by
    rw [UInt8.toNat_shiftRight, Nat.shiftRight_eq_div_pow]
    rfl
  have hmodulus : (1024 : UInt32).toNat = 1024 := rfl
  rw [← UInt32.toNat_inj, toNat_joinByte, hhigh, toNat_packSyncBits, UInt32.toNat_toUInt8,
    UInt32.toNat_mod, hmodulus]
  omega

theorem read_hSync :
    timing.hSync.toUInt8.toUInt32 ||| ((timing.packSyncBits >>> 4) &&& 0x03).toUInt32 <<< 8 =
      timing.hSync % 1024 := by
  have hhigh := toNat_pairAt timing.packSyncBits 4 (by decide)
  have hshift : (4 : UInt8).toNat = 4 := rfl
  have hmodulus : (1024 : UInt32).toNat = 1024 := rfl
  rw [← UInt32.toNat_inj, toNat_joinByte, hhigh, toNat_packSyncBits, UInt32.toNat_toUInt8,
    UInt32.toNat_mod, hmodulus, hshift]
  omega

theorem read_vFront :
    (packLowNibbles timing.vFront timing.vSync >>> 4).toUInt32 |||
        ((timing.packSyncBits >>> 2) &&& 0x03).toUInt32 <<< 4 =
      timing.vFront % 64 := by
  have hlow : (packLowNibbles timing.vFront timing.vSync >>> 4).toNat =
      timing.vFront.toNat % 16 := by
    rw [UInt8.toNat_shiftRight, Nat.shiftRight_eq_div_pow, toNat_packLowNibbles]
    change _ / 2 ^ 4 = _
    omega
  have hhigh := toNat_pairAt timing.packSyncBits 2 (by decide)
  have hshift : (2 : UInt8).toNat = 2 := rfl
  have hwidth : (4 : UInt32).toNat = 4 := rfl
  have hmodulus : (64 : UInt32).toNat = 64 := rfl
  have hnibble : timing.vFront.toNat % 16 < 2 ^ 4 := Nat.mod_lt _ (by decide)
  rw [← UInt32.toNat_inj, toNat_join (by decide) (by rwa [hlow, hwidth]), hlow, hhigh,
    toNat_packSyncBits, UInt32.toNat_mod, hmodulus, hshift, hwidth]
  omega

theorem read_vSync :
    (packLowNibbles timing.vFront timing.vSync &&& 0x0F).toUInt32 |||
        (timing.packSyncBits &&& 0x03).toUInt32 <<< 4 =
      timing.vSync % 64 := by
  have hlow : (packLowNibbles timing.vFront timing.vSync &&& 0x0F).toNat =
      timing.vSync.toNat % 16 := by
    rw [UInt8.toNat_and, toNat_packLowNibbles]
    refine (Nat.and_two_pow_sub_one_eq_mod _ 4).trans ?_
    omega
  have hhigh : (timing.packSyncBits &&& 0x03).toNat = timing.packSyncBits.toNat % 4 := by
    rw [UInt8.toNat_and]
    exact Nat.and_two_pow_sub_one_eq_mod _ 2
  have hwidth : (4 : UInt32).toNat = 4 := rfl
  have hmodulus : (64 : UInt32).toNat = 64 := rfl
  have hnibble : timing.vSync.toNat % 16 < 2 ^ 4 := Nat.mod_lt _ (by decide)
  rw [← UInt32.toNat_inj, toNat_join (by decide) (by rwa [hlow, hwidth]), hlow, hhigh,
    toNat_packSyncBits, UInt32.toNat_mod, hmodulus, hwidth]
  omega

end Sync

theorem read_pixelClock (clock : UInt32) :
    clock.toUInt8.toUInt32 ||| (clock >>> 8).toUInt8.toUInt32 <<< 8 = clock % 65536 := by
  have hhigh : (clock >>> 8).toUInt8.toNat = clock.toNat / 256 % 256 := by
    rw [UInt32.toNat_toUInt8, UInt32.toNat_shiftRight, Nat.shiftRight_eq_div_pow]
    rfl
  have hmodulus : (65536 : UInt32).toNat = 65536 := rfl
  rw [← UInt32.toNat_inj, toNat_joinByte, hhigh, UInt32.toNat_toUInt8, UInt32.toNat_mod,
    hmodulus]
  omega

/-! ## A timing cut to its fields -/

/-- What is left of a detailed timing in fields of 16, 12, 10 and 6 bits. -/
def narrowed (timing : DetailedTiming) : DetailedTiming :=
  { timing with
    pixelClock := timing.pixelClock % 65536
    hActive := timing.hActive % 4096
    hBlank := timing.hBlank % 4096
    vActive := timing.vActive % 4096
    vBlank := timing.vBlank % 4096
    hFront := timing.hFront % 1024
    hSync := timing.hSync % 1024
    vFront := timing.vFront % 64
    vSync := timing.vSync % 64
    hSize := timing.hSize % 4096
    vSize := timing.vSize % 4096 }

/-- Every value has room in its field. -/
structure Fits (timing : DetailedTiming) : Prop where
  pixelClock : timing.pixelClock < 65536
  hActive : timing.hActive < 4096
  hBlank : timing.hBlank < 4096
  vActive : timing.vActive < 4096
  vBlank : timing.vBlank < 4096
  hFront : timing.hFront < 1024
  hSync : timing.hSync < 1024
  vFront : timing.vFront < 64
  vSync : timing.vSync < 64
  hSize : timing.hSize < 4096
  vSize : timing.vSize < 4096

theorem decode?_encode (timing : DetailedTiming) :
    decode? timing.encode = some timing.narrowed := by
  simp only [encode, decode?, read_pixelClock, readUpper_packNibbles, readLower_packNibbles,
    read_hFront, read_hSync, read_vFront, read_vSync, narrowed]

/-- Cutting a timing to its fields changes nothing exactly if it fits. -/
theorem narrowed_eq_self_iff (timing : DetailedTiming) :
    timing.narrowed = timing ↔ timing.Fits := by
  -- a remainder is the value itself exactly if the value is below the modulus
  have hkept {value modulus : UInt32} (hpos : 0 < modulus) :
      value % modulus = value ↔ value < modulus := by
    rw [← UInt32.toNat_inj, UInt32.toNat_mod, UInt32.lt_iff_toNat_lt]
    exact Nat.mod_eq_iff_lt (Nat.pos_iff_ne_zero.mp (UInt32.lt_iff_toNat_lt.mp hpos))
  constructor
  · intro hsame
    have hfield (value : DetailedTiming → UInt32) : value timing.narrowed = value timing :=
      congrArg value hsame
    exact {
      pixelClock := (hkept (by decide)).mp (hfield DetailedTiming.pixelClock)
      hActive := (hkept (by decide)).mp (hfield DetailedTiming.hActive)
      hBlank := (hkept (by decide)).mp (hfield DetailedTiming.hBlank)
      vActive := (hkept (by decide)).mp (hfield DetailedTiming.vActive)
      vBlank := (hkept (by decide)).mp (hfield DetailedTiming.vBlank)
      hFront := (hkept (by decide)).mp (hfield DetailedTiming.hFront)
      hSync := (hkept (by decide)).mp (hfield DetailedTiming.hSync)
      vFront := (hkept (by decide)).mp (hfield DetailedTiming.vFront)
      vSync := (hkept (by decide)).mp (hfield DetailedTiming.vSync)
      hSize := (hkept (by decide)).mp (hfield DetailedTiming.hSize)
      vSize := (hkept (by decide)).mp (hfield DetailedTiming.vSize) }
  · intro hfits
    have hcut {value modulus : UInt32} (hpos : 0 < modulus) (hlt : value < modulus) :
        value % modulus = value := (hkept hpos).mpr hlt
    simp only [narrowed, hcut (by decide) hfits.pixelClock, hcut (by decide) hfits.hActive,
      hcut (by decide) hfits.hBlank, hcut (by decide) hfits.vActive,
      hcut (by decide) hfits.vBlank, hcut (by decide) hfits.hFront, hcut (by decide) hfits.hSync,
      hcut (by decide) hfits.vFront, hcut (by decide) hfits.vSync, hcut (by decide) hfits.hSize,
      hcut (by decide) hfits.vSize]

/-! ## The timing of a mode -/

theorem toNat_clockOf (timing : Timing) :
    (clockOf timing).toNat = min (timing.pixelClock.toNat / 10) 65535 := by
  rw [clockOf, UInt32.toNat_min, UInt32.toNat_div]
  rfl

theorem toNat_scaledSize (pixels panelPixels panelSize : UInt32) :
    (scaledSize pixels panelPixels panelSize).toNat =
      min (panelSize.toNat * pixels.toNat) (2 ^ 32 - 1) / panelPixels.toNat := by
  have hword : min (pixels.toNat * panelSize.toNat) (UInt32.size - 1) < UInt32.size :=
    Nat.lt_of_le_of_lt (Nat.min_le_right _ _) (by decide)
  rw [scaledSize, UInt32.toNat_div, UInt32.toNat_ofNat_of_lt' hword, Nat.mul_comm]
  rfl

theorem writeInto?_eq_none_iff (timing : DetailedTiming) (buffer : List UInt8) :
    timing.writeInto? buffer = none ↔ buffer.length < 18 := by
  rw [← Nat.not_le, writeInto?, length]
  split <;> simp_all

/-- What is written is the timing in front of the bytes that were behind it before. -/
theorem eq_of_writeInto? {timing : DetailedTiming} {buffer written : List UInt8}
    (hwritten : timing.writeInto? buffer = some written) :
    written = timing.encode ++ buffer.drop 18 := by
  unfold writeInto? at hwritten
  split at hwritten
  · exact (Option.some_inj.mp hwritten).symm
  · cases hwritten

/-- The timing of any mode is written over the first 18 bytes of a buffer that has as many,
and of no shorter one; written part by part it comes to the same.  The bytes behind it stay.
What a host reads off the 18 bytes is the clock of the mode's timing in units of ten
kilohertz, at most 65535, and every other value of the timing cut to the width of its field:
12 bits for sizes and blankings, 10 for the horizontal and 6 for the vertical porch and sync.
So nothing is lost exactly if all of them fit. -/
theorem decode?_writeInto?_ofMode (mode : Mode) (buffer : List UInt8) :
    let timing := Timing.ofMode mode
    let stated := ofMode mode
    stated.writeInPlace? buffer = stated.writeInto? buffer ∧
      (stated.writeInto? buffer = none ↔ buffer.length < 18) ∧
      ∀ written, stated.writeInto? buffer = some written →
        written.length = buffer.length ∧ written.drop 18 = buffer.drop 18 ∧
          ∃ read, decode? (written.take 18) = some read ∧
            read.pixelClock.toNat = min (timing.pixelClock.toNat / 10) 65535 ∧
            read.hActive.toNat = mode.width.toNat % 4096 ∧
            read.vActive.toNat = mode.height.toNat % 4096 ∧
            read.hBlank.toNat = timing.hBlank.toNat % 4096 ∧
            read.vBlank.toNat = timing.vBlank.toNat % 4096 ∧
            read.hFront.toNat = timing.hFront.toNat % 1024 ∧
            read.hSync.toNat = timing.hSync.toNat % 1024 ∧
            read.vFront.toNat = timing.vFront.toNat % 64 ∧
            read.vSync.toNat = timing.vSync.toNat % 64 ∧
            read.hSize.toNat = min (600 * mode.width.toNat) (2 ^ 32 - 1) / 3840 % 4096 ∧
            read.vSize.toNat = min (340 * mode.height.toNat) (2 ^ 32 - 1) / 2160 % 4096 ∧
            (read = stated ↔ stated.Fits) := by
  intro timing stated
  refine ⟨writeInPlace?_eq stated buffer, writeInto?_eq_none_iff stated buffer, ?_⟩
  intro written hwritten
  -- a written buffer was long enough, and then its first 18 bytes are the descriptor
  have hlength : ¬buffer.length < 18 := by
    rw [← writeInto?_eq_none_iff stated, hwritten]
    exact nofun
  obtain rfl := eq_of_writeInto? hwritten
  have hfront : (stated.encode ++ buffer.drop 18).take 18 = stated.encode :=
    List.take_left' (length_encode stated)
  have hbehind : (stated.encode ++ buffer.drop 18).drop 18 = buffer.drop 18 :=
    List.drop_left' (length_encode stated)
  -- the clock is held to 65535 before it is cut, so that the cut loses nothing
  have hclock : (stated.pixelClock % 65536).toNat = min (timing.pixelClock.toNat / 10) 65535 := by
    rw [UInt32.toNat_mod, show stated.pixelClock = clockOf timing from rfl, toNat_clockOf]
    exact Nat.mod_eq_of_lt (Nat.lt_of_le_of_lt (Nat.min_le_right _ _) (by decide))
  have hcut (value modulus : UInt32) : (value % modulus).toNat = value.toNat % modulus.toNat :=
    UInt32.toNat_mod value modulus
  have hsize (pixels panelPixels panelSize : UInt32) :
      (scaledSize pixels panelPixels panelSize % 4096).toNat =
        min (panelSize.toNat * pixels.toNat) (2 ^ 32 - 1) / panelPixels.toNat % 4096 := by
    rw [UInt32.toNat_mod, toNat_scaledSize]
    rfl
  refine ⟨?_, hbehind, stated.narrowed, ?_, hclock, hcut _ 4096, hcut _ 4096, hcut _ 4096,
    hcut _ 4096, hcut _ 1024, hcut _ 1024, hcut _ 64, hcut _ 64, hsize mode.width 3840 600,
    hsize mode.height 2160 340, narrowed_eq_self_iff stated⟩
  · rw [List.length_append, length_encode, List.length_drop, length]
    omega
  · rw [hfront]
    exact decode?_encode stated

/-- The greatest resolution with a fixed timing uses the top bits of most fields.  It is
written in front of two further bytes, and nothing of it is lost. -/
theorem decode?_writeInto?_fixed :
    let buffer : List UInt8 := List.replicate 18 0xAA ++ [1, 2]
    let stated := ofMode ⟨3840, 2160, 60⟩
    ∃ written, stated.writeInto? buffer = some written ∧ written.drop 18 = [1, 2] ∧
      decode? (written.take 18) = some stated := by
  intro buffer stated
  obtain ⟨-, hshort, hread⟩ := decode?_writeInto?_ofMode ⟨3840, 2160, 60⟩ buffer
  obtain ⟨written, hwritten⟩ := Option.ne_none_iff_exists'.mp
    (fun hnone => absurd (hshort.mp hnone) (by decide))
  obtain ⟨-, hbehind, read, hdecoded, -, -, -, -, -, -, -, -, -, -, -, hlossless⟩ :=
    hread written hwritten
  have hfits : stated.Fits := by constructor <;> decide +kernel
  exact ⟨written, hwritten, hbehind, by rw [hdecoded, hlossless.mpr hfits]⟩

end DetailedTiming

end VirtualMonitor
