import VirtualMonitor.Proofs.Binary64.Number
import VirtualMonitor.Proofs.Edid.TimingRule

/-!
# The estimated clock

The estimate of the clock divides the width of a line by the time that it may take.  That time
is what the vertical blanking leaves of a frame, so it shrinks as the rate rises, and at 1819 Hz
the frame is shorter than the blanking: the time is negative from there on, and a negative
clock is cut to zero.

* `clock_rises_until`: the clock that a detailed timing states rises with the rate up to
  1818 Hz and is zero beyond.
-/

namespace VirtualMonitor

open Binary64

namespace Timing

/-! ## The estimate in rational numbers -/

/-- What the vertical blanking leaves of a frame, in microseconds. -/
def lineTime (hertz : ℕ) : ℚ := rounded (rounded (1000000 / hertz) - 550)

def period (height hertz : ℕ) : ℚ := rounded (lineTime hertz / (height + 3))

def lineWidth (width : ℕ) : ℚ := rounded (width * rounded (115 / 100))

/-- The clock, in kilohertz. -/
def clock (width height hertz : ℕ) : ℚ :=
  rounded (rounded (lineWidth width / period height hertz) * 1000)

section Estimate

variable {width height hertz slow fast : ℕ}

theorem frame_le (hhertz : 1 ≤ hertz) : (1000000 / hertz : ℚ) ≤ 2 ^ (20 : ℤ) := by
  have hcast : (1 : ℚ) ≤ hertz := by exact_mod_cast hhertz
  calc (1000000 / hertz : ℚ) ≤ 1000000 := div_le_self (by norm_num) hcast
    _ ≤ 2 ^ (20 : ℤ) := by norm_num

theorem frame_antitone (hslow : 1 ≤ slow) (hle : slow ≤ fast) :
    rounded (1000000 / fast) ≤ rounded (1000000 / slow) := by
  have hpos : (0 : ℚ) < slow := by exact_mod_cast hslow
  apply rounded_mono
  gcongr

/-- Up to 1818 Hz a frame takes longer than its vertical blanking. -/
theorem le_lineTime (hhertz : 1 ≤ hertz) (hslow : hertz ≤ 1818) :
    (2 : ℚ) ^ (-5 : ℤ) ≤ lineTime hertz := by
  have hnumber : IsNumber ((17601 : ℕ) * 2 ^ (-5 : ℤ)) :=
    ⟨17601, -5, by norm_num, by norm_num, abs_of_pos (by positivity)⟩
  have hframe : ((17601 : ℕ) * 2 ^ (-5 : ℤ) : ℚ) ≤ rounded (1000000 / hertz) := by
    calc ((17601 : ℕ) * 2 ^ (-5 : ℤ) : ℚ) ≤ rounded (1000000 / (1818 : ℕ)) :=
          hnumber.le_rounded (by norm_num)
      _ ≤ rounded (1000000 / hertz) := frame_antitone hhertz hslow
  apply (isNumber_zpow (by norm_num)).le_rounded
  norm_num at hframe ⊢
  linarith

/-- From 1819 Hz on it takes less. -/
theorem lineTime_le (hfast : 1818 < hertz) : lineTime hertz ≤ -2 ^ (-3 : ℤ) := by
  have hnumber : IsNumber ((4399 : ℕ) * 2 ^ (-3 : ℤ)) :=
    ⟨4399, -3, by norm_num, by norm_num, abs_of_pos (by positivity)⟩
  have hframe : rounded (1000000 / hertz) ≤ ((4399 : ℕ) * 2 ^ (-3 : ℤ) : ℚ) := by
    calc rounded (1000000 / hertz) ≤ rounded (1000000 / (1819 : ℕ)) :=
          frame_antitone (by norm_num) hfast
      _ ≤ ((4399 : ℕ) * 2 ^ (-3 : ℤ) : ℚ) := hnumber.rounded_le (by norm_num)
  apply (isNumber_zpow (by norm_num)).neg.rounded_le
  norm_num at hframe ⊢
  linarith

theorem lineTime_antitone (hslow : 1 ≤ slow) (hle : slow ≤ fast) :
    lineTime fast ≤ lineTime slow :=
  rounded_mono (sub_le_sub_right (frame_antitone hslow hle) 550)

theorem abs_rest_le (hhertz : 1 ≤ hertz) :
    |rounded (1000000 / hertz) - 550| ≤ (2 : ℚ) ^ (20 : ℤ) := by
  have hleast : 0 ≤ rounded (1000000 / hertz) := rounded_nonneg (by positivity)
  have hgreatest : rounded (1000000 / hertz) ≤ 2 ^ (20 : ℤ) :=
    (isNumber_zpow (by norm_num)).rounded_le (frame_le hhertz)
  rw [abs_le]
  norm_num at hgreatest ⊢
  constructor <;> linarith

theorem le_abs_lineTime (hhertz : 1 ≤ hertz) : (2 : ℚ) ^ (-5 : ℤ) ≤ |lineTime hertz| := by
  rcases Nat.lt_or_ge 1818 hertz with hfast | hslow
  · calc (2 : ℚ) ^ (-5 : ℤ) ≤ 2 ^ (-3 : ℤ) := by norm_num
      _ ≤ -lineTime hertz := le_neg_of_le_neg (lineTime_le hfast)
      _ ≤ |lineTime hertz| := neg_le_abs _
  · exact (le_lineTime hhertz hslow).trans (le_abs_self _)

/-- A height is counted with its three lines of front porch. -/
theorem lines_le (hheight : height < 2 ^ 32) : (height + 3 : ℚ) ≤ 2 ^ (33 : ℤ) := by
  have hlines : height + 3 ≤ 2 ^ 33 := by omega
  exact_mod_cast hlines

theorem abs_division_le (hhertz : 1 ≤ hertz) :
    |lineTime hertz / (height + 3)| ≤ (2 : ℚ) ^ (20 : ℤ) := by
  have htime : |lineTime hertz| ≤ 2 ^ (20 : ℤ) :=
    (isNumber_zpow (by norm_num)).abs_rounded_le (abs_rest_le hhertz)
  have hlines : (1 : ℚ) ≤ height + 3 := by
    have hheight : (0 : ℚ) ≤ height := Nat.cast_nonneg height
    linarith
  rw [abs_div, abs_of_pos (by positivity : (0 : ℚ) < height + 3)]
  exact (div_le_self (abs_nonneg _) hlines).trans htime

/-- No line period is too near zero to divide by. -/
theorem le_abs_period (hheight : height < 2 ^ 32) (hhertz : 1 ≤ hertz) :
    (2 : ℚ) ^ (-38 : ℤ) ≤ |period height hertz| := by
  apply (isNumber_zpow (by norm_num)).le_abs_rounded
  rw [abs_div, abs_of_pos (by positivity : (0 : ℚ) < height + 3), le_div_iff₀ (by positivity)]
  calc (2 : ℚ) ^ (-38 : ℤ) * (height + 3) ≤ 2 ^ (-38 : ℤ) * 2 ^ (33 : ℤ) := by
        gcongr
        exact lines_le hheight
    _ = 2 ^ (-5 : ℤ) := by rw [← zpow_add₀ (by norm_num)]; norm_num
    _ ≤ |lineTime hertz| := le_abs_lineTime hhertz

theorem period_ne_zero (hheight : height < 2 ^ 32) (hhertz : 1 ≤ hertz) :
    period height hertz ≠ 0 := by
  have hleast := le_abs_period hheight hhertz
  rw [← abs_pos]
  exact lt_of_lt_of_le (by positivity) hleast

theorem lineWidth_nonneg (width : ℕ) : 0 ≤ lineWidth width :=
  rounded_nonneg (mul_nonneg (Nat.cast_nonneg width) (rounded_nonneg (by norm_num)))

theorem width_mul_le (hwidth : width < 2 ^ 32) :
    |width * rounded (115 / 100)| ≤ (2 : ℚ) ^ (33 : ℤ) := by
  have hfactor : rounded (115 / 100) ≤ 2 ^ (1 : ℤ) :=
    (isNumber_zpow (by norm_num)).rounded_le (by norm_num)
  have hcast : (width : ℚ) ≤ 2 ^ (32 : ℤ) := by exact_mod_cast hwidth.le
  have hleast : 0 ≤ rounded (115 / 100) := rounded_nonneg (by norm_num)
  rw [abs_of_nonneg (by positivity)]
  calc (width : ℚ) * rounded (115 / 100) ≤ 2 ^ (32 : ℤ) * 2 ^ (1 : ℤ) := by gcongr
    _ = 2 ^ (33 : ℤ) := by norm_num

theorem abs_ratio_le (hwidth : width < 2 ^ 32) (hheight : height < 2 ^ 32) (hhertz : 1 ≤ hertz) :
    |lineWidth width / period height hertz| ≤ (2 : ℚ) ^ (71 : ℤ) := by
  have hline : |lineWidth width| ≤ 2 ^ (33 : ℤ) :=
    (isNumber_zpow (by norm_num)).abs_rounded_le (width_mul_le hwidth)
  have hperiod := le_abs_period hheight hhertz
  rw [abs_div, div_le_iff₀ (lt_of_lt_of_le (by positivity) hperiod)]
  calc |lineWidth width| ≤ 2 ^ (71 : ℤ) * 2 ^ (-38 : ℤ) := by
        rw [← zpow_add₀ (by norm_num)]
        exact hline
    _ ≤ 2 ^ (71 : ℤ) * |period height hertz| := by gcongr

theorem abs_kilohertz_le (hwidth : width < 2 ^ 32) (hheight : height < 2 ^ 32)
    (hhertz : 1 ≤ hertz) :
    |rounded (lineWidth width / period height hertz) * 1000| ≤ (2 : ℚ) ^ (81 : ℤ) := by
  have hratio : |rounded (lineWidth width / period height hertz)| ≤ 2 ^ (71 : ℤ) :=
    (isNumber_zpow (by norm_num)).abs_rounded_le (abs_ratio_le hwidth hheight hhertz)
  rw [abs_mul, abs_of_pos (by norm_num : (0 : ℚ) < 1000)]
  calc |rounded (lineWidth width / period height hertz)| * 1000
      ≤ 2 ^ (71 : ℤ) * 2 ^ (10 : ℤ) := by
        gcongr
        norm_num
    _ = 2 ^ (81 : ℤ) := by rw [← zpow_add₀ (by norm_num)]; norm_num

/-! ## How the estimate follows the rate -/

theorem period_pos (hheight : height < 2 ^ 32) (hhertz : 1 ≤ hertz) (hslow : hertz ≤ 1818) :
    0 < period height hertz := by
  have htime : 0 ≤ lineTime hertz := le_trans (by positivity) (le_lineTime hhertz hslow)
  have hnonneg : 0 ≤ period height hertz := rounded_nonneg (div_nonneg htime (by positivity))
  exact lt_of_le_of_ne hnonneg (period_ne_zero hheight hhertz).symm

theorem period_nonpos (hfast : 1818 < hertz) : period height hertz ≤ 0 := by
  have htime : lineTime hertz ≤ 0 := by
    refine (lineTime_le hfast).trans ?_
    norm_num
  apply rounded_nonpos
  exact div_nonpos_of_nonpos_of_nonneg htime (by positivity)

theorem clock_mono (hheight : height < 2 ^ 32) (hslow : 1 ≤ slow) (hle : slow ≤ fast)
    (hfast : fast ≤ 1818) : clock width height slow ≤ clock width height fast := by
  have hperiod : period height fast ≤ period height slow := by
    apply rounded_mono
    have htime := lineTime_antitone hslow hle
    gcongr
  have hpos : 0 < period height fast := period_pos hheight (hslow.trans hle) hfast
  have hwidth := lineWidth_nonneg width
  apply rounded_mono
  apply mul_le_mul_of_nonneg_right _ (by norm_num)
  apply rounded_mono
  gcongr

theorem clock_nonpos (hfast : 1818 < hertz) : clock width height hertz ≤ 0 := by
  have hratio : rounded (lineWidth width / period height hertz) ≤ 0 :=
    rounded_nonpos (div_nonpos_of_nonneg_of_nonpos (lineWidth_nonneg width) (period_nonpos hfast))
  exact rounded_nonpos (mul_nonpos_of_nonpos_of_nonneg hratio (by norm_num))

end Estimate

/-! ## The estimate is what is computed -/

theorem one_le_effectiveHertz (mode : Mode) : 1 ≤ mode.effectiveHertz.toNat := by
  unfold Mode.effectiveHertz
  split_ifs with hhertz
  · decide
  · exact Nat.one_le_iff_ne_zero.mpr fun hzero => hhertz (UInt32.toNat_inj.mp hzero)

theorem holds_linePeriod (mode : Mode) :
    Holds (linePeriod mode) (period mode.height.toNat mode.effectiveHertz.toNat) := by
  have hhertz := one_le_effectiveHertz mode
  have hheight : mode.height.toNat < 2 ^ 32 := mode.height.toNat_lt
  have hmillion : Holds 1000000.0 (1000000 : ℕ) := holds_wholeLiteral 1000000 (by norm_num)
  have hblanking : Holds 550.0 (550 : ℕ) := holds_wholeLiteral 550 (by norm_num)
  have hporch : Holds 3.0 (3 : ℕ) := holds_wholeLiteral 3 (by norm_num)
  have hframe : Holds (1000000.0 / mode.effectiveHertz.toFloat)
      (rounded (1000000 / mode.effectiveHertz.toNat)) := by
    have hbound := lt_of_le_two_zpow (frame_le hhertz) (by norm_num)
    apply hmillion.div (holds_toFloat _) (by positivity)
    rwa [abs_of_nonneg (by positivity)]
  have htime : Holds (1000000.0 / mode.effectiveHertz.toFloat - 550.0)
      (lineTime mode.effectiveHertz.toNat) :=
    hframe.sub hblanking (lt_of_le_two_zpow (abs_rest_le hhertz) (by norm_num))
  -- the number of lines is a whole one below 2 ^ 53, so the sum is exact
  have hlines : Holds (mode.height.toFloat + 3.0) (mode.height.toNat + 3) := by
    have hnumber : IsNumber (mode.height.toNat + (3 : ℕ)) := by
      exact_mod_cast isNumber_natCast (by omega : mode.height.toNat + 3 < 2 ^ 53)
    have hsum := (holds_toFloat mode.height).add hporch (by
      rw [abs_of_nonneg (by positivity)]
      exact lt_of_le_two_zpow (lines_le hheight) (by norm_num))
    rwa [rounded_of_isNumber hnumber] at hsum
  exact htime.div hlines (by positivity)
    (lt_of_le_two_zpow (abs_division_le hhertz) (by norm_num))

theorem toNat_estimatedClock (mode : Mode) :
    (estimatedClock mode).toNat =
      min ⌊clock mode.width.toNat mode.height.toNat mode.effectiveHertz.toNat⌋₊ (2 ^ 32 - 1) := by
  have hhertz := one_le_effectiveHertz mode
  have hheight : mode.height.toNat < 2 ^ 32 := mode.height.toNat_lt
  have hwidth : mode.width.toNat < 2 ^ 32 := mode.width.toNat_lt
  -- 1.15 is no binary fraction; its rounded value is what the width is multiplied by
  have hfactor : Holds 1.15 (rounded (115 / 100)) := by
    have hvalue : ((115 : ℕ) : ℚ) / 10 ^ 2 = 115 / 100 := by norm_num
    exact hvalue ▸ holds_literal 115 2 (by norm_num) (by norm_num)
  have hthousand : Holds 1000.0 (1000 : ℕ) := holds_wholeLiteral 1000 (by norm_num)
  have hline : Holds (mode.width.toFloat * 1.15) (lineWidth mode.width.toNat) :=
    (holds_toFloat _).mul hfactor (lt_of_le_two_zpow (width_mul_le hwidth) (by norm_num))
  have hratio : Holds (mode.width.toFloat * 1.15 / linePeriod mode)
      (rounded (lineWidth mode.width.toNat /
        period mode.height.toNat mode.effectiveHertz.toNat)) :=
    hline.div (holds_linePeriod mode) (period_ne_zero hheight hhertz)
      (lt_of_le_two_zpow (abs_ratio_le hwidth hheight hhertz) (by norm_num))
  exact (hratio.mul hthousand
    (lt_of_le_two_zpow (abs_kilohertz_le hwidth hheight hhertz) (by norm_num))).toUInt32

end Timing

namespace DetailedTiming

/-! ## The clock that is stated -/

/-- The clock field of a detailed timing, in units of ten kilohertz: the first two bytes, the
lower one first. -/
def clockField : List UInt8 → ℕ
  | low :: high :: _ => low.toNat + 256 * high.toNat
  | _ => 0

/-- The clock that the detailed timing of a mode states. -/
def statedClock (mode : Mode) : ℕ := clockField (ofMode mode).encode

theorem statedClock_eq (mode : Mode) :
    statedClock mode = min ((Timing.ofMode mode).pixelClock.toNat / 10) 65535 := by
  rw [← toNat_clockOf]
  generalize hclock : clockOf (Timing.ofMode mode) = clock
  -- the clock is held to 16 bits, so its two bytes say all of it
  have hbound : clock.toNat ≤ 65535 := by
    rw [← hclock, toNat_clockOf]
    exact Nat.min_le_right _ _
  have hhigh : (clock >>> 8).toNat = clock.toNat / 256 := by
    rw [UInt32.toNat_shiftRight, Nat.shiftRight_eq_div_pow]
    rfl
  show (clockOf (Timing.ofMode mode)).toUInt8.toNat +
    256 * (clockOf (Timing.ofMode mode) >>> 8).toUInt8.toNat = clock.toNat
  rw [hclock, UInt32.toNat_toUInt8, UInt32.toNat_toUInt8, hhigh]
  omega

section Rates

variable {width height slow fast : UInt32}

theorem statedClock_of_isFixed (hfixed : Timing.IsFixed width height) (hertz other : UInt32) :
    statedClock ⟨width, height, hertz⟩ = statedClock ⟨width, height, other⟩ := by
  rw [statedClock_eq, statedClock_eq, Timing.ofMode_of_isFixed hfixed hertz other]

theorem statedClock_of_not_isFixed {mode : Mode}
    (hfixed : ¬Timing.IsFixed mode.width mode.height) :
    statedClock mode = min ((Timing.estimatedClock mode).toNat / 10) 65535 := by
  rw [statedClock_eq, Timing.ofMode_of_not_isFixed hfixed]
  rfl

theorem effectiveHertz_of_one_le {hertz : UInt32} (hhertz : 1 ≤ hertz) :
    Mode.effectiveHertz ⟨width, height, hertz⟩ = hertz := by
  have hne : hertz ≠ 0 := by
    rintro rfl
    exact absurd hhertz (by decide)
  exact if_neg hne

theorem statedClock_mono (hslow : 1 ≤ slow) (hle : slow ≤ fast) (hfast : fast ≤ 1818)
    (hfixed : ¬Timing.IsFixed width height) :
    statedClock ⟨width, height, slow⟩ ≤ statedClock ⟨width, height, fast⟩ := by
  have hclock : ⌊Timing.clock width.toNat height.toNat slow.toNat⌋₊ ≤
      ⌊Timing.clock width.toNat height.toNat fast.toNat⌋₊ :=
    Nat.floor_mono (Timing.clock_mono height.toNat_lt hslow hle hfast)
  rw [@statedClock_of_not_isFixed ⟨width, height, slow⟩ hfixed,
    @statedClock_of_not_isFixed ⟨width, height, fast⟩ hfixed, Timing.toNat_estimatedClock,
    Timing.toNat_estimatedClock, effectiveHertz_of_one_le hslow,
    effectiveHertz_of_one_le (UInt32.le_trans hslow hle)]
  dsimp only
  omega

theorem statedClock_eq_zero (hfast : 1818 < fast) (hfixed : ¬Timing.IsFixed width height) :
    statedClock ⟨width, height, fast⟩ = 0 := by
  have hone : 1 ≤ fast := UInt32.le_trans (by decide) (UInt32.le_of_lt hfast)
  have hclock : ⌊Timing.clock width.toNat height.toNat fast.toNat⌋₊ = 0 :=
    Nat.floor_of_nonpos (Timing.clock_nonpos hfast)
  rw [@statedClock_of_not_isFixed ⟨width, height, fast⟩ hfixed, Timing.toNat_estimatedClock,
    effectiveHertz_of_one_le hone, hclock]
  rfl

/-- A higher rate states no lower clock as long as it is no higher than 1818 Hz.  Above that an
estimated clock is stated as zero, so it is lower than any that was stated before, unless the
timing is fixed or the picture so small that its clock was zero already. -/
theorem clock_rises_until (width height : UInt32) {slow fast : UInt32} (hslow : 1 ≤ slow)
    (hle : slow ≤ fast) :
    (statedClock ⟨width, height, slow⟩ ≤ statedClock ⟨width, height, fast⟩ ↔
      Timing.IsFixed width height ∨ fast ≤ 1818 ∨ statedClock ⟨width, height, slow⟩ = 0) ∧
    (¬Timing.IsFixed width height → 1818 < fast → statedClock ⟨width, height, fast⟩ = 0) := by
  refine ⟨⟨fun hrises => ?_, ?_⟩, fun hfixed hfast => statedClock_eq_zero hfast hfixed⟩
  · -- beyond 1818 Hz the clock falls to zero, so it has risen only from zero
    by_cases hfixed : Timing.IsFixed width height
    · exact .inl hfixed
    · by_cases hbelow : fast ≤ 1818
      · exact .inr (.inl hbelow)
      · rw [statedClock_eq_zero (UInt32.not_le.mp hbelow) hfixed] at hrises
        exact .inr (.inr (Nat.le_zero.mp hrises))
  · rintro (hfixed | hbelow | hzero)
    · exact (statedClock_of_isFixed hfixed slow fast).le
    · by_cases hfixed : Timing.IsFixed width height
      · exact (statedClock_of_isFixed hfixed slow fast).le
      · exact statedClock_mono hslow hle hbelow hfixed
    · rw [hzero]
      exact Nat.zero_le _

end Rates

/-- The last clock before the fall is the greatest there is. -/
theorem clock_falls_to_zero :
    statedClock ⟨1600, 1000, 1818⟩ = 65535 ∧ statedClock ⟨1600, 1000, 5000⟩ = 0 := by
  decide +kernel

/-- A size without a fixed timing at an ordinary and at a fast rate. -/
theorem clock_rises_until_fast :
    (1 : UInt32) ≤ 60 ∧ (60 : UInt32) ≤ 144 ∧
      statedClock ⟨1600, 1000, 60⟩ ≤ statedClock ⟨1600, 1000, 144⟩ := by
  have hslow : (1 : UInt32) ≤ 60 := by decide
  have hle : (60 : UInt32) ≤ 144 := by decide
  exact ⟨hslow, hle, (clock_rises_until 1600 1000 hslow hle).1.mpr (.inr (.inl (by decide)))⟩

end DetailedTiming

end VirtualMonitor
