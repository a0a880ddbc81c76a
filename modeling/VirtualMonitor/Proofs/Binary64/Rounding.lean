import Mathlib.Algebra.Order.Field.Power
import Mathlib.Data.Int.Log
import Mathlib.Data.Rat.Floor
import Mathlib.Tactic.GCongr
import Mathlib.Tactic.Linarith
import Mathlib.Tactic.Positivity
import Mathlib.Tactic.Ring

/-!
# Rounding to binary64

A binary64 number is written with at most 53 binary digits in units of a power of two, which
is at least the 1074th power of a half.  Rounding takes a rational number to the nearest of
these, and of two that are equally near to the one with the even digits.  Here there is no
greatest number; overflow is a matter of storing the result, not of rounding.

* `rounded_mono`: rounding keeps the order.
* `rounded_of_isNumber`: what is a number already stays as it is.

Together they bound a rounded value by any number on either side of what was rounded.
-/

namespace VirtualMonitor.Binary64

/-! ## The nearest whole number -/

/-- The whole number nearest to a value, and of two that are equally near the even one. -/
def nearestEven (value : ℚ) : ℕ :=
  if value - ⌊value⌋₊ < 1 / 2 then ⌊value⌋₊
  else if 1 / 2 < value - ⌊value⌋₊ then ⌊value⌋₊ + 1
  else ⌊value⌋₊ + ⌊value⌋₊ % 2

theorem nearestEven_natCast (number : ℕ) : nearestEven number = number := by
  rw [nearestEven, Nat.floor_natCast, sub_self, if_pos (by norm_num)]

theorem floor_le_nearestEven (value : ℚ) : ⌊value⌋₊ ≤ nearestEven value := by
  unfold nearestEven
  split_ifs <;> omega

theorem nearestEven_le_floor (value : ℚ) : nearestEven value ≤ ⌊value⌋₊ + 1 := by
  unfold nearestEven
  split_ifs <;> omega

theorem nearestEven_mono : Monotone nearestEven := by
  intro least greatest hle
  have hfloor : ⌊least⌋₊ ≤ ⌊greatest⌋₊ := Nat.floor_mono hle
  rcases hfloor.lt_or_eq with hlt | heq
  · calc nearestEven least ≤ ⌊least⌋₊ + 1 := nearestEven_le_floor least
      _ ≤ ⌊greatest⌋₊ := hlt
      _ ≤ nearestEven greatest := floor_le_nearestEven greatest
  · -- with the same whole part it is decided by what lies above it
    unfold nearestEven
    rw [heq]
    split_ifs <;> first | omega | linarith

/-! ## The unit -/

/-- The exponent of the unit in which a positive value is written. -/
def unitExponent (value : ℚ) : ℤ := max (Int.log 2 value - 52) (-1074)

section Units

variable {value least greatest : ℚ} {exponent : ℤ}

theorem unitExponent_mono (hleast : 0 < least) (hle : least ≤ greatest) :
    unitExponent least ≤ unitExponent greatest := by
  have hlog : Int.log 2 least ≤ Int.log 2 greatest := Int.log_mono_right hleast hle
  unfold unitExponent
  omega

theorem unitExponent_le (hvalue : 0 < value) (hbound : value < 2 ^ (exponent + 53))
    (hexponent : -1074 ≤ exponent) : unitExponent value ≤ exponent := by
  have hlog : Int.log 2 value < exponent + 53 :=
    (Int.lt_zpow_iff_log_lt (by norm_num) hvalue).mp (by exact_mod_cast hbound)
  unfold unitExponent
  omega

theorem lt_unit (value : ℚ) : value / 2 ^ unitExponent value < (2 ^ 53 : ℕ) := by
  rw [div_lt_iff₀ (by positivity)]
  calc value < (2 : ℚ) ^ (Int.log 2 value + 1) := by
        exact_mod_cast Int.lt_zpow_succ_log_self (by norm_num : 1 < 2) value
    _ ≤ 2 ^ (53 + unitExponent value) := by
        apply zpow_le_zpow_right₀ (by norm_num)
        unfold unitExponent
        omega
    _ = (2 ^ 53 : ℕ) * 2 ^ unitExponent value := by
        rw [zpow_add₀ (by norm_num)]
        norm_num

/-- All 53 digits are needed, unless the unit is the least. -/
theorem unit_le (hvalue : 0 < value) :
    ((2 ^ 52 : ℕ) : ℚ) ≤ value / 2 ^ unitExponent value ∨ unitExponent value = -1074 := by
  by_cases hleast : unitExponent value = -1074
  · exact .inr hleast
  · have hunit : unitExponent value = Int.log 2 value - 52 := by
      unfold unitExponent at hleast ⊢
      omega
    left
    rw [le_div_iff₀ (by positivity), hunit]
    calc ((2 ^ 52 : ℕ) : ℚ) * 2 ^ (Int.log 2 value - 52) = 2 ^ Int.log 2 value := by
          rw [zpow_sub₀ (by norm_num)]
          norm_num
          ring
      _ ≤ value := by exact_mod_cast Int.zpow_log_le_self (by norm_num : 1 < 2) hvalue

end Units

/-! ## Rounding -/

/-- The nearest number to a value that is not negative. -/
def roundedMagnitude (value : ℚ) : ℚ :=
  nearestEven (value / 2 ^ unitExponent value) * 2 ^ unitExponent value

/-- The nearest number to a value. -/
def rounded (value : ℚ) : ℚ :=
  if 0 ≤ value then roundedMagnitude value else -roundedMagnitude (-value)

section Magnitude

variable {value least greatest : ℚ} {digits : ℕ} {exponent : ℤ}

theorem div_unit (hexponent : unitExponent value ≤ exponent) :
    (digits : ℚ) * 2 ^ exponent / 2 ^ unitExponent value =
      (digits * 2 ^ (exponent - unitExponent value).toNat : ℕ) := by
  have hsplit : exponent = (exponent - unitExponent value).toNat + unitExponent value := by
    omega
  push_cast
  rw [div_eq_iff (by positivity), mul_assoc, ← zpow_natCast, ← zpow_add₀ (by norm_num), ← hsplit]

theorem le_roundedMagnitude (hexponent : unitExponent value ≤ exponent)
    (hle : digits * 2 ^ exponent ≤ value) : digits * 2 ^ exponent ≤ roundedMagnitude value := by
  have hwhole : digits * 2 ^ (exponent - unitExponent value).toNat ≤
      nearestEven (value / 2 ^ unitExponent value) := by
    rw [← nearestEven_natCast (digits * _), ← div_unit hexponent]
    apply nearestEven_mono
    gcongr
  rw [roundedMagnitude, ← div_le_iff₀ (by positivity), div_unit hexponent]
  exact_mod_cast hwhole

theorem roundedMagnitude_le (hexponent : unitExponent value ≤ exponent)
    (hle : value ≤ digits * 2 ^ exponent) : roundedMagnitude value ≤ digits * 2 ^ exponent := by
  have hwhole : nearestEven (value / 2 ^ unitExponent value) ≤
      digits * 2 ^ (exponent - unitExponent value).toNat := by
    rw [← nearestEven_natCast (digits * _), ← div_unit hexponent]
    apply nearestEven_mono
    gcongr
  rw [roundedMagnitude, ← le_div_iff₀ (by positivity), div_unit hexponent]
  exact_mod_cast hwhole

theorem roundedMagnitude_nonneg (value : ℚ) : 0 ≤ roundedMagnitude value := by
  unfold roundedMagnitude
  positivity

theorem roundedMagnitude_zero : roundedMagnitude 0 = 0 := by
  rw [roundedMagnitude, zero_div, ← Nat.cast_zero, nearestEven_natCast, Nat.cast_zero, zero_mul]

theorem roundedMagnitude_mono (hleast : 0 < least) (hle : least ≤ greatest) :
    roundedMagnitude least ≤ roundedMagnitude greatest := by
  rcases (unitExponent_mono hleast hle).lt_or_eq with hlt | heq
  · -- between values of different units there is a power of two
    have hunit : unitExponent greatest = Int.log 2 greatest - 52 := by
      unfold unitExponent at hlt ⊢
      omega
    have hlog : Int.log 2 least < Int.log 2 greatest := by
      unfold unitExponent at hlt
      omega
    have hbelow : least ≤ (1 : ℕ) * 2 ^ Int.log 2 greatest := by
      rw [Nat.cast_one, one_mul]
      exact le_of_lt (by exact_mod_cast (Int.lt_zpow_iff_log_lt (by norm_num) hleast).mpr hlog)
    have habove : (1 : ℕ) * 2 ^ Int.log 2 greatest ≤ greatest := by
      rw [Nat.cast_one, one_mul]
      exact_mod_cast Int.zpow_log_le_self (by norm_num : 1 < 2) (hleast.trans_le hle)
    exact (roundedMagnitude_le (by omega) hbelow).trans (le_roundedMagnitude (by omega) habove)
  · unfold roundedMagnitude
    rw [heq]
    gcongr
    apply nearestEven_mono
    gcongr

theorem roundedMagnitude_of_digits (hdigits : digits < 2 ^ 53) (hexponent : -1074 ≤ exponent) :
    roundedMagnitude (digits * 2 ^ exponent) = digits * 2 ^ exponent := by
  rcases Nat.eq_zero_or_pos digits with rfl | hpos
  · rw [Nat.cast_zero, zero_mul, roundedMagnitude_zero]
  · have hunit : unitExponent (digits * 2 ^ exponent) ≤ exponent := by
      apply unitExponent_le (by positivity) _ hexponent
      rw [add_comm, zpow_add₀ (by norm_num)]
      gcongr
      exact_mod_cast hdigits
    exact le_antisymm (roundedMagnitude_le hunit le_rfl) (le_roundedMagnitude hunit le_rfl)

end Magnitude

/-! ## Order and fixed points -/

theorem rounded_of_nonneg {value : ℚ} (hvalue : 0 ≤ value) :
    rounded value = roundedMagnitude value :=
  if_pos hvalue

theorem rounded_zero : rounded 0 = 0 := by
  rw [rounded_of_nonneg le_rfl, roundedMagnitude_zero]

theorem rounded_neg (value : ℚ) : rounded (-value) = -rounded value := by
  rcases lt_trichotomy value 0 with hneg | rfl | hpos
  · rw [rounded, rounded, if_pos (by linarith), if_neg (by linarith), neg_neg]
  · rw [neg_zero, rounded_zero, neg_zero]
  · rw [rounded, rounded, if_neg (by linarith), if_pos hpos.le, neg_neg]

theorem rounded_nonneg {value : ℚ} (hvalue : 0 ≤ value) : 0 ≤ rounded value := by
  rw [rounded_of_nonneg hvalue]
  exact roundedMagnitude_nonneg value

theorem rounded_mono_of_nonneg {least greatest : ℚ} (hleast : 0 ≤ least) (hle : least ≤ greatest) :
    rounded least ≤ rounded greatest := by
  rcases hleast.eq_or_lt with rfl | hpos
  · rw [rounded_zero]
    exact rounded_nonneg hle
  · rw [rounded_of_nonneg hleast, rounded_of_nonneg (hleast.trans hle)]
    exact roundedMagnitude_mono hpos hle

theorem rounded_mono : Monotone rounded := by
  intro least greatest hle
  rcases le_total 0 least with hleast | hleast
  · exact rounded_mono_of_nonneg hleast hle
  · rcases le_total 0 greatest with hgreatest | hgreatest
    · calc rounded least = -rounded (-least) := by rw [rounded_neg, neg_neg]
        _ ≤ 0 := neg_nonpos.mpr (rounded_nonneg (neg_nonneg.mpr hleast))
        _ ≤ rounded greatest := rounded_nonneg hgreatest
    · have hneg : rounded (-greatest) ≤ rounded (-least) :=
        rounded_mono_of_nonneg (neg_nonneg.mpr hgreatest) (neg_le_neg hle)
      rw [rounded_neg, rounded_neg] at hneg
      exact neg_le_neg_iff.mp hneg

theorem rounded_nonpos {value : ℚ} (hvalue : value ≤ 0) : rounded value ≤ 0 :=
  rounded_zero ▸ rounded_mono hvalue

/-- The values that need no rounding. -/
def IsNumber (value : ℚ) : Prop :=
  ∃ (digits : ℕ) (exponent : ℤ), digits < 2 ^ 53 ∧ -1074 ≤ exponent ∧
    |value| = digits * 2 ^ exponent

theorem isNumber_natCast {number : ℕ} (hnumber : number < 2 ^ 53) : IsNumber number :=
  ⟨number, 0, hnumber, by norm_num, by rw [Nat.abs_cast, zpow_zero, mul_one]⟩

theorem isNumber_zpow {exponent : ℤ} (hexponent : -1074 ≤ exponent) : IsNumber (2 ^ exponent) :=
  ⟨1, exponent, by norm_num, hexponent, by rw [abs_of_pos (by positivity), Nat.cast_one, one_mul]⟩

theorem IsNumber.neg {value : ℚ} (hvalue : IsNumber value) : IsNumber (-value) := by
  rw [IsNumber, abs_neg]
  exact hvalue

theorem rounded_of_isNumber {value : ℚ} (hvalue : IsNumber value) : rounded value = value := by
  obtain ⟨digits, exponent, hdigits, hexponent, habs⟩ := hvalue
  have hmagnitude : rounded |value| = |value| := by
    rw [rounded_of_nonneg (abs_nonneg value), habs]
    exact roundedMagnitude_of_digits hdigits hexponent
  rcases abs_choice value with hsign | hsign
  · rwa [hsign] at hmagnitude
  · rw [hsign, rounded_neg] at hmagnitude
    exact neg_injective hmagnitude

section Bounds

variable {value bound : ℚ}

theorem IsNumber.le_rounded (hbound : IsNumber bound) (hle : bound ≤ value) :
    bound ≤ rounded value :=
  rounded_of_isNumber hbound ▸ rounded_mono hle

theorem IsNumber.rounded_le (hbound : IsNumber bound) (hle : value ≤ bound) :
    rounded value ≤ bound :=
  rounded_of_isNumber hbound ▸ rounded_mono hle

theorem IsNumber.abs_rounded_le (hbound : IsNumber bound) (hle : |value| ≤ bound) :
    |rounded value| ≤ bound := by
  obtain ⟨hleast, hgreatest⟩ := abs_le.mp hle
  exact abs_le.mpr ⟨hbound.neg.le_rounded hleast, hbound.rounded_le hgreatest⟩

theorem IsNumber.le_abs_rounded (hbound : IsNumber bound) (hle : bound ≤ |value|) :
    bound ≤ |rounded value| := by
  rcases le_total 0 value with hvalue | hvalue
  · rw [abs_of_nonneg hvalue] at hle
    exact (hbound.le_rounded hle).trans (le_abs_self _)
  · rw [abs_of_nonpos hvalue] at hle
    have hneg : rounded value ≤ -bound := hbound.neg.rounded_le (le_neg_of_le_neg hle)
    exact (le_neg_of_le_neg hneg).trans (neg_le_abs _)

end Bounds

end VirtualMonitor.Binary64
