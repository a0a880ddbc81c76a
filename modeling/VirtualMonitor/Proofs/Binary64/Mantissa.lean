import VirtualMonitor.Proofs.Binary64.Rounding

/-!
# Rounding by residual bits

The arithmetic never sees the exact result of an operation.  It has its leading digits and two
bits for the rest: whether the rest reaches a half, and whether anything is left then.  `Tells`
says which values fit, and both shifting and rounding need no more than that.

* `stores_roundWithAccuracy`: what is stored in the end is the exact result, rounded.
-/

namespace VirtualMonitor.Binary64

open Float.Model (Format UnpackedFloat totalExponent)
open Float.Model.UnpackedFloat

/-! ## What the residual bits tell -/

/-- What the round bit stands for. -/
def half : Bool → ℚ
  | true => 1 / 2
  | false => 0

theorem half_parity (mantissa : ℕ) : half (mantissa % 2 != 0) = (mantissa % 2 : ℕ) / 2 := by
  rcases Nat.mod_two_eq_zero_or_one mantissa with hdigit | hdigit
  · rw [hdigit, Nat.cast_zero, zero_div]
    rfl
  · rw [hdigit, Nat.cast_one]
    rfl

/-- The values of which a mantissa and its residual bits are all that is kept. -/
def Tells (kept : ExtendedMantissa) (value : ℚ) : Prop :=
  ∃ rest : ℚ, 0 ≤ rest ∧ rest < 1 / 2 ∧ (kept.stickyBit = true ↔ rest ≠ 0) ∧
    value = kept.mantissa + half kept.roundBit + rest

section Residual

variable {kept : ExtendedMantissa} {value : ℚ}

theorem Tells.bounds (htells : Tells kept value) :
    kept.mantissa ≤ value ∧ value < kept.mantissa + 1 := by
  obtain ⟨rest, hleast, hgreatest, -, rfl⟩ := htells
  cases kept.roundBit <;> constructor <;> simp only [half] <;> linarith

theorem Tells.floor (htells : Tells kept value) : ⌊value⌋₊ = kept.mantissa := by
  obtain ⟨hleast, hgreatest⟩ := htells.bounds
  exact (Nat.floor_eq_iff ((Nat.cast_nonneg _).trans hleast)).mpr ⟨hleast, hgreatest⟩

theorem Tells.roundedMantissa (htells : Tells kept value) :
    kept.roundedMantissa = nearestEven value := by
  rw [nearestEven, htells.floor]
  obtain ⟨rest, hleast, hgreatest, hsticky, rfl⟩ := htells
  obtain ⟨mantissa, roundBit, stickyBit⟩ := kept
  cases roundBit <;> cases stickyBit <;>
    simp [ExtendedMantissa.roundedMantissa, ExtendedMantissa.accuracy,
      Accuracy.roundToNearestEven, half] at hsticky ⊢ <;> grind

theorem Tells.shiftRightOne (htells : Tells kept value) : Tells kept.shiftRightOne (value / 2) := by
  obtain ⟨rest, hleast, hgreatest, hsticky, rfl⟩ := htells
  obtain ⟨mantissa, roundBit, stickyBit⟩ := kept
  have hmantissa : (mantissa : ℚ) = 2 * (mantissa / 2 : ℕ) + (mantissa % 2 : ℕ) := by
    exact_mod_cast (Nat.div_add_mod mantissa 2).symm
  -- the digit that is shifted out becomes the round bit, and the old round bit joins the rest
  refine ⟨(half roundBit + rest) / 2, ?_, ?_, ?_, ?_⟩
  · cases roundBit <;> simp only [half] <;> linarith
  · cases roundBit <;> simp only [half] <;> linarith
  · cases roundBit <;> simp [ExtendedMantissa.shiftRightOne, half] at hsticky ⊢ <;> grind
  · show (mantissa + half roundBit + rest) / 2 =
      (mantissa / 2 : ℕ) + half (mantissa % 2 != 0) + (half roundBit + rest) / 2
    rw [half_parity]
    linarith

theorem Tells.shiftRight (htells : Tells kept value) (amount : ℕ) :
    Tells (kept >>> amount) (value / 2 ^ amount) := by
  show Tells (amount.repeat ExtendedMantissa.shiftRightOne kept) _
  induction amount with
  | zero => rwa [pow_zero, div_one]
  | succ amount ih =>
      rw [pow_succ, ← div_div]
      exact ih.shiftRightOne

end Residual

theorem tells_exact (mantissa : ℕ) :
    Tells (ExtendedMantissa.ofMantissaAndAccuracy mantissa .exact) mantissa :=
  ⟨0, le_rfl, by norm_num, ⟨nofun, fun hne => absurd rfl hne⟩, by
    show (mantissa : ℚ) = mantissa + 0 + 0
    ring⟩

/-- A division tells its quotient. -/
theorem tells_quotient (dividend : ℕ) {divisor : ℕ} (hdivisor : 0 < divisor) :
    Tells (ExtendedMantissa.ofMantissaAndAccuracy (dividend / divisor)
      (accuracyOfFraction (dividend % divisor) divisor)) (dividend / divisor : ℚ) := by
  have hpos : (0 : ℚ) < divisor := by exact_mod_cast hdivisor
  have hless : ((dividend % divisor : ℕ) : ℚ) < divisor := by
    exact_mod_cast Nat.mod_lt dividend hdivisor
  have hquotient : (dividend / divisor : ℚ) =
      (dividend / divisor : ℕ) + (dividend % divisor : ℕ) / divisor := by
    rw [div_eq_iff hpos.ne', add_mul, div_mul_cancel₀ _ hpos.ne']
    exact_mod_cast (Nat.div_add_mod' dividend divisor).symm
  rw [hquotient]
  generalize dividend / divisor = whole
  generalize dividend % divisor = part at hless
  unfold accuracyOfFraction
  split_ifs with hpart
  · rw [hpart, Nat.cast_zero, zero_div, add_zero]
    exact tells_exact whole
  · have hpart : (0 : ℚ) < part := by exact_mod_cast Nat.pos_of_ne_zero hpart
    -- twice the remainder against the divisor: the fraction is below, at or above one half
    rcases hcompare : compare (2 * part) divisor with _ | _ | _
    · have hlt : (2 * part : ℚ) < divisor := by
        exact_mod_cast Nat.compare_eq_lt.mp hcompare
      refine ⟨part / divisor, by positivity, ?_, ⟨fun _ => by positivity, fun _ => rfl⟩, ?_⟩
      · rw [div_lt_iff₀ hpos]
        linarith
      · show (whole : ℚ) + part / divisor = whole + 0 + part / divisor
        ring
    · have heq : (2 * part : ℚ) = divisor := by
        exact_mod_cast Nat.compare_eq_eq.mp hcompare
      refine ⟨0, le_rfl, by norm_num, ⟨nofun, fun hne => absurd rfl hne⟩, ?_⟩
      show (whole : ℚ) + part / divisor = whole + 1 / 2 + 0
      rw [← heq, add_zero]
      field_simp
    · have hgt : (divisor : ℚ) < 2 * part := by
        exact_mod_cast Nat.compare_eq_gt.mp hcompare
      have habove : 1 / 2 < part / (divisor : ℚ) := by
        rw [lt_div_iff₀ hpos]
        linarith
      have hbelow : part / (divisor : ℚ) < 1 := (div_lt_one hpos).mpr hless
      refine ⟨part / divisor - 1 / 2, by linarith, by linarith, ⟨fun _ => ?_, fun _ => rfl⟩, ?_⟩
      · exact (sub_pos.mpr habove).ne'
      · show (whole : ℚ) + part / divisor = whole + 1 / 2 + (part / divisor - 1 / 2)
        ring

/-! ## Finite numbers -/

/-- The one way to write a finite number that the format has room for. -/
structure IsCanonical (mantissa : ℕ) (exponent : ℤ) : Prop where
  fits : mantissa < 2 ^ 53
  least : -1074 ≤ exponent
  greatest : exponent ≤ 971
  /-- No digit is wasted unless the unit is the least. -/
  normal : 2 ^ 52 ≤ mantissa ∨ exponent = -1074

def signed : Sign → ℚ → ℚ
  | .positive, value => value
  | .negative, value => -value

/-- The value that a finite number stores. -/
inductive Stores : UnpackedFloat → ℚ → Prop where
  | zero (sign : Sign) : Stores (.zero sign) 0
  | finite (sign : Sign) {mantissa : ℕ} {exponent : ℤ} (hpos : 0 < mantissa)
      (hcanonical : IsCanonical mantissa exponent) :
      Stores (.finite sign mantissa exponent hpos) (signed sign (mantissa * 2 ^ exponent))

/-! ## Shifting to an exponent -/

section Shifting

variable {mantissa : ℕ} {exponent target : ℤ} {accuracy : Accuracy} {value : ℚ}

theorem tells_shiftToExponent
    (htells : Tells (ExtendedMantissa.ofMantissaAndAccuracy mantissa accuracy) value)
    (hle : exponent ≤ target) :
    Tells (shiftToExponent mantissa exponent accuracy target).1
        (value * 2 ^ exponent / 2 ^ target) ∧
      (shiftToExponent mantissa exponent accuracy target).2 = target := by
  have htarget : target = exponent + (target - exponent).toNat := by omega
  refine ⟨?_, htarget.symm⟩
  have hvalue : value * 2 ^ exponent / 2 ^ target = value / 2 ^ (target - exponent).toNat := by
    nth_rewrite 1 [htarget]
    rw [zpow_add₀ (by norm_num), zpow_natCast]
    field_simp
  rw [hvalue]
  exact htells.shiftRight _

/-- The leading digit of a value is that of its whole part. -/
theorem log_eq (hmantissa : 0 < mantissa) (hleast : mantissa ≤ value)
    (hgreatest : value < mantissa + 1) :
    Int.log 2 (value * 2 ^ exponent) = mantissa.log2 + exponent := by
  have hpos : (0 : ℚ) < value := lt_of_lt_of_le (by exact_mod_cast hmantissa) hleast
  have hscaled : (0 : ℚ) < value * 2 ^ exponent := by positivity
  have hbelow : ((2 : ℕ) : ℚ) ^ (mantissa.log2 + exponent) ≤ value * 2 ^ exponent := by
    rw [Nat.cast_ofNat, zpow_add₀ (by norm_num), zpow_natCast]
    gcongr
    exact le_trans (by exact_mod_cast Nat.log2_self_le hmantissa.ne') hleast
  have habove : value * 2 ^ exponent < ((2 : ℕ) : ℚ) ^ (mantissa.log2 + exponent + 1) := by
    rw [Nat.cast_ofNat, add_right_comm, zpow_add₀ (by norm_num)]
    gcongr
    exact lt_of_lt_of_le hgreatest (by exact_mod_cast Nat.lt_log2_self)
  apply le_antisymm
  · exact Int.lt_add_one_iff.mp ((Int.lt_zpow_iff_log_lt (by norm_num) hscaled).mp habove)
  · exact (Int.zpow_le_iff_le_log (by norm_num) hscaled).mp hbelow

/-- The exponent that rounding aims at is the unit of the value. -/
theorem targetExponent_eq (hvalue : 0 < value) (hleast : mantissa ≤ value)
    (hgreatest : value < mantissa + 1) (hmantissa : 0 < mantissa ∨ exponent ≤ -1074) :
    Format.binary64.targetExponent (totalExponent mantissa exponent) =
      unitExponent (value * 2 ^ exponent) := by
  show max (mantissa.log2 + 1 + exponent - 53) (-1074) = unitExponent (value * 2 ^ exponent)
  rcases Nat.eq_zero_or_pos mantissa with rfl | hpos
  · have hexponent : exponent ≤ -1074 := hmantissa.resolve_left (Nat.lt_irrefl 0)
    -- below the least unit there is only the least unit
    have hlog : Int.log 2 (value * 2 ^ exponent) < exponent := by
      rw [← Int.lt_zpow_iff_log_lt (by norm_num) (by positivity), Nat.cast_ofNat]
      apply mul_lt_of_lt_one_left (by positivity)
      simpa using hgreatest
    unfold unitExponent
    rw [Nat.log2_zero]
    omega
  · unfold unitExponent
    rw [log_eq hpos hleast hgreatest]
    omega

end Shifting

/-! ## Rounding and storing -/

theorem shiftToTargetExponent_of_lt {digits : ℕ} {exponent : ℤ} (hdigits : digits < 2 ^ 53)
    (hexponent : -1074 ≤ exponent) :
    shiftToTargetExponent Format.binary64 digits exponent .exact =
      (⟨digits, false, false⟩, exponent) := by
  have hlog : digits.log2 < 53 := by
    rcases Nat.eq_zero_or_pos digits with rfl | hpos
    · exact Nat.log2_zero ▸ Nat.zero_lt_succ _
    · exact (Nat.log2_lt hpos.ne').mpr hdigits
  have hamount : (max (digits.log2 + 1 + exponent - 53) (-1074) - exponent).toNat = 0 := by
    omega
  show (ExtendedMantissa.ofMantissaAndAccuracy digits .exact >>>
      (max (digits.log2 + 1 + exponent - 53) (-1074) - exponent).toNat,
    exponent + (max (digits.log2 + 1 + exponent - 53) (-1074) - exponent).toNat) = _
  rw [hamount, Nat.cast_zero, add_zero]
  rfl

/-- Where rounding has made a 54th digit, it is the only one and the shift loses nothing. -/
theorem shiftToTargetExponent_two_pow {exponent : ℤ} (hexponent : -1074 ≤ exponent) :
    shiftToTargetExponent Format.binary64 (2 ^ 53) exponent .exact =
      (⟨2 ^ 52, false, false⟩, exponent + 1) := by
  have hamount : (max (53 + 1 + exponent - 53) (-1074) - exponent).toNat = 1 := by
    omega
  show (ExtendedMantissa.ofMantissaAndAccuracy (2 ^ 53) .exact >>>
      (max (((2 ^ 53 : ℕ).log2 : ℤ) + 1 + exponent - 53) (-1074) - exponent).toNat,
    exponent + (max (((2 ^ 53 : ℕ).log2 : ℤ) + 1 + exponent - 53) (-1074) - exponent).toNat) = _
  rw [Nat.log2_two_pow, Nat.cast_ofNat, hamount]
  rfl

/-- Digits in a unit, as they are stored. -/
def assemble (sign : Sign) (shifted : ExtendedMantissa × ℤ) : UnpackedFloat :=
  if hzero : shifted.1.mantissa = 0 then .zero sign
  else .finite sign shifted.1.mantissa shifted.2 (Nat.pos_of_ne_zero hzero)

theorem roundWithAccuracy_eq (sign : Sign) (mantissa : ℕ) (exponent : ℤ) (accuracy : Accuracy) :
    roundWithAccuracy Format.binary64 sign mantissa exponent accuracy =
      assemble sign (shiftToTargetExponent Format.binary64
        (shiftToTargetExponent Format.binary64 mantissa exponent accuracy).1.roundedMantissa
        (shiftToTargetExponent Format.binary64 mantissa exponent accuracy).2 .exact) :=
  rfl

theorem stores_assemble {sign : Sign} {digits : ℕ} {unit : ℤ}
    (hcanonical : IsCanonical digits unit) :
    Stores (assemble sign (⟨digits, false, false⟩, unit)) (signed sign (digits * 2 ^ unit)) := by
  by_cases hzero : digits = 0
  · subst hzero
    have hvalue : signed sign ((0 : ℕ) * 2 ^ unit) = 0 := by
      cases sign <;> simp [signed]
    rw [hvalue]
    exact .zero sign
  · have hfinite : assemble sign (⟨digits, false, false⟩, unit) =
        .finite sign digits unit (Nat.pos_of_ne_zero hzero) := dif_neg hzero
    rw [hfinite]
    exact .finite sign (Nat.pos_of_ne_zero hzero) hcanonical

/-- The whole digits of a rounded value, after the last shift. -/
theorem stores_rounded {sign : Sign} {value : ℚ} (hvalue : 0 < value) (hbound : value < 2 ^ 1023) :
    Stores (assemble sign (shiftToTargetExponent Format.binary64
        (nearestEven (value / 2 ^ unitExponent value)) (unitExponent value) .exact))
      (signed sign (roundedMagnitude value)) := by
  have hleast : -1074 ≤ unitExponent value := le_max_right _ _
  have hgreatest : unitExponent value < 971 := by
    have hlog : Int.log 2 value < 1023 :=
      (Int.lt_zpow_iff_log_lt (by norm_num) hvalue).mp (by exact_mod_cast hbound)
    unfold unitExponent
    omega
  -- rounding carries at most to the next power of two
  have hdigits : nearestEven (value / 2 ^ unitExponent value) ≤ 2 ^ 53 := by
    rw [← nearestEven_natCast (2 ^ 53)]
    exact nearestEven_mono (lt_unit value).le
  have hnormal : 2 ^ 52 ≤ nearestEven (value / 2 ^ unitExponent value) ∨
      unitExponent value = -1074 := by
    refine (unit_le hvalue).imp_left fun hunit => ?_
    rw [← nearestEven_natCast (2 ^ 52)]
    exact nearestEven_mono hunit
  unfold roundedMagnitude
  rcases hdigits.lt_or_eq with hlt | heq
  · rw [shiftToTargetExponent_of_lt hlt hleast]
    exact stores_assemble ⟨hlt, hleast, hgreatest.le, hnormal⟩
  · rw [heq, shiftToTargetExponent_two_pow hleast]
    -- a carry out of the top place: half the digits, the unit one higher
    have hcarry : ((2 ^ 53 : ℕ) : ℚ) * 2 ^ unitExponent value =
        (2 ^ 52 : ℕ) * 2 ^ (unitExponent value + 1) := by
      rw [zpow_add₀ (by norm_num)]
      push_cast
      ring
    rw [hcarry]
    exact stores_assemble ⟨by norm_num, by omega, by omega, .inl le_rfl⟩

/-- What is stored is the exact value, rounded, provided that no digit was dropped too early. -/
theorem stores_roundWithAccuracy {sign : Sign} {mantissa : ℕ} {exponent : ℤ} {accuracy : Accuracy}
    {value : ℚ} (htells : Tells (ExtendedMantissa.ofMantissaAndAccuracy mantissa accuracy) value)
    (hvalue : 0 < value) (hmantissa : 0 < mantissa ∨ exponent ≤ -1074)
    (hexponent : exponent ≤ unitExponent (value * 2 ^ exponent))
    (hbound : value * 2 ^ exponent < 2 ^ 1023) :
    Stores (roundWithAccuracy Format.binary64 sign mantissa exponent accuracy)
      (signed sign (roundedMagnitude (value * 2 ^ exponent))) := by
  have hkept : (ExtendedMantissa.ofMantissaAndAccuracy mantissa accuracy).mantissa = mantissa := by
    rcases accuracy with _ | _ | _ | _ <;> rfl
  obtain ⟨hleast, hgreatest⟩ := hkept ▸ htells.bounds
  -- the exponent aimed at is the one of the unit in which the value is rounded
  have htarget : Format.binary64.targetExponent (totalExponent mantissa exponent) =
      unitExponent (value * 2 ^ exponent) :=
    targetExponent_eq hvalue hleast hgreatest hmantissa
  obtain ⟨hshifted, hunit⟩ :
      Tells (shiftToTargetExponent Format.binary64 mantissa exponent accuracy).1
          (value * 2 ^ exponent / 2 ^ unitExponent (value * 2 ^ exponent)) ∧
        (shiftToTargetExponent Format.binary64 mantissa exponent accuracy).2 =
          unitExponent (value * 2 ^ exponent) := by
    rw [← htarget] at hexponent ⊢
    exact tells_shiftToExponent htells hexponent
  rw [roundWithAccuracy_eq, hshifted.roundedMantissa, hunit]
  exact stores_rounded (by positivity) hbound

end VirtualMonitor.Binary64
