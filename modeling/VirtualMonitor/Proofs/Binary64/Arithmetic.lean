import VirtualMonitor.Proofs.Binary64.Mantissa

/-!
# Arithmetic on unpacked numbers

Numbers are taken apart before anything is computed with them and put together afterwards.  In
between, every operation on stored values stores the exact result of the rational operation,
rounded, as long as that result stays below the 1023rd power of two.  Cutting a number to a
whole one leaves the whole part of its value, or nothing of a negative value.
-/

namespace VirtualMonitor.Binary64

open Float.Model (Format UnpackedFloat totalExponent)
open Float.Model.UnpackedFloat

theorem lt_of_le_two_zpow {value : ℚ} {exponent : ℤ} (hvalue : value ≤ 2 ^ exponent)
    (hexponent : exponent < 1023) : value < 2 ^ 1023 := by
  rw [← zpow_natCast]
  exact hvalue.trans_lt (zpow_lt_zpow_right₀ (by norm_num) hexponent)

/-! ## Signs -/

section Signs

variable {sign : Sign} {value : ℚ}

theorem abs_signed (sign : Sign) (value : ℚ) : |signed sign value| = |value| := by
  cases sign with
  | positive => rfl
  | negative => exact abs_neg value

theorem signed_roundedMagnitude (hvalue : 0 ≤ value) :
    signed sign (roundedMagnitude value) = rounded (signed sign value) := by
  rw [← rounded_of_nonneg hvalue]
  cases sign with
  | positive => rfl
  | negative => exact (rounded_neg value).symm

theorem signed_neg (sign : Sign) (value : ℚ) : signed (-sign) value = -signed sign value := by
  cases sign with
  | positive => rfl
  | negative => exact (neg_neg value).symm

theorem signed_mul (sign other : Sign) (value factor : ℚ) :
    signed (sign * other) (value * factor) = signed sign value * signed other factor := by
  cases sign with
  | positive =>
      cases other with
      | positive => rfl
      | negative => exact (mul_neg value factor).symm
  | negative =>
      cases other with
      | positive => exact (neg_mul value factor).symm
      | negative => exact (neg_mul_neg value factor).symm

theorem signed_div (sign other : Sign) (value divisor : ℚ) :
    signed (sign / other) (value / divisor) = signed sign value / signed other divisor := by
  cases sign with
  | positive =>
      cases other with
      | positive => rfl
      | negative => exact (div_neg value).symm
  | negative =>
      cases other with
      | positive => exact (neg_div divisor value).symm
      | negative => exact (neg_div_neg_eq value divisor).symm

end Signs

theorem Stores.isNumber {unpacked : UnpackedFloat} {value : ℚ} (hstores : Stores unpacked value) :
    IsNumber value := by
  cases hstores with
  | zero sign => exact_mod_cast isNumber_natCast (by norm_num : 0 < 2 ^ 53)
  | @finite sign mantissa exponent hpos hcanonical =>
      refine ⟨mantissa, exponent, hcanonical.fits, hcanonical.least, ?_⟩
      rw [abs_signed, abs_of_nonneg (by positivity)]

/-! ## Sums and differences -/

section Sums

variable {mantissa : ℕ} {exponent target : ℤ} {sign : Sign}

theorem shiftLeft_value (mantissa amount : ℕ) (exponent : ℤ) :
    ((mantissa <<< amount : ℕ) : ℚ) * 2 ^ (exponent - amount) = mantissa * 2 ^ exponent := by
  rw [Nat.shiftLeft_eq, zpow_sub₀ (by norm_num), zpow_natCast]
  push_cast
  field_simp

theorem decreaseExponent_value (hle : target ≤ exponent) :
    ((decreaseExponent mantissa exponent target).1 : ℚ) * 2 ^ target = mantissa * 2 ^ exponent := by
  have htarget : target = exponent - (exponent - target).toNat := by omega
  show ((mantissa <<< (exponent - target).toNat : ℕ) : ℚ) * 2 ^ target = mantissa * 2 ^ exponent
  nth_rewrite 2 [htarget]
  exact shiftLeft_value mantissa _ exponent

theorem apply_decreaseExponent (hle : target ≤ exponent) :
    ((sign.apply (decreaseExponent mantissa exponent target).1 : ℤ) : ℚ) * 2 ^ target =
      signed sign (mantissa * 2 ^ exponent) := by
  rw [← decreaseExponent_value hle]
  cases sign with
  | positive => rfl
  | negative =>
      show ((-_ : ℤ) : ℚ) * 2 ^ target = -_
      push_cast
      ring

theorem stores_round (hpos : 0 < mantissa) (hbound : (mantissa * 2 ^ exponent : ℚ) < 2 ^ 1023) :
    Stores (UnpackedFloat.round Format.binary64 sign mantissa exponent)
      (rounded (signed sign (mantissa * 2 ^ exponent))) := by
  rw [← signed_roundedMagnitude (by positivity)]
  have htarget : Format.binary64.targetExponent (totalExponent mantissa exponent) =
      unitExponent (mantissa * 2 ^ exponent) :=
    targetExponent_eq (by exact_mod_cast hpos) le_rfl (lt_add_one _) (.inl hpos)
  unfold UnpackedFloat.round
  rw [htarget]
  generalize hunit : unitExponent (mantissa * 2 ^ exponent) = unit
  -- the mantissa is made longer until it is in the unit, if it is too short
  obtain ⟨amount, hamount⟩ : ∃ amount : ℕ, amount = (exponent - unit).toNat := ⟨_, rfl⟩
  have hvalue := shiftLeft_value mantissa amount exponent
  have hlonger : 0 < mantissa <<< amount := Nat.shiftLeft_pos_iff.mpr hpos
  show Stores (roundWithAccuracy Format.binary64 sign (mantissa <<< (exponent - unit).toNat)
    (exponent - (exponent - unit).toNat) .exact) _
  rw [← hamount, ← hvalue]
  rw [← hvalue] at hbound hunit
  refine stores_roundWithAccuracy (tells_exact _) ?_ (.inl hlonger) ?_ hbound
  · exact_mod_cast hlonger
  · rw [hunit]
    omega

theorem stores_normalize {whole : ℤ} (hbound : |(whole * 2 ^ exponent : ℚ)| < 2 ^ 1023) :
    Stores (UnpackedFloat.normalize Format.binary64 whole exponent sign)
      (rounded (whole * 2 ^ exponent)) := by
  have hvalue : |(whole * 2 ^ exponent : ℚ)| = whole.natAbs * 2 ^ exponent := by
    rw [abs_mul, abs_of_pos (by positivity : (0 : ℚ) < 2 ^ exponent), Nat.cast_natAbs, Int.cast_abs]
  rw [hvalue] at hbound
  unfold UnpackedFloat.normalize
  -- the sign is read off the whole number; only zero keeps the one that was given
  rcases lt_trichotomy whole 0 with hneg | rfl | hpos
  · have habs : (-whole).toNat = whole.natAbs := by omega
    have hsigned : (whole * 2 ^ exponent : ℚ) = signed .negative (whole.natAbs * 2 ^ exponent) := by
      have hcast : (whole : ℚ) = -(whole.natAbs : ℚ) := by
        rw [Nat.cast_natAbs, abs_of_neg hneg]
        push_cast
        ring
      rw [hcast]
      exact neg_mul _ _
    rw [compare_lt_iff_lt.mpr hneg, habs, hsigned]
    exact stores_round (by omega) hbound
  · rw [compare_eq_iff_eq.mpr rfl, Int.cast_zero, zero_mul, rounded_zero]
    exact .zero sign
  · have habs : whole.toNat = whole.natAbs := by omega
    have hcast : (whole : ℚ) = (whole.natAbs : ℚ) := by
      rw [Nat.cast_natAbs, abs_of_pos hpos]
    rw [compare_gt_iff_gt.mpr hpos, habs, hcast]
    exact stores_round (by omega) hbound

end Sums

section Operations

variable {first second : UnpackedFloat} {value other : ℚ}

theorem Stores.neg (hfirst : Stores first value) : Stores first.neg (-value) := by
  cases hfirst with
  | zero sign =>
      rw [neg_zero]
      exact .zero (-sign)
  | finite sign hpos hcanonical =>
      rw [← signed_neg]
      exact .finite (-sign) hpos hcanonical

theorem Stores.add (hfirst : Stores first value) (hsecond : Stores second other)
    (hbound : |value + other| < 2 ^ 1023) :
    Stores (first.add Format.binary64 second) (rounded (value + other)) := by
  cases hfirst with
  | zero sign =>
      rw [zero_add, rounded_of_isNumber hsecond.isNumber]
      cases hsecond with
      | zero other =>
          show Stores (if sign == other then .zero sign else .zero .positive) 0
          split_ifs
          · exact .zero sign
          · exact .zero .positive
      | finite other hpos hcanonical => exact .finite other hpos hcanonical
  | @finite sign mantissa exponent hpos hcanonical =>
      cases hsecond with
      | zero other =>
          have hnumber : Stores (.finite sign mantissa exponent hpos) _ :=
            .finite sign hpos hcanonical
          rw [add_zero, rounded_of_isNumber hnumber.isNumber]
          exact hnumber
      | @finite other addend power hother hunit =>
          -- brought to the smaller exponent, the mantissas add up exactly
          have hsum : ((sign.apply (decreaseExponent mantissa exponent (min exponent power)).1 +
              other.apply (decreaseExponent addend power (min exponent power)).1 : ℤ) : ℚ) *
                2 ^ min exponent power =
              signed sign (mantissa * 2 ^ exponent) + signed other (addend * 2 ^ power) := by
            rw [Int.cast_add, add_mul, apply_decreaseExponent (min_le_left exponent power),
              apply_decreaseExponent (min_le_right exponent power)]
          rw [← hsum] at hbound ⊢
          exact stores_normalize hbound

theorem apply_neg (sign : Sign) (mantissa : ℤ) : (-sign).apply mantissa = -sign.apply mantissa := by
  cases sign with
  | positive => rfl
  | negative => exact (neg_neg mantissa).symm

/-- Subtracting is adding the negative. -/
theorem sub_eq_add (first second : UnpackedFloat) :
    first.sub Format.binary64 second = first.add Format.binary64 second.neg := by
  cases first <;> cases second <;> try rfl
  case finite.finite sign mantissa exponent _ other subtrahend power _ =>
    -- the two differ in the sign of the second mantissa only
    show UnpackedFloat.normalize Format.binary64 (_ - other.apply _) _ .positive =
      UnpackedFloat.normalize Format.binary64 (_ + (-other).apply _) _ .positive
    rw [apply_neg, sub_eq_add_neg]

theorem Stores.sub (hfirst : Stores first value) (hsecond : Stores second other)
    (hbound : |value - other| < 2 ^ 1023) :
    Stores (first.sub Format.binary64 second) (rounded (value - other)) := by
  rw [sub_eq_add, sub_eq_add_neg]
  rw [sub_eq_add_neg] at hbound
  exact hfirst.add hsecond.neg hbound

/-! ## Products -/

/-- A product has no digits below the unit unless it has 53 digits above it. -/
theorem add_le_unitExponent_mul {mantissa factor : ℕ} {exponent power : ℤ} (hpos : 0 < mantissa)
    (hfactor : 0 < factor) (hcanonical : IsCanonical mantissa exponent)
    (hunit : IsCanonical factor power) :
    exponent + power ≤ unitExponent ((mantissa * factor : ℕ) * 2 ^ (exponent + power)) := by
  have hproduct : 0 < mantissa * factor := Nat.mul_pos hpos hfactor
  have hlog : Int.log 2 (((mantissa * factor : ℕ) : ℚ) * 2 ^ (exponent + power)) =
      (mantissa * factor).log2 + (exponent + power) :=
    log_eq hproduct le_rfl (lt_add_one _)
  unfold unitExponent
  by_cases hdigits : 2 ^ 52 ≤ mantissa * factor
  · have hleast : 52 ≤ (mantissa * factor).log2 := (Nat.le_log2 hproduct.ne').mpr hdigits
    omega
  · -- a short product has two subnormal factors, which are in the least unit already
    have hfirst : exponent = -1074 :=
      hcanonical.normal.resolve_left fun hnormal =>
        hdigits (hnormal.trans (Nat.le_mul_of_pos_right mantissa hfactor))
    have hsecond : power = -1074 :=
      hunit.normal.resolve_left fun hnormal =>
        hdigits (hnormal.trans (Nat.le_mul_of_pos_left factor hpos))
    omega

theorem Stores.mul (hfirst : Stores first value) (hsecond : Stores second other)
    (hbound : |value * other| < 2 ^ 1023) :
    Stores (first.mul Format.binary64 second) (rounded (value * other)) := by
  cases hfirst with
  | zero sign =>
      rw [zero_mul, rounded_zero]
      cases hsecond with
      | zero other => exact .zero (sign * other)
      | finite other hpos hcanonical => exact .zero (sign * other)
  | @finite sign mantissa exponent hpos hcanonical =>
      cases hsecond with
      | zero other =>
          rw [mul_zero, rounded_zero]
          exact .zero (sign * other)
      | @finite other factor power hfactor hunit =>
          have hproduct : (mantissa * 2 ^ exponent * (factor * 2 ^ power) : ℚ) =
              (mantissa * factor : ℕ) * 2 ^ (exponent + power) := by
            rw [zpow_add₀ (by norm_num)]
            push_cast
            ring
          rw [← signed_mul, hproduct] at hbound ⊢
          rw [abs_signed, abs_of_nonneg (by positivity)] at hbound
          rw [← signed_roundedMagnitude (by positivity)]
          exact stores_roundWithAccuracy (tells_exact _) (by positivity)
            (.inl (Nat.mul_pos hpos hfactor))
            (add_le_unitExponent_mul hpos hfactor hcanonical hunit) hbound

/-! ## Quotients -/

/-- The leading digit of a quotient is at most one place below where the leading digits of its
operands put it. -/
theorem two_zpow_le_div {mantissa divisor : ℕ} (exponent power : ℤ) (hpos : 0 < mantissa)
    (hdivisor : 0 < divisor) :
    (2 : ℚ) ^ (mantissa.log2 + exponent - (divisor.log2 + power) - 1) ≤
      mantissa * 2 ^ exponent / (divisor * 2 ^ power) := by
  have hbelow : (divisor : ℚ) ≤ 2 ^ (divisor.log2 + 1) := by
    exact_mod_cast (Nat.lt_log2_self (n := divisor)).le
  have habove : (2 : ℚ) ^ mantissa.log2 ≤ mantissa := by
    exact_mod_cast Nat.log2_self_le hpos.ne'
  rw [le_div_iff₀ (by positivity)]
  calc (2 : ℚ) ^ (mantissa.log2 + exponent - (divisor.log2 + power) - 1) * (divisor * 2 ^ power)
      ≤ 2 ^ (mantissa.log2 + exponent - (divisor.log2 + power) - 1) *
          (2 ^ (divisor.log2 + 1) * 2 ^ power) := by gcongr
    _ = 2 ^ mantissa.log2 * 2 ^ exponent := by
        rw [← zpow_natCast, ← zpow_natCast, ← zpow_add₀ (by norm_num), ← zpow_add₀ (by norm_num),
          ← zpow_add₀ (by norm_num)]
        congr 1
        push_cast
        ring
    _ ≤ mantissa * 2 ^ exponent := by gcongr

/-- The division of the mantissas gives all the digits that the quotient has in its unit. -/
theorem divCore_eq {mantissa divisor : ℕ} (exponent power : ℤ) (hpos : 0 < mantissa)
    (hdivisor : 0 < divisor) :
    ∃ (dividend : ℕ) (target : ℤ),
      divCore Format.binary64 mantissa exponent divisor power =
        (dividend / divisor, target, accuracyOfFraction (dividend % divisor) divisor) ∧
      (dividend / divisor : ℚ) * 2 ^ target =
        mantissa * 2 ^ exponent / (divisor * 2 ^ power) ∧
      target ≤ unitExponent (mantissa * 2 ^ exponent / (divisor * 2 ^ power)) ∧
      0 < dividend ∧ (0 < dividend / divisor ∨ target ≤ -1074) := by
  -- the exponent at which the quotient is cut, and the digits the dividend gains for it
  obtain ⟨target, htarget⟩ : ∃ target, target = min (exponent - power)
      (max (mantissa.log2 + 1 + exponent - (divisor.log2 + 1 + power) - 53) (-1074)) := ⟨_, rfl⟩
  obtain ⟨amount, hamount⟩ : ∃ amount : ℕ, amount = (exponent - power - target).toNat := ⟨_, rfl⟩
  have hvalue : ((mantissa <<< amount : ℕ) / divisor : ℚ) * 2 ^ target =
      mantissa * 2 ^ exponent / (divisor * 2 ^ power) := by
    have hexponent : exponent = amount + target + power := by omega
    rw [Nat.shiftLeft_eq, hexponent, zpow_add₀ (by norm_num), zpow_add₀ (by norm_num), zpow_natCast]
    push_cast
    field_simp
  -- the quotient is at most one place shorter than its operands promise
  have hleast := two_zpow_le_div exponent power hpos hdivisor
  have hlonger : 0 < mantissa <<< amount := Nat.shiftLeft_pos_iff.mpr hpos
  refine ⟨mantissa <<< amount, target, ?_, hvalue, ?_, hlonger, ?_⟩
  · rw [hamount, htarget]
    rfl
  · have hpositive : (0 : ℚ) < mantissa * 2 ^ exponent / (divisor * 2 ^ power) := by positivity
    have hlog : mantissa.log2 + exponent - (divisor.log2 + power) - 1 ≤
        Int.log 2 (mantissa * 2 ^ exponent / (divisor * 2 ^ power) : ℚ) :=
      (Int.zpow_le_iff_le_log (by norm_num) hpositive).mp (by exact_mod_cast hleast)
    unfold unitExponent
    omega
  · by_cases hlow : target ≤ -1074
    · exact .inr hlow
    · -- the quotient has a digit at the target
      have hone : (1 : ℚ) * 2 ^ target ≤ (mantissa <<< amount : ℕ) / divisor * 2 ^ target := by
        rw [hvalue, one_mul]
        refine le_trans (zpow_le_zpow_right₀ (by norm_num) ?_) hleast
        omega
      have hle : (1 : ℚ) ≤ (mantissa <<< amount : ℕ) / divisor :=
        le_of_mul_le_mul_right hone (by positivity)
      rw [one_le_div (by positivity)] at hle
      exact .inl (Nat.div_pos (by exact_mod_cast hle) hdivisor)

theorem Stores.div (hfirst : Stores first value) (hsecond : Stores second other)
    (hother : other ≠ 0) (hbound : |value / other| < 2 ^ 1023) :
    Stores (first.div Format.binary64 second) (rounded (value / other)) := by
  cases hsecond with
  | zero => exact absurd rfl hother
  | @finite other divisor power hdivisor hunit =>
      cases hfirst with
      | zero sign =>
          rw [zero_div, rounded_zero]
          exact .zero (sign / other)
      | @finite sign mantissa exponent hpos hcanonical =>
          obtain ⟨dividend, target, hcore, hquotient, htarget, hdividend, hdigits⟩ :=
            divCore_eq exponent power hpos hdivisor
          have hdefinition : UnpackedFloat.div Format.binary64 (.finite sign mantissa exponent hpos)
              (.finite other divisor power hdivisor) =
              roundWithAccuracy Format.binary64 (sign / other) (dividend / divisor) target
                (accuracyOfFraction (dividend % divisor) divisor) := by
            unfold UnpackedFloat.div
            dsimp only
            rw [hcore]
          rw [← signed_div] at hbound ⊢
          rw [abs_signed, abs_of_nonneg (by positivity)] at hbound
          rw [hdefinition, ← signed_roundedMagnitude (by positivity)]
          rw [← hquotient] at hbound htarget ⊢
          exact stores_roundWithAccuracy (tells_quotient dividend hdivisor) (by positivity) hdigits
            htarget hbound

/-! ## Whole numbers -/

theorem stores_ofNat {number : ℕ} (hnumber : number < 2 ^ 53) :
    Stores (UnpackedFloat.ofNat Format.binary64 number) number := by
  have hvalue : ((number : ℤ) : ℚ) * 2 ^ (0 : ℤ) = number := by
    rw [zpow_zero, mul_one, Int.cast_natCast]
  have hbound : (number : ℚ) < 2 ^ 1023 :=
    lt_of_le_two_zpow (by exact_mod_cast hnumber.le) (by norm_num : (53 : ℤ) < 1023)
  have hstores : Stores (UnpackedFloat.normalize Format.binary64 number 0 .positive)
      (rounded number) := by
    rw [← hvalue]
    apply stores_normalize
    rwa [hvalue, Nat.abs_cast]
  rwa [rounded_of_isNumber (isNumber_natCast hnumber)] at hstores

theorem roundToInt_eq (sign : Sign) (mantissa : ℕ) (exponent : ℤ) :
    roundToInt sign mantissa exponent = sign.apply ⌊(mantissa * 2 ^ exponent : ℚ)⌋₊ := by
  obtain ⟨amount, hamount⟩ : ∃ amount : ℕ, amount = (exponent - 0).toNat := ⟨_, rfl⟩
  have hvalue : ((mantissa <<< amount : ℕ) : ℚ) * 2 ^ (exponent - amount) / 2 ^ (0 : ℤ) =
      mantissa * 2 ^ exponent := by
    rw [zpow_zero, div_one, shiftLeft_value]
  have hshifted := (tells_shiftToExponent (tells_exact (mantissa <<< amount))
    (by omega : exponent - amount ≤ 0)).1
  rw [hvalue] at hshifted
  rw [hshifted.floor, hamount]
  rfl

theorem Stores.toInt (hfirst : Stores first value) (lowest highest : ℤ) :
    (first.toInt lowest highest).toNat = ⌊value⌋₊ := by
  cases hfirst with
  | zero sign => rw [Nat.floor_zero]; rfl
  | @finite sign mantissa exponent hpos hcanonical =>
      show (roundToInt sign mantissa exponent).toNat = _
      rw [roundToInt_eq]
      cases sign with
      | positive => rfl
      | negative =>
          have hneg : -(mantissa * 2 ^ exponent : ℚ) ≤ 0 := neg_nonpos.mpr (by positivity)
          show (-(⌊(mantissa * 2 ^ exponent : ℚ)⌋₊ : ℤ)).toNat = ⌊-(mantissa * 2 ^ exponent : ℚ)⌋₊
          rw [Nat.floor_of_nonpos hneg]
          omega

end Operations

end VirtualMonitor.Binary64
