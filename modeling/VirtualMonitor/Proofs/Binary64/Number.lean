import VirtualMonitor.Proofs.Binary64.Arithmetic

/-!
# Binary64 numbers and what they stand for

`Holds` says which rational number a `Float` stands for.  Packing loses nothing, so what is true
of the unpacked operations is true of those of the language.

* `Holds.add`, `Holds.sub`, `Holds.mul`, `Holds.div`: every operation rounds once.
* `Holds.toUInt32`: a number that is cut to a word stops at both ends of the word's range.
* `holds_literal`: a literal is the nearest number to what is written.
-/

namespace VirtualMonitor.Binary64

open Float.Model (Format UnpackedFloat)
open Float.Model.UnpackedFloat

/-! ## Packing loses nothing -/

section Unpacking

variable {format : Format} {bits : BitVec format.numBits}

theorem unpack_of_normal (hones : unpackExponent bits ≠ -1#_) (hzero : unpackExponent bits ≠ 0#_)
    (hpos : 0 < (1#1 ++ unpackMantissa bits).toNat) :
    unpack format bits = .finite (Sign.ofBitVec (unpackSign bits))
      (1#1 ++ unpackMantissa bits).toNat ((unpackExponent bits).toNat -
        (format.exponentBias + format.mantissaBitsWithoutImplicit)) hpos := by
  unfold unpack
  dsimp only
  rw [if_neg hones, if_neg hzero]

theorem unpack_of_subnormal (hzero : unpackExponent bits = 0#_)
    (hpos : 0 < (unpackMantissa bits).toNat) :
    unpack format bits = .finite (Sign.ofBitVec (unpackSign bits)) (unpackMantissa bits).toNat
      ((unpackExponent bits).toNat -
        (format.exponentBias + format.mantissaBitsWithoutImplicit) + 1) hpos := by
  have hones : unpackExponent bits ≠ -1#_ := by
    rw [hzero]
    simp [format.he.ne']
  have hmantissa : unpackMantissa bits ≠ 0#_ := by
    rw [Ne, ← BitVec.toNat_inj]
    exact hpos.ne'
  unfold unpack
  dsimp only
  rw [if_neg hones, if_pos hzero, dif_neg hmantissa]

end Unpacking

theorem ofBitVec_unpackSign {format : Format} {sign : Sign}
    {exponent : BitVec format.exponentBits}
    {mantissa : BitVec format.mantissaBitsWithoutImplicit} :
    Sign.ofBitVec (unpackSign (packComponents format sign exponent mantissa)) = sign := by
  have hsign : unpackSign (packComponents format sign exponent mantissa) = sign.toBitVec := by
    ext index hindex
    obtain rfl : index = 0 := by omega
    unfold unpackSign packComponents
    simp [BitVec.getLsbD_append, BitVec.getElem_append]
  rw [hsign]
  cases sign <;> rfl

section Packing

variable {sign : Sign} {mantissa : ℕ} {exponent : ℤ} {hpos : 0 < mantissa}

theorem pack_finite {biased : ℕ} (hbiased : exponent + 1075 = biased) (hfits : biased < 2047) :
    pack Format.binary64 (.finite sign mantissa exponent hpos) =
      packComponents Format.binary64 sign
        (if mantissa.log2 = 52 then BitVec.ofNat 11 biased else 0#11)
        (BitVec.ofNat 52 mantissa) := by
  have hsum : (exponent + Format.binary64.exponentBias +
      Format.binary64.mantissaBitsWithoutImplicit).toNat = biased := by
    show (exponent + 1023 + 52).toNat = biased
    omega
  have hover : ¬2 ^ Format.binary64.exponentBits ≤ biased + 1 := by
    show ¬2 ^ 11 ≤ biased + 1
    omega
  have hbits : mantissa.log2 + 1 = Format.binary64.mantissaBits ↔ mantissa.log2 = 52 := by
    show mantissa.log2 + 1 = 53 ↔ mantissa.log2 = 52
    omega
  unfold pack
  dsimp only
  rw [hsum, if_neg hover]
  by_cases hlog : mantissa.log2 = 52
  · rw [if_pos (hbits.mpr hlog), if_pos hlog]
  · rw [if_neg (mt hbits.mp hlog), if_neg hlog]

theorem finite_congr {other : Sign} {digits : ℕ} {power : ℤ} {hdigits : 0 < digits}
    (hsign : sign = other) (hmantissa : mantissa = digits) (hexponent : exponent = power) :
    UnpackedFloat.finite sign mantissa exponent hpos = .finite other digits power hdigits := by
  subst hsign hmantissa hexponent
  rfl

theorem unpack_stored_normal {biased : ℕ} (hbiased : exponent + 1075 = biased)
    (hleast : 0 < biased) (hgreatest : biased < 2047) (hnormal : 2 ^ 52 ≤ mantissa)
    (hfits : mantissa < 2 ^ 53) :
    unpack Format.binary64 (packComponents Format.binary64 sign (BitVec.ofNat 11 biased)
        (BitVec.ofNat 52 mantissa)) = .finite sign mantissa exponent hpos := by
  have hexponent : (unpackExponent (packComponents Format.binary64 sign
      (BitVec.ofNat 11 biased) (BitVec.ofNat 52 mantissa))).toNat = biased := by
    rw [unpackExponent_packComponents]
    exact Nat.mod_eq_of_lt (by omega)
  -- the leading digit is not stored, and comes back in front of the 52 others
  have hmantissa : (1#1 ++ unpackMantissa (packComponents Format.binary64 sign
      (BitVec.ofNat 11 biased) (BitVec.ofNat 52 mantissa))).toNat = mantissa := by
    rw [unpackMantissa_packComponents, BitVec.toNat_append,
      ← Nat.shiftLeft_add_eq_or_of_lt (BitVec.isLt _)]
    show 2 ^ 52 + mantissa % 2 ^ 52 = mantissa
    omega
  rw [unpack_of_normal _ _ (by rwa [hmantissa])]
  · refine finite_congr ofBitVec_unpackSign hmantissa ?_
    rw [hexponent]
    show (biased : ℤ) - 1075 = exponent
    omega
  · rw [Ne, ← BitVec.toNat_inj, hexponent]
    exact hgreatest.ne
  · rw [Ne, ← BitVec.toNat_inj, hexponent]
    exact hleast.ne'

theorem unpack_stored_subnormal (hsmall : mantissa < 2 ^ 52) :
    unpack Format.binary64 (packComponents Format.binary64 sign 0#11
        (BitVec.ofNat 52 mantissa)) = .finite sign mantissa (-1074) hpos := by
  have hexponent : unpackExponent (packComponents Format.binary64 sign 0#11
      (BitVec.ofNat 52 mantissa)) = 0#11 := unpackExponent_packComponents
  have hmantissa : (unpackMantissa (packComponents Format.binary64 sign 0#11
      (BitVec.ofNat 52 mantissa))).toNat = mantissa := by
    rw [unpackMantissa_packComponents]
    exact Nat.mod_eq_of_lt hsmall
  rw [unpack_of_subnormal hexponent (by rwa [hmantissa])]
  refine finite_congr ofBitVec_unpackSign hmantissa ?_
  rw [hexponent]
  rfl

theorem unpack_pack_finite (hcanonical : IsCanonical mantissa exponent) :
    unpack Format.binary64 (pack Format.binary64 (.finite sign mantissa exponent hpos)) =
      .finite sign mantissa exponent hpos := by
  obtain ⟨hfits, hleast, hgreatest, hunit⟩ := hcanonical
  obtain ⟨biased, hbiased⟩ : ∃ biased : ℕ, exponent + 1075 = biased :=
    ⟨(exponent + 1075).toNat, by omega⟩
  rw [pack_finite hbiased (by omega)]
  by_cases hnormal : 2 ^ 52 ≤ mantissa
  · rw [if_pos ((Nat.log2_eq_iff hpos.ne').mpr ⟨hnormal, hfits⟩)]
    exact unpack_stored_normal hbiased (by omega) (by omega) hnormal hfits
  · have hlog : mantissa.log2 < 52 := (Nat.log2_lt hpos.ne').mpr (by omega)
    obtain rfl : exponent = -1074 := hunit.resolve_left hnormal
    rw [if_neg hlog.ne]
    exact unpack_stored_subnormal (by omega)

end Packing

theorem unpack_pack_zero (sign : Sign) :
    unpack Format.binary64 (pack Format.binary64 (.zero sign)) = .zero sign := by
  cases sign <;> rfl

/-- A `Float` that stands for a rational number. -/
def Holds (number : Float) (value : ℚ) : Prop := Stores number.toModel.unpack value

theorem Stores.holds {unpacked : UnpackedFloat} {value : ℚ} (hstores : Stores unpacked value) :
    Holds (.ofModel (.pack unpacked)) value := by
  show Stores (unpack Format.binary64 (pack Format.binary64 unpacked)) value
  cases hstores with
  | zero sign =>
      rw [unpack_pack_zero]
      exact .zero sign
  | finite sign hpos hcanonical =>
      rw [unpack_pack_finite hcanonical]
      exact .finite sign hpos hcanonical

/-! ## Numbers of the language -/

section Numbers

variable {number operand : Float} {value other : ℚ}

theorem holds_toFloat (word : UInt32) : Holds word.toFloat word.toNat :=
  (stores_ofNat (word.toNat_lt.trans (by norm_num))).holds

theorem Holds.add (hnumber : Holds number value) (hoperand : Holds operand other)
    (hbound : |value + other| < 2 ^ 1023) : Holds (number + operand) (rounded (value + other)) :=
  (Stores.add hnumber hoperand hbound).holds

theorem Holds.sub (hnumber : Holds number value) (hoperand : Holds operand other)
    (hbound : |value - other| < 2 ^ 1023) : Holds (number - operand) (rounded (value - other)) :=
  (Stores.sub hnumber hoperand hbound).holds

theorem Holds.mul (hnumber : Holds number value) (hoperand : Holds operand other)
    (hbound : |value * other| < 2 ^ 1023) : Holds (number * operand) (rounded (value * other)) :=
  (Stores.mul hnumber hoperand hbound).holds

theorem Holds.div (hnumber : Holds number value) (hoperand : Holds operand other)
    (hother : other ≠ 0) (hbound : |value / other| < 2 ^ 1023) :
    Holds (number / operand) (rounded (value / other)) :=
  (Stores.div hnumber hoperand hother hbound).holds

/-- What is cut to a word loses its fraction and stays inside the word's range. -/
theorem Holds.toUInt32 (hnumber : Holds number value) :
    number.toUInt32.toNat = min ⌊value⌋₊ (2 ^ 32 - 1) := by
  have hsize : UInt32.size = 2 ^ 32 := rfl
  show (UInt32.ofNatClamp (number.toModel.unpack.toInt 0 (UInt32.size - 1)).toNat).toNat = _
  rw [Stores.toInt hnumber]
  by_cases hfits : ⌊value⌋₊ < UInt32.size
  · rw [UInt32.ofNatClamp_eq_ofNat _ hfits, UInt32.toNat_ofNat_of_lt' hfits]
    omega
  · rw [UInt32.ofNatClamp, dif_neg hfits, UInt32.toNat_ofNatLT]
    omega

theorem powerOfTen_eq : ∀ places < 16, Float.exactlyRepresentablePowersOfTen[places]? =
    some (.ofModel (.ofNat (10 ^ places))) := by
  decide +kernel

/-- A literal is the nearest number to what is written. -/
theorem holds_literal (digits places : ℕ) (hdigits : digits < 2 ^ 53) (hplaces : places < 16) :
    Holds (OfScientific.ofScientific digits true places) (rounded (digits / 10 ^ places)) := by
  have hwhole : Holds digits.toUInt64.toFloat digits := by
    have hword : digits.toUInt64.toNat = digits := Nat.mod_eq_of_lt (hdigits.trans (by norm_num))
    show Holds (.ofModel (.pack (UnpackedFloat.ofNat Format.binary64 digits.toUInt64.toNat))) _
    rw [hword]
    exact (stores_ofNat hdigits).holds
  have hpower : Holds (.ofModel (.ofNat (10 ^ places))) ((10 ^ places : ℕ) : ℚ) := by
    refine (stores_ofNat ?_).holds
    calc 10 ^ places ≤ 10 ^ 15 := Nat.pow_le_pow_right (by norm_num) (by omega)
      _ < 2 ^ 53 := by norm_num
  have hquotient : |(digits : ℚ) / (10 ^ places : ℕ)| < 2 ^ 1023 := by
    rw [abs_of_nonneg (by positivity)]
    refine lt_of_le_two_zpow ?_ (by norm_num : (53 : ℤ) < 1023)
    calc (digits : ℚ) / (10 ^ places : ℕ) ≤ digits :=
          div_le_self (Nat.cast_nonneg digits) (by exact_mod_cast Nat.one_le_pow _ _ (by norm_num))
      _ ≤ 2 ^ (53 : ℤ) := by exact_mod_cast hdigits.le
  have hdefinition : (OfScientific.ofScientific digits true places : Float) =
      digits.toUInt64.toFloat / .ofModel (.ofNat (10 ^ places)) := by
    obtain ⟨hsize, htable⟩ := Array.getElem?_eq_some_iff.mp (powerOfTen_eq places hplaces)
    rw [← htable]
    exact dif_pos ⟨hdigits, by omega⟩
  rw [hdefinition]
  exact_mod_cast hwhole.div hpower (by positivity) hquotient

theorem holds_wholeLiteral (whole : ℕ) (hwhole : 10 * whole < 2 ^ 53) :
    Holds (OfScientific.ofScientific (10 * whole) true 1) whole := by
  have hvalue : ((10 * whole : ℕ) : ℚ) / 10 ^ 1 = whole := by
    push_cast
    ring
  have hliteral := holds_literal (10 * whole) 1 hwhole (by norm_num)
  rwa [hvalue, rounded_of_isNumber (isNumber_natCast (by omega))] at hliteral

end Numbers

end VirtualMonitor.Binary64
