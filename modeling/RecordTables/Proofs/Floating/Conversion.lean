import Mathlib.Algebra.Order.Field.Power
import Mathlib.Data.Int.Log
import Mathlib.Data.Rat.Floor
import Mathlib.Tactic.Linarith
import Mathlib.Tactic.NormNum
import Mathlib.Tactic.Positivity
import RecordTables.Proofs.Floating.Meaning

/-!
# Conversions between formats

A number that a format has is rounded to itself. So a pattern of one format is converted to one of
another with the same quantity as soon as there is such a pattern, and to a wider format always.
-/

namespace RecordTables.Floating

private theorem zpow_eq_div (k : Int) : (2 : ℚ) ^ k = 2 ^ k.toNat / 2 ^ (-k).toNat := by
  rw [← zpow_natCast, ← zpow_natCast, ← zpow_sub₀ (by norm_num)]
  congr 1
  omega

private theorem zpow_le_div_iff {num den : Nat} {k : Int} (hden : 0 < den) :
    (2 : ℚ) ^ k ≤ num / den ↔ den * 2 ^ k.toNat ≤ num * 2 ^ (-k).toNat := by
  have hden' : (0 : ℚ) < den := by exact_mod_cast hden
  rw [zpow_eq_div, div_le_div_iff₀ (by positivity) hden', mul_comm]
  exact_mod_cast Iff.rfl

private theorem div_eq_mul_zpow_iff {num den m : Nat} {k : Int} (hden : 0 < den) :
    (num : ℚ) / den = m * 2 ^ k ↔ num * 2 ^ (-k).toNat = m * (den * 2 ^ k.toNat) := by
  have hden' : (den : ℚ) ≠ 0 := by exact_mod_cast hden.ne'
  rw [zpow_eq_div, mul_div_assoc', div_eq_div_iff hden' (by positivity), mul_assoc,
    mul_comm (2 ^ k.toNat : ℚ)]
  exact_mod_cast Iff.rfl

private theorem zpow_sub_natCast (a b : Nat) : (2 : ℚ) ^ ((a : Int) - b) = 2 ^ a / 2 ^ b := by
  rw [zpow_sub₀ (by norm_num), zpow_natCast, zpow_natCast]

private theorem log_eq_of_le_of_lt {q : ℚ} {e : Int} (hlow : (2 : ℚ) ^ e ≤ q)
    (hhigh : q < 2 ^ (e + 1)) :
    Int.log 2 q = e := by
  have hpos : 0 < q := lt_of_lt_of_le (by positivity) hlow
  have hle : e ≤ Int.log 2 q := (Int.zpow_le_iff_le_log (by norm_num) hpos).mp hlow
  have hlt : Int.log 2 q < e + 1 := (Int.lt_zpow_iff_log_lt (by norm_num) hpos).mp hhigh
  omega

private theorem floorLog2_eq_log {num den : Nat} (hnum : 0 < num) (hden : 0 < den) :
    floorLog2 num den = Int.log 2 (num / den : ℚ) := by
  have hden' : (0 : ℚ) < den := by exact_mod_cast hden
  -- Both numbers lie between powers of two, so only two exponents come into question.
  have hlow : (2 : ℚ) ^ ((num.log2 : Int) - (den.log2 + 1 : Nat)) ≤ num / den := by
    have hle : (2 : ℚ) ^ num.log2 ≤ num := by exact_mod_cast Nat.log2_self_le hnum.ne'
    have hge : (den : ℚ) ≤ 2 ^ (den.log2 + 1) := by exact_mod_cast Nat.lt_log2_self.le
    rw [zpow_sub_natCast]
    exact div_le_div₀ (by positivity) hle hden' hge
  have hhigh : (num / den : ℚ) < 2 ^ (((num.log2 + 1 : Nat) : Int) - den.log2) := by
    have hlt : (num : ℚ) < 2 ^ (num.log2 + 1) := by exact_mod_cast Nat.lt_log2_self
    have hle : (2 : ℚ) ^ den.log2 ≤ den := by exact_mod_cast Nat.log2_self_le hden.ne'
    rw [zpow_sub_natCast]
    exact div_lt_div₀ hlt hle (by positivity) (by positivity)
  symm
  simp only [floorLog2, ← zpow_le_div_iff hden]
  split
  · next hreached =>
    apply log_eq_of_le_of_lt hreached
    convert hhigh using 2
    push_cast
    ring
  · next hmissed =>
    apply log_eq_of_le_of_lt
    · convert hlow using 2
      push_cast
      ring
    · simpa using hmissed

private theorem roundHalfEven_mul {m den : Nat} (hden : 0 < den) :
    roundHalfEven (m * den) den = m := by
  have hdiv : m * den / den = m := Nat.mul_div_cancel m hden
  have hmod : m * den % den = 0 := Nat.mul_mod_left m den
  simp only [roundHalfEven, hdiv, hmod]
  exact if_pos hden

namespace Format

variable {f : Format} {m : Nat} {k : Int}

/-- The format has the number `m * 2 ^ k`, written with this significand and this exponent. -/
structure Holds (f : Format) (m : Nat) (k : Int) : Prop where
  least_le : f.leastExponent ≤ k
  lt : m < 2 ^ (f.fractionBits + 1)
  normal : 2 ^ f.fractionBits ≤ m ∨ k = f.leastExponent
  finite : (k - f.leastExponent).toNat + 2 < 2 ^ f.exponentBits

private theorem natCast_lt_zpow {b : Nat} (h : m < 2 ^ b) : (m * 2 ^ k : ℚ) < 2 ^ (b + k) := by
  have hm : (m : ℚ) < 2 ^ b := by exact_mod_cast h
  rw [zpow_add₀ (by norm_num), zpow_natCast]
  exact mul_lt_mul_of_pos_right hm (by positivity)

private theorem zpow_le_natCast {b : Nat} (h : 2 ^ b ≤ m) : (2 : ℚ) ^ (b + k) ≤ m * 2 ^ k := by
  have hm : (2 : ℚ) ^ b ≤ m := by exact_mod_cast h
  rw [zpow_add₀ (by norm_num), zpow_natCast]
  exact mul_le_mul_of_nonneg_right hm (by positivity)

private theorem Holds.exponent_eq (h : f.Holds m k) (hm : 0 < m) :
    max (Int.log 2 (m * 2 ^ k : ℚ) - f.fractionBits) f.leastExponent = k := by
  have hpos : (0 : ℚ) < m * 2 ^ k := by positivity
  have hlt : Int.log 2 (m * 2 ^ k : ℚ) < (f.fractionBits + 1 : Nat) + k :=
    (Int.lt_zpow_iff_log_lt (by norm_num) hpos).mp (natCast_lt_zpow h.lt)
  have hleast := h.least_le
  push_cast at hlt
  rcases h.normal with hnormal | hk
  · have hle : (f.fractionBits : Int) + k ≤ Int.log 2 (m * 2 ^ k : ℚ) :=
      (Int.zpow_le_iff_le_log (by norm_num) hpos).mp (zpow_le_natCast hnormal)
    omega
  · omega

def magnitude (f : Format) (m : Nat) (k : Int) : Nat :=
  if m < 2 ^ f.fractionBits then m
  else (k - f.leastExponent).toNat * 2 ^ f.fractionBits + m

private theorem Holds.magnitude_le (h : f.Holds m k) : f.magnitude m k ≤ f.infinityBits := by
  have hfields : ((k - f.leastExponent).toNat + 2) * 2 ^ f.fractionBits ≤ f.infinityBits :=
    Nat.mul_le_mul_right _ (Nat.le_sub_one_of_lt h.finite)
  have hlt : m < 2 * 2 ^ f.fractionBits := by
    rw [← Nat.pow_succ']
    exact h.lt
  rw [Nat.add_mul] at hfields
  rw [magnitude]
  split <;> omega

/-- A ratio that the format has is rounded to itself. -/
private theorem nearestRatio_eq {num den : Nat} (hden : 0 < den)
    (hvalue : (num / den : ℚ) = m * 2 ^ k)
    (h : f.Holds m k) : f.nearestRatio num den = f.magnitude m k := by
  by_cases hnum : num = 0
  · have hm : m = 0 := by
      have hzero : (m * 2 ^ k : ℚ) = 0 := by rw [← hvalue, hnum, Nat.cast_zero, zero_div]
      exact_mod_cast (mul_eq_zero.mp hzero).resolve_right (by positivity)
    rw [nearestRatio, if_pos hnum, hm, magnitude, if_pos (Nat.two_pow_pos _)]
  · have hnum' : (0 : ℚ) < num := by exact_mod_cast Nat.pos_of_ne_zero hnum
    have hden' : (0 : ℚ) < den := by exact_mod_cast hden
    have hm : 0 < m := by
      have hpos : (0 : ℚ) < m * 2 ^ k := by
        rw [← hvalue]
        exact div_pos hnum' hden'
      exact_mod_cast pos_of_mul_pos_left hpos (by positivity)
    have hexponent : max (floorLog2 num den - f.fractionBits) f.leastExponent = k := by
      rw [floorLog2_eq_log (Nat.pos_of_ne_zero hnum) hden, hvalue, h.exponent_eq hm]
    have hsignificand : roundHalfEven (num * 2 ^ (-k).toNat) (den * 2 ^ k.toNat) = m := by
      rw [(div_eq_mul_zpow_iff hden).mp hvalue]
      exact roundHalfEven_mul (by positivity)
    simp only [nearestRatio, if_neg hnum, hexponent, hsignificand]
    exact min_eq_left h.magnitude_le

theorem nearest_eq {negative : Bool} {m' : Nat} {k' : Int} (hvalue : (m' * 2 ^ k' : ℚ) = m * 2 ^ k)
    (h : f.Holds m k) : f.nearest negative m' k' = f.pattern (.number negative m k) := by
  have hratio : ((m' * 2 ^ k'.toNat : Nat) / (2 ^ (-k').toNat : Nat) : ℚ) = m * 2 ^ k := by
    rw [← hvalue, zpow_eq_div]
    push_cast
    ring
  rw [nearest, nearestRatio_eq (by positivity) hratio h]
  rfl

private theorem fields_withSign (f : Format) (negative : Bool) {field fraction : Nat}
    (hfield : field < 2 ^ f.exponentBits) (hfraction : fraction < 2 ^ f.fractionBits) :
    let bits := f.withSign negative (field * 2 ^ f.fractionBits + fraction)
    f.isNegative bits = negative ∧ bits / 2 ^ f.fractionBits % 2 ^ f.exponentBits = field ∧
      bits % 2 ^ f.fractionBits = fraction := by
  intro bits
  have hfieldPos := Nat.two_pow_pos f.exponentBits
  have hfractionPos := Nat.two_pow_pos f.fractionBits
  have hbits : bits =
      (negative.toNat * 2 ^ f.exponentBits + field) * 2 ^ f.fractionBits + fraction := by
    cases negative
    · simp [bits, withSign]
    · simp only [bits, withSign, signBit, Nat.pow_add, Bool.toNat_true, if_true]
      ring
  have hdiv : bits / 2 ^ f.fractionBits = negative.toNat * 2 ^ f.exponentBits + field := by
    rw [hbits, Nat.add_comm, Nat.add_mul_div_right _ _ hfractionPos, Nat.div_eq_of_lt hfraction,
      Nat.zero_add]
  refine ⟨?_, ?_, ?_⟩
  · have hsign : bits / f.signBit = negative.toNat := by
      rw [signBit, Nat.add_comm, Nat.pow_add, ← Nat.div_div_eq_div_mul, hdiv, Nat.add_comm,
        Nat.add_mul_div_right _ _ hfieldPos, Nat.div_eq_of_lt hfield, Nat.zero_add]
    rw [isNegative, hsign]
    cases negative <;> rfl
  · rw [hdiv, Nat.add_comm, Nat.add_mul_mod_self_right, Nat.mod_eq_of_lt hfield]
  · rw [hbits, Nat.add_comm, Nat.add_mul_mod_self_right, Nat.mod_eq_of_lt hfraction]

private theorem meaning_pattern_number (h : f.Holds m k) (negative : Bool) :
    f.meaning (f.pattern (.number negative m k)) = .number negative m k := by
  have hfinite := h.finite
  by_cases hm : m < 2 ^ f.fractionBits
  · have hk : k = f.leastExponent := h.normal.resolve_left (Nat.not_le.mpr hm)
    obtain ⟨hsign, hfield, hfraction⟩ := f.fields_withSign negative (Nat.two_pow_pos _) hm
    rw [Nat.zero_mul, Nat.zero_add] at hsign hfield hfraction
    have hnotAll : ¬0 = 2 ^ f.exponentBits - 1 := by omega
    simp only [pattern, if_pos hm, meaning, hsign, hfield, hfraction, if_neg hnotAll, if_true, hk]
  · have hlt : m - 2 ^ f.fractionBits < 2 ^ f.fractionBits := by
      have hm' := h.lt
      rw [Nat.pow_succ'] at hm'
      omega
    have hbits : (k - f.leastExponent).toNat * 2 ^ f.fractionBits + m =
        ((k - f.leastExponent).toNat + 1) * 2 ^ f.fractionBits + (m - 2 ^ f.fractionBits) := by
      rw [Nat.add_mul]
      omega
    have hnext : (k - f.leastExponent).toNat + 1 < 2 ^ f.exponentBits := by omega
    obtain ⟨hsign, hfield, hfraction⟩ := f.fields_withSign negative hnext hlt
    have hnotAll : ¬(k - f.leastExponent).toNat + 1 = 2 ^ f.exponentBits - 1 := by omega
    have hm' : 2 ^ f.fractionBits + (m - 2 ^ f.fractionBits) = m := by omega
    have hk : f.leastExponent + (k - f.leastExponent).toNat = k := by
      have hleast := h.least_le
      omega
    simp only [pattern, if_neg hm, hbits, meaning, hsign, hfield, hfraction, if_neg hnotAll,
      Nat.add_one_ne_zero, if_false, hm', Nat.add_sub_cancel, hk]

private theorem meaning_infinity (negative : Bool) :
    f.meaning (f.withSign negative f.infinityBits) = .infinity negative := by
  obtain ⟨hsign, hfield, hfraction⟩ := f.fields_withSign negative
    (Nat.sub_one_lt (Nat.two_pow_pos f.exponentBits).ne') (Nat.two_pow_pos _)
  rw [Nat.add_zero, ← infinityBits] at hsign hfield hfraction
  simp only [meaning, hsign, hfield, hfraction, if_true]

private theorem meaning_undefined {payload : Nat} (negative : Bool) (hpos : 0 < payload)
    (hlt : payload < 2 ^ f.fractionBits) :
    f.meaning (f.withSign negative (f.infinityBits + payload)) = .undefined negative payload := by
  obtain ⟨hsign, hfield, hfraction⟩ := f.fields_withSign negative
    (Nat.sub_one_lt (Nat.two_pow_pos f.exponentBits).ne') hlt
  rw [← infinityBits] at hsign hfield hfraction
  simp only [meaning, hsign, hfield, hfraction, if_true, if_neg hpos.ne']

theorem holds_of_meaning {bits : Nat} {negative : Bool} (hf : 1 < f.exponentBits)
    (h : f.meaning bits = .number negative m k) : f.Holds m k := by
  have hexponents : 2 ^ 2 ≤ 2 ^ f.exponentBits := Nat.pow_le_pow_right (by decide) hf
  have hfraction : bits % 2 ^ f.fractionBits < 2 ^ f.fractionBits :=
    Nat.mod_lt _ (Nat.two_pow_pos _)
  have hfield : bits / 2 ^ f.fractionBits % 2 ^ f.exponentBits < 2 ^ f.exponentBits :=
    Nat.mod_lt _ (Nat.two_pow_pos _)
  simp only [meaning] at h
  generalize bits / 2 ^ f.fractionBits % 2 ^ f.exponentBits = field at h hfield
  generalize bits % 2 ^ f.fractionBits = fraction at h hfraction
  split at h
  · split at h <;> cases h
  · split at h <;> cases h
    · refine ⟨Int.le_refl _, ?_, .inr rfl, ?_⟩
      · rw [Nat.pow_succ']
        omega
      · omega
    · refine ⟨by omega, ?_, .inl (Nat.le_add_right _ _), ?_⟩
      · rw [Nat.pow_succ']
        omega
      · omega

private theorem holds_zero (hf : 1 < f.exponentBits) : f.Holds 0 f.leastExponent := by
  have hexponents : 2 ^ 2 ≤ 2 ^ f.exponentBits := Nat.pow_le_pow_right (by decide) hf
  exact ⟨Int.le_refl _, Nat.two_pow_pos _, .inr rfl, by omega⟩

private theorem infinityBits_add (f : Format) :
    f.infinityBits + 2 ^ f.fractionBits = f.signBit := by
  rw [infinityBits, ← Nat.succ_mul, Nat.succ_eq_add_one,
    Nat.sub_add_cancel (Nat.two_pow_pos f.exponentBits), ← Nat.pow_add, signBit]

private theorem withSign_lt {bits : Nat} (negative : Bool) (h : bits < f.signBit) :
    f.withSign negative bits < 2 * f.signBit := by
  rw [withSign]
  split <;> omega

private theorem exists_quiet_eq (hf : 0 < f.fractionBits) (source : Format) (negative : Bool)
    (payload : Nat) :
    ∃ rest, 0 < rest ∧ rest < 2 ^ f.fractionBits ∧
      f.quiet source negative payload = f.withSign negative (f.infinityBits + rest) := by
  -- The pattern is made quiet by a bit that its payload does not reach.
  have hhalf : 2 ^ f.fractionBits = 2 ^ (f.fractionBits - 1) + 2 ^ (f.fractionBits - 1) := by
    rw [← Nat.two_mul, ← Nat.pow_succ', Nat.succ_eq_add_one, Nat.sub_add_cancel hf]
  have hpos := Nat.two_pow_pos (f.fractionBits - 1)
  simp only [quiet, Nat.add_assoc]
  refine ⟨_, Nat.add_pos_left hpos _, ?_, rfl⟩
  rw [hhalf]
  exact Nat.add_lt_add_left (Nat.mod_lt _ hpos) _

private theorem exists_convert_eq (hf : 0 < f.fractionBits) (source : Format) (bits : Nat) :
    ∃ magnitude < f.signBit,
      f.convert source bits = f.withSign (source.meaning bits).isNegative magnitude := by
  have hinfinity := f.infinityBits_add
  have hpos := Nat.two_pow_pos f.fractionBits
  rw [convert]
  cases source.meaning bits with
  | number negative m k =>
    refine ⟨f.nearestRatio (m * 2 ^ k.toNat) (2 ^ (-k).toNat), ?_, rfl⟩
    have hle : f.nearestRatio (m * 2 ^ k.toNat) (2 ^ (-k).toNat) ≤ f.infinityBits := by
      rw [nearestRatio]
      split
      · exact Nat.zero_le _
      · exact Nat.min_le_right _ _
    omega
  | infinity negative => exact ⟨f.infinityBits, by omega, rfl⟩
  | undefined negative payload =>
    obtain ⟨rest, -, hrest, hquiet⟩ := exists_quiet_eq hf source negative payload
    exact ⟨f.infinityBits + rest, by omega, hquiet⟩

private theorem convert_lt {bits : Nat} (hf : 0 < f.fractionBits) (source : Format) :
    f.convert source bits < 2 * f.signBit := by
  obtain ⟨magnitude, hlt, hconvert⟩ := exists_convert_eq hf source bits
  rw [hconvert]
  exact withSign_lt _ hlt

theorem isNegative_convert (hf : 0 < f.fractionBits) (source : Format) (bits : Nat) :
    (f.meaning (f.convert source bits)).isNegative = (source.meaning bits).isNegative := by
  obtain ⟨magnitude, hlt, hconvert⟩ := exists_convert_eq hf source bits
  rw [isNegative_meaning, hconvert, isNegative_withSign _ _ hlt]

end Format

/-- What a pattern is worth. Patterns of different formats, and zeros of either sign, can be worth
the same. -/
inductive Quantity where
  | rational (q : ℚ)
  | infinite (negative : Bool)
  | undefined

def Meaning.quantity : Meaning → Quantity
  | .number negative significand exponent =>
    .rational ((if negative then -1 else 1) * (significand * 2 ^ exponent))
  | .infinity negative => .infinite negative
  | .undefined _ _ => .undefined

private theorem sign_mul_inj {negative negative' : Bool} {a b : ℚ} (ha : 0 < a) (hb : 0 ≤ b)
    (h : (if negative then -1 else 1) * a = (if negative' then -1 else 1) * b) :
    negative = negative' ∧ a = b := by
  cases negative <;> cases negative' <;> simp at h ⊢ <;> linarith

namespace Format

variable {f source : Format} {bits : Nat}

/-- A pattern is converted to one with the same quantity if the format has such a pattern. -/
private theorem quantity_convert {other : Nat} (hexponent : 1 < f.exponentBits)
    (hfraction : 0 < f.fractionBits)
    (h : (f.meaning other).quantity = (source.meaning bits).quantity) :
    (f.meaning (f.convert source bits)).quantity = (source.meaning bits).quantity := by
  rw [convert]
  cases hmeaning : source.meaning bits with
  | number negative m k =>
    by_cases hm : m = 0
    · -- Zero keeps its sign, whatever sign the other pattern has.
      have hzero : f.Holds 0 f.leastExponent := holds_zero hexponent
      have hvalue : ((0 : Nat) * 2 ^ k : ℚ) = (0 : Nat) * 2 ^ f.leastExponent := by simp
      simp only [hm, nearest_eq hvalue hzero, meaning_pattern_number hzero]
      simp [Meaning.quantity]
    · rw [hmeaning] at h
      cases hother : f.meaning other with
      | number negative' m' k' =>
        rw [hother] at h
        have hholds := holds_of_meaning hexponent hother
        have hpos : (0 : ℚ) < m * 2 ^ k := by
          have hm' : (0 : ℚ) < m := by exact_mod_cast Nat.pos_of_ne_zero hm
          positivity
        obtain ⟨rfl, hvalue⟩ := sign_mul_inj hpos (by positivity) (Quantity.rational.inj h).symm
        simp only [nearest_eq hvalue hholds, meaning_pattern_number hholds]
        exact h
      | infinity _ => simp [hother, Meaning.quantity] at h
      | undefined _ _ => simp [hother, Meaning.quantity] at h
  | infinity negative => simp only [meaning_infinity]
  | undefined negative payload =>
    obtain ⟨rest, hpos, hlt, hquiet⟩ := exists_quiet_eq hfraction source negative payload
    simp only [hquiet, meaning_undefined negative hpos hlt, Meaning.quantity]

end Format

private theorem exists_double_holds {m : Nat} {k : Int} (h : Format.single.Holds m k) :
    ∃ m' k', Format.double.Holds m' k' ∧ (m' * 2 ^ k' : ℚ) = m * 2 ^ k := by
  by_cases hzero : m = 0
  · exact ⟨0, _, Format.holds_zero (by decide), by simp [hzero]⟩
  obtain ⟨hleast, hlt, -, hfinite⟩ := h
  have hlog : m.log2 < 24 := (Nat.log2_lt hzero).mpr hlt
  have hlow : 2 ^ m.log2 ≤ m := Nat.log2_self_le hzero
  have hhigh : m < 2 ^ (m.log2 + 1) := Nat.lt_log2_self
  obtain ⟨shift, hshift⟩ := Nat.exists_eq_add_of_le (by omega : m.log2 ≤ 52)
  have hfill : m.log2 + 1 + shift = 53 := by omega
  simp only [Format.leastExponent, Format.single] at hleast hfinite
  refine ⟨m * 2 ^ shift, k - shift, ⟨?_, ?_, .inl ?_, ?_⟩, ?_⟩
  · simp only [Format.leastExponent, Format.double]
    omega
  · have hmul := Nat.mul_lt_mul_of_pos_right hhigh (Nat.two_pow_pos shift)
    rwa [← Nat.pow_add, hfill] at hmul
  · have hmul := Nat.mul_le_mul_right (2 ^ shift) hlow
    rwa [← Nat.pow_add, ← hshift] at hmul
  · simp only [Format.leastExponent, Format.double]
    omega
  · rw [zpow_sub₀ (by norm_num), zpow_natCast]
    push_cast
    field_simp

private theorem Single.exists_quantity_eq (x : Single) :
    ∃ bits, (Format.double.meaning bits).quantity = x.meaning.quantity := by
  cases hx : x.meaning with
  | number negative m k =>
    have hholds : Format.single.Holds m k := Format.holds_of_meaning (by decide) hx
    obtain ⟨m', k', hholds', hvalue⟩ := exists_double_holds hholds
    refine ⟨Format.double.pattern (.number negative m' k'), ?_⟩
    rw [Format.meaning_pattern_number hholds', Meaning.quantity, Meaning.quantity, hvalue]
  | infinity negative =>
    refine ⟨Format.double.withSign negative Format.double.infinityBits, ?_⟩
    rw [Format.meaning_infinity]
  | undefined negative payload =>
    refine ⟨Format.double.withSign negative (Format.double.infinityBits + 1), ?_⟩
    rw [Format.meaning_undefined negative Nat.one_pos (by decide), Meaning.quantity,
      Meaning.quantity]

theorem Single.meaning_widen (x : Single) :
    x.widen.meaning =
      Format.double.meaning (Format.double.convert Format.single x.bits.toNat) := by
  have hlt : Format.double.convert Format.single x.bits.toNat < 2 ^ 64 :=
    Format.convert_lt (by decide) Format.single
  rw [widen, Double.meaning, UInt64.toNat_ofNat_of_lt' hlt]

theorem Double.meaning_narrow (y : Double) :
    y.narrow.meaning =
      Format.single.meaning (Format.single.convert Format.double y.bits.toNat) := by
  have hlt : Format.single.convert Format.double y.bits.toNat < 2 ^ 32 :=
    Format.convert_lt (by decide) Format.double
  rw [narrow, Single.meaning, UInt32.toNat_ofNat_of_lt' hlt]

theorem Single.quantity_widen (x : Single) : x.widen.meaning.quantity = x.meaning.quantity := by
  obtain ⟨bits, hbits⟩ := x.exists_quantity_eq
  rw [meaning_widen]
  exact Format.quantity_convert (by decide) (by decide) hbits

theorem Double.quantity_narrow {y : Double} {x : Single}
    (h : x.meaning.quantity = y.meaning.quantity) :
    y.narrow.meaning.quantity = y.meaning.quantity := by
  rw [meaning_narrow]
  exact Format.quantity_convert (by decide) (by decide) h

end RecordTables.Floating
