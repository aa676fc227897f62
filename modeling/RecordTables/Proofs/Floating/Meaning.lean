import RecordTables.Floating.Format

/-!
# Patterns and their meanings

A pattern of bits is found again from what it stands for, so no two patterns stand for the same.
Numbers are equal exactly if they have the same pattern once the sign is taken off zeros.
-/

namespace RecordTables.Floating

def Meaning.isNegative : Meaning → Bool
  | .number negative _ _ => negative
  | .infinity negative => negative
  | .undefined negative _ => negative

namespace Format

theorem isNegative_meaning (f : Format) (bits : Nat) :
    (f.meaning bits).isNegative = f.isNegative bits := by
  simp only [meaning]
  split
  · split <;> rfl
  · split <;> rfl

/-- The pattern that stands for a meaning. -/
def pattern (f : Format) : Meaning → Nat
  | .number negative significand exponent =>
    f.withSign negative
      (if significand < 2 ^ f.fractionBits then significand
      else (exponent - f.leastExponent).toNat * 2 ^ f.fractionBits + significand)
  | .infinity negative => f.withSign negative f.infinityBits
  | .undefined negative payload => f.withSign negative (f.infinityBits + payload)

theorem fields_eq_mod (f : Format) (bits : Nat) :
    bits / 2 ^ f.fractionBits % 2 ^ f.exponentBits * 2 ^ f.fractionBits +
      bits % 2 ^ f.fractionBits = bits % f.signBit := by
  rw [signBit, Nat.pow_add, Nat.mul_comm (2 ^ f.exponentBits), Nat.mod_mul, Nat.add_comm,
    Nat.mul_comm]

private theorem withSign_fields (f : Format) {bits : Nat} (h : bits < 2 * f.signBit) :
    f.withSign (f.isNegative bits)
      (bits / 2 ^ f.fractionBits % 2 ^ f.exponentBits * 2 ^ f.fractionBits +
        bits % 2 ^ f.fractionBits) = bits := by
  have hdiv := Nat.div_add_mod bits f.signBit
  have hlt : bits / f.signBit < 2 := Nat.div_lt_of_lt_mul (by rwa [Nat.mul_comm] at h)
  rw [f.fields_eq_mod, withSign, isNegative]
  generalize bits / f.signBit = sign at hdiv hlt
  obtain rfl | rfl : sign = 0 ∨ sign = 1 := by omega
  · rw [if_neg (by decide)]
    omega
  · rw [if_pos (by decide)]
    omega

theorem isNegative_withSign (f : Format) (negative : Bool) {bits : Nat} (h : bits < f.signBit) :
    f.isNegative (f.withSign negative bits) = negative := by
  have hzero : bits / f.signBit = 0 := Nat.div_eq_of_lt h
  cases negative
  · simp [withSign, isNegative, hzero]
  · simp [withSign, isNegative, Nat.add_div_left bits (Nat.zero_lt_of_lt h), hzero]

theorem pattern_meaning (f : Format) {bits : Nat} (h : bits < 2 * f.signBit) :
    f.pattern (f.meaning bits) = bits := by
  have hfields := f.withSign_fields h
  have hfraction : bits % 2 ^ f.fractionBits < 2 ^ f.fractionBits :=
    Nat.mod_lt _ (Nat.two_pow_pos _)
  simp only [meaning]
  split
  · next hfield =>
    rw [hfield] at hfields
    split
    · next hzero => rwa [hzero, Nat.add_zero] at hfields
    · exact hfields
  · split
    · next hfield =>
      rw [hfield, Nat.zero_mul, Nat.zero_add] at hfields
      rwa [pattern, if_pos hfraction]
    · next hfield =>
      have hexponent : ∀ k : Nat, (f.leastExponent + k - f.leastExponent).toNat = k := by
        omega
      rw [pattern, if_neg (by omega), hexponent, ← Nat.add_assoc, ← Nat.succ_mul,
        Nat.succ_eq_add_one, Nat.sub_add_cancel (Nat.one_le_iff_ne_zero.mpr hfield)]
      exact hfields

end Format

theorem Single.eq_of_toNat_eq {x y : Single} (h : x.bits.toNat = y.bits.toNat) : x = y := by
  cases x
  cases y
  exact congrArg mk (UInt32.toNat_inj.mp h)

namespace Double

theorem pattern_meaning (x : Double) : Format.double.pattern x.meaning = x.bits.toNat :=
  Format.double.pattern_meaning x.bits.toNat_lt

theorem eq_of_toNat_eq {x y : Double} (h : x.bits.toNat = y.bits.toNat) : x = y := by
  cases x
  cases y
  exact congrArg mk (UInt64.toNat_inj.mp h)

private theorem eq_of_pattern_eq {x y : Double}
    (h : Format.double.pattern x.meaning = Format.double.pattern y.meaning) : x = y := by
  rw [pattern_meaning, pattern_meaning] at h
  exact eq_of_toNat_eq h

/-- The pattern without the sign of a zero. -/
def positiveZero (x : Double) : Double :=
  match x.meaning with
  | .number _ 0 _ => ⟨0⟩
  | _ => x

theorem exists_meaning_of_isFinite {x : Double} (h : x.isFinite = true) :
    ∃ negative significand exponent, x.meaning = .number negative significand exponent := by
  rw [isFinite] at h
  split at h
  · next negative significand exponent hmeaning => exact ⟨_, _, _, hmeaning⟩
  · cases h

theorem isFinite_positiveZero {x : Double} (h : x.isFinite = true) :
    x.positiveZero.isFinite = true := by
  rw [positiveZero]
  split
  · decide
  · exact h

theorem sameNumber_iff {x y : Double} (hx : x.isFinite = true) (hy : y.isFinite = true) :
    x.meaning.sameNumber y.meaning ↔ x.positiveZero = y.positiveZero := by
  obtain ⟨s, m, e, hx⟩ := exists_meaning_of_isFinite hx
  obtain ⟨t, n, d, hy⟩ := exists_meaning_of_isFinite hy
  have hzero : (⟨0⟩ : Double).meaning = .number false 0 Format.double.leastExponent := by decide
  rw [positiveZero, positiveZero, hx, hy]
  cases m with
  | zero =>
    cases n with
    | zero => simp [Meaning.sameNumber]
    | succ n =>
      have hne : (⟨0⟩ : Double) ≠ y := by
        rintro rfl
        rw [hzero] at hy
        cases hy
      simp [Meaning.sameNumber, hne]
  | succ m =>
    cases n with
    | zero =>
      have hne : x ≠ ⟨0⟩ := by
        rintro rfl
        rw [hzero] at hx
        cases hx
      simp [Meaning.sameNumber, hne]
    | succ n =>
      have hiff : x = y ↔ x.meaning = y.meaning :=
        ⟨congrArg _, fun h => eq_of_pattern_eq (congrArg _ h)⟩
      simp [Meaning.sameNumber, hiff, hx, hy]

theorem eq_of_sameNumber {x y : Double} {negative : Bool} {m n : Nat} {e d : Int}
    (hx : x.meaning = .number negative m e) (hy : y.meaning = .number negative n d)
    (h : x.meaning.sameNumber y.meaning) : x = y := by
  apply eq_of_pattern_eq
  rw [hx, hy] at h ⊢
  simp only [Meaning.sameNumber] at h
  split at h
  · next hzero =>
    simp only [hzero, Format.pattern, if_pos (Nat.two_pow_pos _)]
  · simp only [decide_eq_true_eq, true_and] at h
    rw [h.1, h.2]

end Double

end RecordTables.Floating
