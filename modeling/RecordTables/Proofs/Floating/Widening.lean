import RecordTables.Proofs.Floating.Conversion

/-!
# Patterns that are widened and narrowed

A pattern that stands for a number or an infinity is the only one of its format with its sign and
its quantity. Conversions keep both where they can. So a pattern of 32 bits comes back when it is
widened and narrowed again.
-/

namespace RecordTables.Floating

/-- The meanings have the same sign and the same quantity, in whatever formats they are written. -/
def Meaning.Matches (a b : Meaning) : Prop :=
  a.isNegative = b.isNegative ∧ a.quantity = b.quantity

namespace Meaning.Matches

variable {a b c : Meaning}

theorem symm (h : a.Matches b) : b.Matches a :=
  ⟨h.1.symm, h.2.symm⟩

theorem trans (h : a.Matches b) (h' : b.Matches c) : a.Matches c :=
  ⟨h.1.trans h'.1, h.2.trans h'.2⟩

private theorem number_or_infinity (h : a.Matches b) (ha : a.quantity ≠ .undefined) :
    (∃ negative m k m' k', a = .number negative m k ∧ b = .number negative m' k' ∧
      (m * 2 ^ k : ℚ) = m' * 2 ^ k') ∨
    ∃ negative, a = .infinity negative ∧ b = .infinity negative := by
  obtain ⟨hsign, hquantity⟩ := h
  cases a with
  | number negative m k =>
    cases b with
    | number negative' m' k' =>
      cases hsign
      refine .inl ⟨negative, m, k, m', k', rfl, rfl, ?_⟩
      cases negative <;> simpa [quantity] using hquantity
    | infinity _ => cases hquantity
    | undefined _ _ => cases hquantity
  | infinity negative =>
    cases b with
    | number _ _ _ => cases hquantity
    | infinity negative' =>
      cases hsign
      exact .inr ⟨negative, rfl, rfl⟩
    | undefined _ _ => cases hquantity
  | undefined _ _ => exact absurd rfl ha

end Meaning.Matches

namespace Format

variable {f : Format} {a b bits : Nat}

/-- The pattern stands for a number or an infinity: without its sign it does not go beyond the
pattern of infinity. -/
def IsDefined (f : Format) (bits : Nat) : Prop :=
  bits % f.signBit ≤ f.infinityBits

private theorem isDefined_iff : f.IsDefined bits ↔ (f.meaning bits).quantity ≠ .undefined := by
  have hfield : bits / 2 ^ f.fractionBits % 2 ^ f.exponentBits < 2 ^ f.exponentBits :=
    Nat.mod_lt _ (Nat.two_pow_pos _)
  have hfraction : bits % 2 ^ f.fractionBits < 2 ^ f.fractionBits :=
    Nat.mod_lt _ (Nat.two_pow_pos _)
  rw [IsDefined, ← f.fields_eq_mod, infinityBits]
  simp only [meaning]
  generalize bits / 2 ^ f.fractionBits % 2 ^ f.exponentBits = field at hfield ⊢
  generalize bits % 2 ^ f.fractionBits = fraction at hfraction ⊢
  split
  · next hall =>
    rw [hall]
    split
    · next hzero => exact iff_of_true (by omega) (by simp [Meaning.quantity])
    · next hzero => exact iff_of_false (by omega) (not_not_intro rfl)
  · next hnotAll =>
    have hnext : (field + 1) * 2 ^ f.fractionBits ≤
        (2 ^ f.exponentBits - 1) * 2 ^ f.fractionBits := Nat.mul_le_mul_right _ (by omega)
    rw [Nat.add_mul] at hnext
    refine iff_of_true (by omega) ?_
    split <;> simp [Meaning.quantity]

/-- No two patterns of a format have the same sign and the same quantity. -/
private theorem eq_of_matches (hf : 1 < f.exponentBits) (ha : a < 2 * f.signBit)
    (hb : b < 2 * f.signBit)
    (hdefined : (f.meaning a).quantity ≠ .undefined) (h : (f.meaning a).Matches (f.meaning b)) :
    a = b := by
  rw [← f.pattern_meaning ha, ← f.pattern_meaning hb]
  rcases h.number_or_infinity hdefined with ⟨_, _, _, _, _, ha', hb', hvalue⟩ | ⟨_, ha', hb'⟩
  · -- Both patterns are the one that the number is rounded to.
    rw [ha', hb', ← nearest_eq rfl (holds_of_meaning hf ha'),
      ← nearest_eq hvalue (holds_of_meaning hf hb')]
  · rw [ha', hb']

end Format

namespace Single

variable {x x' : Single}

/-- The pattern stands for a number or an infinity. -/
def IsDefined (x : Single) : Prop :=
  Format.single.IsDefined x.bits.toNat

private theorem matches_widen (x : Single) : x.widen.meaning.Matches x.meaning := by
  refine ⟨?_, x.quantity_widen⟩
  rw [meaning_widen]
  exact Format.isNegative_convert (by decide) Format.single x.bits.toNat

private theorem eq_of_matches (hx : x.IsDefined) (h : x.meaning.Matches x'.meaning) : x = x' :=
  eq_of_toNat_eq (Format.eq_of_matches (f := .single) (by decide) x.bits.toNat_lt
    x'.bits.toNat_lt (Format.isDefined_iff.mp hx) h)

end Single

namespace Double

variable {x : Single} {y : Double}

private theorem matches_narrow (h : y.meaning.Matches x.meaning) :
    y.narrow.meaning.Matches y.meaning := by
  refine ⟨?_, quantity_narrow h.2.symm⟩
  rw [meaning_narrow]
  exact Format.isNegative_convert (by decide) Format.double y.bits.toNat

theorem matches_iff (hx : x.IsDefined) : y.meaning.Matches x.meaning ↔ y = x.widen := by
  constructor
  · intro h
    have hdefined : y.meaning.quantity ≠ .undefined := by
      rw [h.2]
      exact Format.isDefined_iff.mp hx
    exact eq_of_toNat_eq (Format.eq_of_matches (f := .double) (by decide) y.bits.toNat_lt
      x.widen.bits.toNat_lt hdefined (h.trans x.matches_widen.symm))
  · rintro rfl
    exact x.matches_widen

end Double

theorem Single.narrow_widen {x : Single} (hx : x.IsDefined) : x.widen.narrow = x := by
  have hwiden := x.matches_widen
  exact (eq_of_matches hx ((Double.matches_narrow hwiden).trans hwiden).symm).symm

end RecordTables.Floating
