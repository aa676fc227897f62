import RecordTables.Proofs.Floating.Widening
import RecordTables.Proofs.Serializer.Integers

/-!
# Stored numbers

All widths of integers share one encoder, and both widths of floating-point numbers share another.
So a column can be given numbers that its type does not have. An integer of this kind is written but
not read, a floating-point number is read as the nearest one that the type has. A pattern of 32 bits
comes back bit for bit from a column of its own type.
-/

namespace RecordTables

open RecordTables.Floating

/-- The two kinds of numbers. -/
inductive NumberKind where
  | integer
  | floating
  deriving DecidableEq

def ValueType.numberKind? : ValueType → Option NumberKind
  | .int16 => some .integer
  | .int32 => some .integer
  | .int64 => some .integer
  | .float32 => some .floating
  | .float64 => some .floating
  | _ => none

namespace Value

def quantity? : Value → Option Quantity
  | .int16 n => some (.rational n.toInt)
  | .int32 n => some (.rational n.toInt)
  | .int64 n => some (.rational n.toInt)
  | .float32 x => some x.meaning.quantity
  | .float64 x => some x.meaning.quantity
  | _ => none

/-- The values stand for the same number, or both of them are absent. -/
def IsSameNumber (v w : Value) : Prop :=
  v.isNull = w.isNull ∧ v.quantity? = w.quantity?

variable {v w : Value} {n m : Int}

private theorem IsInteger.isSameNumber_iff (hv : v.IsInteger n) (hw : w.IsInteger m) :
    v.IsSameNumber w ↔ n = m := by
  cases hv <;> cases hw <;> simp [IsSameNumber, isNull, quantity?]

private theorem isNull_iff : v.isNull = true ↔ v = .null := by
  cases v <;> simp [isNull]

private theorem IsSameNumber.ne_null (h : w.IsSameNumber v) (hv : v ≠ .null) : w ≠ .null := by
  intro hw
  rw [hw] at h
  exact hv (isNull_iff.mp h.1.symm)

end Value

theorem DriverValue.IsInteger.unique {d : DriverValue} {n m : Int} (hn : d.IsInteger n)
    (hm : d.IsInteger m) : n = m := by
  cases hn <;> cases hm <;> rfl

namespace Serializer

open Codec.Sqlite

variable {s : Serializer} {width : Nat} {v w : Value} {d : DriverValue}

/-- What is read of a driver value that a number has been written to. It is the same number if the
type has that number. If it has not, an integer is refused, and a floating-point number is another
number. -/
structure ReadsNumber (s : Serializer) (v : Value) (d : DriverValue) : Prop where
  same_iff : (∃ w, s.decode d = .ok w ∧ w.IsSameNumber v) ↔
    ∃ w : Value, w.Fits s.valueType ∧ w.IsSameNumber v
  fits : ∀ w, s.decode d = .ok w → w.Fits s.valueType
  refused : ∀ e, s.decode d = .error e → s.valueType.numberKind? = some .integer ∧
    ∃ expected, e = .cannotDecode d expected
  exact : ∀ w, s.decode d = .ok w → s.valueType.numberKind? = some .integer → w.IsSameNumber v

private theorem readsNumber_null (s : Serializer) : s.ReadsNumber .null .null where
  same_iff := iff_of_true ⟨.null, rfl, rfl, rfl⟩ ⟨.null, .inl rfl, rfl, rfl⟩
  fits _ h := .inl (Except.ok.inj h).symm
  refused _ h := nomatch h
  exact w h _ := by
    cases h
    exact ⟨rfl, rfl⟩

private theorem readsNumber_of_same (hdecode : s.decode d = .ok w)
    (htype : w.valueType? = some s.valueType) (hsame : w.IsSameNumber v) : s.ReadsNumber v d where
  same_iff := iff_of_true ⟨w, hdecode, hsame⟩ ⟨w, .inr htype, hsame⟩
  fits w' hw' := by
    cases hdecode.symm.trans hw'
    exact .inr htype
  refused e he := by cases hdecode.symm.trans he
  exact w' hw' _ := by
    cases hdecode.symm.trans hw'
    exact hsame

private theorem readsNumber_of_error {expected : String}
    (hdecode : s.decode d = .error (.cannotDecode d expected))
    (hkind : s.valueType.numberKind? = some .integer)
    (hnone : ¬∃ w : Value, w.Fits s.valueType ∧ w.IsSameNumber v) : s.ReadsNumber v d where
  same_iff := by
    refine iff_of_false ?_ hnone
    rintro ⟨w, hw, -⟩
    cases hdecode.symm.trans hw
  fits w hw := by cases hdecode.symm.trans hw
  refused e he := by
    cases hdecode.symm.trans he
    exact ⟨hkind, expected, rfl⟩
  exact w hw _ := by cases hdecode.symm.trans hw

private theorem StoresIntegers.readsNumber (h : s.StoresIntegers width)
    (hwidth : s.valueType.integerWidth? = some width)
    (hkind : s.valueType.numberKind? = some .integer) (hencode : s.encode v = .ok d) :
    s.ReadsNumber v d := by
  by_cases hv : v = .null
  · subst hv
    cases hencode
    exact readsNumber_null s
  have hencoder : encodeInteger v = .ok d := by
    rwa [encode, Encoder.run_of_ne hv, h.encoder_eq] at hencode
  obtain ⟨n, hn⟩ := exists_isInteger_of_encodeInteger hencoder
  have hd : d.IsInteger n := by
    obtain ⟨d', hencode', hd'⟩ := h.encode_of_isInteger hn
    rw [hencode] at hencode'
    cases hencode'
    exact hd'
  by_cases hfits : FitsWidth width n
  · obtain ⟨w, hdecode, htype, hw⟩ := h.decode_eq_ok hd hfits
    exact readsNumber_of_same hdecode htype ((hw.isSameNumber_iff hn).mpr rfl)
  · have hnone : ∀ m, d.IsInteger m → ¬FitsWidth width m := by
      intro m hm
      rwa [hm.unique hd]
    have hnull : d ≠ .null := by
      rintro rfl
      cases hd
    obtain ⟨expected, hdecode⟩ := h.decode_eq_error hnull hnone
    apply readsNumber_of_error hdecode hkind
    -- A value of the type with this number would be an integer that fits.
    rintro ⟨w, hw, hsame⟩
    have htype := hw.resolve_left (hsame.ne_null hv)
    obtain ⟨m, hm, hfits'⟩ := Value.exists_isInteger htype hwidth
    rw [hm.isSameNumber_iff hn] at hsame
    exact hfits (hsame ▸ hfits')

private theorem readsNumber_of_decode (hdecode : s.decode d = .ok w)
    (htype : w.valueType? = some s.valueType) (hkind : s.valueType.numberKind? = some .floating)
    (hsame : (∃ w : Value, w.Fits s.valueType ∧ w.IsSameNumber v) → w.IsSameNumber v) :
    s.ReadsNumber v d := by
  refine ⟨⟨?_, ?_⟩, ?_, ?_, ?_⟩
  · rintro ⟨w', hw', hsame'⟩
    cases hdecode.symm.trans hw'
    exact ⟨w, .inr htype, hsame'⟩
  · intro hexists
    exact ⟨w, hdecode, hsame hexists⟩
  · intro w' hw'
    cases hdecode.symm.trans hw'
    exact .inr htype
  · intro e he
    cases hdecode.symm.trans he
  · intro _ _ hinteger
    cases hkind.symm.trans hinteger

private theorem exists_double_of_encodeFloat (h : encodeFloat v = .ok d) :
    ∃ y : Double, d = .double y ∧ v.isNull = false ∧ v.quantity? = some y.meaning.quantity := by
  cases v with
  | float32 x =>
    cases h
    exact ⟨x.widen, rfl, rfl, congrArg some x.quantity_widen.symm⟩
  | float64 y =>
    cases h
    exact ⟨y, rfl, rfl, rfl⟩
  | _ => cases h

private theorem readsNumber_float64 {dbType : String} {wireType : WireType}
    (h : encodeFloat v = .ok d) :
    ReadsNumber ⟨.float64, .sqlite, dbType, wireType, float64⟩ v d := by
  obtain ⟨y, rfl, hpresent, hquantity⟩ := exists_double_of_encodeFloat h
  exact readsNumber_of_same (w := .float64 y) rfl rfl ⟨hpresent.symm, hquantity.symm⟩

private theorem readsNumber_float32 {dbType : String} {wireType : WireType}
    (h : encodeFloat v = .ok d) :
    ReadsNumber ⟨.float32, .sqlite, dbType, wireType, float32⟩ v d := by
  obtain ⟨y, rfl, hpresent, hquantity⟩ := exists_double_of_encodeFloat h
  apply readsNumber_of_decode (w := .float32 y.narrow) rfl rfl rfl
  rintro ⟨w, hw, hnull, hsame⟩
  have hpresent' : w ≠ .null := by
    rintro rfl
    cases hnull.trans hpresent
  have htype : w.valueType? = some .float32 := hw.resolve_left hpresent'
  cases w <;> cases htype
  next x =>
    have hx : x.meaning.quantity = y.meaning.quantity := Option.some.inj (hsame.trans hquantity)
    refine ⟨hpresent.symm, ?_⟩
    rw [hquantity]
    exact congrArg some (Double.quantity_narrow hx)

private theorem encodeInteger_readsNumber (hs : s ∈ builtins .sqlite)
    (hkind : s.valueType.numberKind? = some .integer) :
    s.codec.encoder = encodeInteger ∧ ∀ v d, s.encode v = .ok d → s.ReadsNumber v d := by
  have hwidth : ∃ width, s.valueType.integerWidth? = some width := by
    cases htype : s.valueType <;> simp [htype, ValueType.numberKind?] at hkind <;>
      exact ⟨_, rfl⟩
  obtain ⟨width, hwidth⟩ := hwidth
  have h := storesIntegers_of_width hs hwidth
  exact ⟨h.encoder_eq, fun v d => h.readsNumber hwidth hkind⟩

private theorem encodeFloat_readsNumber (hs : s ∈ builtins .sqlite)
    (hkind : s.valueType.numberKind? = some .floating) :
    s.codec.encoder = encodeFloat ∧ ∀ v d, encodeFloat v = .ok d → s.ReadsNumber v d := by
  have hfound := builtin?_of_mem hs
  cases htype : s.valueType <;> rw [htype] at hkind hfound <;> cases hkind <;> cases hfound
  · exact ⟨rfl, fun v d => readsNumber_float32⟩
  · exact ⟨rfl, fun v d => readsNumber_float64⟩

private theorem exists_encoder_iff {kind : NumberKind} (hs : s ∈ builtins .sqlite)
    (hkind : s.valueType.numberKind? = some kind) :
    (∃ d, s.codec.encoder v = .ok d) ↔ v.valueType?.bind ValueType.numberKind? = some kind := by
  cases kind with
  | integer =>
    rw [(encodeInteger_readsNumber hs hkind).1]
    cases v <;> simp [encodeInteger, Value.valueType?, ValueType.numberKind?]
  | floating =>
    rw [(encodeFloat_readsNumber hs hkind).1]
    cases v <;> simp [encodeFloat, Value.valueType?, ValueType.numberKind?]

private theorem readsNumber_of_encode {kind : NumberKind} (hs : s ∈ builtins .sqlite)
    (hkind : s.valueType.numberKind? = some kind) (h : s.encode v = .ok d) : s.ReadsNumber v d := by
  cases kind with
  | integer => exact (encodeInteger_readsNumber hs hkind).2 v d h
  | floating =>
    obtain ⟨hencoder, hreads⟩ := encodeFloat_readsNumber hs hkind
    by_cases hv : v = .null
    · subst hv
      cases h
      exact readsNumber_null s
    · rw [encode, Encoder.run_of_ne hv, hencoder] at h
      exact hreads v d h

/-- A column of SQLite for numbers encodes the numbers of its kind, integers or floating-point
numbers, of whatever width. A number is read back as the same number if and only if the type of the
column has it. Otherwise an integer cannot be decoded, and a floating-point number is decoded to
another number of the type. -/
theorem numbers_read_back_if_type_has_them :
    ∀ s ∈ builtins .sqlite, ∀ kind, s.valueType.numberKind? = some kind →
      (∀ v, (∃ d, s.encode v = .ok d) ↔
        v = .null ∨ v.valueType?.bind ValueType.numberKind? = some kind) ∧
      ∀ v d, s.encode v = .ok d →
        ((∃ w, s.decode d = .ok w ∧ w.IsSameNumber v) ↔
          ∃ w : Value, w.Fits s.valueType ∧ w.IsSameNumber v) ∧
        (∀ w, s.decode d = .ok w → w.Fits s.valueType ∧ (kind = .integer → w.IsSameNumber v)) ∧
        ∀ e, s.decode d = .error e →
          kind = .integer ∧ ∃ expected, e = .cannotDecode d expected := by
  intro s hs kind hkind
  refine ⟨?_, ?_⟩
  · intro v
    by_cases hv : v = .null
    · subst hv
      exact iff_of_true ⟨.null, s.encode_null⟩ (.inl rfl)
    · rw [encode, Encoder.run_of_ne hv, exists_encoder_iff hs hkind]
      simp [hv]
  · intro v d h
    have hreads := readsNumber_of_encode hs hkind h
    refine ⟨hreads.same_iff, ?_, ?_⟩
    · intro w hw
      exact ⟨hreads.fits w hw, fun hinteger => hreads.exact w hw (hinteger ▸ hkind)⟩
    · intro e he
      obtain ⟨hinteger, hexpected⟩ := hreads.refused e he
      exact ⟨Option.some.inj (hkind.symm.trans hinteger), hexpected⟩

/-- An integer of 64 bits comes back from a column of 16 bits as long as these hold it. -/
theorem numbers_read_back_if_type_has_them_of_smallint :
    let s : Serializer := ⟨.int16, .sqlite, "SMALLINT", .smallInt, Codec.Sqlite.int16⟩
    s ∈ builtins .sqlite ∧ s.valueType.numberKind? = some .integer ∧
      s.encode (.int64 (-32768)) = .ok (.bigInt (-32768)) ∧
      (∃ w, s.decode (.bigInt (-32768)) = .ok w ∧ w.IsSameNumber (.int64 (-32768))) ∧
      ∃ d, s.encode (.int32 32768) = .ok d := by
  intro s
  have hs : s ∈ builtins .sqlite := by simp [s, builtins, sqlite]
  obtain ⟨hencodes, hreads⟩ := numbers_read_back_if_type_has_them s hs .integer rfl
  have hencode : s.encode (.int64 (-32768)) = .ok (.bigInt (-32768)) := rfl
  have hsame : (Value.int16 (-32768)).IsSameNumber (.int64 (-32768)) :=
    ((Value.IsInteger.int16 _).isSameNumber_iff (.int64 _)).mpr (by decide)
  refine ⟨hs, rfl, hencode, ?_, (hencodes (.int32 32768)).mpr (.inr rfl)⟩
  exact (hreads _ _ hencode).1.mpr ⟨.int16 (-32768), .inr rfl, hsame⟩

/-- A column of 16 bits is given an integer that it cannot read, and a column of 32 bits the number
0.1 of 64 bits, of which it reads another one. -/
theorem wide_numbers_do_not_read_back :
    (∃ s ∈ builtins .sqlite, s.valueType = .int16 ∧
      s.encode (.int32 32768) = .ok (.bigInt 32768) ∧
      s.decode (.bigInt 32768) = .error (.cannotDecode (.bigInt 32768) "I16")) ∧
    ∃ s ∈ builtins .sqlite, s.valueType = .float32 ∧
      s.encode (.float64 ⟨0x3FB999999999999A⟩) = .ok (.double ⟨0x3FB999999999999A⟩) ∧
      s.decode (.double ⟨0x3FB999999999999A⟩) = .ok (.float32 ⟨0x3DCCCCCD⟩) ∧
      ¬(Value.float32 ⟨0x3DCCCCCD⟩).IsSameNumber (.float64 ⟨0x3FB999999999999A⟩) := by
  refine ⟨⟨⟨.int16, .sqlite, "SMALLINT", .smallInt, int16⟩, by simp [builtins, sqlite], rfl, rfl,
    rfl⟩, ⟨.float32, .sqlite, "REAL", .real, float32⟩, by simp [builtins, sqlite], rfl, rfl, ?_, ?_⟩
  · have hnarrow : (⟨0x3FB999999999999A⟩ : Double).narrow = ⟨0x3DCCCCCD⟩ := by decide +kernel
    exact congrArg (fun x => Except.ok (Value.float32 x)) hnarrow
  · have hsingle : (⟨0x3DCCCCCD⟩ : Single).meaning = .number false 13421773 (-27) := by
      decide +kernel
    have hdouble : (⟨0x3FB999999999999A⟩ : Double).meaning =
        .number false 7205759403792794 (-56) := by decide +kernel
    rintro ⟨-, h⟩
    simp only [Value.quantity?, hsingle, hdouble, Meaning.quantity, Option.some.injEq,
      Quantity.rational.injEq] at h
    norm_num at h

/-- A column of SQLite for numbers of 32 bits stores a pattern as the only one of 64 bits with its
sign and its quantity, and reads back the very pattern that has been stored. This holds of every
pattern of a number or an infinity, so of both zeros and of the smallest numbers too. -/
theorem singles_come_back_bit_for_bit :
    ∀ s ∈ builtins .sqlite, s.valueType = .float32 → ∀ x : Single, x.IsDefined →
      s.encode (.float32 x) = .ok (.double x.widen) ∧
      (∀ y : Double, y.meaning.Matches x.meaning ↔ y = x.widen) ∧
      s.decode (.double x.widen) = .ok (.float32 x) := by
  intro s hs htype x hx
  have hfound := builtin?_of_mem hs
  rw [htype] at hfound
  cases hfound
  refine ⟨rfl, fun y => Double.matches_iff hx, ?_⟩
  have hdecode : float32.decoder.run (.double x.widen) = .ok (.float32 x.widen.narrow) := rfl
  rw [decode, hdecode, Single.narrow_widen hx]

/-- The greatest number below zero has no leading bit in 32 bits, and one in 64 bits. -/
theorem singles_come_back_bit_for_bit_next_to_zero :
    let s : Serializer := ⟨.float32, .sqlite, "REAL", .real, Codec.Sqlite.float32⟩
    let x : Single := ⟨0x80000001⟩
    s ∈ builtins .sqlite ∧ s.valueType = .float32 ∧ x.IsDefined ∧
      s.encode (.float32 x) = .ok (.double ⟨0xB6A0000000000000⟩) ∧
      (∀ y : Double, y.meaning.Matches x.meaning ↔ y = ⟨0xB6A0000000000000⟩) ∧
      s.decode (.double ⟨0xB6A0000000000000⟩) = .ok (.float32 x) := by
  intro s x
  have hs : s ∈ builtins .sqlite := by simp [s, builtins, sqlite]
  have hx : x.IsDefined := by
    rw [Single.IsDefined, Format.IsDefined]
    decide
  have hwiden : x.widen = ⟨0xB6A0000000000000⟩ := by decide +kernel
  rw [← hwiden]
  exact ⟨hs, rfl, hx, singles_come_back_bit_for_bit s hs rfl x hx⟩

end Serializer

end RecordTables
