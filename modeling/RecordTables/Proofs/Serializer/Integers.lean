import RecordTables.Proofs.Serializer.Encoding

/-!
# Stored integers

SQLite stores integers of every width in 64 bits. A column takes an integer back if and only if it
fits into the width of the column, and then it is the same integer.
-/

namespace RecordTables

def ValueType.integerWidth? : ValueType → Option Nat
  | .int16 => some 16
  | .int32 => some 32
  | .int64 => some 64
  | _ => none

def FitsWidth (width : Nat) (n : Int) : Prop :=
  -2 ^ (width - 1) ≤ n ∧ n < 2 ^ (width - 1)

/-- The value is an integer of any of the three widths. -/
inductive Value.IsInteger : Value → Int → Prop
  | int16 (n : Int16) : IsInteger (.int16 n) n.toInt
  | int32 (n : Int32) : IsInteger (.int32 n) n.toInt
  | int64 (n : Int64) : IsInteger (.int64 n) n.toInt

/-- The driver value is an integer of any of the three widths. -/
inductive DriverValue.IsInteger : DriverValue → Int → Prop
  | smallInt (n : Int16) : IsInteger (.smallInt n) n.toInt
  | integer (n : Int32) : IsInteger (.integer n) n.toInt
  | bigInt (n : Int64) : IsInteger (.bigInt n) n.toInt

namespace Value

variable {v w : Value} {type : ValueType} {width : Nat} {n : Int}

theorem exists_isInteger (htype : v.valueType? = some type)
    (hwidth : type.integerWidth? = some width) : ∃ n, v.IsInteger n ∧ FitsWidth width n := by
  cases v <;> cases htype <;> cases hwidth
  case int16 n => exact ⟨_, .int16 n, n.le_toInt, n.toInt_lt⟩
  case int32 n => exact ⟨_, .int32 n, n.le_toInt, n.toInt_lt⟩
  case int64 n => exact ⟨_, .int64 n, n.le_toInt, n.toInt_lt⟩

theorem IsInteger.unique (hv : v.IsInteger n) (hw : w.IsInteger n)
    (htype : v.valueType? = w.valueType?) : v = w := by
  cases hv with
  | int16 m =>
    generalize hm : m.toInt = n at hw
    cases hw <;> simp_all [valueType?, Int16.toInt_inj]
  | int32 m =>
    generalize hm : m.toInt = n at hw
    cases hw <;> simp_all [valueType?, Int32.toInt_inj]
  | int64 m =>
    generalize hm : m.toInt = n at hw
    cases hw <;> simp_all [valueType?, Int64.toInt_inj]

end Value

namespace Codec.Sqlite

variable {v : Value} {d : DriverValue} {n : Int}

private theorem integer?_eq_some_iff : integer? d = some n ↔ d.IsInteger n := by
  constructor
  · intro h
    cases d <;> cases h
    · exact .smallInt _
    · exact .integer _
    · exact .bigInt _
  · intro h
    cases h <;> rfl

private theorem encodeInteger_of_isInteger (h : v.IsInteger n) :
    ∃ m : Int64, encodeInteger v = .ok (.bigInt m) ∧ m.toInt = n := by
  cases h with
  | int16 n => exact ⟨_, rfl, n.toInt_toInt64⟩
  | int32 n => exact ⟨_, rfl, n.toInt_toInt64⟩
  | int64 n => exact ⟨n, rfl, rfl⟩

theorem exists_isInteger_of_encodeInteger (h : encodeInteger v = .ok d) : ∃ n, v.IsInteger n := by
  cases v with
  | int16 n => exact ⟨_, .int16 n⟩
  | int32 n => exact ⟨_, .int32 n⟩
  | int64 n => exact ⟨_, .int64 n⟩
  | _ => cases h

section Decoding

variable {expected : String} {low high : Int} {value : Int → Value}

private theorem decodeInteger_eq_ok (hd : d.IsInteger n) (hlow : low ≤ n) (hhigh : n ≤ high) :
    decodeInteger expected low high value d = .ok (value n) := by
  rw [decodeInteger, integer?_eq_some_iff.mpr hd]
  exact if_pos ⟨hlow, hhigh⟩

private theorem decodeInteger_eq_error (h : ∀ n, d.IsInteger n → ¬(low ≤ n ∧ n ≤ high)) :
    decodeInteger expected low high value d = .error (.cannotDecode d expected) := by
  rw [decodeInteger]
  cases hn : integer? d with
  | none => rfl
  | some n => exact if_neg (h n (integer?_eq_some_iff.mp hn))

end Decoding

end Codec.Sqlite

namespace Serializer

open Codec.Sqlite

/-- The serializer writes integers of any width, and reads those that fit into its own. -/
structure StoresIntegers (s : Serializer) (width : Nat) : Prop where
  encoder_eq : s.codec.encoder = encodeInteger
  decoder_eq : ∃ expected value,
    s.codec.decoder = decodeInteger expected (-2 ^ (width - 1)) (2 ^ (width - 1) - 1) value ∧
      ∀ n, FitsWidth width n → (value n).valueType? = some s.valueType ∧ (value n).IsInteger n

variable {s : Serializer} {width : Nat} {v : Value} {d : DriverValue} {n : Int}

theorem storesIntegers_of_width (hs : s ∈ builtins .sqlite)
    (hwidth : s.valueType.integerWidth? = some width) : s.StoresIntegers width := by
  have hfound := builtin?_of_mem hs
  cases htype : s.valueType <;> rw [htype] at hwidth hfound <;> cases hwidth <;> cases hfound
  · refine ⟨rfl, _, _, rfl, fun n hn => ⟨rfl, ?_⟩⟩
    have hm := Value.IsInteger.int16 (.ofInt n)
    rwa [Int16.toInt_ofInt_of_le hn.1 hn.2] at hm
  · refine ⟨rfl, _, _, rfl, fun n hn => ⟨rfl, ?_⟩⟩
    have hm := Value.IsInteger.int32 (.ofInt n)
    rwa [Int32.toInt_ofInt_of_le hn.1 hn.2] at hm
  · refine ⟨rfl, _, _, rfl, fun n hn => ⟨rfl, ?_⟩⟩
    have hm := Value.IsInteger.int64 (.ofInt n)
    rwa [Int64.toInt_ofInt_of_le hn.1 hn.2] at hm

namespace StoresIntegers

variable (h : s.StoresIntegers width)

include h

theorem decode_eq_ok (hd : d.IsInteger n) (hn : FitsWidth width n) :
    ∃ v, s.decode d = .ok v ∧ v.valueType? = some s.valueType ∧ v.IsInteger n := by
  obtain ⟨expected, value, hdecoder, hvalue⟩ := h.decoder_eq
  refine ⟨value n, ?_, hvalue n hn⟩
  have hnull : d ≠ .null := by
    rintro rfl
    cases hd
  rw [decode, Decoder.run_of_ne hnull, hdecoder]
  exact decodeInteger_eq_ok hd hn.1 (Int.le_sub_one_of_lt hn.2)

theorem decode_eq_error (hnull : d ≠ .null) (hd : ∀ n, d.IsInteger n → ¬FitsWidth width n) :
    ∃ expected, s.decode d = .error (.cannotDecode d expected) := by
  obtain ⟨expected, value, hdecoder, -⟩ := h.decoder_eq
  refine ⟨expected, ?_⟩
  rw [decode, Decoder.run_of_ne hnull, hdecoder]
  apply decodeInteger_eq_error
  rintro n hn ⟨hlow, hhigh⟩
  exact hd n hn ⟨hlow, Int.lt_of_le_sub_one hhigh⟩

theorem encode_of_isInteger (hv : v.IsInteger n) :
    ∃ d, s.encode v = .ok d ∧ d.IsInteger n := by
  obtain ⟨m, hm, rfl⟩ := encodeInteger_of_isInteger hv
  have hnull : v ≠ .null := by
    rintro rfl
    cases hm
  refine ⟨.bigInt m, ?_, .bigInt m⟩
  rw [encode, Encoder.run_of_ne hnull, h.encoder_eq, hm]

private theorem keeps (hwidth : s.valueType.integerWidth? = some width)
    (hv : v.valueType? = some s.valueType) : s.Keeps v := by
  obtain ⟨n, hn, hfits⟩ := Value.exists_isInteger hv hwidth
  obtain ⟨d, hencode, hd⟩ := h.encode_of_isInteger hn
  obtain ⟨w, hdecode, hw, hwn⟩ := h.decode_eq_ok hd hfits
  rw [← hn.unique hwn (hv.trans hw.symm)] at hdecode
  exact ⟨d, hencode, hdecode⟩

end StoresIntegers

private theorem keeps_bool (hs : s ∈ builtins .sqlite) (htype : s.valueType = .bool)
    (hv : v.valueType? = some s.valueType) : s.Keeps v := by
  have hfound := builtin?_of_mem hs
  rw [htype] at hfound
  cases hfound
  cases v with
  | bool b => cases b <;> exact ⟨_, rfl, rfl⟩
  | _ => cases hv

/-- An integer column of SQLite reads an integer of any width if and only if it fits into the width
of the column, and as the same integer; it cannot decode any other driver value. The integers of its
own type, and the truth values of a column for them, are read back as they were written. -/
theorem integers_never_wrap :
    (∀ s ∈ builtins .sqlite, ∀ width, s.valueType.integerWidth? = some width →
      ∀ d : DriverValue, d ≠ .null →
        ((∃ v, s.decode d = .ok v) ↔ ∃ n, d.IsInteger n ∧ FitsWidth width n) ∧
        (∀ v, s.decode d = .ok v →
          v.valueType? = some s.valueType ∧ ∃ n, d.IsInteger n ∧ v.IsInteger n) ∧
        ((¬∃ n, d.IsInteger n ∧ FitsWidth width n) →
          ∃ expected, s.decode d = .error (.cannotDecode d expected))) ∧
    ∀ s ∈ builtins .sqlite,
      s.valueType = .bool ∨ (∃ width, s.valueType.integerWidth? = some width) →
        ∀ v : Value, v.valueType? = some s.valueType → s.Keeps v := by
  refine ⟨?_, ?_⟩
  · intro s hs width hwidth d hnull
    have h := storesIntegers_of_width hs hwidth
    by_cases hd : ∃ n, d.IsInteger n ∧ FitsWidth width n
    · obtain ⟨n, hn, hfits⟩ := hd
      obtain ⟨v, hdecode, hv⟩ := h.decode_eq_ok hn hfits
      refine ⟨iff_of_true ⟨v, hdecode⟩ ⟨n, hn, hfits⟩, ?_, fun hnot => absurd ⟨n, hn, hfits⟩ hnot⟩
      intro w hw
      rw [hdecode] at hw
      cases hw
      exact ⟨hv.1, n, hn, hv.2⟩
    · obtain ⟨expected, hdecode⟩ := h.decode_eq_error hnull fun n hn hfits => hd ⟨n, hn, hfits⟩
      refine ⟨iff_of_false ?_ hd, ?_, fun _ => ⟨expected, hdecode⟩⟩
      · rintro ⟨v, hv⟩
        rw [hdecode] at hv
        cases hv
      · intro v hv
        rw [hdecode] at hv
        cases hv
  · rintro s hs (htype | ⟨width, hwidth⟩) v hv
    · exact keeps_bool hs htype hv
    · exact (storesIntegers_of_width hs hwidth).keeps hwidth hv

/-- The least integer of 16 bits is read from any width, the one below it from none. -/
theorem integers_never_wrap_of_smallint :
    let s : Serializer := ⟨.int16, .sqlite, "SMALLINT", .smallInt, Codec.Sqlite.int16⟩
    s ∈ builtins .sqlite ∧ s.valueType.integerWidth? = some 16 ∧
      (∃ v, s.decode (.integer (-32768)) = .ok v ∧ v.IsInteger (-32768)) ∧
      (∃ expected, s.decode (.bigInt (-32769)) =
        .error (.cannotDecode (.bigInt (-32769)) expected)) ∧
      s.Keeps (.int16 (-32768)) ∧ s.Keeps (.int16 32767) := by
  intro s
  have hs : s ∈ builtins .sqlite := by simp [s, builtins, sqlite]
  have hinteger := integers_never_wrap.1 s hs 16 rfl
  have hkeeps := integers_never_wrap.2 s hs (.inr ⟨16, rfl⟩)
  refine ⟨hs, rfl, ?_, ?_, hkeeps _ rfl, hkeeps _ rfl⟩
  · obtain ⟨hread, hsame, -⟩ := hinteger (.integer (-32768)) (by simp)
    obtain ⟨v, hv⟩ := hread.mpr ⟨-32768, .integer (-32768), by decide, by decide⟩
    obtain ⟨-, n, hd, hn⟩ := hsame v hv
    cases hd
    exact ⟨v, hv, hn⟩
  · apply (hinteger (.bigInt (-32769)) (by simp)).2.2
    rintro ⟨n, hd, hlow, -⟩
    cases hd
    exact absurd hlow (by decide)

end Serializer

end RecordTables
