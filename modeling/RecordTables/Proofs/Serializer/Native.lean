import RecordTables.Proofs.Serializer.Encoding

/-!
# Native driver values

A codec that carries one kind of value as one kind of driver value undoes with its decoder just what
it does with its encoder. All codecs of PostgreSQL are of this form, the one for characters too,
whose decoder takes only some of the texts.
-/

namespace RecordTables

namespace Codec

/-- The codec takes the values `value a`, and carries each of them as `driver a`. -/
structure Carries {α : Type} (c : Codec) (value : α → Value) (driver : α → DriverValue) :
    Prop where
  encoder_iff : ∀ v d, c.encoder v = .ok d ↔ ∃ a, v = value a ∧ d = driver a
  decoder_iff : ∀ v d, c.decoder d = .ok v ↔ ∃ a, v = value a ∧ d = driver a
  value_ne_null : ∀ a, value a ≠ .null
  driver_ne_null : ∀ a, driver a ≠ .null

section Carries

variable {α : Type} {c : Codec} {value : α → Value} {driver : α → DriverValue} {v : Value}
  {d : DriverValue}

private theorem Carries.encode_iff (h : c.Carries value driver) :
    c.encoder.run v = .ok d ↔ v = .null ∧ d = .null ∨ ∃ a, v = value a ∧ d = driver a := by
  by_cases hv : v = .null
  · subst hv
    have hnone : ∀ a, .null ≠ value a := fun a => (h.value_ne_null a).symm
    simp [Encoder.run, Value.isNull, hnone, eq_comm]
  · rw [Encoder.run_of_ne hv, h.encoder_iff]
    simp [hv]

private theorem Carries.decode_iff (h : c.Carries value driver) :
    c.decoder.run d = .ok v ↔ v = .null ∧ d = .null ∨ ∃ a, v = value a ∧ d = driver a := by
  by_cases hd : d = .null
  · subst hd
    have hnone : ∀ a, .null ≠ driver a := fun a => (h.driver_ne_null a).symm
    simp [Decoder.run, DriverValue.isNull, hnone, eq_comm]
  · rw [Decoder.run_of_ne hd, h.decoder_iff]
    simp [hd]

end Carries

namespace Postgres

private theorem native_carries {α : Type} {expected : String} {value : α → Value}
    {value? : Value → Option α} {driver : α → DriverValue} {driver? : DriverValue → Option α}
    (hvalue : ∀ v a, value? v = some a ↔ v = value a)
    (hdriver : ∀ d a, driver? d = some a ↔ d = driver a)
    (hnull : ∀ a, value a ≠ .null ∧ driver a ≠ .null) :
    (native expected value value? driver driver?).Carries value driver where
  encoder_iff v d := by
    simp only [native, ← hvalue]
    cases value? v <;> simp [eq_comm]
  decoder_iff v d := by
    simp only [native, ← hdriver]
    cases driver? d <;> simp [eq_comm]
  value_ne_null a := (hnull a).1
  driver_ne_null a := (hnull a).2

end Postgres

private theorem char_carries : char.Carries .char (fun c => .text (String.singleton c)) where
  encoder_iff v d := by cases v <;> simp [char, eq_comm]
  decoder_iff v d := by
    cases d with
    | text s =>
      simp only [char, DriverValue.text.injEq, ← String.toList_inj, String.toList_singleton]
      cases s.toList with
      | nil => simp
      | cons c s => cases s <;> simp [eq_comm]
    | _ => simp [char]
  value_ne_null _ := by simp
  driver_ne_null _ := by simp

private theorem text_carries : text.Carries .text .text where
  encoder_iff v d := by cases v <;> simp [text, eq_comm]
  decoder_iff v d := by cases d <;> simp [text, eq_comm]
  value_ne_null _ := by simp
  driver_ne_null _ := by simp

private theorem bytes_carries : bytes.Carries .bytes .blob where
  encoder_iff v d := by cases v <;> simp [bytes, eq_comm]
  decoder_iff v d := by cases d <;> simp [bytes, eq_comm]
  value_ne_null _ := by simp
  driver_ne_null _ := by simp

end Codec

namespace Serializer

open Codec Codec.Postgres

/-- The codec of the serializer carries the values of its type and no others. -/
def CarriesType (s : Serializer) : Prop :=
  ∃ (α : Type) (value : α → Value) (driver : α → DriverValue), s.codec.Carries value driver ∧
    ∀ v : Value, v.valueType? = some s.valueType ↔ ∃ a, v = value a

private theorem carriesType_native {α : Type} {type : ValueType} {dialect : Dialect}
    {wireType : WireType}
    {dbType expected : String} {value : α → Value} {value? : Value → Option α}
    {driver : α → DriverValue} {driver? : DriverValue → Option α}
    (hvalue : ∀ v a, value? v = some a ↔ v = value a)
    (hdriver : ∀ d a, driver? d = some a ↔ d = driver a)
    (hnull : ∀ a, value a ≠ .null ∧ driver a ≠ .null)
    (htype : ∀ v : Value, v.valueType? = some type ↔ ∃ a, v = value a) :
    CarriesType ⟨type, dialect, dbType, wireType, native expected value value? driver driver?⟩ :=
  ⟨α, value, driver, native_carries hvalue hdriver hnull, htype⟩

private theorem carriesType_postgres : ∀ s ∈ postgres, s.CarriesType := by
  simp only [postgres, List.forall_mem_cons, List.not_mem_nil, false_imp_iff, implies_true,
    and_true]
  refine ⟨?_, ?_, ?_, ?_, ?_, ?_, ⟨_, _, _, char_carries, ?char⟩, ⟨_, _, _, text_carries, ?text⟩,
    ⟨_, _, _, bytes_carries, ?bytes⟩, ?_, ?_, ?_, ?_⟩
  case char | text | bytes =>
    intro v
    cases v <;> simp [Value.valueType?]
  all_goals
    apply carriesType_native
    · intro v a
      cases v <;> simp
    · intro d a
      cases d <;> simp
    · simp
    · intro v
      cases v <;> simp [Value.valueType?]

variable {s : Serializer} {v : Value} {d : DriverValue}

private theorem CarriesType.encode_iff_decode (h : s.CarriesType) :
    s.encode v = .ok d ↔ s.decode d = .ok v := by
  obtain ⟨α, value, driver, hcarries, -⟩ := h
  rw [encode, decode, hcarries.encode_iff, hcarries.decode_iff]

private theorem CarriesType.exists_encode_iff (h : s.CarriesType) :
    (∃ d, s.encode v = .ok d) ↔ v.Fits s.valueType := by
  obtain ⟨α, value, driver, hcarries, htype⟩ := h
  simp only [encode, hcarries.encode_iff, Value.Fits, htype]
  constructor
  · rintro ⟨d, ⟨hnull, -⟩ | ⟨a, ha, -⟩⟩
    · exact .inl hnull
    · exact .inr ⟨a, ha⟩
  · rintro (hnull | ⟨a, ha⟩)
    · exact ⟨.null, .inl ⟨hnull, rfl⟩⟩
    · exact ⟨driver a, .inr ⟨a, ha, rfl⟩⟩

/-- A serializer of PostgreSQL encodes the values of its type and the absent one, and no others. A
value is encoded to a driver value if and only if this is decoded to that value, so no two values
have the same encoding. -/
theorem native_codecs_undo_each_other :
    ∀ s ∈ builtins .postgres,
      (∀ v d, s.encode v = .ok d ↔ s.decode d = .ok v) ∧
      (∀ v, (∃ d, s.encode v = .ok d) ↔ v.Fits s.valueType) ∧
      ∀ v w d, s.encode v = .ok d → s.encode w = .ok d → v = w := by
  intro s hs
  have hcarries := carriesType_postgres s hs
  refine ⟨fun v d => hcarries.encode_iff_decode, fun v => hcarries.exists_encode_iff, ?_⟩
  intro v w d hv hw
  rw [hcarries.encode_iff_decode] at hv hw
  exact Except.ok.inj (hv.symm.trans hw)

/-- One character is a text, but not every text is a character. -/
theorem native_codecs_undo_each_other_of_char :
    let s : Serializer := ⟨.char, .postgres, "VARCHAR(1)", .char, Codec.char⟩
    s ∈ builtins .postgres ∧ s.decode (.text "ž") = .ok (.char 'ž') ∧
      (∀ v, s.encode v = .ok (.text "ž") → v = .char 'ž') ∧
      ∀ v, s.encode v ≠ .ok (.text "žž") := by
  intro s
  have hs : s ∈ builtins .postgres := by simp [s, builtins, postgres]
  obtain ⟨hundo, -, hinj⟩ := native_codecs_undo_each_other s hs
  have hencode : s.encode (.char 'ž') = .ok (.text "ž") := rfl
  refine ⟨hs, (hundo _ _).mp hencode, fun v hv => hinj v _ _ hv hencode, ?_⟩
  intro v hv
  have hrefused : s.decode (.text "žž") = .error (.cannotDecode (.text "žž") "Char") := rfl
  rw [hundo, hrefused] at hv
  cases hv

end Serializer

end RecordTables
