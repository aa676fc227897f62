import RecordTables.Serializer.Builtin

/-!
# What built-in serializers encode

The built-in serializer of a type encodes every value of the type, in either dialect. Whether the
value comes back is for each type to say; the absent value always does.
-/

namespace RecordTables

/-- What a property of a type can hold: a value of the type, or none. -/
def Value.Fits (v : Value) (type : ValueType) : Prop :=
  v = .null ∨ v.valueType? = some type

theorem Encoder.run_of_ne {encoder : Encoder} {v : Value} (h : v ≠ .null) :
    encoder.run v = encoder v := by
  cases v <;> first | rfl | exact absurd rfl h

theorem Decoder.run_of_ne {decoder : Decoder} {d : DriverValue} (h : d ≠ .null) :
    decoder.run d = decoder d := by
  cases d <;> first | rfl | exact absurd rfl h

namespace Serializer

/-- What a value is encoded to is decoded to that value. -/
def Keeps (s : Serializer) (v : Value) : Prop :=
  ∃ d, s.encode v = .ok d ∧ s.decode d = .ok v

variable {dialect : Dialect} {s : Serializer} {v : Value}

theorem dialect_of_builtin (hs : s ∈ builtins dialect) : s.dialect = dialect := by
  have hall : ∀ s ∈ builtins dialect, s.dialect = dialect := by cases dialect <;> decide
  exact hall s hs

theorem builtin?_of_mem (hs : s ∈ builtins dialect) : builtin? s.valueType dialect = some s := by
  have hall : ∀ s ∈ builtins dialect, builtin? s.valueType dialect = some s := by
    cases dialect <;>
      simp only [builtins, sqlite, postgres, List.forall_mem_cons, List.not_mem_nil, false_imp_iff,
        implies_true, and_true] <;>
      exact ⟨rfl, rfl, rfl, rfl, rfl, rfl, rfl, rfl, rfl, rfl, rfl, rfl, rfl⟩
  exact hall s hs

theorem eq_of_builtin? {type : ValueType} {found : Serializer} (hs : s ∈ builtins dialect)
    (htype : s.valueType = type) (h : builtin? type dialect = some found) : s = found := by
  rw [← htype, builtin?_of_mem hs] at h
  exact Option.some.inj h

theorem encode_null (s : Serializer) : s.encode .null = .ok .null := rfl

theorem keeps_null (s : Serializer) : s.Keeps .null :=
  ⟨.null, rfl, rfl⟩

theorem Keeps.eq_of_encode_eq {w : Value} (hv : s.Keeps v) (hw : s.Keeps w)
    (h : s.encode v = s.encode w) : v = w := by
  obtain ⟨d, hencode, hdecode⟩ := hv
  obtain ⟨e, hencode', hdecode'⟩ := hw
  rw [hencode, hencode'] at h
  cases h
  rw [hdecode] at hdecode'
  exact Except.ok.inj hdecode'

private theorem exists_encoder_eq_ok (hs : s ∈ builtins dialect)
    (hv : v.valueType? = some s.valueType) :
    ∃ d, s.codec.encoder v = .ok d := by
  have hfound := builtin?_of_mem hs
  generalize s.valueType = type at hv hfound
  cases v <;> cases hv <;> cases dialect <;> cases hfound <;> exact ⟨_, rfl⟩

theorem exists_encode_eq_ok (hs : s ∈ builtins dialect) (hv : v.Fits s.valueType) :
    ∃ d, s.encode v = .ok d := by
  by_cases hnull : v = .null
  · rw [hnull]
    exact ⟨.null, s.encode_null⟩
  · have htype : v.valueType? = some s.valueType := hv.resolve_left hnull
    rw [encode, Encoder.run_of_ne hnull]
    exact exists_encoder_eq_ok hs htype

end Serializer

end RecordTables
