import RecordTables.Proofs.Date.RoundTrip
import RecordTables.Proofs.Serializer.Encoding
import RecordTables.Proofs.Timestamp.Reading
import RecordTables.Proofs.Uuid.Reading

/-!
# Values stored again

SQLite keeps identifiers, moments and dates as texts, and reads more spellings than it writes. What
is read of any spelling is written in one that is read as the same value. The exception are moments
that a zone moves out of the years of four digits.
-/

namespace RecordTables

/-- Whether a value is a moment just outside the years of four digits. -/
def Value.IsJustOutside (v : Value) : Prop :=
  ∃ t, v = .timestamp t ∧ t.IsJustOutside

namespace Codec.Sqlite

variable {d : DriverValue} {v : Value}

private theorem exists_uuid_of_decoder (h : uuid.decoder d = .ok v) : ∃ u, v = .uuid u := by
  simp only [uuid] at h
  split at h
  · next u _ => exact ⟨u, (Except.ok.inj h).symm⟩
  · cases h

private theorem exists_text_of_decodeText {expected : String} {read? : String → Option Value}
    (h : decodeText expected read? d = .ok v) : ∃ s, d = .text s ∧ read? s = some v := by
  cases d with
  | text s =>
    simp only [decodeText] at h
    split at h
    · next hread =>
      cases h
      exact ⟨s, rfl, hread⟩
    · cases h
  | _ => cases h

private theorem timestamp_eq_ok {s : String} {t : Timestamp}
    (h : Timestamp.read? s.toList = some t) :
    timestamp.decoder.run (.text s) = .ok (.timestamp t) :=
  decodeText_eq_ok (by rw [h, Option.map_some])

theorem date_eq_ok {s : String} {day : Date} (h : Date.read? s.toList = some day) :
    date.decoder.run (.text s) = .ok (.date day) :=
  decodeText_eq_ok (by rw [h, Option.map_some])

theorem exists_date_of_decoder (h : date.decoder d = .ok v) :
    ∃ s day, d = .text s ∧ v = .date day ∧ Date.read? s.toList = some day := by
  obtain ⟨s, rfl, hvalue⟩ := exists_text_of_decodeText h
  obtain ⟨day, hread, rfl⟩ := Option.map_eq_some_iff.mp hvalue
  exact ⟨s, day, rfl, rfl, hread⟩

theorem uuid_eq_ok {s : String} {u : Uuid} (h : Uuid.read? s.toList = some u) :
    uuid.decoder.run (.text s) = .ok (.uuid u) := by
  rw [Decoder.run_of_ne (by simp)]
  simp only [uuid, h]

theorem uuid_octets_eq_ok (u : Uuid) : uuid.decoder.run (.blob u.octets) = .ok (.uuid u) := by
  rw [Decoder.run_of_ne (by simp)]
  simp only [uuid, u.ofOctets?_octets]

end Codec.Sqlite

namespace Serializer

open Codec.Sqlite

variable {s : Serializer} {v : Value} {d : DriverValue}

/-- What becomes of a value that is stored again. -/
def StoresAgain (s : Serializer) (v : Value) : Prop :=
  ∃ e, s.encode v = .ok e ∧ (¬v.IsJustOutside → s.decode e = .ok v) ∧
    (v.IsJustOutside → s.decode e = .error (.cannotDecode e "Timestamp"))

private theorem Keeps.storesAgain (h : s.Keeps v) (htype : v.valueType? ≠ some .timestamp) :
    s.StoresAgain v := by
  obtain ⟨e, hencode, hdecode⟩ := h
  refine ⟨e, hencode, fun _ => hdecode, ?_⟩
  rintro ⟨t, rfl, -⟩
  exact absurd rfl htype

section

variable {dbType : String} {wireType : WireType}

theorem keeps_uuid (u : Uuid) : Keeps ⟨.uuid, .sqlite, dbType, wireType, uuid⟩ (.uuid u) := by
  have hread : Uuid.read? u.text.toList = some u := by
    rw [Uuid.text, String.toList_ofList, Uuid.read?_chars]
  exact ⟨.text u.text, rfl, uuid_eq_ok hread⟩

theorem keeps_date (day : Date) : Keeps ⟨.date, .sqlite, dbType, wireType, date⟩ (.date day) := by
  have hread : Date.read? day.text.toList = some day := by
    rw [Date.text, String.toList_ofList, Date.read?_chars]
  exact ⟨.text day.text, rfl, date_eq_ok hread⟩

private theorem storesAgain_uuid (h : uuid.decoder d = .ok v) :
    StoresAgain ⟨.uuid, .sqlite, dbType, wireType, uuid⟩ v := by
  obtain ⟨u, rfl⟩ := exists_uuid_of_decoder h
  exact (keeps_uuid u).storesAgain (by simp [Value.valueType?])

private theorem storesAgain_date (h : date.decoder d = .ok v) :
    StoresAgain ⟨.date, .sqlite, dbType, wireType, date⟩ v := by
  obtain ⟨-, day, -, rfl, -⟩ := exists_date_of_decoder h
  exact (keeps_date day).storesAgain (by simp [Value.valueType?])

private theorem storesAgain_timestamp (h : timestamp.decoder d = .ok v) :
    StoresAgain ⟨.timestamp, .sqlite, dbType, wireType, timestamp⟩ v := by
  obtain ⟨s, -, hvalue⟩ := exists_text_of_decodeText h
  obtain ⟨t, hread, rfl⟩ := Option.map_eq_some_iff.mp hvalue
  -- Whether the moment can be read again depends on the year of its date alone.
  obtain ⟨day, hday⟩ := t.exists_day
  have hdate := (hday day).mpr rfl
  have houtside : (Value.timestamp t).IsJustOutside ↔ ¬(0 ≤ day.year ∧ day.year ≤ 9999) := by
    simp [Value.IsJustOutside, Timestamp.isJustOutside_iff hread hdate]
  refine ⟨.text t.text, rfl, ?_, ?_⟩
  · intro hin
    rw [houtside, not_not] at hin
    apply timestamp_eq_ok
    rw [Timestamp.text, String.toList_ofList, Timestamp.read?_chars hdate hin]
  · intro hout
    rw [houtside] at hout
    apply decodeText_eq_error
    rw [Timestamp.text, String.toList_ofList, Timestamp.read?_chars_eq_none hdate hout,
      Option.map_none]

end

private theorem keeps_of_fits (hs : s ∈ builtins .sqlite) (htype : s.valueType ∈ [.uuid, .date])
    (hv : v.Fits s.valueType) : s.Keeps v := by
  by_cases hnull : v = .null
  · rw [hnull]
    exact s.keeps_null
  · have hvalue : v.valueType? = some s.valueType := hv.resolve_left hnull
    have hfound := builtin?_of_mem hs
    simp only [List.mem_cons, List.not_mem_nil, or_false] at htype
    rcases htype with htype | htype <;> rw [htype] at hfound <;> cases hfound <;> cases v <;>
      cases hvalue
    · exact keeps_uuid _
    · exact keeps_date _

/-- An identifier, a moment or a date that SQLite has read, in whatever spelling, is stored again.
It is read back as the same value unless it is a moment on the last day before year 0 or on the
first day after year 9999. Of such a moment a text is written that cannot be decoded. Identifiers
and dates that have not been read come back as well. -/
theorem decoded_values_are_stored_again :
    ∀ s ∈ builtins .sqlite, s.valueType ∈ [.uuid, .timestamp, .date] →
      (∀ d v, s.decode d = .ok v →
        ∃ e, s.encode v = .ok e ∧ (¬v.IsJustOutside → s.decode e = .ok v) ∧
          (v.IsJustOutside → s.decode e = .error (.cannotDecode e "Timestamp"))) ∧
      (s.valueType ∈ [.uuid, .date] → ∀ v : Value, v.Fits s.valueType → s.Keeps v) := by
  intro s hs htype
  refine ⟨?_, fun hkept v hv => keeps_of_fits hs hkept hv⟩
  intro d v h
  by_cases hd : d = .null
  · subst hd
    cases h
    exact s.keeps_null.storesAgain (by simp [Value.valueType?])
  · rw [decode, Decoder.run_of_ne hd] at h
    have hfound := builtin?_of_mem hs
    simp only [List.mem_cons, List.not_mem_nil, or_false] at htype
    rcases htype with htype | htype | htype <;> rw [htype] at hfound <;> cases hfound
    · exact storesAgain_uuid h
    · exact storesAgain_timestamp h
    · exact storesAgain_date h

/-- A leap second of New York is a leap second of universal time. -/
theorem decoded_values_are_stored_again_of_leap_second :
    let s : Serializer := ⟨.timestamp, .sqlite, "TEXT", .timestamp, timestamp⟩
    let t : Timestamp := ⟨1483228799, 1000000000, by decide⟩
    s ∈ builtins .sqlite ∧ s.valueType ∈ [.uuid, .timestamp, .date] ∧
      s.decode (.text "2016-12-31t18:59:60-05:00") = .ok (.timestamp t) ∧
      ∃ e, s.encode (.timestamp t) = .ok e ∧ s.decode e = .ok (.timestamp t) := by
  intro s t
  have hs : s ∈ builtins .sqlite := by simp [s, builtins, sqlite]
  have htype : s.valueType ∈ [.uuid, .timestamp, .date] := by simp [s]
  have hdecode : s.decode (.text "2016-12-31t18:59:60-05:00") = .ok (.timestamp t) :=
    timestamp_eq_ok (by decide +kernel)
  have hinside : ¬(Value.timestamp t).IsJustOutside := by
    rintro ⟨_, heq, hout⟩
    cases heq
    exact absurd hout (by unfold Timestamp.IsJustOutside; decide)
  obtain ⟨e, hencode, hagain, -⟩ := (decoded_values_are_stored_again s hs htype).1 _ _ hdecode
  exact ⟨hs, htype, hdecode, e, hencode, hagain hinside⟩

/-- Half past eleven in the evening of the last day of year 9999, one hour behind universal time, is
read, but then stored as a text that is not. -/
theorem moment_past_last_year_is_not_stored_again :
    let s : Serializer := ⟨.timestamp, .sqlite, "TEXT", .timestamp, timestamp⟩
    let t : Timestamp := ⟨253402302600, 0, by decide⟩
    s ∈ builtins .sqlite ∧
      s.decode (.text "9999-12-31T23:30:00-01:00") = .ok (.timestamp t) ∧
      s.encode (.timestamp t) = .ok (.text "+10000-01-01T00:30:00Z") ∧
      s.decode (.text "+10000-01-01T00:30:00Z") =
        .error (.cannotDecode (.text "+10000-01-01T00:30:00Z") "Timestamp") := by
  intro s t
  have hs : s ∈ builtins .sqlite := by simp [s, builtins, sqlite]
  have htext : t.text = "+10000-01-01T00:30:00Z" := by decide +kernel
  refine ⟨hs, timestamp_eq_ok (by decide +kernel), ?_, decodeText_eq_error (by decide +kernel)⟩
  rw [← htext]
  rfl

end Serializer

end RecordTables
