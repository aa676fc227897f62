import RecordTables.Proofs.Serializer.Rereading
import RecordTables.Proofs.Uuid.Spelling

/-!
# Texts of dates and identifiers

SQLite keeps dates and identifiers as texts. The text of a date is read back in whatever year it is,
and no text is read as a day that the calendar lacks. The text of an identifier is also read in
letters of the other case and without its hyphens.
-/

namespace RecordTables.Serializer

open Calendar Codec.Sqlite Text

/-- Every date that SQLite stores comes back, be its year negative or longer than four digits. A
text that spells a year, a month and a day is read as the date that they are, or refused if the
calendar has no such day. Nothing else is read as a date, so that each date that is read is found
again by counting days. -/
theorem dates_come_back_and_exist :
    ∀ s ∈ builtins .sqlite, s.valueType = .date →
      (∀ day : Date, s.Keeps (.date day)) ∧
      (∀ (text : String) (year : Int) (month day : Nat),
        Date.Spells text.toList year month day →
          (∀ h : IsDay year month day,
            s.decode (.text text) = .ok (.date ⟨year, month, day, h⟩)) ∧
          (¬IsDay year month day →
            s.decode (.text text) = .error (.cannotDecode (.text text) "Date"))) ∧
      ∀ d v, d ≠ .null → s.decode d = .ok v → ∃ (text : String) (day : Date),
        d = .text text ∧ v = .date day ∧ Date.Spells text.toList day.year day.month day.day ∧
          civil (dayNumber day.year day.month day.day) = (day.year, day.month, day.day) := by
  intro s hs htype
  obtain rfl : s = ⟨.date, .sqlite, "DATE", .date, date⟩ := eq_of_builtin? hs htype rfl
  refine ⟨keeps_date, ?_, ?_⟩
  · intro text year month day hspells
    constructor
    · intro h
      exact date_eq_ok (hspells.read.trans (dif_pos h))
    · intro h
      have hread : Date.read? text.toList = none := hspells.read.trans (dif_neg h)
      exact decodeText_eq_error (by rw [hread, Option.map_none])
  · intro d v hd h
    rw [decode, Decoder.run_of_ne hd] at h
    obtain ⟨text, day, rfl, rfl, hread⟩ := exists_date_of_decoder h
    exact ⟨text, day, rfl, rfl, Date.spells_of_read hread,
      civil_dayNumber day.is_day.2.2.1 day.is_day.2.2.2⟩

/-- Year -4 and year 10000 are leap years, but year 1900 is none. -/
theorem dates_come_back_and_exist_in_february :
    let s : Serializer := ⟨.date, .sqlite, "DATE", .date, date⟩
    s ∈ builtins .sqlite ∧ s.valueType = .date ∧
      s.Keeps (.date ⟨-4, 2, 29, by decide⟩) ∧
      Date.Spells "+10000-02-29".toList 10000 2 29 ∧
      s.decode (.text "+10000-02-29") = .ok (.date ⟨10000, 2, 29, by decide⟩) ∧
      Date.Spells "1900-02-29".toList 1900 2 29 ∧ ¬IsDay 1900 2 29 ∧
      s.decode (.text "1900-02-29") = .error (.cannotDecode (.text "1900-02-29") "Date") ∧
      civil (dayNumber 10000 2 29) = (10000, 2, 29) := by
  intro s
  have hs : s ∈ builtins .sqlite := by simp [s, builtins, sqlite]
  have hleap : Date.Spells "+10000-02-29".toList 10000 2 29 := by
    rw [show "+10000-02-29".toList = Date.partsChars 10000 2 29 by decide]
    exact Date.spells_partsChars 10000 (by decide) (by decide)
  have hplain : Date.Spells "1900-02-29".toList 1900 2 29 := by
    rw [show "1900-02-29".toList = Date.partsChars 1900 2 29 by decide]
    exact Date.spells_partsChars 1900 (by decide) (by decide)
  obtain ⟨hkeeps, hread, hexists⟩ := dates_come_back_and_exist s hs rfl
  have hdecode := (hread _ _ _ _ hleap).1 (by decide)
  obtain ⟨_, day, _, hday, _, hcounted⟩ := hexists _ _ (by simp) hdecode
  cases hday
  exact ⟨hs, rfl, hkeeps _, hleap, hdecode, hplain, by decide,
    (hread _ _ _ _ hplain).2 (by decide), hcounted⟩

/-- An identifier that SQLite stores becomes a text of 36 characters, which are five groups of
lower-case digits that write the number of the identifier, with hyphens between the groups. The text
comes back as the identifier, in letters of the other case and without the hyphens too, and so do
the sixteen octets. Different identifiers become different texts. -/
theorem identifiers_come_back_in_every_spelling :
    ∀ s ∈ builtins .sqlite, s.valueType = .uuid → ∀ u : Uuid,
      (∃ text : String, s.encode (.uuid u) = .ok (.text text) ∧ text.length = 36 ∧
        Uuid.IsHyphenated text.toList ∧
        ofHexDigits? (text.toList.filter (· ≠ '-')) = some u.number ∧
        s.decode (.text text) = .ok (.uuid u) ∧
        ∀ other : String, other.toList.map Char.toLower = text.toList →
          s.decode (.text other) = .ok (.uuid u) ∧
          s.decode (.text (String.ofList (other.toList.filter (· ≠ '-')))) = .ok (.uuid u)) ∧
      s.decode (.blob u.octets) = .ok (.uuid u) ∧
      ∀ v : Uuid, s.encode (.uuid v) = s.encode (.uuid u) → v = u := by
  intro s hs htype u
  obtain rfl : s = ⟨.uuid, .sqlite, "CHAR(36)", .uuid, uuid⟩ := eq_of_builtin? hs htype rfl
  have hchars : u.text.toList = u.chars := String.toList_ofList
  refine ⟨⟨u.text, rfl, ?_, ?_, ?_, ?_, ?_⟩, uuid_octets_eq_ok u, ?_⟩
  · rw [← String.length_toList, hchars, u.length_chars]
  · rw [hchars]
    exact u.isHyphenated_chars
  · rw [hchars, u.filter_chars]
    exact ofHexDigits?_hexBytes u.octets
  · exact uuid_eq_ok (by rw [hchars, u.read?_chars])
  · intro other hother
    rw [hchars] at hother
    constructor
    · exact uuid_eq_ok (Uuid.read?_of_map_toLower hother)
    · refine uuid_eq_ok ?_
      rw [String.toList_ofList, Uuid.read?_filter_of_map_toLower hother]
  · intro v hencode
    exact Value.uuid.inj ((keeps_uuid v).eq_of_encode_eq (keeps_uuid u) hencode)

/-- No two octets of the identifier are alike. -/
theorem identifiers_come_back_in_every_spelling_of_mixed_case :
    let s : Serializer := ⟨.uuid, .sqlite, "CHAR(36)", .uuid, uuid⟩
    let u : Uuid := ⟨[0xf8, 0x1d, 0x4f, 0xae, 0x7d, 0xec, 0x11, 0xd0, 0xa7, 0x65, 0x00, 0xa0, 0xc9,
      0x1e, 0x6b, 0xf6], rfl⟩
    let text := "f81d4fae-7dec-11d0-a765-00a0c91e6bf6"
    let mixed := "F81D4Fae-7DEC-11d0-a765-00A0c91e6Bf6"
    s ∈ builtins .sqlite ∧ s.valueType = .uuid ∧ u.text = text ∧
      u.number = 0xf81d4fae7dec11d0a76500a0c91e6bf6 ∧
      s.encode (.uuid u) = .ok (.text text) ∧
      mixed.toList.map Char.toLower = text.toList ∧
      s.decode (.text mixed) = .ok (.uuid u) ∧
      s.decode (.text "F81D4Fae7DEC11d0a76500A0c91e6Bf6") = .ok (.uuid u) := by
  intro s u text mixed
  have hs : s ∈ builtins .sqlite := by simp [s, builtins, sqlite]
  have htext : u.text = text := by decide
  obtain ⟨⟨_, hencode, -, -, -, -, hother⟩, -⟩ :=
    identifiers_come_back_in_every_spelling s hs rfl u
  cases hencode
  rw [htext] at hother
  have hmixed : mixed.toList.map Char.toLower = text.toList := by decide
  obtain ⟨hread, hplain⟩ := hother mixed hmixed
  have hfilter : String.ofList (mixed.toList.filter (· ≠ '-')) =
      "F81D4Fae7DEC11d0a76500A0c91e6Bf6" := by decide
  rw [hfilter] at hplain
  refine ⟨hs, rfl, htext, by decide, ?_, hmixed, hread, hplain⟩
  rw [← htext]
  rfl

end RecordTables.Serializer
