import RecordTables.Config
import RecordTables.Proofs.Check

/-!
# URLs of databases

The dialect of a database is stated twice, by a field and by the scheme of its URL. A URL that is
made of the fields has a scheme of the dialect that they name. One that is given is passed on as it
is, and no check compares it with the field.
-/

namespace RecordTables

open Text

namespace Dialect

/-- The beginnings of URLs that stand for a dialect. -/
def schemes : Dialect → List String
  | .sqlite => ["sqlite:"]
  | .postgres => ["postgres://", "postgresql://"]

/-- The URL begins with a scheme of the dialect. -/
def HasScheme (dialect : Dialect) (url : String) : Prop :=
  ∃ scheme ∈ dialect.schemes, scheme.toList <+: url.toList

variable {dialect other : Dialect} {url : String}

private theorem hasScheme_sqlite : sqlite.HasScheme url ↔ "sqlite:".toList <+: url.toList := by
  simp only [HasScheme, schemes, List.mem_singleton, exists_eq_left]

private theorem hasScheme_postgres : postgres.HasScheme url ↔
    "postgres://".toList <+: url.toList ∨ "postgresql://".toList <+: url.toList := by
  simp only [HasScheme, schemes, List.mem_cons, List.not_mem_nil, or_false, exists_eq_or_imp,
    exists_eq_left]

private theorem head?_of_hasScheme (h : dialect.HasScheme url) :
    url.toList.head? = dialect.name.toList.head? := by
  obtain ⟨scheme, hscheme, rest, hrest⟩ := h
  have hletter : ∀ scheme ∈ dialect.schemes,
      scheme.toList.head? = dialect.name.toList.head? ∧ scheme.toList ≠ [] := by
    cases dialect <;> decide
  obtain ⟨hhead, hne⟩ := hletter scheme hscheme
  rw [← hrest, List.head?_append_of_ne_nil _ hne, hhead]

theorem HasScheme.unique (h : dialect.HasScheme url) (hother : other.HasScheme url) :
    dialect = other := by
  have hhead := (head?_of_hasScheme h).symm.trans (head?_of_hasScheme hother)
  revert hhead
  cases dialect <;> cases other <;> decide

end Dialect

namespace DatabaseConfig

variable {c opened : DatabaseConfig} {url : String} {dialect : Dialect}

private theorem schemeDialect?_cases (url : String) :
    (∃ dialect : Dialect, schemeDialect? url = some dialect ∧ dialect.HasScheme url) ∨
      schemeDialect? url = none ∧ ∀ dialect : Dialect, ¬dialect.HasScheme url := by
  simp only [schemeDialect?, List.isPrefixOf_iff_prefix]
  split
  · next hsqlite => exact .inl ⟨.sqlite, rfl, Dialect.hasScheme_sqlite.mpr hsqlite⟩
  · next hsqlite =>
    split
    · next hshort => exact .inl ⟨.postgres, rfl, Dialect.hasScheme_postgres.mpr (.inl hshort)⟩
    · next hshort =>
      split
      · next hlong => exact .inl ⟨.postgres, rfl, Dialect.hasScheme_postgres.mpr (.inr hlong)⟩
      · next hlong =>
        refine .inr ⟨rfl, ?_⟩
        intro dialect
        cases dialect with
        | sqlite => exact mt Dialect.hasScheme_sqlite.mp hsqlite
        | postgres => exact mt Dialect.hasScheme_postgres.mp (not_or.mpr ⟨hshort, hlong⟩)

private theorem schemeDialect?_eq_some_iff :
    schemeDialect? url = some dialect ↔ dialect.HasScheme url := by
  rcases schemeDialect?_cases url with ⟨found, hfound, hscheme⟩ | ⟨hnone, hscheme⟩
  · rw [hfound, Option.some_inj]
    constructor
    · rintro rfl
      exact hscheme
    · exact hscheme.unique
  · rw [hnone]
    exact iff_of_false nofun (hscheme dialect)

private theorem schemeDialect?_eq_none_iff :
    schemeDialect? url = none ↔ ∀ dialect : Dialect, ¬dialect.HasScheme url := by
  simp only [← schemeDialect?_eq_some_iff, Option.eq_none_iff_forall_ne_some, ne_eq]

theorem ofUrl_eq_ok_iff : ofUrl url = .ok opened ↔
    ∃ dialect : Dialect, dialect.HasScheme url ∧
      opened = { dialect, url := some url, database := "" } := by
  rw [ofUrl]
  simp only [← schemeDialect?_eq_some_iff]
  cases hfound : schemeDialect? url with
  | none => simp
  | some dialect => simp [eq_comm]

private theorem ofUrl_eq_error_iff {fault : ConfigFault} : ofUrl url = .error fault ↔
    (∀ dialect : Dialect, ¬dialect.HasScheme url) ∧ fault = .unsupportedScheme url := by
  rw [← schemeDialect?_eq_none_iff, ofUrl]
  cases hfound : schemeDialect? url with
  | none => simp [eq_comm]
  | some dialect => simp

private theorem connectionString_of_some (h : c.url = some url) : c.connectionString = url := by
  rw [connectionString, h]

theorem connectionString_of_sqlite (hurl : c.url = none) (hdialect : c.dialect = .sqlite) :
    c.connectionString =
      if c.database = memory then "sqlite::memory:" else "sqlite://" ++ c.database := by
  rw [connectionString, hurl, hdialect]

theorem connectionString_of_postgres (hurl : c.url = none) (hdialect : c.dialect = .postgres) :
    c.connectionString =
      "postgresql://" ++ c.username ++ ":" ++ c.password ++ "@" ++ c.host ++ ":" ++
        String.ofList (digits c.port.toNat) ++ "/" ++ c.database := by
  rw [connectionString, hurl, hdialect]

theorem hasScheme_connectionString (hurl : c.url = none) :
    c.dialect.HasScheme c.connectionString := by
  cases hdialect : c.dialect with
  | sqlite =>
    rw [Dialect.hasScheme_sqlite, connectionString_of_sqlite hurl hdialect]
    split
    · decide
    · rw [String.toList_append]
      exact List.prefix_append_of_prefix (by decide)
  | postgres =>
    rw [Dialect.hasScheme_postgres, connectionString_of_postgres hurl hdialect]
    right
    simp only [String.toList_append, List.append_assoc]
    exact List.prefix_append _ _

private theorem hasScheme_connectionString_iff :
    c.dialect.HasScheme c.connectionString ↔
      ∀ url, c.url = some url → c.dialect.HasScheme url := by
  cases hurl : c.url with
  | none => exact iff_of_true (hasScheme_connectionString hurl) nofun
  | some url => simp [connectionString_of_some hurl]

theorem exists_opened_iff :
    (∃ opened, ofUrl c.connectionString = .ok opened ∧ opened.dialect = dialect) ↔
      dialect.HasScheme c.connectionString := by
  simp only [ofUrl_eq_ok_iff]
  constructor
  · rintro ⟨_, ⟨dialect, hscheme, rfl⟩, rfl⟩
    exact hscheme
  · intro hscheme
    exact ⟨_, ⟨dialect, hscheme, rfl⟩, rfl⟩

private theorem validate_of_some (h : c.url = some url) : c.validate = c.validatePool := by
  rw [validate, h]
  rfl

theorem validate_of_none (h : c.url = none) :
    c.validate = .ok () ↔ c.validateLocation = .ok () ∧ c.validatePool = .ok () := by
  simp only [validate, h, Option.isNone_none, if_true]
  rw [Check.bind_eq_ok]
  constructor
  · rintro ⟨_, hlocation, hpool⟩
    exact ⟨hlocation, hpool⟩
  · rintro ⟨hlocation, hpool⟩
    exact ⟨(), hlocation, hpool⟩

private theorem validatePool_of_validate (h : c.validate = .ok ()) : c.validatePool = .ok () := by
  cases hurl : c.url with
  | some url => rwa [validate_of_some hurl] at h
  | none => exact ((validate_of_none hurl).mp h).2

/-- A configuration connects with a URL of its own dialect unless it gives a URL without a scheme of
that dialect. The URL is refused only if it has no known scheme at all, and any URL can be given to
a configuration that has passed its check. -/
theorem own_dialect_connects_but_for_given_urls (c : DatabaseConfig) :
    ((∃ opened, ofUrl c.connectionString = .ok opened ∧ opened.dialect = c.dialect) ↔
      ∀ url, c.url = some url → c.dialect.HasScheme url) ∧
    (∀ fault, ofUrl c.connectionString = .error fault ↔
      ∃ url, c.url = some url ∧ (∀ dialect : Dialect, ¬dialect.HasScheme url) ∧
        fault = .unsupportedScheme url) ∧
    ∀ url, c.validate = .ok () → { c with url := some url }.validate = .ok () := by
  refine ⟨exists_opened_iff.trans hasScheme_connectionString_iff, ?_, ?_⟩
  · intro fault
    rw [ofUrl_eq_error_iff]
    cases hurl : c.url with
    | none =>
      have hscheme := hasScheme_connectionString hurl
      refine iff_of_false ?_ ?_
      · rintro ⟨hnone, _⟩
        exact hnone c.dialect hscheme
      · rintro ⟨_, hsome, _⟩
        cases hsome
    | some url => simp [connectionString_of_some hurl]
  · intro url hvalid
    have hpool : c.validatePool = .ok () := validatePool_of_validate hvalid
    rw [validate_of_some rfl]
    exact hpool

/-- One has no known scheme, the other that of a server. -/
theorem given_urls_are_not_checked :
    let unknown : DatabaseConfig :=
      { dialect := .sqlite, url := some "mysql://localhost", database := "music.db" }
    let server : DatabaseConfig :=
      { dialect := .sqlite, url := some "postgres://u:p@db:5433/x", database := "music.db" }
    unknown.validate = .ok () ∧
      ofUrl unknown.connectionString = .error (.unsupportedScheme "mysql://localhost") ∧
      server.validate = .ok () ∧
      ∃ opened, ofUrl server.connectionString = .ok opened ∧ opened.dialect = .postgres :=
  ⟨rfl, rfl, rfl, _, rfl, rfl⟩

end DatabaseConfig

end RecordTables
