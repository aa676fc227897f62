import RecordTables.Proofs.Schema.Linking
import RecordTables.Session

/-!
# Registering schemas

A session takes a schema whose name is free and whose serializers are all of the dialect of the
database. Whatever schemas are offered, it holds those that it took in the order of the calls; their
names are distinct, and nothing in them has a serializer of another dialect.
-/

namespace RecordTables

open Rule

private theorem Dialect.eq_of_ne {dialect a b : Dialect} (ha : a ≠ dialect) (hb : b ≠ dialect) :
    a = b := by
  cases dialect <;> cases a <;> cases b <;> grind

namespace Schema

/-- Every column and every argument has a serializer of the dialect. -/
structure Fits (s : Schema) (dialect : Dialect) : Prop where
  columns : ∀ t ∈ s.tables, ∀ c ∈ t.columns, c.serializer.dialect = dialect
  args : ∀ p ∈ s.procedures, ∀ a ∈ p.args, a.serializer.dialect = dialect

variable {s : Schema} {dialect other : Dialect}

private theorem fits_iff : s.Fits dialect ↔ ∀ used ∈ s.usedDialects, used = dialect := by
  rw [usedDialects, List.forall_mem_append, List.forall_mem_map, List.forall_mem_map,
    List.forall_mem_flatMap, List.forall_mem_flatMap]
  exact ⟨fun h => ⟨h.columns, h.args⟩, fun ⟨hcolumns, hargs⟩ => ⟨hcolumns, hargs⟩⟩

private theorem otherDialect?_eq_none_iff : s.otherDialect? dialect = none ↔ s.Fits dialect := by
  rw [fits_iff, otherDialect?, List.find?_eq_none]
  simp

instance (s : Schema) (dialect : Dialect) : Decidable (s.Fits dialect) :=
  decidable_of_iff (s.otherDialect? dialect = none) otherDialect?_eq_none_iff

private theorem otherDialect?_eq_some (h : s.otherDialect? dialect = some other) :
    other ≠ dialect ∧ ¬s.Fits dialect := by
  have hother : other ≠ dialect := by simpa using List.find?_some h
  refine ⟨hother, ?_⟩
  intro hfits
  exact hother (fits_iff.mp hfits other (List.mem_of_find?_eq_some h))

end Schema

namespace Session

variable {s : Session}

/-- What a session asks of a schema: first a free name, then serializers of its dialect. -/
def registerRules (s : Session) (schema : Schema) : List (Rule SessionError) :=
  [.of (schema.name ∉ s.schemaNames) (.schemaTaken schema.name),
    ⟨schema.Fits s.dialect, fun e => ∃ other, other ≠ s.dialect ∧
      e = .dialectMismatch other s.dialect⟩]

private theorem registerRules_hold_iff {schema : Schema} :
    (∀ rule ∈ s.registerRules schema, rule.holds) ↔
      schema.name ∉ s.schemaNames ∧ schema.Fits s.dialect := by
  simp [registerRules, Rule.of]

private theorem firstBroken_registerRules {schema : Schema} {e : SessionError} :
    FirstBroken (s.registerRules schema) e ↔
      schema.name ∈ s.schemaNames ∧ e = .schemaTaken schema.name ∨
        schema.name ∉ s.schemaNames ∧ ¬schema.Fits s.dialect ∧
          ∃ other, other ≠ s.dialect ∧ e = .dialectMismatch other s.dialect := by
  simp [registerRules, Rule.of, firstBroken_cons, not_firstBroken_nil]

private theorem register_follows (s : Session) (schema : Schema) :
    Follows (s.register schema) (s.registerRules schema) := by
  rw [register]
  by_cases htaken : schema.name ∈ s.schemaNames
  · rw [if_pos htaken]
    exact .broken (not_not.mpr htaken)
  · rw [if_neg htaken]
    apply Follows.held htaken
    cases h : schema.otherDialect? s.dialect with
    | none => exact .held (Schema.otherDialect?_eq_none_iff.mp h) (.nil _)
    | some other =>
      obtain ⟨hother, hbroken⟩ := Schema.otherDialect?_eq_some h
      apply Follows.reported hbroken
      intro e
      constructor
      · intro he
        obtain ⟨another, hanother, he⟩ := he
        rw [he, Dialect.eq_of_ne hanother hother]
      · intro he
        exact ⟨other, hother, he⟩

private theorem register_eq_ok {schema : Schema} {next : Session}
    (h : s.register schema = .ok next) :
    next = { s with schemas := s.schemas ++ [schema] } := by
  rw [register] at h
  split at h
  · cases h
  · split at h
    · cases h
    · exact (Except.ok.inj h).symm

/-- Registers a schema in place, after a look at its name and then at its serializers. -/
def registerInPlace (schema : Schema) : EStateM SessionError Session Unit := do
  let s ← get
  if schema.name ∈ s.schemaNames then throw (.schemaTaken schema.name)
  match schema.otherDialect? s.dialect with
  | some other => throw (.dialectMismatch other s.dialect)
  | none => modify fun s => { s with schemas := s.schemas ++ [schema] }

/-- What a call to register a schema answers, and the session that it leaves. -/
def attempt (s : Session) (schema : Schema) : Except SessionError Unit × Session :=
  match (registerInPlace schema).run s with
  | .ok _ next => (.ok (), next)
  | .error e next => (.error e, next)

def attempts (s : Session) : List Schema → List (Except SessionError Unit) × Session
  | [] => ([], s)
  | schema :: rest =>
    let first := s.attempt schema
    let later := first.2.attempts rest
    (first.1 :: later.1, later.2)

/-- The schemas of the calls that were not refused. -/
def accepted (calls : List Schema) (answers : List (Except SessionError Unit)) : List Schema :=
  (calls.zip answers).filterMap fun (call, answer) => answer.toOption.map fun _ => call

theorem run_registerInPlace (s : Session) (schema : Schema) :
    (registerInPlace schema).run s = outcome s (s.register schema) := by
  by_cases htaken : schema.name ∈ s.schemaNames
  · simp [registerInPlace, register, outcome, htaken]
  · cases h : schema.otherDialect? s.dialect <;>
      simp [registerInPlace, register, outcome, htaken, h]

theorem attempt_eq (s : Session) (schema : Schema) : s.attempt schema =
    match s.register schema with
    | .ok next => (.ok (), next)
    | .error e => (.error e, s) := by
  rw [attempt, run_registerInPlace]
  cases s.register schema <;> rfl

private theorem attempt_follows (s : Session) (schema : Schema) :
    Follows (s.attempt schema).1 (s.registerRules schema) := by
  have hanswer : (s.attempt schema).1 = s.register schema >>= fun _ => .ok () := by
    rw [attempt_eq]
    cases s.register schema <;> rfl
  rw [hanswer]
  exact (s.register_follows schema).bind_ok

theorem attempt_cases (s : Session) (schema : Schema) :
    (schema.name ∉ s.schemaNames ∧ schema.Fits s.dialect ∧
      s.attempt schema = (.ok (), { s with schemas := s.schemas ++ [schema] })) ∨
    ¬(schema.name ∉ s.schemaNames ∧ schema.Fits s.dialect) ∧
      ∃ e, s.attempt schema = (.error e, s) := by
  have hok := (s.register_follows schema).ok_iff
  rw [registerRules_hold_iff] at hok
  cases h : s.register schema with
  | ok next =>
    obtain ⟨hfree, hfits⟩ := hok.mp ⟨next, h⟩
    refine .inl ⟨hfree, hfits, ?_⟩
    rw [attempt_eq, h, register_eq_ok h]
  | error e =>
    refine .inr ⟨?_, e, ?_⟩
    · intro hrules
      obtain ⟨next, hnext⟩ := hok.mpr hrules
      cases h.symm.trans hnext
    · rw [attempt_eq, h]

/-- The names of the schemas are distinct, and all their serializers are of the dialect. -/
structure IsOrderly (s : Session) : Prop where
  names : s.schemaNames.Nodup
  fits : ∀ schema ∈ s.schemas, schema.Fits s.dialect

theorem IsOrderly.attempt (h : s.IsOrderly) (schema : Schema) :
    (s.attempt schema).2.IsOrderly := by
  rcases s.attempt_cases schema with ⟨hfree, hfits, hnext⟩ | ⟨_, e, hsame⟩
  · rw [hnext]
    refine ⟨?_, ?_⟩
    · have hnames : (s.schemaNames ++ [schema.name]).Nodup := by
        rw [← List.concat_eq_append]
        exact h.names.concat hfree
      simpa [schemaNames] using hnames
    · intro other hother
      rcases List.mem_append.mp hother with hother | hother
      · exact h.fits other hother
      · rw [List.mem_singleton.mp hother]
        exact hfits
  · rw [hsame]
    exact h

theorem IsOrderly.attempts (h : s.IsOrderly) (calls : List Schema) :
    (s.attempts calls).2.IsOrderly := by
  induction calls generalizing s with
  | nil => exact h
  | cons call calls ih => exact ih (h.attempt call)

theorem attempts_length (s : Session) (calls : List Schema) :
    (s.attempts calls).1.length = calls.length := by
  induction calls generalizing s with
  | nil => rfl
  | cons call calls ih => exact congrArg (· + 1) (ih (s.attempt call).2)

/-- A whole run adds the schemas of the accepted calls and changes nothing else. -/
theorem attempts_eq (s : Session) (calls : List Schema) :
    (s.attempts calls).2 =
      { s with schemas := s.schemas ++ accepted calls (s.attempts calls).1 } := by
  -- The session changes with every accepted call, so the hypothesis has to be for all sessions.
  induction calls generalizing s with
  | nil => simp [attempts, accepted]
  | cons call calls ih =>
    rw [attempts]
    rcases s.attempt_cases call with ⟨_, _, h⟩ | ⟨_, e, h⟩
    · rw [h, ih]
      simp [accepted, Except.toOption]
    · rw [h, ih]
      simp [accepted, Except.toOption]

theorem attempts_schemas_of_nodup {calls : List Schema} (hn : (calls.map Schema.name).Nodup)
    (hfree : ∀ call ∈ calls, call.name ∉ s.schemaNames) :
    (s.attempts calls).2.schemas = s.schemas ++ calls.filter fun call => call.Fits s.dialect := by
  induction calls generalizing s with
  | nil => simp [attempts]
  | cons call calls ih =>
    obtain ⟨hcall, hn⟩ := List.nodup_cons.mp hn
    obtain ⟨hname, hfree⟩ := List.forall_mem_cons.mp hfree
    rw [attempts]
    rcases s.attempt_cases call with ⟨_, hfits, h⟩ | ⟨hbroken, e, h⟩
    · have hlater : ∀ later ∈ calls, later.name ∉ s.schemaNames ++ [call.name] := by
        intro later hlater
        have hother : later.name ≠ call.name := by
          intro hsame
          exact hcall (hsame ▸ List.mem_map_of_mem hlater)
        simp [hfree later hlater, hother]
      rw [h, ih hn (by simpa [schemaNames] using hlater)]
      simp [hfits]
    · have hother : ¬call.Fits s.dialect := fun hfits => hbroken ⟨hname, hfits⟩
      rw [h, ih hn hfree]
      simp [hother]

theorem attempts_step {calls : List Schema} {k : Nat} {call : Schema} (h : calls[k]? = some call) :
    (s.attempts calls).1[k]? = some ((s.attempts (calls.take k)).2.attempt call).1 ∧
      (s.attempts (calls.take (k + 1))).2 = ((s.attempts (calls.take k)).2.attempt call).2 := by
  induction calls generalizing s k with
  | nil => cases h
  | cons first calls ih =>
    cases k with
    | zero =>
      cases h
      exact ⟨rfl, rfl⟩
    | succ k => exact ih h

theorem connect_eq_ok {config : AppConfig} {mapper : Mapper} (h : connect config mapper = .ok s) :
    s.dialect = config.database.dialect ∧ s.schemas = [] ∧
      s.defaultSchema = config.mapper.defaultSchema := by
  rw [connect] at h
  split at h
  · cases h
  · split at h
    · rw [← Except.ok.inj h]
      exact ⟨rfl, rfl, rfl⟩
    · cases h

theorem isOrderly_of_connect {config : AppConfig} {mapper : Mapper}
    (h : connect config mapper = .ok s) : s.IsOrderly := by
  obtain ⟨_, hnone, _⟩ := connect_eq_ok h
  refine ⟨?_, ?_⟩
  · rw [schemaNames, hnone]
    exact List.nodup_nil
  · rw [hnone]
    exact List.forall_mem_nil _

/-- Whatever schemas are offered to an open session, it holds those of the accepted calls in the
order of the calls. Their names are distinct, so that each is found by its name, and every column
and every argument in them has a serializer of the dialect of the database. A call is refused if and
only if the name of its schema is taken or one of its serializers is of another dialect; the name is
looked at first. A refused call changes nothing. -/
theorem registered_schemas_are_accepted_calls (config : AppConfig) (mapper : Mapper) (s : Session)
    (h : connect config mapper = .ok s) (calls : List Schema) :
    let dialect := config.database.dialect
    let answers := (s.attempts calls).1
    let last := (s.attempts calls).2
    answers.length = calls.length ∧ last.schemas = accepted calls answers ∧
      last.dialect = dialect ∧ last.schemaNames.Nodup ∧
      (∀ schema ∈ last.schemas, last.schema schema.name = .ok schema ∧ schema.Fits dialect) ∧
      ∀ (k : Nat) (call : Schema), calls[k]? = some call →
        let before := (s.attempts (calls.take k)).2
        ∃ answer, answers[k]? = some answer ∧
          (answer = .ok () ↔ call.name ∉ before.schemaNames ∧ call.Fits dialect) ∧
          (∀ e, answer = .error e ↔
            call.name ∈ before.schemaNames ∧ e = .schemaTaken call.name ∨
            call.name ∉ before.schemaNames ∧ ¬call.Fits dialect ∧
              ∃ other, other ≠ dialect ∧ e = .dialectMismatch other dialect) ∧
          ∀ e, answer = .error e → (s.attempts (calls.take (k + 1))).2 = before := by
  intro dialect answers last
  obtain ⟨hdialect, hnone, _⟩ := connect_eq_ok h
  have hkept : ∀ calls, (s.attempts calls).2.dialect = dialect := by
    intro calls
    rw [attempts_eq]
    exact hdialect
  have horderly : last.IsOrderly := (isOrderly_of_connect h).attempts calls
  refine ⟨s.attempts_length calls, ?_, hkept calls, horderly.names, ?_, ?_⟩
  · simp only [last, attempts_eq, hnone, List.nil_append, answers]
  · intro schema hschema
    refine ⟨?_, ?_⟩
    · rw [Session.schema, find?_key_eq_some horderly.names hschema]
    · rw [← hkept calls]
      exact horderly.fits schema hschema
  · intro k call hcall before
    obtain ⟨hanswer, hnext⟩ := attempts_step hcall
    have hfollows := before.attempt_follows call
    refine ⟨(before.attempt call).1, hanswer, ?_, ?_, ?_⟩
    · rw [← hkept (calls.take k), ← registerRules_hold_iff, ← hfollows.ok_iff]
      exact ⟨fun hok => ⟨(), hok⟩, fun ⟨_, hok⟩ => hok⟩
    · intro e
      rw [hfollows.error_iff, firstBroken_registerRules, hkept (calls.take k)]
    · intro e he
      rcases before.attempt_cases call with ⟨_, _, hok⟩ | ⟨_, _, hsame⟩
      · rw [hok] at he
        cases he
      · rw [hnext, hsame]

/-- Of four schemas one is for another dialect and one has a name that is taken. -/
theorem registered_schemas_are_accepted_calls_around_refusals :
    let artist : EntityType := ⟨0, "Artist"⟩
    let id : OwnedProperty :=
      ⟨⟨"id", .int64, false, false, none, fun fields => fields.headD .null⟩, artist⟩
    let integer : Serializer := ⟨.int64, .sqlite, "BIGINT", .bigInt, Codec.Sqlite.int64⟩
    let bigint : Serializer := ⟨.int64, .postgres, "BIGINT", .bigInt, Codec.Postgres.int64⟩
    let music : Schema :=
      ⟨"music", [⟨artist, "Artist", [], .ofKey id integer, [], some "music"⟩], [], []⟩
    let archive : Schema :=
      ⟨"archive", [⟨artist, "Artist", [], .ofKey id bigint, [], some "archive"⟩], [], []⟩
    let art : Schema :=
      ⟨"art", [], [], [⟨⟨some "art", artist⟩, [⟨id, integer, some ⟨some "art", artist⟩⟩]⟩]⟩
    let calls : List Schema := [music, archive, { archive with name := "music" }, art]
    let config : AppConfig := ⟨.sqlite ":memory:", { dialect := .sqlite }⟩
    ∃ s, connect config (.ofDialect .sqlite) = .ok s ∧
      (s.attempts calls).1 = [.ok (), .error (.dialectMismatch .postgres .sqlite),
        .error (.schemaTaken "music"), .ok ()] ∧
      (s.attempts calls).2.schemas = [music, art] ∧
      (∀ schema ∈ [music, art], schema.Fits .sqlite) ∧ ¬archive.Fits .sqlite := by
  intro artist id integer bigint music archive art calls config
  obtain ⟨s, hs, heq⟩ : ∃ s, connect config (.ofDialect .sqlite) = .ok s ∧
      s = ⟨.sqlite, .ofDialect .sqlite, rfl, false, [], "main"⟩ := ⟨_, rfl, rfl⟩
  obtain ⟨_, hschemas, _, _, hfits, hcalls⟩ :=
    registered_schemas_are_accepted_calls config (.ofDialect .sqlite) s hs calls
  have hanswers : (s.attempts calls).1 = [.ok (), .error (.dialectMismatch .postgres .sqlite),
      .error (.schemaTaken "music"), .ok ()] := by
    rw [heq]
    rfl
  rw [hanswers] at hschemas
  refine ⟨s, hs, hanswers, hschemas, ?_, ?_⟩
  · intro schema hschema
    have hmem : schema ∈ (s.attempts calls).2.schemas := by
      rw [hschemas]
      exact hschema
    exact (hfits schema hmem).2
  · obtain ⟨answer, hanswer, _, hreports, _⟩ := hcalls 1 archive rfl
    rw [hanswers] at hanswer
    rcases (hreports _).mp (Option.some.inj hanswer).symm with ⟨_, he⟩ | ⟨_, hother, _⟩
    · cases he
    · exact hother

end Session

end RecordTables
