import RecordTables.QueryBuilder
import RecordTables.Proofs.Check
import RecordTables.Proofs.Placeholder.Template

/-!
# The order of bound values

However calls succeed and fail, a builder holds the values of the successful calls in the order of
the calls. A caller who puts the answered placeholders between fragments in that order gets a query
with the k-th value bound to the k-th placeholder.
-/

namespace RecordTables.QueryBuilder

open Placeholder

/-- What a call binds for a record: the value of a property, or the value given, each with the
serializer of its type. -/
inductive Binds (mapper : Mapper) (entity : Entity) (fields : List Value) :
    Binding → QueryValue → Prop
  | property {name : String} {p : Property} {s : Serializer}
      (hp : entity.properties.find? (fun p => p.name = name) = some p)
      (hs : mapper.getSerializer entity.type p.valueType = .ok s) :
      Binds mapper entity fields (.property name)
        ⟨name, p.getter fields, s.wireType, s.codec.encoder⟩
  | value {name : String} {type : ValueType} {v : Value} {s : Serializer}
      (hs : mapper.getSerializer entity.type type = .ok s) :
      Binds mapper entity fields (.value name type v) ⟨name, v, s.wireType, s.codec.encoder⟩

variable {b : QueryBuilder} {call : Binding} {v : QueryValue}

private theorem run_serializer (b : QueryBuilder) (type : ValueType) : (serializer type).run b =
    match b.mapper.getSerializer b.entity.type type with
    | .ok s => .ok s b
    | .error e => .error e b := by
  simp only [serializer, EStateM.run_bind, EStateM.run_get]
  cases b.mapper.getSerializer b.entity.type type <;> rfl

private theorem run_bindValue (b : QueryBuilder) (name : String) (type : ValueType)
    (value : Value) :
    (bindValue name type value).run b =
      match b.mapper.getSerializer b.entity.type type with
      | .ok s => .ok token { b with values := b.values ++ [.ofSerializer name value s] }
      | .error e => .error e b := by
  simp only [bindValue, EStateM.run_bind, run_serializer]
  cases b.mapper.getSerializer b.entity.type type <;> rfl

private theorem run_bindProperty (b : QueryBuilder) (name : String) :
    (bindProperty name).run b =
      match b.entity.properties.find? fun p => p.name = name with
      | none => .error (.unknownProperty b.entity.name name) b
      | some p => (bindValue p.name p.valueType (p.getter b.fields)).run b := by
  simp only [bindProperty, EStateM.run_bind, EStateM.run_get]
  cases b.entity.properties.find? fun p => p.name = name <;> rfl

theorem Binds.run_bind (h : Binds b.mapper b.entity b.fields call v) :
    (bind call).run b = .ok token { b with values := b.values ++ [v] } := by
  cases h with
  | @property name p s hp hs =>
    have hname : p.name = name := by simpa using List.find?_some hp
    rw [bind, run_bindProperty, hp]
    simp only [run_bindValue, hs, hname, QueryValue.ofSerializer]
  | value hs =>
    rw [bind, run_bindValue, hs]
    rfl

theorem Binds.attempt (h : Binds b.mapper b.entity b.fields call v) :
    b.attempt call = (.ok token, { b with values := b.values ++ [v] }) := by
  rw [QueryBuilder.attempt, h.run_bind]

private theorem exists_run_bind_eq_error (h : ∀ v, ¬Binds b.mapper b.entity b.fields call v) :
    ∃ e, (bind call).run b = .error e b := by
  cases call with
  | property name =>
    rw [bind, run_bindProperty]
    cases hp : b.entity.properties.find? fun p => p.name = name with
    | none => exact ⟨_, rfl⟩
    | some p =>
      simp only [run_bindValue]
      cases hs : b.mapper.getSerializer b.entity.type p.valueType with
      | ok s => exact absurd (.property hp hs) (h _)
      | error e => exact ⟨e, rfl⟩
  | value name type value =>
    rw [bind, run_bindValue]
    cases hs : b.mapper.getSerializer b.entity.type type with
    | ok s => exact absurd (.value hs) (h _)
    | error e => exact ⟨e, rfl⟩

/-- One call either binds its value last, or it leaves the builder as it was. -/
theorem attempt_cases (b : QueryBuilder) (call : Binding) :
    (∃ v, Binds b.mapper b.entity b.fields call v ∧
      b.attempt call = (.ok token, { b with values := b.values ++ [v] })) ∨
    ((∀ v, ¬Binds b.mapper b.entity b.fields call v) ∧ ∃ e, b.attempt call = (.error e, b)) := by
  by_cases h : ∃ v, Binds b.mapper b.entity b.fields call v
  · obtain ⟨v, hv⟩ := h
    exact .inl ⟨v, hv, hv.attempt⟩
  · obtain ⟨e, he⟩ := exists_run_bind_eq_error (not_exists.mp h)
    exact .inr ⟨not_exists.mp h, e, by rw [attempt, he]⟩

abbrev Answer := Except MappingError String × QueryBuilder

def succeeded (calls : List Binding) (answers : List Answer) : List Binding :=
  (calls.zip answers).filterMap fun (call, answer) => answer.1.toOption.map fun _ => call

def tokens (answers : List Answer) : List String :=
  answers.filterMap fun answer => answer.1.toOption

private theorem attempts_cons (b : QueryBuilder) (call : Binding) (calls : List Binding) :
    b.attempts (call :: calls) =
      (b.attempt call :: ((b.attempt call).2.attempts calls).1,
        ((b.attempt call).2.attempts calls).2) := rfl

/-- What a whole run adds to the values, which never depends on the values before it. -/
theorem attempts_values (b : QueryBuilder) (calls : List Binding) :
    ∃ values, (b.attempts calls).2 = { b with values := b.values ++ values } ∧
      List.Forall₂ (Binds b.mapper b.entity b.fields) (succeeded calls (b.attempts calls).1)
        values ∧
      tokens (b.attempts calls).1 = values.map fun _ => token := by
  -- A call that succeeds leaves another builder, so the hypothesis has to be for all of them.
  induction calls generalizing b with
  | nil => exact ⟨[], by simp [attempts], .nil, rfl⟩
  | cons call calls ih =>
    rw [attempts_cons]
    rcases attempt_cases b call with ⟨v, hv, h⟩ | ⟨_, e, h⟩
    · obtain ⟨values, hlast, hbound, htokens⟩ := ih { b with values := b.values ++ [v] }
      refine ⟨v :: values, ?_, ?_, ?_⟩
      · rw [h, hlast, List.append_assoc, List.singleton_append]
      · rw [h]
        exact .cons hv hbound
      · rw [h, List.map_cons, ← htokens]
        rfl
    · obtain ⟨values, hlast, hbound, htokens⟩ := ih b
      refine ⟨values, ?_, ?_, ?_⟩
      · rw [h, hlast]
      · rw [h]
        exact hbound
      · rw [h]
        exact htokens

theorem attempts_length (b : QueryBuilder) (calls : List Binding) :
    (b.attempts calls).1.length = calls.length := by
  induction calls generalizing b with
  | nil => rfl
  | cons call calls ih => rw [attempts_cons, List.length_cons, ih, List.length_cons]

theorem attempts_step (b : QueryBuilder) {calls : List Binding} {k : Nat} {call : Binding}
    (h : calls[k]? = some call) :
    ∃ before, (b :: (b.attempts calls).1.map Prod.snd)[k]? = some before ∧
      (b.attempts calls).1[k]? = some (before.attempt call) ∧
      before.mapper = b.mapper ∧ before.entity = b.entity ∧ before.fields = b.fields := by
  induction calls generalizing b k with
  | nil => cases h
  | cons first calls ih =>
    rw [attempts_cons]
    cases k with
    | zero =>
      cases h
      exact ⟨b, rfl, rfl, rfl, rfl, rfl⟩
    | succ k =>
      obtain ⟨before, hbefore, hanswer, hmapper, hentity, hfields⟩ := ih (b.attempt first).2 h
      refine ⟨before, hbefore, hanswer, ?_⟩
      rcases attempt_cases b first with ⟨v, _, hfirst⟩ | ⟨_, e, hfirst⟩ <;>
        rw [hfirst] at hmapper hentity hfields <;> exact ⟨hmapper, hentity, hfields⟩

private theorem build_spliced (b : QueryBuilder) {marks fragments : List String} {first : String}
    (hmarks : marks = b.values.map fun _ => token) (hlength : fragments.length = marks.length)
    (hfirst : IsFragment first) (hfragments : ∀ fragment ∈ fragments, IsFragment fragment) :
    let parts := marks.zip fragments
    let q := b.build (spliced first parts)
    q.checkPlaceholders = .ok () ∧ ∀ (k : Nat) (mark : String), marks[k]? = some mark → ∃ after,
      q.sql = spliced first (parts.take k) ++ mark ++ after ∧
        (scan q.sql)[k]? = some (spliced first (parts.take k)).utf8ByteSize := by
  intro parts q
  have hparts : ∀ part ∈ parts, part.1 = token ∧ IsFragment part.2 := by
    rintro ⟨mark, fragment⟩ hpart
    obtain ⟨hmark, hfragment⟩ := List.of_mem_zip hpart
    rw [hmarks] at hmark
    obtain ⟨_, _, rfl⟩ := List.mem_map.mp hmark
    exact ⟨rfl, hfragments _ hfragment⟩
  have hscan : scan q.sql = _ := (scan_spliced hfirst hparts).1
  have hsize : parts.length = marks.length := by
    rw [List.length_zip, hlength, Nat.min_self]
  refine ⟨?_, ?_⟩
  · have hcount : q.placeholderCount = q.values.length := by
      rw [Query.placeholderCount, count, hscan, List.length_map, List.length_range, hsize, hmarks,
        List.length_map]
      rfl
    rw [Query.checkPlaceholders, if_pos hcount]
  · intro k mark hmark
    obtain ⟨hlt, hget⟩ := List.getElem?_eq_some_iff.mp hmark
    have hk : k < parts.length := hsize ▸ hlt
    have hpart : parts[k]? = some (mark, parts[k].2) := by
      have hfst : parts[k].1 = mark := by
        rw [List.getElem_zip, hget]
      rw [List.getElem?_eq_getElem hk, ← hfst]
    obtain ⟨after, hafter⟩ := exists_spliced_eq hpart
    refine ⟨after, hafter, ?_⟩
    rw [hscan, List.getElem?_map, List.getElem?_range hk]
    rfl

/-- A registered input can always be queried. Each call binds the value that the record and the
mapper give for it, or nothing at all if there is none, so that the values are those of the
successful calls in their order. A text of fragments with the answered placeholders between them has
as many placeholders as there are values, and the k-th of them is the k-th answer. -/
theorem attempts_bind_in_order (mapper : Mapper) (entity : Entity) (fields : List Value)
    (h : mapper.isRegistered entity.type) (calls : List Binding) :
    ∃ b, start mapper entity fields = .ok b ∧ b.size = 0 ∧
      let answers : List Answer := (b.attempts calls).1
      let last := (b.attempts calls).2
      answers.length = calls.length ∧
      (∀ (k : Nat) (call : Binding), calls[k]? = some call →
        ∃ before : QueryBuilder, (b :: answers.map Prod.snd)[k]? = some before ∧
          ((∃ v, Binds mapper entity fields call v ∧
              answers[k]? =
                some (Except.ok token, { before with values := before.values ++ [v] })) ∨
            ((∀ v, ¬Binds mapper entity fields call v) ∧
              ∃ e, answers[k]? = some (Except.error e, before)))) ∧
      List.Forall₂ (Binds mapper entity fields) (succeeded calls answers) last.values ∧
      (tokens answers).length = last.size ∧
      ∀ (first : String) (fragments : List String),
        fragments.length = (tokens answers).length → IsFragment first →
        (∀ fragment ∈ fragments, IsFragment fragment) →
        let parts := (tokens answers).zip fragments
        let q := last.build (spliced first parts)
        q.checkPlaceholders = .ok () ∧ q.values = last.values ∧
        ∀ (k : Nat) (mark : String), (tokens answers)[k]? = some mark → ∃ after,
          q.sql = spliced first (parts.take k) ++ mark ++ after ∧
          (scan q.sql)[k]? = some (spliced first (parts.take k)).utf8ByteSize := by
  refine ⟨⟨entity, fields, mapper, []⟩, by rw [start, if_pos h], rfl, ?_⟩
  intro answers last
  obtain ⟨values, hlast, hbound, htokens⟩ := attempts_values ⟨entity, fields, mapper, []⟩ calls
  have hvalues : last.values = values := by simp [last, hlast]
  have hcount : (tokens answers).length = last.size := by
    rw [size, hvalues]
    simp [answers, htokens]
  refine ⟨attempts_length _ calls, ?_, by rw [hvalues]; exact hbound, hcount, ?_⟩
  · intro k call hk
    obtain ⟨before, hbefore, hanswer, hmapper, hentity, hfields⟩ := attempts_step _ hk
    refine ⟨before, hbefore, ?_⟩
    rcases attempt_cases before call with ⟨v, hv, hcall⟩ | ⟨hnone, e, hcall⟩
    · rw [hmapper, hentity, hfields] at hv
      exact .inl ⟨v, hv, by rw [hanswer, hcall]⟩
    · rw [hmapper, hentity, hfields] at hnone
      exact .inr ⟨hnone, e, by rw [hanswer, hcall]⟩
  · intro first fragments hlength hfirst hfragments parts q
    have hmarks : tokens answers = last.values.map fun _ => token := by
      rw [hvalues]
      exact htokens
    obtain ⟨hcheck, hplaces⟩ := last.build_spliced hmarks hlength hfirst hfragments
    exact ⟨hcheck, rfl, hplaces⟩

/-- A call for a property that does not exist fails between two that succeed. -/
theorem attempts_bind_in_order_around_failure :
    let artist : Entity :=
      ⟨⟨0, "Artist"⟩, [⟨"name", .text, false, false, none, fun fields => fields.headD .null⟩], none,
        none⟩
    let mapper : Mapper := { Mapper.ofDialect .sqlite with inputs := [artist.type] }
    let calls : List Binding :=
      [.property "name", .property "born", .value "limit" .int32 (.int32 5)]
    mapper.isRegistered artist.type ∧ ∃ b, start mapper artist [.text "Nina"] = .ok b ∧
      tokens (b.attempts calls).1 = [token, token] ∧
      ((b.attempts calls).2.build
        (spliced "SELECT id WHERE note <> '?' AND name = " [(token, " LIMIT "), (token, "")])
          ).checkPlaceholders = .ok () := by
  intro artist mapper calls
  have hinput : mapper.isRegistered artist.type := by decide
  obtain ⟨b, hb, _, _, _, _, _, htext⟩ :=
    attempts_bind_in_order mapper artist [.text "Nina"] hinput calls
  have hstart : b = ⟨artist, [.text "Nina"], mapper, []⟩ := by
    rw [start, if_pos hinput] at hb
    exact (Except.ok.inj hb).symm
  have htokens : tokens (b.attempts calls).1 = [token, token] := by
    rw [hstart]
    rfl
  refine ⟨hinput, b, hb, htokens, ?_⟩
  have hcheck := (htext "SELECT id WHERE note <> '?' AND name = " [" LIMIT ", ""]
    (by rw [htokens]; rfl) (by decide) (by decide)).1
  rw [htokens] at hcheck
  exact hcheck

end RecordTables.QueryBuilder
