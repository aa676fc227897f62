import RecordTables.Proofs.Placeholder.Scan

/-!
# Numbered placeholders

Rewriting for PostgreSQL puts `$k` into the place of the k-th placeholder and keeps every other
character. Every part that is copied is cut at borders of characters, and the result holds no
placeholder, so that a second rewriting changes nothing.
-/

namespace RecordTables.Placeholder

/-- The characters of a text from an offset on, with `$k` for the one at the k-th of the places. -/
def substituted (places : List Nat) (start : Nat) : List Char → List Char
  | [] => []
  | c :: rest =>
    (match places.idxOf? start with
      | some k => '$' :: (toString (k + 1)).toList
      | none => [c]) ++ substituted places (start + c.utf8Size) rest

theorem toList_placeholder_postgres (index : Nat) :
    (Dialect.placeholder index .postgres).toList = '$' :: (toString index).toList := by
  simp [Dialect.placeholder, Text.digits, Nat.toString_eq_repr, Nat.repr_eq_ofList_toDigits]

private theorem idxOf?_append_cons {place : Nat} {earlier later : List Nat} (h : place ∉ earlier) :
    (earlier ++ place :: later).idxOf? place = some earlier.length := by
  rw [List.idxOf?_eq_some_iff]
  refine ⟨by simp, by simp, ?_⟩
  intro j hj hplace
  have hmem : earlier[j] ∈ earlier := List.getElem_mem hj
  rw [List.getElem_append_left hj] at hplace
  exact h (hplace ▸ hmem)

/-- Numbering replaces exactly what the scan reports, with the places before the text passed. -/
private theorem numbered_eq_substituted (quoting : Quoting) (start : Nat) (s : List Char)
    (earlier : List Nat) (h : ∀ place ∈ earlier, place < start) :
    numbered .postgres quoting (earlier.length + 1) s =
      substituted (earlier ++ offsets quoting start s) start s := by
  -- The count of the earlier places is the number that the text has reached.
  induction s generalizing quoting start earlier with
  | nil => rfl
  | cons c s ih =>
    have hstart : start ∉ earlier := fun hs => Nat.lt_irrefl _ (h _ hs)
    have hpos := c.utf8Size_pos
    rw [numbered, offsets, substituted]
    by_cases hc : isMark quoting c
    · have hnext := ih (step quoting c) (start + c.utf8Size) (earlier ++ [start]) (by
        intro place hp
        rcases List.mem_append.mp hp with hp | hp
        · have hlt := h place hp
          omega
        · have heq := List.mem_singleton.mp hp
          omega)
      rw [List.length_append, List.length_singleton, List.append_assoc,
        List.singleton_append] at hnext
      simp only [hc, if_true, idxOf?_append_cons hstart, toList_placeholder_postgres, hnext]
    · have hnext := ih (step quoting c) (start + c.utf8Size) earlier (by
        intro place hp
        have hlt := h place hp
        omega)
      have hlater : start ∉ earlier ++ offsets (step quoting c) (start + c.utf8Size) s := by
        intro hs
        rcases List.mem_append.mp hs with hs | hs
        · exact hstart hs
        · have hle := le_of_mem_offsets hs
          omega
      simp only [hc, Bool.false_eq_true, if_false, List.idxOf?_eq_none_iff.mpr hlater, hnext,
        List.singleton_append]

private theorem isOrdinary_of_isDigit {c : Char} (h : c.isDigit) : isOrdinary c := by
  simp only [isOrdinary, decide_eq_true_eq]
  refine ⟨?_, ?_, ?_⟩ <;> (rintro rfl; simp at h)

private theorem isFragment_placeholder (index : Nat) :
    IsFragment (Dialect.placeholder index .postgres) := by
  apply isFragment_of_isOrdinary
  intro c hc
  simp only [Dialect.placeholder, String.toList_ofList, List.mem_cons] at hc
  rcases hc with rfl | hc
  · decide
  · exact isOrdinary_of_isDigit (Nat.isDigit_of_mem_toDigits (by decide) (by decide) hc)

private theorem marks_numbered (quoting : Quoting) (index : Nat) (s : List Char) :
    marks quoting (numbered .postgres quoting index s) = 0 := by
  induction s generalizing quoting index with
  | nil => rfl
  | cons c s ih =>
    by_cases hc : isMark quoting c
    · obtain ⟨rfl, rfl⟩ := isMark_iff.mp hc
      have hp := isFragment_placeholder index
      have hq : step none '?' = none := rfl
      rw [numbered, if_pos hc, marks_append, hp.marks, hp.2, hq, ih, Nat.add_zero]
    · rw [numbered, if_neg hc, marks_cons, if_neg hc, ih]

private theorem areBorders_of_slice? {sql part : String} {start stop : Nat}
    (h : slice? sql start stop = some part) : AreBorders sql start stop := by
  rw [slice?] at h
  split at h
  · assumption
  · cases h

private theorem next?_eq_some {dialect : Dialect} {sql : String} {r next : Rewriting} {place : Nat}
    (h : r.next? dialect sql place = some next) :
    AreBorders sql r.last place ∧ next.index = r.index + 1 := by
  obtain ⟨before, hcut, hnext⟩ := Option.bind_eq_some_iff.mp h
  cases hnext
  exact ⟨areBorders_of_slice? hcut, rfl⟩

private theorem foldlM_next?_index {dialect : Dialect} {sql : String} {r last : Rewriting}
    {places : List Nat} (h : places.foldlM (Rewriting.next? dialect sql) r = some last) :
    last.index = r.index + places.length := by
  induction places generalizing r with
  | nil =>
    cases h
    rfl
  | cons place places ih =>
    rw [List.foldlM_cons] at h
    obtain ⟨next, hnext, hrest⟩ := Option.bind_eq_some_iff.mp h
    rw [ih hrest, (next?_eq_some hnext).2, List.length_cons]
    omega

/-- Where a rewriting that has passed some placeholders goes on. -/
private theorem exists_rewriting (dialect : Dialect) (sql : String) {k stop : Nat}
    (h : (scan sql ++ [sql.utf8ByteSize])[k]? = some stop) :
    ∃ r : Rewriting, ((scan sql).take k).foldlM (Rewriting.next? dialect sql) .start = some r ∧
      r.index = k ∧ AreBorders sql r.last stop := by
  obtain ⟨text, hrun⟩ := Option.isSome_iff_exists.mp (isSome_rewrite? dialect sql)
  obtain ⟨last, hfold, hfinish⟩ := Option.bind_eq_some_iff.mp hrun
  by_cases hk : k < (scan sql).length
  · rw [List.getElem?_append_left hk, List.getElem?_eq_getElem hk] at h
    cases h
    rw [← List.take_append_drop k (scan sql), List.drop_eq_getElem_cons hk,
      List.foldlM_append] at hfold
    obtain ⟨r, hr, hrest⟩ := Option.bind_eq_some_iff.mp hfold
    obtain ⟨next, hnext, _⟩ := Option.bind_eq_some_iff.mp hrest
    have hindex := foldlM_next?_index hr
    rw [List.length_take_of_le (Nat.le_of_lt hk)] at hindex
    exact ⟨r, hr, by simpa [Rewriting.start] using hindex, (next?_eq_some hnext).1⟩
  · have hlen : k = (scan sql).length := by
      have hlt := (List.getElem?_eq_some_iff.mp h).1
      rw [List.length_append, List.length_singleton] at hlt
      omega
    subst hlen
    rw [List.getElem?_append_right (Nat.le_refl _), Nat.sub_self] at h
    cases h
    obtain ⟨rest, hcut, _⟩ := Option.bind_eq_some_iff.mp hfinish
    have hindex := foldlM_next?_index hfold
    rw [List.take_length]
    exact ⟨last, hfold, by simpa [Rewriting.start] using hindex, areBorders_of_slice? hcut⟩

end RecordTables.Placeholder

namespace RecordTables.Query

open Placeholder

theorem dialectSql_postgres (q : Query) :
    (q.dialectSql .postgres).toList = numbered .postgres none 1 q.sql.toList := by
  simp only [dialectSql, rewrite?_eq, Option.get_some, String.toList_ofList]

/-- The placeholders are the question marks outside quotes. For PostgreSQL the k-th of them is
replaced by `$k`, and everything else stays where it is: the text between two of them is cut out at
borders of characters. Nothing is left to replace, and for SQLite the text is as it was. -/
theorem dialectSql_replaces_in_place (q : Query) :
    let places := scan q.sql
    places.Pairwise (· < ·) ∧
    (∀ place, place ∈ places ↔ ∃ before after, q.sql.toList = before ++ '?' :: after ∧
      quotingAfter none before = none ∧ place = (String.ofList before).utf8ByteSize) ∧
    q.placeholderCount = places.length ∧
    (∀ k stop, (places ++ [q.sql.utf8ByteSize])[k]? = some stop →
      ∃ r : Rewriting, (places.take k).foldlM (Rewriting.next? .postgres q.sql) .start = some r ∧
        r.index = k ∧ r.last ≤ stop ∧ String.Pos.Raw.IsValid q.sql ⟨r.last⟩ ∧
        String.Pos.Raw.IsValid q.sql ⟨stop⟩) ∧
    (q.dialectSql .postgres).toList = substituted places 0 q.sql.toList ∧
    scan (q.dialectSql .postgres) = [] ∧
    (∀ values, dialectSql ⟨q.dialectSql .postgres, values⟩ .postgres = q.dialectSql .postgres) ∧
    q.dialectSql .sqlite = q.sql := by
  have hscan : scan (q.dialectSql .postgres) = [] := by
    rw [scan, dialectSql_postgres, offsets_eq_nil_iff]
    exact marks_numbered none 1 q.sql.toList
  refine ⟨pairwise_offsets none 0 _, ?_, rfl, ?_, ?_, hscan, ?_, rfl⟩
  · intro place
    simp only [scan, mem_offsets, width_eq, Nat.zero_add]
  · intro k stop hk
    exact exists_rewriting .postgres q.sql hk
  · rw [dialectSql_postgres]
    exact numbered_eq_substituted none 0 q.sql.toList [] (by simp)
  · intro values
    apply String.toList_inj.mp
    rw [dialectSql_postgres]
    exact numbered_eq_self .postgres 1 (offsets_eq_nil_iff.mp hscan)

/-- The question mark between quotes stays, and the character before it takes two bytes. -/
theorem dialectSql_replaces_in_place_around_quotes :
    let q := Query.raw "SET a = 'é?', b = ? WHERE id = ?"
    scan q.sql = [19, 32] ∧
    (∃ r : Rewriting, [19].foldlM (Rewriting.next? .postgres q.sql) .start = some r ∧
      r.index = 1 ∧ r.last ≤ 32) ∧
    q.dialectSql .postgres = "SET a = 'é?', b = $1 WHERE id = $2" ∧
    dialectSql ⟨q.dialectSql .postgres, q.values⟩ .postgres = q.dialectSql .postgres := by
  intro q
  have hscan : scan q.sql = [19, 32] := by decide
  obtain ⟨_, _, _, hslices, htext, _, hagain, _⟩ := dialectSql_replaces_in_place q
  rw [hscan] at hslices htext
  refine ⟨hscan, ?_, ?_, hagain q.values⟩
  · obtain ⟨r, hr, hindex, hle, _⟩ := hslices 1 32 rfl
    exact ⟨r, hr, hindex, hle⟩
  · apply String.toList_inj.mp
    rw [htext]
    decide

end RecordTables.Query
