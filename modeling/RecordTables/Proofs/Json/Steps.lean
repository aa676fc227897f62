import Mathlib.Data.List.DropRight
import RecordTables.Proofs.Json.Token

/-!
# Steps of the reader

What the reader of documents does with the first token of a written value, with one item of an array
and with one field of an object. An object that embeds a document is never read as itself.
-/

namespace RecordTables.Json

open RecordTables.Text

section Steps

variable {embeds : Bool} {fuel depth : Nat} {s : List Char}

theorem skipSpace_cons {c : Char} (h : c ≠ ' ' ∧ c ≠ '\n' ∧ c ≠ '\t' ∧ c ≠ '\r') :
    skipSpace (c :: s) = c :: s := by
  simp [skipSpace, h]

private theorem skipSpace_skipSpace : skipSpace (skipSpace s) = skipSpace s :=
  List.dropWhile_idempotent _ _

theorem readValue?_number {c : Char} (hc : c.isDigit ∨ c = '-') :
    readValue? embeds (fuel + 1) depth (c :: s) =
      (JsonNumber.read? (c :: s)).map fun p => (.number p.1, p.2) := by
  have hother : ∀ d : Char, ¬(d.isDigit ∨ d = '-') → c ≠ d := by
    rintro d hd rfl
    exact hd hc
  have hspace : skipSpace (c :: s) = c :: s :=
    skipSpace_cons ⟨hother _ (by decide), hother _ (by decide), hother _ (by decide),
      hother _ (by decide)⟩
  rw [readValue?, hspace]
  split
  all_goals
    first
    | rfl
    | next h => exact absurd (List.cons.inj h).1 (hother _ (by decide))

theorem quoted_append (text : String) :
    quoted text ++ s = '"' :: (text.toList.flatMap escapeChar ++ '"' :: s) := by
  simp [quoted]

theorem readValue?_string (text : String) :
    readValue? embeds (fuel + 1) depth (quoted text ++ s) = some (.string text, s) := by
  have hread := readString?_flatMap_escapeChar text.toList s
  rw [quoted_append, readValue?, skipSpace_cons (by decide)]
  simp [hread]

theorem readValue?_array (embeds : Bool) (fuel depth : Nat) (hspace : skipSpace s = s)
    (hs : s.head? ≠ some ']') :
    readValue? embeds (fuel + 1) (depth + 1) ('[' :: s) =
      (readItems? embeds fuel depth s).map fun p => (.array p.1, p.2) := by
  rw [readValue?, skipSpace_cons (by decide)]
  simp only [hspace]
  split
  · next h => exact absurd rfl hs
  · rfl

theorem readItems?_succ :
    readItems? embeds (fuel + 1) depth s =
      (readValue? embeds fuel depth s).bind fun p =>
        match skipSpace p.2 with
        | ',' :: s => (readItems? embeds fuel depth s).bind fun q => some (p.1 :: q.1, q.2)
        | ']' :: s => some ([p.1], s)
        | _ => none := by
  rw [readItems?]
  rfl

theorem readFields?_succ (key : String) :
    readFields? embeds (fuel + 1) depth (quoted key ++ ':' :: s) =
      (readValue? embeds fuel depth s).bind fun p =>
        match skipSpace p.2 with
        | ',' :: s =>
          (readFields? embeds fuel depth s).bind fun q => some (addField key p.1 q.1, q.2)
        | '\x7d' :: s => some ([(key, p.1)], s)
        | _ => none := by
  have hread := readString?_flatMap_escapeChar key.toList (':' :: s)
  rw [quoted_append, readFields?, skipSpace_cons (by decide)]
  simp only [hread, Option.bind_eq_bind, Option.bind_some, String.ofList_toList,
    skipSpace_cons (c := ':') (by decide)]
  rfl

private theorem afterEmbeddingKey?_quoted (key : String) :
    afterEmbeddingKey? (quoted key ++ s) = if key = embeddingKey then some s else none := by
  have hread := readString?_flatMap_escapeChar key.toList s
  rw [quoted_append, afterEmbeddingKey?, hread]
  simp

theorem readValue?_object (key : String) :
    readValue? true (fuel + 1) (depth + 1) ('\x7b' :: (quoted key ++ s)) =
      if key = embeddingKey then
        (readEmbedded? s).bind fun p =>
          (readValue? true fuel greatestDepth p.1).bind fun q =>
            if (skipSpace q.2).isEmpty then some (q.1, p.2) else none
      else (readFields? true fuel depth (quoted key ++ s)).map fun p => (.object p.1, p.2) := by
  have hspace : skipSpace (quoted key ++ s) = quoted key ++ s := by
    rw [quoted_append]
    exact skipSpace_cons (by decide)
  rw [readValue?, skipSpace_cons (by decide)]
  simp only [hspace]
  split
  · next h =>
    rw [quoted_append] at h
    exact absurd (List.cons.inj h).1 (by decide)
  · simp only [if_true, afterEmbeddingKey?_quoted]
    by_cases hkey : key = embeddingKey
    · simp only [if_pos hkey]
      rfl
    · simp only [if_neg hkey]

end Steps

section Embedded

variable {embeds : Bool} {fuel depth : Nat} {s rest : List Char}

theorem addField_of_lt {key : String} {value : Json} {fields : List (String × Json)}
    (h : ∀ k ∈ fields.map (·.1), key < k) : addField key value fields = (key, value) :: fields := by
  cases fields with
  | nil => rfl
  | cons field fields =>
    have hlt : key < field.1 := h field.1 List.mem_cons_self
    have hne : key ≠ field.1 := by
      rintro rfl
      exact String.lt_irrefl _ hlt
    rw [addField, if_neg hne, if_pos hlt]

private theorem key_mem_addField (key : String) (value : Json) (fields : List (String × Json)) :
    key ∈ (addField key value fields).map (·.1) := by
  induction fields with
  | nil => simp [addField]
  | cons field fields ih =>
    rw [addField]
    split
    · next h => simp [h]
    · split
      · simp
      · rw [List.map_cons]
        exact List.mem_cons_of_mem _ ih

private theorem first_key_mem {fields : List (String × Json)}
    (h : readFields? embeds fuel depth s = some (fields, rest)) :
    ∃ key t t', skipSpace s = '"' :: t ∧ readString? t = some (key, t') ∧
      String.ofList key ∈ fields.map (·.1) := by
  cases fuel with
  | zero => cases h
  | succ fuel =>
    rw [readFields?] at h
    split at h
    · next t ht =>
      obtain ⟨⟨key, t'⟩, hkey, h⟩ := Option.bind_eq_some_iff.mp h
      refine ⟨key, t, t', ht, hkey, ?_⟩
      dsimp only at h
      split at h
      · obtain ⟨⟨value, t''⟩, -, h⟩ := Option.bind_eq_some_iff.mp h
        dsimp only at h
        split at h
        · obtain ⟨⟨later, _⟩, -, h⟩ := Option.bind_eq_some_iff.mp h
          cases h
          exact key_mem_addField _ _ _
        · cases h
          exact List.mem_cons_self
        · cases h
      · cases h
    · cases h

/-- No text is read as an object that embeds a document: what it embeds takes its place. -/
theorem readValue?_ne_embedding {value : Json} :
    readValue? true fuel depth s ≠ some (.object [(embeddingKey, value)], rest) := by
  induction fuel generalizing depth s rest with
  | zero => simp [readValue?]
  | succ fuel ih =>
    intro h
    rw [readValue?] at h
    split at h
    case h_6 s' _ =>
      cases depth with
      | zero => cases h
      | succ depth =>
        dsimp only at h
        split at h
        · cases h
        simp only [if_true] at h
        split at h
        · next hafter =>
          obtain ⟨⟨fields, _⟩, hfields, hobject⟩ := Option.map_eq_some_iff.mp h
          cases hobject
          obtain ⟨key, t, t', hquote, hkey, hmem⟩ := first_key_mem hfields
          rw [skipSpace_skipSpace] at hquote
          have hkey' : String.ofList key = embeddingKey := by simpa using hmem
          simp [hquote, afterEmbeddingKey?, hkey, hkey'] at hafter
        · obtain ⟨⟨text, _⟩, -, h⟩ := Option.bind_eq_some_iff.mp h
          obtain ⟨⟨found, _⟩, hfound, h⟩ := Option.bind_eq_some_iff.mp h
          dsimp only at h
          split at h
          · cases h
            exact ih hfound
          · cases h
    case h_5 =>
      cases depth with
      | zero => cases h
      | succ depth =>
        dsimp only at h
        split at h <;> simp at h
    all_goals simp at h

end Embedded

end RecordTables.Json
