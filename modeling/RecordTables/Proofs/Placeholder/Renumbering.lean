import RecordTables.Proofs.Placeholder.Numbering

/-!
# Texts put together from parts

A text is numbered part by part: each part goes on with the number that the parts before it have
reached. Fragments are copied, and so are quoted names, whatever they hold.
-/

namespace RecordTables.Placeholder

/-- Read outside quotes, a part has placeholders with the numbers from `index` to before `next`, and
it is rewritten to `text`. -/
structure Renumbers (index : Nat) (part : String) (next : Nat) (text : String) : Prop where
  closed : quotingAfter none part.toList = none
  next_eq : next = index + marks none part.toList
  text_eq : numbered .postgres none index part.toList = text.toList

namespace Renumbers

theorem append {index middle next : Nat} {s t s' t' : String} (h : Renumbers index s middle t)
    (h' : Renumbers middle s' next t') : Renumbers index (s ++ s') next (t ++ t') := by
  refine ⟨?_, ?_, ?_⟩
  · rw [String.toList_append, quotingAfter_append, h.closed, h'.closed]
  · rw [String.toList_append, marks_append, h.closed, h'.next_eq, h.next_eq, Nat.add_assoc]
  · rw [String.toList_append, numbered_append, h.closed, h.text_eq, ← h.next_eq, h'.text_eq,
      String.toList_append]

theorem ofFragment {s : String} (h : IsFragment s) (index : Nat) : Renumbers index s index s :=
  ⟨h.2, by rw [h.marks, Nat.add_zero], numbered_eq_self .postgres index h.marks⟩

theorem ofToken (index : Nat) : Renumbers index token (index + 1) ("$" ++ toString index) := by
  have htoken : token.toList = ['?'] := by decide
  refine ⟨by rw [htoken]; rfl, by rw [htoken]; rfl, ?_⟩
  have hmark : isMark none '?' := rfl
  rw [htoken, numbered, if_pos hmark, numbered, List.append_nil, toList_placeholder_postgres,
    String.toList_append]
  rfl

theorem intercalate {α : Type} {separator : String} (hs : IsFragment separator) {part : α → String}
    {text : α → Nat → String}
    (h : ∀ x index, Renumbers index (part x) (index + 1) (text x index)) (xs : List α)
    (index : Nat) :
    Renumbers index (separator.intercalate (xs.map part)) (index + xs.length)
      (separator.intercalate ((xs.zipIdx index).map fun (x, k) => text x k)) := by
  induction xs generalizing index with
  | nil => exact ofFragment ⟨rfl, rfl⟩ index
  | cons x xs ih =>
    cases xs with
    | nil => simpa using h x index
    | cons y xs =>
      have hrest := ((h x index).append (ofFragment hs (index + 1))).append (ih (index + 1))
      have hlength : index + 1 + (y :: xs).length = index + (x :: y :: xs).length := by
        simp only [List.length_cons]
        omega
      rw [hlength] at hrest
      simpa only [List.map_cons, List.zipIdx_cons, String.intercalate_cons_cons] using hrest

theorem intercalate_token {α : Type} {separator : String} (hs : IsFragment separator) (xs : List α)
    (index : Nat) :
    Renumbers index (separator.intercalate (xs.map fun _ => token)) (index + xs.length)
      (separator.intercalate ((List.range' index xs.length).map fun k => "$" ++ toString k)) := by
  have h := intercalate hs (fun (_ : α) k => ofToken k) xs index
  rw [← List.zipIdx_map_snd, List.map_map]
  exact h

end Renumbers

theorem isMark_of_opens {quote : Char} (hq : step none quote = some quote) :
    isMark none quote = false := by
  cases h : isMark none quote with
  | false => rfl
  | true =>
    obtain ⟨_, rfl⟩ := isMark_iff.mp h
    cases hq

theorem step_self (quote : Char) : step (some quote) quote = none := by
  simp [step]

private theorem scan_doubled {quote : Char} (hq : step none quote = some quote) (s : List Char) :
    marks (some quote) (Text.doubled quote s) = 0 ∧
      quotingAfter (some quote) (Text.doubled quote s) = some quote := by
  induction s with
  | nil => exact ⟨rfl, rfl⟩
  | cons c s ih =>
    obtain ⟨hmarks, hquoting⟩ := ih
    have hinside (d : Char) : isMark (some quote) d = false := by simp [isMark]
    rw [Text.doubled, List.flatMap_cons, ← Text.doubled]
    by_cases hc : c = quote
    -- The first quote ends the quoted text, and the second one opens it again.
    · rw [if_pos hc, hc, marks_append, quotingAfter_append]
      simp [step_self, hq, hinside, isMark_of_opens hq, hmarks, hquoting]
    · have hstay : step (some quote) c = some quote := by simp [step, hc]
      rw [if_neg hc, marks_append, quotingAfter_append]
      simp [hstay, hinside, hmarks, hquoting]

theorem isFragment_quotedToken {quote : Char} (hq : step none quote = some quote) (s : List Char) :
    IsFragment (String.ofList (Text.quotedToken quote s)) := by
  obtain ⟨hmarks, hquoting⟩ := scan_doubled hq s
  refine ⟨offsets_eq_nil_iff.mpr ?_, ?_⟩
  · rw [String.toList_ofList, Text.quotedToken, List.cons_append, marks_cons, marks_append, hq,
      hmarks, hquoting, isMark_of_opens hq]
    simp [isMark]
  · rw [String.toList_ofList, Text.quotedToken, List.cons_append, quotingAfter_cons,
      quotingAfter_append, hq, hquoting, quotingAfter_cons, step_self]
    rfl

theorem isFragment_quoteIdentifier (name : String) (dialect : Dialect) :
    IsFragment (dialect.quoteIdentifier name) := by
  cases dialect <;> exact isFragment_quotedToken rfl name.toList

end RecordTables.Placeholder

namespace RecordTables.Query

open Placeholder

/-- A query binds the given values to its placeholders, and with the placeholders numbered its text
reads as given. -/
structure Reads (q : Query) (values : List QueryValue) (text : String) : Prop where
  values_eq : q.values = values
  checked : q.checkPlaceholders = .ok ()
  text_eq : q.dialectSql .postgres = text

theorem reads_of_renumbers {sql text : String} {values : List QueryValue}
    (h : Renumbers 1 sql (1 + values.length) text) : Reads ⟨sql, values⟩ values text := by
  refine ⟨rfl, ?_, ?_⟩
  · have hcount : placeholderCount ⟨sql, values⟩ = values.length := by
      rw [placeholderCount, count_eq]
      exact (Nat.add_left_cancel h.next_eq).symm
    rw [checkPlaceholders, if_pos hcount]
  · apply String.toList_inj.mp
    rw [dialectSql_postgres, h.text_eq]

end RecordTables.Query
