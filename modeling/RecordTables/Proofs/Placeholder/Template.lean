import Mathlib.Data.List.Induction
import RecordTables.Proofs.Placeholder.Numbering

/-!
# Templates

The text of a query is put together from fragments and placeholders. The placeholders of the whole
are then the ones put in, in their order, and for PostgreSQL they are numbered in that order.
-/

namespace RecordTables.Placeholder

/-- A text that begins with a fragment and goes on with tokens, a fragment after each. -/
def spliced (first : String) (rest : List (String × String)) : String :=
  first ++ String.join (rest.map fun (mark, fragment) => mark ++ fragment)

@[simp] theorem spliced_nil (first : String) : spliced first [] = first := by
  simp [spliced]

private theorem spliced_concat (first mark fragment : String) (rest : List (String × String)) :
    spliced first (rest ++ [(mark, fragment)]) = spliced first rest ++ mark ++ fragment := by
  simp [spliced, String.append_assoc]

theorem exists_spliced_eq {first mark fragment : String} {rest : List (String × String)} {k : Nat}
    (h : rest[k]? = some (mark, fragment)) :
    ∃ after, spliced first rest = spliced first (rest.take k) ++ mark ++ after := by
  obtain ⟨hk, hpart⟩ := List.getElem?_eq_some_iff.mp h
  have hsplit : rest = rest.take k ++ (mark, fragment) :: rest.drop (k + 1) := by
    rw [← hpart, ← List.drop_eq_getElem_cons hk, List.take_append_drop]
  refine ⟨spliced fragment (rest.drop (k + 1)), ?_⟩
  conv_lhs => rw [hsplit]
  simp [spliced, String.append_assoc]

private theorem scan_append_token {sql fragment : String} (hs : quotingAfter none sql.toList = none)
    (hf : IsFragment fragment) :
    scan (sql ++ token ++ fragment) = scan sql ++ [sql.utf8ByteSize] ∧
      quotingAfter none (sql ++ token ++ fragment).toList = none := by
  have htoken : token.toList = ['?'] := by decide
  have hmark : step none '?' = none := rfl
  simp only [scan, String.toList_append, htoken, offsets_append, quotingAfter_append, hs,
    quotingAfter_cons, quotingAfter_nil, hmark, hf.2, offsets_eq_nil_iff.mpr hf.marks, width_toList]
  simp [offsets, isMark_iff]

/-- The scan of a spliced text finds the places where the tokens were put. -/
theorem scan_spliced {first : String} {rest : List (String × String)} (hfirst : IsFragment first)
    (hrest : ∀ part ∈ rest, part.1 = token ∧ IsFragment part.2) :
    scan (spliced first rest) =
        (List.range rest.length).map (fun k => (spliced first (rest.take k)).utf8ByteSize) ∧
      quotingAfter none (spliced first rest).toList = none := by
  induction rest using List.reverseRecOn with
  | nil => simpa using! hfirst
  | append_singleton rest part ih =>
    obtain ⟨hinit, hlast⟩ := List.forall_mem_append.mp hrest
    obtain ⟨mark, fragment⟩ := part
    obtain ⟨rfl, hfragment⟩ := hlast _ (List.mem_singleton.mpr rfl)
    obtain ⟨hscan, hclosed⟩ := ih hinit
    have hnext := scan_append_token hclosed hfragment
    rw [← spliced_concat, hscan] at hnext
    refine ⟨?_, hnext.2⟩
    rw [hnext.1, List.length_append, List.length_singleton, List.range_succ, List.map_append,
      List.map_singleton, List.take_left]
    congr 1
    apply List.map_congr_left
    intro k hk
    rw [List.take_append_of_le_length (Nat.le_of_lt (List.mem_range.mp hk))]

end RecordTables.Placeholder
