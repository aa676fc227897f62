import Mathlib.Data.List.Nodup
import RecordTables.Table

/-!
# Repeated names

The names of a list that appear more than once are listed once each, in the order in which their
second appearances stand in the list. So a list without such names has none that appears twice.
-/

namespace RecordTables

def secondPosition? (names : List String) (name : String) : Option Nat :=
  (names.idxsOf name)[1]?

/-- The second appearance of `a` stands before that of `b`. -/
def IsRepeatedBefore (names : List String) (a b : String) : Prop :=
  ∃ i j, secondPosition? names a = some i ∧ secondPosition? names b = some j ∧ i < j

variable {names rest seen repeated read : List String} {a b name : String} {i : Nat}

private theorem secondPosition?_append (h : secondPosition? names a = some i) :
    secondPosition? (names ++ rest) a = some i := by
  obtain ⟨hlt, -⟩ := List.getElem?_eq_some_iff.mp h
  rw [secondPosition?, List.idxsOf_append, List.getElem?_append_left hlt]
  exact h

private theorem secondPosition?_lt (h : secondPosition? names a = some i) : i < names.length := by
  obtain ⟨hlt, rfl⟩ := List.getElem?_eq_some_iff.mp h
  exact List.getElem_idxsOf_lt hlt

private theorem exists_secondPosition? (h : 2 ≤ names.count a) :
    ∃ i, secondPosition? names a = some i := by
  rw [← List.length_idxsOf (s := 0)] at h
  exact ⟨_, List.getElem?_eq_getElem h⟩

theorem IsRepeatedBefore.append (h : IsRepeatedBefore names a b) :
    IsRepeatedBefore (names ++ rest) a b := by
  obtain ⟨i, j, ha, hb, hlt⟩ := h
  exact ⟨i, j, secondPosition?_append ha, secondPosition?_append hb, hlt⟩

private theorem IsRepeatedBefore.ne (h : IsRepeatedBefore names a b) : a ≠ b := by
  rintro rfl
  obtain ⟨i, j, hi, hj, hlt⟩ := h
  rw [hi] at hj
  cases hj
  exact Nat.lt_irrefl i hlt

private theorem isRepeatedBefore_last (ha : 2 ≤ names.count a) (hname : names.count name = 1) :
    IsRepeatedBefore (names ++ [name]) a name := by
  obtain ⟨i, hi⟩ := exists_secondPosition? ha
  refine ⟨i, names.length, secondPosition?_append hi, ?_, secondPosition?_lt hi⟩
  have hlength : (names.idxsOf name).length = 1 := by rw [List.length_idxsOf, hname]
  rw [secondPosition?, List.idxsOf_append, List.getElem?_append_right (Nat.le_of_eq hlength),
    hlength]
  simp

/-- What has been seen and what has been found repeated in the names that have been read. -/
structure Tracks (seen repeated read : List String) : Prop where
  mem_seen : ∀ name, name ∈ seen ↔ name ∈ read
  mem_repeated : ∀ name, name ∈ repeated ↔ 2 ≤ read.count name
  inOrder : repeated.Pairwise (IsRepeatedBefore read)

namespace Tracks

theorem nil : Tracks [] [] [] :=
  ⟨fun _ => Iff.rfl, by simp, .nil⟩

private theorem count_eq_zero (h : Tracks seen repeated read) (hseen : name ∉ seen) :
    read.count name = 0 := by
  rwa [List.count_eq_zero, ← h.mem_seen]

private theorem count_eq_one (h : Tracks seen repeated read) (hseen : name ∈ seen)
    (hrepeated : name ∉ repeated) : read.count name = 1 := by
  have hpos := List.count_pos_iff.mpr ((h.mem_seen name).mp hseen)
  rw [h.mem_repeated] at hrepeated
  omega

private theorem mem_seen_of_mem (h : Tracks seen repeated read) (hseen : name ∈ seen)
    (other : String) :
    other ∈ seen ↔ other ∈ read ++ [name] := by
  rw [List.mem_append, List.mem_singleton, ← h.mem_seen]
  exact ⟨.inl, fun hother => hother.elim id (· ▸ hseen)⟩

/-- Of the names that are found repeated only the one that is read can be new. -/
private theorem count_concat_iff (h : Tracks seen repeated read) (other : String) :
    2 ≤ (read ++ [name]).count other ↔
      other ∈ repeated ∨ other = name ∧ 1 ≤ read.count name := by
  simp only [h.mem_repeated, List.count_append, List.count_singleton, beq_iff_eq]
  split
  · next hname =>
    subst hname
    simp only [true_and]
    omega
  · next hname => simp [Ne.symm hname]

theorem first (h : Tracks seen repeated read) (hseen : name ∉ seen) :
    Tracks (seen ++ [name]) repeated (read ++ [name]) where
  mem_seen other := by rw [List.mem_append, List.mem_append, h.mem_seen]
  mem_repeated other := by
    rw [h.count_concat_iff, h.count_eq_zero hseen]
    simp
  inOrder := h.inOrder.imp .append

theorem second (h : Tracks seen repeated read) (hseen : name ∈ seen)
    (hrepeated : name ∉ repeated) :
    Tracks seen (repeated ++ [name]) (read ++ [name]) where
  mem_seen := h.mem_seen_of_mem hseen
  mem_repeated other := by
    rw [h.count_concat_iff, h.count_eq_one hseen hrepeated]
    simp
  inOrder := by
    refine List.pairwise_append.mpr ⟨h.inOrder.imp .append, List.pairwise_singleton _ _, ?_⟩
    intro other hother last hlast
    rw [List.mem_singleton.mp hlast]
    exact isRepeatedBefore_last ((h.mem_repeated other).mp hother)
      (h.count_eq_one hseen hrepeated)

theorem again (h : Tracks seen repeated read) (hseen : name ∈ seen) (hrepeated : name ∈ repeated) :
    Tracks seen repeated (read ++ [name]) where
  mem_seen := h.mem_seen_of_mem hseen
  mem_repeated other := by
    rw [h.count_concat_iff]
    exact ⟨.inl, fun hother => hother.elim id fun hname => hname.1 ▸ hrepeated⟩
  inOrder := h.inOrder.imp .append

theorem repeatedAfter (h : Tracks seen repeated read) (rest : List String) :
    ∃ seen', Tracks seen' (repeatedAfter seen repeated rest) (read ++ rest) := by
  induction rest generalizing seen repeated read with
  | nil => exact ⟨seen, by rwa [List.append_nil]⟩
  | cons name rest ih =>
    rw [RecordTables.repeatedAfter, List.append_cons read name rest]
    split
    · next hseen =>
      split
      · next hrepeated => exact ih (h.again hseen hrepeated)
      · next hrepeated => exact ih (h.second hseen hrepeated)
    · next hseen => exact ih (h.first hseen)

end Tracks

private theorem tracks_repeatedNames (names : List String) :
    ∃ seen, Tracks seen (repeatedNames names) names :=
  Tracks.nil.repeatedAfter names

private theorem mem_repeatedNames_iff : name ∈ repeatedNames names ↔ 2 ≤ names.count name := by
  obtain ⟨seen, h⟩ := tracks_repeatedNames names
  exact h.mem_repeated name

private theorem pairwise_repeatedNames (names : List String) :
    (repeatedNames names).Pairwise (IsRepeatedBefore names) := by
  obtain ⟨seen, h⟩ := tracks_repeatedNames names
  exact h.inOrder

theorem repeatedNames_eq_nil_iff : repeatedNames names = [] ↔ names.Nodup := by
  rw [List.eq_nil_iff_forall_not_mem, List.nodup_iff_count_le_one]
  simp only [mem_repeatedNames_iff, Nat.not_le, Nat.lt_succ_iff]

/-- The names that are reported as repeated are those that appear at least twice, each of them once
and in the order of their second appearances. None is reported if and only if no name appears
twice. -/
theorem repeated_names_are_listed_once (names : List String) :
    (∀ name, name ∈ repeatedNames names ↔ 2 ≤ names.count name) ∧
      (repeatedNames names).Nodup ∧
      (repeatedNames names).Pairwise (IsRepeatedBefore names) ∧
      (repeatedNames names = [] ↔ names.Nodup) := by
  have hpairwise := pairwise_repeatedNames names
  exact ⟨fun _ => mem_repeatedNames_iff, hpairwise.imp IsRepeatedBefore.ne, hpairwise,
    repeatedNames_eq_nil_iff⟩

/-- The name that comes first is not the first that is repeated. -/
example : repeatedNames ["id", "name", "name", "id", "name"] = ["name", "id"] := by decide

end RecordTables
