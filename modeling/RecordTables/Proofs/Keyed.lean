import Mathlib.Data.List.Nodup

/-!
# Lists with distinct keys

An element of a list with distinct keys is found by its key, in whatever order the elements stand.
-/

namespace RecordTables

variable {α β : Type} [DecidableEq β] {key : α → β} {k : β} {xs ys : List α} {x : α}

theorem find?_key_eq_some (hn : (xs.map key).Nodup) (hx : x ∈ xs) :
    xs.find? (fun y => key y = key x) = some x := by
  cases hfind : xs.find? fun y => key y = key x with
  | none => simpa using List.find?_eq_none.mp hfind x hx
  | some y =>
    have hkey : key y = key x := by simpa using List.find?_some hfind
    rw [List.inj_on_of_nodup_map hn (List.mem_of_find?_eq_some hfind) hx hkey]

theorem find?_key_eq_some_iff (hn : (xs.map key).Nodup) :
    xs.find? (fun y => key y = k) = some x ↔ x ∈ xs ∧ key x = k := by
  constructor
  · intro h
    exact ⟨List.mem_of_find?_eq_some h, by simpa using List.find?_some h⟩
  · intro h
    rw [← h.2]
    exact find?_key_eq_some hn h.1

theorem find?_key_eq_of_perm (hp : xs.Perm ys) (hn : (xs.map key).Nodup) (k : β) :
    xs.find? (fun y => key y = k) = ys.find? (fun y => key y = k) := by
  have hys : (ys.map key).Nodup := (hp.map key).nodup_iff.mp hn
  ext x
  rw [find?_key_eq_some_iff hn, find?_key_eq_some_iff hys, hp.mem_iff]

end RecordTables
