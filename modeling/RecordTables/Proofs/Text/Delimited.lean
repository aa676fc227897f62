import Mathlib.Data.List.TakeWhile
import RecordTables.Text

/-!
# Texts that can be told apart

Parts are written one after another, with a separator before each of them. The text says what has
been written if each part does so by itself, before whatever may follow it.
-/

namespace RecordTables.Text

variable {α β : Type}

private theorem takeWhile_append_of_notMem {c : Char} {s rest : List Char} (hs : c ∉ s)
    (hrest : ∀ d, rest.head? = some d → d = c) : (s ++ rest).takeWhile (· ≠ c) = s := by
  have hinside : ∀ d ∈ s, decide (d ≠ c) = true := by
    intro d hd
    exact decide_eq_true fun hdc => hs (hdc ▸ hd)
  have hstop : rest.takeWhile (· ≠ c) = [] := by
    cases rest with
    | nil => rfl
    | cons d rest => simp [hrest d rfl]
  rw [List.takeWhile_append_of_pos hinside, hstop, List.append_nil]

theorem append_inj_of_notMem {c : Char} {s t x y : String} (hs : c ∉ s.toList) (ht : c ∉ t.toList)
    (hx : ∀ d, x.toList.head? = some d → d = c) (hy : ∀ d, y.toList.head? = some d → d = c)
    (h : s ++ x = t ++ y) : s = t ∧ x = y := by
  have hst : s = t := by
    have htake := congrArg (fun u : String => u.toList.takeWhile (· ≠ c)) h
    simp only [String.toList_append] at htake
    rw [takeWhile_append_of_notMem hs hx, takeWhile_append_of_notMem ht hy] at htake
    exact String.toList_inj.mp htake
  rw [hst, String.append_right_inj] at h
  exact ⟨hst, h⟩

/-- A text that is cut at two places is cut at one and the same, or one cut is in what follows the
other. -/
theorem append_cons_eq_append_cons {a b : α} {s t x y : List α} (h : s ++ a :: x = t ++ b :: y) :
    s = t ∧ a = b ∧ x = y ∨ (∃ m, t = s ++ a :: m ∧ x = m ++ b :: y) ∨
      ∃ m, s = t ++ b :: m ∧ y = m ++ a :: x := by
  rcases List.append_eq_append_iff.mp h with ⟨m, rfl, hm⟩ | ⟨m, rfl, hm⟩
  · cases m with
    | nil =>
      obtain ⟨hab, hxy⟩ := List.cons_eq_cons.mp hm
      exact .inl ⟨(List.append_nil s).symm, hab, hxy⟩
    | cons c m =>
      obtain ⟨rfl, hx⟩ := List.cons_eq_cons.mp hm
      exact .inr (.inl ⟨m, rfl, hx⟩)
  · cases m with
    | nil =>
      obtain ⟨hba, hyx⟩ := List.cons_eq_cons.mp hm
      exact .inl ⟨List.append_nil t, hba.symm, hyx.symm⟩
    | cons c m =>
      obtain ⟨rfl, hy⟩ := List.cons_eq_cons.mp hm
      exact .inr (.inr ⟨m, rfl, hy⟩)

theorem append_cons_inj_of_notMem {a : α} {s t x y : List α} (hs : a ∉ s) (ht : a ∉ t)
    (h : s ++ a :: x = t ++ a :: y) : s = t ∧ x = y := by
  rcases append_cons_eq_append_cons h with ⟨hst, _, hxy⟩ | ⟨m, rfl, _⟩ | ⟨m, rfl, _⟩
  · exact ⟨hst, hxy⟩
  · exact absurd (List.mem_append_right _ List.mem_cons_self) ht
  · exact absurd (List.mem_append_right _ List.mem_cons_self) hs

theorem mem_tail_iff {a : α} {s : List α} : a ∈ s.tail ↔ ∃ t x, t ≠ [] ∧ s = t ++ a :: x := by
  constructor
  · intro ha
    cases s with
    | nil => cases ha
    | cons b s =>
      obtain ⟨t, x, rfl⟩ := List.append_of_mem ha
      exact ⟨b :: t, x, List.cons_ne_nil b t, rfl⟩
  · rintro ⟨t, x, ht, rfl⟩
    rw [List.tail_append_of_ne_nil ht]
    exact List.mem_append_right _ List.mem_cons_self

theorem mem_dropLast_iff {a : α} {s : List α} :
    a ∈ s.dropLast ↔ ∃ t x, x ≠ [] ∧ s = t ++ a :: x := by
  constructor
  · intro ha
    have hs : s ≠ [] := by
      rintro rfl
      cases ha
    obtain ⟨t, x, htx⟩ := List.append_of_mem ha
    refine ⟨t, x ++ [s.getLast hs], by simp, ?_⟩
    rw [← List.cons_append, ← List.append_assoc, ← htx, List.dropLast_concat_getLast hs]
  · rintro ⟨t, x, hx, rfl⟩
    rw [List.dropLast_append_of_ne_nil (List.cons_ne_nil _ _), List.dropLast_cons_of_ne_nil hx]
    exact List.mem_append_right _ List.mem_cons_self

def joined (separator : String) : List String → String
  | [] => ""
  | part :: parts => separator ++ (part ++ joined separator parts)

private theorem append_intercalate (separator part : String) (parts : List String) :
    separator ++ separator.intercalate (part :: parts) = joined separator (part :: parts) := by
  induction parts generalizing part with
  | nil => simp [joined]
  | cons next parts ih =>
    rw [String.intercalate_cons_cons, joined, ← ih next]
    simp [String.append_assoc]

/-- What is written of things of a certain kind can be read back before texts of a certain form. -/
def Delimits (valid : α → Prop) (write : α → String) (read : α → β) (rest : String → Prop) : Prop :=
  ∀ a b x y, valid a → valid b → rest x → rest y → write a ++ x = write b ++ y →
    read a = read b ∧ x = y

theorem Delimits.joined {valid : α → Prop} {write : α → String} {read : α → β}
    {rest : String → Prop} (h : Delimits valid write read rest) {separator : String}
    (hseparator : separator ≠ "") (hrest : ∀ parts, rest (joined separator parts)) {as bs : List α}
    (has : ∀ a ∈ as, valid a) (hbs : ∀ b ∈ bs, valid b)
    (heq : Text.joined separator (as.map write) = Text.joined separator (bs.map write)) :
    as.map read = bs.map read := by
  have hnonempty (s : String) : separator ++ s ≠ "" := by
    intro hempty
    exact hseparator (String.append_eq_empty_iff.mp hempty).1
  induction as generalizing bs with
  | nil =>
    cases bs with
    | nil => rfl
    | cons b bs => exact absurd heq.symm (hnonempty _)
  | cons a as ih =>
    cases bs with
    | nil => exact absurd heq (hnonempty _)
    | cons b bs =>
      obtain ⟨ha, has⟩ := List.forall_mem_cons.mp has
      obtain ⟨hb, hbs⟩ := List.forall_mem_cons.mp hbs
      have hparts := (String.append_right_inj separator).mp heq
      obtain ⟨hread, htail⟩ := h a b _ _ ha hb (hrest _) (hrest _) hparts
      rw [List.map_cons, List.map_cons, hread, ih has hbs htail]

theorem Delimits.intercalate {valid : α → Prop} {write : α → String} {read : α → β}
    {rest : String → Prop} (h : Delimits valid write read rest) {separator : String}
    (hseparator : separator ≠ "") (hrest : ∀ parts, rest (Text.joined separator parts))
    {as bs : List α} (ha : as ≠ []) (hb : bs ≠ []) (has : ∀ a ∈ as, valid a)
    (hbs : ∀ b ∈ bs, valid b)
    (heq : separator.intercalate (as.map write) = separator.intercalate (bs.map write)) :
    as.map read = bs.map read := by
  apply h.joined hseparator hrest has hbs
  obtain ⟨a, as, rfl⟩ := List.exists_cons_of_ne_nil ha
  obtain ⟨b, bs, rfl⟩ := List.exists_cons_of_ne_nil hb
  rw [List.map_cons, List.map_cons, ← append_intercalate, ← append_intercalate]
  exact congrArg (separator ++ ·) heq

end RecordTables.Text
