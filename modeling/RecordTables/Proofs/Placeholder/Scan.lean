import RecordTables.Query

/-!
# Scanning a text in parts

The scan of a text is that of its parts one after another. Each part is read inside the quotes that
the parts before it leave open, and its offsets are moved by the bytes before it. A fragment is a
part without a placeholder that leaves no quote open.
-/

namespace RecordTables.Placeholder

def width (s : List Char) : Nat :=
  (s.map Char.utf8Size).sum

@[simp] theorem width_nil : width [] = 0 := rfl

@[simp] theorem width_cons (c : Char) (s : List Char) : width (c :: s) = c.utf8Size + width s := by
  simp [width]

@[simp] theorem width_append (s t : List Char) : width (s ++ t) = width s + width t := by
  simp [width]

theorem width_eq (s : List Char) : width s = (String.ofList s).utf8ByteSize := by
  induction s with
  | nil => rfl
  | cons c s ih =>
    rw [width_cons, ih, String.ofList_cons, String.utf8ByteSize_append,
      String.utf8ByteSize_singleton]

theorem width_toList (s : String) : width s.toList = s.utf8ByteSize := by
  rw [width_eq, String.ofList_toList]

/-- The quote that the text after some characters is inside of. -/
def quotingAfter (quoting : Quoting) (s : List Char) : Quoting :=
  s.foldl step quoting

@[simp] theorem quotingAfter_nil (quoting : Quoting) : quotingAfter quoting [] = quoting := rfl

@[simp] theorem quotingAfter_cons (quoting : Quoting) (c : Char) (s : List Char) :
    quotingAfter quoting (c :: s) = quotingAfter (step quoting c) s := rfl

@[simp] theorem quotingAfter_append (quoting : Quoting) (s t : List Char) :
    quotingAfter quoting (s ++ t) = quotingAfter (quotingAfter quoting s) t :=
  List.foldl_append

theorem isMark_iff {quoting : Quoting} {c : Char} :
    isMark quoting c ↔ quoting = none ∧ c = '?' := by
  simp [isMark]

theorem offsets_append (quoting : Quoting) (start : Nat) (s t : List Char) :
    offsets quoting start (s ++ t) =
      offsets quoting start s ++ offsets (quotingAfter quoting s) (start + width s) t := by
  induction s generalizing quoting start with
  | nil => simp [offsets]
  | cons c s ih =>
    simp only [List.cons_append, offsets, ih, quotingAfter_cons, width_cons, Nat.add_assoc]
    split <;> simp

private theorem offsets_add (quoting : Quoting) (start shift : Nat) (s : List Char) :
    offsets quoting (start + shift) s = (offsets quoting start s).map (· + shift) := by
  induction s generalizing quoting start with
  | nil => rfl
  | cons c s ih =>
    have h := ih (step quoting c) (start + c.utf8Size)
    rw [Nat.add_right_comm] at h
    simp only [offsets, h]
    split <;> simp

/-- The count of the placeholders of a part that is read inside a quote or none. -/
def marks (quoting : Quoting) (s : List Char) : Nat :=
  (offsets quoting 0 s).length

private theorem length_offsets (quoting : Quoting) (start : Nat) (s : List Char) :
    (offsets quoting start s).length = marks quoting s := by
  have h := offsets_add quoting 0 start s
  rw [Nat.zero_add] at h
  rw [h, List.length_map, marks]

@[simp] theorem marks_nil (quoting : Quoting) : marks quoting [] = 0 := rfl

@[simp] theorem marks_cons (quoting : Quoting) (c : Char) (s : List Char) :
    marks quoting (c :: s) = (if isMark quoting c then 1 else 0) + marks (step quoting c) s := by
  rw [marks, offsets]
  split
  · rw [List.length_cons, length_offsets, Nat.add_comm]
  · rw [length_offsets, Nat.zero_add]

@[simp] theorem marks_append (quoting : Quoting) (s t : List Char) :
    marks quoting (s ++ t) = marks quoting s + marks (quotingAfter quoting s) t := by
  rw [marks, offsets_append, List.length_append, length_offsets, length_offsets]

theorem offsets_eq_nil_iff {quoting : Quoting} {start : Nat} {s : List Char} :
    offsets quoting start s = [] ↔ marks quoting s = 0 := by
  rw [← List.length_eq_zero_iff, length_offsets]

theorem count_eq (sql : String) : count sql = marks none sql.toList := rfl

private theorem mem_offsets_cons {quoting : Quoting} {start place : Nat} {c : Char}
    {s : List Char} :
    place ∈ offsets quoting start (c :: s) ↔
      (isMark quoting c ∧ place = start) ∨
        place ∈ offsets (step quoting c) (start + c.utf8Size) s := by
  rw [offsets]
  by_cases hc : isMark quoting c <;> simp [hc]

theorem mem_offsets {quoting : Quoting} {start place : Nat} {s : List Char} :
    place ∈ offsets quoting start s ↔ ∃ before after, s = before ++ '?' :: after ∧
      quotingAfter quoting before = none ∧ place = start + width before := by
  induction s generalizing quoting start with
  | nil => simp [offsets]
  | cons c s ih =>
    rw [mem_offsets_cons, ih]
    constructor
    · rintro (⟨hc, rfl⟩ | ⟨before, after, rfl, hq, rfl⟩)
      · obtain ⟨hq, rfl⟩ := isMark_iff.mp hc
        exact ⟨[], s, rfl, hq, rfl⟩
      · exact ⟨c :: before, after, rfl, hq, by simp [Nat.add_assoc]⟩
    · rintro ⟨before, after, hs, hq, rfl⟩
      cases before with
      | nil =>
        obtain ⟨rfl, rfl⟩ := List.cons.inj hs
        exact .inl ⟨isMark_iff.mpr ⟨hq, rfl⟩, rfl⟩
      | cons d before =>
        obtain ⟨rfl, rfl⟩ := List.cons.inj hs
        exact .inr ⟨before, after, rfl, hq, by simp [Nat.add_assoc]⟩

theorem le_of_mem_offsets {quoting : Quoting} {start place : Nat} {s : List Char}
    (h : place ∈ offsets quoting start s) : start ≤ place := by
  obtain ⟨before, _, _, _, rfl⟩ := mem_offsets.mp h
  exact Nat.le_add_right _ _

theorem pairwise_offsets (quoting : Quoting) (start : Nat) (s : List Char) :
    (offsets quoting start s).Pairwise (· < ·) := by
  induction s generalizing quoting start with
  | nil => exact .nil
  | cons c s ih =>
    rw [offsets]
    split
    · refine .cons ?_ (ih _ _)
      intro place hp
      have hle := le_of_mem_offsets hp
      have hpos := c.utf8Size_pos
      omega
    · exact ih _ _

theorem numbered_append (dialect : Dialect) (quoting : Quoting) (index : Nat) (s t : List Char) :
    numbered dialect quoting index (s ++ t) = numbered dialect quoting index s ++
      numbered dialect (quotingAfter quoting s) (index + marks quoting s) t := by
  induction s generalizing quoting index with
  | nil => rfl
  | cons c s ih =>
    by_cases hc : isMark quoting c <;> simp [numbered, hc, ih, Nat.add_assoc]

theorem numbered_eq_self (dialect : Dialect) {quoting : Quoting} (index : Nat) {s : List Char}
    (h : marks quoting s = 0) : numbered dialect quoting index s = s := by
  induction s generalizing quoting with
  | nil => rfl
  | cons c s ih =>
    by_cases hc : isMark quoting c
    · simp [hc] at h
    · have hs : marks (step quoting c) s = 0 := by simpa [hc] using h
      rw [numbered, if_neg hc, ih hs]

/-- Whether a character is neither a quote nor a question mark. -/
def isOrdinary (c : Char) : Bool :=
  c ≠ '\'' ∧ c ≠ '"' ∧ c ≠ '?'

private theorem step_of_isOrdinary {c : Char} (h : isOrdinary c) : step none c = none := by
  simp only [isOrdinary, decide_eq_true_eq] at h
  simp [step, h]

private theorem isMark_of_isOrdinary {c : Char} (quoting : Quoting) (h : isOrdinary c) :
    isMark quoting c = false := by
  simp only [isOrdinary, decide_eq_true_eq] at h
  simp [isMark, h]

/-- A text without placeholders that leaves no quote open. -/
def IsFragment (sql : String) : Prop :=
  scan sql = [] ∧ quotingAfter none sql.toList = none

instance (sql : String) : Decidable (IsFragment sql) :=
  inferInstanceAs (Decidable (_ ∧ _))

theorem IsFragment.marks {sql : String} (h : IsFragment sql) : marks none sql.toList = 0 :=
  offsets_eq_nil_iff.mp h.1

theorem IsFragment.count_eq {sql : String} (h : IsFragment sql) : count sql = 0 := by
  rw [count, h.1]
  rfl

theorem IsFragment.append {s t : String} (hs : IsFragment s) (ht : IsFragment t) :
    IsFragment (s ++ t) := by
  refine ⟨offsets_eq_nil_iff.mpr ?_, ?_⟩
  · rw [String.toList_append, marks_append, hs.marks, hs.2, ht.marks]
  · rw [String.toList_append, quotingAfter_append, hs.2, ht.2]

theorem IsFragment.intercalate {separator : String} {parts : List String}
    (hs : IsFragment separator) (hp : ∀ part ∈ parts, IsFragment part) :
    IsFragment (separator.intercalate parts) := by
  induction parts with
  | nil => exact ⟨rfl, rfl⟩
  | cons part parts ih =>
    obtain ⟨hpart, hparts⟩ := List.forall_mem_cons.mp hp
    cases parts with
    | nil => simpa using hpart
    | cons next rest =>
      rw [String.intercalate_cons_cons]
      exact (hpart.append hs).append (ih hparts)

theorem isFragment_of_isOrdinary {sql : String} (h : ∀ c ∈ sql.toList, isOrdinary c) :
    IsFragment sql := by
  suffices hs : ∀ s : List Char, (∀ c ∈ s, isOrdinary c) →
      marks none s = 0 ∧ quotingAfter none s = none from
    ⟨offsets_eq_nil_iff.mpr (hs _ h).1, (hs _ h).2⟩
  intro s hs
  induction s with
  | nil => exact ⟨rfl, rfl⟩
  | cons c s ih =>
    obtain ⟨hc, hrest⟩ := List.forall_mem_cons.mp hs
    simp [step_of_isOrdinary hc, isMark_of_isOrdinary none hc, ih hrest]

end RecordTables.Placeholder
