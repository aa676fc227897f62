import RecordTables.Json.Printer
import RecordTables.Proofs.Floating.Meaning

/-!
# Equal documents

Two documents are equal exactly if they are the same tree once the sign is taken off zeros. Their
texts tell such documents apart: equal documents with the same text are identical.
-/

namespace RecordTables

open RecordTables.Floating

namespace JsonNumber

/-- The number without the sign of a zero. -/
def positiveZero : JsonNumber → JsonNumber
  | .integer n fits => .integer n fits
  | .float x finite => .float x.positiveZero (Double.isFinite_positiveZero finite)

theorem same_iff (m n : JsonNumber) : m.same n ↔ m.positiveZero = n.positiveZero := by
  cases m with
  | integer m =>
    cases n with
    | integer n => simp [same, positiveZero]
    | float => simp [same, positiveZero]
  | float x hx =>
    cases n with
    | integer => simp [same, positiveZero]
    | float y hy => rw [same, Double.sameNumber_iff hx hy, positiveZero, positiveZero, float.injEq]

private theorem chars_zero {x : Double} {finite : x.isFinite = true} {negative : Bool}
    {exponent : Int} (h : x.meaning = .number negative 0 exponent) :
    (JsonNumber.float x finite).chars =
      if negative then ['-', '0', '.', '0'] else ['0', '.', '0'] := by
  have hzero : NumeralStyle.document.decimal ⟨0, 0⟩ = ['0', '.', '0'] := by decide
  rw [chars, h]
  simp only [NumeralStyle.meaning, if_true, hzero]

private theorem eq_of_same_of_append {m n : JsonNumber} {r s : List Char} (h : m.same n)
    (hchars : m.chars ++ r = n.chars ++ s) : m = n := by
  cases m with
  | integer m =>
    cases n with
    | integer n => simpa [same] using h
    | float => cases h
  | float x hx =>
    cases n with
    | integer => cases h
    | float y hy =>
      obtain ⟨negative, k, e, hmx⟩ := Double.exists_meaning_of_isFinite hx
      obtain ⟨negative', l, d, hmy⟩ := Double.exists_meaning_of_isFinite hy
      have hsign : negative = negative' := by
        by_cases hzero : k = 0 ∧ l = 0
        · rw [hzero.1] at hmx
          rw [hzero.2] at hmy
          rw [chars_zero hmx, chars_zero hmy] at hchars
          cases negative <;> cases negative' <;> simp at hchars ⊢
        · rw [same, hmx, hmy, Meaning.sameNumber, if_neg hzero, decide_eq_true_eq] at h
          exact h.1
      subst hsign
      simp only [Double.eq_of_sameNumber hmx hmy h]

end JsonNumber

namespace Json

mutual

/-- The document without the signs of zeros. -/
def positiveZeros : Json → Json
  | .number n => .number n.positiveZero
  | .array items => .array (positiveZerosOfItems items)
  | .object fields => .object (positiveZerosOfFields fields)
  | j => j

def positiveZerosOfItems : List Json → List Json
  | [] => []
  | item :: rest => item.positiveZeros :: positiveZerosOfItems rest

def positiveZerosOfFields : List (String × Json) → List (String × Json)
  | [] => []
  | (key, value) :: rest => (key, value.positiveZeros) :: positiveZerosOfFields rest

end

mutual

theorem same_iff (a b : Json) : a.same b ↔ a.positiveZeros = b.positiveZeros := by
  cases a with
  | number m => cases b <;> simp [same, positiveZeros, JsonNumber.same_iff]
  | array as => cases b <;> simp [same, positiveZeros, sameItems_iff as]
  | object as => cases b <;> simp [same, positiveZeros, sameFields_iff as]
  | _ => cases b <;> simp [same, positiveZeros]

theorem sameItems_iff (as bs : List Json) :
    sameItems as bs ↔ positiveZerosOfItems as = positiveZerosOfItems bs := by
  cases as with
  | nil => cases bs <;> simp [sameItems, positiveZerosOfItems]
  | cons a as =>
    cases bs with
    | nil => simp [sameItems, positiveZerosOfItems]
    | cons b bs => simp [sameItems, positiveZerosOfItems, same_iff a b, sameItems_iff as bs]

theorem sameFields_iff (as bs : List (String × Json)) :
    sameFields as bs ↔ positiveZerosOfFields as = positiveZerosOfFields bs := by
  match as, bs with
  | [], [] => simp [sameFields, positiveZerosOfFields]
  | [], (_, _) :: _ => simp [sameFields, positiveZerosOfFields]
  | (_, _) :: _, [] => simp [sameFields, positiveZerosOfFields]
  | (k, a) :: as, (l, b) :: bs =>
    simp [sameFields, positiveZerosOfFields, same_iff a b, sameFields_iff as bs, and_assoc]

end

theorem itemsChars_cons (item : Json) (rest : List Json) :
    itemsChars (item :: rest) =
      item.chars ++ if rest.isEmpty then [] else ',' :: itemsChars rest := by
  cases rest with
  | nil => simp [itemsChars]
  | cons => simp [itemsChars]

theorem fieldsChars_cons (key : String) (value : Json) (rest : List (String × Json)) :
    fieldsChars ((key, value) :: rest) =
      quoted key ++
        ':' :: (value.chars ++ if rest.isEmpty then [] else ',' :: fieldsChars rest) := by
  cases rest with
  | nil => simp [fieldsChars]
  | cons => simp [fieldsChars]

mutual

/-- Equal documents whose texts start two texts alike are identical. -/
theorem eq_of_same_of_append {a b : Json} {r s : List Char} (h : a.same b)
    (hchars : a.chars ++ r = b.chars ++ s) : a = b := by
  cases a with
  | null =>
    cases b with
    | null => rfl
    | _ => cases h
  | bool =>
    cases b with
    | bool => simpa [same] using h
    | _ => cases h
  | number m =>
    cases b with
    | number n => rw [JsonNumber.eq_of_same_of_append h hchars]
    | _ => cases h
  | string =>
    cases b with
    | string => simpa [same] using h
    | _ => cases h
  | array as =>
    cases b with
    | array bs =>
      simp only [chars, List.cons_append, List.append_assoc, List.cons.injEq, true_and] at hchars
      rw [eq_of_sameItems_of_append h hchars]
    | _ => cases h
  | object as =>
    cases b with
    | object bs =>
      simp only [chars, List.cons_append, List.append_assoc, List.cons.injEq, true_and] at hchars
      rw [eq_of_sameFields_of_append h hchars]
    | _ => cases h

theorem eq_of_sameItems_of_append {as bs : List Json} {r s : List Char} (h : sameItems as bs)
    (hchars : itemsChars as ++ r = itemsChars bs ++ s) : as = bs := by
  match as, bs with
  | [], [] => rfl
  | [], _ :: _ => cases h
  | _ :: _, [] => cases h
  | a :: as, b :: bs =>
    simp only [sameItems, Bool.and_eq_true] at h
    simp only [itemsChars_cons, List.append_assoc] at hchars
    have hitem := eq_of_same_of_append h.1 hchars
    subst hitem
    have hrest := List.append_cancel_left hchars
    match as, bs with
    | [], [] => rfl
    | [], _ :: _ => cases h.2
    | _ :: _, [] => cases h.2
    | a' :: as, b' :: bs =>
      simp only [List.isEmpty_cons, Bool.false_eq_true, if_false, List.cons_append, List.cons.injEq,
        true_and] at hrest
      rw [eq_of_sameItems_of_append h.2 hrest]

theorem eq_of_sameFields_of_append {as bs : List (String × Json)} {r s : List Char}
    (h : sameFields as bs) (hchars : fieldsChars as ++ r = fieldsChars bs ++ s) : as = bs := by
  match as, bs with
  | [], [] => rfl
  | [], (_, _) :: _ => cases h
  | (_, _) :: _, [] => cases h
  | (k, a) :: as, (l, b) :: bs =>
    simp only [sameFields, Bool.and_eq_true, decide_eq_true_eq] at h
    obtain ⟨⟨rfl, hvalue⟩, hfields⟩ := h
    simp only [fieldsChars_cons, List.append_assoc, List.cons_append] at hchars
    have hchars := (List.cons.inj (List.append_cancel_left hchars)).2
    have heq := eq_of_same_of_append hvalue hchars
    subst heq
    have hrest := List.append_cancel_left hchars
    match as, bs with
    | [], [] => rfl
    | [], (_, _) :: _ => cases hfields
    | (_, _) :: _, [] => cases hfields
    | f :: as, g :: bs =>
      simp only [List.isEmpty_cons, Bool.false_eq_true, if_false, List.cons_append, List.cons.injEq,
        true_and] at hrest
      rw [eq_of_sameFields_of_append hfields hrest]

end

/-- Equal documents with the same text are identical, and no others are. -/
theorem same_and_compact_eq_iff (a b : Json) : (a.same b ∧ a.compact = b.compact) ↔ a = b := by
  constructor
  · rintro ⟨h, hcompact⟩
    have hchars := String.ofList_inj.mp hcompact
    exact eq_of_same_of_append (r := []) (s := []) h (by rw [hchars])
  · rintro rfl
    exact ⟨(same_iff a a).mpr rfl, rfl⟩

end Json

end RecordTables
