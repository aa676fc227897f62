import RecordTables.Serializer.Builtin
import RecordTables.Proofs.Json.Equality
import RecordTables.Proofs.Json.Steps

/-!
# Stored documents

A document whose numbers are integers is read back from its text exactly if it nests at most 127
deep and no object in it starts with the key that is kept for embedded documents. A document that
nests deeper cannot be read at all.
-/

namespace RecordTables.Json

open RecordTables.Text
open JsonNumber (EndsNumber)

section Shape

mutual

/-- How deep the arrays and objects of a document nest. -/
def nesting : Json → Nat
  | .array items => nestingOfItems items + 1
  | .object fields => nestingOfFields fields + 1
  | _ => 0

def nestingOfItems : List Json → Nat
  | [] => 0
  | item :: rest => max item.nesting (nestingOfItems rest)

def nestingOfFields : List (String × Json) → Nat
  | [] => 0
  | (_, value) :: rest => max value.nesting (nestingOfFields rest)

end

mutual

/-- Whether a document and all documents in it pass a test. -/
def all (test : Json → Bool) : Json → Bool
  | .array items => test (.array items) && allItems test items
  | .object fields => test (.object fields) && allFields test fields
  | j => test j

def allItems (test : Json → Bool) : List Json → Bool
  | [] => true
  | item :: rest => item.all test && allItems test rest

def allFields (test : Json → Bool) : List (String × Json) → Bool
  | [] => true
  | (_, value) :: rest => value.all test && allFields test rest

end

/-- Whether an object has its fields in ascending order of their keys, each key once. -/
def isOrdered : Json → Bool
  | .object fields => (fields.map (·.1)).Pairwise (· < ·)
  | _ => true

def isIntegral : Json → Bool
  | .number (.float _ _) => false
  | _ => true

/-- Whether an object does not start with the key that is kept for embedded documents. -/
def isPlain : Json → Bool
  | .object ((key, _) :: _) => key ≠ embeddingKey
  | _ => true

end Shape

/-- What reading makes of a written value with some text behind it. A result leaves this text, and
is had only if the value `fits`; it is the value itself exactly if the value is `plain`. In any case
it is `like` the value. -/
def Reads {α : Type} (like : α → Prop) (value : α) (fits plain : Prop) (rest : List Char)
    (result : Option (α × List Char)) : Prop :=
  (result = none ∧ ¬(fits ∧ plain)) ∨
    ∃ found, result = some (found, rest) ∧ like found ∧ fits ∧ (found = value ↔ plain)

section Reads

variable {α β γ : Type} {value : α} {value' : β} {whole : γ} {like : α → Prop} {like' : β → Prop}
  {like'' : γ → Prop} {fits plain fits' plain' : Prop} {s rest : List Char}
  {result : Option (α × List Char)} {result' : Option (β × List Char)}

theorem Reads.exact (h : result = some (value, rest)) (hlike : like value) (hfits : fits)
    (hplain : plain) : Reads like value fits plain rest result :=
  .inr ⟨value, h, hlike, hfits, iff_of_true rfl hplain⟩

theorem Reads.closed {f : α → β} {next : α × List Char → Option (β × List Char)}
    (h : Reads like value fits plain s result) (hnext : ∀ x, next (x, s) = some (f x, rest))
    (hf : ∀ x, f x = value' ↔ x = value) (hlike : ∀ x, like' (f x)) :
    Reads like' value' fits plain rest (result.bind next) := by
  obtain ⟨rfl, hnot⟩ | ⟨found, rfl, -, hfits, hplain⟩ := h
  · exact .inl ⟨rfl, hnot⟩
  · exact .inr ⟨f found, hnext found, hlike found, hfits, (hf found).trans hplain⟩

private theorem Reads.continued {g : α → β → γ} {next : α × List Char → Option (γ × List Char)}
    (h : Reads like value fits plain s result) (h' : Reads like' value' fits' plain' rest result')
    (hnext : ∀ x, next (x, s) = result'.bind fun p => some (g x p.1, p.2))
    (hg : ∀ x y, like' y → (g x y = whole ↔ x = value ∧ y = value'))
    (hlike : ∀ x y, like' y → like'' (g x y)) :
    Reads like'' whole (fits ∧ fits') (plain ∧ plain') rest (result.bind next) := by
  obtain ⟨rfl, hnot⟩ | ⟨found, rfl, -, hfits, hplain⟩ := h
  · exact .inl ⟨rfl, fun hboth => hnot ⟨hboth.1.1, hboth.2.1⟩⟩
  rw [Option.bind_some, hnext]
  obtain ⟨rfl, hnot⟩ | ⟨found', rfl, hfound', hfits', hplain'⟩ := h'
  · exact .inl ⟨rfl, fun hboth => hnot ⟨hboth.1.2, hboth.2.2⟩⟩
  · refine .inr ⟨g found found', rfl, hlike _ _ hfound', ⟨hfits, hfits'⟩, ?_⟩
    rw [hg _ _ hfound', hplain, hplain']

end Reads

section Written

variable {j : Json} {fuel depth : Nat} {s rest : List Char}

private theorem exists_chars_eq_cons (h : j.all isIntegral) :
    ∃ c t, j.chars = c :: t ∧ (c ≠ ' ' ∧ c ≠ '\n' ∧ c ≠ '\t' ∧ c ≠ '\r') ∧ c ≠ ']' ∧
      (c ≠ '"' ∨ ∃ text, j = .string text) := by
  cases j with
  | null => exact ⟨'n', _, rfl, by decide, by decide, .inl (by decide)⟩
  | bool b =>
    cases b with
    | false => exact ⟨'f', _, rfl, by decide, by decide, .inl (by decide)⟩
    | true => exact ⟨'t', _, rfl, by decide, by decide, .inl (by decide)⟩
  | number n =>
    cases n with
    | float => cases h
    | integer n fits =>
      have hother : ∀ c : Char, c.isDigit ∨ c = '-' →
          (c ≠ ' ' ∧ c ≠ '\n' ∧ c ≠ '\t' ∧ c ≠ '\r') ∧ c ≠ ']' ∧ c ≠ '"' := by
        rintro c hc
        refine ⟨⟨?_, ?_, ?_, ?_⟩, ?_, ?_⟩ <;> (rintro rfl; revert hc; decide)
      obtain ⟨c, t, hchars, hc⟩ := exists_signedDigits_eq_cons n
      obtain ⟨hblank, hbracket, hquote⟩ := hother c hc
      exact ⟨c, t, hchars, hblank, hbracket, .inl hquote⟩
  | string text => exact ⟨'"', _, rfl, by decide, by decide, .inr ⟨text, rfl⟩⟩
  | array items => exact ⟨'[', _, rfl, by decide, by decide, .inl (by decide)⟩
  | object fields => exact ⟨'\x7b', _, rfl, by decide, by decide, .inl (by decide)⟩

private theorem eq_string_of_readEmbedded? (h : j.all isIntegral) {text : List Char}
    (hread : readEmbedded? (':' :: (j.chars ++ s)) = some (text, rest)) :
    ∃ text, j = .string text ∧ skipSpace s = '\x7d' :: rest := by
  obtain ⟨c, t, hchars, hblank, -, hquote⟩ := exists_chars_eq_cons h
  have hspace : skipSpace (j.chars ++ s) = j.chars ++ s := by
    rw [hchars]
    exact skipSpace_cons hblank
  rw [readEmbedded?, skipSpace_cons (by decide)] at hread
  simp only [hspace] at hread
  split at hread
  · next u hu =>
    obtain ⟨text, rfl⟩ := hquote.resolve_left (not_not_intro (List.cons.inj (hchars ▸ hu)).1)
    rw [chars, quoted_append] at hu
    obtain ⟨-, rfl⟩ := List.cons.inj hu
    simp only [readString?_flatMap_escapeChar, Option.bind_eq_bind, Option.bind_some] at hread
    split at hread
    · next hbrace =>
      cases hread
      exact ⟨text, rfl, hbrace⟩
    · cases hread
  · cases hread

private theorem reads_array {item : Json} {items : List Json} (hitem : item.all isIntegral)
    (h : Reads (fun _ => True) (item :: items) (nestingOfItems (item :: items) ≤ depth)
      (allItems isPlain (item :: items)) rest
      (readItems? true fuel depth (itemsChars (item :: items) ++ ']' :: rest))) :
    Reads (fun _ => True) (array (item :: items)) ((array (item :: items)).nesting ≤ depth + 1)
      ((array (item :: items)).all isPlain) rest
      (readValue? true (fuel + 1) (depth + 1) ((array (item :: items)).chars ++ rest)) := by
  obtain ⟨c, t, hchars, hblank, hbracket, -⟩ := exists_chars_eq_cons hitem
  obtain ⟨t, ht⟩ : ∃ t, itemsChars (item :: items) ++ ']' :: rest = c :: t := by
    rw [itemsChars_cons, hchars]
    exact ⟨_, rfl⟩
  have hread := readValue?_array true fuel depth (ht ▸ skipSpace_cons hblank)
    (by simpa [ht] using hbracket)
  rw [chars, List.cons_append, List.cons_append, List.append_assoc, List.singleton_append, hread,
    Option.map_eq_bind]
  simp only [nesting, Nat.add_le_add_iff_right, all, isPlain, Bool.true_and]
  apply h.closed (f := array)
  · exact fun _ => rfl
  · simp
  · simp

private theorem reads_embedding {value : Json} {fields : List (String × Json)}
    (hvalue : value.all isIntegral) :
    Reads (fun _ => True) (object ((embeddingKey, value) :: fields))
      ((object ((embeddingKey, value) :: fields)).nesting ≤ depth + 1) False rest
      ((readEmbedded? (':' :: (value.chars ++
        ((if fields.isEmpty then [] else ',' :: fieldsChars fields) ++ '\x7d' :: rest)))).bind
          fun p => (readValue? true fuel greatestDepth p.1).bind fun q =>
            if (skipSpace q.2).isEmpty then some (q.1, p.2) else none) := by
  cases hembedded : readEmbedded? _ with
  | none => exact .inl ⟨rfl, And.right⟩
  | some p =>
    obtain ⟨text, t⟩ := p
    obtain ⟨text', rfl, ht⟩ := eq_string_of_readEmbedded? hvalue hembedded
    cases fields with
    | cons => simp [skipSpace_cons] at ht
    | nil =>
      obtain rfl : rest = t := by simpa [skipSpace_cons] using ht
      simp only [Option.bind_some]
      cases hfound : readValue? true fuel greatestDepth text with
      | none => exact .inl ⟨rfl, And.right⟩
      | some q =>
        obtain ⟨found, u⟩ := q
        simp only [Option.bind_some]
        split
        · refine .inr ⟨found, rfl, trivial, by simp [nesting, nestingOfFields], ?_⟩
          rw [iff_false]
          rintro rfl
          exact readValue?_ne_embedding hfound
        · exact .inl ⟨rfl, And.right⟩

private theorem reads_object {key : String} {value : Json} {fields : List (String × Json)}
    (hvalue : value.all isIntegral)
    (h : Reads (fun found => found.map (·.1) = ((key, value) :: fields).map (·.1))
      ((key, value) :: fields) (nestingOfFields ((key, value) :: fields) ≤ depth)
      (allFields isPlain ((key, value) :: fields)) rest
      (readFields? true fuel depth (fieldsChars ((key, value) :: fields) ++ '\x7d' :: rest))) :
    Reads (fun _ => True) (object ((key, value) :: fields))
      ((object ((key, value) :: fields)).nesting ≤ depth + 1)
      ((object ((key, value) :: fields)).all isPlain) rest
      (readValue? true (fuel + 1) (depth + 1)
        ((object ((key, value) :: fields)).chars ++ rest)) := by
  rw [fieldsChars_cons, List.append_assoc, List.cons_append, List.append_assoc] at h
  rw [chars, fieldsChars_cons, List.cons_append, List.cons_append, List.append_assoc,
    List.append_assoc, List.cons_append, List.append_assoc, List.singleton_append,
    readValue?_object]
  split
  · next hkey =>
    subst hkey
    have hplain : (object ((embeddingKey, value) :: fields)).all isPlain = false := by
      simp [all, isPlain]
    rw [hplain, Bool.false_eq_true]
    exact reads_embedding hvalue
  · next hkey =>
    rw [Option.map_eq_bind]
    simp only [nesting, Nat.add_le_add_iff_right, all, isPlain, ne_eq, hkey, not_false_eq_true,
      decide_true, Bool.true_and]
    apply h.closed (f := object)
    · exact fun _ => rfl
    · simp
    · simp

private theorem endsNumber_cons {c : Char} (hc : c = ',' ∨ c = ']' ∨ c = '\x7d') :
    EndsNumber (c :: s) := by
  intro d hd
  cases hd
  obtain rfl | rfl | rfl := hc <;> decide

mutual

theorem reads_chars {j : Json} {fuel : Nat} (depth : Nat) {rest : List Char}
    (hordered : j.all isOrdered) (hintegral : j.all isIntegral)
    (hfuel : 2 * j.chars.length ≤ fuel) (hrest : EndsNumber rest) :
    Reads (fun _ => True) j (j.nesting ≤ depth) (j.all isPlain) rest
      (readValue? true fuel depth (j.chars ++ rest)) := by
  obtain ⟨fuel, rfl⟩ : ∃ n, fuel = n + 1 := by
    obtain ⟨c, t, hchars, -⟩ := exists_chars_eq_cons hintegral
    rw [hchars, List.length_cons] at hfuel
    exact ⟨fuel - 1, by omega⟩
  cases j with
  | null =>
    refine .exact ?_ trivial (Nat.zero_le _) (by simp [all, isPlain])
    simp [chars, readValue?, skipSpace_cons]
  | bool b =>
    refine .exact ?_ trivial (Nat.zero_le _) (by simp [all, isPlain])
    cases b <;> simp [chars, readValue?, skipSpace_cons]
  | number n =>
    refine .exact ?_ trivial (Nat.zero_le _) (by simp [all, isPlain])
    cases n with
    | float => cases hintegral
    | integer n fits =>
      obtain ⟨c, t, hchars, hc⟩ := exists_signedDigits_eq_cons n
      have hread := JsonNumber.read?_signedDigits fits hrest
      rw [chars, JsonNumber.chars]
      rw [hchars, List.cons_append] at hread ⊢
      rw [readValue?_number hc, hread, Option.map_some]
  | string text =>
    refine .exact ?_ trivial (Nat.zero_le _) (by simp [all, isPlain])
    exact readValue?_string text
  | array items =>
    cases depth with
    | zero =>
      refine .inl ⟨?_, fun h => absurd h.1 (by simp [nesting])⟩
      simp [chars, readValue?, skipSpace_cons]
    | succ depth =>
      cases items with
      | nil =>
        refine .exact ?_ trivial (by simp [nesting, nestingOfItems])
          (by simp [all, isPlain, allItems])
        simp [chars, itemsChars, readValue?, skipSpace_cons]
      | cons item items =>
        simp only [all, isOrdered, isIntegral, Bool.true_and] at hordered hintegral
        simp only [chars, List.length_cons, List.length_append] at hfuel
        have hfuel' : 2 * (itemsChars (item :: items)).length + 1 ≤ fuel := by omega
        have hitems := reads_itemsChars depth rest (List.cons_ne_nil item items) hordered hintegral
          hfuel'
        exact reads_array (Bool.and_eq_true_iff.mp hintegral).1 hitems
  | object fields =>
    cases depth with
    | zero =>
      refine .inl ⟨?_, fun h => absurd h.1 (by simp [nesting])⟩
      simp [chars, readValue?, skipSpace_cons]
    | succ depth =>
      cases fields with
      | nil =>
        refine .exact ?_ trivial (by simp [nesting, nestingOfFields])
          (by simp [all, isPlain, allFields])
        simp [chars, fieldsChars, readValue?, skipSpace_cons]
      | cons field fields =>
        obtain ⟨key, value⟩ := field
        simp only [all, isOrdered, isIntegral, Bool.true_and, Bool.and_eq_true,
          decide_eq_true_eq] at hordered hintegral
        simp only [chars, List.length_cons, List.length_append] at hfuel
        have hfuel' : 2 * (fieldsChars ((key, value) :: fields)).length + 1 ≤ fuel := by omega
        have hfields := reads_fieldsChars depth rest (List.cons_ne_nil (key, value) fields)
          hordered.1 hordered.2 hintegral hfuel'
        exact reads_object (Bool.and_eq_true_iff.mp hintegral).1 hfields

theorem reads_itemsChars {items : List Json} {fuel : Nat} (depth : Nat) (rest : List Char)
    (hne : items ≠ []) (hordered : allItems isOrdered items)
    (hintegral : allItems isIntegral items) (hfuel : 2 * (itemsChars items).length + 1 ≤ fuel) :
    Reads (fun _ => True) items (nestingOfItems items ≤ depth) (allItems isPlain items) rest
      (readItems? true fuel depth (itemsChars items ++ ']' :: rest)) := by
  obtain ⟨fuel, rfl⟩ : ∃ n, fuel = n + 1 := ⟨fuel - 1, by omega⟩
  match items with
  | [] => exact absurd rfl hne
  | [item] =>
    simp only [allItems, Bool.and_true, itemsChars] at hordered hintegral hfuel
    have hfuel' : 2 * item.chars.length ≤ fuel := by omega
    have hitem := reads_chars depth hordered hintegral hfuel'
      (endsNumber_cons (s := rest) (c := ']') (by decide))
    rw [itemsChars, readItems?_succ]
    simp only [nestingOfItems, allItems, Nat.max_zero, Bool.and_true]
    apply hitem.closed (f := fun item => [item])
    · intro x
      simp [skipSpace_cons]
    · simp
    · simp
  | item :: item' :: items =>
    simp only [allItems, Bool.and_eq_true, itemsChars, List.length_append, List.length_cons]
      at hordered hintegral hfuel
    have hfuel' : 2 * item.chars.length ≤ fuel ∧
        2 * (itemsChars (item' :: items)).length + 1 ≤ fuel := by
      omega
    have hitem := reads_chars depth hordered.1 hintegral.1 hfuel'.1
      (endsNumber_cons (s := itemsChars (item' :: items) ++ ']' :: rest) (c := ',') (by decide))
    have hitems := reads_itemsChars depth rest (List.cons_ne_nil item' items)
      (by simpa [allItems] using hordered.2) (by simpa [allItems] using hintegral.2) hfuel'.2
    rw [itemsChars, readItems?_succ, List.append_assoc, List.cons_append, nestingOfItems,
      Nat.max_le, allItems, Bool.and_eq_true]
    · apply hitem.continued hitems (g := fun x y => x :: y)
      · intro x
        simp [skipSpace_cons]
      · simp
      · simp
    · simp

theorem reads_fieldsChars {fields : List (String × Json)} {fuel : Nat} (depth : Nat)
    (rest : List Char) (hne : fields ≠ []) (hkeys : (fields.map (·.1)).Pairwise (· < ·))
    (hordered : allFields isOrdered fields) (hintegral : allFields isIntegral fields)
    (hfuel : 2 * (fieldsChars fields).length + 1 ≤ fuel) :
    Reads (fun found => found.map (·.1) = fields.map (·.1)) fields
      (nestingOfFields fields ≤ depth) (allFields isPlain fields) rest
      (readFields? true fuel depth (fieldsChars fields ++ '\x7d' :: rest)) := by
  obtain ⟨fuel, rfl⟩ : ∃ n, fuel = n + 1 := ⟨fuel - 1, by omega⟩
  match fields with
  | [] => exact absurd rfl hne
  | [(key, value)] =>
    simp only [allFields, Bool.and_true, fieldsChars, List.length_append, List.length_cons]
      at hordered hintegral hfuel
    have hfuel' : 2 * value.chars.length ≤ fuel := by omega
    have hvalue := reads_chars depth hordered hintegral hfuel'
      (endsNumber_cons (s := rest) (c := '\x7d') (by decide))
    rw [fieldsChars, List.append_assoc, List.cons_append, readFields?_succ]
    simp only [nestingOfFields, allFields, Nat.max_zero, Bool.and_true]
    apply hvalue.closed (f := fun x => [(key, x)])
    · intro x
      simp [skipSpace_cons]
    · simp
    · simp
  | (key, value) :: field :: fields =>
    simp only [allFields, Bool.and_eq_true, fieldsChars, List.length_append, List.length_cons]
      at hordered hintegral hfuel
    obtain ⟨hfirst, hkeys⟩ := List.pairwise_cons.mp hkeys
    have hfuel' : 2 * value.chars.length ≤ fuel ∧
        2 * (fieldsChars (field :: fields)).length + 1 ≤ fuel := by
      omega
    have hvalue := reads_chars depth hordered.1 hintegral.1 hfuel'.1
      (endsNumber_cons (s := fieldsChars (field :: fields) ++ '\x7d' :: rest) (c := ',')
        (by decide))
    have hfields := reads_fieldsChars depth rest (List.cons_ne_nil field fields) hkeys
      (by simpa [allFields] using hordered.2) (by simpa [allFields] using hintegral.2) hfuel'.2
    have hadd : ∀ x (y : List (String × Json)), y.map (·.1) = (field :: fields).map (·.1) →
        addField key x y = (key, x) :: y := by
      intro x y hy
      exact addField_of_lt (hy ▸ hfirst)
    rw [fieldsChars, List.append_assoc, List.cons_append, List.append_assoc, List.cons_append,
      readFields?_succ, nestingOfFields, Nat.max_le, allFields, Bool.and_eq_true]
    · apply hvalue.continued hfields (g := addField key)
      · intro x
        simp [skipSpace_cons]
      · intro x y hy
        simp [hadd x y hy]
      · intro x y hy
        simp [hadd x y hy, hy]
    · simp

end

end Written

private theorem read?_compact {j : Json} (hordered : j.all isOrdered)
    (hintegral : j.all isIntegral) :
    (read? j.compact = none ∧ ¬(j.nesting ≤ greatestDepth ∧ j.all isPlain)) ∨
      ∃ found, read? j.compact = some found ∧ j.nesting ≤ greatestDepth ∧
        (found = j ↔ j.all isPlain) := by
  have hends : EndsNumber [] := by simp [EndsNumber]
  have hread := reads_chars greatestDepth hordered hintegral
    (Nat.le_add_right (2 * j.chars.length) 2) hends
  rw [List.append_nil] at hread
  rw [read?, compact, String.toList_ofList, readChars?]
  obtain ⟨hnone, hnot⟩ | ⟨found, hsome, -, hfound⟩ := hread
  · rw [hnone]
    exact .inl ⟨rfl, hnot⟩
  · rw [hsome]
    exact .inr ⟨found, rfl, hfound⟩

mutual

theorem eq_of_same_of_isIntegral {a b : Json} (h : a.same b) (hb : b.all isIntegral) : a = b := by
  cases b with
  | number n =>
    cases a with
    | number m =>
      cases n with
      | float => cases hb
      | integer n =>
        cases m with
        | float => cases h
        | integer m => simpa [same, JsonNumber.same] using h
    | _ => cases h
  | array bs =>
    cases a with
    | array as =>
      simp only [all, isIntegral, Bool.true_and] at hb
      rw [eq_of_sameItems_of_isIntegral h hb]
    | _ => cases h
  | object bs =>
    cases a with
    | object as =>
      simp only [all, isIntegral, Bool.true_and] at hb
      rw [eq_of_sameFields_of_isIntegral h hb]
    | _ => cases h
  | _ => cases a <;> simp_all [same]

theorem eq_of_sameItems_of_isIntegral {as bs : List Json} (h : sameItems as bs)
    (hbs : allItems isIntegral bs) : as = bs := by
  match as, bs with
  | [], [] => rfl
  | [], _ :: _ => cases h
  | _ :: _, [] => cases h
  | a :: as, b :: bs =>
    simp only [sameItems, allItems, Bool.and_eq_true] at h hbs
    rw [eq_of_same_of_isIntegral h.1 hbs.1, eq_of_sameItems_of_isIntegral h.2 hbs.2]

theorem eq_of_sameFields_of_isIntegral {as bs : List (String × Json)} (h : sameFields as bs)
    (hbs : allFields isIntegral bs) : as = bs := by
  match as, bs with
  | [], [] => rfl
  | [], (_, _) :: _ => cases h
  | (_, _) :: _, [] => cases h
  | (k, a) :: as, (l, b) :: bs =>
    simp only [sameFields, allFields, Bool.and_eq_true, decide_eq_true_eq] at h hbs
    rw [h.1.1, eq_of_same_of_isIntegral h.1.2 hbs.1, eq_of_sameFields_of_isIntegral h.2 hbs.2]

end

/-- A document whose objects are ordered and whose numbers are integers is stored as its compact
text. It is read back exactly if it nests at most 127 deep and no object in it starts with the key
for embedded documents. The text of a document that nests deeper cannot be decoded. -/
theorem stored_documents_read_back {j : Json} (hordered : j.all isOrdered)
    (hintegral : j.all isIntegral) :
    ∃ s, Serializer.builtin? .json .sqlite = some s ∧
      s.encode (.json j) = .ok (.text j.compact) ∧
      (j.nesting ≤ 127 ∧ j.all isPlain → s.decode (.text j.compact) = .ok (.json j)) ∧
      (∀ v, s.decode (.text j.compact) = .ok v → v.same (.json j) →
        j.nesting ≤ 127 ∧ j.all isPlain) ∧
      (127 < j.nesting →
        s.decode (.text j.compact) = .error (.cannotDecode (.text j.compact) "Json")) := by
  refine ⟨_, rfl, rfl, ?_⟩
  have hread := read?_compact hordered hintegral
  rw [show greatestDepth = 127 from rfl] at hread
  obtain ⟨hnone, hnot⟩ | ⟨found, hsome, hfits, hplain⟩ := hread
  · have hdecode : Codec.Sqlite.json.decoder.run (.text j.compact) =
        .error (.cannotDecode (.text j.compact) "Json") := by
      apply Codec.Sqlite.decodeText_eq_error
      rw [hnone, Option.map_none]
    refine ⟨fun h => absurd h hnot, fun v hv => ?_, fun _ => hdecode⟩
    cases hdecode.symm.trans hv
  · have hdecode : Codec.Sqlite.json.decoder.run (.text j.compact) = .ok (.json found) := by
      apply Codec.Sqlite.decodeText_eq_ok
      rw [hsome, Option.map_some]
    refine ⟨fun h => ?_, fun v hv hsame => ?_, fun h => absurd hfits (Nat.not_le.mpr h)⟩
    · obtain rfl := hplain.mpr h.2
      exact hdecode
    · cases hdecode.symm.trans hv
      exact ⟨hfits, hplain.mp (eq_of_same_of_isIntegral hsame hintegral)⟩

theorem stored_documents_read_back_of_order :
    let j : Json := .object [("items", .array [.number (.integer (-2) (by decide)), .null]),
      ("note", .string "\t\"\"")]
    j.all isOrdered ∧ j.all isIntegral ∧
      ∃ s, Serializer.builtin? .json .sqlite = some s ∧
        s.decode (.text j.compact) = .ok (.json j) := by
  intro j
  have hordered : j.all isOrdered := by decide
  have hintegral : j.all isIntegral := by decide
  have hplain : j.nesting ≤ 127 ∧ j.all isPlain := by decide
  obtain ⟨s, hs, -, hdecode, -⟩ := stored_documents_read_back hordered hintegral
  exact ⟨hordered, hintegral, s, hs, hdecode hplain⟩

/-- An object that has another field after the key for embedded documents is stored as its text, but
the text cannot be decoded. -/
theorem stored_embedding_is_lost :
    let j : Json := .object [(embeddingKey, .string "1"),
      ("a", .number (.integer 2 (by decide)))]
    j.all isOrdered ∧ j.all isIntegral ∧ j.nesting = 1 ∧
      ∃ s, Serializer.builtin? .json .sqlite = some s ∧
        s.encode (.json j) = .ok (.text j.compact) ∧
        s.decode (.text j.compact) = .error (.cannotDecode (.text j.compact) "Json") := by
  intro j
  have hread : read? j.compact = none := by decide
  refine ⟨by decide, by decide, by decide, _, rfl, rfl, ?_⟩
  apply Codec.Sqlite.decodeText_eq_error
  rw [hread, Option.map_none]

end RecordTables.Json
