import RecordTables.Dialect

/-!
# Reading quoted tokens

A quoted token ends with the first quote that is not followed by another one. It is read back,
whatever its content, from every text that does not go on with a quote after it, and nothing else is
read.
-/

namespace RecordTables.Text

/-- Reads content with doubled quotes up to the quote that ends it, and gives what follows. -/
def readDoubled? (quote : Char) : List Char → Option (List Char × List Char)
  | [] => none
  | c :: s =>
    if c = quote then
      match s with
      | [] => some ([], [])
      | d :: rest =>
        if d = quote then (readDoubled? quote rest).map fun (s, rest) => (quote :: s, rest)
        else some ([], d :: rest)
    else (readDoubled? quote s).map fun (s, rest) => (c :: s, rest)

/-- Reads a quoted token, and gives its content and what follows. -/
def readQuoted? (quote : Char) : List Char → Option (List Char × List Char)
  | [] => none
  | c :: s => if c = quote then readDoubled? quote s else none

variable {quote : Char} {rest : List Char}

private theorem doubled_cons (quote c : Char) (s : List Char) :
    doubled quote (c :: s) = (if c = quote then [c, c] else [c]) ++ doubled quote s :=
  List.flatMap_cons

theorem quotedToken_append (quote : Char) (s rest : List Char) :
    quotedToken quote s ++ rest = quote :: (doubled quote s ++ quote :: rest) := by
  simp [quotedToken]

private theorem readDoubled?_cons_of_ne {c : Char} (hc : c ≠ quote) (s : List Char) :
    readDoubled? quote (c :: s) =
      (readDoubled? quote s).map fun (s, rest) => (c :: s, rest) := by
  cases s <;> simp [readDoubled?, hc]

theorem readDoubled?_doubled (s : List Char) (h : rest.head? ≠ some quote) :
    readDoubled? quote (doubled quote s ++ quote :: rest) = some (s, rest) := by
  induction s with
  | nil =>
    cases rest with
    | nil => simp [doubled, readDoubled?]
    | cons d rest =>
      have hd : d ≠ quote := by simpa using h
      simp [doubled, readDoubled?, hd]
  | cons c s ih =>
    rw [doubled_cons]
    by_cases hc : c = quote
    · simp [hc, readDoubled?, ih]
    · simp [hc, readDoubled?_cons_of_ne, ih]

theorem eq_of_readDoubled? {s content : List Char}
    (h : readDoubled? quote s = some (content, rest)) :
    s = doubled quote content ++ quote :: rest ∧ rest.head? ≠ some quote := by
  fun_induction readDoubled? quote s generalizing content with
  | case1 => cases h
  | case2 =>
    obtain ⟨rfl, rfl⟩ := Prod.mk.inj (Option.some.inj h)
    simp [doubled]
  | case3 s ih =>
    obtain ⟨⟨inner, after⟩, hread, hpair⟩ := Option.map_eq_some_iff.mp h
    obtain ⟨rfl, rfl⟩ := Prod.mk.inj hpair
    obtain ⟨rfl, hrest⟩ := ih hread
    exact ⟨by simp [doubled_cons], hrest⟩
  | case4 rest d hd =>
    obtain ⟨rfl, rfl⟩ := Prod.mk.inj (Option.some.inj h)
    simpa [doubled] using hd
  | case5 d s hd ih =>
    obtain ⟨⟨inner, after⟩, hread, hpair⟩ := Option.map_eq_some_iff.mp h
    obtain ⟨rfl, rfl⟩ := Prod.mk.inj hpair
    obtain ⟨rfl, hrest⟩ := ih hread
    exact ⟨by simp [doubled_cons, hd], hrest⟩

private theorem readDoubled?_eq_some_iff {s content : List Char} :
    readDoubled? quote s = some (content, rest) ↔
      s = doubled quote content ++ quote :: rest ∧ rest.head? ≠ some quote := by
  refine ⟨eq_of_readDoubled?, ?_⟩
  rintro ⟨rfl, hrest⟩
  exact readDoubled?_doubled content hrest

theorem readDoubled?_eq_none_iff {s : List Char} :
    readDoubled? quote s = none ↔ ∀ content rest, rest.head? ≠ some quote →
      quote :: s ≠ quotedToken quote content ++ rest := by
  simp only [Option.eq_none_iff_forall_ne_some, Prod.forall, ne_eq, readDoubled?_eq_some_iff,
    quotedToken_append, List.cons.injEq, true_and, not_and]
  exact ⟨fun h content rest hend heq => h content rest heq hend,
    fun h content rest heq hend => h content rest hend heq⟩

theorem length_lt_of_readDoubled? {s content : List Char}
    (h : readDoubled? quote s = some (content, rest)) : rest.length < s.length := by
  rw [(eq_of_readDoubled? h).1, List.length_append, List.length_cons]
  omega

/-- A quoted token is read off a text that starts with one and does not go on with another quote,
and off no other text. -/
theorem readQuoted?_eq_some_iff {s content : List Char} :
    readQuoted? quote s = some (content, rest) ↔
      s = quotedToken quote content ++ rest ∧ rest.head? ≠ some quote := by
  rw [quotedToken_append]
  cases s with
  | nil => simp [readQuoted?]
  | cons c s =>
    rw [readQuoted?, List.cons.injEq]
    split
    · next hc => simp only [hc, true_and, readDoubled?_eq_some_iff]
    · next hc => simp [hc]

theorem readQuoted?_quotedToken (s : List Char) (h : rest.head? ≠ some quote) :
    readQuoted? quote (quotedToken quote s ++ rest) = some (s, rest) :=
  readQuoted?_eq_some_iff.mpr ⟨rfl, h⟩

end RecordTables.Text

namespace RecordTables.Dialect

open RecordTables.Text

theorem toList_quoteIdentifier (dialect : Dialect) (name : String) :
    (dialect.quoteIdentifier name).toList = quotedToken '"' name.toList := by
  cases dialect <;> exact String.toList_ofList

theorem quoteIdentifier_append_inj {dialect : Dialect} {a b x y : String}
    (hx : x.toList.head? ≠ some '"') (hy : y.toList.head? ≠ some '"')
    (h : dialect.quoteIdentifier a ++ x = dialect.quoteIdentifier b ++ y) : a = b ∧ x = y := by
  have hlist := congrArg String.toList h
  rw [String.toList_append, String.toList_append, toList_quoteIdentifier,
    toList_quoteIdentifier] at hlist
  have hread := congrArg (readQuoted? '"') hlist
  rw [readQuoted?_quotedToken _ hx, readQuoted?_quotedToken _ hy] at hread
  obtain ⟨hname, hrest⟩ := Prod.mk.inj (Option.some.inj hread)
  exact ⟨String.toList_inj.mp hname, String.toList_inj.mp hrest⟩

end RecordTables.Dialect
