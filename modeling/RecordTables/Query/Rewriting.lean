import RecordTables.Query.Placeholder

/-! # Rewriting placeholders

The placeholders of a text are replaced by those of a dialect: the text between two of them is cut
out at their byte offsets and copied. Cutting fails inside a character. That never happens, because
a placeholder is one byte and every offset comes from the scan of the same text. -/

namespace RecordTables.Placeholder

/-- Two byte offsets in order, both at the border of a character. -/
def AreBorders (sql : String) (start stop : Nat) : Prop :=
  start ≤ stop ∧ String.Pos.Raw.IsValid sql ⟨start⟩ ∧ String.Pos.Raw.IsValid sql ⟨stop⟩

instance (sql : String) (start stop : Nat) : Decidable (AreBorders sql start stop) :=
  inferInstanceAs (Decidable (_ ∧ _))

def slice? (sql : String) (start stop : Nat) : Option String :=
  if h : AreBorders sql start stop then
    some (sql.extract (sql.pos ⟨start⟩ h.2.1) (sql.pos ⟨stop⟩ h.2.2))
  else none

/-- A text that is being rewritten: what is written, the offset after the last placeholder, and the
count of the placeholders passed. -/
structure Rewriting where
  written : String
  last : Nat
  index : Nat

namespace Rewriting

def start : Rewriting :=
  ⟨"", 0, 0⟩

def next? (dialect : Dialect) (sql : String) (r : Rewriting) (offset : Nat) : Option Rewriting := do
  let before ← slice? sql r.last offset
  return ⟨r.written ++ before ++ dialect.placeholder (r.index + 1), offset + 1, r.index + 1⟩

def finish? (sql : String) (r : Rewriting) : Option String := do
  let rest ← slice? sql r.last sql.utf8ByteSize
  return r.written ++ rest

end Rewriting

/-- The text with the placeholders of a dialect, if all of its parts can be cut out. -/
def rewrite? (dialect : Dialect) (sql : String) : Option String := do
  let r ← (scan sql).foldlM (Rewriting.next? dialect sql) .start
  r.finish? sql

/-- The characters of a text with the placeholders of a dialect, numbered on from `index`. -/
def numbered (dialect : Dialect) (quoting : Quoting) (index : Nat) : List Char → List Char
  | [] => []
  | c :: rest =>
    if isMark quoting c then
      (dialect.placeholder index).toList ++ numbered dialect (step quoting c) (index + 1) rest
    else c :: numbered dialect (step quoting c) index rest

private theorem toByteArray_cut (before part after : String) :
    (before ++ part ++ after).toByteArray.extract before.utf8ByteSize
      (before ++ part).utf8ByteSize = part.toByteArray := by
  have h := ByteArray.extract_append_size_add (a := before.toByteArray)
    (b := part.toByteArray ++ after.toByteArray) (i := 0) (j := part.toByteArray.size)
  rw [Nat.add_zero, ByteArray.extract_append_eq_left rfl] at h
  rw [String.append_assoc, String.toByteArray_append, String.toByteArray_append,
    String.utf8ByteSize_append, ← String.size_toByteArray, ← String.size_toByteArray, h]

private theorem slice?_append (before part after : String) :
    slice? (before ++ part ++ after) before.utf8ByteSize (before ++ part).utf8ByteSize =
      some part := by
  have hstart : String.Pos.Raw.IsValid (before ++ part ++ after) ⟨before.utf8ByteSize⟩ := by
    rw [String.append_assoc]
    exact String.Pos.Raw.isValid_rawEndPos.append_right _
  have hstop : String.Pos.Raw.IsValid (before ++ part ++ after) ⟨(before ++ part).utf8ByteSize⟩ :=
    String.Pos.Raw.isValid_rawEndPos.append_right _
  have hle : before.utf8ByteSize ≤ (before ++ part).utf8ByteSize := by simp
  rw [slice?, dif_pos ⟨hle, hstart, hstop⟩]
  congr 1
  apply String.toByteArray_inj.mp
  rw [String.toByteArray_extract]
  exact toByteArray_cut before part after

private theorem append_ofList_cons (s : String) (c : Char) (rest : List Char) :
    s ++ String.ofList (c :: rest) = s ++ String.singleton c ++ String.ofList rest := by
  rw [String.ofList_cons, String.append_assoc]

private theorem utf8ByteSize_append_singleton (s : String) (c : Char) :
    (s ++ String.singleton c).utf8ByteSize = s.utf8ByteSize + c.utf8Size := by
  rw [String.utf8ByteSize_append, String.utf8ByteSize_singleton]

/-- What a run still writes: `before` is copied or replaced, `pending` is passed but not yet copied,
and `rest` is to come. -/
private theorem foldlM_offsets (dialect : Dialect) (sql before pending : String) (rest : List Char)
    (quoting : Quoting) (r : Rewriting) (hsql : sql = before ++ pending ++ String.ofList rest)
    (hlast : r.last = before.utf8ByteSize) :
    ((offsets quoting (before ++ pending).utf8ByteSize rest).foldlM (Rewriting.next? dialect sql) r
        >>= Rewriting.finish? sql) =
      some (r.written ++ pending ++
        String.ofList (numbered dialect quoting (r.index + 1) rest)) := by
  induction rest generalizing before pending quoting r with
  | nil =>
    have hcut := slice?_append before pending ""
    rw [String.append_empty] at hcut
    rw [String.ofList_nil, String.append_empty] at hsql
    subst hsql
    change (slice? _ r.last _).bind _ = _
    rw [hlast, hcut]
    simp [numbered]
  | cons c rest ih =>
    by_cases hc : isMark quoting c
    · have hmark : c = '?' := by
        simp only [isMark, decide_eq_true_eq] at hc
        exact hc.2
      have hcut := slice?_append before pending (String.ofList (c :: rest))
      rw [← hsql, ← hlast] at hcut
      have hnext := ih (before ++ pending ++ String.singleton c) "" (step quoting c)
        ⟨r.written ++ pending ++ dialect.placeholder (r.index + 1),
          (before ++ pending).utf8ByteSize + 1, r.index + 1⟩
        (by rw [hsql, append_ofList_cons, String.append_empty])
        -- The placeholder is one byte, so the next cut starts right after it.
        (by rw [utf8ByteSize_append_singleton, hmark]; rfl)
      rw [String.append_empty, utf8ByteSize_append_singleton] at hnext
      have hstep : r.next? dialect sql (before ++ pending).utf8ByteSize =
          some ⟨r.written ++ pending ++ dialect.placeholder (r.index + 1),
            (before ++ pending).utf8ByteSize + 1, r.index + 1⟩ := by
        rw [Rewriting.next?, hcut]
        rfl
      rw [offsets, if_pos hc, List.foldlM_cons, hstep, numbered, if_pos hc, String.ofList_append,
        String.ofList_toList]
      change List.foldlM _ _ _ >>= _ = _
      simpa only [String.append_empty, String.append_assoc] using hnext
    · have hnext := ih before (pending ++ String.singleton c) (step quoting c) r
        (by rw [hsql, append_ofList_cons]; simp only [String.append_assoc]) hlast
      rw [← String.append_assoc, utf8ByteSize_append_singleton] at hnext
      rw [offsets, if_neg hc, hnext, numbered, if_neg hc, append_ofList_cons]
      simp only [String.append_assoc]

/-- A text is rewritten by replacing its placeholders in place. -/
theorem rewrite?_eq (dialect : Dialect) (sql : String) :
    rewrite? dialect sql = some (String.ofList (numbered dialect none 1 sql.toList)) := by
  have h := foldlM_offsets dialect sql "" "" sql.toList none .start (by simp) rfl
  simpa [rewrite?, scan, Rewriting.start] using h

/-- No part of a text is ever cut inside a character. -/
theorem isSome_rewrite? (dialect : Dialect) (sql : String) : (rewrite? dialect sql).isSome := by
  rw [rewrite?_eq]
  rfl

end RecordTables.Placeholder
