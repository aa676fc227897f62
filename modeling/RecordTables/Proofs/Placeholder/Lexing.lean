import RecordTables.Proofs.Placeholder.Renumbering
import RecordTables.Proofs.Text.Quoted

/-!
# Question marks outside tokens

A lexer takes the text between quotes as one token, in which a doubled quote stands for one quote.
The scan does not know doubled quotes: it leaves the quoted text at the first of them and is inside
again after the second. No character stands between the two, so that both find the same question
marks.
-/

namespace RecordTables.Placeholder

open Text

def isQuote (c : Char) : Bool :=
  c = '\'' ∨ c = '"'

/-- A token of SQL as far as quotes matter: a literal or a quoted name, one that does not end before
the text does, or a character outside of both. -/
inductive Token where
  | quoted (quote : Char) (content : List Char)
  | unterminated (quote : Char) (text : List Char)
  | other (c : Char)
  deriving DecidableEq

def Token.chars : Token → List Char
  | quoted quote content => quotedToken quote content
  | unterminated quote text => quote :: text
  | other c => [c]

def lex : List Char → List Token
  | [] => []
  | c :: s =>
    if isQuote c then
      match _h : readDoubled? c s with
      | some (content, rest) => .quoted c content :: lex rest
      | none => [.unterminated c s]
    else .other c :: lex s
termination_by s => s.length
decreasing_by
  · have hlt := length_lt_of_readDoubled? ‹readDoubled? c s = some (content, rest)›
    simp only [List.length_cons]
    omega
  · simp

/-- How a text is cut into tokens. A quoted token takes in every doubled quote, and only a text in
which no such token ends is unterminated. -/
inductive Lexes : List Char → List Token → Prop
  | nil : Lexes [] []
  | quoted {quote : Char} {content rest : List Char} {ts : List Token} (hquote : isQuote quote)
      (hend : rest.head? ≠ some quote) (hrest : Lexes rest ts) :
      Lexes (quotedToken quote content ++ rest) (.quoted quote content :: ts)
  | unterminated {quote : Char} {text : List Char} (hquote : isQuote quote)
      (hend : ∀ content rest, rest.head? ≠ some quote →
        quote :: text ≠ quotedToken quote content ++ rest) :
      Lexes (quote :: text) [.unterminated quote text]
  | other {c : Char} {s : List Char} {ts : List Token} (hc : ¬isQuote c) (hrest : Lexes s ts) :
      Lexes (c :: s) (.other c :: ts)

theorem lexes_lex (s : List Char) : Lexes s (lex s) := by
  fun_induction lex s with
  | case1 => exact .nil
  | case2 c s hc content rest hread ih =>
    obtain ⟨rfl, hend⟩ := eq_of_readDoubled? hread
    rw [← quotedToken_append]
    exact .quoted hc hend ih
  | case3 c s hc hread => exact .unterminated hc (readDoubled?_eq_none_iff.mp hread)
  | case4 c s hc ih => exact .other hc ih

namespace Lexes

variable {s : List Char} {ts : List Token}

theorem lex_eq (h : Lexes s ts) : lex s = ts := by
  induction h with
  | nil => rw [lex]
  | @quoted quote content rest ts hquote hend hrest ih =>
    have hread := readDoubled?_doubled content hend
    rw [quotedToken_append, lex, if_pos hquote]
    split <;> simp_all
  | unterminated hquote hend =>
    have hread := readDoubled?_eq_none_iff.mpr hend
    rw [lex, if_pos hquote]
    split <;> simp_all
  | other hc hrest ih => rw [lex, if_neg hc, ih]

private theorem flatMap_chars (h : Lexes s ts) : ts.flatMap Token.chars = s := by
  induction h with
  | nil => rfl
  | quoted hquote hend hrest ih => rw [List.flatMap_cons, ih, Token.chars]
  | unterminated hquote hend => simp [Token.chars]
  | other hc hrest ih => simp [Token.chars, ih]

end Lexes

theorem lex_eq_iff {s : List Char} {ts : List Token} : lex s = ts ↔ Lexes s ts :=
  ⟨fun h => h ▸ lexes_lex s, Lexes.lex_eq⟩

/-- The byte offsets of the question marks among tokens that start at an offset. -/
def markOffsets (start : Nat) : List Token → List Nat
  | [] => []
  | t :: ts =>
    let later := markOffsets (start + width t.chars) ts
    if t = .other '?' then start :: later else later

private theorem length_markOffsets (start : Nat) (ts : List Token) :
    (markOffsets start ts).length = ts.count (.other '?') := by
  induction ts generalizing start with
  | nil => rfl
  | cons t ts ih =>
    rw [markOffsets, List.count_cons]
    split <;> simp_all

theorem step_eq_of_isQuote {c : Char} (h : isQuote c) : step none c = some c := by
  simp_all [step, isQuote]

private theorem step_eq_of_not_isQuote {c : Char} (h : ¬isQuote c) : step none c = none := by
  simp_all [step, isQuote]

private theorem offsets_quotedToken {quote : Char} (hquote : isQuote quote) (start : Nat)
    (content rest : List Char) : offsets none start (quotedToken quote content ++ rest) =
      offsets none (start + width (quotedToken quote content)) rest := by
  have hfragment := isFragment_quotedToken (step_eq_of_isQuote hquote) content
  have hmarks := hfragment.marks
  have hclosed := hfragment.2
  rw [String.toList_ofList] at hmarks hclosed
  rw [offsets_append, hclosed, offsets_eq_nil_iff.mpr hmarks, List.nil_append]

private theorem marks_of_unterminated {quote : Char} {s : List Char} (hquote : isQuote quote)
    (h : readDoubled? quote s = none) : marks (some quote) s = 0 := by
  have hopens := step_eq_of_isQuote hquote
  have hinside (d : Char) : isMark (some quote) d = false := by simp [isMark]
  fun_induction readDoubled? quote s with
  | case1 => rfl
  | case2 => cases h
  | case3 s ih =>
    have hs := ih (by simpa using h)
    simp [hinside, step_self, isMark_of_opens hopens, hopens, hs]
  | case4 => cases h
  | case5 d s hd ih =>
    have hs := ih (by simpa using h)
    simp [hinside, step, hd, hs]

/-- The scan is outside quotes before each token, wherever it is inside of one. -/
private theorem Lexes.offsets_eq {s : List Char} {ts : List Token} (h : Lexes s ts) (start : Nat) :
    offsets none start s = markOffsets start ts := by
  induction h generalizing start with
  | nil => rfl
  | quoted hquote hend hrest ih =>
    rw [offsets_quotedToken hquote, ih, markOffsets, if_neg (by simp), Token.chars]
  | @unterminated quote text hquote hend =>
    have hopens := step_eq_of_isQuote hquote
    have hmarks := marks_of_unterminated hquote (readDoubled?_eq_none_iff.mpr hend)
    have hnone : marks none (quote :: text) = 0 := by
      simp [isMark_of_opens hopens, hopens, hmarks]
    rw [offsets_eq_nil_iff.mpr hnone]
    simp [markOffsets]
  | @other c s ts hc hrest ih =>
    have hwidth : width (Token.other c).chars = c.utf8Size := by simp [Token.chars]
    simp only [offsets, markOffsets, step_eq_of_not_isQuote hc, ih, hwidth, isMark_iff, true_and,
      Token.other.injEq]

/-- There is one way to cut a text into tokens. The scan finds the question marks that are tokens of
their own, wherever quotes stand in the text and whether they end or not. -/
theorem scan_finds_marks_outside_tokens (sql : String) :
    (∀ ts, Lexes sql.toList ts ↔ ts = lex sql.toList) ∧
    (lex sql.toList).flatMap Token.chars = sql.toList ∧
    scan sql = markOffsets 0 (lex sql.toList) ∧
    ∀ values, Query.placeholderCount ⟨sql, values⟩ = (lex sql.toList).count (.other '?') := by
  have hlexes := lexes_lex sql.toList
  have hscan : scan sql = markOffsets 0 (lex sql.toList) := hlexes.offsets_eq 0
  refine ⟨fun ts => lex_eq_iff.symm.trans eq_comm, hlexes.flatMap_chars, hscan, ?_⟩
  intro values
  rw [← length_markOffsets 0, ← hscan]
  rfl

example : lex "'it''s' ?\"a?".toList = [.quoted '\'' "it's".toList, .other ' ', .other '?',
    .unterminated '"' "a?".toList] := by
  cbv

end RecordTables.Placeholder
