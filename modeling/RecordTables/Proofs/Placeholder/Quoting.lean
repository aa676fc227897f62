import RecordTables.Proofs.Placeholder.Lexing
import RecordTables.Value.Text

/-!
# Names, texts and characters between quotes

A name is written between double quotes, a text and a character between single ones. What is
written is one token of its content, whatever quotes and question marks the content holds, and the
scan for placeholders leaves it as it has come to it.
-/

namespace RecordTables.Placeholder

open Text

/-- The text is one quoted token of a content. A reader takes it off any text that does not go on
with another quote, and gives the content and all that follows; a lexer then goes on behind it; and
the scan finds no placeholder in it and is outside quotes after it. -/
structure SpellsQuoted (quote : Char) (content : List Char) (text : String) : Prop where
  read_iff : ∀ rest, readQuoted? quote (text.toList ++ rest) = some (content, rest) ↔
    rest.head? ≠ some quote
  lex_eq : ∀ rest, rest.head? ≠ some quote →
    lex (text.toList ++ rest) = .quoted quote content :: lex rest
  scan_eq : scan text = []
  closed : quotingAfter none text.toList = none

private theorem spellsQuoted_quotedToken {quote : Char} (hquote : isQuote quote)
    (content : List Char) :
    SpellsQuoted quote content (String.ofList (quotedToken quote content)) := by
  have hfragment := isFragment_quotedToken (step_eq_of_isQuote hquote) content
  refine ⟨?_, ?_, hfragment.1, hfragment.2⟩
  · intro rest
    rw [String.toList_ofList, readQuoted?_eq_some_iff]
    exact and_iff_right rfl
  · intro rest hrest
    rw [String.toList_ofList]
    exact lex_eq_iff.mpr (.quoted hquote hrest (lexes_lex rest))

/-- Every name, text and character is written as one quoted token of its own, which is read back
before whatever does not start with another quote. -/
theorem quoted_contents_are_read_back :
    (∀ (dialect : Dialect) (name : String),
      SpellsQuoted '"' name.toList (dialect.quoteIdentifier name)) ∧
    (∀ s : String, SpellsQuoted '\'' s.toList (Value.text s).escaped) ∧
    ∀ c : Char, SpellsQuoted '\'' [c] (Value.char c).escaped := by
  refine ⟨?_, ?_, ?_⟩
  · intro dialect name
    cases dialect <;> exact spellsQuoted_quotedToken rfl name.toList
  · intro s
    exact spellsQuoted_quotedToken rfl s.toList
  · intro c
    exact spellsQuoted_quotedToken rfl [c]

example : (Value.text "'It''s?\"").escaped = "'''It''''s?\"'" ∧
    lex "'''It''''s?\"'?".toList = [.quoted '\'' "'It''s?\"".toList, .other '?'] := by
  cbv

end RecordTables.Placeholder
