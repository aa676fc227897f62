import RecordTables.Uuid
import RecordTables.Proofs.Text.Hex

/-!
# Reading written identifiers

The written form of an identifier has its hyphens where the reader takes them out.
-/

namespace RecordTables.Uuid

open RecordTables.Text

private theorem ungroup?_append {a b c d e : List Char} (ha : a.length = 8) (hb : b.length = 4)
    (hc : c.length = 4) (hd : d.length = 4) (he : e.length = 12) :
    ungroup? (a ++ '-' :: b ++ '-' :: c ++ '-' :: d ++ '-' :: e) =
      some (a ++ b ++ c ++ d ++ e) := by
  simp [ungroup?, List.drop_append, List.drop_of_length_le, ha, hb, hc, hd, he]

theorem append_groups (s : List Char) :
    s.take 8 ++ (s.drop 8).take 4 ++ (s.drop 12).take 4 ++ (s.drop 16).take 4 ++ s.drop 20 = s := by
  have hcut : ∀ i j, (s.drop i).take j ++ s.drop (i + j) = s.drop i := by
    intro i j
    rw [← List.drop_drop, List.take_append_drop]
  rw [List.append_assoc, List.append_assoc, List.append_assoc, hcut 16 4, hcut 12 4, hcut 8 4,
    List.take_append_drop]

section Hyphenate

variable {s : List Char} (h : s.length = 32)

include h

private theorem ungroup?_hyphenate : ungroup? (hyphenate s) = some s := by
  rw [hyphenate, ungroup?_append (by simp [h]) (by simp [h]) (by simp [h]) (by simp [h])
    (by simp [h]), append_groups]

theorem length_hyphenate : (hyphenate s).length = 36 := by
  simp [hyphenate, h]

private theorem getElem?_hyphenate : (hyphenate s)[8]? = some '-' := by
  simp [hyphenate, h]

private theorem groups_hyphenate : groups (hyphenate s) = hyphenate s := by
  have hscheme : ((hyphenate s).take scheme.length).map Char.toLower ≠ scheme := by
    intro heq
    -- The name of the scheme has no hyphen where the first group ends.
    have hat := congrArg (fun s : List Char => s[8]?) heq
    rw [List.getElem?_map, List.getElem?_take_of_lt (by decide), getElem?_hyphenate h] at hat
    exact absurd hat (by decide)
  rw [groups, if_neg (by simp [length_hyphenate h]), if_neg hscheme]

end Hyphenate

section Written

variable (u : Uuid)

theorem ofOctets?_octets : ofOctets? u.octets = some u :=
  dif_pos u.length_octets

theorem length_digits : (hexBytes u.octets).length = 32 := by
  rw [length_hexBytes, u.length_octets]

theorem ofHex?_digits : ofHex? (hexBytes u.octets) = some u := by
  rw [ofHex?, readHexBytes?_hexBytes, Option.bind_some, u.ofOctets?_octets]

theorem read?_chars : read? u.chars = some u := by
  have hlength := u.length_digits
  rw [read?, chars, length_hyphenate hlength, if_neg (by decide), groups_hyphenate hlength,
    ungroup?_hyphenate hlength, Option.bind_some, u.ofHex?_digits]

end Written

end RecordTables.Uuid
