import RecordTables.Proofs.Uuid.Reading

/-!
# Spellings of identifiers

The written form of an identifier has five groups of lower-case digits, which together write the
number of the identifier. The reader takes it in letters of any case, and without its hyphens.
-/

namespace RecordTables.Uuid

open RecordTables.Text

def number (u : Uuid) : Nat :=
  ofBytes u.octets

/-- Groups of 8, 4, 4, 4 and 12 lower-case digits with hyphens between the groups. -/
def IsHyphenated (s : List Char) : Prop :=
  ∃ parts : List (List Char), s = ['-'].intercalate parts ∧
    parts.map List.length = [8, 4, 4, 4, 12] ∧ ∀ part ∈ parts, ∀ c ∈ part, IsLowerHex c

section Hyphenate

variable {s : List Char}

private theorem isHyphenated_hyphenate (hlength : s.length = 32) (hdigits : ∀ c ∈ s, IsLowerHex c) :
    IsHyphenated (hyphenate s) := by
  have htake : ∀ i j, ∀ c ∈ (s.drop i).take j, IsLowerHex c := fun _ _ c hc =>
    hdigits c (List.mem_of_mem_drop (List.mem_of_mem_take hc))
  refine ⟨[s.take 8, (s.drop 8).take 4, (s.drop 12).take 4, (s.drop 16).take 4, s.drop 20], ?_, ?_,
    ?_⟩
  · simp [hyphenate, List.intercalate, List.intersperse]
  · simp [hlength]
  · simp only [List.forall_mem_cons, List.not_mem_nil, false_imp_iff, implies_true, and_true]
    exact ⟨fun c hc => hdigits c (List.mem_of_mem_take hc), htake 8 4, htake 12 4, htake 16 4,
      fun c hc => hdigits c (List.mem_of_mem_drop hc)⟩

private theorem filter_hyphenate (h : '-' ∉ s) : (hyphenate s).filter (· ≠ '-') = s := by
  have hgroups : (hyphenate s).filter (· ≠ '-') = s.filter (· ≠ '-') := by
    conv_rhs => rw [← append_groups s]
    simp only [hyphenate, List.filter_append, List.filter_cons, ne_eq, not_true_eq_false,
      decide_false, Bool.false_eq_true, if_false]
  rw [hgroups, List.filter_eq_self]
  intro c hc
  exact decide_eq_true fun heq => h (heq ▸ hc)

end Hyphenate

private theorem ungroup?_map_toLower (s : List Char) :
    ungroup? (s.map Char.toLower) = (ungroup? s).map (List.map Char.toLower) := by
  have hhyphen : ∀ i : Nat, (s.map Char.toLower)[i]? = some '-' ↔ s[i]? = some '-' := by
    intro i
    rw [List.getElem?_map, map_toLower_eq_some_iff (by decide)]
  simp only [ungroup?, List.length_map, hhyphen]
  split
  · simp only [Option.map_some, List.map_append, List.map_take, List.map_drop]
  · rfl

private theorem groups_map_toLower (s : List Char) :
    groups (s.map Char.toLower) = (groups s).map Char.toLower := by
  have htwice : ((s.map Char.toLower).take scheme.length).map Char.toLower =
      (s.take scheme.length).map Char.toLower := by
    rw [← List.map_take, List.map_map]
    exact List.map_congr_left fun c _ => toLower_toLower c
  simp only [groups, List.length_map, List.head?_map, List.getLast?_map, htwice,
    map_toLower_eq_some_iff (by decide : ¬Char.isAlpha '\x7b'),
    map_toLower_eq_some_iff (by decide : ¬Char.isAlpha '\x7d')]
  split
  · rw [List.map_take, List.map_drop]
  · split
    · rw [List.map_drop]
    · rfl

private theorem ofHex?_map_toLower (s : List Char) : ofHex? (s.map Char.toLower) = ofHex? s := by
  rw [ofHex?, readHexBytes?_map_toLower, ofHex?]

private theorem read?_map_toLower (s : List Char) : read? (s.map Char.toLower) = read? s := by
  simp only [read?, List.length_map, ofHex?_map_toLower, groups_map_toLower, ungroup?_map_toLower,
    Option.bind_map, Function.comp_def]

private theorem map_toLower_filter (s : List Char) :
    (s.filter (· ≠ '-')).map Char.toLower = (s.map Char.toLower).filter (· ≠ '-') := by
  simp only [List.filter_map, Function.comp_def, ne_eq,
    toLower_eq_iff (by decide : ¬Char.isAlpha '-')]

section Written

variable (u : Uuid)

theorem isHyphenated_chars : IsHyphenated u.chars :=
  isHyphenated_hyphenate u.length_digits fun _ => isLowerHex_of_mem_hexBytes

theorem length_chars : u.chars.length = 36 :=
  length_hyphenate u.length_digits

theorem filter_chars : u.chars.filter (· ≠ '-') = hexBytes u.octets := by
  refine filter_hyphenate fun hmem => ?_
  have hhex := isLowerHex_of_mem_hexBytes hmem
  exact absurd hhex (by unfold IsLowerHex; decide)

private theorem read?_digits : read? (hexBytes u.octets) = some u := by
  rw [read?, if_pos u.length_digits, u.ofHex?_digits]

variable {u} {s : List Char} (h : s.map Char.toLower = u.chars)

include h

theorem read?_of_map_toLower : read? s = some u := by
  rw [← read?_map_toLower, h, u.read?_chars]

theorem read?_filter_of_map_toLower : read? (s.filter (· ≠ '-')) = some u := by
  rw [← read?_map_toLower, map_toLower_filter, h, u.filter_chars, u.read?_digits]

end Written

end RecordTables.Uuid
