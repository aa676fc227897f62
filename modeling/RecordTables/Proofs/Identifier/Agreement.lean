import RecordTables.Proofs.Declaration.Names
import RecordTables.Proofs.Placeholder.Scan

/-!
# Two checks of names

A declaration and a table have their names checked by two functions. Both follow the same rules in
the same order: a name that the first lets pass is never refused by the second, and one that it
refuses is refused for the same reason. Lengths count bytes, but a name that is accepted has one
byte for each character.
-/

namespace RecordTables

def Identifier.IsLetter (c : Char) : Prop :=
  'A' ≤ c ∧ c ≤ 'Z' ∨ 'a' ≤ c ∧ c ≤ 'z'

def Identifier.IsNumeric (c : Char) : Prop :=
  '0' ≤ c ∧ c ≤ '9'

/-- One to 63 ASCII letters, digits and underscores that do not start with a digit. -/
structure Identifier.IsName (name : String) : Prop where
  length_pos : 1 ≤ name.length
  length_le : name.length ≤ 63
  characters : ∀ c ∈ name.toList, IsLetter c ∨ IsNumeric c ∨ c = '_'
  start : ∀ c, name.toList.head? = some c → ¬IsNumeric c

namespace NameFault

open Identifier

variable {name : String} {fault : NameFault}

/-- The rule that a name with the fault breaks. -/
def Keeps (name : String) : NameFault → Prop
  | .empty => name ≠ ""
  | .tooLong => name.utf8ByteSize ≤ 63
  | .badStart => ∀ c, name.toList.head? = some c → IsLetter c ∨ c = '_'
  | .badCharacter => ∀ c ∈ name.toList, IsLetter c ∨ IsNumeric c ∨ c = '_'

/-- The rules of names, in the order in which they count. -/
def rules (name : String) : List (Rule NameFault) :=
  [.of (Keeps name .empty) .empty, .of (Keeps name .tooLong) .tooLong,
    .of (Keeps name .badStart) .badStart, .of (Keeps name .badCharacter) .badCharacter]

/-- The error for the same reason when a table is built. -/
def identifierError (name : String) : NameFault → IdentifierError
  | .empty => .empty
  | .tooLong => .tooLong name
  | .badStart => .invalidStart name
  | .badCharacter => .invalidCharacters name

private theorem isStart_iff_isLetter (c : Char) : isStart c ↔ IsLetter c ∨ c = '_' := by
  simp [isStart, isAlpha_eq, IsLetter]

private theorem isPart_iff_isLetter (c : Char) : isPart c ↔ IsLetter c ∨ IsNumeric c ∨ c = '_' := by
  simp [isPart, Char.isAlphanum, isAlpha_eq, ← isDigit_eq, IsLetter, IsNumeric, or_assoc]

theorem occursIn_iff : occursIn name fault ↔ ¬Keeps name fault := by
  cases fault with
  | empty => rw [occursIn_empty, Keeps, not_not]
  | tooLong => rw [occursIn_tooLong, Keeps, greatestLength, Nat.not_le]
  | badStart =>
    simp only [occursIn_badStart, Keeps, isStart_iff_isLetter, not_forall, exists_prop]
  | badCharacter =>
    simp only [occursIn_badCharacter, Keeps, isPart_iff_isLetter, not_forall, exists_prop]

private theorem find?_eq_some_iff {faults : List NameFault} :
    faults.find? (occursIn name) = some fault ↔
      Rule.FirstBroken (faults.map fun f => .of (Keeps name f) f) fault := by
  induction faults with
  | nil => simp [Rule.not_firstBroken_nil]
  | cons f faults ih =>
    rw [List.map_cons, Rule.firstBroken_cons, ← ih, List.find?_cons]
    by_cases hf : Keeps name f
    · have hoccurs : occursIn name f = false := by
        rw [Bool.eq_false_iff, Ne, occursIn_iff, not_not]
        exact hf
      simp [Rule.of, hf, hoccurs]
    · have hoccurs : occursIn name f = true := occursIn_iff.mpr hf
      simp [Rule.of, hf, hoccurs, eq_comm]

private theorem first?_eq_some_iff :
    first? name = some fault ↔ Rule.FirstBroken (rules name) fault :=
  find?_eq_some_iff

private theorem firstBroken_rules_iff :
    Rule.FirstBroken (Identifier.rules name) (fault.identifierError name) ↔
      Rule.FirstBroken (rules name) fault := by
  simp only [Identifier.rules, rules, Rule.firstBroken_cons, Rule.of, Keeps, isStart_iff_isLetter,
    isPart_iff_isLetter, greatestLength]
  cases fault <;> simp [identifierError, Rule.not_firstBroken_nil]

private theorem check_eq_error_iff :
    check name = .error (fault.identifierError name) ↔ Rule.FirstBroken (rules name) fault := by
  rw [(check_follows name).error_iff, firstBroken_rules_iff]

private theorem toNat_of_isLetter {c : Char} (h : IsLetter c) :
    65 ≤ c.toNat ∧ c.toNat ≤ 90 ∨ 97 ≤ c.toNat ∧ c.toNat ≤ 122 := by
  simpa [IsLetter, Char.le_def, UInt32.le_iff_toNat_le] using h

private theorem toNat_of_isNumeric {c : Char} (h : IsNumeric c) : 48 ≤ c.toNat ∧ c.toNat ≤ 57 := by
  simpa [IsNumeric, Char.le_def, UInt32.le_iff_toNat_le] using h

private theorem not_isNumeric_of_isLetter {c : Char} (h : IsLetter c) : ¬IsNumeric c := by
  intro hnumeric
  have hletter := toNat_of_isLetter h
  have hdigit := toNat_of_isNumeric hnumeric
  omega

private theorem utf8Size_eq_one {c : Char} (h : IsLetter c ∨ IsNumeric c ∨ c = '_') :
    c.utf8Size = 1 := by
  rw [Char.utf8Size_eq_one_iff, UInt32.le_iff_toNat_le]
  change c.toNat ≤ 127
  rcases h with hletter | hnumeric | rfl
  · have hcode := toNat_of_isLetter hletter
    omega
  · have hcode := toNat_of_isNumeric hnumeric
    omega
  · decide

private theorem width_eq_length {s : List Char} (h : ∀ c ∈ s, IsLetter c ∨ IsNumeric c ∨ c = '_') :
    Placeholder.width s = s.length := by
  induction s with
  | nil => rfl
  | cons c s ih =>
    obtain ⟨hc, hs⟩ := List.forall_mem_cons.mp h
    rw [Placeholder.width_cons, utf8Size_eq_one hc, ih hs, List.length_cons, Nat.add_comm]

private theorem utf8ByteSize_eq_length (h : ∀ c ∈ name.toList, IsLetter c ∨ IsNumeric c ∨ c = '_') :
    name.utf8ByteSize = name.length := by
  rw [← Placeholder.width_toList, width_eq_length h, String.length_toList]

private theorem isName_iff : IsName name ↔ ∀ fault, Keeps name fault := by
  have hlength : 1 ≤ name.length ↔ name ≠ "" := by
    rw [Nat.one_le_iff_ne_zero, Ne, ← String.length_toList, List.length_eq_zero_iff,
      String.toList_eq_nil_iff]
  constructor
  · intro h fault
    cases fault with
    | empty => exact hlength.mp h.length_pos
    | tooLong =>
      rw [Keeps, utf8ByteSize_eq_length h.characters]
      exact h.length_le
    | badStart =>
      intro c hc
      rcases h.characters c (List.mem_of_mem_head? hc) with hletter | hnumeric | hunderscore
      · exact .inl hletter
      · exact absurd hnumeric (h.start c hc)
      · exact .inr hunderscore
    | badCharacter => exact h.characters
  · intro h
    have hcharacters := h .badCharacter
    refine ⟨hlength.mpr (h .empty), ?_, hcharacters, ?_⟩
    · rw [← utf8ByteSize_eq_length hcharacters]
      exact h .tooLong
    · intro c hc
      rcases h .badStart c hc with hletter | rfl
      · exact not_isNumeric_of_isLetter hletter
      · unfold IsNumeric
        decide

private theorem first?_eq_none_iff_isName : first? name = none ↔ IsName name := by
  simp only [first?_eq_none_iff_forall, isName_iff, occursIn_iff, not_not]

private theorem message_eq_iff :
    fault.message name = (fault.identifierError name).message ↔ fault ≠ .badCharacter := by
  cases fault with
  | empty => exact iff_of_true rfl (by decide)
  | tooLong => exact iff_of_true rfl (by decide)
  | badStart => exact iff_of_true rfl (by decide)
  | badCharacter =>
    refine iff_of_false ?_ (by decide)
    intro h
    change "Name '" ++ name ++ _ ++ _ = "Invalid characters in name '" ++ name ++ _ ++ _ at h
    have hhead := congrArg (fun s : String => s.toList.head?) h
    simp at hhead

/-- A declaration and a table have every name checked alike. They refuse it for the same reason, the
first rule that it breaks, and both accept exactly the names of one to 63 ASCII letters, digits and
underscores that do not start with a digit. Only the message about a bad character has two forms. -/
theorem names_are_checked_alike (name : String) :
    check name =
      (first? name).elim (.ok ()) (fun fault => .error (fault.identifierError name)) ∧
    (∀ fault, first? name = some fault ↔ Rule.FirstBroken (rules name) fault) ∧
    (first? name = none ↔ IsName name) ∧ (check name = .ok () ↔ IsName name) ∧
    ∀ fault : NameFault,
      fault.message name = (fault.identifierError name).message ↔ fault ≠ .badCharacter := by
  have hagree : check name =
      (first? name).elim (.ok ()) (fun fault => .error (fault.identifierError name)) := by
    cases hfirst : first? name with
    | none =>
      have hrules := isValid_iff.mp (first?_eq_none_iff.mp hfirst)
      obtain ⟨_, hok⟩ := (check_follows name).ok_iff.mpr hrules
      exact hok
    | some fault => exact check_eq_error_iff.mpr (first?_eq_some_iff.mp hfirst)
  have haccepted : check name = .ok () ↔ IsName name := by
    rw [← first?_eq_none_iff_isName, hagree]
    cases first? name <;> simp
  exact ⟨hagree, fun _ => first?_eq_some_iff, first?_eq_none_iff_isName, haccepted,
    fun _ => message_eq_iff⟩

/-- Bytes count, and the length before the first character. -/
example : first? (String.ofList (List.replicate 32 'é')) = some .tooLong := by decide +kernel

end NameFault

end RecordTables
