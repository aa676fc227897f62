import Mathlib.Data.List.Nodup
import RecordTables.Proofs.Check

/-!
# Rules that are checked in order

A check follows a list of rules if it passes exactly when all of them hold, and otherwise reports
the first that does not. Checks made one after another follow their rules one after another.
-/

namespace RecordTables

/-- Something that has to hold, and the errors that report that it does not. -/
@[ext]
structure Rule (ε : Type) where
  holds : Prop
  reports : ε → Prop

namespace Rule

variable {ε δ α β : Type}

def of (holds : Prop) (e : ε) : Rule ε :=
  ⟨holds, (· = e)⟩

/-- The error reports the first rule that does not hold. -/
inductive FirstBroken : List (Rule ε) → ε → Prop
  | here {rule : Rule ε} {rules : List (Rule ε)} {e : ε} (hbroken : ¬rule.holds)
      (he : rule.reports e) : FirstBroken (rule :: rules) e
  | later {rule : Rule ε} {rules : List (Rule ε)} {e : ε} (hholds : rule.holds)
      (hlater : FirstBroken rules e) : FirstBroken (rule :: rules) e

theorem not_firstBroken_nil {e : ε} : ¬FirstBroken [] e := by
  intro h
  cases h

theorem firstBroken_cons {rule : Rule ε} {rules : List (Rule ε)} {e : ε} :
    FirstBroken (rule :: rules) e ↔
      ¬rule.holds ∧ rule.reports e ∨ rule.holds ∧ FirstBroken rules e := by
  constructor
  · rintro (⟨hbroken, he⟩ | ⟨hholds, hlater⟩)
    · exact .inl ⟨hbroken, he⟩
    · exact .inr ⟨hholds, hlater⟩
  · rintro (⟨hbroken, he⟩ | ⟨hholds, hlater⟩)
    · exact .here hbroken he
    · exact .later hholds hlater

theorem firstBroken_append {rules later : List (Rule ε)} {e : ε} :
    FirstBroken (rules ++ later) e ↔
      FirstBroken rules e ∨ (∀ rule ∈ rules, rule.holds) ∧ FirstBroken later e := by
  induction rules with
  | nil => simp [not_firstBroken_nil]
  | cons rule rules ih =>
    rw [List.cons_append, firstBroken_cons, firstBroken_cons, ih, List.forall_mem_cons]
    tauto

theorem FirstBroken.exists_reports {rules : List (Rule ε)} {e : ε} (h : FirstBroken rules e) :
    ∃ rule ∈ rules, rule.reports e := by
  induction h with
  | here _ he => exact ⟨_, List.mem_cons_self, he⟩
  | later _ _ ih =>
    obtain ⟨rule, hrule, he⟩ := ih
    exact ⟨rule, List.mem_cons_of_mem _ hrule, he⟩

private theorem not_firstBroken {rules : List (Rule ε)} (h : ∀ rule ∈ rules, rule.holds) {e : ε} :
    ¬FirstBroken rules e := by
  intro hfirst
  induction hfirst with
  | here hbroken _ => exact hbroken (h _ List.mem_cons_self)
  | later _ _ ih => exact ih fun rule hrule => h rule (List.mem_cons_of_mem _ hrule)

def map (f : ε → δ) (rule : Rule ε) : Rule δ :=
  ⟨rule.holds, fun e => ∃ source, rule.reports source ∧ e = f source⟩

theorem firstBroken_map {f : ε → δ} {rules : List (Rule ε)} {e : δ} :
    FirstBroken (rules.map (map f)) e ↔ ∃ source, FirstBroken rules source ∧ e = f source := by
  induction rules with
  | nil => simp [not_firstBroken_nil]
  | cons rule rules ih =>
    simp only [List.map_cons, firstBroken_cons, ih, map]
    constructor
    · rintro (⟨hbroken, source, he, rfl⟩ | ⟨hholds, source, he, rfl⟩)
      · exact ⟨source, .inl ⟨hbroken, he⟩, rfl⟩
      · exact ⟨source, .inr ⟨hholds, he⟩, rfl⟩
    · rintro ⟨source, ⟨hbroken, he⟩ | ⟨hholds, he⟩, rfl⟩
      · exact .inl ⟨hbroken, source, he, rfl⟩
      · exact .inr ⟨hholds, source, he, rfl⟩

/-- The check passes if all rules hold, and it reports the first that does not. -/
structure Follows (x : Except ε α) (rules : List (Rule ε)) : Prop where
  ok_iff : (∃ a, x = .ok a) ↔ ∀ rule ∈ rules, rule.holds
  error_iff : ∀ e, x = .error e ↔ FirstBroken rules e

namespace Follows

variable {x : Except ε α} {f : α → Except ε β} {rule : Rule ε} {rules later : List (Rule ε)}

theorem nil (a : α) : Follows (.ok a : Except ε α) [] := by
  refine ⟨by simp, ?_⟩
  intro e
  simp [not_firstBroken_nil]

theorem held (hholds : rule.holds) (h : Follows x rules) : Follows x (rule :: rules) := by
  refine ⟨?_, ?_⟩
  · rw [h.ok_iff, List.forall_mem_cons]
    exact ⟨fun hall => ⟨hholds, hall⟩, And.right⟩
  · intro e
    rw [h.error_iff, firstBroken_cons]
    simp [hholds]

theorem of_held (h : Follows x (rule :: rules)) (hholds : rule.holds) : Follows x rules := by
  refine ⟨?_, ?_⟩
  · rw [h.ok_iff, List.forall_mem_cons]
    exact ⟨And.right, fun hall => ⟨hholds, hall⟩⟩
  · intro e
    rw [h.error_iff, firstBroken_cons]
    simp [hholds]

theorem of_append (h : Follows x (rules ++ later))
    (hlater : (∀ rule ∈ rules, rule.holds) → ∀ rule ∈ later, rule.holds) : Follows x rules := by
  refine ⟨?_, ?_⟩
  · rw [h.ok_iff, List.forall_mem_append]
    exact ⟨And.left, fun hall => ⟨hall, hlater hall⟩⟩
  · intro e
    rw [h.error_iff, firstBroken_append]
    constructor
    · intro hbroken
      rcases hbroken with hfirst | ⟨hall, hnext⟩
      · exact hfirst
      · exact absurd hnext (not_firstBroken (hlater hall))
    · exact Or.inl

theorem reported {e : ε} (hbroken : ¬rule.holds) (he : ∀ other, rule.reports other ↔ other = e) :
    Follows (.error e : Except ε α) (rule :: rules) := by
  refine ⟨?_, ?_⟩
  · rw [List.forall_mem_cons]
    constructor
    · rintro ⟨_, h⟩
      cases h
    · rintro ⟨hholds, _⟩
      exact absurd hholds hbroken
  · intro other
    rw [firstBroken_cons, he, Except.error.injEq, eq_comm]
    simp [hbroken]

theorem broken {holds : Prop} {e : ε} (hbroken : ¬holds) :
    Follows (.error e : Except ε α) (of holds e :: rules) :=
  reported hbroken fun _ => Iff.rfl

theorem bind (hx : Follows x rules) (hf : ∀ a, x = .ok a → Follows (f a) later) :
    Follows (x >>= f) (rules ++ later) := by
  refine ⟨?_, ?_⟩
  · rw [List.forall_mem_append, ← hx.ok_iff]
    constructor
    · rintro ⟨b, h⟩
      obtain ⟨a, ha, hb⟩ := Check.bind_eq_ok.mp h
      exact ⟨⟨a, ha⟩, (hf a ha).ok_iff.mp ⟨b, hb⟩⟩
    · rintro ⟨⟨a, ha⟩, hlater⟩
      obtain ⟨b, hb⟩ := (hf a ha).ok_iff.mpr hlater
      exact ⟨b, Check.bind_eq_ok.mpr ⟨a, ha, hb⟩⟩
  · intro e
    rw [Check.bind_eq_error, firstBroken_append, ← hx.error_iff, ← hx.ok_iff]
    apply or_congr_right
    constructor
    · rintro ⟨a, ha, he⟩
      exact ⟨⟨a, ha⟩, ((hf a ha).error_iff e).mp he⟩
    · rintro ⟨⟨a, ha⟩, he⟩
      exact ⟨a, ha, ((hf a ha).error_iff e).mpr he⟩

theorem bind_ok {g : α → β} (hx : Follows x rules) :
    Follows (x >>= fun a => .ok (g a)) rules := by
  have h := hx.bind (f := fun a => .ok (g a)) fun a _ => nil (g a)
  rwa [List.append_nil] at h

theorem mapM {γ : Type} {xs : List γ} {g : γ → Except ε α} {rulesOf : γ → List (Rule ε)}
    (h : ∀ y ∈ xs, Follows (g y) (rulesOf y)) : Follows (xs.mapM g) (xs.flatMap rulesOf) := by
  induction xs with
  | nil => exact nil []
  | cons y xs ih =>
    obtain ⟨hy, hxs⟩ := List.forall_mem_cons.mp h
    rw [List.mapM_cons, List.flatMap_cons]
    exact hy.bind fun _ _ => (ih hxs).bind_ok

theorem mapM_around {γ : Type} {before after : List γ} {y : γ} {g special : γ → Except ε α}
    {rulesOf : γ → List (Rule ε)} {combine : List α → α → List α → β}
    (hbefore : ∀ z ∈ before, Follows (g z) (rulesOf z)) (hy : Follows (special y) (rulesOf y))
    (hafter : ∀ z ∈ after, Follows (g z) (rulesOf z)) :
    Follows (do
        let as ← before.mapM g
        let a ← special y
        let bs ← after.mapM g
        return combine as a bs)
      ((before ++ y :: after).flatMap rulesOf) := by
  rw [List.flatMap_append, List.flatMap_cons]
  apply (mapM hbefore).bind
  rintro as -
  apply hy.bind
  rintro a -
  exact (mapM hafter).bind_ok

theorem mapError {g : ε → δ} (hx : Follows x rules) :
    Follows (x.mapError g) (rules.map (Rule.map g)) := by
  refine ⟨?_, ?_⟩
  · rw [List.forall_mem_map]
    change _ ↔ ∀ rule ∈ rules, rule.holds
    rw [← hx.ok_iff]
    cases x <;> simp [Except.mapError]
  · intro e
    rw [firstBroken_map]
    simp only [← hx.error_iff]
    cases x <;> simp [Except.mapError, eq_comm]

end Follows

section Keyed

variable {γ κ : Type} {xs : List γ} {keyOf : γ → κ} {key : κ} {absent : ε} {ruleOf : γ → Rule ε}

/-- The rules that there is an element with the key, and that it keeps its rule. -/
def keyed (xs : List γ) (keyOf : γ → κ) (key : κ) (absent : ε) (ruleOf : γ → Rule ε) :
    List (Rule ε) :=
  [.of (∃ x ∈ xs, keyOf x = key) absent,
    ⟨∀ x ∈ xs, keyOf x = key → (ruleOf x).holds,
      fun e => ∃ x ∈ xs, keyOf x = key ∧ (ruleOf x).reports e⟩]

theorem keyed_hold_iff (hn : (xs.map keyOf).Nodup) :
    (∀ rule ∈ keyed xs keyOf key absent ruleOf, rule.holds) ↔
      ∃ x ∈ xs, keyOf x = key ∧ (ruleOf x).holds := by
  rw [keyed, List.forall_mem_cons, List.forall_mem_singleton]
  constructor
  · rintro ⟨⟨x, hx, hkey⟩, hholds⟩
    exact ⟨x, hx, hkey, hholds x hx hkey⟩
  · rintro ⟨x, hx, hkey, hholds⟩
    refine ⟨⟨x, hx, hkey⟩, ?_⟩
    intro other hother hsame
    rw [List.inj_on_of_nodup_map hn hother hx (hsame.trans hkey.symm)]
    exact hholds

variable {x : Except ε α} {rules : List (Rule ε)}

theorem Follows.missing (h : ∀ y ∈ xs, keyOf y ≠ key) :
    Follows (.error absent : Except ε α) (keyed xs keyOf key absent ruleOf ++ rules) := by
  apply broken
  rintro ⟨y, hy, hkey⟩
  exact h y hy hkey

theorem Follows.found {y : γ} (hn : (xs.map keyOf).Nodup) (hy : y ∈ xs) (hkey : keyOf y = key)
    (h : Follows x (ruleOf y :: rules)) :
    Follows x (keyed xs keyOf key absent ruleOf ++ rules) := by
  have hsame : ∀ z ∈ xs, keyOf z = key → z = y := fun z hz hz' =>
    List.inj_on_of_nodup_map hn hz hy (hz'.trans hkey.symm)
  have hexists : ∃ z ∈ xs, keyOf z = key := ⟨y, hy, hkey⟩
  have hrule : ruleOf y = ⟨∀ z ∈ xs, keyOf z = key → (ruleOf z).holds,
      fun e => ∃ z ∈ xs, keyOf z = key ∧ (ruleOf z).reports e⟩ := by
    apply Rule.ext
    · apply propext
      constructor
      · intro hholds z hz hz'
        rw [hsame z hz hz']
        exact hholds
      · exact fun hall => hall y hy hkey
    · funext e
      apply propext
      constructor
      · exact fun he => ⟨y, hy, hkey, he⟩
      · rintro ⟨z, hz, hz', he⟩
        rw [hsame z hz hz'] at he
        exact he
  rw [hrule] at h
  exact .held hexists h

end Keyed

end Rule

end RecordTables
