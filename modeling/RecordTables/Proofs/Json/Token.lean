import RecordTables.Json.Printer
import RecordTables.Json.Reader
import RecordTables.Proofs.Text.Digits
import RecordTables.Proofs.Text.Hex

/-!
# Reading written strings and numbers

A quoted string reads back as the string, and the digits of an integer as the integer, whatever text
follows that does not go on with the number.
-/

namespace RecordTables

open RecordTables.Text

namespace Json

private theorem ofHexDigits?_hexByte {n : Nat} (h : n < 0x20) :
    ofHexDigits? (['0', '0'] ++ hexByte (UInt8.ofNat n)) = some n := by
  have hbyte : (UInt8.ofNat n).toNat = n := by
    rw [UInt8.toNat_ofNat']
    omega
  have hread := ofHexDigits?_hexBytes [0, UInt8.ofNat n]
  rwa [ofBytes, List.foldl_cons, List.foldl_cons, List.foldl_nil, hbyte, UInt8.toNat_zero,
    Nat.mul_zero, Nat.zero_add] at hread

private theorem readString?_letter {c d : Char} (s : List Char) (hu : d ≠ 'u')
    (hd : unescape? d = some c) :
    readString? ('\\' :: d :: s) = (readString? s).map fun p => (c :: p.1, p.2) := by
  rw [readString?]
  · rw [hd]
    cases readString? s <;> rfl
  · intro _ _ _ _ _ h
    exact absurd h hu

private theorem readString?_code {c : Char} (s : List Char) (hcontrol : c.toNat < 0x20) :
    readString? (['\\', 'u', '0', '0'] ++ hexByte (UInt8.ofNat c.toNat) ++ s) =
      (readString? s).map fun p => (c :: p.1, p.2) := by
  have hread := ofHexDigits?_hexByte hcontrol
  have hlow : isLowHalf c.toNat = false := by
    simp only [isLowHalf, decide_eq_false_iff_not]
    omega
  have hhigh : isHighHalf c.toNat = false := by
    simp only [isHighHalf, decide_eq_false_iff_not]
    omega
  simp only [hexByte, List.cons_append, List.nil_append] at hread ⊢
  rw [readString?, hread]
  cases readString? s <;> simp [hlow, hhigh, Char.ofNat_toNat]

private theorem readString?_plain {c : Char} (s : List Char) (hquote : c ≠ '"') (hback : c ≠ '\\')
    (hcontrol : ¬c.toNat < 0x20) :
    readString? (c :: s) = (readString? s).map fun p => (c :: p.1, p.2) := by
  rw [readString?, if_neg (not_or.mpr ⟨hback, hcontrol⟩)]
  · cases readString? s <;> rfl
  · exact hquote
  · intro _ _ _ _ _ h
    exact absurd h hback
  · intro _ _ h
    exact absurd h hback

private theorem readString?_escapeChar (c : Char) (s : List Char) :
    readString? (escapeChar c ++ s) = (readString? s).map fun p => (c :: p.1, p.2) := by
  rw [escapeChar]
  split
  · next hc =>
    subst hc
    exact readString?_letter s (by decide) rfl
  next hquote =>
  split
  · next hc =>
    subst hc
    exact readString?_letter s (by decide) rfl
  next hback =>
  split
  · next hc =>
    subst hc
    exact readString?_letter s (by decide) rfl
  split
  · next hc =>
    subst hc
    exact readString?_letter s (by decide) rfl
  split
  · next hc =>
    subst hc
    exact readString?_letter s (by decide) rfl
  split
  · next hc =>
    subst hc
    exact readString?_letter s (by decide) rfl
  split
  · next hc =>
    subst hc
    exact readString?_letter s (by decide) rfl
  split
  · next hcontrol => exact readString?_code s hcontrol
  · next hcontrol => exact readString?_plain s hquote hback hcontrol

theorem readString?_flatMap_escapeChar (s rest : List Char) :
    readString? (s.flatMap escapeChar ++ '"' :: rest) = some (s, rest) := by
  induction s with
  | nil => rfl
  | cons c s ih =>
    rw [List.flatMap_cons, List.append_assoc, readString?_escapeChar, ih, Option.map_some]

end Json

namespace JsonNumber

/-- Whether a text does not go on with a number that stands before it. -/
def EndsNumber (s : List Char) : Prop :=
  ∀ c ∈ s.head?, ¬c.isDigit ∧ c ≠ '.' ∧ c ≠ 'e' ∧ c ≠ 'E'

theorem EndsNumber.startsWithDigit {s : List Char} (h : EndsNumber s) :
    startsWithDigit s = false := by
  cases s with
  | nil => rfl
  | cons c s => simpa [JsonNumber.startsWithDigit] using (h c rfl).1

private theorem le_foldl_digits (n : Nat) (ds : List Char) :
    n ≤ ds.foldl (fun n c => 10 * n + digitValue c) n := by
  induction ds generalizing n with
  | nil => exact Nat.le_refl n
  | cons d ds ih =>
    have hle := ih (10 * n + digitValue d)
    rw [List.foldl_cons]
    omega

private theorem takeSignificand_append {ds : List Char} (hds : ∀ c ∈ ds, c.isDigit) {n : Nat}
    (hlt : ds.foldl (fun n c => 10 * n + digitValue c) n < 2 ^ 64) (count : Nat) {rest : List Char}
    (hrest : EndsNumber rest) :
    takeSignificand n count (ds ++ rest) =
      (ds.foldl (fun n c => 10 * n + digitValue c) n, count + ds.length, rest) := by
  induction ds generalizing n count with
  | nil =>
    cases rest with
    | nil => rfl
    | cons c rest =>
      have hc := (hrest c rfl).1
      simp [takeSignificand, hc]
  | cons d ds ih =>
    rw [List.foldl_cons] at hlt ⊢
    have hle := le_foldl_digits (10 * n + digitValue d) ds
    have hd : d.isDigit := hds d List.mem_cons_self
    rw [List.cons_append, takeSignificand, if_pos ⟨hd, by omega⟩,
      ih (fun c hc => hds c (List.mem_cons_of_mem _ hc)) hlt, List.length_cons, Nat.add_assoc,
      Nat.add_comm 1]

private theorem readUnsigned?_digits (negative : Bool) {n : Nat} (hlt : n < 2 ^ 64)
    {rest : List Char}
    (hrest : EndsNumber rest) (hsign : negative = true → 0 < n ∧ n ≤ 2 ^ 63) :
    readUnsigned? negative (digits n ++ rest) =
      (ofInt? (if negative then -(n : Int) else n)).map fun m => (m, rest) := by
  have hstart : startsWithDigit (digits n ++ rest) = true := by
    obtain ⟨d, ds, hds, hd⟩ := exists_digits_eq_cons n
    simp [startsWithDigit, hds, hd]
  have hzero : ¬((digits n ++ rest).head? = some '0' ∧
      startsWithDigit ((digits n ++ rest).drop 1) = true) := by
    rintro ⟨hhead, hsecond⟩
    rw [List.head?_append_of_ne_nil _ (digits_ne_nil n)] at hhead
    have hn : n = 0 := Nat.eq_zero_of_not_pos fun hpos => head?_digits_ne_zero hpos hhead
    have hrest' : startsWithDigit rest = true := by simpa [hn, digits_of_lt] using hsecond
    rw [hrest.startsWithDigit] at hrest'
    cases hrest'
  have hvalue : (digits n).foldl (fun n c => 10 * n + digitValue c) 0 = n := ofDigits_digits n
  have htake : takeSignificand 0 0 (digits n ++ rest) = (n, 0 + (digits n).length, rest) := by
    rw [takeSignificand_append (fun _ => isDigit_of_mem_digits) (by rwa [hvalue]) 0 hrest, hvalue]
  have hdropped : rest.takeWhile Char.isDigit = [] := by
    cases rest with
    | nil => rfl
    | cons c rest => exact List.takeWhile_cons_of_neg (hrest c rfl).1
  have hends : rest.head? ≠ some 'e' ∧ rest.head? ≠ some 'E' :=
    ⟨fun h => (hrest 'e' h).2.2.1 rfl, fun h => (hrest 'E' h).2.2.2 rfl⟩
  simp only [readUnsigned?, hstart, hzero, htake, hdropped, not_true_eq_false, if_false,
    List.length_nil, List.drop_zero]
  split
  · next s => exact absurd rfl (hrest '.' rfl).2.1
  · rw [if_pos ⟨rfl, hends⟩]
    cases negative with
    | false => rfl
    | true => simp only [not_true_eq_false, if_false, if_true, if_pos (hsign rfl)]

theorem read?_signedDigits {n : Int} (fits : -2 ^ 63 ≤ n ∧ n < 2 ^ 64) {rest : List Char}
    (hrest : EndsNumber rest) :
    read? (signedDigits n ++ rest) = some (.integer n fits, rest) := by
  have hof : ofInt? n = some (.integer n fits) := dif_pos fits
  rw [signedDigits]
  split
  · next hneg =>
    have hread := readUnsigned?_digits true (n := n.natAbs) (by omega) hrest
      (by omega)
    rw [if_pos rfl, show -(n.natAbs : Int) = n by omega, hof] at hread
    exact hread
  · next hpos =>
    have hread := readUnsigned?_digits false (n := n.natAbs) (by omega) hrest
      (by simp)
    rw [if_neg (by decide), show (n.natAbs : Int) = n by omega, hof] at hread
    obtain ⟨d, ds, hds, hd⟩ := exists_digits_eq_cons n.natAbs
    rw [hds] at hread ⊢
    rw [List.cons_append, read?]
    · exact hread
    · intro _ h
      obtain ⟨rfl, -⟩ := List.cons.inj h
      exact absurd hd (by decide)

end JsonNumber

end RecordTables
