import Mathlib.Data.List.Basic
import RecordTables.Text.Hex
import RecordTables.Proofs.Text.Casing

/-!
# Reading written octets

Two digits read back as the octet that they write, in either case. The digits of several octets
write one number, the first octet counting most.
-/

namespace RecordTables.Text

private theorem hexValue?_hexDigit : ∀ n < 16, hexValue? (hexDigit n) = some n := by
  decide

private theorem hexValue?_toLower (c : Char) : hexValue? c.toLower = hexValue? c := by
  have hcapital : ∀ i < 26,
      hexValue? (Char.ofNat (65 + i)).toLower = hexValue? (Char.ofNat (65 + i)) := by
    decide
  rcases toLower_eq_or_isCapital c with h | ⟨i, hi, rfl⟩
  · rw [h]
  · exact hcapital i hi

/-- Whether a character is a digit in base sixteen and no capital letter. -/
def IsLowerHex (c : Char) : Prop :=
  c ∈ "0123456789abcdef".toList

private theorem isLowerHex_hexDigit : ∀ n < 16, IsLowerHex (hexDigit n) := by
  unfold IsLowerHex
  decide

private theorem hexValue?_halves (b : UInt8) :
    hexValue? (hexDigit (b.toNat / 16)) = some (b.toNat / 16) ∧
      hexValue? (hexDigit (b.toNat % 16)) = some (b.toNat % 16) := by
  have hlt := b.toNat_lt
  exact ⟨hexValue?_hexDigit _ (by omega), hexValue?_hexDigit _ (by omega)⟩

private theorem hexBytes_cons (b : UInt8) (bs : List UInt8) :
    hexBytes (b :: bs) = hexDigit (b.toNat / 16) :: hexDigit (b.toNat % 16) :: hexBytes bs :=
  rfl

theorem isLowerHex_of_mem_hexBytes {bs : List UInt8} {c : Char} (h : c ∈ hexBytes bs) :
    IsLowerHex c := by
  obtain ⟨b, -, hc⟩ := List.mem_flatMap.mp h
  have hlt := b.toNat_lt
  simp only [hexByte, List.mem_cons, List.not_mem_nil, or_false] at hc
  rcases hc with rfl | rfl
  · exact isLowerHex_hexDigit _ (by omega)
  · exact isLowerHex_hexDigit _ (by omega)

theorem length_hexBytes (bs : List UInt8) : (hexBytes bs).length = 2 * bs.length := by
  induction bs with
  | nil => rfl
  | cons b bs ih =>
    rw [hexBytes_cons, List.length_cons, List.length_cons, ih, List.length_cons]
    omega

theorem readHexBytes?_hexBytes (bs : List UInt8) : readHexBytes? (hexBytes bs) = some bs := by
  induction bs with
  | nil => rfl
  | cons b bs ih =>
    obtain ⟨hhigh, hlow⟩ := hexValue?_halves b
    have hb : UInt8.ofNat (16 * (b.toNat / 16) + b.toNat % 16) = b := by
      rw [Nat.div_add_mod, UInt8.ofNat_toNat]
    simp only [hexBytes_cons, readHexBytes?, hhigh, hlow, ih, Option.bind_eq_bind,
      Option.bind_some, hb]
    rfl

theorem readHexBytes?_map_toLower (s : List Char) :
    readHexBytes? (s.map Char.toLower) = readHexBytes? s := by
  induction s using readHexBytes?.induct with
  | case1 => rfl
  | case2 => rfl
  | case3 a b rest ih => simp only [List.map_cons, readHexBytes?, hexValue?_toLower, ih]

def ofBytes (bs : List UInt8) : Nat :=
  bs.foldl (fun n b => 256 * n + b.toNat) 0

theorem ofHexDigits?_hexBytes (bs : List UInt8) :
    ofHexDigits? (hexBytes bs) = some (ofBytes bs) := by
  rw [ofHexDigits?, ofBytes]
  generalize 0 = n
  induction bs generalizing n with
  | nil => rfl
  | cons b bs ih =>
    obtain ⟨hhigh, hlow⟩ := hexValue?_halves b
    have hsum : 16 * (16 * n + b.toNat / 16) + b.toNat % 16 = 256 * n + b.toNat := by omega
    simp only [hexBytes_cons, List.foldlM_cons, hhigh, hlow, Option.map_some, Option.bind_eq_bind,
      Option.bind_some, hsum, ih, List.foldl_cons]

end RecordTables.Text
