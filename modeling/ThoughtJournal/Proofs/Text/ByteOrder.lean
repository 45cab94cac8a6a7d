import Mathlib.Algebra.Group.Nat.Defs
import ThoughtJournal.Store.Relational
import ThoughtJournal.Text.Order

/-! # The order of UTF-8 bytes

Texts are ordered like their UTF-8 forms (`Utf8.encode_lt_encode_iff`). The form of a character is
its code in base 64, the most significant digit in the first byte, on top of a mark that grows with
the number of digits (`Utf8.utf8EncodeChar_eq_octets`). So a character with a smaller code has the
smaller first byte or, with as many bytes, the smaller digit where the two differ first, whatever
follows the two characters (`Utf8.utf8EncodeChar_append_lt`).
-/

namespace ThoughtJournal

namespace Utf8

/-- A number in base 64: a digit on top of a mark and so many digits after it, each in a byte. -/
def octets (mark : Nat) : Nat → Nat → Bytes
  | 0, value => [UInt8.ofNat (mark + value)]
  | more + 1, value =>
      UInt8.ofNat (mark + value / 64 ^ (more + 1)) :: octets 128 more (value % 64 ^ (more + 1))

/-- The number of bytes after the first one. -/
def continuations (value : Nat) : Nat :=
  if value ≤ 0x7F then 0 else if value ≤ 0x7FF then 1 else if value ≤ 0xFFFF then 2 else 3

/-- What the first byte holds besides the first digit. -/
def mark : Nat → Nat
  | 0 => 0
  | 1 => 0xC0
  | 2 => 0xE0
  | _ => 0xF0

/-- The first byte of the character with a code. -/
def leadByte (value : Nat) : Nat :=
  mark (continuations value) + value / 64 ^ continuations value

theorem val_lt (c : Char) : c.val.toNat < 0x110000 := by
  rcases c.valid with low | ⟨_, high⟩
  · exact Nat.lt_trans low (by decide)
  · exact high

/-- The bytes of a character are the digits of its code. -/
theorem utf8EncodeChar_eq_octets (c : Char) :
    String.utf8EncodeChar c =
      octets (mark (continuations c.val.toNat)) (continuations c.val.toNat) c.val.toNat := by
  have bound := val_lt c
  unfold String.utf8EncodeChar continuations
  dsimp only
  generalize c.val.toNat = value at bound
  split
  · simp only [octets, mark, Nat.zero_add]
  · split
    · simp only [octets, mark, List.cons.injEq, and_true]
      exact ⟨congrArg _ (by omega), congrArg _ (by omega)⟩
    · split
      · simp only [octets, mark, List.cons.injEq, and_true]
        exact ⟨congrArg _ (by omega), congrArg _ (by omega), congrArg _ (by omega)⟩
      · simp only [octets, mark, List.cons.injEq, and_true]
        exact ⟨congrArg _ (by omega), congrArg _ (by omega), congrArg _ (by omega),
          congrArg _ (by omega)⟩

/-- The code decides how many bytes there are and what the first one is. -/
theorem continuations_cases {value : Nat} (bound : value < 0x110000) :
    value ≤ 0x7F ∧ continuations value = 0 ∧ leadByte value = value ∨
    0x7F < value ∧ value ≤ 0x7FF ∧ continuations value = 1 ∧
      leadByte value = 0xC0 + value / 64 ∨
    0x7FF < value ∧ value ≤ 0xFFFF ∧ continuations value = 2 ∧
      leadByte value = 0xE0 + value / 4096 ∨
    0xFFFF < value ∧ continuations value = 3 ∧ leadByte value = 0xF0 + value / 262144 := by
  unfold leadByte continuations
  split
  · rename_i one
    exact Or.inl ⟨one, rfl, by rw [mark, Nat.zero_add, Nat.pow_zero, Nat.div_one]⟩
  · split
    · exact Or.inr (Or.inl ⟨by omega, by assumption, rfl, rfl⟩)
    · split
      · exact Or.inr (Or.inr (Or.inl ⟨by omega, by assumption, rfl, rfl⟩))
      · exact Or.inr (Or.inr (Or.inr ⟨by omega, rfl, rfl⟩))

theorem leadByte_lt {value : Nat} (bound : value < 0x110000) : leadByte value < 256 := by
  have cases := continuations_cases bound
  omega

/-- A character with a smaller code has as many bytes, or its first byte is smaller. -/
theorem leadByte_lt_leadByte {first second : Nat} (lower : first < second)
    (bound : second < 0x110000) :
    continuations first = continuations second ∨ leadByte first < leadByte second := by
  have firstCases := continuations_cases (Nat.lt_trans lower bound)
  have secondCases := continuations_cases bound
  omega

/-- Bytes are ordered by the first one already if it differs. -/
theorem ofNat_cons_lt {first second : Nat} (lower : first < second) (byte : second < 256)
    (left right : Bytes) : UInt8.ofNat first :: left < UInt8.ofNat second :: right := by
  apply List.cons_lt_cons_iff.mpr
  apply Or.inl
  rw [UInt8.lt_iff_toNat_lt, UInt8.toNat_ofNat', UInt8.toNat_ofNat',
    Nat.mod_eq_of_lt (Nat.lt_trans lower byte), Nat.mod_eq_of_lt byte]
  exact lower

/-- The first byte holds the mark and the first digit. -/
theorem octets_eq_cons (mark more value : Nat) :
    ∃ rest, octets mark more value = UInt8.ofNat (mark + value / 64 ^ more) :: rest := by
  cases more with
  | zero => exact ⟨[], by rw [octets, Nat.pow_zero, Nat.div_one]⟩
  | succ more => exact ⟨_, rfl⟩

/-- Of two numbers with equally many digits the smaller one has the smaller bytes. -/
theorem octets_append_lt {mark more first second : Nat} (lower : first < second)
    (byte : mark + second / 64 ^ more < 256) (left right : Bytes) :
    octets mark more first ++ left < octets mark more second ++ right := by
  induction more generalizing mark first second with
  | zero =>
      rw [Nat.pow_zero, Nat.div_one] at byte
      exact ofNat_cons_lt (Nat.add_lt_add_left lower mark) byte left right
  | succ more ih =>
      rcases Nat.lt_or_eq_of_le (Nat.div_le_div_right (c := 64 ^ (more + 1)) (Nat.le_of_lt lower))
        with smaller | same
      · exact ofNat_cons_lt (Nat.add_lt_add_left smaller mark) byte _ _
      · -- Equal first digits leave the order to the digits after them.
        have rest : first % 64 ^ (more + 1) < second % 64 ^ (more + 1) := by
          have firstSplit := Nat.div_add_mod first (64 ^ (more + 1))
          have secondSplit := Nat.div_add_mod second (64 ^ (more + 1))
          rw [same] at firstSplit
          omega
        have digit : second % 64 ^ (more + 1) / 64 ^ more < 64 := by
          apply Nat.div_lt_of_lt_mul
          rw [← Nat.pow_succ]
          exact Nat.mod_lt _ (Nat.pow_pos (by decide))
        simp only [octets, same, List.cons_append, List.cons_lt_cons_iff, true_and]
        exact Or.inr (ih rest (by omega))

/-- A character with a smaller code has the smaller bytes, whatever follows. -/
theorem utf8EncodeChar_append_lt {first second : Char} (lower : first < second)
    (left right : Bytes) :
    String.utf8EncodeChar first ++ left < String.utf8EncodeChar second ++ right := by
  have bound := val_lt second
  have codes : first.val.toNat < second.val.toNat :=
    UInt32.lt_iff_toNat_lt.mp (Char.lt_def.mp lower)
  rw [utf8EncodeChar_eq_octets, utf8EncodeChar_eq_octets]
  -- Each number of bytes has its own range of first bytes, above those of fewer bytes.
  rcases leadByte_lt_leadByte codes bound with equallyMany | smaller
  · rw [equallyMany]
    exact octets_append_lt codes (leadByte_lt bound) left right
  · obtain ⟨firstRest, firstSplit⟩ := octets_eq_cons
      (mark (continuations first.val.toNat)) (continuations first.val.toNat) first.val.toNat
    obtain ⟨secondRest, secondSplit⟩ := octets_eq_cons
      (mark (continuations second.val.toNat)) (continuations second.val.toNat) second.val.toNat
    rw [firstSplit, secondSplit]
    exact ofNat_cons_lt smaller (leadByte_lt bound) _ _

theorem encode_cons (c : Char) (text : Text) :
    encode (c :: text) = String.utf8EncodeChar c ++ encode text := rfl

/-- Of two texts the one that comes first has the smaller bytes. -/
theorem encode_lt_encode {left right : Text} (lower : left < right) :
    encode left < encode right := by
  induction left generalizing right with
  | nil =>
      cases right with
      | nil => exact absurd lower (List.lt_irrefl [])
      | cons c rest =>
          obtain ⟨bytes, split⟩ := octets_eq_cons
            (mark (continuations c.val.toNat)) (continuations c.val.toNat) c.val.toNat
          rw [encode_cons, utf8EncodeChar_eq_octets, split]
          exact List.nil_lt_cons _ _
  | cons c rest ih =>
      cases right with
      | nil => exact absurd lower (List.not_lt_nil _)
      | cons d others =>
          rw [encode_cons, encode_cons]
          rcases List.cons_lt_cons_iff.mp lower with smaller | ⟨rfl, smaller⟩
          · exact utf8EncodeChar_append_lt smaller _ _
          · exact List.append_left_lt (ih smaller)

/-- **Texts are ordered like their UTF-8 forms.** -/
theorem encode_lt_encode_iff {left right : Text} : encode left < encode right ↔ left < right := by
  constructor
  · intro smaller
    rcases Text.lt_trichotomy left right with lower | rfl | upper
    · exact lower
    · exact absurd smaller (List.lt_irrefl _)
    · exact absurd smaller (List.lt_asymm (encode_lt_encode upper))
  · exact encode_lt_encode

end Utf8

namespace Relational

/-- Comparing the bytes of two texts is comparing the texts. -/
theorem bytesBefore_eq_before (left right : Text) :
    bytesBefore left right = Text.before left right := by
  rw [Bool.eq_iff_iff, Text.before_iff, bytesBefore, decide_eq_true_iff, Utf8.encode_lt_encode_iff]

end Relational

end ThoughtJournal
