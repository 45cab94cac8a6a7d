import ThoughtJournal.Proofs.Text.ByteOrder

/-! # Texts and their UTF-8 forms

Every text is read back from its UTF-8 form, by the strict reader (`Utf8.decode?_encode`) and by the
one that replaces malformed pieces (`Utf8.decodeLossy_encode`). The first byte of a character holds
the first digit of its code in base 64 and tells how many digits follow, and every byte after it adds
its digit to the value read so far (`Utf8.pieces_octets`).
-/

namespace ThoughtJournal.Utf8

/-! ## One byte -/

theorem pieces_single {byte : UInt8} {value : Nat} (single : lead byte.toNat = .single value)
    (rest : Bytes) : pieces none (byte :: rest) = some (Char.ofNat value) :: pieces none rest := by
  rw [pieces]
  simp only [single, List.nil_append]

/-- A byte that begins a character waits for the bytes after it. -/
theorem pieces_open {byte : UInt8} {pending : Pending} (opens : lead byte.toNat = .open pending)
    (rest : Bytes) : pieces none (byte :: rest) = pieces (some pending) rest := by
  rw [pieces]
  simp only [opens, List.nil_append]

/-- A byte that fits ends the unfinished character or adds a digit to it. -/
theorem pieces_fitting {byte : UInt8} {pending : Pending}
    (fits : pending.low ≤ byte.toNat ∧ byte.toNat ≤ pending.high) (rest : Bytes) :
    pieces (some pending) (byte :: rest) =
      if pending.remaining ≤ 1
      then some (Char.ofNat (64 * pending.value + (byte.toNat - 0x80))) :: pieces none rest
      else pieces (some ⟨pending.remaining - 1, 0x80, 0xBF,
        64 * pending.value + (byte.toNat - 0x80)⟩) rest := by
  rw [pieces]
  simp only [fits, decide_true, Bool.and_self, ↓reduceIte]

theorem toNat_ofNat {value : Nat} (byte : value < 256) : (UInt8.ofNat value).toNat = value := by
  rw [UInt8.toNat_ofNat', Nat.mod_eq_of_lt byte]

/-! ## One character -/

/-- The digits after the first one are added to the value read so far, if the next one lies in its
range. -/
theorem pieces_octets {more value : Nat} {pending : Pending} (bound : value < 64 ^ (more + 1))
    (remaining : pending.remaining = more + 1)
    (fits : pending.low ≤ 128 + value / 64 ^ more ∧ 128 + value / 64 ^ more ≤ pending.high)
    (rest : Bytes) :
    pieces (some pending) (octets 128 more value ++ rest) =
      some (Char.ofNat (64 ^ (more + 1) * pending.value + value)) :: pieces none rest := by
  induction more generalizing value pending with
  | zero =>
      have digit : value < 64 := bound
      rw [Nat.pow_zero, Nat.div_one] at fits
      have byte : (UInt8.ofNat (128 + value)).toNat = 128 + value := toNat_ofNat (by omega)
      rw [octets, List.singleton_append, pieces_fitting (by rwa [byte]), if_pos (by omega), byte,
        Nat.add_sub_cancel_left]
      rfl
  | succ more ih =>
      have digit : value / 64 ^ (more + 1) < 64 := by
        apply Nat.div_lt_of_lt_mul
        rwa [← Nat.pow_succ]
      have byte : (UInt8.ofNat (128 + value / 64 ^ (more + 1))).toNat =
          128 + value / 64 ^ (more + 1) := toNat_ofNat (by omega)
      have later : value % 64 ^ (more + 1) < 64 ^ (more + 1) :=
        Nat.mod_lt _ (Nat.pow_pos (by decide))
      have next : value % 64 ^ (more + 1) / 64 ^ more < 64 := by
        apply Nat.div_lt_of_lt_mul
        rwa [← Nat.pow_succ]
      have inRange : 0x80 ≤ 128 + value % 64 ^ (more + 1) / 64 ^ more ∧
          128 + value % 64 ^ (more + 1) / 64 ^ more ≤ 0xBF :=
        ⟨Nat.le_add_right 128 _, Nat.add_le_add_left (Nat.le_of_lt_succ next) 128⟩
      rw [octets, List.cons_append, pieces_fitting (by rwa [byte]), if_neg (by omega), byte,
        Nat.add_sub_cancel_left, ih later (by rw [remaining]; rfl) inRange]
      -- The digit that was read and the rest make up the value again.
      have sum := Nat.div_add_mod value (64 ^ (more + 1))
      have power : 64 ^ (more + 1 + 1) * pending.value =
          64 ^ (more + 1) * (64 * pending.value) := by
        rw [Nat.pow_succ 64 (more + 1), Nat.mul_assoc]
      rw [Nat.mul_add, power, Nat.add_assoc, sum]

theorem lead_two {digit : Nat} (lower : 2 ≤ digit) (upper : digit < 32) :
    lead (0xC0 + digit) = .open ⟨1, 0x80, 0xBF, digit⟩ := by
  unfold lead
  rw [if_neg (by omega), if_neg (by omega), if_pos (by omega), Nat.add_sub_cancel_left]

/-- No three bytes begin a smaller code than 0x800 or one of a surrogate. -/
theorem lead_three : ∀ digit < 16, lead (0xE0 + digit) = .open ⟨2,
    if digit = 0 then 0xA0 else 0x80, if digit = 0xD then 0x9F else 0xBF, digit⟩ := by
  decide

/-- No four bytes begin a smaller code than 0x10000 or a greater one than 0x10FFFF. -/
theorem lead_four : ∀ digit < 5, lead (0xF0 + digit) = .open ⟨3,
    if digit = 0 then 0x90 else 0x80, if digit = 4 then 0x8F else 0xBF, digit⟩ := by
  decide

/-- What the first byte of a longer character tells: how many bytes follow, the range in which the
next one lies, and the first digit. -/
theorem exists_lead {value : Nat} (longer : 0x7F < value) (bound : value < 0x110000)
    (noSurrogate : value < 0xD800 ∨ 0xDFFF < value) :
    ∃ more pending, continuations value = more + 1 ∧ lead (leadByte value) = .open pending ∧
      pending.remaining = more + 1 ∧ pending.value = value / 64 ^ (more + 1) ∧
      pending.low ≤ 128 + value % 64 ^ (more + 1) / 64 ^ more ∧
      128 + value % 64 ^ (more + 1) / 64 ^ more ≤ pending.high := by
  rcases continuations_cases bound with ⟨short, _⟩ | ⟨_, upper, bytes, first⟩ |
    ⟨lower, upper, bytes, first⟩ | ⟨lower, bytes, first⟩
  · omega
  · refine ⟨0, _, bytes, first ▸ lead_two (by omega) (by omega), rfl, rfl, ?_⟩
    change 0x80 ≤ 128 + value % 64 / 1 ∧ 128 + value % 64 / 1 ≤ 0xBF
    omega
  · refine ⟨1, _, bytes, first ▸ lead_three _ (by omega), rfl, rfl, ?_⟩
    change (if value / 4096 = 0 then 0xA0 else 0x80) ≤ 128 + value % 4096 / 64 ∧
      128 + value % 4096 / 64 ≤ if value / 4096 = 0xD then 0x9F else 0xBF
    constructor <;> split <;> omega
  · refine ⟨2, _, bytes, first ▸ lead_four _ (by omega), rfl, rfl, ?_⟩
    change (if value / 262144 = 0 then 0x90 else 0x80) ≤ 128 + value % 262144 / 4096 ∧
      128 + value % 262144 / 4096 ≤ if value / 262144 = 4 then 0x8F else 0xBF
    constructor <;> split <;> omega

/-- A character is read back from its bytes, whatever follows. -/
theorem pieces_utf8EncodeChar (c : Char) (rest : Bytes) :
    pieces none (String.utf8EncodeChar c ++ rest) = some c :: pieces none rest := by
  have bound := val_lt c
  have same : Char.ofNat c.val.toNat = c := Char.ofNat_toNat c
  rw [utf8EncodeChar_eq_octets]
  by_cases longer : 0x7F < c.val.toNat
  · have noSurrogate : c.val.toNat < 0xD800 ∨ 0xDFFF < c.val.toNat := c.valid.imp_right And.left
    obtain ⟨more, pending, bytes, opens, remaining, first, fits⟩ :=
      exists_lead longer bound noSurrogate
    have lower : leadByte c.val.toNat < 256 := leadByte_lt bound
    have rest64 : c.val.toNat % 64 ^ (more + 1) < 64 ^ (more + 1) :=
      Nat.mod_lt _ (Nat.pow_pos (by decide))
    rw [leadByte, bytes] at opens lower
    rw [bytes, octets, List.cons_append, pieces_open (by rwa [toNat_ofNat lower]),
      pieces_octets rest64 remaining fits, first, Nat.div_add_mod, same]
  · have short : c.val.toNat ≤ 0x7F := by omega
    have bytes : continuations c.val.toNat = 0 := if_pos short
    have single : lead c.val.toNat = .single c.val.toNat := if_pos (by omega)
    rw [bytes, octets, mark, Nat.zero_add, List.singleton_append,
      pieces_single (by rwa [toNat_ofNat (by omega)]), same]

/-- The bytes of a text are read as its characters. -/
theorem pieces_encode (text : Text) : pieces none (encode text) = text.map some := by
  induction text with
  | nil => rfl
  | cons c rest ih => rw [encode_cons, pieces_utf8EncodeChar, ih, List.map_cons]

/-- Every text is read back from its UTF-8 form. -/
theorem decode?_encode (text : Text) : decode? (encode text) = some text := by
  unfold decode?
  rw [pieces_encode]
  induction text with
  | nil => rfl
  | cons c rest ih => rw [List.map_cons, List.mapM_cons, ih]; rfl

/-- Nothing is replaced in the UTF-8 form of a text. -/
theorem decodeLossy_encode (text : Text) : decodeLossy (encode text) = text := by
  unfold decodeLossy
  rw [pieces_encode, List.map_map]
  exact List.map_id text

end ThoughtJournal.Utf8
