import ThoughtJournal.Proofs.Json.Grammar

/-! # Reading the written forms

Every written form of a document is read as this document (`Json.read_of_paddedForm`). A reader is
given a form and whatever follows it, and gives the value and what follows. Strings and arrays tell
by themselves where they end; a number ends where a character follows that no number has
(`Json.EndsValue`).

Values nest, so the readers of values, of items and of members are correct together, by induction on
the steps that they may take (`Json.reads`): a form of n characters takes at most 2 n steps.
-/

namespace ThoughtJournal.Json

/-! ## Blank characters -/

theorem skipBlank_append {blank : Text} (skipped : IsBlank blank) (text : Text) :
    skipBlank (blank ++ text) = skipBlank text := by
  induction blank with
  | nil => rfl
  | cons c rest ih =>
      have first := skipped c List.mem_cons_self
      have others : IsBlank rest := fun d member => skipped d (List.mem_cons_of_mem c member)
      rw [← ih others, List.cons_append]
      unfold skipBlank
      rw [List.dropWhile_cons_of_pos]
      rcases first with rfl | rfl | rfl | rfl <;> rfl

/-- The characters that may follow a value. -/
def separators : List Char := [' ', '\n', '\t', '\r', ',', ']', '\x7d']

theorem forall_mem_separators {p : Char → Prop}
    (each : p ' ' ∧ p '\n' ∧ p '\t' ∧ p '\r' ∧ p ',' ∧ p ']' ∧ p '\x7d') :
    ∀ c ∈ separators, p c := by
  simpa only [separators, List.forall_mem_cons, List.not_mem_nil, false_implies, implies_true,
    and_true] using each

/-- What follows a value in a document: nothing, a blank character, a comma or a closing bracket. -/
def EndsValue (rest : Text) : Prop := ∀ c ∈ rest.head?, c ∈ separators

theorem endsValue_nil : EndsValue [] := by
  intro c none
  cases none

theorem endsValue_cons {c : Char} (separator : c ∈ separators) (rest : Text) :
    EndsValue (c :: rest) := by
  intro d first
  cases first
  exact separator

theorem EndsValue.append {blank rest : Text} (skipped : IsBlank blank) (ends : EndsValue rest) :
    EndsValue (blank ++ rest) := by
  cases blank with
  | nil => exact ends
  | cons c others =>
      apply endsValue_cons
      rcases skipped c List.mem_cons_self with rfl | rfl | rfl | rfl <;> decide

/-! ## Numbers -/

theorem digitChar_isDigit : ∀ digit < 10,
    (Nat.digitChar digit).isDigit = true ∧ (Nat.digitChar digit).toNat - '0'.toNat = digit := by
  decide

/-- Digits are read up to the first character that is none. -/
theorem readDigits_append {digits : List Nat} (small : ∀ digit ∈ digits, digit < 10) {rest : Text}
    (ends : ∀ c ∈ rest.head?, c.isDigit = false) :
    readDigits (digits.map Nat.digitChar ++ rest) = (digits, rest) := by
  have written : ∀ c ∈ digits.map Nat.digitChar, c.isDigit = true := by
    intro c member
    obtain ⟨digit, listed, rfl⟩ := List.mem_map.mp member
    exact (digitChar_isDigit digit (small digit listed)).1
  have values : (digits.map Nat.digitChar).map (fun c => c.toNat - '0'.toNat) = digits := by
    rw [List.map_map]
    apply Eq.trans _ (List.map_id digits)
    exact List.map_congr_left fun digit listed => (digitChar_isDigit digit (small digit listed)).2
  have none : rest.takeWhile Char.isDigit = [] ∧ rest.dropWhile Char.isDigit = rest := by
    cases rest with
    | nil => exact ⟨rfl, rfl⟩
    | cons c others =>
        have first : ¬ c.isDigit = true := Bool.eq_false_iff.mp (ends c rfl)
        exact ⟨List.takeWhile_cons_of_neg first, List.dropWhile_cons_of_neg first⟩
  unfold readDigits
  rw [List.takeWhile_append_of_pos written, List.dropWhile_append_of_pos written, none.1, none.2,
    List.append_nil, values]

/-- The decimal digits of a number. -/
theorem exists_digits (n : Nat) : ∃ digits : List Nat, Text.ofNat n = digits.map Nat.digitChar ∧
    (∀ digit ∈ digits, digit < 10) ∧ Text.valueOf 10 digits = n ∧ digits ≠ [] ∧
    (n ≠ 0 → digits.head? ≠ some 0) := by
  induction n using Nat.strongRecOn with
  | _ n ih =>
      unfold Text.ofNat
      rw [Nat.toDigits_eq_if (by decide : 1 < 10)]
      split
      · rename_i small
        refine ⟨[n], rfl, by simpa using small, by simp [Text.valueOf], List.cons_ne_nil _ _, ?_⟩
        simp
      · rename_i large
        obtain ⟨digits, written, small, value, filled, noZero⟩ := ih (n / 10) (by omega)
        refine ⟨digits ++ [n % 10], ?_, ?_, ?_, by simp, fun _ => ?_⟩
        · rw [List.map_append, ← written]
          rfl
        · intro digit member
          rcases List.mem_append.mp member with leading | last
          · exact small digit leading
          · rw [List.mem_singleton.mp last]
            exact Nat.mod_lt _ (by decide)
        · unfold Text.valueOf at value ⊢
          rw [List.foldl_append, value]
          exact Nat.div_add_mod n 10
        · cases digits with
          | nil => exact absurd rfl filled
          | cons first others => exact noZero (by omega)

theorem exists_ofNat_eq_cons (n : Nat) :
    ∃ digit rest, digit < 10 ∧ Text.ofNat n = Nat.digitChar digit :: rest := by
  obtain ⟨digits, written, small, _, filled, _⟩ := exists_digits n
  cases digits with
  | nil => exact absurd rfl filled
  | cons digit others => exact ⟨digit, _, small digit List.mem_cons_self, written⟩

/-- A digit is no character by which something else than digits begins. -/
theorem digitChar_ne_mark : ∀ digit < 10, Nat.digitChar digit ≠ '-' ∧ Nat.digitChar digit ≠ '+' ∧
    (digit ≠ 0 → Nat.digitChar digit ≠ '0') := by
  decide

/-- The digits before the point are read up to the first character that is none. -/
theorem readWhole_ofNat (whole : Nat) {rest : Text} (ends : ∀ c ∈ rest.head?, c.isDigit = false) :
    readWhole (Text.ofNat whole ++ rest) = some (whole, rest) := by
  by_cases zero : whole = 0
  · rw [zero]
    rfl
  · obtain ⟨digits, written, small, value, filled, noZero⟩ := exists_digits whole
    have read := readDigits_append small ends
    cases digits with
    | nil => exact absurd rfl filled
    | cons digit others =>
        have first : Nat.digitChar digit ≠ '0' :=
          (digitChar_ne_mark digit (small digit List.mem_cons_self)).2.2 fun same =>
            noZero zero (congrArg some same)
        rw [written, List.map_cons, List.cons_append] at *
        rw [readWhole]
        · rw [read]
          simp only [List.isEmpty_cons, Bool.false_eq_true, ↓reduceIte, value]
        · intro others same
          exact first (List.cons.inj same).1

/-- The digits after the point are read, or none if there is no point. -/
theorem readFraction_form {digits : List Nat} {form rest : Text} (written : FractionForm digits form)
    (ends : ∀ c ∈ rest.head?, c.isDigit = false ∧ c ≠ '.') :
    readFraction (form ++ rest) = (digits, rest) := by
  cases written with
  | none =>
      rw [List.nil_append, readFraction]
      intro others same
      rw [same] at ends
      exact (ends '.' rfl).2 rfl
  | some filled small =>
      have read := readDigits_append small fun c first => (ends c first).1
      rw [List.cons_append, readFraction, read]
      cases digits with
      | nil => exact absurd rfl filled
      | cons digit others => rfl

/-- Digits are read as the number they denote, with a plus sign and without a sign; a minus sign
makes it negative. -/
theorem readSignedDigits_form {digits : List Nat} (filled : digits ≠ [])
    (small : ∀ digit ∈ digits, digit < 10) {rest : Text}
    (ends : ∀ c ∈ rest.head?, c.isDigit = false) :
    readSignedDigits (digits.map Nat.digitChar ++ rest) =
        some ((Text.valueOf 10 digits : Int), rest) ∧
      readSignedDigits ('+' :: (digits.map Nat.digitChar ++ rest)) =
        some ((Text.valueOf 10 digits : Int), rest) ∧
      readSignedDigits ('-' :: (digits.map Nat.digitChar ++ rest)) =
        some (-(Text.valueOf 10 digits : Int), rest) := by
  have read := readDigits_append small ends
  cases digits with
  | nil => exact absurd rfl filled
  | cons digit others =>
      have first := digitChar_ne_mark digit (small digit List.mem_cons_self)
      refine ⟨?_, ?_, ?_⟩
      · rw [readSignedDigits]
        · simp only [read, List.isEmpty_cons, Bool.false_eq_true, ↓reduceIte]
        · intro others same
          exact first.1 (List.cons.inj same).1
        · intro others same
          exact first.2.1 (List.cons.inj same).1
      · rw [readSignedDigits, read]
        rfl
      · rw [readSignedDigits, read]
        rfl

/-- A character that numbers are made of, besides the signs. -/
def isNumberChar (c : Char) : Bool := c.isDigit || c == '.' || c == 'e' || c == 'E'

/-- What ends a value does not continue a number. -/
theorem EndsValue.not_isNumberChar {rest : Text} (ends : EndsValue rest) :
    ∀ c ∈ rest.head?, isNumberChar c = false := by
  have none : ∀ c ∈ separators, isNumberChar c = false := forall_mem_separators (by decide)
  exact fun c first => none c (ends c first)

theorem isNumberChar_eq_false {c : Char} :
    isNumberChar c = false ↔ c.isDigit = false ∧ c ≠ '.' ∧ c ≠ 'e' ∧ c ≠ 'E' := by
  simp only [isNumberChar, Bool.or_eq_false_iff, beq_eq_false_iff_ne, and_assoc]

/-- A written exponent is read back. -/
theorem readExponent_form {exponent : Option Int} {form rest : Text}
    (written : ExponentForm exponent form) (ends : ∀ c ∈ rest.head?, isNumberChar c = false) :
    readExponent (form ++ rest) = (exponent, rest) := by
  have digitless : ∀ c ∈ rest.head?, c.isDigit = false := fun c first =>
    (isNumberChar_eq_false.mp (ends c first)).1
  have powered {mark : Char} {text : Text} {value : Int} (marked : mark = 'e' ∨ mark = 'E')
      (read : readSignedDigits text = some (value, rest)) :
      readExponent (mark :: text) = (some value, rest) := by
    unfold readExponent
    simp only [Bool.or_eq_true, beq_iff_eq, marked, ↓reduceIte, read]
  cases written with
  | none =>
      cases rest with
      | nil => rfl
      | cons c others =>
          obtain ⟨_, _, small, great⟩ := isNumberChar_eq_false.mp (ends c rfl)
          unfold readExponent
          simp only [List.nil_append, Bool.or_eq_true, beq_iff_eq, small, great, or_self, ↓reduceIte]
  | unsigned marked filled small =>
      exact powered marked (readSignedDigits_form filled small digitless).1
  | positive marked filled small =>
      exact powered marked (readSignedDigits_form filled small digitless).2.1
  | negative marked filled small =>
      exact powered marked (readSignedDigits_form filled small digitless).2.2

theorem FractionForm.head? {digits : List Nat} {form : Text} (written : FractionForm digits form) :
    ∀ c ∈ form.head?, c = '.' := by
  cases written with
  | none => simp
  | some => simp

theorem ExponentForm.head? {exponent : Option Int} {form : Text}
    (written : ExponentForm exponent form) : ∀ c ∈ form.head?, c = 'e' ∨ c = 'E' := by
  cases written with
  | none => simp
  | unsigned marked => simpa using marked
  | positive marked => simpa using marked
  | negative marked => simpa using marked

/-- The first character of two texts one after the other. -/
theorem forall_head?_append {p : Char → Prop} {left right : Text} (inLeft : ∀ c ∈ left.head?, p c)
    (inRight : ∀ c ∈ right.head?, p c) : ∀ c ∈ (left ++ right).head?, p c := by
  cases left with
  | nil => exact inRight
  | cons c others => exact inLeft

/-- A number is read back from its form without the sign. -/
theorem readUnsigned_form {negative : Bool} {whole : Nat} {fraction : List Nat}
    {exponent : Option Int} {point power rest : Text} (fractional : FractionForm fraction point)
    (exponential : ExponentForm exponent power) (ends : EndsValue rest) :
    readUnsigned negative (Text.ofNat whole ++ (point ++ power) ++ rest) =
      some (⟨negative, whole, fraction, exponent⟩, rest) := by
  have afterPower := ends.not_isNumberChar
  have afterPoint : ∀ c ∈ (power ++ rest).head?, c.isDigit = false ∧ c ≠ '.' := by
    apply forall_head?_append
    · intro c first
      rcases exponential.head? c first with rfl | rfl <;> decide
    · intro c first
      have none := isNumberChar_eq_false.mp (afterPower c first)
      exact ⟨none.1, none.2.1⟩
  have afterWhole : ∀ c ∈ (point ++ (power ++ rest)).head?, c.isDigit = false := by
    apply forall_head?_append
    · intro c first
      rw [fractional.head? c first]
      rfl
    · exact fun c first => (afterPoint c first).1
  unfold readUnsigned
  rw [List.append_assoc, List.append_assoc, readWhole_ofNat whole afterWhole]
  dsimp only
  rw [readFraction_form fractional afterPoint, readExponent_form exponential afterPower]

/-- A number is read back from its form. -/
theorem readNumber_form {literal : JsonNumber} {form rest : Text} (written : NumberForm literal form)
    (ends : EndsValue rest) : readNumber (form ++ rest) = some (literal, rest) := by
  obtain ⟨fractional, exponential⟩ := written
  rename_i negative whole fraction exponent point power
  cases negative with
  | true =>
      rw [if_pos rfl, List.singleton_append, List.cons_append, readNumber]
      exact readUnsigned_form fractional exponential ends
  | false =>
      rw [if_neg Bool.false_ne_true, List.nil_append, readNumber]
      · exact readUnsigned_form fractional exponential ends
      · intro others same
        obtain ⟨digit, digits, small, first⟩ := exists_ofNat_eq_cons whole
        rw [first] at same
        exact (digitChar_ne_mark digit small).1 (List.cons.inj same).1

/-- A number begins with a minus sign or with a digit. -/
theorem NumberForm.starts {literal : JsonNumber} {form : Text} (written : NumberForm literal form) :
    ∃ c rest, form = c :: rest ∧ (c = '-' ∨ c.isDigit = true) := by
  obtain ⟨fractional, exponential⟩ := written
  rename_i negative whole fraction exponent point power
  cases negative with
  | true => exact ⟨'-', _, rfl, Or.inl rfl⟩
  | false =>
      obtain ⟨digit, digits, small, first⟩ := exists_ofNat_eq_cons whole
      exact ⟨Nat.digitChar digit, digits ++ (point ++ power), by rw [first]; rfl,
        Or.inr (digitChar_isDigit digit small).1⟩

/-! ## Strings -/

theorem not_isSurrogate (c : Char) :
    isHighSurrogate c.toNat = false ∧ isLowSurrogate c.toNat = false := by
  have valid : c.toNat < 0xD800 ∨ 0xDFFF < c.toNat ∧ c.toNat < 0x110000 := c.valid
  unfold isHighSurrogate isLowSurrogate
  simp only [Bool.and_eq_false_iff, decide_eq_false_iff_not, Nat.not_le]
  omega

/-- A code unit that is no surrogate is a character, whatever follows. -/
theorem textOf?_codeUnit (c : Char) (symbols : List Symbol) :
    textOf? (.codeUnit c.toNat :: symbols) = (textOf? symbols).map (c :: ·) := by
  obtain ⟨notHigh, notLow⟩ := not_isSurrogate c
  have same : Char.ofNat c.toNat = c := Char.ofNat_toNat c
  cases symbols with
  | nil => simp only [textOf?, notHigh, notLow, same, Bool.or_self, Bool.false_eq_true, ↓reduceIte]
  | cons symbol others =>
      cases symbol <;>
        simp only [textOf?, notHigh, notLow, same, Bool.or_self, Bool.false_and,
          Bool.false_eq_true, ↓reduceIte]

/-- The two surrogates of a character beyond the first 0x10000 give it back. -/
theorem textOf?_surrogates {c : Char} (supplementary : 0x10000 ≤ c.toNat) (symbols : List Symbol) :
    textOf? (.codeUnit (0xD800 + (c.toNat - 0x10000) / 0x400) ::
      .codeUnit (0xDC00 + (c.toNat - 0x10000) % 0x400) :: symbols) =
        (textOf? symbols).map (c :: ·) := by
  have valid : c.toNat < 0xD800 ∨ 0xDFFF < c.toNat ∧ c.toNat < 0x110000 := c.valid
  have high : isHighSurrogate (0xD800 + (c.toNat - 0x10000) / 0x400) = true := by
    unfold isHighSurrogate
    rw [Bool.and_eq_true, decide_eq_true_iff, decide_eq_true_iff]
    omega
  have low : isLowSurrogate (0xDC00 + (c.toNat - 0x10000) % 0x400) = true := by
    unfold isLowSurrogate
    rw [Bool.and_eq_true, decide_eq_true_iff, decide_eq_true_iff]
    omega
  have code : 0x10000 + 0x400 * (0xD800 + (c.toNat - 0x10000) / 0x400 - 0xD800) +
      (0xDC00 + (c.toNat - 0x10000) % 0x400 - 0xDC00) = c.toNat := by
    omega
  have same : Char.ofNat c.toNat = c := Char.ofNat_toNat c
  rw [textOf?, high, low, Bool.and_self, if_pos rfl, code, same]

/-- A code unit that is written by its number is one symbol. -/
theorem readSymbols_codeUnit {code : Nat} {digits : Text} (unit : IsHex code digits) (rest : Text) :
    readSymbols ('\\' :: 'u' :: (digits ++ rest)) =
      (readSymbols rest).map fun result => (.codeUnit code :: result.1, result.2) := by
  obtain ⟨a, b, c, d, rfl, value⟩ := unit
  change readSymbols ('\\' :: 'u' :: a :: b :: c :: d :: rest) = _
  rw [readSymbols, value]

/-- A character that is written by a short escape is one symbol. -/
theorem readSymbols_escape {mark c : Char} (escaped : escaped? mark = some c) (rest : Text) :
    readSymbols ('\\' :: mark :: rest) =
      (readSymbols rest).map fun result => (.plain c :: result.1, result.2) := by
  rw [readSymbols, escaped]
  intro _ _ _ _ _ unit
  rw [unit] at escaped
  cases escaped

/-- A character that is written as it is is one symbol. -/
theorem readSymbols_plain {c : Char} (printed : 0x20 ≤ c.toNat) (noQuote : c ≠ '"')
    (noBackslash : c ≠ '\\') (rest : Text) :
    readSymbols (c :: rest) =
      (readSymbols rest).map fun result => (.plain c :: result.1, result.2) := by
  rw [readSymbols]
  · simp only [Nat.not_lt.mpr printed, decide_false, Bool.false_or, beq_iff_eq, noBackslash,
      ↓reduceIte]
  · exact noQuote
  · exact fun _ _ _ _ _ backslash => absurd backslash noBackslash
  · exact fun _ _ backslash => absurd backslash noBackslash

/-- The quote ends the symbols. -/
theorem readSymbols_quote (rest : Text) : readSymbols ('"' :: rest) = some ([], rest) := by
  rw [readSymbols]

/-- The symbols of a string denote the text of which it is a form. -/
theorem exists_symbols {text form : Text} (written : StringForm text form) (rest : Text) :
    ∃ symbols, readSymbols (form ++ '"' :: rest) = some (symbols, rest) ∧
      textOf? symbols = some text := by
  induction written with
  | nil => exact ⟨[], readSymbols_quote rest, rfl⟩
  | plain printed noQuote noBackslash _ ih =>
      obtain ⟨symbols, read, denoted⟩ := ih
      refine ⟨.plain _ :: symbols, ?_, by rw [textOf?, denoted]; rfl⟩
      rw [List.cons_append, readSymbols_plain printed noQuote noBackslash, read]
      rfl
  | escape escaped _ ih =>
      obtain ⟨symbols, read, denoted⟩ := ih
      refine ⟨.plain _ :: symbols, ?_, by rw [textOf?, denoted]; rfl⟩
      rw [List.cons_append, List.cons_append, readSymbols_escape escaped, read]
      rfl
  | codeUnit unit _ ih =>
      obtain ⟨symbols, read, denoted⟩ := ih
      refine ⟨.codeUnit _ :: symbols, ?_, by rw [textOf?_codeUnit, denoted]; rfl⟩
      rw [List.cons_append, List.cons_append, List.append_assoc, readSymbols_codeUnit unit, read]
      rfl
  | surrogates supplementary first second _ ih =>
      obtain ⟨symbols, read, denoted⟩ := ih
      refine ⟨.codeUnit _ :: .codeUnit _ :: symbols, ?_,
        by rw [textOf?_surrogates supplementary, denoted]; rfl⟩
      rw [List.cons_append, List.cons_append, List.append_assoc, readSymbols_codeUnit first,
        List.cons_append, List.cons_append, List.append_assoc, readSymbols_codeUnit second, read]
      rfl

/-- A text is read back from its form, up to the quote that ends it. -/
theorem readString_form {text form : Text} (written : StringForm text form) (rest : Text) :
    readString (form ++ '"' :: rest) = some (some text, rest) := by
  obtain ⟨symbols, read, denoted⟩ := exists_symbols written rest
  unfold readString
  rw [read, Option.map_some, denoted]

/-! ## How values begin -/

/-- A value begins with a character that may not follow one. -/
theorem Form.starts {value : Json} {form : Text} (written : Form value form) :
    ∃ c rest, form = c :: rest ∧ c ∉ separators := by
  cases written with
  | null => exact ⟨'n', _, rfl, by decide⟩
  | boolTrue => exact ⟨'t', _, rfl, by decide⟩
  | boolFalse => exact ⟨'f', _, rfl, by decide⟩
  | number written =>
      have none : ∀ c ∈ separators, c ≠ '-' ∧ c.isDigit = false :=
        forall_mem_separators (by decide)
      obtain ⟨c, rest, first, begins⟩ := written.starts
      refine ⟨c, rest, first, fun member => ?_⟩
      rcases begins with minus | digit
      · exact (none c member).1 minus
      · exact Bool.false_ne_true ((none c member).2.symm.trans digit)
  | string _ => exact ⟨'"', _, rfl, by decide⟩
  | emptyArray _ => exact ⟨'[', _, rfl, by decide⟩
  | array _ => exact ⟨'[', _, rfl, by decide⟩
  | emptyObject _ => exact ⟨'\x7b', _, rfl, by decide⟩
  | object _ => exact ⟨'\x7b', _, rfl, by decide⟩

theorem skipBlank_cons {c : Char} (visible : c ∉ separators) (text : Text) :
    skipBlank (c :: text) = c :: text := by
  apply List.dropWhile_cons_of_neg
  intro blank
  simp only [Bool.or_eq_true, beq_iff_eq, or_assoc] at blank
  apply visible
  rcases blank with rfl | rfl | rfl | rfl <;> decide

/-- Blank characters are skipped up to the value. -/
theorem Form.skipBlank_eq {value : Json} {before form : Text} (left : IsBlank before)
    (written : Form value form) (rest : Text) :
    skipBlank (before ++ (form ++ rest)) = form ++ rest := by
  obtain ⟨c, others, rfl, visible⟩ := written.starts
  rw [skipBlank_append left, List.cons_append, skipBlank_cons visible]

/-- A list of items does not begin with its end. -/
theorem ItemsForm.skipBlank_ne {items : List Json} {form : Text} (written : ItemsForm items form)
    (rest others : Text) : skipBlank (form ++ rest) ≠ ']' :: others := by
  have padded {item : Json} {form : Text} (written : PaddedForm item form) (rest : Text) :
      skipBlank (form ++ rest) ≠ ']' :: others := by
    obtain ⟨left, written, _⟩ := written
    rw [List.append_assoc, List.append_assoc, written.skipBlank_eq left]
    obtain ⟨c, inner, rfl, visible⟩ := written.starts
    intro same
    rw [List.cons_append] at same
    rw [(List.cons.inj same).1] at visible
    exact visible (by decide)
  cases written with
  | last written =>
      rw [List.append_assoc]
      exact padded written _
  | next written _ =>
      rw [List.append_assoc]
      exact padded written _

/-- Written members do not begin with the bracket that ends an object. -/
theorem MembersForm.skipBlank_ne {members : List (Option Text × Json)} {form : Text}
    (written : MembersForm members form) (rest others : Text) :
    skipBlank (form ++ rest) ≠ '\x7d' :: others := by
  cases written with
  | last left _ _ _ =>
      rw [List.append_assoc, skipBlank_append left, List.cons_append, skipBlank_cons (by decide)]
      exact fun same => absurd (List.cons.inj same).1 (by decide)
  | next left _ _ _ _ =>
      rw [List.append_assoc, skipBlank_append left, List.cons_append, skipBlank_cons (by decide)]
      exact fun same => absurd (List.cons.inj same).1 (by decide)

/-! ## Values -/

/-- A value that begins like a number is one. -/
theorem readValue_number {text : Text} {c : Char} {rest : Text} (first : skipBlank text = c :: rest)
    (begins : c = '-' ∨ c.isDigit = true) (steps : Nat) :
    readValue (steps + 1) text =
      (readNumber (c :: rest)).map fun result => (.number result.1, result.2) := by
  have notLetter {d : Char} (letter : d ≠ '-' ∧ d.isDigit = false) : c ≠ d := by
    rintro rfl
    rcases begins with minus | digit
    · exact letter.1 minus
    · exact Bool.false_ne_true (letter.2.symm.trans digit)
  rw [readValue, first]
  split
  all_goals rename_i same
  all_goals first
    | exact absurd (List.cons.inj same).1 (notLetter (by decide))
    | rfl

/-- A value that begins with an opening bracket has items, unless the bracket is closed at once. -/
theorem readValue_items {text inner : Text} (first : skipBlank text = '[' :: inner)
    (filled : ∀ others, skipBlank inner ≠ ']' :: others) (steps : Nat) :
    readValue (steps + 1) text =
      (readItems steps inner).map fun result => (.array result.1, result.2) := by
  rw [readValue]
  -- By `filled` the list does not end at once, so the second case of the inner match applies.
  simp only [first]

/-- A value that begins with an opening brace has members, unless the brace is closed at once. -/
theorem readValue_members {text inner : Text} (first : skipBlank text = '\x7b' :: inner)
    (filled : ∀ others, skipBlank inner ≠ '\x7d' :: others) (steps : Nat) :
    readValue (steps + 1) text =
      (readMembers steps inner).map fun result => (.object result.1, result.2) := by
  rw [readValue]
  simp only [first]

/-- The readers of values, items and members read every form that is no longer than half of the steps
that they may take. -/
structure Reads (steps : Nat) : Prop where
  value : ∀ {value form}, PaddedForm value form → 2 * form.length ≤ steps →
    ∀ rest, EndsValue rest →
      ∃ after, IsBlank after ∧ readValue steps (form ++ rest) = some (value, after ++ rest)
  items : ∀ {items form}, ItemsForm items form → 2 * form.length ≤ steps →
    ∀ rest, readItems steps (form ++ rest) = some (items, rest)
  members : ∀ {members form}, MembersForm members form → 2 * form.length ≤ steps →
    ∀ rest, readMembers steps (form ++ rest) = some (members, rest)

variable {steps : Nat}

/-- If the parts of a value are read back with so many steps, the value is with one more. -/
theorem Reads.value_step (reads : Reads steps) {value : Json} {form : Text}
    (written : PaddedForm value form) (enough : 2 * form.length ≤ steps + 1) (rest : Text)
    (ends : EndsValue rest) :
    ∃ after, IsBlank after ∧ readValue (steps + 1) (form ++ rest) = some (value, after ++ rest) := by
  obtain ⟨left, written, right⟩ := written
  rename_i before after form
  refine ⟨after, right, ?_⟩
  have first := written.skipBlank_eq left (after ++ rest)
  rw [List.append_assoc, List.append_assoc]
  cases written with
  | null => rw [readValue, first]; rfl
  | boolTrue => rw [readValue, first]; rfl
  | boolFalse => rw [readValue, first]; rfl
  | number written =>
      obtain ⟨c, others, split, begins⟩ := written.starts
      have whole : form ++ (after ++ rest) = c :: (others ++ (after ++ rest)) := by rw [split]; rfl
      rw [readValue_number (first.trans whole) begins, ← whole,
        readNumber_form written (EndsValue.append right ends)]
      rfl
  | string written =>
      rw [readValue, first, List.cons_append, List.append_assoc]
      simp only [List.singleton_append, readString_form written, Option.map_some]
  | emptyArray between =>
      rw [readValue, first, List.cons_append, List.append_assoc]
      simp only [skipBlank_append between]
      rfl
  | array written =>
      simp only [List.length_append, List.length_cons] at enough
      rw [readValue_items first fun others => written.skipBlank_ne _ others]
      exact congrArg _ (reads.items written (by omega) (after ++ rest))
  | emptyObject between =>
      rw [readValue, first, List.cons_append, List.append_assoc]
      simp only [skipBlank_append between]
      rfl
  | object written =>
      simp only [List.length_append, List.length_cons] at enough
      rw [readValue_members first fun others => written.skipBlank_ne _ others]
      exact congrArg _ (reads.members written (by omega) (after ++ rest))

/-- If the first item and the others are read back with so many steps, they are together with one
more. -/
theorem Reads.items_step (reads : Reads steps) {items : List Json} {form : Text}
    (written : ItemsForm items form) (enough : 2 * form.length ≤ steps + 1) (rest : Text) :
    readItems (steps + 1) (form ++ rest) = some (items, rest) := by
  cases written with
  | last written =>
      simp only [List.length_append, List.length_cons] at enough
      obtain ⟨after, blank, read⟩ := reads.value written (by omega) (']' :: rest)
        (endsValue_cons (by decide) rest)
      rw [List.append_assoc, List.singleton_append, readItems, read]
      simp only [skipBlank_append blank]
      rfl
  | next written others =>
      simp only [List.length_append, List.length_cons] at enough
      obtain ⟨after, blank, read⟩ := reads.value written (by omega) (',' :: (_ ++ rest))
        (endsValue_cons (by decide) _)
      rw [List.append_assoc, List.cons_append, readItems, read]
      simp only [skipBlank_append blank]
      exact congrArg (Option.map _) (reads.items others (by omega) rest)

/-- A member is read up to the comma or the bracket after it. -/
theorem Reads.member_step (reads : Reads steps) {name before quoted after form : Text} {value : Json}
    (left : IsBlank before) (named : StringForm name quoted) (right : IsBlank after)
    (written : PaddedForm value form) (enough : 2 * form.length ≤ steps) {rest : Text}
    (ends : EndsValue rest) :
    readMembers (steps + 1) (before ++ '"' :: (quoted ++ '"' :: (after ++ ':' :: (form ++ rest)))) =
      match skipBlank rest with
      | ',' :: rest =>
          (readMembers steps rest).map fun result => ((some name, value) :: result.1, result.2)
      | '\x7d' :: rest => some ([(some name, value)], rest)
      | _ => none := by
  obtain ⟨blank, skipped, read⟩ := reads.value written enough rest ends
  have quote (text : Text) : skipBlank ('"' :: text) = '"' :: text := skipBlank_cons (by decide) text
  have colon (text : Text) : skipBlank (':' :: text) = ':' :: text := skipBlank_cons (by decide) text
  rw [readMembers, skipBlank_append left, quote]
  simp only [readString_form named, skipBlank_append right, colon, read]
  exact skipBlank_append skipped rest ▸ rfl

/-- If the first member and the others are read back with so many steps, they are together with one
more. -/
theorem Reads.members_step (reads : Reads steps) {members : List (Option Text × Json)} {form : Text}
    (written : MembersForm members form) (enough : 2 * form.length ≤ steps + 1) (rest : Text) :
    readMembers (steps + 1) (form ++ rest) = some (members, rest) := by
  cases written with
  | last left named right written =>
      simp only [List.length_append, List.length_cons] at enough
      simp only [List.append_assoc, List.cons_append, List.nil_append]
      rw [reads.member_step left named right written (by omega) (endsValue_cons (by decide) rest)]
      rfl
  | next left named right written others =>
      simp only [List.length_append, List.length_cons] at enough
      simp only [List.append_assoc, List.cons_append]
      rw [reads.member_step left named right written (by omega) (endsValue_cons (by decide) _)]
      exact congrArg (Option.map _) (reads.members others (by omega) rest)

theorem PaddedForm.ne_nil {value : Json} {form : Text} (written : PaddedForm value form) :
    form ≠ [] := by
  obtain ⟨_, written, _⟩ := written
  obtain ⟨c, rest, rfl, _⟩ := written.starts
  simp

/-- The readers read all forms, given enough steps. -/
theorem reads (steps : Nat) : Reads steps := by
  induction steps with
  | zero =>
      refine ⟨fun written short => ?_, fun written short => ?_, fun written short => ?_⟩
      · exact absurd (List.length_eq_zero_iff.mp (by omega)) written.ne_nil
      · cases written <;> simp at short
      · cases written <;> simp at short
  | succ steps ih => exact ⟨ih.value_step, ih.items_step, ih.members_step⟩

/-- **Every written form of a document is read as the document.** -/
theorem read_of_paddedForm {document : Json} {text : Text} (written : PaddedForm document text) :
    read text = some document := by
  have enough : 2 * text.length ≤ 2 * text.length + 2 := Nat.le_add_right _ 2
  obtain ⟨after, blank, value⟩ := (reads _).value written enough [] endsValue_nil
  rw [List.append_nil, List.append_nil] at value
  have ended : skipBlank after = [] := by
    rw [← List.append_nil after, skipBlank_append blank]
    rfl
  unfold read
  rw [value]
  simp only [ended, List.isEmpty_nil, ↓reduceIte]

end ThoughtJournal.Json
