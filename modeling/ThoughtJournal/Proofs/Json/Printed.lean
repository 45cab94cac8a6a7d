import Mathlib.Tactic.SplitIfs
import ThoughtJournal.Json.Printer
import ThoughtJournal.Proofs.Json.Reading

/-! # The printed form is a written form

What is printed for a document is one of its written forms (`Json.form_print`), on its own as well
(`Json.paddedForm_pretty`). Two things cannot be printed: a string that denotes no text, in whose
place another one stands, and a digit after a point that is none.
-/

namespace ThoughtJournal.Json

/-! ## Strings and numbers -/

theorem isHex_control : ∀ code < 0x20,
    IsHex code ['0', '0', Nat.digitChar (code / 16), Nat.digitChar (code % 16)] := by
  have digits : ∀ code < 0x20, fourHexDigits? '0' '0' (Nat.digitChar (code / 16))
      (Nat.digitChar (code % 16)) = some code := by
    decide
  exact fun code control => ⟨_, _, _, _, rfl, digits code control⟩

/-- A character is printed as it is, by its short escape, or by its number. -/
theorem stringForm_printChar (c : Char) {text form : Text} (rest : StringForm text form) :
    StringForm (c :: text) (printChar c ++ form) := by
  have escape {mark : Char} (escaped : escaped? mark = some c) :
      StringForm (c :: text) (['\\', mark] ++ form) := .escape escaped rest
  unfold printChar
  simp only [beq_iff_eq]
  split_ifs with quote backslash backspace formFeed lineFeed carriageReturn tabulator control
  · exact escape (by rw [quote]; rfl)
  · exact escape (by rw [backslash]; rfl)
  · exact escape (by rw [backspace]; rfl)
  · exact escape (by rw [formFeed]; rfl)
  · exact escape (by rw [lineFeed]; rfl)
  · exact escape (by rw [carriageReturn]; rfl)
  · exact escape (by rw [tabulator]; rfl)
  · exact .codeUnit (isHex_control c.toNat control) rest
  · exact .plain (Nat.le_of_not_lt control) quote backslash rest

/-- What is printed for a text is one of its forms between quotes. -/
theorem stringForm_flatMap_printChar (text : Text) : StringForm text (text.flatMap printChar) := by
  induction text with
  | nil => exact .nil
  | cons c rest ih => exact stringForm_printChar c ih

/-- The exponent of a number is printed without a sign or with a minus sign. -/
theorem exponentForm_ofInt (exponent : Int) :
    ExponentForm (some exponent) ('e' :: Text.ofInt exponent) := by
  cases exponent with
  | ofNat n =>
      obtain ⟨digits, written, small, value, filled, _⟩ := exists_digits n
      have form := ExponentForm.unsigned (Or.inl rfl) filled small
      rwa [value, ← written] at form
  | negSucc n =>
      obtain ⟨digits, written, small, value, filled, _⟩ := exists_digits (n + 1)
      have form := ExponentForm.negative (Or.inl rfl) filled small
      rwa [value, ← written] at form

/-- What is printed for a number is one of its forms. -/
theorem numberForm_printNumber {number : JsonNumber}
    (small : ∀ digit ∈ number.fraction, digit < 10) : NumberForm number (printNumber number) := by
  obtain ⟨negative, whole, fraction, exponent⟩ := number
  have point : FractionForm fraction
      (if fraction.isEmpty then [] else '.' :: fraction.map Nat.digitChar) := by
    cases fraction with
    | nil => exact .none
    | cons digit others => exact .some (List.cons_ne_nil digit others) small
  unfold printNumber
  rw [List.append_assoc, List.append_assoc]
  apply NumberForm.intro point
  cases exponent with
  | none => exact .none
  | some exponent => exact exponentForm_ofInt exponent

/-! ## Documents -/

mutual

/-- Whether all strings denote texts and only digits stand after the points of numbers. -/
def isPrintable : Json → Bool
  | .null => true
  | .bool _ => true
  | .number literal => literal.fraction.all fun digit => digit < 10
  | .string text => text.isSome
  | .array items => arePrintable items
  | .object members => arePrintableMembers members

def arePrintable : List Json → Bool
  | [] => true
  | item :: rest => item.isPrintable && arePrintable rest

def arePrintableMembers : List (Option Text × Json) → Bool
  | [] => true
  | (name, value) :: rest => name.isSome && value.isPrintable && arePrintableMembers rest

end

theorem isBlank_newLine (level : Nat) : IsBlank (newLine level) := by
  intro c member
  rcases List.mem_cons.mp member with feed | space
  · exact Or.inr (Or.inl feed)
  · exact Or.inl (List.eq_of_mem_replicate space)

theorem isBlank_nil : IsBlank [] := fun _ member => absurd member List.not_mem_nil

theorem isBlank_space : IsBlank [' '] := fun _ member => Or.inl (List.mem_singleton.mp member)

mutual

/-- What is printed for a document is one of its forms. -/
theorem form_print (level : Nat) : ∀ document : Json, document.isPrintable = true →
    Form document (document.print level)
  | .null, _ => .null
  | .bool true, _ => .boolTrue
  | .bool false, _ => .boolFalse
  | .number literal, printable => by
      rw [isPrintable, List.all_eq_true] at printable
      exact .number (numberForm_printNumber fun digit member =>
        of_decide_eq_true (printable digit member))
  | .string none, printable => absurd printable Bool.false_ne_true
  | .string (some text), _ => .string (stringForm_flatMap_printChar text)
  | .array [], _ => .emptyArray isBlank_nil
  | .array (item :: rest), printable => by
      rw [isPrintable] at printable
      have items := itemsForm_print (level + 1) (isBlank_newLine level) item rest printable
      rw [← List.append_assoc] at items
      exact .array items
  | .object [], _ => .emptyObject isBlank_nil
  | .object ((name, value) :: rest), printable => by
      rw [isPrintable] at printable
      have members := membersForm_print (level + 1) (isBlank_newLine level) name value rest printable
      rw [← List.append_assoc] at members
      exact .object members
termination_by document => sizeOf document

/-- What is printed for the items of an array is one of their forms, whatever blank characters are
in front of the bracket. -/
theorem itemsForm_print (level : Nat) {blank : Text} (last : IsBlank blank) :
    ∀ (item : Json) (rest : List Json), arePrintable (item :: rest) = true →
      ItemsForm (item :: rest)
        (newLine level ++ item.print level ++ printItems level rest ++ (blank ++ [']']))
  | item, [], printable => by
      rw [arePrintable, Bool.and_eq_true] at printable
      have form := ItemsForm.last (.intro (isBlank_newLine level)
        (form_print level item printable.1) last)
      simpa only [printItems, List.append_assoc, List.append_nil] using form
  | item, next :: rest, printable => by
      rw [arePrintable, Bool.and_eq_true] at printable
      have form := ItemsForm.next (.intro (isBlank_newLine level)
        (form_print level item printable.1) isBlank_nil)
        (itemsForm_print level last next rest printable.2)
      simpa only [printItems, List.append_assoc, List.append_nil, List.cons_append] using form
termination_by item rest => sizeOf (item :: rest)

/-- What is printed for the members of an object is one of their forms, whatever blank characters
are in front of the bracket. -/
theorem membersForm_print (level : Nat) {blank : Text} (last : IsBlank blank) :
    ∀ (name : Option Text) (value : Json) (rest : List (Option Text × Json)),
      arePrintableMembers ((name, value) :: rest) = true →
        MembersForm ((name, value) :: rest)
          (newLine level ++ printString name ++ [':', ' '] ++ value.print level ++
            printMembers level rest ++ (blank ++ ['\x7d']))
  | none, _, _, printable => by
      rw [arePrintableMembers] at printable
      exact absurd printable Bool.false_ne_true
  | some name, value, [], printable => by
      simp only [arePrintableMembers, Bool.and_eq_true] at printable
      have form := MembersForm.last (isBlank_newLine level) (stringForm_flatMap_printChar name)
        isBlank_nil (.intro isBlank_space (form_print level value printable.1.2) last)
      simpa only [printString, Option.getD_some, printMembers, List.append_assoc, List.append_nil,
        List.cons_append, List.nil_append] using form
  | some name, value, (other, next) :: rest, printable => by
      rw [arePrintableMembers, Bool.and_eq_true, Bool.and_eq_true] at printable
      have form := MembersForm.next (isBlank_newLine level) (stringForm_flatMap_printChar name)
        isBlank_nil (.intro isBlank_space (form_print level value printable.1.2) isBlank_nil)
        (membersForm_print level last other next rest printable.2)
      simpa only [printString, Option.getD_some, printMembers, List.append_assoc, List.append_nil,
        List.cons_append, List.nil_append] using form
termination_by name value rest => sizeOf ((name, value) :: rest)

end

/-- The printed form of a document has no blank characters around it. -/
theorem paddedForm_pretty {document : Json} (printable : document.isPrintable = true) :
    PaddedForm document document.pretty := by
  have form := PaddedForm.intro isBlank_nil (form_print 0 document printable) isBlank_nil
  rwa [List.nil_append, List.append_nil] at form

end ThoughtJournal.Json
