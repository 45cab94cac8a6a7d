import ThoughtJournal.Json.Reader

/-! # The written forms of JSON documents

A document has many written forms: blank characters may stand between its parts, a character of a
string may be escaped in several ways, and so may an exponent be written. The relations say which
texts are forms of a document; the order of the members is that of the document.
-/

namespace ThoughtJournal.Json

/-- A text of the characters that may stand between the parts of a document. -/
def IsBlank (text : Text) : Prop := ∀ c ∈ text, c = ' ' ∨ c = '\n' ∨ c = '\t' ∨ c = '\r'

/-- Four hexadecimal digits, of either case, of a number. -/
def IsHex (code : Nat) (digits : Text) : Prop :=
  ∃ a b c d, digits = [a, b, c, d] ∧ fourHexDigits? a b c d = some code

/-- What may stand between the quotes of a string for a text: characters as they are, short escapes,
and the UTF-16 code units of a character by their numbers. -/
inductive StringForm : Text → Text → Prop where
  | nil : StringForm [] []
  | plain {c : Char} {text form : Text} (printed : 0x20 ≤ c.toNat) (noQuote : c ≠ '"')
      (noBackslash : c ≠ '\\') (rest : StringForm text form) : StringForm (c :: text) (c :: form)
  | escape {c mark : Char} {text form : Text} (escaped : escaped? mark = some c)
      (rest : StringForm text form) : StringForm (c :: text) ('\\' :: mark :: form)
  | codeUnit {c : Char} {digits text form : Text} (unit : IsHex c.toNat digits)
      (rest : StringForm text form) : StringForm (c :: text) ('\\' :: 'u' :: (digits ++ form))
  | surrogates {c : Char} {high low text form : Text} (supplementary : 0x10000 ≤ c.toNat)
      (first : IsHex (0xD800 + (c.toNat - 0x10000) / 0x400) high)
      (second : IsHex (0xDC00 + (c.toNat - 0x10000) % 0x400) low) (rest : StringForm text form) :
      StringForm (c :: text) ('\\' :: 'u' :: (high ++ '\\' :: 'u' :: (low ++ form)))

/-- The digits after the point, which stands only in front of digits. -/
inductive FractionForm : List Nat → Text → Prop where
  | none : FractionForm [] []
  | some {digits : List Nat} (filled : digits ≠ []) (small : ∀ digit ∈ digits, digit < 10) :
      FractionForm digits ('.' :: digits.map Nat.digitChar)

/-- An exponent with any number of digits, after a sign or without one. -/
inductive ExponentForm : Option Int → Text → Prop where
  | none : ExponentForm none []
  | unsigned {mark : Char} {digits : List Nat} (marked : mark = 'e' ∨ mark = 'E')
      (filled : digits ≠ []) (small : ∀ digit ∈ digits, digit < 10) :
      ExponentForm (some (Text.valueOf 10 digits)) (mark :: digits.map Nat.digitChar)
  | positive {mark : Char} {digits : List Nat} (marked : mark = 'e' ∨ mark = 'E')
      (filled : digits ≠ []) (small : ∀ digit ∈ digits, digit < 10) :
      ExponentForm (some (Text.valueOf 10 digits)) (mark :: '+' :: digits.map Nat.digitChar)
  | negative {mark : Char} {digits : List Nat} (marked : mark = 'e' ∨ mark = 'E')
      (filled : digits ≠ []) (small : ∀ digit ∈ digits, digit < 10) :
      ExponentForm (some (-(Text.valueOf 10 digits : Int))) (mark :: '-' :: digits.map Nat.digitChar)

/-- A number: the digits before the point do not begin with a zero, unless they are one. -/
inductive NumberForm : JsonNumber → Text → Prop where
  | intro {negative : Bool} {whole : Nat} {fraction : List Nat} {exponent : Option Int}
      {point power : Text} (fractional : FractionForm fraction point)
      (exponential : ExponentForm exponent power) :
      NumberForm ⟨negative, whole, fraction, exponent⟩
        ((if negative then ['-'] else []) ++ (Text.ofNat whole ++ (point ++ power)))

mutual

/-- A written form of a document without blank characters around it. -/
inductive Form : Json → Text → Prop where
  | null : Form .null ['n', 'u', 'l', 'l']
  | boolTrue : Form (.bool true) ['t', 'r', 'u', 'e']
  | boolFalse : Form (.bool false) ['f', 'a', 'l', 's', 'e']
  | number {literal : JsonNumber} {form : Text} (written : NumberForm literal form) :
      Form (.number literal) form
  | string {text form : Text} (written : StringForm text form) :
      Form (.string (some text)) ('"' :: (form ++ ['"']))
  | emptyArray {blank : Text} (between : IsBlank blank) : Form (.array []) ('[' :: (blank ++ [']']))
  | array {items : List Json} {form : Text} (written : ItemsForm items form) :
      Form (.array items) ('[' :: form)
  | emptyObject {blank : Text} (between : IsBlank blank) :
      Form (.object []) ('\x7b' :: (blank ++ ['\x7d']))
  | object {members : List (Option Text × Json)} {form : Text} (written : MembersForm members form) :
      Form (.object members) ('\x7b' :: form)

/-- A written form of a document with blank characters around it. -/
inductive PaddedForm : Json → Text → Prop where
  | intro {before after form : Text} {value : Json} (left : IsBlank before)
      (written : Form value form) (right : IsBlank after) :
      PaddedForm value (before ++ (form ++ after))

/-- Items with the commas between them and the bracket after them. -/
inductive ItemsForm : List Json → Text → Prop where
  | last {item : Json} {form : Text} (written : PaddedForm item form) :
      ItemsForm [item] (form ++ [']'])
  | next {item : Json} {items : List Json} {form others : Text} (written : PaddedForm item form)
      (rest : ItemsForm items others) : ItemsForm (item :: items) (form ++ ',' :: others)

/-- Members with the commas between them and the bracket after them. -/
inductive MembersForm : List (Option Text × Json) → Text → Prop where
  | last {name before quoted after form : Text} {value : Json} (left : IsBlank before)
      (named : StringForm name quoted) (right : IsBlank after) (written : PaddedForm value form) :
      MembersForm [(some name, value)]
        (before ++ '"' :: (quoted ++ '"' :: (after ++ ':' :: (form ++ ['\x7d']))))
  | next {name before quoted after form others : Text} {value : Json}
      {members : List (Option Text × Json)} (left : IsBlank before)
      (named : StringForm name quoted) (right : IsBlank after) (written : PaddedForm value form)
      (rest : MembersForm members others) :
      MembersForm ((some name, value) :: members)
        (before ++ '"' :: (quoted ++ '"' :: (after ++ ':' :: (form ++ ',' :: others))))

end

end ThoughtJournal.Json
