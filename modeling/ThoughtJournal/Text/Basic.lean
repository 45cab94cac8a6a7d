/-! # Texts

A text is a list of characters. Everything the journal program reads off a text is defined here by
recursion on that list: blank characters, trimming, occurrences of one text in another, lines,
words, and fields between separators. Texts are ordered by code point, character by character, which
is also the order of their UTF-8 bytes.
-/

namespace ThoughtJournal

/-- A text is the list of its characters. -/
abbrev Text := List Char

namespace Text

/-! ## Blank characters -/

/-- The characters with the Unicode property `White_Space`. -/
def isBlank (c : Char) : Bool :=
  let code := c.toNat
  (0x9 ≤ code && code ≤ 0xD) || code == 0x20 || code == 0x85 || code == 0xA0 || code == 0x1680 ||
    (0x2000 ≤ code && code ≤ 0x200A) || code == 0x2028 || code == 0x2029 || code == 0x202F ||
    code == 0x205F || code == 0x3000

/-- A text without a visible character. -/
def isAllBlank (text : Text) : Bool := text.all isBlank

/-- A text without the blank characters at its start. -/
def trimStart (text : Text) : Text := text.dropWhile isBlank

/-- A text without the characters at its end that fulfil a condition. -/
def dropEndWhile (p : Char → Bool) (text : Text) : Text := (text.reverse.dropWhile p).reverse

/-- A text without the blank characters at its end. -/
def trimEnd (text : Text) : Text := dropEndWhile isBlank text

/-- A text without the blank characters at its two ends. -/
def trim (text : Text) : Text := trimEnd (trimStart text)

@[simp] theorem trimStart_nil : trimStart [] = [] := rfl

@[simp] theorem trimEnd_nil : trimEnd [] = [] := rfl

/-- A blank character at the start is trimmed away. -/
theorem trimStart_cons_of_blank {c : Char} (text : Text) (blank : isBlank c = true) :
    trimStart (c :: text) = trimStart text := by
  simp [trimStart, blank]

/-- A text that begins with a visible character has nothing to trim at its start. -/
theorem trimStart_cons_of_not_blank {c : Char} (text : Text) (visible : isBlank c = false) :
    trimStart (c :: text) = c :: text := by
  simp [trimStart, visible]

/-- A text without a part as often as it stands at its start. -/
def dropLeading (part text : Text) : Text :=
  if part.isEmpty then text
  else if part.isPrefixOf text then dropLeading part (text.drop part.length)
  else text
termination_by text.length
decreasing_by
  rename_i full starts
  have filled : 0 < part.length := by cases part with
    | nil => exact absurd rfl full
    | cons _ _ => simp
  have bounded := (List.isPrefixOf_iff_prefix.mp starts).length_le
  simp only [List.length_drop]
  omega

/-! ## Order -/

/-- `left` comes strictly before `right`. -/
def before (left right : Text) : Bool := decide (left < right)

/-- The comparison decides the order of texts. -/
theorem before_iff (left right : Text) : before left right = true ↔ left < right := by
  simp [before]

def latest (left right : Text) : Text := if before left right then right else left

/-! ## Occurrences and fields -/

/-- Whether `part` occurs somewhere in the text. -/
def occursIn (part : Text) : Text → Bool
  | [] => part.isEmpty
  | c :: rest => part.isPrefixOf (c :: rest) || occursIn part rest

/-- Puts a character in front of the first field of a list of fields. -/
def consField (c : Char) : List Text → List Text
  | [] => [[c]]
  | field :: fields => (c :: field) :: fields

/-- The fields of a text between the occurrences of a separator. There is always at least one. -/
def splitOn (separator : Char) : Text → List Text
  | [] => [[]]
  | c :: rest =>
      if c == separator then [] :: splitOn separator rest
      else consField c (splitOn separator rest)

/-- The fields in order, with `separator` between two neighbours. -/
def join (separator : Text) : List Text → Text
  | [] => []
  | [field] => field
  | field :: next :: fields => field ++ separator ++ join separator (next :: fields)

/-- A separator ends an empty field. -/
theorem splitOn_cons_self (separator : Char) (rest : Text) :
    splitOn separator (separator :: rest) = [] :: splitOn separator rest := by
  simp [splitOn]

/-- A character that is no separator belongs to the first field. -/
theorem splitOn_cons_of_ne {separator c : Char} (different : c ≠ separator) (rest : Text) :
    splitOn separator (c :: rest) = consField c (splitOn separator rest) := by
  simp [splitOn, different]

@[simp] theorem join_singleton (separator field : Text) : join separator [field] = field := rfl

/-! ## Lines -/

/-- The lines of a text. A line ends with a line feed, or with a carriage return and a line feed,
neither of which belongs to it; the end of the text ends a last line that has any character. -/
def lines : Text → List Text
  | [] => []
  | '\n' :: rest => [] :: lines rest
  | '\r' :: '\n' :: rest => [] :: lines rest
  | c :: rest => if rest.isEmpty then [[c]] else consField c (lines rest)

@[simp] theorem lines_nil : lines [] = [] := rfl

/-- A line feed ends an empty line. -/
theorem lines_line_feed (rest : Text) : lines ('\n' :: rest) = [] :: lines rest := by
  simp [lines]

/-- A carriage return and a line feed end an empty line. -/
theorem lines_carriage_return_line_feed (rest : Text) :
    lines ('\r' :: '\n' :: rest) = [] :: lines rest := by
  simp [lines]

/-! ## Words -/

/-- The number of words that begin in a text, where `inside` tells that the character before it
belongs to a word. A word is a maximal run of characters that are not blank. -/
def wordsFrom (inside : Bool) : Text → Nat
  | [] => 0
  | c :: rest =>
      if isBlank c then wordsFrom false rest
      else (if inside then 0 else 1) + wordsFrom true rest

def wordCount (text : Text) : Nat := wordsFrom false text

/-- The estimated number of language model tokens of a text: a word counts for 1.33 tokens, the sum
is rounded down, and one is added. -/
def estimateTokens (text : Text) : Nat := 133 * wordCount text / 100 + 1

/-! ## Numbers and padding -/

def ofNat (n : Nat) : Text := Nat.toDigits 10 n

/-- The decimal digits of an integer, after a minus sign if it is negative. -/
def ofInt : Int → Text
  | .ofNat n => ofNat n
  | .negSucc n => '-' :: ofNat (n + 1)

/-- A text filled up with spaces on its right to at least `width` characters. -/
def padRight (width : Nat) (text : Text) : Text :=
  text ++ List.replicate (width - text.length) ' '

/-- A text filled up with spaces on its left to at least `width` characters. -/
def padLeft (width : Nat) (text : Text) : Text :=
  List.replicate (width - text.length) ' ' ++ text

def digit? (c : Char) : Option Nat :=
  if '0' ≤ c ∧ c ≤ '9' then some (c.toNat - '0'.toNat) else none

/-- The value of a hexadecimal digit of either case. -/
def hexDigit? (c : Char) : Option Nat :=
  if '0' ≤ c ∧ c ≤ '9' then some (c.toNat - '0'.toNat)
  else if 'a' ≤ c ∧ c ≤ 'f' then some (c.toNat - 'a'.toNat + 10)
  else if 'A' ≤ c ∧ c ≤ 'F' then some (c.toNat - 'A'.toNat + 10)
  else none

/-- The number that a list of digits denotes in a base. -/
def valueOf (base : Nat) (digits : List Nat) : Nat :=
  digits.foldl (fun value digit => base * value + digit) 0

end Text

end ThoughtJournal
