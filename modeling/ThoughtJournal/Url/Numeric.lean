import ThoughtJournal.Text.Basic

/-! # Numeric hosts

A host of four bytes is written as up to four numbers between dots, each of them decimal, octal after a
zero, or hexadecimal after `0x`; the last number fills all bytes that remain. A host of eight words is
written in hexadecimal between colons; two colons stand for a run of zero words, and the last two words
can be written as four bytes. Both have one normal form.
-/

namespace ThoughtJournal.Url

/-! ## Four bytes -/

/-- A number with the base that its start tells. A number without digits is zero. -/
def readNumber? (text : Text) : Option Nat :=
  let inBase (base : Nat) (digit? : Char → Option Nat) (digits : Text) : Option Nat :=
    (digits.mapM digit?).map (Text.valueOf base)
  match text with
  | [] => none
  | '0' :: 'x' :: digits | '0' :: 'X' :: digits => inBase 16 Text.hexDigit? digits
  | '0' :: next :: digits =>
      inBase 8 (fun c => (Text.digit? c).filter (· < 8)) (next :: digits)
  | digits => inBase 10 Text.digit? digits

/-- The labels of a host. A dot at the end of the host begins no label. -/
def labels (host : Text) : List Text :=
  let all := Text.splitOn '.' host
  if all.getLast? = some [] && decide (1 < all.length) then all.dropLast else all

def endsInNumber (host : Text) : Bool :=
  match (labels host).getLast? with
  | none => false
  | some last =>
      (!last.isEmpty && last.all fun c => (Text.digit? c).isSome) || (readNumber? last).isSome

/-- The number whose first bytes are the given numbers and whose last number fills the others. -/
def fourBytes? (place : Nat) : List Nat → Option Nat
  | [] => none
  | [last] => if last < Nat.pow 256 (4 - place) then some last else none
  | byte :: rest =>
      if byte < 256 then
        (fourBytes? (place + 1) rest).map fun others => byte * Nat.pow 256 (3 - place) + others
      else none

/-- The bytes of a number of four bytes, between dots. -/
def fourBytesText (number : Nat) : Text :=
  Text.join ['.'] ([3, 2, 1, 0].map fun place =>
    Text.ofNat (number / Nat.pow 256 place % 256))

/-- The normal form of a host of four bytes. -/
def readFourBytes? (host : Text) : Option Text :=
  let parts := labels host
  if 4 < parts.length then none
  else ((parts.mapM readNumber?).bind (fourBytes? 0)).map fourBytesText

/-! ## Eight words -/

def readWord? (text : Text) : Option Nat :=
  if text.isEmpty || decide (4 < text.length) then none
  else (text.mapM Text.hexDigit?).map (Text.valueOf 16)

/-- A byte in decimal digits without leading zeros. -/
def readByte? (text : Text) : Option Nat :=
  if text.isEmpty || (text.head? = some '0' && text != ['0']) then none
  else ((text.mapM Text.digit?).map (Text.valueOf 10)).filter (· < 256)

/-- The words between colons, the last two of which can be four bytes if `atEnd` tells that nothing
follows. -/
def readWords? (atEnd : Bool) : List Text → Option (List Nat)
  | [] => some []
  | [last] =>
      match (Text.splitOn '.' last).mapM readByte? with
      | some [a, b, c, d] => if atEnd then some [256 * a + b, 256 * c + d] else none
      | _ => (readWord? last).map fun word => [word]
  | word :: rest =>
      match readWord? word, readWords? atEnd rest with
      | some word, some rest => some (word :: rest)
      | _, _ => none

/-- The fields of a text between colons; there are none in the empty text. -/
def colonFields (text : Text) : List Text := if text.isEmpty then [] else Text.splitOn ':' text

/-- The text before the first two colons in a row, and the text after them. -/
def splitColons? : Text → Option (Text × Text)
  | [] => none
  | [_] => none
  | ':' :: ':' :: rest => some ([], rest)
  | c :: rest => (splitColons? rest).map fun parts => (c :: parts.1, parts.2)

def readEightWords? (text : Text) : Option (List Nat) :=
  match splitColons? text with
  | none =>
      (readWords? true (colonFields text)).filter fun words => words.length == 8
  | some (left, right) =>
      match readWords? false (colonFields left), readWords? true (colonFields right) with
      | some left, some right =>
          let present := left.length + right.length
          if present < 8 then some (left ++ List.replicate (8 - present) 0 ++ right) else none
      | _, _ => none

def zerosAhead : List Nat → Nat
  | 0 :: rest => zerosAhead rest + 1
  | _ => 0

/-- The greatest number of zeros in a row. -/
def longestZeros : List Nat → Nat
  | [] => 0
  | word :: rest => max (zerosAhead (word :: rest)) (longestZeros rest)

def wordsText (words : List Nat) : Text := Text.join [':'] (words.map (Nat.toDigits 16))

/-- Words between colons, with two colons for the first run of so many zeros. -/
def compressed (run : Nat) (before : List Nat) : List Nat → Text
  | [] => wordsText before
  | word :: rest =>
      if zerosAhead (word :: rest) = run then
        wordsText before ++ "::".toList ++ wordsText (rest.drop (run - 1))
      else compressed run (before ++ [word]) rest

/-- The normal form of eight words: two colons for the first of the longest runs of zeros, if it has
more than one. -/
def eightWordsText (words : List Nat) : Text :=
  let run := longestZeros words
  if run < 2 then wordsText words else compressed run [] words

end ThoughtJournal.Url
