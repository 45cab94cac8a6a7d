import ThoughtJournal.Calendar
import ThoughtJournal.Decimal
import ThoughtJournal.Toml.Document

/-! # Blanks, strings, numbers and dates of TOML

Readers for the smallest parts of a document. Each takes what it reads off the front of a text and
gives the rest, or nothing if the text is not well-formed there.
-/

namespace ThoughtJournal.Toml

/-! ## Blanks, comments and line ends -/

def isSpace (c : Char) : Bool := c == ' ' || c == '\t'

/-- A tab, or any character that is not a control character. -/
def isPrintable (c : Char) : Bool := c == '\t' || (0x20 ≤ c.toNat && c.toNat != 0x7F)

def skipSpace (text : Text) : Text := text.dropWhile isSpace

def afterNewline? : Text → Option Text
  | '\n' :: rest => some rest
  | '\r' :: '\n' :: rest => some rest
  | _ => none

/-- The text without the comment at its start, if it begins with one. -/
def skipComment : Text → Text
  | '#' :: rest => rest.dropWhile isPrintable
  | text => text

/-- The rest after blanks, a comment and the end of the line or of the document. -/
def afterLine? (text : Text) : Option Text :=
  match skipComment (skipSpace text) with
  | [] => some []
  | rest => afterNewline? rest

/-- The text without blanks, line ends and comments at its start; `inComment` tells that a comment is
open. A comment with a control character is not skipped. -/
def skipGap (inComment : Bool) : Text → Option Text
  | [] => some []
  | '\n' :: rest => skipGap false rest
  | '\r' :: '\n' :: rest => skipGap false rest
  | c :: rest =>
      if inComment then if isPrintable c then skipGap true rest else none
      else if isSpace c then skipGap false rest
      else if c == '#' then skipGap true rest
      else some (c :: rest)

/-! ## Strings -/

/-- The character with a given code, if there is one. -/
def charOf? (code : Nat) : Option Char :=
  if code.isValidChar then some (Char.ofNat code) else none

def hexChar? (digits : Text) : Option Char :=
  match digits.mapM Text.hexDigit? with
  | some digits => charOf? (Text.valueOf 16 digits)
  | none => none

/-- The character of an escape with a single letter. -/
def escaped? : Char → Option Char
  | 'b' => some '\x08'
  | 't' => some '\t'
  | 'n' => some '\n'
  | 'f' => some '\x0c'
  | 'r' => some '\r'
  | '"' => some '"'
  | '\\' => some '\\'
  | _ => none

/-- The rest of a string, with one more character in front of what is read. -/
def consChar (c : Char) (result : Option (Text × Text)) : Option (Text × Text) :=
  result.map fun result => (c :: result.1, result.2)

def readBasic : Text → Option (Text × Text)
  | [] => none
  | '"' :: rest => some ([], rest)
  | '\\' :: 'u' :: a :: b :: c :: d :: rest =>
      match hexChar? [a, b, c, d] with
      | some character => consChar character (readBasic rest)
      | none => none
  | '\\' :: 'U' :: a :: b :: c :: d :: e :: f :: g :: h :: rest =>
      match hexChar? [a, b, c, d, e, f, g, h] with
      | some character => consChar character (readBasic rest)
      | none => none
  | '\\' :: letter :: rest =>
      match escaped? letter with
      | some character => consChar character (readBasic rest)
      | none => none
  | c :: rest => if isPrintable c && c != '\\' then consChar c (readBasic rest) else none

def readLiteral : Text → Option (Text × Text)
  | [] => none
  | '\'' :: rest => some ([], rest)
  | c :: rest => if isPrintable c then consChar c (readLiteral rest) else none

/-- The end of a string over several lines, given what follows its first three closing quotes: up to
two more quotes belong to the string. -/
def closeLong (quote : Char) : Text → Option (Text × Text)
  | a :: b :: c :: rest =>
      if a == quote && b == quote then
        if c == quote then none else some ([quote, quote], c :: rest)
      else if a == quote then some ([quote], b :: c :: rest)
      else some ([], a :: b :: c :: rest)
  | [a, b] =>
      if a == quote && b == quote then some ([quote, quote], [])
      else if a == quote then some ([quote], [b])
      else some ([], [a, b])
  | [a] => if a == quote then some ([quote], []) else some ([], [a])
  | [] => some ([], [])

/-- Where the reader of a basic string over several lines stands. -/
inductive LongMode where
  /-- Within the text. -/
  | inText
  /-- After a backslash that must be followed by the end of the line. -/
  | beforeLineEnd
  /-- After the end of such a line, where blanks and line ends are passed over. -/
  | passing
deriving DecidableEq, Repr

/-- A basic string over several lines after its three opening quotes. -/
def readLongBasic : LongMode → Text → Option (Text × Text)
  | _, [] => none
  | mode, '\n' :: rest =>
      match mode with
      | .inText => consChar '\n' (readLongBasic .inText rest)
      | _ => readLongBasic .passing rest
  | mode, '\r' :: '\n' :: rest =>
      match mode with
      | .inText => consChar '\n' (readLongBasic .inText rest)
      | _ => readLongBasic .passing rest
  | .beforeLineEnd, c :: rest => if isSpace c then readLongBasic .beforeLineEnd rest else none
  | _, '"' :: '"' :: '"' :: rest => closeLong '"' rest
  | _, '\\' :: 'u' :: a :: b :: c :: d :: rest =>
      match hexChar? [a, b, c, d] with
      | some character => consChar character (readLongBasic .inText rest)
      | none => none
  | _, '\\' :: 'U' :: a :: b :: c :: d :: e :: f :: g :: h :: rest =>
      match hexChar? [a, b, c, d, e, f, g, h] with
      | some character => consChar character (readLongBasic .inText rest)
      | none => none
  | _, '\\' :: ' ' :: rest => readLongBasic .beforeLineEnd rest
  | _, '\\' :: '\t' :: rest => readLongBasic .beforeLineEnd rest
  | _, '\\' :: '\n' :: rest => readLongBasic .passing rest
  | _, '\\' :: '\r' :: '\n' :: rest => readLongBasic .passing rest
  | _, '\\' :: letter :: rest =>
      match escaped? letter with
      | some character => consChar character (readLongBasic .inText rest)
      | none => none
  | mode, c :: rest =>
      if mode == .passing && isSpace c then readLongBasic .passing rest
      else if isPrintable c && c != '\\' then consChar c (readLongBasic .inText rest)
      else none

/-- A literal string over several lines after its three opening quotes. -/
def readLongLiteral : Text → Option (Text × Text)
  | [] => none
  | '\'' :: '\'' :: '\'' :: rest => closeLong '\'' rest
  | '\n' :: rest => consChar '\n' (readLongLiteral rest)
  | '\r' :: '\n' :: rest => consChar '\n' (readLongLiteral rest)
  | c :: rest => if isPrintable c then consChar c (readLongLiteral rest) else none

/-- The text without the line end at its start, if it begins with one. -/
def skipNewline (text : Text) : Text := (afterNewline? text).getD text

/-- A string of any of the four kinds. -/
def readString : Text → Option (Text × Text)
  | '"' :: '"' :: '"' :: rest => readLongBasic .inText (skipNewline rest)
  | '"' :: rest => readBasic rest
  | '\'' :: '\'' :: '\'' :: rest => readLongLiteral (skipNewline rest)
  | '\'' :: rest => readLiteral rest
  | _ => none

/-! ## Numbers -/

/-- The digits at the start of a text. An underscore may stand between two digits and nowhere
else. -/
def readDigits (digit? : Char → Option Nat) : Text → Option (List Nat × Text)
  | [] => some ([], [])
  | '_' :: c :: rest =>
      match digit? c with
      | some digit => (readDigits digit? rest).map fun result => (digit :: result.1, result.2)
      | none => none
  | c :: rest =>
      if c == '_' then none
      else
        match digit? c with
        | some digit => (readDigits digit? rest).map fun result => (digit :: result.1, result.2)
        | none => some ([], c :: rest)

/-- At least one digit, with underscores between digits. -/
def readDigitRun (digit? : Char → Option Nat) : Text → Option (List Nat × Text)
  | [] => none
  | c :: rest =>
      match digit? c with
      | some _ => readDigits digit? (c :: rest)
      | none => none

def octalDigit? (c : Char) : Option Nat := if '0' ≤ c ∧ c ≤ '7' then Text.digit? c else none

def binaryDigit? (c : Char) : Option Nat := if c == '0' || c == '1' then Text.digit? c else none

/-- An integer of 64 bits with a sign. -/
def integer? (n : Int) : Option Value :=
  if -9223372036854775808 ≤ n ∧ n ≤ 9223372036854775807 then some (.integer n) else none

def readBased (base : Nat) (digit? : Char → Option Nat) (text : Text) : Option (Value × Text) :=
  match readDigitRun digit? text with
  | none => none
  | some (digits, rest) => (integer? (Text.valueOf base digits)).map fun value => (value, rest)

/-- The digits before the point: a zero alone or digits that do not begin with a zero. -/
def readWhole : Text → Option (List Nat × Text)
  | '0' :: rest => some ([0], rest)
  | text => readDigitRun Text.digit? text

/-- A sign, if there is one: whether it is a minus sign, and the rest. -/
def readSign : Text → Bool × Text
  | '+' :: rest => (false, rest)
  | '-' :: rest => (true, rest)
  | text => (false, text)

/-- An exponent, if there is one. The inner result is nothing if there is none. -/
def readExponent : Text → Option (Option Int × Text)
  | [] => some (none, [])
  | c :: rest =>
      if c == 'e' || c == 'E' then
        let (negative, rest) := readSign rest
        match readDigitRun Text.digit? rest with
        | some (digits, rest) =>
            let value : Int := Text.valueOf 10 digits
            some (some (if negative then -value else value), rest)
        | none => none
      else some (none, c :: rest)

/-- The digits after a point, if there is one. The inner result is nothing if there is none. -/
def readFraction : Text → Option (Option (List Nat) × Text)
  | '.' :: rest =>
      match readDigitRun Text.digit? rest with
      | some (digits, rest) => some (some digits, rest)
      | none => none
  | text => some (none, text)

/-- A decimal integer or a floating-point number. A number that double precision rounds to positive
infinity is refused. -/
def readDecimal (text : Text) : Option (Value × Text) :=
  let (negative, unsigned) := readSign text
  match readWhole unsigned with
  | none => none
  | some (whole, rest) =>
      match readFraction rest with
      | none => none
      | some (fraction, rest) =>
          match readExponent rest with
          | none => none
          | some (exponent, rest) =>
              if fraction.isNone && exponent.isNone then
                let value : Int := Text.valueOf 10 whole
                (integer? (if negative then -value else value)).map fun value => (value, rest)
              else
                let after := fraction.getD []
                let digits := Text.valueOf 10 (whole ++ after)
                if negative || Decimal.isFinite digits (exponent.getD 0 - after.length) then
                  some (.float, rest)
                else none

/-- A number: an integer in one of four bases, a floating-point number, an infinity, or not a
number. -/
def readNumber (text : Text) : Option (Value × Text) :=
  match text with
  | '0' :: 'x' :: rest => readBased 16 Text.hexDigit? rest
  | '0' :: 'o' :: rest => readBased 8 octalDigit? rest
  | '0' :: 'b' :: rest => readBased 2 binaryDigit? rest
  | _ =>
      match (readSign text).2 with
      | 'i' :: 'n' :: 'f' :: rest => some (.float, rest)
      | 'n' :: 'a' :: 'n' :: rest => some (.float, rest)
      | _ => readDecimal text

/-! ## Dates and times -/

/-- What a text begins with, as far as dates and times are concerned. -/
inductive Moment where
  /-- Neither a date nor a time begins here. -/
  | other
  /-- A date or a time begins here but is not well-formed. -/
  | malformed
  /-- A date or a time, and what follows it. -/
  | read (rest : Text)
deriving DecidableEq, Repr

def readTwo (low high : Nat) : Text → Option (Nat × Text)
  | a :: b :: rest =>
      match Text.digit? a, Text.digit? b with
      | some tens, some ones =>
          let value := 10 * tens + ones
          if low ≤ value && value ≤ high then some (value, rest) else none
      | _, _ => none
  | _ => none

/-- The rest after a point and at least one digit, if a text begins so; the text itself
otherwise. -/
def skipSecondFraction : Text → Text
  | '.' :: c :: rest => if c.isDigit then rest.dropWhile Char.isDigit else '.' :: c :: rest
  | text => text

/-- The rest after the minutes and the seconds that follow an hour and its colon. -/
def afterMinutes? (text : Text) : Option Text :=
  match readTwo 0 59 text with
  | some (_, ':' :: rest) => (readTwo 0 60 rest).map fun seconds => skipSecondFraction seconds.2
  | _ => none

def readTime (text : Text) : Moment :=
  match readTwo 0 23 text with
  | some (_, ':' :: rest) =>
      match afterMinutes? rest with
      | some rest => .read rest
      | none => .malformed
  | _ => .other

/-- The offset from universal time, if there is one. -/
def readOffset : Text → Moment
  | [] => .read []
  | c :: rest =>
      if c == 'Z' || c == 'z' then .read rest
      else if c == '+' || c == '-' then
        match readTwo 0 23 rest with
        | some (_, ':' :: minutes) =>
            match readTwo 0 59 minutes with
            | some (_, rest) => .read rest
            | none => .malformed
        | _ => .malformed
      else .read (c :: rest)

/-- What follows a date: a time with or without an offset, if there is one. -/
def readTimeOfDate (text : Text) : Moment :=
  match text with
  | [] => .read []
  | c :: rest =>
      if c == 'T' || c == 't' || c == ' ' then
        match readTime rest with
        | .other => .read text
        | .malformed => .malformed
        | .read rest => readOffset rest
      else .read text

/-- The month and the day that follow a year and its dash, and a time if there is one. -/
def readDateTail (year : Nat) (text : Text) : Moment :=
  match readTwo 1 12 text with
  | some (month, '-' :: rest) =>
      match readTwo 1 (Calendar.daysInMonth year month) rest with
      | some (_, rest) => readTimeOfDate rest
      | none => .malformed
  | _ => .malformed

/-- A date with or without a time, or a time alone. -/
def readMoment (text : Text) : Moment :=
  match text with
  | a :: b :: c :: d :: '-' :: rest =>
      match [a, b, c, d].mapM Text.digit? with
      | some digits => readDateTail (Text.valueOf 10 digits) rest
      | none => readTime text
  | _ => readTime text

end ThoughtJournal.Toml
