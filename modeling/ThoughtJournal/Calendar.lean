import ThoughtJournal.Text.Basic

/-! # Calendar dates

Dates of the proleptic Gregorian calendar, and the texts that are accepted as dates in the form
year-month-day: blanks may stand before each of the three numbers, a year has at most four digits
unless it carries a sign, and month and day have one or two digits.
-/

namespace ThoughtJournal.Calendar

/-- Whether a year has a twenty-ninth of February. -/
def isLeapYear (year : Int) : Bool := year % 4 == 0 && (year % 100 != 0 || year % 400 == 0)

/-- The number of days of a month; there are none in a month outside of 1 to 12. -/
def daysInMonth (year : Int) (month : Nat) : Nat :=
  if month == 2 then if isLeapYear year then 29 else 28
  else if month == 4 || month == 6 || month == 9 || month == 11 then 30
  else if 1 ≤ month && month ≤ 12 then 31
  else 0

/-- A day of a month of a year. -/
structure Date where
  year : Int
  month : Nat
  day : Nat
deriving DecidableEq, Repr

def Date.isValid (date : Date) : Bool :=
  1 ≤ date.day && date.day ≤ daysInMonth date.year date.month

def Date.before (left right : Date) : Bool :=
  left.year < right.year || (left.year == right.year &&
    (left.month < right.month || (left.month == right.month && left.day < right.day)))

/-- The number that is written by the digits at the start of a text, at most `limit` of them if a
limit is given, and the rest of the text. There must be a digit. -/
def readNumber (limit : Option Nat) (text : Text) : Option (Nat × Text) :=
  let run := text.takeWhile Char.isDigit
  let digits := match limit with
    | some limit => run.take limit
    | none => run
  if digits.isEmpty then none
  else some (Text.valueOf 10 (digits.map fun c => c.toNat - '0'.toNat), text.drop digits.length)

/-- The year at the start of a text, after blanks. -/
def readYear (text : Text) : Option (Int × Text) :=
  match Text.trimStart text with
  | '+' :: rest => (readNumber none rest).map fun result => ((result.1 : Int), result.2)
  | '-' :: rest => (readNumber none rest).map fun result => (-(result.1 : Int), result.2)
  | rest => (readNumber (some 4) rest).map fun result => ((result.1 : Int), result.2)

/-- A dash and, after blanks, a number of one or two digits. -/
def readPart : Text → Option (Nat × Text)
  | '-' :: rest => readNumber (some 2) (Text.trimStart rest)
  | _ => none

/-- The date that a whole text denotes, if there is such a day and the year lies between -262143 and
262142. -/
def parse? (text : Text) : Option Date :=
  match readYear text with
  | none => none
  | some (year, rest) =>
      match readPart rest with
      | none => none
      | some (month, rest) =>
          match readPart rest with
          | none => none
          | some (day, rest) =>
              let date : Date := ⟨year, month, day⟩
              if rest.isEmpty && date.isValid && -262143 ≤ year && year ≤ 262142 then some date
              else none

/-- A number with leading zeros up to at least `width` digits. -/
def padded (width n : Nat) : Text :=
  let digits := Text.ofNat n
  List.replicate (width - digits.length) '0' ++ digits

/-- The usual form of a date: four digits of the year, two of the month and two of the day. -/
def Date.text (date : Date) : Text :=
  (if date.year < 0 then ['-'] else []) ++ padded 4 date.year.natAbs ++ ['-'] ++
    padded 2 date.month ++ ['-'] ++ padded 2 date.day

end ThoughtJournal.Calendar
