import ThoughtJournal.Json.Value

/-! # Reading JSON

The strict grammar: four blank characters, no comments, no comma after the last item, no leading
zeros. A reader takes what it reads off the front of a text and gives the rest. Arrays and objects
nest, so the readers of values carry a bound on the remaining steps; twice the length of the text is
never exhausted.
-/

namespace ThoughtJournal.Json

/-- The text without blank characters at its start. -/
def skipBlank (text : Text) : Text :=
  text.dropWhile fun c => c == ' ' || c == '\n' || c == '\t' || c == '\r'

/-! ## Strings -/

/-- A character of a string, or the code unit that an escape gives by its number. -/
inductive Symbol where
  | plain (c : Char)
  | codeUnit (code : Nat)
deriving DecidableEq, Repr

def isHighSurrogate (code : Nat) : Bool := 0xD800 ≤ code && code ≤ 0xDBFF

def isLowSurrogate (code : Nat) : Bool := 0xDC00 ≤ code && code ≤ 0xDFFF

/-- The text of a list of symbols, in which surrogates must come in pairs. -/
def textOf? : List Symbol → Option Text
  | [] => some []
  | .plain c :: rest => (textOf? rest).map (c :: ·)
  | .codeUnit high :: .codeUnit low :: rest =>
      if isHighSurrogate high && isLowSurrogate low then
        (textOf? rest).map
          (Char.ofNat (0x10000 + 0x400 * (high - 0xD800) + (low - 0xDC00)) :: ·)
      else if isHighSurrogate high || isLowSurrogate high then none
      else (textOf? (.codeUnit low :: rest)).map (Char.ofNat high :: ·)
  | .codeUnit code :: rest =>
      if isHighSurrogate code || isLowSurrogate code then none
      else (textOf? rest).map (Char.ofNat code :: ·)

def fourHexDigits? (a b c d : Char) : Option Nat :=
  match Text.hexDigit? a, Text.hexDigit? b, Text.hexDigit? c, Text.hexDigit? d with
  | some a, some b, some c, some d => some (Text.valueOf 16 [a, b, c, d])
  | _, _, _, _ => none

def escaped? : Char → Option Char
  | '"' => some '"'
  | '\\' => some '\\'
  | '/' => some '/'
  | 'b' => some '\x08'
  | 'f' => some '\x0c'
  | 'n' => some '\n'
  | 'r' => some '\r'
  | 't' => some '\t'
  | _ => none

/-- The symbols of a string up to its closing quote. -/
def readSymbols : Text → Option (List Symbol × Text)
  | [] => none
  | '"' :: rest => some ([], rest)
  | '\\' :: 'u' :: a :: b :: c :: d :: rest =>
      match fourHexDigits? a b c d with
      | none => none
      | some code => (readSymbols rest).map fun result => (.codeUnit code :: result.1, result.2)
  | '\\' :: c :: rest =>
      match escaped? c with
      | none => none
      | some c => (readSymbols rest).map fun result => (.plain c :: result.1, result.2)
  | c :: rest =>
      if c.toNat < 0x20 || c == '\\' then none
      else (readSymbols rest).map fun result => (.plain c :: result.1, result.2)

/-- A string after its opening quote. -/
def readString (text : Text) : Option (Option Text × Text) :=
  (readSymbols text).map fun result => (textOf? result.1, result.2)

/-! ## Numbers -/

def readDigits (text : Text) : List Nat × Text :=
  ((text.takeWhile Char.isDigit).map fun c => c.toNat - '0'.toNat, text.dropWhile Char.isDigit)

/-- The digits before the point: a zero alone, or digits that do not begin with a zero. -/
def readWhole : Text → Option (Nat × Text)
  | '0' :: rest => some (0, rest)
  | text =>
      let digits := readDigits text
      if digits.1.isEmpty then none else some (Text.valueOf 10 digits.1, digits.2)

/-- The point and the digits after it, if there are any. -/
def readFraction : Text → List Nat × Text
  | '.' :: rest =>
      let digits := readDigits rest
      if digits.1.isEmpty then ([], '.' :: rest) else digits
  | text => ([], text)

def readSignedDigits : Text → Option (Int × Text)
  | '-' :: rest =>
      let digits := readDigits rest
      if digits.1.isEmpty then none else some (-(Text.valueOf 10 digits.1 : Int), digits.2)
  | text =>
      let digits := readDigits (match text with
        | '+' :: rest => rest
        | _ => text)
      if digits.1.isEmpty then none else some ((Text.valueOf 10 digits.1 : Int), digits.2)

def readExponent (text : Text) : Option Int × Text :=
  match text with
  | [] => (none, text)
  | c :: rest =>
      if c == 'e' || c == 'E' then
        match readSignedDigits rest with
        | some (exponent, rest) => (some exponent, rest)
        | none => (none, text)
      else (none, text)

def readUnsigned (negative : Bool) (text : Text) : Option (JsonNumber × Text) :=
  match readWhole text with
  | none => none
  | some (whole, rest) =>
      let fraction := readFraction rest
      let exponent := readExponent fraction.2
      some (⟨negative, whole, fraction.1, exponent.1⟩, exponent.2)

/-- A number. -/
def readNumber : Text → Option (JsonNumber × Text)
  | '-' :: rest => readUnsigned true rest
  | text => readUnsigned false text

/-! ## Values -/

mutual

/-- A value, in at most the given number of steps. -/
def readValue : Nat → Text → Option (Json × Text)
  | 0, _ => none
  | steps + 1, text =>
      match skipBlank text with
      | 'n' :: 'u' :: 'l' :: 'l' :: rest => some (.null, rest)
      | 't' :: 'r' :: 'u' :: 'e' :: rest => some (.bool true, rest)
      | 'f' :: 'a' :: 'l' :: 's' :: 'e' :: rest => some (.bool false, rest)
      | '"' :: rest => (readString rest).map fun result => (.string result.1, result.2)
      | '[' :: rest =>
          match skipBlank rest with
          | ']' :: rest => some (.array [], rest)
          | _ => (readItems steps rest).map fun result => (.array result.1, result.2)
      | '{' :: rest =>
          match skipBlank rest with
          | '}' :: rest => some (.object [], rest)
          | _ => (readMembers steps rest).map fun result => (.object result.1, result.2)
      | rest => (readNumber rest).map fun result => (.number result.1, result.2)

def readItems : Nat → Text → Option (List Json × Text)
  | 0, _ => none
  | steps + 1, text =>
      match readValue steps text with
      | none => none
      | some (item, rest) =>
          match skipBlank rest with
          | ',' :: rest => (readItems steps rest).map fun result => (item :: result.1, result.2)
          | ']' :: rest => some ([item], rest)
          | _ => none

def readMembers : Nat → Text → Option (List (Option Text × Json) × Text)
  | 0, _ => none
  | steps + 1, text =>
      match skipBlank text with
      | '"' :: rest =>
          match readString rest with
          | none => none
          | some (name, rest) =>
              match skipBlank rest with
              | ':' :: rest =>
                  match readValue steps rest with
                  | none => none
                  | some (value, rest) =>
                      match skipBlank rest with
                      | ',' :: rest =>
                          (readMembers steps rest).map fun result =>
                            ((name, value) :: result.1, result.2)
                      | '}' :: rest => some ([(name, value)], rest)
                      | _ => none
              | _ => none
      | _ => none

end

/-- The document that a text is, with nothing but blank characters around it. -/
def read (text : Text) : Option Json :=
  match readValue (2 * text.length + 2) text with
  | some (value, rest) => if (skipBlank rest).isEmpty then some value else none
  | none => none

end ThoughtJournal.Json
