import ThoughtJournal.Text.Utf8

/-! # Percent notation

Bytes written as a percent sign and two hexadecimal digits, for characters that cannot stand for
themselves. Reading gives bytes, which need not be text; a percent sign without two digits after it
stands for itself. Forms write a space as a plus sign.
-/

namespace ThoughtJournal.Percent

/-- A byte as a percent sign and two upper-case hexadecimal digits. -/
def ofByte (byte : UInt8) : Text :=
  ['%', (Nat.digitChar (byte.toNat / 16)).toUpper, (Nat.digitChar (byte.toNat % 16)).toUpper]

/-- A text with the characters that are not kept in percent notation. -/
def encode (kept : Char → Bool) (text : Text) : Text :=
  text.flatMap fun c => if kept c then [c] else (String.utf8EncodeChar c).flatMap ofByte

/-- The bytes that a text in percent notation stands for. -/
def decode : Text → Bytes
  | [] => []
  | '%' :: high :: low :: rest =>
      match Text.hexDigit? high, Text.hexDigit? low with
      | some high, some low => UInt8.ofNat (16 * high + low) :: decode rest
      | _, _ => String.utf8EncodeChar '%' ++ decode (high :: low :: rest)
  | c :: rest => String.utf8EncodeChar c ++ decode rest
termination_by text => text.length

/-! ## Forms -/

/-- A character that is kept in the values of a form. -/
def isFormChar (c : Char) : Bool := c.isAlphanum || ['*', '-', '.', '_'].elem c

def encodeForm (text : Text) : Text :=
  text.flatMap fun c => if c == ' ' then ['+'] else encode isFormChar [c]

def decodeForm (text : Text) : Text :=
  Utf8.decodeLossy (decode (text.map fun c => if c == '+' then ' ' else c))

def ofFields (fields : List (Text × Text)) : Text :=
  Text.join ['&'] (fields.map fun field => encodeForm field.1 ++ ['='] ++ encodeForm field.2)

/-- The names and values of a form. A name without an equals sign has an empty value. -/
def fields (form : Text) : List (Text × Text) :=
  ((Text.splitOn '&' form).filter fun field => !field.isEmpty).map fun field =>
    (decodeForm (field.takeWhile (· != '=')),
      decodeForm ((field.dropWhile (· != '=')).drop 1))

end ThoughtJournal.Percent
