import ThoughtJournal.Json.Value

/-! # Printing JSON

Documents are printed over several lines: two spaces of indentation for every level, one item or
member on a line, and nothing between the brackets of an empty array or object. In strings only the
quote, the backslash and the control characters below U+0020 are escaped.
-/

namespace ThoughtJournal.Json

/-- The printed form of a character inside a string. -/
def printChar (c : Char) : Text :=
  if c == '"' then ['\\', '"']
  else if c == '\\' then ['\\', '\\']
  else if c == '\x08' then ['\\', 'b']
  else if c == '\x0c' then ['\\', 'f']
  else if c == '\n' then ['\\', 'n']
  else if c == '\r' then ['\\', 'r']
  else if c == '\t' then ['\\', 't']
  else if c.toNat < 0x20 then
    ['\\', 'u', '0', '0', Nat.digitChar (c.toNat / 16), Nat.digitChar (c.toNat % 16)]
  else [c]

/-- A text in quotes. A string that denotes no text is printed as the replacement character. -/
def printString (text : Option Text) : Text :=
  '"' :: ((text.getD [Char.ofNat 0xFFFD]).flatMap printChar ++ ['"'])

def printNumber (number : JsonNumber) : Text :=
  (if number.negative then ['-'] else []) ++ Text.ofNat number.whole ++
    (if number.fraction.isEmpty then []
      else '.' :: number.fraction.map Nat.digitChar) ++
    match number.exponent with
    | none => []
    | some exponent => 'e' :: Text.ofInt exponent

def newLine (level : Nat) : Text := '\n' :: List.replicate (2 * level) ' '

mutual

/-- A document whose first line begins at the given level of indentation. -/
def print (level : Nat) : Json → Text
  | .null => ['n', 'u', 'l', 'l']
  | .bool true => ['t', 'r', 'u', 'e']
  | .bool false => ['f', 'a', 'l', 's', 'e']
  | .number literal => printNumber literal
  | .string text => printString text
  | .array [] => ['[', ']']
  | .array (item :: rest) =>
      '[' :: (newLine (level + 1) ++ item.print (level + 1) ++ printItems (level + 1) rest ++
        newLine level ++ [']'])
  | .object [] => ['\x7b', '\x7d']
  | .object ((name, value) :: rest) =>
      '\x7b' :: (newLine (level + 1) ++ printString name ++ [':', ' '] ++ value.print (level + 1) ++
        printMembers (level + 1) rest ++ newLine level ++ ['\x7d'])

def printItems (level : Nat) : List Json → Text
  | [] => []
  | item :: rest => ',' :: (newLine level ++ item.print level ++ printItems level rest)

def printMembers (level : Nat) : List (Option Text × Json) → Text
  | [] => []
  | (name, value) :: rest =>
      ',' :: (newLine level ++ printString name ++ [':', ' '] ++ value.print level ++
        printMembers level rest)

end

/-- A document over several lines. -/
def pretty (document : Json) : Text := document.print 0

end ThoughtJournal.Json
