import ThoughtJournal.Text.Basic

/-! # Quoted texts

A text between quotation marks in which no character is invisible: quotation marks and backslashes
follow a backslash, and characters that are not seen are written by letter or by code point.
-/

namespace ThoughtJournal.Text

/-- A character that leaves no mark of its own: a control or format character, a blank other than the
space, a mark that combines with the letter before it, or one of private use. -/
def isUnseen (c : Char) : Bool :=
  let code := c.toNat
  code < 0x20 || (0x7F ≤ code && code ≤ 0x9F) || (isBlank c && c != ' ') || code == 0xAD ||
    (0x300 ≤ code && code ≤ 0x36F) || code == 0x61C || code == 0x180E ||
    (0x200B ≤ code && code ≤ 0x200F) || (0x2028 ≤ code && code ≤ 0x202E) ||
    (0x2060 ≤ code && code ≤ 0x206F) || (0xE000 ≤ code && code ≤ 0xF8FF) ||
    (0xFE00 ≤ code && code ≤ 0xFE0F) || code == 0xFEFF || (0xFFF0 ≤ code && code ≤ 0xFFFB) ||
    (0xE0000 ≤ code)

/-- A character within quotation marks. -/
def quoteChar (c : Char) : Text :=
  if c == '"' || c == '\\' then ['\\', c]
  else if c == '\n' then ['\\', 'n']
  else if c == '\r' then ['\\', 'r']
  else if c == '\t' then ['\\', 't']
  else if c == '\x00' then ['\\', '0']
  else if isUnseen c then ['\\', 'u', '\x7b'] ++ Nat.toDigits 16 c.toNat ++ ['\x7d']
  else [c]

def quoted (text : Text) : Text := ['"'] ++ text.flatMap quoteChar ++ ['"']

end ThoughtJournal.Text
