import ThoughtJournal.Text.Lowercase
import ThoughtJournal.Url.Basic
import ThoughtJournal.Url.Numeric
import ThoughtJournal.Url.Punycode

/-! # Hosts

The host of an address by the rules of the web is eight words in brackets, four bytes, or a name. A name
is read in percent notation and brought into small letters, and each of its labels that has other
characters than those of ASCII is written in letters, digits and dashes. Other hosts are kept as they
are.
-/

namespace ThoughtJournal.Url

/-! ## Characters of names -/

/-- A character that adds nothing to a name. -/
def isIgnored (c : Char) : Bool :=
  let code := c.toNat
  code == 0xAD || code == 0x34F || (0x180B ≤ code && code ≤ 0x180F) || code == 0x200B ||
    code == 0x2060 || code == 0x2064 || (0xFE00 ≤ code && code ≤ 0xFE0F) || code == 0xFEFF

/-- The character of ASCII that a character stands for: wide forms stand for the narrow ones, and so do
the dots of other scripts. -/
def narrow (c : Char) : Char :=
  let code := c.toNat
  if code == 0x3002 || code == 0xFF61 then '.'
  else if 0xFF01 ≤ code && code ≤ 0xFF5E then Char.ofNat (code - 0xFEE0)
  else c

/-- The characters of a name that a character stands for. -/
def mapNameChar (c : Char) : Text := if isIgnored c then [] else Text.lower [narrow c]

/-- A character of ASCII that no name has. -/
def isForbidden (c : Char) : Bool :=
  c.toNat ≤ 0x20 || c.toNat == 0x7F ||
    ['#', '/', ':', '<', '>', '?', '@', '[', '\\', ']', '^', '|', '%'].elem c

/-- A mark that combines with the letter before it. -/
def isCombining (c : Char) : Bool := 0x300 ≤ c.toNat && c.toNat ≤ 0x36F

/-- A character beyond ASCII that no name has: blanks, controls, characters of private use and those
that are none. -/
def isDisallowed (c : Char) : Bool :=
  let code := c.toNat
  (0x80 ≤ code && code ≤ 0x9F) || (0x80 ≤ code && Text.isBlank c) ||
    (0x200C ≤ code && code ≤ 0x200F) || (0x2028 ≤ code && code ≤ 0x202E) ||
    (0x2061 ≤ code && code ≤ 0x206F) || (0xE000 ≤ code && code ≤ 0xF8FF) ||
    (0xFDD0 ≤ code && code ≤ 0xFDEF) || (0xFFF0 ≤ code && code ≤ 0xFFFF) ||
    0xE0000 ≤ code

/-! ## Names -/

/-- Whether a label is in normal form and has only characters that names have. -/
def isLabel (label : Text) : Bool :=
  (label.all fun c => !isForbidden c && !isDisallowed c && mapNameChar c == [c]) &&
    !label.head?.any isCombining

/-- The start of labels that are written in letters, digits and dashes. -/
def encodedStart : Text := "xn--".toList

/-- Whether a label that is written in letters, digits and dashes stands for one that has to be. -/
def isEncodedLabel (digits : Text) : Bool :=
  match Punycode.decode? digits with
  | some label => isLabel label && label.any fun c => decide (0x80 ≤ c.toNat)
  | none => false

def encodeLabel? (label : Text) : Option Text :=
  if encodedStart.isPrefixOf label then
    if isEncodedLabel (label.drop encodedStart.length) then some label else none
  else if isLabel label then
    if label.all fun c => decide (c.toNat < 0x80) then some label
    else some (encodedStart ++ Punycode.encode label)
  else none

def encodeName? (name : Text) : Option Text :=
  ((Text.splitOn '.' (name.flatMap mapNameChar)).mapM encodeLabel?).map (Text.join ['.'])

/-! ## Hosts -/

/-- The words in brackets, if the text ends with a bracket. -/
def readBracketed (text : Text) : Except Fault Text :=
  if text.getLast? = some ']' then
    match readEightWords? text.dropLast with
    | some words => .ok (['['] ++ eightWordsText words ++ [']'])
    | none => .error .invalidEightWords
  else .error .invalidEightWords

/-- A host that is a name or has four bytes. -/
def readDomain (text : Text) : Except Fault Text :=
  match (Utf8.decode? (Percent.decode text)).bind encodeName? with
  | none => .error .invalidName
  | some name =>
      if name.isEmpty then .error .emptyHost
      else if endsInNumber name then
        match readFourBytes? name with
        | some host => .ok host
        | none => .error .invalidFourBytes
      else .ok name

def readWebHost : Text → Except Fault Text
  | [] => .error .emptyHost
  | '[' :: rest => readBracketed rest
  | text => readDomain text

def isPrinted (c : Char) : Bool := 0x20 ≤ c.toNat && c.toNat < 0x7F

/-- A host by other rules. -/
def readOtherHost : Text → Except Fault Text
  | '[' :: rest => readBracketed rest
  | text =>
      let forbidden : Text :=
        ['\x00', ' ', '#', '/', ':', '<', '>', '?', '@', '[', '\\', ']', '^', '|']
      if text.any forbidden.elem then .error .invalidCharacter
      else .ok (Percent.encode isPrinted text)

end ThoughtJournal.Url
