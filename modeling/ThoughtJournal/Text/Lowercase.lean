import ThoughtJournal.Text.CaseTable

/-! # Lower case

Lower-casing of a whole text by the full Unicode rule. Every character is replaced on its own, with
two exceptions: the capital I with a dot above becomes two characters, and a capital sigma becomes
the final form at the end of a word and the usual form elsewhere.
-/

namespace ThoughtJournal.Text

/-- The lower-case partner of a character that has exactly one; the character itself otherwise. -/
def simpleLower (c : Char) : Char :=
  let code := c.toNat
  if code < 0x80 then
    if 0x41 ≤ code && code ≤ 0x5A then Char.ofNat (code + 0x20) else c
  else ((caseRuns.findSome? fun run => run.lower? code).map Char.ofNat).getD c

/-- Whether the first character that is not case-ignorable is cased. -/
def touchesCased (text : Text) : Bool :=
  match text.dropWhile isCaseIgnorable with
  | [] => false
  | c :: _ => isCased c

/-- A sigma ends its word when a cased letter comes before it and none comes after it. The text
before the sigma is given from its end. -/
def endsWord (reversedBefore rest : Text) : Bool :=
  touchesCased reversedBefore && !touchesCased rest

/-- The lower-case form of a character between two texts, the first given from its end. -/
def lowerAt (reversedBefore : Text) (c : Char) (rest : Text) : Text :=
  if c.toNat == 0x3A3 then
    [Char.ofNat (if endsWord reversedBefore rest then 0x3C2 else 0x3C3)]
  else if c.toNat == 0x130 then ['i', Char.ofNat 0x307]
  else [simpleLower c]

/-- The lower-case form of a text that follows another one, which is given from its end. -/
def lowerFrom (reversedBefore : Text) : Text → Text
  | [] => []
  | c :: rest => lowerAt reversedBefore c rest ++ lowerFrom (c :: reversedBefore) rest

def lower (text : Text) : Text := lowerFrom [] text

end ThoughtJournal.Text
