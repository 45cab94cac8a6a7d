import ThoughtJournal.Text.Basic

/-! # Labels in letters, digits and dashes

A label with other characters is written as its letters, digits and dashes, a dash, and digits in base
36 that tell where the other characters go, in ascending order of their codes. Each of them is told by
its distance from the one before, counted in steps through all places and codes, in digits of variable
weight: the bias of a distance follows from the distances so far.
-/

namespace ThoughtJournal.Url.Punycode

def base : Nat := 36

/-- The first code that is told by digits. -/
def firstCode : Nat := 0x80

def firstBias : Nat := 72

/-- The least digit at a position that is not the last of a distance. -/
def threshold (bias position : Nat) : Nat := min 26 (max 1 (position - bias))

/-- A distance divided until it is small, and the positions that takes. -/
def shrink (distance : Nat) : Nat × Nat :=
  if 455 < distance then
    let rest := shrink (distance / 35)
    (rest.1, rest.2 + base)
  else (distance, 0)
termination_by distance
decreasing_by exact Nat.div_lt_self (by omega) (by decide)

/-- The bias after a distance, of which `first` tells that there was none before, in a label of so
many characters. -/
def adapt (distance length : Nat) (first : Bool) : Nat :=
  let halved := if first then distance / 700 else distance / 2
  let small := shrink (halved + halved / length)
  small.2 + base * small.1 / (small.1 + 38)

/-- A digit as a character: letters, then the figures. -/
def digitChar (digit : Nat) : Char :=
  if digit < 26 then Char.ofNat ('a'.toNat + digit) else Char.ofNat ('0'.toNat + (digit - 26))

def digit? (c : Char) : Option Nat :=
  if 'a' ≤ c ∧ c ≤ 'z' then some (c.toNat - 'a'.toNat)
  else if 'A' ≤ c ∧ c ≤ 'Z' then some (c.toNat - 'A'.toNat)
  else if '0' ≤ c ∧ c ≤ '9' then some (c.toNat - '0'.toNat + 26)
  else none

/-- The least digit that continues a distance is not zero. -/
theorem threshold_pos (bias position : Nat) : 0 < threshold bias position := by
  simp only [threshold]; omega

/-! ## Writing -/

def digits (bias position distance : Nat) : Text :=
  let least := threshold bias position
  if distance < least then [digitChar distance]
  else
    let unit := base - least
    digitChar (least + (distance - least) % unit) ::
      digits bias (position + base) ((distance - least) / unit)
termination_by distance
decreasing_by
  have positive := threshold_pos bias position
  have smaller := Nat.div_le_self (distance - threshold bias position) unit
  simp only [unit, least] at *
  omega

/-- What is written so far: the digits, the distance since the last character that was told, the bias,
and the number of characters that were told or stand for themselves. -/
structure Writer where
  written : Text
  distance : Nat
  bias : Nat
  told : Nat
deriving DecidableEq, Repr

/-- Tells a character of the label if it has the given code. -/
def Writer.step (code plain : Nat) (writer : Writer) (c : Char) : Writer :=
  if c.toNat < code then { writer with distance := writer.distance + 1 }
  else if c.toNat = code then
    { written := writer.written ++ digits writer.bias base writer.distance
      distance := 0
      bias := adapt writer.distance (writer.told + 1) (writer.told = plain)
      told := writer.told + 1 }
  else writer

/-- A code put into an ascending list of distinct codes. -/
def insertCode (code : Nat) : List Nat → List Nat
  | [] => [code]
  | head :: rest =>
      if code < head then code :: head :: rest
      else if code = head then head :: rest
      else head :: insertCode code rest

/-- The distinct codes that are told by digits, in ascending order. -/
def codes (label : Text) : List Nat :=
  ((label.map Char.toNat).filter fun code => decide (firstCode ≤ code)).foldr insertCode []

/-- Tells all characters with the given codes, where `next` is the code after the last one. -/
def writeCodes (label : Text) (plain next : Nat) (writer : Writer) : List Nat → Text
  | [] => writer.written
  | code :: rest =>
      let distance := writer.distance + (code - next) * (writer.told + 1)
      let after := label.foldl (Writer.step code plain) { writer with distance }
      writeCodes label plain (code + 1) { after with distance := after.distance + 1 } rest

def encode (label : Text) : Text :=
  let plain := label.filter fun c => decide (c.toNat < firstCode)
  let start := if plain.isEmpty then [] else plain ++ ['-']
  writeCodes label plain.length firstCode ⟨start, 0, firstBias, plain.length⟩ (codes label)

/-! ## Reading -/

/-- What is read so far: the characters, the place and the code of the next one, the place from which
its distance counts, and the weight and position of the next digit. -/
structure Reader where
  characters : Text
  place : Nat
  code : Nat
  origin : Nat
  weight : Nat
  position : Nat
  bias : Nat
deriving DecidableEq, Repr

/-- The reader after the characters that stand for themselves. -/
def Reader.start (characters : Text) : Reader :=
  ⟨characters, 0, firstCode, 0, 1, base, firstBias⟩

/-- The bound of places and codes. -/
def bound : Nat := Nat.pow 2 32

/-- Reads a digit. The last digit of a distance puts a character in. -/
def Reader.step (reader : Reader) (c : Char) : Option Reader :=
  match digit? c with
  | none => none
  | some digit =>
      let place := reader.place + digit * reader.weight
      let least := threshold reader.bias reader.position
      if bound ≤ place then none
      else if least ≤ digit then
        some { reader with
          place
          weight := reader.weight * (base - least)
          position := reader.position + base }
      else
        let length := reader.characters.length + 1
        let code := reader.code + place / length
        let index := place % length
        if code.isValidChar then
          some {
            characters :=
              reader.characters.take index ++ Char.ofNat code :: reader.characters.drop index
            place := index + 1
            code
            origin := index + 1
            weight := 1
            position := base
            bias := adapt (place - reader.origin) length (reader.origin = 0) }
        else none

/-- The label that a text in letters, digits and dashes stands for. -/
def decode? (text : Text) : Option Text :=
  let digits := (text.reverse.takeWhile (· != '-')).reverse
  let plain := (text.take (text.length - digits.length)).dropLast
  match digits.foldlM Reader.step (Reader.start plain) with
  | some reader => if reader.position = base then some reader.characters else none
  | none => none

end ThoughtJournal.Url.Punycode
