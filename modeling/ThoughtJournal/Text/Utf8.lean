import ThoughtJournal.Text.Basic

/-! # UTF-8

Texts as byte sequences and back. Reading goes byte by byte: the first byte of a character fixes how
many bytes follow and in which range the next one lies, and a byte that does not fit ends the
unfinished character and is read again as a first byte. So a malformed sequence is cut into the
longest pieces that could have begun a character, and each piece is reported once.
-/

namespace ThoughtJournal

abbrev Bytes := List UInt8

namespace Utf8

/-- A character of which the first bytes are read: how many bytes are still to come, the range of
the next one, and the value read so far. -/
structure Pending where
  remaining : Nat
  low : Nat
  high : Nat
  value : Nat
deriving DecidableEq, Repr

/-- What a byte at the start of a character says about it. -/
inductive Lead where
  /-- The byte is a whole character. -/
  | single (value : Nat)
  /-- More bytes belong to the character. -/
  | open (pending : Pending)
  /-- No character starts with the byte. -/
  | none
deriving DecidableEq, Repr

/-- The role of a byte at the start of a character. -/
def lead (byte : Nat) : Lead :=
  if byte < 0x80 then .single byte
  else if byte < 0xC2 then .none
  else if byte < 0xE0 then .open ⟨1, 0x80, 0xBF, byte - 0xC0⟩
  else if byte == 0xE0 then .open ⟨2, 0xA0, 0xBF, 0⟩
  else if byte == 0xED then .open ⟨2, 0x80, 0x9F, 0xD⟩
  else if byte < 0xF0 then .open ⟨2, 0x80, 0xBF, byte - 0xE0⟩
  else if byte == 0xF0 then .open ⟨3, 0x90, 0xBF, 0⟩
  else if byte < 0xF4 then .open ⟨3, 0x80, 0xBF, byte - 0xF0⟩
  else if byte == 0xF4 then .open ⟨3, 0x80, 0x8F, 4⟩
  else .none

/-- The characters of a byte sequence, with `none` for every malformed piece. -/
def pieces : Option Pending → Bytes → List (Option Char)
  | none, [] => []
  | some _, [] => [none]
  | pending, byte :: rest =>
      let code := byte.toNat
      let fresh (malformed : List (Option Char)) : List (Option Char) :=
        match lead code with
        | .single value => malformed ++ some (Char.ofNat value) :: pieces none rest
        | .open next => malformed ++ pieces (some next) rest
        | .none => malformed ++ none :: pieces none rest
      match pending with
      | none => fresh []
      | some unfinished =>
          if unfinished.low ≤ code && code ≤ unfinished.high then
            let value := 64 * unfinished.value + (code - 0x80)
            if unfinished.remaining ≤ 1 then some (Char.ofNat value) :: pieces none rest
            else pieces (some ⟨unfinished.remaining - 1, 0x80, 0xBF, value⟩) rest
          else fresh [none]

/-- The text that a byte sequence denotes, with U+FFFD in the place of every malformed piece. -/
def decodeLossy (bytes : Bytes) : Text :=
  (pieces none bytes).map fun piece => piece.getD (Char.ofNat 0xFFFD)

/-- The text that a byte sequence denotes, if it is well-formed. -/
def decode? (bytes : Bytes) : Option Text := (pieces none bytes).mapM id

/-- Where a byte sequence is malformed first: the index of the malformed piece, and its length unless
the end of the sequence cuts it off. -/
structure Malformed where
  index : Nat
  length : Option Nat
deriving DecidableEq, Repr

def Malformed.message (malformed : Malformed) : Text :=
  (match malformed.length with
    | some length => "invalid utf-8 sequence of ".toList ++ Text.ofNat length ++ " bytes".toList
    | none => "incomplete utf-8 byte sequence".toList) ++
    " from index ".toList ++ Text.ofNat malformed.index

/-- The first malformed place of a byte sequence of which whole characters are read up to an index, and
then so many bytes of an unfinished one. -/
def malformedFrom? (index read : Nat) : Option Pending → Bytes → Option Malformed
  | none, [] => none
  | some _, [] => some ⟨index, none⟩
  | none, byte :: rest =>
      match lead byte.toNat with
      | .single _ => malformedFrom? (index + 1) 0 none rest
      | .open next => malformedFrom? index 1 (some next) rest
      | .none => some ⟨index, some 1⟩
  | some unfinished, byte :: rest =>
      let code := byte.toNat
      if unfinished.low ≤ code && code ≤ unfinished.high then
        if unfinished.remaining ≤ 1 then malformedFrom? (index + read + 1) 0 none rest
        else malformedFrom? index (read + 1) (some ⟨unfinished.remaining - 1, 0x80, 0xBF, 0⟩) rest
      else some ⟨index, some read⟩

/-- The first malformed place of a byte sequence. -/
def malformed? (bytes : Bytes) : Option Malformed := malformedFrom? 0 0 none bytes

/-- The text that a byte sequence denotes, or where it is malformed. -/
def read (bytes : Bytes) : Except Malformed Text :=
  match malformed? bytes with
  | some malformed => .error malformed
  | none => .ok (decodeLossy bytes)

def encode (text : Text) : Bytes := text.flatMap String.utf8EncodeChar

end Utf8

end ThoughtJournal
