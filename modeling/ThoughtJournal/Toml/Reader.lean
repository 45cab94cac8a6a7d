import ThoughtJournal.Toml.Scalar

/-! # Reading TOML

Keys, values, statements and whole documents. Arrays and inline tables nest less than 80 deep, and a
dotted key has fewer than 80 parts. Values nest, so their readers carry a bound on the remaining steps
that is computed from the length of the text and never exhausted.
-/

namespace ThoughtJournal.Toml

/-- The number of levels that arrays and inline tables, and the parts of dotted keys, must stay
below. -/
def nestingLimit : Nat := 80

def isKeyChar (c : Char) : Bool := c.isAlphanum || c == '-' || c == '_'

def readSimpleKey (text : Text) : Option (Text × Text) :=
  match text with
  | '"' :: rest => readBasic rest
  | '\'' :: rest => readLiteral rest
  | _ =>
      let key := text.takeWhile isKeyChar
      if key.isEmpty then none else some (key, text.dropWhile isKeyChar)

/-- A dotted key of at most the given number of parts, with the blanks around it. -/
def readKey : Nat → Text → Option (Key × Text)
  | 0, _ => none
  | parts + 1, text =>
      match readSimpleKey (skipSpace text) with
      | none => none
      | some (part, rest) =>
          match skipSpace rest with
          | '.' :: rest =>
              (readKey parts rest).map fun result =>
                ({ result.1 with parents := part :: result.1.parents }, result.2)
          | rest => some (⟨[], part⟩, rest)

mutual

/-- A value that is nested in fewer than `depth` arrays and inline tables more, in at most the given
number of steps. -/
def readValue : (steps : Nat) → (depth : Nat) → Text → Option (Value × Text)
  | 0, _, _ => none
  | steps + 1, depth, text =>
      match text with
      | [] => none
      | '[' :: rest =>
          match depth with
          | 0 => none
          | inner + 1 => (readItems steps inner rest).map fun result => (.array result.1, result.2)
      | '\x7b' :: rest =>
          match depth with
          | 0 => none
          | inner + 1 =>
              match skipSpace rest with
              | '\x7d' :: rest => some (.table .inlined [], rest)
              | rest =>
                  match readPairs steps inner rest with
                  | none => none
                  | some (pairs, rest) =>
                      (Entries.ofAssignments pairs).map fun entries =>
                        (.table .inlined entries, rest)
      | 't' :: 'r' :: 'u' :: 'e' :: rest => some (.boolean true, rest)
      | 'f' :: 'a' :: 'l' :: 's' :: 'e' :: rest => some (.boolean false, rest)
      | c :: _ =>
          if c == '"' || c == '\'' then
            (readString text).map fun result => (.string result.1, result.2)
          else
            match readMoment text with
            | .read rest => some (.dateTime, rest)
            | .malformed => none
            | .other => readNumber text

/-- The items of an array after its opening bracket or after a comma. -/
def readItems : (steps : Nat) → (depth : Nat) → Text → Option (List Value × Text)
  | 0, _, _ => none
  | steps + 1, depth, text =>
      match skipGap false text with
      | none => none
      | some (']' :: rest) => some ([], rest)
      | some start =>
          match readValue steps depth start with
          | none => none
          | some (value, rest) =>
              match skipGap false rest with
              | some (',' :: rest) =>
                  (readItems steps depth rest).map fun result => (value :: result.1, result.2)
              | some (']' :: rest) => some ([value], rest)
              | _ => none

/-- The assignments of an inline table after its opening brace or after a comma. -/
def readPairs : (steps : Nat) → (depth : Nat) → Text → Option (List (Key × Value) × Text)
  | 0, _, _ => none
  | steps + 1, depth, text =>
      match readKey (nestingLimit - 1) text with
      | some (key, '=' :: rest) =>
          match readValue steps depth (skipSpace rest) with
          | none => none
          | some (value, rest) =>
              match skipSpace rest with
              | ',' :: rest =>
                  (readPairs steps depth rest).map fun result =>
                    ((key, value) :: result.1, result.2)
              | '\x7d' :: rest => some ([(key, value)], rest)
              | _ => none
      | _ => none

end

def readStatement (text : Text) : Option (Statement × Text) :=
  match text with
  | '[' :: '[' :: rest =>
      match readKey (nestingLimit - 1) rest with
      | some (key, ']' :: ']' :: rest) => (afterLine? rest).map fun rest => (.appendTable key, rest)
      | _ => none
  | '[' :: rest =>
      match readKey (nestingLimit - 1) rest with
      | some (key, ']' :: rest) => (afterLine? rest).map fun rest => (.openTable key, rest)
      | _ => none
  | _ =>
      match readKey (nestingLimit - 1) text with
      | some (key, '=' :: rest) =>
          match readValue (2 * rest.length + 2) (nestingLimit - 1) (skipSpace rest) with
          | some (value, rest) => (afterLine? rest).map fun rest => (.assign key value, rest)
          | none => none
      | _ => none

/-- The statements of a text, at most the given number of lines. -/
def readStatements : (lines : Nat) → Text → Option (List Statement)
  | 0, text => if (skipSpace text).isEmpty then some [] else none
  | lines + 1, text =>
      match skipSpace text with
      | [] => some []
      | start =>
          match skipComment start with
          | [] => some []
          | rest =>
              match afterNewline? rest with
              | some rest => readStatements lines rest
              | none =>
                  match readStatement start with
                  | none => none
                  | some (statement, rest) =>
                      (readStatements lines rest).map (statement :: ·)

/-- A text without the byte order mark at its start. -/
def skipMark : Text → Text
  | c :: rest => if c.toNat == 0xFEFF then rest else c :: rest
  | [] => []

/-- The document that a text is. -/
def read (text : Text) : Option Entries :=
  let text := skipMark text
  match readStatements (text.length + 1) text with
  | some statements => ofStatements statements
  | none => none

end ThoughtJournal.Toml
