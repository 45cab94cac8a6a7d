import ThoughtJournal.Decimal
import ThoughtJournal.Text.Basic

/-! # JSON values

A JSON document as a tree. Numbers keep the form in which they were written, because an integer is
accepted only where no point and no exponent was used. A string may contain half of a surrogate pair;
such a string denotes no text.
-/

namespace ThoughtJournal

/-- A number as it is written: the digits before the point, those after it, and the exponent. -/
structure JsonNumber where
  negative : Bool
  whole : Nat
  fraction : List Nat
  exponent : Option Int
deriving DecidableEq, Repr

namespace JsonNumber

def ofInt (n : Int) : JsonNumber := ⟨decide (n < 0), n.natAbs, [], none⟩

/-- The integer that is written without a point and without an exponent. A negative zero is not an
integer. -/
def integer? (number : JsonNumber) : Option Int :=
  if !number.fraction.isEmpty || number.exponent.isSome then none
  else if number.negative then
    if number.whole == 0 then none else some (-(number.whole : Int))
  else some (number.whole : Int)

/-- The integer that is written, if it has at most 63 bits and a sign. -/
def int64? (number : JsonNumber) : Option Int :=
  match number.integer? with
  | some n => if -9223372036854775808 ≤ n ∧ n ≤ 9223372036854775807 then some n else none
  | none => none

/-- Whether the number, rounded to double precision, is finite. -/
def isFinite (number : JsonNumber) : Bool :=
  let digits := number.fraction.foldl (fun value digit => 10 * value + digit) number.whole
  Decimal.isFinite digits (number.exponent.getD 0 - number.fraction.length)

end JsonNumber

/-- A JSON document. A string is `none` when it denotes no text. The members of an object are kept in
their order, also those with the same name. -/
inductive Json where
  | null
  | bool (value : Bool)
  | number (number : JsonNumber)
  | string (text : Option Text)
  | array (items : List Json)
  | object (members : List (Option Text × Json))
deriving Inhabited

namespace Json

def text (text : Text) : Json := .string (some text)

def int (n : Int) : Json := .number (JsonNumber.ofInt n)

def ofMembers (members : List (Text × Json)) : Json :=
  .object (members.map fun entry => (some entry.1, entry.2))

mutual

/-- Whether all strings denote texts, all numbers are finite, and at most `depth` arrays and objects
are nested. -/
def isSound (depth : Nat) : Json → Bool
  | .null => true
  | .bool _ => true
  | .number literal => literal.isFinite
  | .string text => text.isSome
  | .array items =>
      match depth with
      | 0 => false
      | inner + 1 => areSound inner items
  | .object members =>
      match depth with
      | 0 => false
      | inner + 1 => areSoundMembers inner members

def areSound (depth : Nat) : List Json → Bool
  | [] => true
  | item :: rest => item.isSound depth && areSound depth rest

/-- Whether every member is sound and has a name. -/
def areSoundMembers (depth : Nat) : List (Option Text × Json) → Bool
  | [] => true
  | (name, value) :: rest =>
      name.isSome && value.isSound depth && areSoundMembers depth rest

end

def valuesOf (name : Text) (members : List (Option Text × Json)) : List Json :=
  (members.filter fun entry => entry.1 == some name).map Prod.snd

def int64? : Json → Option Int
  | .number literal => literal.int64?
  | _ => none

def text? : Json → Option Text
  | .string text => text
  | _ => none

@[simp] theorem text?_text (t : Text) : (text t).text? = some t := rfl

end Json

end ThoughtJournal
