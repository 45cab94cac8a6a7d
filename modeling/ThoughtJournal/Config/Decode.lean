import ThoughtJournal.Config.Basic
import ThoughtJournal.Files
import ThoughtJournal.Toml.Reader

/-! # Configurations as TOML

A configuration is read off a TOML document section by section. Keys that mean nothing are passed
over, keys that are missing take their standard values, and a value of another type than expected is
refused. A section may also be written as an array of its values in a fixed order.
-/

namespace ThoughtJournal.Config

open Toml (Value Entries)

/-- The values of a section, by name or by position. -/
inductive Section where
  | named (entries : Entries)
  | positional (items : List Value)

namespace Section

/-- The section that a value is. A date has no value of any name. -/
def ofValue : Value → Option Section
  | .table _ entries => some (.named entries)
  | .array items => some (.positional items)
  | .tables elements => some (.positional (elements.map (.table .heading)))
  | .dateTime => some (.named [])
  | _ => none

/-- The value with a given name, or at a given position. -/
def get? (values : Section) (position : Nat) (name : String) : Option Value :=
  match values with
  | .named entries => Entries.get? entries name.toList
  | .positional items => items[position]?

/-- Reads the value with a given name or position; a missing value is replaced. -/
def read {α : Type} (values : Section) (position : Nat) (name : String) (standard : α)
    (decode : Value → Option α) : Option α :=
  match values.get? position name with
  | none => some standard
  | some value => decode value

end Section

def decodeText : Value → Option Text
  | .string text => some text
  | _ => none

/-- A number that is not negative. -/
def decodeNat : Value → Option Nat
  | .integer n => if 0 ≤ n then some n.toNat else none
  | _ => none

/-- The name of a transport, or a table of that name without contents. -/
def decodeTransport : Value → Option Transport
  | .string name => Transport.ofName? name
  | .table _ [(name, .table _ [])] => Transport.ofName? name
  | .table _ [(name, .array [])] => Transport.ofName? name
  | _ => none

def decodeTexts : Value → Option (List Text)
  | .array items => items.mapM decodeText
  | _ => none

/-- Lists of texts under keys. -/
def decodeKeywords : Value → Option (Option (Dictionary (List Text)))
  | .table _ entries =>
      (entries.mapM fun entry => (decodeTexts entry.2).map fun texts => (entry.1, texts)).map
        fun entries => some (Dictionary.ofList entries)
  | _ => none

/-- The section of the database, which must name a path. -/
def decodeDatabase (value : Value) : Option DatabaseSettings :=
  match Section.ofValue value with
  | none => none
  | some values =>
      match (values.get? 0 "path").bind decodeText,
          values.read 1 "acquire_timeout_secs" defaultAcquireTimeout decodeNat with
      | some path, some acquireTimeout => some ⟨path, acquireTimeout⟩
      | _, _ => none

def decodeJournal (value : Value) : Option JournalSettings :=
  let standard := JournalSettings.standard
  match Section.ofValue value with
  | none => none
  | some values => do
      let repository ← values.read 0 "repo" standard.repository fun value =>
        (decodeText value).map some
      let label ← values.read 1 "label" standard.label decodeText
      let limit ← values.read 2 "limit" standard.limit decodeNat
      let transport ← values.read 3 "source" standard.transport decodeTransport
      let timeout ← values.read 4 "timeout_secs" standard.timeout decodeNat
      let programPath ← values.read 5 "gh_path" standard.programPath decodeText
      some { repository, label, limit, transport, timeout, programPath }

def decodeRest (value : Value) : Option RestSettings :=
  let standard := RestSettings.standard
  match Section.ofValue value with
  | none => none
  | some values => do
      let url ← values.read 0 "api_url" standard.url decodeText
      let tokenVariable ← values.read 1 "token_env" standard.tokenVariable decodeText
      some { url, tokenVariable }

def decodeTagger (value : Value) : Option (Option (Dictionary (List Text))) :=
  match Section.ofValue value with
  | none => none
  | some values => values.read 0 "keywords" none decodeKeywords

/-- The configuration of a document. There must be a section of the database. -/
def ofDocument (document : Entries) : Option Config := do
  let values := Section.named document
  let database ← (values.get? 0 "db").bind decodeDatabase
  let journal ← values.read 1 "journal" JournalSettings.standard decodeJournal
  let rest ← values.read 2 "github" RestSettings.standard decodeRest
  let keywords ← values.read 3 "tagger" none decodeTagger
  some { database, journal, rest, keywords }

/-- The configuration that a text denotes, whether its values are accepted or not. -/
def decode? (text : Text) : Option Config := (Toml.read text).bind ofDocument

/-- The configuration that a text denotes, if its values are accepted. -/
def parse (text : Text) : Except Fault Config :=
  match decode? text with
  | none => .error .malformed
  | some config => config.validate

/-- The configuration in the file under a path, if its values are accepted. -/
def load (files : Files) (path : Text) : Except Fault Config :=
  match files.readText path with
  | .error fault => .error (.unreadable path fault.message)
  | .ok text => parse text

end ThoughtJournal.Config
