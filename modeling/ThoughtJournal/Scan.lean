import ThoughtJournal.Category
import ThoughtJournal.Text.Basic

/-! # Scanning a journal

A journal is scanned line by line. A heading of the second level opens a section; five headings name
a category and make the scanner capture, every other one makes it skip. In a captured section each
bullet begins a new piece, lines without a bullet continue the piece before them, checklist items are
passed over, and a rule of three dashes ends the capturing. Lines of HTML comments are invisible.
-/

namespace ThoughtJournal.Scan

/-- A captured piece of a journal. -/
structure Piece where
  content : Text
  category : Category
deriving DecidableEq, Repr

/-- What the scanner knows between two lines: the category of the section, the lines of the piece
that is being collected, whether a comment is open, and whether the section is captured. -/
structure State where
  category : Category
  buffer : List Text
  inComment : Bool
  capturing : Bool
deriving DecidableEq, Repr

/-- The state before the first line. -/
def State.start : State := ⟨.fallback, [], false, false⟩

/-! ## Kinds of lines -/

def commentOpening : Text := ['<', '!', '-', '-']

def commentClosing : Text := ['-', '-', '>']

def headingLead : Text := ['#', '#', ' ']

def ruleLead : Text := ['-', '-', '-']

def openItemLead : Text := ['-', ' ', '[', ' ', ']']

def doneItemLead : Text := ['-', ' ', '[', 'x', ']']

def bulletLead : Text := ['-']

/-- The category that a trimmed heading gives to its section. -/
def sectionCategory? (heading : Text) : Option Category :=
  if heading = headingLead ++ ['P', 'r', 'o', 'j', 'e', 'c', 't'] then some .project
  else if heading = headingLead ++ ['A', 'r', 'e', 'a'] then some .area
  else if heading = headingLead ++ ['R', 'e', 's', 'o', 'u', 'r', 'c', 'e'] then some .resource
  else if heading = headingLead ++ ['T', 'h', 'o', 'u', 'g', 'h', 't'] then some .resource
  else if heading = headingLead ++ ['A', 'r', 'c', 'h', 'i', 'v', 'e'] then some .archive
  else none

def isHeading (trimmed : Text) : Bool := headingLead.isPrefixOf trimmed

def isRule (trimmed : Text) : Bool := ruleLead.isPrefixOf trimmed

def isChecklistItem (trimmed : Text) : Bool :=
  openItemLead.isPrefixOf trimmed || doneItemLead.isPrefixOf trimmed

def isBullet (trimmed : Text) : Bool := bulletLead.isPrefixOf trimmed

/-- A trimmed line without its bullet, which is a dash with at most one space after it. -/
def withoutBullet : Text → Text
  | '-' :: ' ' :: rest => rest
  | '-' :: rest => rest
  | trimmed => trimmed

/-! ## Pieces -/

/-- A text without the dash and the space at its start. -/
def withoutDashSpace : Text → Text
  | '-' :: ' ' :: rest => rest
  | text => text

/-- The content of a piece: its lines joined and trimmed, less a bullet that is left at the start.
A piece that comes down to nothing, a dash or a star has no content. -/
def content? (buffer : List Text) : Option Text :=
  let joined := Text.trim (Text.join ['\n'] buffer)
  let content := if joined = ['-'] then [] else Text.trim (withoutDashSpace joined)
  if content.isEmpty || content = ['*'] then none else some content

/-- The piece that is being collected, if it has any content. -/
def State.piece? (state : State) : Option Piece :=
  (content? state.buffer).map fun content => ⟨content, state.category⟩

/-- The state with nothing collected. -/
def State.cleared (state : State) : State := { state with buffer := [] }

/-! ## The scanner -/

/-- Reads a heading, which ends the piece before it and decides how its section is read. -/
def State.readHeading (state : State) (trimmed : Text) : State × Option Piece :=
  let piece := if state.capturing then state.piece? else none
  let state := if state.capturing then state.cleared else state
  match sectionCategory? trimmed with
  | some category => ({ state with category, capturing := true }, piece)
  | none => ({ state with capturing := false }, piece)

/-- Reads a line of a captured section that is neither a heading nor a rule nor a checklist item. A
bullet ends the piece before it. -/
def State.readNote (state : State) (trimmed : Text) : State × Option Piece :=
  let ends := isBullet trimmed && !state.buffer.isEmpty
  let piece := if ends then state.piece? else none
  let state := if ends then state.cleared else state
  let note := withoutBullet trimmed
  (if note.isEmpty then state else { state with buffer := state.buffer ++ [note] }, piece)

/-- Reads one line and gives the piece that it ends. -/
def State.step (state : State) (line : Text) : State × Option Piece :=
  let trimmed := Text.trim line
  if state.inComment || Text.occursIn commentOpening line then
    ({ state with inComment := !Text.occursIn commentClosing line }, none)
  else if isHeading trimmed then state.readHeading trimmed
  else if !state.capturing then (state, none)
  else if isRule trimmed then ({ state.cleared with capturing := false }, state.piece?)
  else if isChecklistItem trimmed then (state, none)
  else state.readNote trimmed

/-- The piece that the end of the journal ends. -/
def State.finish (state : State) : Option Piece := state.piece?

/-- The pieces that the remaining lines end, the last of them ended by the end of the journal. -/
def State.run (state : State) : List Text → List Piece
  | [] => state.finish.toList
  | line :: rest =>
      let next := state.step line
      next.2.toList ++ next.1.run rest

/-- The pieces of a journal in order. -/
def pieces (body : Text) : List Piece := State.start.run (Text.lines body)

theorem State.run_nil (state : State) : state.run [] = state.finish.toList := rfl

theorem State.run_cons (state : State) (line : Text) (rest : List Text) :
    state.run (line :: rest) = (state.step line).2.toList ++ (state.step line).1.run rest := rfl

@[simp] theorem content?_nil : content? [] = none := rfl

end ThoughtJournal.Scan
