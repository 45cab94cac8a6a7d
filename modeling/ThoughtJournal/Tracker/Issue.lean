import ThoughtJournal.Journal
import ThoughtJournal.Json.Reader

/-! # Issues as JSON

A tracker describes its issues as JSON: the command line program gives numbers and titles, the REST
interface also bodies and a mark on pull requests. Members that mean nothing are passed over, and a
member that means something must not occur twice. An issue may also be an array of its values.
-/

namespace ThoughtJournal.Tracker

/-- An issue of a tracker. -/
structure Issue where
  number : Int
  title : Text
  body : Option Text
  isPullRequest : Bool
deriving DecidableEq, Repr

namespace Issue

/-- The number of arrays and objects that may be nested in a document of which all values matter. -/
def nestingLimit : Nat := 127

/-- The journal of an issue. Blanks around its title do not count. -/
def journal (issue : Issue) : Journal := ⟨issue.number, Text.trim issue.title⟩

def numberName : Text := "number".toList

def titleName : Text := "title".toList

def bodyName : Text := "body".toList

/-- The name of the member that marks a pull request. -/
def pullRequestName : Text := "pull_request".toList

/-- The value of the member with a given name, if it occurs once, and nothing inside if it does not
occur. -/
def member? (members : List (Option Text × Json)) (name : Text) : Option (Option Json) :=
  match Json.valuesOf name members with
  | [] => some none
  | [value] => some (some value)
  | _ => none

def ofNumberTitle? (number title : Json) : Option Issue :=
  match number.int64?, title.text? with
  | some number, some title => some ⟨number, title, none, false⟩
  | _, _ => none

/-- The issue with a number and a title among its members or items. -/
def ofListing? : Json → Option Issue
  | .array [number, title] => ofNumberTitle? number title
  | .object members =>
      if members.all fun entry => entry.1.isSome then
        match member? members numberName, member? members titleName with
        | some (some number), some (some title) => ofNumberTitle? number title
        | _, _ => none
      else none
  | _ => none

/-- A body that may be missing or null. -/
def ofBody? : Option Json → Option (Option Text)
  | none => some none
  | some .null => some none
  | some value => value.text?.map some

/-- Whether a mark on pull requests is there. A mark that is null is none, and every other one must
be sound down to the given depth. -/
def ofPullRequest? (depth : Nat) : Option Json → Option Bool
  | none => some false
  | some .null => some false
  | some value => if value.isSound depth then some true else none

def ofValues? (depth : Nat) (number title : Json) (body pullRequest : Option Json) :
    Option Issue :=
  match ofNumberTitle? number title, ofBody? body, ofPullRequest? depth pullRequest with
  | some issue, some body, some isPullRequest => some { issue with body, isPullRequest }
  | _, _, _ => none

/-- The issue that a document describes, whose values are nested at most `depth` deep. -/
def ofJson? (depth : Nat) : Json → Option Issue
  | .array [number, title] => ofValues? depth number title none none
  | .array [number, title, body] => ofValues? depth number title (some body) none
  | .array [number, title, body, pullRequest] =>
      ofValues? depth number title (some body) (some pullRequest)
  | .object members =>
      if members.all fun entry => entry.1.isSome then
        match member? members numberName, member? members titleName,
            member? members bodyName, member? members pullRequestName with
        | some (some number), some (some title), some body, some pullRequest =>
            ofValues? depth number title body pullRequest
        | _, _, _, _ => none
      else none
  | _ => none

/-- The items of an array, each read as an issue. -/
def listOf? (read : Json → Option Issue) : Json → Option (List Issue)
  | .array items => items.mapM read
  | _ => none

def readListing? (text : Text) : Option (List Issue) := (Json.read text).bind (listOf? ofListing?)

def readList? (text : Text) : Option (List Issue) :=
  (Json.read text).bind (listOf? (ofJson? (nestingLimit - 2)))

def read? (text : Text) : Option Issue := (Json.read text).bind (ofJson? (nestingLimit - 1))

/-- The journals among issues: those that are not pull requests. -/
def journals (issues : List Issue) : List Journal :=
  (issues.filter fun issue => !issue.isPullRequest).map journal

end Issue

end ThoughtJournal.Tracker
