import ThoughtJournal.Text.Basic

/-! # Failures

A failure is a chain of texts: what could not be done, why, and so on down to the first cause.
-/

namespace ThoughtJournal

/-- A chain of causes, the outermost text first. -/
structure Failure where
  outermost : Text
  causes : List Text
deriving DecidableEq, Repr

namespace Failure

def of (text : Text) : Failure := ⟨text, []⟩

/-- All texts of a failure, the outermost first. -/
def chain (failure : Failure) : List Text := failure.outermost :: failure.causes

/-- A failure as the cause of a wider one. -/
def within (context : Text) (failure : Failure) : Failure := ⟨context, failure.chain⟩

def message (failure : Failure) : Text := Text.join [':', ' '] failure.chain

/-- The failure with a given chain of texts, if there is any text. -/
def ofChain? : List Text → Option Failure
  | [] => none
  | outermost :: causes => some ⟨outermost, causes⟩

/-- A failure is determined by the chain of its texts. -/
@[simp] theorem ofChain?_chain (failure : Failure) : ofChain? failure.chain = some failure := rfl

end Failure

end ThoughtJournal
