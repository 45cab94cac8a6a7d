import ThoughtJournal.Store.Basic

/-! # What a sync is asked and what it reports

The source of a sync is a tracker: a name, an index of journals and the bodies of the journals, each
of which can fail. A sync that reads its watermark and the index ends with a report; the failures of
single bodies and of single insertions are part of the report.
-/

namespace ThoughtJournal.Sync

/-- A tracker as a sync sees it. Bodies are asked for one after the other, and the answer may depend
on how many were asked for before. -/
structure Source where
  name : Text
  index : Except Failure (List Journal)
  body : (askedBefore : Nat) → (id : Int) → Except Failure Text

/-- How a sync is run. -/
structure Options where
  /-- Consider every listed journal, whatever is stored. -/
  full : Bool
  /-- Write nothing to the store. -/
  dryRun : Bool
  /-- The greatest number of journals to read. -/
  limit : Option Nat
deriving DecidableEq, Repr

/-- A selected journal whose body could not be fetched. -/
structure Skipped where
  id : Int
  title : Text
  reason : Text
deriving DecidableEq, Repr

/-- The account of a sync. -/
structure Report where
  watermark : Text
  journalsListed : Nat
  journalsSelected : Nat
  journalsIngested : Nat
  skipped : List Skipped
  thoughtsExtracted : Nat
  thoughtsInserted : Nat
  thoughtsDuplicate : Nat
  thoughtsFailed : Nat
  dryRun : Bool
  /-- The categories of the store after the sync, unless that query failed. -/
  stats : Option (List CategoryStats)
deriving DecidableEq, Repr

/-- Nothing was selected. -/
def Report.isUpToDate (report : Report) : Bool := report.journalsSelected == 0

/-- What keeps a sync from happening at all. -/
inductive Fault where
  /-- The store does not tell its watermark. -/
  | watermarkQuery (cause : Failure)
  /-- The source does not list its journals. -/
  | sourceIndex (source : Text) (cause : Failure)
deriving DecidableEq, Repr

def Fault.message : Fault → Text
  | .watermarkQuery cause => "failed to query latest entry date: ".toList ++ cause.message
  | .sourceIndex source cause =>
      "failed to fetch journal index from ".toList ++ source ++ [':', ' '] ++ cause.message

end ThoughtJournal.Sync
