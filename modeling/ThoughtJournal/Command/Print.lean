import ThoughtJournal.Decimal
import ThoughtJournal.Json.Printer
import ThoughtJournal.Sync.Report

/-! # What commands print

The reports of the commands as lines of text, and the report of a sync and a list of thoughts as JSON
documents with their members in a fixed order.
-/

namespace ThoughtJournal.Print

/-- Lines, each with its line end. -/
def unlines (lines : List Text) : Text := lines.flatMap fun line => line ++ ['\n']

def document (json : Json) : Text := json.pretty ++ ['\n']

/-! ## Documents -/

def natural (n : Nat) : Json := Json.int n

def statsDocument (stats : CategoryStats) : Json := Json.ofMembers [
  ("category".toList, Json.text stats.category),
  ("total_count".toList, natural stats.total),
  ("latest_entry_date".toList, Json.text stats.latest)]

def skippedDocument (skipped : Sync.Skipped) : Json := Json.ofMembers [
  ("id".toList, Json.int skipped.id),
  ("title".toList, Json.text skipped.title),
  ("reason".toList, Json.text skipped.reason)]

def reportDocument (report : Sync.Report) : Json := Json.ofMembers [
  ("watermark".toList, Json.text report.watermark),
  ("documents_listed".toList, natural report.journalsListed),
  ("documents_selected".toList, natural report.journalsSelected),
  ("documents_ingested".toList, natural report.journalsIngested),
  ("skipped_documents".toList, .array (report.skipped.map skippedDocument)),
  ("thoughts_extracted".toList, natural report.thoughtsExtracted),
  ("thoughts_inserted".toList, natural report.thoughtsInserted),
  ("thoughts_duplicate".toList, natural report.thoughtsDuplicate),
  ("thoughts_failed".toList, natural report.thoughtsFailed),
  ("dry_run".toList, .bool report.dryRun),
  ("stats".toList, match report.stats with
    | some stats => .array (stats.map statsDocument)
    | none => .null)]

def thoughtDocument (thought : Thought) : Json := Json.ofMembers [
  ("date".toList, Json.text thought.date),
  ("content".toList, Json.text thought.content),
  ("category".toList, Json.text thought.category.name),
  ("tags".toList, .array (thought.tags.map Json.text)),
  ("context_string".toList, Json.text thought.contextLine),
  ("checksum".toList, Json.text thought.checksum),
  ("token_count".toList, natural thought.tokenCount)]

/-! ## The report of a sync -/

def categoryLines : Option (List CategoryStats) → List Text
  | none => []
  | some [] => []
  | some stats =>
      "  by category:".toList :: stats.map fun entry =>
        "    [".toList ++ Text.padRight 8 entry.category ++ "] ".toList ++
          Text.padLeft 4 (Text.ofNat entry.total) ++ " entries (latest: ".toList ++
          entry.latest ++ [')']

def countLine (label : String) (n : Nat) : Text := label.toList ++ Text.ofNat n

def skippedLine (skipped : Sync.Skipped) : Text :=
  "    #".toList ++ Text.ofInt skipped.id ++ " (".toList ++ skipped.title ++ "): ".toList ++
    skipped.reason

def writtenLines (report : Sync.Report) : List Text :=
  if report.dryRun then []
  else [
    countLine "  thoughts inserted: " report.thoughtsInserted,
    countLine "  thoughts already stored: " report.thoughtsDuplicate,
    countLine "  thoughts failed: " report.thoughtsFailed]

def progressLines (report : Sync.Report) : List Text :=
  if report.isUpToDate then ["  already up to date, no new journals".toList]
  else
    [countLine "  journals selected: " report.journalsSelected,
      countLine "  journals ingested: " report.journalsIngested,
      countLine "  journals skipped: " report.skipped.length] ++
    report.skipped.map skippedLine ++
    [countLine "  thoughts extracted: " report.thoughtsExtracted] ++
    writtenLines report

def report (source : Text) (report : Sync.Report) : Text :=
  unlines
    (["sync ".toList ++ source ++ (if report.dryRun then " (dry-run)".toList else []),
      "  watermark: ".toList ++ report.watermark,
      countLine "  journals listed: " report.journalsListed] ++
    progressLines report ++ categoryLines report.stats ++ ["ok".toList])

/-! ## The state of a store -/

/-- A number of bytes in a unit that fits. It is rounded to double precision first, which changes a
number of gigabytes only. -/
def byteSize (bytes : Nat) : Text :=
  if bytes < 1024 then Text.ofNat bytes ++ " B".toList
  else if bytes < 1048576 then Decimal.fixed 1 bytes 1024 ++ " KB".toList
  else if bytes < 1073741824 then Decimal.fixed 1 bytes 1048576 ++ " MB".toList
  else Decimal.fixed 2 (Decimal.roundDouble bytes) 1073741824 ++ " GB".toList

def categoryRow (category total latest : Text) : Text :=
  "  ".toList ++ Text.padRight 12 category ++ [' '] ++ Text.padLeft 8 total ++ "   ".toList ++
    latest

def categoryTable : List CategoryStats → List Text
  | [] => []
  | stats =>
      [[], "  By category:".toList,
        categoryRow "CATEGORY".toList "ENTRIES".toList "LATEST".toList,
        "  ".toList ++ List.replicate 36 '-'] ++
      stats.map fun entry => categoryRow entry.category (Text.ofNat entry.total) entry.latest

/-- The state of a store in the database under a path. -/
def storeState (path : Text) (size total : Nat) (watermark : Text)
    (stats : List CategoryStats) : Text :=
  unlines
    (["Second Brain — Store Stats".toList, List.replicate 26 '=', [],
      "  Database:    ".toList ++ path,
      "  Size:        ".toList ++ byteSize size, [],
      countLine "  Thoughts:    " total,
      "  Watermark:   ".toList ++ watermark] ++
    categoryTable stats ++ [[]])

/-! ## Sources and previews -/

def sourceRow (name repository status detail : Text) : Text :=
  name ++ [' '] ++ Text.padRight 28 repository ++ [' '] ++ Text.padRight 10 status ++ [' '] ++
    detail

def sourceHeading : Text :=
  sourceRow (Text.padRight 8 "SOURCE".toList) "REPO".toList "STATUS".toList "DETAIL".toList

/-- The name of a source in its table, with a star if it is the one in use. -/
def sourceName (active : Bool) (name : Text) : Text :=
  (if active then '*' else ' ') :: Text.padRight 7 name

def thoughtLines (number : Nat) (thought : Thought) : List Text :=
  [[], "  [".toList ++ Text.ofNat number ++ "] ".toList ++ thought.category.name ++
      " | tags: ".toList ++ Text.join [',', ' '] thought.tags ++ " | ~".toList ++
      Text.ofNat thought.tokenCount ++ " tokens".toList,
    "      checksum: ".toList ++ thought.checksum] ++
  (Text.lines thought.content).map fun line => "      ".toList ++ line

def numberedThoughts (number : Nat) : List Thought → List Text
  | [] => []
  | thought :: rest => thoughtLines number thought ++ numberedThoughts (number + 1) rest

def preview (date : Text) (thoughts : List Thought) : Text :=
  unlines
    ((date ++ " (".toList ++ Text.ofNat thoughts.length ++ " thoughts)".toList) ::
      numberedThoughts 1 thoughts)

end ThoughtJournal.Print
