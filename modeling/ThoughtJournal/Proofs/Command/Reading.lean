import ThoughtJournal.Command.Run
import ThoughtJournal.Proofs.Store.Opening
import ThoughtJournal.Proofs.Sync.Agreement

/-! # Commands that only read

Only a sync that is not dry adds thoughts. Any other command changes nothing at all, or nothing but
what opening the database changes (`Command.world_run_reading`), and opening it once more makes no
difference to those that open it afterwards. So commands that only read can be struck out of a
history, and the commands that open the database print the same as before
(`Command.output_of_struck`).
-/

namespace ThoughtJournal.Command

/-! ## Commands -/

/-- Whether a command adds nothing to a database. -/
def isReading : Command → Bool
  | .sync _ options _ => options.dryRun
  | _ => true

/-- Whether a command opens the database, so that its output can tell what is stored. -/
def opensDatabase : Command → Bool
  | .createSchema => true
  | .sync _ _ _ => true
  | .stats => true
  | _ => false

variable {config : Config} {world left right : World} {command : Command}

/-- A command that does not open the database leaves the world as it is. -/
theorem world_run_of_not_opens (closed : command.opensDatabase = false) (config : Config)
    (world : World) : (run config world command).2 = world := by
  cases command with
  | createSchema => cases closed
  | sync given options json => cases closed
  | stats => cases closed
  | sources given => rfl
  | describe given => rfl
  | preview path date json => rfl

/-- A command that opens the database depends on the world through what it finds there. -/
theorem run_congr (same : left.connect config = right.connect config)
    (opens : command.opensDatabase = true) :
    (run config left command).1 = (run config right command).1 ∧
      ((run config left command).2 = (run config right command).2 ∨
        (run config left command).2 = left ∧ (run config right command).2 = right) := by
  cases command with
  | createSchema =>
      simp only [run, runCreate, same]
      exact ⟨trivial, Or.inl trivial⟩
  | stats =>
      simp only [run, runStats, same]
      exact ⟨trivial, Or.inl trivial⟩
  | sync given options json =>
      -- A sync without a repository or a taxonomy ends before the database is opened.
      simp only [run, runSync]
      split
      · exact ⟨rfl, Or.inr ⟨rfl, rfl⟩⟩
      · exact ⟨rfl, Or.inr ⟨rfl, rfl⟩⟩
      · rw [same]
        exact ⟨rfl, Or.inl rfl⟩
  | sources given => cases opens
  | describe given => cases opens
  | preview path date json => cases opens

/-- A dry sync leaves the world in which the database was just opened. -/
theorem world_syncInto_dry {options : Sync.Options} (dry : options.dryRun = true)
    {connection : Connection} (opened : (world.connect config).1 = .ok connection)
    (repository : Text) (taxonomy : Taxonomy) (json : Bool) :
    (syncInto config repository taxonomy options json connection (world.connect config).2).2 =
      (world.connect config).2 := by
  simp only [syncInto, Sync.store_run_dry dry]
  exact World.save_connect opened

/-- A reading command changes nothing, or it changes what opening the database changes. -/
theorem world_run_reading (reading : command.isReading = true) (config : Config) (world : World) :
    (run config world command).2 = world ∨
      (run config world command).2 = (world.connect config).2 := by
  cases command with
  | createSchema =>
      right
      rcases opened : world.connect config with ⟨_ | _, after⟩ <;>
        simp only [run, runCreate, opened]
  | stats =>
      right
      rcases opened : world.connect config with ⟨_ | _, after⟩ <;>
        simp only [run, runStats, opened]
  | sync given options json =>
      cases chosen : chooseRepository config given with
      | error fault => exact Or.inl (by simp only [run, runSync, chosen])
      | ok repository =>
          cases built : buildTaxonomy config with
          | error fault => exact Or.inl (by simp only [run, runSync, chosen, built])
          | ok taxonomy =>
              right
              rcases opened : world.connect config with ⟨failure | connection, after⟩
              · simp only [run, runSync, chosen, built, opened]
              · have unchanged := world_syncInto_dry reading (congrArg Prod.fst opened) repository
                  taxonomy json
                rw [opened] at unchanged
                simpa only [run, runSync, chosen, built, opened] using unchanged
  | sources given => exact Or.inl rfl
  | describe given => exact Or.inl rfl
  | preview path date json => exact Or.inl rfl

/-- After a reading command the database opens as it does without it. -/
theorem connect_run_reading (reading : command.isReading = true) (config : Config)
    (world : World) : (run config world command).2.connect config = world.connect config := by
  rcases world_run_reading reading config world with unchanged | opened
  · rw [unchanged]
  · rw [opened, World.connect_connect]

/-- A reading command keeps all rows that are stored, wherever they are. -/
theorem node?_run_reading (reading : command.isReading = true) (config : Config) {place : Place}
    {rows : List Relational.Row}
    (stored : world.files.node? place = some (.database ⟨some rows⟩)) :
    (run config world command).2.files.node? place = some (.database ⟨some rows⟩) := by
  rcases world_run_reading reading config world with unchanged | opened
  · rw [unchanged]
    exact stored
  · rw [opened]
    exact World.node?_connect stored config

/-! ## Histories -/

/-- Of two histories in a row, the second begins in the world that the first leaves. -/
theorem history_append (config : Config) (world : World) (first second : List Event) :
    history config world (first ++ second) =
      ((history config world first).1 ++
          (history config (history config world first).2 second).1,
        (history config (history config world first).2 second).2) := by
  induction first generalizing world with
  | nil => rfl
  | cons event rest ih =>
      cases event with
      | command command => simp only [List.cons_append, history, ih]
      | surroundings change => simp only [List.cons_append, history, ih]
      | resize size => simp only [List.cons_append, history, ih]

/-- The outputs of the commands before a command, and then its own. -/
theorem outputs_isPrefix (config : Config) (world : World) (before after : List Event)
    (command : Command) :
    (history config world before).1 ++ [(run config (history config world before).2 command).1] <+:
      (history config world (before ++ .command command :: after)).1 := by
  rw [history_append, List.prefix_append_right_inj]
  exact List.cons_prefix_cons.mpr ⟨rfl, List.nil_prefix⟩

def Event.after (config : Config) (world : World) (event : Event) : World :=
  (history config world [event]).2

theorem world_history_cons (config : Config) (world : World) (event : Event)
    (rest : List Event) : (history config world (event :: rest)).2 =
      (history config (event.after config world) rest).2 := by
  cases event <;> rfl

/-- The left world is the right one, or what the right one becomes when the database is opened. -/
def OpenedSince (config : Config) (left right : World) : Prop :=
  left = right ∨ left = (right.connect config).2

namespace OpenedSince

/-- The database opens in both worlds alike, and afterwards they are the same. -/
theorem connect (since : OpenedSince config left right) :
    left.connect config = right.connect config := by
  rcases since with rfl | rfl
  · rfl
  · exact World.connect_connect right config

/-- A reading command is carried out on the left only. -/
theorem struck (since : OpenedSince config left right) (reading : command.isReading = true) :
    OpenedSince config (run config left command).2 right := by
  rcases world_run_reading reading config left with unchanged | opened
  · rw [unchanged]
    exact since
  · right
    rw [opened, since.connect]

/-- An event that happens in both worlds keeps them so related. -/
theorem kept (since : OpenedSince config left right) (event : Event) :
    OpenedSince config (event.after config left) (event.after config right) := by
  cases event with
  | command command =>
      change OpenedSince config (run config left command).2 (run config right command).2
      cases opens : command.opensDatabase with
      | true =>
          rcases (run_congr since.connect opens).2 with same | ⟨leftSame, rightSame⟩
          · exact Or.inl same
          · rw [leftSame, rightSame]
            exact since
      | false =>
          rw [world_run_of_not_opens opens, world_run_of_not_opens opens]
          exact since
  | surroundings change =>
      rcases since with rfl | rfl
      · exact Or.inl rfl
      · right
        have around := right.surroundings_connect config
        simp only [Event.after, history, World.connect_surroundings, around]
  | resize size =>
      rcases since with rfl | rfl
      · exact Or.inl rfl
      · exact World.resize_connect right config size

end OpenedSince

/-- An event of a history, or a reading command that is struck out of it. -/
inductive Entry where
  | kept (event : Event)
  | struck (command : Command) (reading : command.isReading = true)

/-- A history before anything is struck out of it. -/
def whole (entries : List Entry) : List Event :=
  entries.map fun
    | .kept event => event
    | .struck command _ => .command command

/-- What remains of a history. -/
def remaining (entries : List Entry) : List Event :=
  entries.filterMap fun
    | .kept event => some event
    | .struck _ _ => none

/-- After a whole history and after what remains of it, the worlds are still so related. -/
theorem OpenedSince.history (since : OpenedSince config left right) (entries : List Entry) :
    OpenedSince config (history config left (whole entries)).2
      (history config right (remaining entries)).2 := by
  -- A struck command moves the left world only, so the worlds need not be the same further on.
  induction entries generalizing left right with
  | nil => exact since
  | cons entry rest ih =>
      cases entry with
      | kept event =>
          change OpenedSince config (Command.history config left (event :: whole rest)).2
            (Command.history config right (event :: remaining rest)).2
          rw [world_history_cons, world_history_cons]
          exact ih (since.kept event)
      | struck command reading => exact ih (since.struck reading)

/-- **Commands that only read.** Whichever reading commands are struck out of a history, every command
that remains and opens the database prints the same as before, at its place among the outputs. After a
reading command the database opens as it does without it, and all stored rows are where they were. -/
theorem output_of_struck (config : Config) (world : World) :
    (∀ (earlier later : List Entry) (command : Command), command.opensDatabase = true →
      ∃ output,
        (history config world (whole earlier)).1 ++ [output] <+:
          (history config world (whole (earlier ++ .kept (.command command) :: later))).1 ∧
        (history config world (remaining earlier)).1 ++ [output] <+:
          (history config world (remaining (earlier ++ .kept (.command command) :: later))).1) ∧
    ∀ command : Command, command.isReading = true →
      (run config world command).2.connect config = world.connect config ∧
      ∀ place rows, world.files.node? place = some (.database ⟨some rows⟩) →
        (run config world command).2.files.node? place = some (.database ⟨some rows⟩) := by
  refine ⟨?_, ?_⟩
  · intro earlier later command opens
    have since : OpenedSince config (history config world (whole earlier)).2
        (history config world (remaining earlier)).2 :=
      OpenedSince.history (Or.inl rfl) earlier
    have same := (run_congr since.connect opens).1
    refine ⟨(run config (history config world (whole earlier)).2 command).1, ?_, ?_⟩
    · have split : whole (earlier ++ .kept (.command command) :: later) =
          whole earlier ++ .command command :: whole later := List.map_append
      rw [split]
      exact outputs_isPrefix config world _ _ command
    · have split : remaining (earlier ++ .kept (.command command) :: later) =
          remaining earlier ++ .command command :: remaining later := List.filterMap_append
      rw [split, same]
      exact outputs_isPrefix config world _ _ command
  · intro command reading
    exact ⟨connect_run_reading reading config world,
      fun _ _ stored => node?_run_reading reading config stored⟩

/-- A sync reads a journal into a database with a row. Before it the schema was created once more, and
after it a dry run was made. -/
theorem output_of_struck_around_sync :
    let row := Relational.Row.ofThought (.compose "2026-01-05".toList "Ship it".toList .project [])
    let place : Place := ["data".toList, "brain.sqlite".toList]
    let files := (Files.empty.put ["data".toList] .directory).put place (.database ⟨some [row]⟩)
    let listing := Utf8.encode "[\x7b\"number\": 7, \"title\": \"2026-01-06\"\x7d]".toList
    let program (_ : Files) (_ : Text) (arguments : List Text) : Tracker.Execution :=
      .exited 0 (if "list".toList ∈ arguments then listing else Utf8.encode "## Area\n- rest".toList)
        []
    let size (database : Relational) : Nat := 4096 * (6 + (database.table.getD []).length / 16)
    let world : World := ⟨⟨Dictionary.empty, program, fun _ => .unreachable [], [], size⟩, files⟩
    let given : Option Text := some "me/journal".toList
    let earlier : List Entry := [.struck .createSchema rfl,
      .kept (.command (.sync given ⟨false, false, none⟩ false)),
      .struck (.sync given ⟨true, true, none⟩ false) rfl]
    let entries := earlier ++ [.kept (.command .stats)]
    (history Config.minimal world (whole entries)).1.length = 4 ∧
    (∃ output,
      (history Config.minimal world (whole earlier)).1 ++ [output] <+:
        (history Config.minimal world (whole entries)).1 ∧
      (history Config.minimal world (remaining earlier)).1 ++ [output] <+:
        (history Config.minimal world (remaining entries)).1) ∧
    (run Config.minimal world .createSchema).2.files.node? place =
      some (.database ⟨some [row]⟩) := by
  intro row place files listing program size world given earlier entries
  obtain ⟨outputs, kept⟩ := output_of_struck Config.minimal world
  have stored : world.files.node? place = some (.database ⟨some [row]⟩) :=
    Files.node?_put_self _ _ (by decide)
  exact ⟨by decide +kernel, outputs earlier [] .stats rfl,
    (kept .createSchema rfl).2 place [row] stored⟩

end ThoughtJournal.Command
