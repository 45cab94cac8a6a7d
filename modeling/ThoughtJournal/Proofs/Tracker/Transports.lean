import Mathlib.Data.List.Forall2
import ThoughtJournal.Proofs.Json.Printed
import ThoughtJournal.Proofs.Text.Utf8
import ThoughtJournal.Tracker.Program
import ThoughtJournal.Tracker.Rest

/-! # The two transports agree

The same issues reach a sync in two ways: the program lists numbers and titles of what is no pull
request, the REST interface everything that the tracker knows. Whatever order the members have,
whatever else stands among them and however the documents are written, both ways give the same
journals (`Tracker.transports_agree`).

An object is known by the values under each name, and these do not depend on the order of its
members (`Issue.member?_of_perm`).
-/

namespace ThoughtJournal.Tracker

namespace Issue

/-! ## Documents that describe issues -/

/-- An integer of 64 bits with a sign. -/
def IsInt64 (n : Int) : Prop := -9223372036854775808 ≤ n ∧ n ≤ 9223372036854775807

/-- What a document may say about a body: its text, or null or nothing if there is none. -/
inductive SaysBody : Option Text → Option Json → Prop where
  | text (body : Text) : SaysBody (some body) (some (.text body))
  | null : SaysBody none (some .null)
  | missing : SaysBody none none

/-- What a document may say about the mark on pull requests: any value besides null, or null or
nothing if there is no mark. The value is kept, so it has no number beyond double precision and is
nested at most `depth` deep; a reader refuses every other one. -/
inductive SaysMark (depth : Nat) : Bool → Option Json → Prop where
  | marked {value : Json} (sound : value.isSound depth = true) (present : value ≠ .null) :
      SaysMark depth true (some value)
  | null : SaysMark depth false (some .null)
  | missing : SaysMark depth false none

/-- The names that mean something. -/
def memberNames : List Text := [numberName, titleName, bodyName, pullRequestName]

/-- The member for a value that may be missing. -/
def memberFor (name : Text) (value : Option Json) : List (Text × Json) :=
  value.toList.map fun value => (name, value)

/-- An object with everything about an issue, in any order and among members that mean nothing. -/
inductive Describes (depth : Nat) (issue : Issue) : Json → Prop where
  | intro {body mark : Option Json} {others members : List (Text × Json)}
      (bodied : SaysBody issue.body body) (marked : SaysMark depth issue.isPullRequest mark)
      (meaningless : ∀ entry ∈ others, entry.1 ∉ memberNames)
      (order : members.Perm ((numberName, .int issue.number) :: (titleName, .text issue.title) ::
        (memberFor bodyName body ++ (memberFor pullRequestName mark ++ others)))) :
      Describes depth issue (Json.ofMembers members)

/-- An object with the number and the title of an issue, in either order. -/
inductive Lists (issue : Issue) : Json → Prop where
  | intro {members : List (Text × Json)}
      (order : members.Perm [(numberName, .int issue.number), (titleName, .text issue.title)]) :
      Lists issue (Json.ofMembers members)

/-! ## Members by their names -/

/-- The values of the members with a given name. -/
def valuesNamed (name : Text) (members : List (Text × Json)) : List Json :=
  (members.filter fun entry => entry.1 == name).map Prod.snd

/-- In an object whose members have texts as names, the values under a name are those of the members
with it. -/
theorem valuesOf_eq_valuesNamed (name : Text) (members : List (Text × Json)) :
    Json.valuesOf name (members.map fun entry => (some entry.1, entry.2)) =
      valuesNamed name members := by
  unfold Json.valuesOf valuesNamed
  rw [List.filter_map, List.map_map]
  rfl

theorem valuesNamed_cons (name other : Text) (value : Json) (members : List (Text × Json)) :
    valuesNamed name ((other, value) :: members) =
      (if other = name then [value] else []) ++ valuesNamed name members := by
  unfold valuesNamed
  rw [List.filter_cons]
  by_cases same : other = name
  · rw [if_pos (beq_iff_eq.mpr same), if_pos same]
    rfl
  · rw [if_neg fun found => same (eq_of_beq found), if_neg same]
    rfl

theorem valuesNamed_append (name : Text) (left right : List (Text × Json)) :
    valuesNamed name (left ++ right) = valuesNamed name left ++ valuesNamed name right := by
  unfold valuesNamed
  rw [List.filter_append, List.map_append]

/-- A member that may be missing has its value under its own name only. -/
theorem valuesNamed_memberFor (name other : Text) (value : Option Json) :
    valuesNamed name (memberFor other value) = if other = name then value.toList else [] := by
  cases value with
  | none => rw [Option.toList_none, ite_self]; rfl
  | some value =>
      change valuesNamed name [(other, value)] = _
      rw [valuesNamed_cons]
      exact List.append_nil _

/-- A name that no member has has no values. -/
theorem valuesNamed_eq_nil {name : Text} {members : List (Text × Json)}
    (absent : ∀ entry ∈ members, entry.1 ≠ name) : valuesNamed name members = [] := by
  unfold valuesNamed
  rw [List.filter_eq_nil_iff.mpr fun entry member found => absent entry member (eq_of_beq found)]
  rfl

/-- The order of the members does not matter. -/
theorem member?_of_perm {members known : List (Text × Json)} (order : members.Perm known)
    {name : Text} {value : Option Json} (values : valuesNamed name known = value.toList) :
    member? (members.map fun entry => (some entry.1, entry.2)) name = some value := by
  have same : (valuesNamed name members).Perm value.toList :=
    values ▸ (order.filter _).map Prod.snd
  unfold member?
  rw [valuesOf_eq_valuesNamed]
  cases value with
  | none => rw [List.Perm.eq_nil same]
  | some value => rw [List.perm_singleton.mp same]

/-- No member of an object of texts lacks its name. -/
theorem all_named (members : List (Text × Json)) :
    ((members.map fun entry => (some entry.1, entry.2)).all fun entry => entry.1.isSome) =
      true := by
  rw [List.all_map]
  exact List.all_eq_true.mpr fun _ _ => rfl

/-! ## Reading what describes an issue -/

theorem int64?_int {n : Int} (sized : IsInt64 n) : (Json.int n).int64? = some n := by
  have whole : (JsonNumber.ofInt n).integer? = some n := by
    unfold JsonNumber.integer? JsonNumber.ofInt
    simp only [List.isEmpty_nil, Bool.not_true, Option.isSome_none, Bool.or_self,
      Bool.false_eq_true, ↓reduceIte, decide_eq_true_eq, beq_iff_eq]
    split
    · rw [if_neg (by omega)]
      exact congrArg some (by omega)
    · exact congrArg some (by omega)
  change (JsonNumber.ofInt n).int64? = some n
  unfold JsonNumber.int64?
  rw [whole]
  exact if_pos sized

/-- An issue is read from its number and its title. -/
theorem ofNumberTitle?_int_text {issue : Issue} (sized : IsInt64 issue.number) :
    ofNumberTitle? (.int issue.number) (.text issue.title) =
      some ⟨issue.number, issue.title, none, false⟩ := by
  unfold ofNumberTitle?
  rw [int64?_int sized, Json.text?_text]

/-- What a document says about a body is read as that body. -/
theorem ofBody?_of_said {body : Option Text} {value : Option Json} (said : SaysBody body value) :
    ofBody? value = some body := by
  cases said <;> rfl

/-- What a document says about a pull request is read as that. -/
theorem ofPullRequest?_of_said {depth : Nat} {isPullRequest : Bool} {value : Option Json}
    (said : SaysMark depth isPullRequest value) :
    ofPullRequest? depth value = some isPullRequest := by
  cases said with
  | marked sound present =>
      rw [ofPullRequest?]
      · exact if_pos sound
      · exact fun none => present none
  | null => rfl
  | missing => rfl

/-- An issue is read back from every object that describes it. -/
theorem ofJson?_of_describes {depth : Nat} {issue : Issue} {document : Json}
    (sized : IsInt64 issue.number) (described : Describes depth issue document) :
    ofJson? depth document = some issue := by
  obtain ⟨bodied, marked, meaningless, order⟩ := described
  rename_i bodyValue markValue others members
  -- Under each of the four names stands the value for it, and nothing else.
  have lookup {name : Text} {value : Option Json} (known : name ∈ memberNames)
      (values : (if numberName = name then [.int issue.number] else []) ++
        ((if titleName = name then [.text issue.title] else []) ++
          ((if bodyName = name then bodyValue.toList else []) ++
            if pullRequestName = name then markValue.toList else [])) = value.toList) :
      member? (members.map fun entry => (some entry.1, entry.2)) name = some value := by
    apply member?_of_perm order
    have none : valuesNamed name others = [] :=
      valuesNamed_eq_nil fun entry member same => meaningless entry member (same ▸ known)
    simp only [valuesNamed_cons, valuesNamed_append, valuesNamed_memberFor, none, List.append_nil]
    exact values
  have number : member? _ numberName = some (some (.int issue.number)) := lookup (by decide) rfl
  have title : member? _ titleName = some (some (.text issue.title)) := lookup (by decide) rfl
  have body : member? _ bodyName = some bodyValue := lookup (by decide) (List.append_nil _)
  have mark : member? _ pullRequestName = some markValue := lookup (by decide) rfl
  rw [Json.ofMembers, ofJson?, all_named, if_pos rfl, number, title, body, mark]
  simp only [ofValues?, ofNumberTitle?_int_text sized, ofBody?_of_said bodied,
    ofPullRequest?_of_said marked]

/-- A number and a title are read from every object that lists an issue. -/
theorem ofListing?_of_lists {issue : Issue} {document : Json} (sized : IsInt64 issue.number)
    (listed : Lists issue document) :
    ofListing? document = some ⟨issue.number, issue.title, none, false⟩ := by
  obtain ⟨order⟩ := listed
  have number : member? _ numberName = some (some (.int issue.number)) := member?_of_perm order rfl
  have title : member? _ titleName = some (some (.text issue.title)) := member?_of_perm order rfl
  rw [Json.ofMembers, ofListing?, all_named, if_pos rfl, number, title]
  exact ofNumberTitle?_int_text sized

/-- An array is read item by item. -/
theorem listOf?_array {read : Json → Option Issue} {issues : List Issue} {documents : List Json}
    (each : List.Forall₂ (fun issue document => read document = some issue) issues documents) :
    listOf? read (.array documents) = some issues := by
  change documents.mapM read = some issues
  induction each with
  | nil => rfl
  | cons first _ ih => rw [List.mapM_cons, first, ih]; rfl

/-- A written array of descriptions is read as the issues that they describe. -/
theorem readList?_of_describes {issues : List Issue} {documents : List Json} {text : Text}
    (sized : ∀ issue ∈ issues, IsInt64 issue.number)
    (described : List.Forall₂ (Describes (nestingLimit - 2)) issues documents)
    (written : Json.PaddedForm (.array documents) text) : readList? text = some issues := by
  unfold readList?
  rw [Json.read_of_paddedForm written, Option.bind_some]
  apply listOf?_array
  exact ((List.forall₂_and_left _ _).mpr ⟨sized, described⟩).imp fun _ _ both =>
    ofJson?_of_describes both.1 both.2

/-- A written array of numbers and titles is read as issues without bodies. -/
theorem readListing?_of_lists {issues : List Issue} {documents : List Json} {text : Text}
    (sized : ∀ issue ∈ issues, IsInt64 issue.number)
    (listed : List.Forall₂ Lists issues documents)
    (written : Json.PaddedForm (.array documents) text) :
    readListing? text =
      some (issues.map fun issue => ⟨issue.number, issue.title, none, false⟩) := by
  unfold readListing?
  rw [Json.read_of_paddedForm written, Option.bind_some]
  apply listOf?_array
  rw [List.forall₂_map_left_iff]
  exact ((List.forall₂_and_left _ _).mpr ⟨sized, listed⟩).imp fun _ _ both =>
    ofListing?_of_lists both.1 both.2

/-- Issues that are known by number and title only are journals, all of them. -/
theorem journals_map_listed (issues : List Issue) :
    journals (issues.map fun issue => ⟨issue.number, issue.title, none, false⟩) =
      issues.map journal := by
  unfold journals
  rw [List.filter_map, List.map_map]
  exact congrArg (List.map _) (List.filter_eq_self.mpr fun _ _ => rfl)

end Issue

/-! ## Both transports -/

variable {rest : Rest} {network : Network} {program : Program} {behaviour : List Text → Execution}

/-- The REST interface lists the journals among the issues that the answer describes. -/
theorem Rest.index_of_describes {issues : List Issue} {documents : List Json} {answer : Text}
    (sized : ∀ issue ∈ issues, Issue.IsInt64 issue.number)
    (described : List.Forall₂ (Issue.Describes (Issue.nestingLimit - 2)) issues documents)
    (written : Json.PaddedForm (.array documents) answer)
    (answered : rest.get network rest.indexAddress rest.indexFields = .ok (Utf8.encode answer)) :
    rest.index network = .ok (Issue.journals issues) := by
  unfold Rest.index Rest.journalsOf
  simp only [answered, Utf8.decode?_encode, Option.bind_some,
    Issue.readList?_of_describes sized described written]

/-- The REST interface gives the body of the issue that the answer describes, and no text if it has
none. -/
theorem Rest.body_of_describes {id : Int} {issue : Issue} {document : Json} {answer : Text}
    (sized : Issue.IsInt64 issue.number)
    (described : Issue.Describes (Issue.nestingLimit - 1) issue document)
    (written : Json.PaddedForm document answer)
    (answered : rest.get network (rest.issueAddress id) [] = .ok (Utf8.encode answer)) :
    rest.body network id = .ok (issue.body.getD []) := by
  have read : Issue.read? answer = some issue := by
    unfold Issue.read?
    rw [Json.read_of_paddedForm written, Option.bind_some]
    exact Issue.ofJson?_of_describes sized described
  unfold Rest.body Rest.bodyOf
  simp only [answered, Utf8.decode?_encode, Option.bind_some, read]

/-- The program lists the journals of the issues that it prints. -/
theorem Program.index_of_lists {issues : List Issue} {documents : List Json} {output : Text}
    {errors : Bytes} (sized : ∀ issue ∈ issues, Issue.IsInt64 issue.number)
    (listed : List.Forall₂ Issue.Lists issues documents)
    (written : Json.PaddedForm (.array documents) output)
    (exited : program.execute behaviour program.indexArguments =
      .exited 0 (Utf8.encode output) errors) :
    program.index behaviour = .ok (issues.map Issue.journal) := by
  have called : program.call behaviour program.indexArguments = .ok output := by
    unfold Program.call
    rw [exited, Program.output, Utf8.decodeLossy_encode]
  unfold Program.index Program.journalsOf
  simp only [called, Issue.readListing?_of_lists sized listed written, Issue.journals_map_listed]

/-- **The two transports agree.** For all issues whose numbers have 64 bits, the REST interface that
answers with everything about all of them and the program that lists those among them that are no
pull requests give the same journals, which are the numbers and trimmed titles of the latter in
their order. And the body that the REST interface gives for an issue is its text, and empty if there
is none. -/
theorem transports_agree {issues : List Issue} {documents listed : List Json}
    {answer output : Text} {errors : Bytes}
    (sized : ∀ issue ∈ issues, Issue.IsInt64 issue.number)
    (described : List.Forall₂ (Issue.Describes (Issue.nestingLimit - 2)) issues documents)
    (lists : List.Forall₂ Issue.Lists (issues.filter fun issue => !issue.isPullRequest) listed)
    (answerForm : Json.PaddedForm (.array documents) answer)
    (outputForm : Json.PaddedForm (.array listed) output)
    (answered : rest.get network rest.indexAddress rest.indexFields = .ok (Utf8.encode answer))
    (exited : program.execute behaviour program.indexArguments =
      .exited 0 (Utf8.encode output) errors) :
    (rest.index network = .ok ((issues.filter fun issue => !issue.isPullRequest).map fun issue =>
        ⟨issue.number, Text.trim issue.title⟩) ∧
      program.index behaviour = rest.index network) ∧
    ∀ issue ∈ issues, ∀ id document body,
      Issue.Describes (Issue.nestingLimit - 1) issue document → Json.PaddedForm document body →
        rest.get network (rest.issueAddress id) [] = .ok (Utf8.encode body) →
          rest.body network id = .ok (issue.body.getD []) := by
  have journals : rest.index network = .ok (Issue.journals issues) :=
    Rest.index_of_describes sized described answerForm answered
  refine ⟨⟨journals, ?_⟩, fun issue member id document body whole form fetched =>
    Rest.body_of_describes (sized issue member) whole form fetched⟩
  have kept : ∀ issue ∈ issues.filter fun issue => !issue.isPullRequest,
      Issue.IsInt64 issue.number := fun issue member => sized issue (List.mem_of_mem_filter member)
  rw [journals]
  exact Program.index_of_lists kept lists outputForm exited

/-- A tracker with a journal of the least number, a marked pull request of the greatest one, and an
issue without a title; the members of each stand in an order of their own, and the mark and the body
are there, null, or missing. -/
theorem transports_agree_of_mixed :
    let journal : Issue := ⟨-9223372036854775808, "\t2026-02-20 \"é😀\"\n".toList,
      some "## Thought\n- x".toList, false⟩
    let pull : Issue := ⟨9223372036854775807, "Fix typo".toList, none, true⟩
    let untitled : Issue := ⟨0, [], none, false⟩
    let mark := Json.ofMembers [("url".toList, .text "https://example".toList)]
    let documents := [
      Json.ofMembers [("id".toList, .array [.null]), (Issue.bodyName, .text "## Thought\n- x".toList),
        (Issue.titleName, .text journal.title), (Issue.numberName, .int journal.number)],
      Json.ofMembers [(Issue.pullRequestName, mark), (Issue.bodyName, .null),
        (Issue.titleName, .text pull.title), (Issue.numberName, .int pull.number)],
      Json.ofMembers [(Issue.numberName, .int untitled.number),
        (Issue.titleName, .text untitled.title), (Issue.pullRequestName, .null)]]
    let listed := [
      Json.ofMembers [(Issue.titleName, .text journal.title),
        (Issue.numberName, .int journal.number)],
      Json.ofMembers [(Issue.numberName, .int untitled.number),
        (Issue.titleName, .text untitled.title)]]
    let answer := (Json.array documents).pretty
    let output := (Json.array listed).pretty
    let body := (documents.headD .null).pretty
    let rest : Rest := ⟨"http://localhost".toList, "me/journal".toList, "journal".toList, 50, none⟩
    let network : Network := fun request =>
      .answered 200 (Utf8.encode (if request.url.query.isSome then answer else body))
    let program : Program := ⟨['g', 'h'], "me/journal".toList, "journal".toList, 50, 30⟩
    let behaviour := fun _ : List Text => Execution.exited 0 (Utf8.encode output) []
    rest.index network = .ok [⟨-9223372036854775808, "2026-02-20 \"é😀\"".toList⟩, ⟨0, []⟩] ∧
      program.index behaviour = rest.index network ∧
      rest.body network journal.number = .ok "## Thought\n- x".toList := by
  intro journal pull untitled mark documents listed answer output body rest network program behaviour
  have sized : ∀ issue ∈ [journal, pull, untitled], Issue.IsInt64 issue.number := by
    unfold Issue.IsInt64
    decide
  have meaningless : ∀ entry ∈ [("id".toList, Json.array [.null])],
      entry.1 ∉ Issue.memberNames := by
    decide
  have none : ∀ entry ∈ ([] : List (Text × Json)), entry.1 ∉ Issue.memberNames := by decide
  have marked : Issue.SaysMark 125 true (some mark) := .marked rfl nofun
  have journalDescribed (depth : Nat) : Issue.Describes depth journal (documents.headD .null) :=
    .intro (.text _) .missing meaningless (List.reverse_perm _).symm
  have pullDescribed : Issue.Describes 125 pull (documents.getD 1 .null) :=
    .intro .null marked none (List.reverse_perm _).symm
  have untitledDescribed : Issue.Describes 125 untitled (documents.getD 2 .null) :=
    .intro .missing .null none (List.Perm.refl _)
  have described : List.Forall₂ (Issue.Describes 125) [journal, pull, untitled] documents :=
    .cons (journalDescribed 125) (.cons pullDescribed (.cons untitledDescribed .nil))
  have lists : List.Forall₂ Issue.Lists [journal, untitled] listed :=
    .cons (.intro (List.reverse_perm _).symm) (.cons (.intro (List.Perm.refl _)) .nil)
  have answerForm : Json.PaddedForm (.array documents) answer :=
    Json.paddedForm_pretty (by decide +kernel)
  have outputForm : Json.PaddedForm (.array listed) output :=
    Json.paddedForm_pretty (by decide +kernel)
  have bodyForm : Json.PaddedForm (documents.headD .null) body :=
    Json.paddedForm_pretty (by decide +kernel)
  have answered : rest.get network rest.indexAddress rest.indexFields = .ok (Utf8.encode answer) := by
    decide +kernel
  have fetched : rest.get network (rest.issueAddress journal.number) [] = .ok (Utf8.encode body) := by
    decide +kernel
  have exited : program.execute behaviour program.indexArguments =
      .exited 0 (Utf8.encode output) [] := by
    decide +kernel
  obtain ⟨⟨index, same⟩, bodies⟩ :=
    transports_agree sized described lists answerForm outputForm answered exited
  exact ⟨index.trans (by decide +kernel), same, bodies journal List.mem_cons_self _ _ _
    (journalDescribed 126) bodyForm fetched⟩

end ThoughtJournal.Tracker
