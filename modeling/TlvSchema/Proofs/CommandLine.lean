import TlvSchema.CommandLine
import TlvSchema.Proofs.Agreement
import TlvSchema.Proofs.Entries

/-!
# The program as a session

A run of the program on a source is a session in which the source is loaded and the command is run on it.
It does not matter for the output whether the source is a file or comes from standard input, since the
name of a source shows in diagnostics only, and the width of the output does not matter at all.  Standard
error shows the entries of the session: the diagnostics, and between them the events that the environment
asks for.  By default these are warnings and errors, so that a run may show more there than its session
writes to the diagnostics (`errors_of_repeatedDefinition`).

* `spellings`, `parse_of_mem_spellings` — the arguments that ask for a command on a source
* `sessionSteps`, `sessionEnding`, `sessionEntries` — the session for a command on a source, what it leaves
  behind, and its entries
* `Invocation.run_eq_session` — a run leaves behind what its session does
* `warning_of_shownByDefault` — what is shown by default besides the diagnostics
* `commandEnding_congr_name` — the name of the source
* `run_of_contents` — the runs on a file and on standard input
-/

namespace TlvSchema

namespace CommandLine

open Session

variable {c : Command} {allow : Bool} {source : String} {arguments : List String}

/-! ### Arguments -/

/-- The arguments that ask for a command on a source; the option may stand on both sides of the
source. -/
def spellings (c : Command) (allow : Bool) (source : String) : List (List String) :=
  if allow then
    [[c.name, "--allow-errors", source], [c.name, source, "--allow-errors"]]
  else [[c.name, source]]

theorem formOf_name (c : Command) : formOf c.name = .plain := by
  cases c <;> decide

theorem ofName?_name (c : Command) : Topic.ofName? c.name = some (.command c) := by
  cases c <;> decide

theorem formOf_allowErrors : formOf "--allow-errors" = .long "allow-errors" none := by decide

theorem flag?_allowErrors (c : Command) :
    Topic.flag? (.command c) "allow-errors" = some .allowErrors := by
  cases c <;> decide

/-- What does not begin with a dash is no option, and neither is a dash alone. -/
theorem formOf_source (h : source.toList.head? ≠ some '-' ∨ source = "-") :
    formOf source = .plain := by
  rcases h with h | rfl
  · unfold formOf
    split
    case h_4 => rfl
    all_goals
      rename_i hs
      exact absurd (congrArg List.head? hs) h
  · decide

theorem parse_name (c : Command) (later : List String) :
    parse (c.name :: later) = parseCommand c .empty false later := by
  simp only [parse, formOf_name, parseName, ofName?_name]

theorem parseCommand_source (hs : formOf source = .plain) (used : List Flag) (later : List String) :
    parseCommand c ⟨none, used⟩ false (source :: later) =
      parseCommand c ⟨some (.ofArgument source), used⟩ false later := by
  rw [parseCommand, hs]
  rfl

theorem parseCommand_allowErrors (origin : Option Origin) (later : List String) :
    parseCommand c ⟨origin, []⟩ false ("--allow-errors" :: later) =
      parseCommand c ⟨origin, [.allowErrors]⟩ false later := by
  simp only [parseCommand, formOf_allowErrors, flag?_allowErrors]
  rfl

theorem parse_of_mem_spellings (h : source.toList.head? ≠ some '-' ∨ source = "-")
    (ha : arguments ∈ spellings c allow source) :
    parse arguments = .ok (.run ⟨c, allow, .ofArgument source⟩) := by
  have hs := formOf_source h
  cases allow with
  | false =>
    obtain rfl : arguments = [c.name, source] := List.mem_singleton.1 ha
    rw [parse_name, Draft.empty, parseCommand_source hs]
    rfl
  | true =>
    have ha' : arguments ∈ [[c.name, "--allow-errors", source], [c.name, source, "--allow-errors"]] :=
      ha
    rw [List.mem_cons, List.mem_singleton] at ha'
    rcases ha' with rfl | rfl
    · rw [parse_name, Draft.empty, parseCommand_allowErrors, parseCommand_source hs]
      rfl
    · rw [parse_name, Draft.empty, parseCommand_source hs, parseCommand_allowErrors]
      rfl

/-! ### Sessions for commands -/

/-- The step of a session that runs the command on a source. -/
def Command.step : Command → ℕ → Session.Step
  | .fields => .fields
  | .compile => .compile

/-- The steps that load a source and, if it can be read, run a command on it. -/
def sessionSteps (c : Command) (allow : Bool) (name : String) (bytes : ByteArray) :
    List Session.Step :=
  let loading := [.allowErrors allow, .read name (.ok bytes)]
  let number := (Session.run .empty loading).1.getLast?.bind (·.reply.number?)
  loading ++ number.toList.map c.step

/-- The exit code for the last reply of a session; without a command it is that of a failure. -/
def exitCodeOf : Option Session.Reply → ℕ
  | some (.ended status) => status.exitCode
  | _ => Status.failure.exitCode

/-- What a session leaves behind. -/
def endingOf (records : List Session.Record) : Ending where
  exitCode := exitCodeOf (records.getLast?.map (·.reply))
  output := String.join (records.map (·.output.taken))
  errors := String.join (records.map (·.diagnostics.taken))

/-- What is seen of a session that begins with nothing, loads a source and, if it can be read, runs a command
on it. -/
def sessionRecords (c : Command) (allow : Bool) (name : String) (bytes : ByteArray) :
    List Session.Record :=
  (Session.run .empty (sessionSteps c allow name bytes)).1

/-- What that session leaves behind. -/
def sessionEnding (c : Command) (allow : Bool) (name : String) (bytes : ByteArray) : Ending :=
  endingOf (sessionRecords c allow name bytes)

/-- The entries of that session: what it logs and what it writes to the diagnostics. -/
def sessionEntries (c : Command) (allow : Bool) (name : String) (bytes : ByteArray) : List Entry :=
  (sessionRecords c allow name bytes).flatMap (·.entries)

/-- A session with some sources in which nothing has been written yet. -/
def fresh (allow : Bool) (sources : List Source) : Session :=
  ⟨sources, allow, none, false, .unlimited, .unlimited⟩

/-- What a command leaves behind that is run on the first source of a session. -/
def commandEnding (c : Command) (s : Session) : Ending :=
  let record := s.recordOf (c.step 0)
  ⟨exitCodeOf (some record.reply), record.output.taken, record.diagnostics.taken⟩

/-- What a source leaves behind that cannot be read. -/
def unreadableEnding (name : String) : Ending :=
  ⟨1, "", (Outlet.unlimited.write (readDiagnostic name .notText).pieces).1.taken⟩

variable {name text : String} {bytes : ByteArray}

theorem fromUTF8?_toUTF8 (text : String) : String.fromUTF8? text.toUTF8 = some text := by
  rw [String.fromUTF8?, String.toUTF8_eq_toByteArray, dif_pos text.isValidUTF8]
  rfl

theorem decodeText_of_text (h : String.fromUTF8? bytes = some text) :
    decodeText (.ok bytes) = .ok text := by
  simp [decodeText, bind, Except.bind, h, pure, Except.pure]

theorem decodeText_of_notText (h : String.fromUTF8? bytes = none) :
    decodeText (.ok bytes) = .error .notText := by
  simp [decodeText, bind, Except.bind, h]

theorem run_readSource_of_text (h : String.fromUTF8? bytes = some text) (s : Session)
    (name : String) :
    (readSource name (.ok bytes)).run s =
      ⟨(some s.sources.length, { s with sources := s.sources ++ [⟨name, text⟩] }), []⟩ := by
  rw [readSource, decodeText_of_text h]
  rfl

theorem run_readSource_of_notText (h : String.fromUTF8? bytes = none) (s : Session) (name : String) :
    (readSource name (.ok bytes)).run s =
      ⟨(none, s.reported (readDiagnostic name .notText)),
        ((report (readDiagnostic name .notText)).run s).entries⟩ := by
  rw [readSource, decodeText_of_notText h]
  exact Logged.ext (yields_error (α := ℕ) (readDiagnostic name .notText) s).2 (List.append_nil _)

/-- A step that writes nothing is not seen in the end. -/
theorem endingOf_cons {record : Session.Record} {records : List Session.Record}
    (hr : records ≠ []) (ho : record.output.taken = "") (hd : record.diagnostics.taken = "") :
    endingOf (record :: records) = endingOf records := by
  rw [endingOf, List.getLast?_cons_of_ne_nil hr, List.map_cons, List.map_cons, String.join_cons,
    String.join_cons, ho, hd, String.empty_append, String.empty_append]
  rfl

theorem endingOf_singleton (record : Session.Record) :
    endingOf [record] =
      ⟨exitCodeOf (some record.reply), record.output.taken, record.diagnostics.taken⟩ := by
  simp [endingOf]

/-- Whether there is a command in the session is up to the step that loads the source. -/
theorem sessionRecords_of_step {number : Option ℕ} {s : Session} {entries : List Entry}
    (h : (fresh allow []).step (.read name (.ok bytes)) = ⟨(.loaded number, s), entries⟩) :
    sessionRecords c allow name bytes =
      [Session.empty.recordOf (.allowErrors allow), ⟨.loaded number, entries, s.output, s.diagnostics⟩] ++
        number.toList.map fun number => s.recordOf (c.step number) := by
  have hsteps : sessionSteps c allow name bytes =
      [.allowErrors allow, .read name (.ok bytes)] ++ number.toList.map c.step := by
    change [.allowErrors allow, .read name (.ok bytes)] ++
      ((fresh allow []).step (.read name (.ok bytes))).value.1.number?.toList.map c.step = _
    rw [h]
    rfl
  have hrecord : (fresh allow []).recordOf (.read name (.ok bytes)) =
      ⟨.loaded number, entries, s.output, s.diagnostics⟩ := by
    rw [recordOf, h]
  rw [sessionRecords, hsteps, ← hrecord, Session.run_append]
  change [Session.empty.recordOf (.allowErrors allow), (fresh allow []).recordOf (.read name (.ok bytes))] ++
    (Session.run ((fresh allow []).step (.read name (.ok bytes))).value.2 (number.toList.map c.step)).1 = _
  rw [h]
  cases number <;> rfl

/-- What is seen of a source that can be read, and of the command on it. -/
theorem sessionRecords_of_text (h : String.fromUTF8? bytes = some text) :
    sessionRecords c allow name bytes =
      [Session.empty.recordOf (.allowErrors allow),
        ⟨.loaded (some 0), [], .unlimited, .unlimited⟩,
        (fresh allow [⟨name, text⟩]).recordOf (c.step 0)] := by
  have hread : (fresh allow []).step (.read name (.ok bytes)) =
      ⟨(.loaded (some 0), fresh allow [⟨name, text⟩]), []⟩ := by
    rw [Session.step, perform, StateT.run_bind, run_readSource_of_text h]
    rfl
  exact sessionRecords_of_step hread

/-- What is seen of a source that cannot be read. -/
theorem sessionRecords_of_notText (h : String.fromUTF8? bytes = none) :
    sessionRecords c allow name bytes =
      [Session.empty.recordOf (.allowErrors allow),
        ⟨.loaded none, ((report (readDiagnostic name .notText)).run (fresh allow [])).entries,
          .unlimited, (Outlet.unlimited.write (readDiagnostic name .notText).pieces).1⟩] := by
  have hread : (fresh allow []).step (.read name (.ok bytes)) =
      ⟨(.loaded none, (fresh allow []).reported (readDiagnostic name .notText)),
        ((report (readDiagnostic name .notText)).run (fresh allow [])).entries⟩ := by
    have hrun := run_readSource_of_notText h (fresh allow []).restarted name
    rw [Session.step, perform, StateT.run_bind, ← restarted, hrun]
    exact Logged.ext rfl (List.append_nil _)
  exact sessionRecords_of_step hread

theorem sessionEnding_of_text (h : String.fromUTF8? bytes = some text) :
    sessionEnding c allow name bytes = commandEnding c (fresh allow [⟨name, text⟩]) := by
  rw [sessionEnding, sessionRecords_of_text h, endingOf_cons (List.cons_ne_nil _ _) rfl rfl,
    endingOf_cons (List.cons_ne_nil _ _) rfl rfl, endingOf_singleton, commandEnding]

theorem sessionEnding_of_notText (h : String.fromUTF8? bytes = none) :
    sessionEnding c allow name bytes = unreadableEnding name := by
  rw [sessionEnding, sessionRecords_of_notText h, endingOf_cons (List.cons_ne_nil _ _) rfl rfl,
    endingOf_singleton]
  rfl

/-- The texts among the entries of the session are what it writes to the diagnostics. -/
theorem join_texts_sessionEntries (c : Command) (allow : Bool) (name : String) (bytes : ByteArray) :
    String.join ((sessionEntries c allow name bytes).filterMap Entry.text?) =
      (sessionEnding c allow name bytes).errors :=
  texts_run _ _

/-! ### Runs of the program -/

/-- What a command does in a session. -/
def Command.action (c : Command) (number : ℕ) : SessionM Status :=
  match c with
  | .fields => Session.fields number
  | .compile => Session.compile number

theorem regular_action (c : Command) (number : ℕ) : Regular (c.action number) := by
  cases c with
  | fields => exact regular_fields number
  | compile => exact regular_compile number

theorem step_command (c : Command) (number : ℕ) (s : Session) :
    s.step (c.step number) =
      ⟨(.ended ((c.action number).run s.restarted).value.1,
        ((c.action number).run s.restarted).value.2), ((c.action number).run s.restarted).entries⟩ := by
  cases c <;> exact run_ended _ _

namespace Invocation

variable (i : Invocation)

theorem regular_perform (content : Except ReadError ByteArray) : Regular (i.perform content) := by
  refine (regular_readSource i.origin.name content).bind fun s => ?_
  split
  · exact regular_pure _
  · exact regular_action i.command _

theorem run_perform_of_text (h : String.fromUTF8? bytes = some text) :
    (i.perform (.ok bytes)).run (fresh i.allowErrors []) =
      (i.command.action 0).run (fresh i.allowErrors [⟨i.origin.name, text⟩]) := by
  rw [perform, StateT.run_bind, run_readSource_of_text h]
  cases i.command <;> rfl

theorem run_perform_of_notText (h : String.fromUTF8? bytes = none) :
    (i.perform (.ok bytes)).run (fresh i.allowErrors []) =
      ⟨(.failure, (fresh i.allowErrors []).reported (readDiagnostic i.origin.name .notText)),
        ((report (readDiagnostic i.origin.name .notText)).run (fresh i.allowErrors [])).entries⟩ := by
  rw [perform, StateT.run_bind, run_readSource_of_notText h]
  exact Logged.ext rfl (List.append_nil _)

/-- The entries of a session are those of its command. -/
theorem sessionEntries_eq (bytes : ByteArray) :
    sessionEntries i.command i.allowErrors i.origin.name bytes =
      ((i.perform (.ok bytes)).run (fresh i.allowErrors [])).entries := by
  cases h : String.fromUTF8? bytes with
  | some text =>
    rw [sessionEntries, sessionRecords_of_text h, i.run_perform_of_text h]
    change ((fresh i.allowErrors [⟨i.origin.name, text⟩]).step (i.command.step 0)).entries ++ [] = _
    rw [step_command, List.append_nil]
    rfl
  | none =>
    rw [sessionEntries, sessionRecords_of_notText h, i.run_perform_of_notText h]
    exact List.append_nil _

/-- **A run leaves behind what its session does**, but that its entries are shown as the environment
asks for. -/
theorem run_eq_session (env : Environment) (bytes : ByteArray) :
    i.run env (.ok bytes) =
      { sessionEnding i.command i.allowErrors i.origin.name bytes with
        errors := env.shown 0 (sessionEntries i.command i.allowErrors i.origin.name bytes) } := by
  -- the session of the run has a width, which is only carried along
  have hwidth := (i.regular_perform (.ok bytes)).width (fresh i.allowErrors []) (some env.width)
  change (i.perform (.ok bytes)).run (i.session env) = _ at hwidth
  rw [run, hwidth, i.sessionEntries_eq]
  cases h : String.fromUTF8? bytes with
  | some text =>
    rw [sessionEnding_of_text h, commandEnding, recordOf, step_command, i.run_perform_of_text h]
    rfl
  | none =>
    rw [sessionEnding_of_notText h, i.run_perform_of_notText h]
    rfl

end Invocation

/-! ### What does not matter -/

/-- The outcome of the command on a schema. -/
def Command.outcome (c : Command) (schema : Schema) : Outcome :=
  match c with
  | .fields => outcomeOfSchema listingOf FieldListing.document schema
  | .compile => outcomeOfSchema modelOf Summary.document schema

theorem outcome_of_schema {sources : List Source} {number : ℕ} {schema : Schema} (c : Command)
    (h : schemaOf sources[number]? = .ok schema) :
    (c.step number).outcome? sources = some (.ok (c.outcome schema)) := by
  cases c with
  | fields => exact outcome_fields h
  | compile => exact outcome_compile h

theorem outcome_of_defect {sources : List Source} {number : ℕ} {d : Diagnostic} (c : Command)
    (h : schemaOf sources[number]? = .error d) :
    (c.step number).outcome? sources = some (.error d) := by
  cases c <;> simp only [Command.step, Session.Step.outcome?, outcomeOf, h] <;> rfl

/-- The sources are only carried along when a command concludes. -/
theorem concluded_sources (s : Session) (sources : List Source)
    (outcome : Except Diagnostic Outcome) :
    ({ s with sources } : Session).concluded outcome =
      ((s.concluded outcome).1, { (s.concluded outcome).2 with sources }) := by
  simp only [concluded, reportedAll_eq]
  cases outcome <;> rfl

theorem commandEnding_of_schema {schema : Schema} (c : Command) (s : Session)
    (h : schemaOf s.sources[0]? = .ok schema) :
    commandEnding c s =
      ⟨(s.restarted.concluded (.ok (c.outcome schema))).1.exitCode,
        (s.restarted.concluded (.ok (c.outcome schema))).2.output.taken,
        (s.restarted.concluded (.ok (c.outcome schema))).2.diagnostics.taken⟩ := by
  rw [commandEnding, recordOf, (step_of_outcome (outcome_of_schema c h)).1]
  rfl

theorem commandEnding_of_defect {d : Diagnostic} (c : Command) (allow : Bool)
    (sources : List Source) (h : schemaOf sources[0]? = .error d) :
    (commandEnding c (fresh allow sources)).exitCode = 1 ∧
      (commandEnding c (fresh allow sources)).output = "" := by
  obtain ⟨hreply, -, houtput⟩ :=
    recordOf_of_error (s := fresh allow sources) rfl (outcome_of_defect c h)
  rw [commandEnding, hreply, houtput]
  exact ⟨rfl, rfl⟩

/-- The name of the source does not matter for the output, nor for how the command ends. -/
theorem commandEnding_congr_name (c : Command) (allow : Bool) (name name' text : String) :
    (commandEnding c (fresh allow [⟨name, text⟩])).exitCode =
        (commandEnding c (fresh allow [⟨name', text⟩])).exitCode ∧
      (commandEnding c (fresh allow [⟨name, text⟩])).output =
        (commandEnding c (fresh allow [⟨name', text⟩])).output := by
  cases hs : schemaOf (some ⟨name, text⟩) with
  | ok schema =>
    have hload := (schemaOf_eq_ok_iff ⟨name, text⟩).1 hs
    have hs' : schemaOf (some ⟨name', text⟩) = .ok schema := (schemaOf_eq_ok_iff ⟨name', text⟩).2 hload
    -- both sessions conclude with one outcome, and they differ in their sources only
    have hc : (fresh allow [⟨name', text⟩]).concluded (.ok (c.outcome schema)) = _ :=
      concluded_sources (fresh allow [⟨name, text⟩]) [⟨name', text⟩] _
    have hr : ∀ sources, (fresh allow sources).restarted = fresh allow sources := fun _ => rfl
    rw [commandEnding_of_schema c (fresh allow [⟨name, text⟩]) hs,
      commandEnding_of_schema c (fresh allow [⟨name', text⟩]) hs', hr, hr, hc]
    exact ⟨rfl, rfl⟩
  | error d =>
    -- without a schema nothing is written
    have hno : ∀ schema, schemaOf (some ⟨name', text⟩) ≠ .ok schema := fun schema hs' => by
      rw [(schemaOf_eq_ok_iff ⟨name, text⟩).2 ((schemaOf_eq_ok_iff ⟨name', text⟩).1 hs')] at hs
      cases hs
    cases hs' : schemaOf (some ⟨name', text⟩) with
    | ok schema => exact absurd hs' (hno schema)
    | error d' =>
      obtain ⟨he, ho⟩ := commandEnding_of_defect c allow [⟨name, text⟩] hs
      obtain ⟨he', ho'⟩ := commandEnding_of_defect c allow [⟨name', text⟩] hs'
      exact ⟨he.trans he'.symm, ho.trans ho'.symm⟩

/-- Sessions on the same contents end alike, but for what they say of the source. -/
theorem sessionEnding_congr (c : Command) (allow : Bool) (name name' : String) (bytes : ByteArray) :
    (sessionEnding c allow name bytes).exitCode = (sessionEnding c allow name' bytes).exitCode ∧
      (sessionEnding c allow name bytes).output = (sessionEnding c allow name' bytes).output := by
  cases h : String.fromUTF8? bytes with
  | some text =>
    rw [sessionEnding_of_text h, sessionEnding_of_text h]
    exact commandEnding_congr_name c allow name name' text
  | none =>
    rw [sessionEnding_of_notText h, sessionEnding_of_notText h]
    exact ⟨rfl, rfl⟩

/-- If no event is shown, only the texts are. -/
theorem Environment.shown_of_hidden {env : Environment} {entries : List Entry}
    (h : ∀ e, .event e ∈ entries → env.shows e = false) (before : ℕ) :
    env.shown before entries = String.join (entries.filterMap Entry.text?) := by
  induction entries with
  | nil => rfl
  | cons entry entries ih =>
    have ih' := ih fun e he => h e (List.mem_cons_of_mem _ he)
    cases entry with
    | written text =>
      have htexts : (Entry.written text :: entries).filterMap Entry.text? =
          text :: entries.filterMap Entry.text? := rfl
      rw [Environment.shown, ih', htexts, String.join_cons]
    | event e =>
      have he : env.shows e = false := h e List.mem_cons_self
      rw [Environment.shown, he]
      exact ih'

/-- By default only the warnings about a schema are shown, since all that is written is taken. -/
theorem warning_of_shownByDefault {e : Event}
    (he : .event e ∈ sessionEntries c allow name bytes) (hs : shownByDefault e = true) :
    (∃ reference, e = .duplicateDefinition reference) ∨
      ∃ field prerequisite transitive, e = .chain field prerequisite transitive := by
  have hentries := Invocation.sessionEntries_eq ⟨c, allow, .file name⟩ bytes
  obtain ⟨-, hunrefused⟩ := (Invocation.regular_perform ⟨c, allow, .file name⟩ (.ok bytes)).unlimited
    (fresh allow []) ⟨rfl, rfl⟩
  have hnone : e.isRefusal = false := hunrefused e (Logged.mem_events_iff.2 (hentries ▸ he))
  cases e with
  | duplicateDefinition reference => exact .inl ⟨reference, rfl⟩
  | chain field prerequisite transitive => exact .inr ⟨field, prerequisite, transitive, rfl⟩
  | diagnosticNotWritten reason => cases hnone
  | outputNotWritten reason => cases hnone
  | _ => cases hs

/-! ### The two ways of input -/

theorem runIn_of_mem_spellings (env : Environment) (read : Origin → Except ReadError ByteArray)
    (h : source.toList.head? ≠ some '-' ∨ source = "-") (ha : arguments ∈ spellings c allow source)
    (hr : read (.ofArgument source) = .ok bytes) :
    runIn env arguments read =
      { sessionEnding c allow (Origin.ofArgument source).name bytes with
        errors := env.shown 0 (sessionEntries c allow (Origin.ofArgument source).name bytes) } := by
  rw [runIn, parse_of_mem_spellings h ha]
  change Invocation.run ⟨c, allow, .ofArgument source⟩ env (read (.ofArgument source)) = _
  rw [hr, Invocation.run_eq_session]

/-- Two common definitions with one reference, the second one of which is left out with a warning. -/
def repeatedDefinition : String :=
  "[\x7b\"common-ref\":\"r\",\"type\":\"TLV\",\"name\":\"A\",\"id\":1,\"format\":\"guint8\"\x7d," ++
    "\x7b\"common-ref\":\"r\",\"type\":\"TLV\",\"name\":\"B\",\"id\":2,\"format\":\"guint8\"\x7d]"

/-- There is no terminal, and the events that are shown by default are shown as their level and message. -/
def plainLog : Environment :=
  ⟨none, shownByDefault, fun _ e => e.level.name ++ " " ++ e.message ++ "\n"⟩

theorem sessionEntries_repeatedDefinition :
    sessionEntries .fields true "a.json" repeatedDefinition.toUTF8 =
      [.event (.duplicateDefinition "r"), .event (.loadedSchema 0 1)] := by
  rw [sessionEntries, sessionRecords_of_text (fromUTF8?_toUTF8 repeatedDefinition)]
  decide +kernel

/-- By default a run shows a warning that its session does not write to the diagnostics. -/
theorem errors_of_repeatedDefinition :
    let read := fun _ : Origin => (Except.ok repeatedDefinition.toUTF8 : Except ReadError ByteArray)
    (runIn plainLog ["fields", "--allow-errors", "a.json"] read).errors =
        "WARN ignoring duplicate common definition\n" ∧
      (sessionEnding .fields true "a.json" repeatedDefinition.toUTF8).errors = "" ∧
      (runIn plainLog ["fields", "--allow-errors", "a.json"] read).errors ≠
        (sessionEnding .fields true "a.json" repeatedDefinition.toUTF8).errors := by
  intro read
  have hspelling : ["fields", "--allow-errors", "a.json"] ∈ spellings .fields true "a.json" := by decide
  have hname : (Origin.ofArgument "a.json").name = "a.json" := by decide
  have hrun := runIn_of_mem_spellings plainLog read (.inl (by decide)) hspelling rfl
  have hsession := join_texts_sessionEntries .fields true "a.json" repeatedDefinition.toUTF8
  rw [hname, sessionEntries_repeatedDefinition] at hrun
  rw [sessionEntries_repeatedDefinition] at hsession
  rw [hrun, ← hsession]
  decide

/-- **It does not matter whether a source is a file or standard input.**  Wherever the option stands, a
run on a file and a run on standard input with the same contents have the exit code and the output of a
session that begins with nothing, loads the contents and, if they can be read, runs the command on them.
The terminals may be of different widths, and different events may be shown.  If the contents cannot be
read, as text that is not UTF-8, the exit code is that of a failure, and there is no output.

Standard error shows the entries of that session, in which the source has the path as its name, or the name
of standard input.  The texts among them are what the session writes to the diagnostics, so that there is
nothing else on standard error if none of its events is shown.  By default only warnings about common
definitions with one reference and about chains of prerequisites are. -/
theorem run_of_contents (c : Command) (allow : Bool) (bytes : ByteArray) (path : String)
    (hpath : path.toList.head? ≠ some '-') (ofFile ofInput : Origin → Except ReadError ByteArray)
    (hfile : ofFile (.file path) = .ok bytes) (hinput : ofInput .standardInput = .ok bytes)
    (arguments arguments' : List String) (ha : arguments ∈ spellings c allow path)
    (ha' : arguments' ∈ spellings c allow "-") (env env' : Environment) :
    let onFile := runIn env arguments ofFile
    let onInput := runIn env' arguments' ofInput
    onFile.exitCode = (sessionEnding c allow path bytes).exitCode ∧
      onInput.exitCode = onFile.exitCode ∧
      onFile.output = (sessionEnding c allow path bytes).output ∧
      onInput.output = onFile.output ∧
      (String.fromUTF8? bytes = none → onFile.exitCode = 1 ∧ onFile.output = "") ∧
      onFile.errors = env.shown 0 (sessionEntries c allow path bytes) ∧
      onInput.errors = env'.shown 0 (sessionEntries c allow "<stdin>" bytes) ∧
      (∀ name, String.join ((sessionEntries c allow name bytes).filterMap Entry.text?) =
        (sessionEnding c allow name bytes).errors) ∧
      ((∀ e, .event e ∈ sessionEntries c allow path bytes → env.shows e = false) →
        onFile = sessionEnding c allow path bytes) ∧
      ((∀ e, .event e ∈ sessionEntries c allow "<stdin>" bytes → env'.shows e = false) →
        onInput = sessionEnding c allow "<stdin>" bytes) ∧
      (∀ name e, .event e ∈ sessionEntries c allow name bytes → shownByDefault e = true →
        (∃ reference, e = .duplicateDefinition reference) ∨
          ∃ field prerequisite transitive, e = .chain field prerequisite transitive) := by
  intro onFile onInput
  have hne : path ≠ "-" := fun he => hpath (by rw [he]; rfl)
  have horigin : Origin.ofArgument path = .file path := if_neg hne
  have hdash : Origin.ofArgument "-" = .standardInput := if_pos rfl
  have hfileRun : onFile = { sessionEnding c allow path bytes with
      errors := env.shown 0 (sessionEntries c allow path bytes) } := by
    have hrun := runIn_of_mem_spellings env ofFile (.inl hpath) ha (horigin ▸ hfile)
    rwa [horigin] at hrun
  have hinputRun : onInput = { sessionEnding c allow "<stdin>" bytes with
      errors := env'.shown 0 (sessionEntries c allow "<stdin>" bytes) } := by
    have hrun := runIn_of_mem_spellings env' ofInput (.inr rfl) ha' (hdash ▸ hinput)
    rwa [hdash] at hrun
  obtain ⟨hexit, houtput⟩ := sessionEnding_congr c allow "<stdin>" path bytes
  have htexts := fun name => join_texts_sessionEntries c allow name bytes
  refine ⟨?_, ?_, ?_, ?_, fun h => ?_, ?_, ?_, htexts, fun h => ?_, fun h => ?_,
    fun _ _ => warning_of_shownByDefault⟩
  · rw [hfileRun]
  · rw [hfileRun, hinputRun, hexit]
  · rw [hfileRun]
  · rw [hfileRun, hinputRun, houtput]
  · rw [hfileRun, sessionEnding_of_notText h]
    exact ⟨rfl, rfl⟩
  · rw [hfileRun]
  · rw [hinputRun]
  · rw [hfileRun, Environment.shown_of_hidden h, htexts]
  · rw [hinputRun, Environment.shown_of_hidden h, htexts]

theorem run_of_contents_repeatedDefinition :
    let read := fun _ : Origin => (Except.ok repeatedDefinition.toUTF8 : Except ReadError ByteArray)
    let onFile := runIn plainLog ["fields", "--allow-errors", "a.json"] read
    let onInput := runIn .silent ["fields", "-", "--allow-errors"] read
    onInput.exitCode = onFile.exitCode ∧ onInput.output = onFile.output ∧
      onFile.errors = "WARN ignoring duplicate common definition\n" ∧
      onInput = sessionEnding .fields true "<stdin>" repeatedDefinition.toUTF8 := by
  intro read onFile onInput
  obtain ⟨-, hexit, -, houtput, -, herrors, -, -, -, hhidden, -⟩ :=
    run_of_contents .fields true repeatedDefinition.toUTF8 "a.json" (by decide) read read rfl rfl
      ["fields", "--allow-errors", "a.json"] ["fields", "-", "--allow-errors"] (by decide) (by decide)
      plainLog .silent
  refine ⟨hexit, houtput, herrors.trans ?_, hhidden fun _ _ => rfl⟩
  rw [sessionEntries_repeatedDefinition]
  decide

end CommandLine

end TlvSchema
