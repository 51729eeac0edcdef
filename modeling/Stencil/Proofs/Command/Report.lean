/-
# What a run amounts to

A run reads its settings, opens its log, does its work, and reports: its code and output are
those of the work, and the console receives the events of the work that the log takes. Work on
a document ends in one of two ways. Either a failure of the input is passed over, recorded as
an error, and nothing is printed, or a document was made and its summary is printed, if the
output takes it. The log of a run never keeps an error of the command from the console.
-/

import Stencil.Command.Run
import Stencil.Proofs.Log.Trace

namespace Stencil.Command

/-- The settings that the environment of a run describes. -/
def World.settings [Machine] (world : World) : Except Failure Settings :=
  (environmentFile world.disk).bind fun file =>
    (Settings.load { environment := world.environment, file }).result

/-- Opens the log of a run: its routing, and the disk with the files of the log. -/
def openLog (disk : Files.Disk) (settings : Settings) (directory : Option String) :
    Except Failure (Routing × Files.Disk) :=
  settings.level.bind fun level =>
    (Routing.prepare disk settings (directory.map Files.Path.ofString)).map fun opened =>
      ({ opened.1 with libraryThreshold := some level }, opened.2)

/-- The report of work with a code and an output. -/
def reportOf (routing : Routing) (disk : Files.Disk) (events : List Event) (answer : Nat × String) :
    Report :=
  let records := (events.filter fun e => routing.accepts e.toRecord).map Event.toRecord
  { code := answer.1, output := answer.2, disk
    notices := (routing.received .console records).map .logged
    appended := routing.appended records }

theorem result_runInvocation [Machine] (i : Invocation) (world : World) :
    (runInvocation i world).result =
      world.settings.bind fun settings =>
        (openLog world.disk settings i.logDirectory).bind fun opened =>
          let work := perform i settings opened.2
          work.result.map (reportOf opened.1 opened.2 work.events) := by
  rw [runInvocation, World.settings, Traced.result_bind, Traced.result_ofExcept]
  cases environmentFile world.disk with
  | error failure => rfl
  | ok file =>
      simp only [Except.bind, Traced.result_bind, Traced.result_ofExcept, Traced.result_notes]
      cases (Settings.load { environment := world.environment, file }).result with
      | error failure => rfl
      | ok settings =>
          simp only [openLog]
          cases settings.level with
          | error failure => rfl
          | ok level =>
              cases Routing.prepare world.disk settings (i.logDirectory.map Files.Path.ofString) with
              | error failure => rfl
              | ok opened =>
                  obtain ⟨routing, disk⟩ := opened
                  simp only [Except.bind, Except.map]
                  cases (perform i settings disk).result <;> rfl

/-- A run that has its settings opens its log and reports on its work. -/
theorem result_run [Machine] {arguments : List String} {world : World} {i : Invocation}
    {settings : Settings}
    (asked : Invocation.read arguments = .ok i) (configured : world.settings = .ok settings) :
    (run arguments world).result =
      (openLog world.disk settings i.logDirectory).bind fun opened =>
        let work := perform i settings opened.2
        work.result.map (reportOf opened.1 opened.2 work.events) := by
  rw [run, asked]
  simp only
  rw [result_runInvocation, configured]
  rfl

section Console

variable {settings : Settings} {disk after : Files.Disk} {routing : Routing}

/-- A log has the console among its routes, with the threshold that it has itself. -/
theorem console_of_prepare {directory : Option Files.Path}
    (prepared : Routing.prepare disk settings directory = .ok (routing, after)) :
    routing.threshold = Routing.consoleLevel settings ∧
      ⟨.console, Routing.consoleLevel settings⟩ ∈ routing.routes := by
  unfold Routing.prepare at prepared
  cases given : directory.or settings.logDirectory with
  | none =>
      rw [given] at prepared
      cases prepared
      exact ⟨rfl, List.mem_singleton_self _⟩
  | some found =>
      rw [given] at prepared
      obtain ⟨files, -, whole⟩ := bind_eq_ok.mp prepared
      cases whole
      exact ⟨rfl, List.mem_append_right _ (List.mem_singleton_self _)⟩

theorem console_of_openLog {directory : Option String}
    (opened : openLog disk settings directory = .ok (routing, after)) :
    routing.threshold = Routing.consoleLevel settings ∧
      ⟨.console, Routing.consoleLevel settings⟩ ∈ routing.routes := by
  obtain ⟨level, -, opened⟩ := bind_eq_ok.mp opened
  obtain ⟨⟨prepared, made⟩, done, same⟩ := map_eq_ok.mp opened
  cases same
  have console := console_of_prepare done
  exact ⟨console.1, console.2⟩

theorem passes_consoleLevel (settings : Settings) :
    Level.error.passes (Routing.consoleLevel settings) = true := by
  unfold Routing.consoleLevel
  split <;> rfl

/-- An event that tells the user of the command why there is no document. -/
inductive IsComplaint : Event → Prop
  | input (reason : String) : IsComplaint (.inputUnreadable reason)
  | data (reason : String) : IsComplaint (.dataRefused reason)

/-- A complaint gets through every log to the console. -/
theorem mem_notices_of_complaint {directory : Option String}
    (opened : openLog disk settings directory = .ok (routing, after))
    {events : List Event} {event : Event} (mem : event ∈ events) (complaint : IsComplaint event)
    (answer : Nat × String) :
    .logged event.toRecord ∈ (reportOf routing after events answer).notices ∧
      event.toRecord.level = .error := by
  obtain ⟨threshold, console⟩ := console_of_openLog opened
  have channel : ∀ r : LogRecord, r.channel = "render_template" → r.isFromLibrary = false := by
    intro r own
    rw [LogRecord.isFromLibrary, own]
    decide +kernel
  have own : event.toRecord.level = .error ∧ event.toRecord.isFromLibrary = false := by
    cases complaint <;> exact ⟨rfl, channel _ rfl⟩
  have passes := passes_consoleLevel settings
  rw [← own.1] at passes
  have accepted : routing.accepts event.toRecord = true := by
    rw [Routing.accepts, Routing.thresholdOf, own.2, threshold]
    exact passes
  refine ⟨List.mem_map_of_mem ?_, own.1⟩
  rw [Routing.received, List.mem_flatMap]
  refine ⟨_, List.mem_filter.mpr ⟨console, rfl⟩, ?_⟩
  rw [Routing.taken, List.mem_filter]
  refine ⟨List.mem_map_of_mem (List.mem_filter.mpr ⟨mem, accepted⟩), ?_⟩
  rw [accepted]
  exact passes

end Console

theorem eq_of_written [Machine] {cs : List Char} {output : String}
    (done : written cs = .ok output) : output = String.ofList cs := by
  unfold written at done
  split at done
  · exact (Except.ok.inj done).symm
  · cases done

section Work

variable {i : Invocation} {source : Source}

/-- The settings by which a run makes its document: those of the environment, but defaults are
filled in only if the invocation lets them. -/
def Invocation.adjust (i : Invocation) (settings : Settings) : Settings :=
  { settings with fillsDefaults := settings.fillsDefaults && i.fillsDefaults }

theorem isComplaint_of_inputEvent {failure : Failure} {event : Event}
    (has : inputEvent failure = some event) : IsComplaint event := by
  unfold inputEvent at has
  split at has <;> cases has
  all_goals exact .input _

theorem isComplaint_of_dataEvent {failure : Failure} {event : Event}
    (has : dataEvent failure = some event) : IsComplaint event := by
  unfold dataEvent at has
  split at has <;> cases has
  exact .data _

variable [Machine]

/-- The document that work makes, of the template and the data that it reads. -/
def Produces (i : Invocation) (source : Source) (settings : Settings) (disk : Files.Disk)
    (t : Template) (data : Value) (d : Document) : Prop :=
  (readInput disk source i.data).result = .ok (t, data) ∧
    (makeDocument (i.adjust settings) t data).result = .ok d

/-- A failure of the work that has no event and so ends the run without a report: one to read
the input, one to make the document, or one to print it. -/
inductive Escapes (i : Invocation) (source : Source) (settings : Settings) (disk : Files.Disk)
    (failure : Failure) : Prop
  | input (read : (readInput disk source i.data).result = .error failure)
      (silent : inputEvent failure = none)
  | making {t : Template} {data : Value}
      (read : (readInput disk source i.data).result = .ok (t, data))
      (made : (makeDocument (i.adjust settings) t data).result = .error failure)
      (silent : dataEvent failure = none)
  | printing {t : Template} {data : Value} {d : Document}
      (produces : Produces i source settings disk t data d)
      (unwritten : written (printedChars d.summary) = .error failure)

variable {settings : Settings} {disk : Files.Disk}

/-- Nothing escapes from work that prints its document. -/
theorem Produces.not_escapes {t : Template} {data : Value} {d : Document} {output : String}
    (produces : Produces i source settings disk t data d)
    (prints : written (printedChars d.summary) = .ok output) (failure : Failure) :
    ¬ Escapes i source settings disk failure := by
  intro escapes
  cases escapes with
  | input read silent => cases produces.1.symm.trans read
  | making read made silent =>
      cases produces.1.symm.trans read
      cases produces.2.symm.trans made
  | printing other unwritten =>
      cases produces.1.symm.trans other.1
      cases produces.2.symm.trans other.2
      cases prints.symm.trans unwritten

/-- Work on a document prints it, or complains and prints nothing, or fails. -/
theorem perform_cases (task : i.task = .document source) (settings : Settings)
    (disk : Files.Disk) :
    (∃ t data d, Produces i source settings disk t data d ∧
      written (printedChars d.summary) = .ok (printed d.summary) ∧
      (perform i settings disk).result = .ok (0, printed d.summary)) ∨
    ((∀ failure, ¬ Escapes i source settings disk failure) ∧
      (perform i settings disk).result = .ok (1, "") ∧
      ∃ event ∈ (perform i settings disk).events, IsComplaint event) ∨
    ∃ failure, Escapes i source settings disk failure ∧
      (perform i settings disk).result = .error failure := by
  rw [perform, task]
  rcases Traced.attempt_bind_cases (readInput disk source i.data) inputEvent _ with
    ⟨⟨t, data⟩, read, goesOn, later⟩ | ⟨failure, event, read, has, goesOn, mem⟩ |
    ⟨failure, read, has, ends⟩
  · rcases Traced.attempt_bind_cases (makeDocument (i.adjust settings) t data) dataEvent _ with
      ⟨d, made, printed, -⟩ | ⟨failure, event, made, has, printed, mem⟩ | ⟨failure, made, has, ends⟩
    · cases wrote : written (printedChars d.summary) with
      | ok output =>
          obtain rfl := eq_of_written wrote
          refine .inl ⟨t, data, d, ⟨read, made⟩, wrote, goesOn.trans (printed.trans ?_)⟩
          rw [Traced.result_ofExcept, wrote]
          rfl
      | error failure =>
          refine .inr (.inr ⟨failure, .printing ⟨read, made⟩ wrote, ?_⟩)
          refine goesOn.trans (printed.trans ?_)
          rw [Traced.result_ofExcept, wrote, Except.map]
    · refine .inr (.inl ⟨?_, goesOn.trans printed, event, later event mem,
        isComplaint_of_dataEvent has⟩)
      intro other escapes
      cases escapes with
      | input failed silent => cases read.symm.trans failed
      | making again failed silent =>
          cases read.symm.trans again
          cases made.symm.trans failed
          cases has.symm.trans silent
      | printing produces unwritten =>
          cases read.symm.trans produces.1
          cases made.symm.trans produces.2
    · exact .inr (.inr ⟨failure, .making read made has, goesOn.trans ends⟩)
  · refine .inr (.inl ⟨?_, goesOn, event, mem, isComplaint_of_inputEvent has⟩)
    intro other escapes
    cases escapes with
    | input failed silent =>
        cases read.symm.trans failed
        cases has.symm.trans silent
    | making again => cases read.symm.trans again
    | printing produces => cases read.symm.trans produces.1
  · exact .inr (.inr ⟨failure, .input read has, ends⟩)

/-- Work on a document comes to a report unless a failure escapes. -/
theorem hasResult_perform (task : i.task = .document source) :
    HasResult (perform i settings disk).result ↔
      ∀ failure, ¬ Escapes i source settings disk failure := by
  rcases perform_cases task settings disk with ⟨t, data, d, produces, prints, printed⟩ |
    ⟨stays, ends, -⟩ | ⟨failure, escapes, fails⟩
  · exact iff_of_true ⟨_, printed⟩ (produces.not_escapes prints)
  · exact iff_of_true ⟨_, ends⟩ stays
  · refine iff_of_false ?_ fun stays => stays failure escapes
    rw [fails]
    exact not_hasResult_error failure

/-- A report on a document says either that nothing is printed, and then the console shows an
error, or that the summary of a document is. -/
theorem report_cases {arguments : List String} {world : World} {report : Report}
    (asked : Invocation.read arguments = .ok i) (task : i.task = .document source)
    (reported : (run arguments world).result = .ok report) :
    ∃ settings, world.settings = .ok settings ∧
      ((report.code = 1 ∧ report.output = "" ∧
          ∃ r, .logged r ∈ report.notices ∧ r.level = .error) ∨
        (report.code = 0 ∧ ∃ t data d, Produces i source settings report.disk t data d ∧
          report.output = printed d.summary)) := by
  cases configured : world.settings with
  | error failure =>
      rw [run, asked] at reported
      simp only at reported
      rw [result_runInvocation, configured] at reported
      cases reported
  | ok settings =>
      refine ⟨settings, rfl, ?_⟩
      rw [result_run asked configured] at reported
      obtain ⟨⟨routing, disk⟩, opened, reported⟩ := bind_eq_ok.mp reported
      obtain ⟨answer, worked, rfl⟩ := map_eq_ok.mp reported
      rcases perform_cases task settings disk with ⟨t, data, d, produces, -, prints⟩ |
        ⟨-, ends, event, mem, complaint⟩ | ⟨failure, -, fails⟩
      · cases worked.symm.trans prints
        exact .inr ⟨rfl, t, data, d, produces, rfl⟩
      · cases worked.symm.trans ends
        obtain ⟨shown, error⟩ := mem_notices_of_complaint opened mem complaint (1, "")
        exact .inl ⟨rfl, rfl, event.toRecord, shown, error⟩
      · cases worked.symm.trans fails

end Work

end Stencil.Command
