/-
# How a run ends

A run on a document comes to a report unless something happens that it does not foresee: its
log cannot be opened, a file obstructs the reading, no divider can be as wide as the settings
ask, a pattern of the template is refused, a value or a pattern is nested too deep, or the output
does not take what is printed. Every report says one of two things. Either there is a document,
and one JSON text stands in the output, or there is none, nothing is printed and the console
shows an error. All this holds on every machine.
-/

import Stencil.Proofs.Command.Input
import Stencil.Proofs.Command.Making
import Stencil.Proofs.Command.Report
import Stencil.Proofs.Engine.Causes
import Stencil.Proofs.Engine.Showable

namespace Stencil

variable {settings : Settings} {t : Template} {data : Value} {record : Record} {failure : Failure}

/-- The record that a document is made from under settings. -/
def Settings.prepare (settings : Settings) (t : Template) (record : Record) : Record :=
  if settings.fillsDefaults then record.withDefaults t.declaredFields else record

/-- What it takes to make a document of a record under settings. The machine gets by with the
calls for checking the fields that are found and for showing what the visible sections show, and
no pattern is refused. -/
structure Settings.Suffice [Machine] (settings : Settings) (t : Template) (record : Record) :
    Prop where
  room : ∀ f ∈ t.discovery.fields, f.HasRoom ((settings.prepare t record).value f.key)
  patterns : ∀ f ∈ t.discovery.fields, f.TakesPattern ((settings.prepare t record).value f.key)
  shows : ∀ s ∈ t.sections, s.isVisible (settings.prepare t record) = true →
    ∀ kind ∈ s.kind?, ∀ r, Render.Renderer.ofSettings settings kind = .ok r →
      ∀ shown ∈ r.shownValues s (settings.prepare t record),
        Machine.allows (.showing shown.1 shown.2) = true

theorem Engine.Obeys.prepare_eq [Machine] {e : Engine} (obeys : e.Obeys settings) (t : Template)
    (record : Record) : e.prepare t record = settings.prepare t record := by
  rw [Engine.prepare, Settings.prepare, obeys.fillsDefaults_eq]

/-- A section shows values by an engine that obeys settings exactly if it is visible and the
renderer that the settings describe for its kind shows them. -/
theorem Engine.Obeys.mem_shownValues [Machine] {e : Engine} (obeys : e.Obeys settings)
    {s : TemplateSection} {shown : Occasion × Value} :
    shown ∈ e.renderer.item.registry.shownValues s record ↔
      s.isVisible record = true ∧ ∃ kind ∈ s.kind?, ∃ r,
        Render.Renderer.ofSettings settings kind = .ok r ∧ shown ∈ r.shownValues s record := by
  rw [Render.Registry.shownValues]
  cases s.isVisible record with
  | false => simp
  | true =>
      cases s.kind? with
      | none => simp
      | some kind => simp [obeys.renderer_eq kind]

/-- An engine that obeys settings makes a document of a record that can be shown exactly if the
settings suffice. -/
theorem Engine.Obeys.hasResult_generate [Machine] {e : Engine} (obeys : e.Obeys settings)
    (showable : record.IsShowable) (shown : ∀ i ∈ t.integers, Value.isShowableInt i = true) :
    HasResult (e.generate t (.object record.entries)).result ↔ settings.Suffice t record := by
  rw [Engine.hasResult_generate showable shown, obeys.prepare_eq]
  simp only [obeys.mem_shownValues]
  constructor
  · rintro ⟨room, patterns, shows⟩
    refine ⟨room, patterns, ?_⟩
    intro s mem visible kind known r described shown inside
    exact shows s mem shown ⟨visible, kind, known, r, described, inside⟩
  · rintro ⟨room, patterns, shows⟩
    refine ⟨room, patterns, ?_⟩
    rintro s mem shown ⟨visible, kind, known, r, described, inside⟩
    exact shows s mem visible kind known r described shown inside

/-- A value that is no record is refused for this reason. -/
theorem Value.dataNotRecord_of_asOptionalData (failed : data.asOptionalData = .error failure) :
    ∃ name, failure = .dataNotRecord name := by
  cases data with
  | null | object entries => cases failed
  | _ =>
      cases failed
      exact ⟨_, rfl⟩

theorem Value.isShowable_of_asOptionalData (showable : data.isShowable = true)
    (held : data.asOptionalData = .ok record) : record.IsShowable := by
  cases data with
  | null =>
      cases held
      exact List.forall_mem_nil _
  | object entries =>
      cases held
      exact Value.areEntriesShowable_iff.mp showable
  | _ => cases held

namespace Command

/-- A failure to make a divider has no event. -/
theorem dataEvent_of_divider [Machine] {char : String} {width : Int}
    (failed : Render.divider char width = .error failure) : dataEvent failure = none := by
  unfold Render.divider at failed
  split at failed
  · cases failed
    rfl
  split at failed
  · cases failed
  split at failed
  · cases failed
    rfl
  split at failed
  · cases failed
    rfl
  · cases failed

/-- What keeps a document from being made of a record has no event. -/
theorem dataEvent_of_stopsDocument (stops : failure.StopsDocument) : dataEvent failure = none := by
  cases stops <;> rfl

/-- Of data that can be shown a document is made, or the data are refused with an event, unless
there is no divider or the settings do not suffice. -/
theorem makeDocument_fails_iff [Machine] (settings : Settings) (showable : data.isShowable = true)
    (shown : ∀ i ∈ t.integers, Value.isShowableInt i = true) :
    (∃ failure, (makeDocument settings t data).result = .error failure ∧ dataEvent failure = none) ↔
      ¬ HasResult (Render.divider "-" settings.separatorWidth) ∨
        ∃ record, data.asOptionalData = .ok record ∧ ¬ settings.Suffice t record := by
  rw [result_makeDocument]
  cases described : Engine.ofSettings settings none with
  | error failure =>
      have divider := Engine.ofSettings_eq_error.mp described
      have silent := dataEvent_of_divider divider
      refine iff_of_true ⟨failure, rfl, silent⟩ (.inl ?_)
      rw [divider]
      exact not_hasResult_error failure
  | ok e =>
      have divider : HasResult (Render.divider "-" settings.separatorWidth) := by
        cases made : Render.divider "-" settings.separatorWidth with
        | ok text => exact hasResult_ok text
        | error failure => cases described.symm.trans (Engine.ofSettings_eq_error.mpr made)
      have obeys := Engine.obeys_of_ofSettings described
      rw [or_iff_right (not_not_intro divider)]
      show (∃ failure, (e.generate t data).result = _ ∧ _) ↔ _
      rw [Engine.result_generate]
      cases held : data.asOptionalData with
      | error failure =>
          obtain ⟨name, rfl⟩ := Value.dataNotRecord_of_asOptionalData held
          refine iff_of_false ?_ ?_
          · rintro ⟨failure, ⟨⟩, ⟨⟩⟩
          · rintro ⟨record, ⟨⟩, -⟩
      | ok record =>
          have inside := Value.isShowable_of_asOptionalData showable held
          simp only [Except.ok.injEq, exists_eq_left', ← obeys.hasResult_generate inside shown]
          show (∃ failure, (e.generate t (.object record.entries)).result = _ ∧ _) ↔ _
          cases outcome : (e.generate t (.object record.entries)).result with
          | ok d => simp
          | error failure =>
              have stops := e.failsAsDocument_generate t record failure outcome
              exact iff_of_true ⟨failure, rfl, dataEvent_of_stopsDocument stops⟩
                (not_hasResult_error failure)

/-- Characters are written exactly if the output takes each of them. -/
theorem hasResult_written [Machine] {cs : List Char} :
    HasResult (written cs) ↔ ∀ c ∈ cs, Machine.prints c = true := by
  have taken : (cs.findIdx? fun c => !Machine.prints c) = none ↔
      ∀ c ∈ cs, Machine.prints c = true := by simp
  rw [← taken, written]
  cases cs.findIdx? fun c => !Machine.prints c <;> simp

/-- Half of a pair of code units is read as any other character, but not written. -/
example :
    ((readJson "\"\\ud800\"".toList).bind fun v => written (printedChars v)) =
      .error (.outputUnencodable 1) := by decide

section Runs

variable {i : Invocation} {source : Source} {disk : Files.Disk} {arguments : List String}
  {world : World}

/-- All that a run on a document needs, once its log is open, to come to a report: no file that
it reads obstructs it, and from what is read there is a divider, a document can be made of the
data if they are a record, and the output takes what is printed of it. -/
structure IsForeseen [Machine] (i : Invocation) (source : Source) (settings : Settings)
    (disk : Files.Disk) : Prop where
  template : ∀ path, source = .file path → ¬ Obstructs disk .template path
  data : HasResult (readTemplate disk source).result → ∀ path ∈ i.data, ¬ Obstructs disk .data path
  divider : ∀ t v, (readTemplate disk source).result = .ok t → readData disk i.data = .ok v →
    HasResult (Render.divider "-" settings.separatorWidth)
  making : ∀ t v record, (readTemplate disk source).result = .ok t →
    readData disk i.data = .ok v → v.asOptionalData = .ok record →
      (i.adjust settings).Suffice t record
  printing : ∀ t v d, Produces i source settings disk t v d →
    ∀ c ∈ printedChars d.summary, Machine.prints c = true

/-- A failure escapes exactly where something is not foreseen. -/
theorem isForeseen_iff [Machine] :
    IsForeseen i source settings disk ↔ ∀ failure, ¬ Escapes i source settings disk failure := by
  have making (t : Template) (v : Value) (read : (readTemplate disk source).result = .ok t)
      (given : readData disk i.data = .ok v) :=
    makeDocument_fails_iff (i.adjust settings) (isShowable_of_readData given)
      (isShowableInt_of_readTemplate read)
  constructor
  · intro foreseen failure escapes
    cases escapes with
    | input failed silent =>
        rcases unforeseen_readInput.mp ⟨failure, failed, silent⟩ with ⟨path, same, obstructs⟩ |
          ⟨has, path, mem, obstructs⟩
        · exact foreseen.template path same obstructs
        · exact foreseen.data has path mem obstructs
    | making both failed silent =>
        obtain ⟨read, given⟩ := readInput_eq_ok.mp both
        rcases (making _ _ read given).mp ⟨failure, failed, silent⟩ with undivided |
          ⟨record, held, lacks⟩
        · exact undivided (foreseen.divider _ _ read given)
        · exact lacks (foreseen.making _ _ record read given held)
    | printing produces unwritten =>
        obtain ⟨output, wrote⟩ := hasResult_written.mpr (foreseen.printing _ _ _ produces)
        cases wrote.symm.trans unwritten
  · intro stays
    have foreseen : ¬ Unforeseen (readInput disk source i.data).result := by
      rintro ⟨failure, failed, silent⟩
      exact stays failure (.input failed silent)
    rw [unforeseen_readInput, not_or] at foreseen
    have made (t : Template) (v : Value) (read : (readTemplate disk source).result = .ok t)
        (given : readData disk i.data = .ok v) :=
      not_or.mp ((making t v read given).not.mp (by
        rintro ⟨failure, failed, silent⟩
        exact stays failure (.making (readInput_eq_ok.mpr ⟨read, given⟩) failed silent)))
    refine ⟨?_, ?_, ?_, ?_, ?_⟩
    · intro path same obstructs
      exact foreseen.1 ⟨path, same, obstructs⟩
    · intro has path mem obstructs
      exact foreseen.2 ⟨has, path, mem, obstructs⟩
    · intro t v read given
      exact not_not.mp (made t v read given).1
    · intro t v record read given held
      by_contra lacks
      exact (made t v read given).2 ⟨record, held, lacks⟩
    · intro t v d produces
      refine hasResult_written.mp ?_
      cases wrote : written (printedChars d.summary) with
      | ok output => exact hasResult_ok output
      | error failure => exact absurd (.printing produces wrote) (stays failure)

/-- Without a directory for logs the log opens whatever is on the disk, and leaves it as it is. -/
theorem openLog_of_noDirectory (unlogged : i.logDirectory = none)
    (noDirectory : settings.logDirectory = none) {level : Level}
    (named : settings.level = .ok level) :
    ∃ routing, openLog disk settings i.logDirectory = .ok (routing, disk) := by
  rw [openLog, named, unlogged, Routing.prepare, noDirectory]
  exact ⟨_, rfl⟩

/-- On any machine a run on a document, by settings that load, comes to a report exactly if its
log opens and all that happens after it is foreseen; without a directory for logs only a level
that is none keeps the log from opening. A report says either that nothing is printed, and then
the console shows an error, or that the output is one JSON text, the summary of the document
that was made from the template and the data. -/
theorem reports_iff_isForeseen [Machine] (asked : Invocation.read arguments = .ok i)
    (task : i.task = .document source) (configured : world.settings = .ok settings) :
    (HasResult (run arguments world).result ↔
      ∃ routing disk, openLog world.disk settings i.logDirectory = .ok (routing, disk) ∧
        IsForeseen i source settings disk) ∧
    (i.logDirectory = none → settings.logDirectory = none → ∀ level, settings.level = .ok level →
      ∃ routing, openLog world.disk settings i.logDirectory = .ok (routing, world.disk)) ∧
    ∀ report, (run arguments world).result = .ok report →
      (report.code = 1 ∧ report.output = "" ∧
        ∃ r, .logged r ∈ report.notices ∧ r.level = .error) ∨
      (report.code = 0 ∧ ∃ t data d, Produces i source settings report.disk t data d ∧
        report.output = printed d.summary ∧ Json.readText report.output = .ok d.summary) := by
  refine ⟨?_, ?_, ?_⟩
  · rw [result_run asked configured, hasResult_bind, Prod.exists]
    simp only [hasResult_map, hasResult_perform task, isForeseen_iff]
  · intro unlogged noDirectory level named
    exact openLog_of_noDirectory unlogged noDirectory named
  · intro report reported
    obtain ⟨other, same, complains | ⟨success, t, data, d, produces, prints⟩⟩ :=
      report_cases asked task reported
    · exact .inl complains
    · obtain rfl := Except.ok.inj (configured.symm.trans same)
      refine .inr ⟨success, t, data, d, produces, prints, ?_⟩
      rw [prints]
      exact readText_printed_summary produces.2

/-- A file of data breaks off in the middle of a character. -/
theorem reports_iff_isForeseen_cut_off :
    let arguments := ["--default", "letter-default", "--data", "d.json"]
    let world : World := { disk := { files := [(.ofString "d.json", [0x7B, 0x22, 0xE2, 0x82])] } }
    ∃ i settings report, Invocation.read arguments = .ok i ∧
      i.task = .document (.builtIn "letter-default") ∧ world.settings = .ok settings ∧
      (run arguments world).result = .ok report ∧ report.code = 1 ∧ report.output = "" ∧
      ∃ r, .logged r ∈ report.notices ∧ r.level = .error := by
  intro arguments world
  have asked : Invocation.read arguments =
      .ok ⟨.document (.builtIn "letter-default"), some (.text "d.json"), none, true⟩ := by
    decide +kernel
  obtain ⟨settings, configured⟩ : HasResult world.settings :=
    hasResult_of_isSome (by decide +kernel)
  have code : (run arguments world).result.toOption.any (fun report => report.code == 1) = true :=
    by decide +kernel
  obtain ⟨report, reported, code⟩ := eq_ok_of_toOption_any code
  rcases (reports_iff_isForeseen asked rfl configured).2.2 report reported with
    complains | ⟨success, -⟩
  · exact ⟨_, settings, report, asked, rfl, configured, reported, complains⟩
  · rw [success] at code
    cases code

/-- A template of which one pattern repeats a letter more often than a pattern may say. -/
theorem run_fails_on_refused_pattern :
    let template := "\x7b\"id\": \"t\", \"name\": \"n\", \"fields\": [\x7b\"id\": \"f\", " ++
      "\"key\": \"k\", \"label\": \"L\", " ++
      "\"validation\": \x7b\"pattern\": \"a\x7b4294967295\x7d\"\x7d\x7d]\x7d"
    let data := "\x7b\"k\": \"x\"\x7d"
    let arguments := ["--template", "t.json", "--data", "d.json"]
    let world : World :=
      { disk := { files := [(.ofString "t.json", template.toUTF8.toList),
          (.ofString "d.json", data.toUTF8.toList)] } }
    (∃ i, Invocation.read arguments = .ok i ∧ i.task = .document (.file (.text "t.json")) ∧
      i.logDirectory = none) ∧
      HasResult world.settings ∧
      (run arguments world).result = .error (.patternRefused .repeatTooLarge) := by
  intro template data arguments world
  have asked : Invocation.read arguments =
      .ok ⟨.document (.file (.text "t.json")), some (.text "d.json"), none, true⟩ := by
    decide +kernel
  refine ⟨⟨_, asked, rfl, rfl⟩, hasResult_of_isSome (by decide +kernel), ?_⟩
  have outcome : (run arguments world).result.map (fun _ => ()) =
      .error (.patternRefused .repeatTooLarge) := by decide +kernel
  exact map_eq_error.mp outcome

end Runs

end Command

end Stencil
