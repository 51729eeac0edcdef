/-
# What a log keeps of what is sent to it

A log passes on to the console and to its files exactly the records of certain levels, in order and
whatever channel they come by. It opens unless its directory cannot be made or a directory stands
in the place of one of its files. The level that settings ask for tells debugging from everything
else, but no more than that: a log for warnings or errors alone is given information as well.
-/

import Stencil.Log.Routing
import Stencil.Proofs.Files.Opening
import Stencil.Proofs.Log.Trace
import Stencil.Proofs.Settings.Usable

namespace Stencil

/-- The levels that may be asked for. -/
def Level.documented : List Level := [.debug, .info, .warning, .error]

/-- The records of a level or above, in order. -/
def LogRecord.reaching (level : Level) (records : List LogRecord) : List LogRecord :=
  records.filter fun r => r.level.passes level

namespace Routing

open LogRecord (reaching)

variable {disk after : Files.Disk} {s : Settings} {place : Files.Path} {routing : Routing}
  {route : Route} {records : List LogRecord} {directory : Option Files.Path} {level asked : Level}

/-- The files for logs can be opened in a directory: it can be made, and neither of them is a
directory in it. -/
def CanLogTo (disk : Files.Disk) (place : Files.Path) : Prop :=
  ∃ made, disk.makeDirectories place = .ok made ∧
    made.CanOpen (place.child "info.log") ∧ made.CanOpen (place.child "error.log")

/-- A log honours a level: the console receives the records of this level or above, in order, and
of two files in the directory for logs, if there is one, the first receives those among them that
are information or more, and the second those that are errors or more. -/
structure Honours (routing : Routing) (disk : Files.Disk) (directory : Option Files.Path)
    (level : Level) (records : List LogRecord) : Prop where
  console : routing.received .console records = reaching level records
  files : ∀ place, directory = some place → ∃ info error,
    disk.resolve (place.child "info.log") = .ok info ∧
    disk.resolve (place.child "error.log") = .ok error ∧ info ≠ error ∧
    routing.appended records =
      [(info, reaching .info (reaching level records)),
        (error, reaching .error (reaching level records))]

section Opening

open Files

/-- The files for logs open exactly if they can be opened before either of them is. -/
theorem exists_fileRoutes_iff :
    (∃ opened, fileRoutes disk place = .ok opened) ↔ CanLogTo disk place := by
  have sibling {made between : Disk} {info : Path}
      (touched : made.touch (place.child "info.log") = .ok (info, between)) :
      between.CanOpen (place.child "error.log") ↔ made.CanOpen (place.child "error.log") :=
    Disk.canOpen_sibling_iff touched (by decide) (by decide) (by decide)
  constructor
  · rintro ⟨⟨files, after⟩, opened⟩
    obtain ⟨made, done, opened⟩ := bind_eq_ok.mp opened
    obtain ⟨⟨info, between⟩, touched, opened⟩ := bind_eq_ok.mp opened
    obtain ⟨⟨error, left⟩, touchedNext, -⟩ := bind_eq_ok.mp opened
    have first := Disk.exists_touch_iff.mp ⟨_, touched⟩
    have second := Disk.exists_touch_iff.mp ⟨_, touchedNext⟩
    exact ⟨made, done, first, (sibling touched).mp second⟩
  · rintro ⟨made, done, first, second⟩
    obtain ⟨⟨info, between⟩, touched⟩ := Disk.exists_touch_iff.mpr first
    obtain ⟨⟨error, left⟩, touchedNext⟩ := Disk.exists_touch_iff.mpr ((sibling touched).mpr second)
    exact ⟨_, bind_eq_ok.mpr ⟨made, done, bind_eq_ok.mpr ⟨_, touched, bind_eq_ok.mpr
      ⟨_, touchedNext, rfl⟩⟩⟩⟩

/-- The files for logs lie in the directory, and the disk that is left leads to them. -/
theorem of_fileRoutes {files : List Route} (opened : fileRoutes disk place = .ok (files, after)) :
    ∃ info error, after.resolve (place.child "info.log") = .ok info ∧
      after.resolve (place.child "error.log") = .ok error ∧ info ≠ error ∧
      files = [⟨.file info, .info⟩, ⟨.file error, .error⟩] := by
  obtain ⟨made, -, opened⟩ := bind_eq_ok.mp opened
  obtain ⟨⟨info, between⟩, touched, opened⟩ := bind_eq_ok.mp opened
  obtain ⟨⟨error, left⟩, touchedNext, opened⟩ := bind_eq_ok.mp opened
  cases opened
  have led := Disk.resolve_of_touch touchedNext
    (Disk.resolve_of_touch touched (Disk.of_touch touched).1)
  have ledNext := Disk.resolve_of_touch touchedNext (Disk.of_touch touchedNext).1
  have apart := Disk.ne_of_resolve_child led ledNext (by decide) (by decide) (by decide)
  exact ⟨info, error, led, ledNext, apart, rfl⟩

theorem prepare_of_none (unlogged : directory.or s.logDirectory = none) :
    prepare disk s directory =
      .ok ({ threshold := consoleLevel s, routes := [] ++ [⟨.console, consoleLevel s⟩] }, disk) := by
  rw [prepare, unlogged]
  rfl

theorem prepare_of_some (logged : directory.or s.logDirectory = some place) :
    prepare disk s directory = (fileRoutes disk place).map fun opened =>
      ({ threshold := consoleLevel s, routes := opened.1 ++ [⟨.console, consoleLevel s⟩] },
        opened.2) := by
  rw [prepare, logged]
  simp only
  cases fileRoutes disk place <;> rfl

/-- A log opens exactly if its files can be opened, which it may have none of. -/
theorem exists_prepare_iff : (∃ opened, prepare disk s directory = .ok opened) ↔
    ∀ place, directory.or s.logDirectory = some place → CanLogTo disk place := by
  cases logged : directory.or s.logDirectory with
  | none => simp [prepare_of_none logged]
  | some place =>
      simp only [prepare_of_some logged, ← exists_fileRoutes_iff, map_eq_ok, Option.some.injEq,
        forall_eq']
      exact ⟨fun ⟨_, opened, done, _⟩ => ⟨opened, done⟩, fun ⟨opened, done⟩ => ⟨_, opened, done, rfl⟩⟩

end Opening

section Levels

/-- A record that reaches a level reaches a lower one. -/
theorem passes_of_rank_le {l lower higher : Level} (le : lower.rank ≤ higher.rank)
    (passes : l.passes higher = true) : l.passes lower = true :=
  decide_eq_true (le.trans (of_decide_eq_true passes))

theorem reaching_reaching {lower higher : Level} (le : lower.rank ≤ higher.rank) :
    reaching higher (reaching lower records) = reaching higher records := by
  rw [reaching, reaching, List.filter_filter]
  refine List.filter_congr fun r _ => ?_
  cases passes : r.level.passes higher with
  | false => rfl
  | true => rw [passes_of_rank_le le passes, Bool.and_self]

/-- A route with a threshold that is no lower than that of the log takes what reaches it, from
every channel. -/
theorem taken_eq_reaching (unnamed : routing.libraryThreshold = none)
    (le : routing.threshold.rank ≤ route.threshold.rank) :
    routing.taken route records = reaching route.threshold records := by
  refine List.filter_congr fun r _ => ?_
  have threshold : routing.thresholdOf r = routing.threshold := by
    rw [thresholdOf, unnamed]
    exact ite_self _
  rw [accepts, threshold]
  cases passes : r.level.passes route.threshold with
  | false => exact Bool.and_false _
  | true => rw [passes_of_rank_le le passes, Bool.and_self]

/-- The console takes what reaches the threshold of the log, if it is the last route and the only
one to the console. -/
theorem received_console {files : List Route} (apart : ∀ route ∈ files, route.sink ≠ .console) :
    received { threshold := level, routes := files ++ [⟨.console, level⟩] } .console records =
      reaching level records := by
  have noConsole : files.filter (fun route => route.sink = .console) = [] := by
    simpa [List.filter_eq_nil_iff] using apart
  rw [received, List.filter_append, noConsole, List.nil_append, List.filter_cons_of_pos (by simp),
    List.filter_nil, List.flatMap_singleton]
  exact taken_eq_reaching rfl le_rfl

theorem rank_consoleLevel_le (s : Settings) : (consoleLevel s).rank ≤ Level.info.rank := by
  unfold consoleLevel
  split <;> decide

/-- A log honours the level of its console. -/
theorem honours_consoleLevel (opened : prepare disk s directory = .ok (routing, after))
    (records : List LogRecord) :
    routing.Honours after (directory.or s.logDirectory) (consoleLevel s) records := by
  have le := rank_consoleLevel_le s
  have higher : Level.info.rank ≤ Level.error.rank := by decide
  cases logged : directory.or s.logDirectory with
  | none =>
      rw [prepare_of_none logged] at opened
      cases opened
      exact ⟨received_console nofun, nofun⟩
  | some place =>
      rw [prepare_of_some logged] at opened
      obtain ⟨⟨files, disk'⟩, done, same⟩ := map_eq_ok.mp opened
      cases same
      obtain ⟨info, error, ledInfo, ledError, apart, rfl⟩ := of_fileRoutes done
      refine ⟨received_console (by simp), ?_⟩
      rintro _ ⟨⟩
      refine ⟨info, error, ledInfo, ledError, apart, ?_⟩
      rw [reaching_reaching le, reaching_reaching (le.trans higher)]
      change [(info, taken _ ⟨.file info, .info⟩ records),
        (error, taken _ ⟨.file error, .error⟩ records)] = _
      rw [taken_eq_reaching rfl le, taken_eq_reaching rfl (le.trans higher)]

end Levels

section Asked

variable {sources : Settings.Sources} {word : String}

/-- The level of loaded settings is the word for it in upper case. -/
theorem logLevel_of_load (loaded : (Settings.load sources).result = .ok s)
    (given : Settings.IsGiven sources.given "log_level" (.text "INFO") Schema.readText word) :
    s.logLevel = Text.upper word := by
  obtain ⟨-, -, loaded⟩ := Traced.result_bind_eq_ok.mp loaded
  cases accepted : Settings.read sources.given with
  | refused issues =>
      rw [accepted] at loaded
      cases loaded
  | accepted found =>
      rw [accepted] at loaded
      cases loaded
      obtain ⟨held, own, upper⟩ := (Settings.read_eq_accepted_iff.mp accepted).1.logLevel
      cases own.symm.trans given
      exact upper.symm

/-- Of the levels that may be asked for, debugging is the only one that the console tells from
information. -/
theorem consoleLevel_eq (documented : asked ∈ Level.documented) (named : s.logLevel = asked.name) :
    consoleLevel s = if asked = .debug then .debug else .info := by
  rw [consoleLevel, named]
  simp only [Level.documented, List.mem_cons, List.not_mem_nil, or_false] at documented
  rcases documented with rfl | rfl | rfl | rfl <;> rfl

/-- Two levels are reached by the same records exactly if no record tells them apart. -/
theorem reaching_eq_iff {lower higher : Level} (le : lower.rank ≤ higher.rank) :
    reaching lower records = reaching higher records ↔
      ∀ r ∈ records, r.level.passes lower = true → r.level.passes higher = true := by
  constructor
  · intro same r mem passes
    have kept : r ∈ reaching lower records := List.mem_filter.mpr ⟨mem, passes⟩
    rw [same] at kept
    exact (List.mem_filter.mp kept).2
  · intro reach
    refine List.filter_congr fun r mem => ?_
    rw [Bool.eq_iff_iff]
    exact ⟨reach r mem, passes_of_rank_le le⟩

/-- The level that stands in for a documented one is no higher, and neither is above errors. -/
theorem rank_le_of_documented (documented : asked ∈ Level.documented) :
    (if asked = .debug then .debug else .info : Level).rank ≤ asked.rank ∧
      asked.rank ≤ Level.error.rank := by
  simp only [Level.documented, List.mem_cons, List.not_mem_nil, or_false] at documented
  rcases documented with rfl | rfl | rfl | rfl <;> exact ⟨by decide, by decide⟩

/-- The level that stands in for a documented one is reached by the same records exactly if none
of information or more is below the documented one. -/
theorem reaching_eq_iff_of_documented (documented : asked ∈ Level.documented) :
    reaching (if asked = .debug then .debug else .info) records = reaching asked records ↔
      ∀ r ∈ records, r.level.passes .info = true → r.level.passes asked = true := by
  rw [reaching_eq_iff (rank_le_of_documented documented).1]
  split
  · subst asked
    have le : Level.debug.rank ≤ Level.info.rank := by decide
    exact ⟨fun _ _ _ passes => passes_of_rank_le le passes, fun _ _ _ passes => passes⟩
  · rfl

/-- A log of settings that ask for one of the documented levels, in whatever letter case, opens
exactly if it has no directory or can log to it. Debugging apart, it then honours the level of
information, whatever is asked for; the file for errors is the same either way. So it honours the
level that is asked for exactly if no record of information or more is below this level. -/
theorem honours_asked_level_iff (loaded : (Settings.load sources).result = .ok s)
    (given : Settings.IsGiven sources.given "log_level" (.text "INFO") Schema.readText word)
    (documented : asked ∈ Level.documented) (named : Text.upper word = asked.name)
    (disk : Files.Disk) (directory : Option Files.Path) :
    ((∃ opened, prepare disk s directory = .ok opened) ↔
      ∀ place, directory.or s.logDirectory = some place → CanLogTo disk place) ∧
    ∀ routing after, prepare disk s directory = .ok (routing, after) →
      ∀ records : List LogRecord,
        let kept : Level := if asked = .debug then .debug else .info
        routing.Honours after (directory.or s.logDirectory) kept records ∧
        reaching .error (reaching kept records) = reaching .error (reaching asked records) ∧
        (routing.Honours after (directory.or s.logDirectory) asked records ↔
          ∀ r ∈ records, r.level.passes .info = true → r.level.passes asked = true) := by
  refine ⟨exists_prepare_iff, fun routing after opened records => ?_⟩
  have console := consoleLevel_eq documented ((logLevel_of_load loaded given).trans named)
  have honours := honours_consoleLevel opened records
  rw [console] at honours
  obtain ⟨le, high⟩ := rank_le_of_documented documented
  refine ⟨honours, ?_, ?_⟩
  · rw [reaching_reaching (le.trans high), reaching_reaching high]
  · rw [← reaching_eq_iff_of_documented documented]
    constructor
    · exact fun asks => honours.console.symm.trans asks.console
    · intro same
      obtain ⟨console, files⟩ := honours
      rw [same] at console files
      exact ⟨console, files⟩

/-- Settings from the environment that ask for errors, in mixed case: a log in a new directory
opens, and it does not honour their level for a warning and an error. -/
theorem honours_asked_level_iff_mixed_case :
    let sources : Settings.Sources := { environment := [("log_level", "eRRor")] }
    let records : List LogRecord :=
      [⟨"root", .warning, "low"⟩, ⟨"doctemplate.core", .error, "out"⟩, ⟨"root", .debug, "x"⟩]
    ∃ s routing after info error, (Settings.load sources).result = .ok s ∧
      prepare {} s (some (.ofString "logs")) = .ok (routing, after) ∧
      after.resolve (.ofString "logs/info.log") = .ok info ∧
      after.resolve (.ofString "logs/error.log") = .ok error ∧
      routing.appended records =
        [(info, [⟨"root", .warning, "low"⟩, ⟨"doctemplate.core", .error, "out"⟩]),
          (error, [⟨"doctemplate.core", .error, "out"⟩])] ∧
      ¬ routing.Honours after (some (.ofString "logs")) .error records := by
  intro sources records
  have computed : (Settings.load sources).result.toOption.map Settings.logLevel = some "ERROR" := by
    decide +kernel
  obtain ⟨s, loaded, -⟩ := eq_ok_of_toOption_map computed
  have given :
      Settings.IsGiven sources.given "log_level" (.text "INFO") Schema.readText "eRRor" := by
    unfold Settings.IsGiven
    decide
  have documented : Level.error ∈ Level.documented := by decide
  have named : Text.upper "eRRor" = Level.error.name := by decide
  obtain ⟨opens, does⟩ :=
    honours_asked_level_iff loaded given documented named {} (some (.ofString "logs"))
  have canLog : CanLogTo {} (.ofString "logs") :=
    ⟨{ directories := [⟨"", ["logs"]⟩] }, rfl, ⟨_, rfl, .inr rfl⟩, ⟨_, rfl, .inr rfl⟩⟩
  obtain ⟨⟨routing, after⟩, opened⟩ := opens.mpr (by rintro _ ⟨⟩; exact canLog)
  obtain ⟨honours, -, asked⟩ := does routing after opened records
  obtain ⟨info, error, ledInfo, ledError, -, files⟩ := honours.files _ rfl
  refine ⟨s, routing, after, info, error, loaded, opened, ledInfo, ledError, files, fun all => ?_⟩
  have reach := asked.mp all ⟨"root", .warning, "low"⟩ List.mem_cons_self (by decide)
  exact absurd reach (by decide)

/-- Settings that ask for warnings, and a log that shows information all the same. -/
theorem console_shows_information_at_warning :
    let sources : Settings.Sources := { arguments := [("log_level", .text "Warning")] }
    let r : LogRecord := ⟨"root", .info, "hello"⟩
    ∃ s routing after, (Settings.load sources).result = .ok s ∧ s.logLevel = Level.warning.name ∧
      prepare {} s none = .ok (routing, after) ∧ routing.received .console [r] = [r] ∧
      reaching .warning [r] = [] ∧ ¬ routing.Honours after none .warning [r] := by
  intro sources r
  have computed : (Settings.load sources).result.toOption.map
      (fun s => (s.logLevel, s.logDirectory)) = some ("WARNING", none) := by
    decide +kernel
  obtain ⟨s, loaded, own⟩ := eq_ok_of_toOption_map computed
  obtain ⟨level, unlogged⟩ := Prod.mk.inj own
  have documented : Level.warning ∈ Level.documented := by decide
  have console : consoleLevel s = .info := consoleLevel_eq documented level
  have opened : prepare {} s none = _ := prepare_of_none unlogged
  have shown := (honours_consoleLevel opened [r]).console
  rw [console] at shown
  have silent : reaching .warning [r] = [] := rfl
  refine ⟨s, _, _, loaded, level, opened, ?_, silent, fun honours => ?_⟩
  · rw [console]; exact shown
  · have both := honours.console
    rw [silent, console] at both
    rw [both] at shown
    cases shown

end Asked

end Routing

end Stencil
