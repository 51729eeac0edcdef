/-
# The shared settings between resets

Once settings are shared, every call gives them until they are forgotten, and none gives them
after that: a serial number that was given out does not come back. The first call afterwards
takes its settings from the environment of that moment.

A call that fails leaves no workshop and does not set the level. Settings that could not be
loaded are not shared either, but settings whose level was refused are, and the next call
gives them as if nothing had happened.
-/

import Stencil.Proofs.Engine.Shared

namespace Stencil.Shared

open Stateful

variable {s t : Shared} {r : Request} {made : Made Settings} {failure : Failure}
variable {serial : Nat} {later : List Request}

theorem lasts_serial_lt (serial : Nat) : Lasts fun s => serial < s.nextSerial := by
  intro s t move lt
  cases move with
  | loadSettings => exact Nat.lt_succ_of_lt lt
  | makeWorkshop => exact Nat.lt_succ_of_lt lt
  | _ => exact lt

/-- Settings of an earlier time: their serial number was given out, and the settings that are
shared now have another one. -/
def IsPast (serial : Nat) (s : Shared) : Prop :=
  serial < s.nextSerial ∧ ∀ made, s.settings = some made → made.serial ≠ serial

theorem lasts_isPast (serial : Nat) : Lasts (IsPast serial) := by
  rintro s t move ⟨lt, other⟩
  refine ⟨lasts_serial_lt serial s t move lt, ?_⟩
  cases move with
  | loadSettings =>
      rintro made ⟨⟩
      exact Nat.ne_of_gt lt
  | _ => exact other

theorem isPast_of_reset (lt : serial < s.nextSerial) : IsPast serial { s with settings := none } :=
  ⟨lt, fun _ shared => nomatch shared⟩

theorem lasts_settings (made : Made Settings) : Lasts fun s => s.settings = some made := by
  intro s t move shared
  cases move with
  | loadSettings missing =>
      rw [missing] at shared
      cases shared
  | _ => exact shared

/-- Settings of an earlier time are not given any more. -/
theorem serial_ne_of_isPast (past : IsPast serial s)
    (gives : (fetchSettings.outcome s).1 = .ok made) : made.serial ≠ serial := by
  have kept := (lasts_isPast serial).keeps_fetchSettings s past
  have shared := settings_of_fetchSettings (Prod.ext gives rfl)
  exact kept.2 made shared

/-- Shared settings are given until the next reset and not after it. -/
theorem fetchSettings_gives_iff (sound : s.IsSound) (shared : s.settings = some made)
    (later : List Request) :
    (fetchSettings.outcome (s.after later)).1 = .ok made ↔ .reset ∉ later := by
  constructor
  · intro gives mem
    -- the reset that the run is split at makes the settings past ones, and no answer undoes that
    obtain ⟨first, rest, rfl⟩ := List.append_of_mem mem
    have lt : made.serial < (s.after first).nextSerial :=
      (lasts_serial_lt made.serial).holds_always (fun _ lt => lt) (sound.serial_lt made shared)
    have past : IsPast made.serial (s.after (first ++ .reset :: rest)) := by
      rw [after_append]
      exact (lasts_isPast made.serial).holds_always
        (s := { s.after first with settings := none })
        (fun _ past => isPast_of_reset past.1) (isPast_of_reset lt)
    exact serial_ne_of_isPast past gives rfl
  · intro kept
    rw [outcome_fetchSettings_of_some ((lasts_settings made).holds_without_reset kept shared)]

/-- The settings that the environment of this moment describes, as a new object. They have to
ask for a level. -/
def newSettings (s : Shared) : Except Failure (Made Settings) := do
  let settings ← s.loadSettings.result
  let _ ← settings.level
  .ok ⟨s.nextSerial, settings⟩

theorem fst_fetchSettings_of_none (missing : s.settings = none) :
    (fetchSettings.outcome s).1 = s.newSettings := by
  have comes := fetches_outcome s
  generalize fetchSettings.outcome s = outcome at comes
  cases comes with
  | shared present =>
      rw [missing] at present
      cases present
  | unloadable _ broken => simp only [newSettings, broken, bind, Except.bind]
  | refused _ loaded refused => simp only [newSettings, loaded, refused, bind, Except.bind]
  | loaded _ loaded asked => simp only [newSettings, loaded, asked, bind, Except.bind]

/-- A call that loads settings sets the level that they ask for. -/
theorem level_of_fetchSettings (missing : s.settings = none)
    (gives : fetchSettings.outcome s = (.ok made, t)) : made.item.level = .ok t.level := by
  have comes := fetches_outcome s
  rw [gives] at comes
  cases comes with
  | shared present =>
      rw [missing] at present
      cases present
  | loaded _ _ asked => exact asked

/-- The requests that cannot be answered without the shared settings: those for a workshop or
an engine are among them as long as there is no shared workshop. -/
def Asks (s : Shared) : Request → Prop
  | .settings => True
  | .workshop | .generate _ _ => s.workshop = none
  | _ => False

theorem outcome_answer_of_asks (asks : s.Asks r)
    (fails : fetchSettings.outcome s = (.error failure, t)) :
    (answer r).outcome s = (.error failure, t) := by
  have workshop (missing : s.workshop = none) : fetchWorkshop.outcome s = (.error failure, t) := by
    rw [outcome_fetchWorkshop, missing]
    simp only [fails]
  cases r with
  | settings => rw [answer, outcome_bind, fails]
  | workshop => rw [answer, outcome_map, workshop asks, Except.map]
  | generate template data =>
      rw [answer, outcome_bind, outcome_buildEngine, workshop asks]
  | _ => exact asks.elim

/-- None of the requests needs the shared settings when its turn comes. -/
def NoneAsks : Shared → List Request → Prop
  | _, [] => True
  | s, r :: later => ¬ s.Asks r ∧ NoneAsks ((answer r).outcome s).2 later

theorem settings_answer_of_not_asks (silent : ¬ s.Asks r) (missing : s.settings = none) :
    ((answer r).outcome s).2.settings = none := by
  cases r with
  | settings => exact absurd trivial silent
  | workshop =>
      obtain ⟨found, present⟩ := Option.ne_none_iff_exists'.mp silent
      rw [answer, outcome_map, outcome_fetchWorkshop_of_some present]
      exact missing
  | generate template data =>
      obtain ⟨found, present⟩ := Option.ne_none_iff_exists'.mp silent
      rw [snd_answer_generate, outcome_buildEngine, outcome_fetchWorkshop_of_some present]
      exact missing
  | reset => rfl
  | _ => exact missing

theorem NoneAsks.settings_after (silent : s.NoneAsks later) (missing : s.settings = none) :
    (s.after later).settings = none := by
  induction later generalizing s with
  | nil => exact missing
  | cons r rest ih => exact ih silent.2 (settings_answer_of_not_asks silent.1 missing)

/-- The shared settings live from the first call that loads them to the next reset. Whatever
was asked for before, a call that gives settings has set their level if it loaded them, and
they are what every call gives until they are forgotten, and none afterwards. The first call
after a reset loads what the environment of that moment describes, as new settings. A call that
fails, however it came about, makes no workshop and sets no level. If the settings could not be
loaded it leaves all as it was, but if their level was refused they stay, and the next call
gives them with the level as it was. -/
theorem fetchSettings_between_resets (reached : s.IsReached) :
    (∀ made t, fetchSettings.outcome s = (.ok made, t) →
        (s.settings = none → made.item.level = .ok t.level) ∧
        ∀ later, (fetchSettings.outcome (t.after later)).1 = .ok made ↔ .reset ∉ later) ∧
      (∀ later, NoneAsks (s.after [.reset]) later →
        (fetchSettings.outcome (s.after (.reset :: later))).1 =
          (s.after (.reset :: later)).newSettings) ∧
      ∀ failure t, fetchSettings.outcome s = (.error failure, t) →
        (∀ r, s.Asks r → (answer r).outcome s = (.error failure, t)) ∧
        t.workshop = s.workshop ∧ t.level = s.level ∧
        ((s.loadSettings.result = .error failure ∧ t = s) ∨
          ∃ settings, s.loadSettings.result = .ok settings ∧ settings.level = .error failure ∧
            t.settings = some ⟨s.nextSerial, settings⟩ ∧
            fetchSettings.outcome t = (.ok ⟨s.nextSerial, settings⟩, t)) := by
  refine ⟨fun made t gives => ⟨fun missing => ?_, ?_⟩, fun later silent => ?_,
    fun failure t fails => ?_⟩
  · exact level_of_fetchSettings missing gives
  · have kept := IsSound.lasts.keeps_fetchSettings s reached.isSound
    rw [gives] at kept
    exact fetchSettings_gives_iff kept (settings_of_fetchSettings gives)
  · have missing : (s.after (.reset :: later)).settings = none := silent.settings_after rfl
    exact fst_fetchSettings_of_none missing
  · refine ⟨fun r asks => outcome_answer_of_asks asks fails, ?_⟩
    have comes := fetches_outcome s
    rw [fails] at comes
    cases comes with
    | unloadable _ broken => exact ⟨rfl, rfl, .inl ⟨broken, rfl⟩⟩
    | refused _ loaded refused =>
        exact ⟨rfl, rfl, .inr ⟨_, loaded, refused, rfl, outcome_fetchSettings_of_some rfl⟩⟩

/-- The level is refused, so that neither settings nor a workshop are given. After a reset and
with a level that there is, settings are loaded. They are given in spite of the next change of
the level, and not after the next reset. -/
theorem fetchSettings_between_resets_errors :
    let s := fresh [("LOG_LEVEL", "BASIC_FORMAT")] (.ok none)
    let u := s.after [.reset, .assign "LOG_LEVEL" "ERROR"]
    s.IsReached ∧ ∃ failure t made v,
      fetchSettings.outcome s = (.error failure, t) ∧
      (answer .workshop).outcome s = (.error failure, t) ∧ t.workshop = none ∧
      u.newSettings = .ok made ∧ fetchSettings.outcome u = (.ok made, v) ∧ v.level = .error ∧
      (fetchSettings.outcome (v.after [.assign "LOG_LEVEL" "INFO", .workshop])).1 = .ok made ∧
      (fetchSettings.outcome (v.after [.reset])).1 ≠ .ok made := by
  intro s u
  have reached : s.IsReached := ⟨_, _, [], rfl⟩
  obtain ⟨-, anew, failing⟩ := fetchSettings_between_resets reached
  have made := anew [.assign "LOG_LEVEL" "ERROR"] ⟨id, trivial⟩
  have reachedLater : u.IsReached := reached.after _
  obtain ⟨giving, -, -⟩ := fetchSettings_between_resets reachedLater
  have refused : (fetchSettings.outcome s).1.toOption.isSome = false := by decide +kernel
  have given : (fetchSettings.outcome u).1.toOption.isSome = true ∧
      (fetchSettings.outcome u).2.level = .error := by decide +kernel
  have absent : s.workshop = none := rfl
  change (fetchSettings.outcome u).1 = u.newSettings at made
  clear_value s u
  rcases fails : fetchSettings.outcome s with ⟨failure | other, t⟩ <;> rw [fails] at refused
  · rcases gives : fetchSettings.outcome u with ⟨failure' | settings, v⟩ <;>
      rw [gives] at given made
    · cases given.1
    · obtain ⟨every, workshop, -⟩ := failing failure t fails
      obtain ⟨-, kept⟩ := giving settings v gives
      exact ⟨reached, failure, t, settings, v, rfl, every .workshop absent,
        workshop.trans absent, made.symm, rfl, given.2, (kept _).mpr (by simp),
        fun again => (kept _).mp again (by simp)⟩
  · cases refused

/-- A name that the log knows for something other than a level is refused, and the settings
that asked for it are shared nevertheless: the next call gives them, and the level is the one
of the start. -/
theorem fetchSettings_shares_refused :
    let s := fresh [("LOG_LEVEL", "BASIC_FORMAT")] (.ok none)
    ∃ failure t made, fetchSettings.outcome s = (.error failure, t) ∧ s.settings = none ∧
      t.settings = some made ∧ fetchSettings.outcome t = (.ok made, t) ∧ t.level = s.level := by
  intro s
  have computed : (fetchSettings.outcome s).1.toOption.isSome = false ∧
      (fetchSettings.outcome s).2.settings.isSome = true ∧
      (fetchSettings.outcome s).2.level = s.level := by decide +kernel
  have missing : s.settings = none := rfl
  clear_value s
  obtain ⟨refused, shared, level⟩ := computed
  obtain ⟨made, present⟩ := Option.isSome_iff_exists.mp shared
  rcases fails : fetchSettings.outcome s with ⟨failure | other, t⟩ <;>
    rw [fails] at refused present level
  · exact ⟨failure, t, made, rfl, missing, present, outcome_fetchSettings_of_some present, level⟩
  · cases refused

end Stencil.Shared
