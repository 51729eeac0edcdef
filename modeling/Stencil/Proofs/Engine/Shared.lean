/-
# What is shared, over time

Apart from resets, the answers to requests change what is shared by a few moves only:
something is changed around the library, settings are loaded, their level is set, a workshop
is made, and engines are built in it. A property that every move keeps lasts until the next
reset, and one that a reset keeps as well lasts for good. Two such properties hold from the
start on: the serial number of the shared settings was given out, and the shared workshop
makes what its settings describe.
-/

import Stencil.Engine.Shared
import Stencil.Proofs.Engine.Workshop

namespace Stencil.Shared

open Stateful

variable {s t : Shared} {P : Shared → Prop} {made : Made Settings} {requests : List Request}

/-- Nothing is shared yet. -/
def fresh (environment : Environment) (file : Except Failure (Option (List Char))) : Shared :=
  { environment, file }

/-- What is shared after requests, failed ones included. -/
def after (s : Shared) (requests : List Request) : Shared :=
  requests.foldl (fun s r => ((answer r).outcome s).2) s

theorem after_append (s : Shared) (before later : List Request) :
    s.after (before ++ later) = (s.after before).after later :=
  List.foldl_append

theorem after_singleton (s : Shared) (r : Request) : s.after [r] = ((answer r).outcome s).2 := rfl

/-- Settings that were loaded are shared before the level that they ask for is looked at. -/
def keepSettings (s : Shared) (settings : Settings) : Shared :=
  { s with
    settings := some ⟨s.nextSerial, settings⟩
    outerLevel := some (s.outerLevel.getD (settings.level.toOption.getD standardLevel))
    nextSerial := s.nextSerial + 1 }

/-- What a call for the shared settings comes to, and what is shared after it. -/
inductive Fetches (s : Shared) : Except Failure (Made Settings) × Shared → Prop
  | shared {made : Made Settings} (present : s.settings = some made) : Fetches s (.ok made, s)
  | unloadable {failure : Failure} (missing : s.settings = none)
      (broken : s.loadSettings.result = .error failure) : Fetches s (.error failure, s)
  | refused {settings : Settings} {failure : Failure} (missing : s.settings = none)
      (loaded : s.loadSettings.result = .ok settings) (refused : settings.level = .error failure) :
      Fetches s (.error failure, s.keepSettings settings)
  | loaded {settings : Settings} {level : Level} (missing : s.settings = none)
      (loaded : s.loadSettings.result = .ok settings) (asked : settings.level = .ok level) :
      Fetches s (.ok ⟨s.nextSerial, settings⟩, { s.keepSettings settings with level })

theorem fetches_outcome (s : Shared) : Fetches s (fetchSettings.outcome s) := by
  rw [fetchSettings, outcome_bind]
  simp only [outcome_state]
  cases present : s.settings with
  | some made => exact .shared present
  | none =>
      simp only [outcome_bind, outcome_ofTraced]
      cases loaded : s.loadSettings.result with
      | error failure => exact .unloadable present loaded
      | ok settings =>
          simp only [serial, outcome_bind, outcome_state, outcome_change, outcome_pure,
            Traced.result_ofExcept]
          cases asked : settings.level with
          | error failure => simpa [keepSettings, asked] using Fetches.refused present loaded asked
          | ok level => simpa [keepSettings, asked] using Fetches.loaded present loaded asked

theorem outcome_fetchSettings_of_some (shared : s.settings = some made) :
    fetchSettings.outcome s = (.ok made, s) := by
  rw [fetchSettings, outcome_bind]
  simp only [outcome_state, shared]
  rfl

/-- The workshop that is made with shared settings. -/
def newWorkshop (s : Shared) (settings : Made Settings) : SharedWorkshop :=
  ⟨s.nextSerial, settings, { settings := settings.item }⟩

/-- A new workshop is shared. -/
def keepWorkshop (s : Shared) (settings : Made Settings) : Shared :=
  { s with workshop := some (s.newWorkshop settings), nextSerial := s.nextSerial + 1 }

theorem outcome_fetchWorkshop (s : Shared) :
    fetchWorkshop.outcome s =
      match s.workshop with
      | some found => (.ok found, s)
      | none =>
        match fetchSettings.outcome s with
        | (.error failure, between) => (.error failure, between)
        | (.ok settings, between) =>
          (.ok (between.newWorkshop settings), between.keepWorkshop settings) := by
  rw [fetchWorkshop, outcome_bind]
  simp only [outcome_state]
  cases s.workshop with
  | some found => rfl
  | none =>
      simp only [outcome_bind]
      rcases fetchSettings.outcome s with ⟨failure | settings, between⟩ <;> rfl

theorem outcome_fetchWorkshop_of_some {found : SharedWorkshop} (shared : s.workshop = some found) :
    fetchWorkshop.outcome s = (.ok found, s) := by
  rw [outcome_fetchWorkshop, shared]

/-- An engine was asked for in the shared workshop, whatever came of it. -/
def keepBuilt (s : Shared) (found : SharedWorkshop) : Shared :=
  { s with
    workshop := some { found with workshop := ((Engine.build none).outcome found.workshop).2 } }

theorem outcome_buildEngine (s : Shared) :
    buildEngine.outcome s =
      match fetchWorkshop.outcome s with
      | (.error failure, between) => (.error failure, between)
      | (.ok found, between) =>
        (((Engine.build none).outcome found.workshop).1, between.keepBuilt found) := by
  rw [buildEngine, outcome_bind]
  rcases fetchWorkshop.outcome s with ⟨failure | found, between⟩ <;> rfl

theorem snd_answer_settings (s : Shared) :
    ((answer .settings).outcome s).2 = (fetchSettings.outcome s).2 := by
  rw [answer, outcome_bind]
  rcases fetchSettings.outcome s with ⟨failure | made, between⟩ <;> rfl

theorem snd_answer_workshop (s : Shared) :
    ((answer .workshop).outcome s).2 = (fetchWorkshop.outcome s).2 := by
  rw [answer, outcome_map]

/-- What is generated with an engine changes nothing any more. -/
theorem snd_answer_generate (template : Traced Template) (data : Value) (s : Shared) :
    ((answer (.generate template data)).outcome s).2 = (buildEngine.outcome s).2 := by
  rw [answer, outcome_bind]
  rcases buildEngine.outcome s with ⟨failure | engine, between⟩
  · rfl
  · show ((Reply.document <$> ofTraced _).outcome between).2 = between
    rw [outcome_map, outcome_ofTraced]

/-- The changes that make up the answers to all requests but resets. -/
inductive Move : Shared → Shared → Prop
  | surroundings (s : Shared) (environment file) : Move s { s with environment, file }
  | loadSettings {s : Shared} {settings : Settings} (missing : s.settings = none)
      (loaded : s.loadSettings.result = .ok settings) : Move s (s.keepSettings settings)
  | setLevel (s : Shared) (level) : Move s { s with level }
  | makeWorkshop {s : Shared} {settings : Made Settings} (missing : s.workshop = none)
      (present : s.settings = some settings) : Move s (s.keepWorkshop settings)
  | build {s : Shared} {found : SharedWorkshop} (present : s.workshop = some found) :
      Move s (s.keepBuilt found)

/-- A property that is kept by every change but a reset. -/
def Lasts (P : Shared → Prop) : Prop := ∀ s t, Move s t → P s → P t

theorem settings_of_fetchSettings (gives : fetchSettings.outcome s = (.ok made, t)) :
    t.settings = some made := by
  have comes := fetches_outcome s
  rw [gives] at comes
  cases comes with
  | shared present => exact present
  | loaded => rfl

theorem workshop_fetchSettings (s : Shared) : (fetchSettings.outcome s).2.workshop = s.workshop := by
  have comes := fetches_outcome s
  generalize fetchSettings.outcome s = outcome at comes
  cases comes <;> rfl

theorem workshop_of_fetchWorkshop {found : SharedWorkshop}
    (gives : fetchWorkshop.outcome s = (.ok found, t)) : t.workshop = some found := by
  rw [outcome_fetchWorkshop] at gives
  cases shared : s.workshop with
  | some other =>
      rw [shared] at gives
      cases gives
      exact shared
  | none =>
      rw [shared] at gives
      rcases fetched : fetchSettings.outcome s with ⟨failure | settings, between⟩ <;>
        simp only [fetched] at gives <;> cases gives
      rfl

namespace Lasts

theorem keeps_fetchSettings (lasts : Lasts P) : Keeps P fetchSettings := by
  intro s holds
  have kept {settings : Settings} (missing : s.settings = none)
      (loaded : s.loadSettings.result = .ok settings) : P (s.keepSettings settings) :=
    lasts _ _ (.loadSettings missing loaded) holds
  have comes := fetches_outcome s
  generalize fetchSettings.outcome s = outcome at comes
  cases comes with
  | shared => exact holds
  | unloadable => exact holds
  | refused missing loaded => exact kept missing loaded
  | loaded missing loaded => exact lasts _ _ (.setLevel _ _) (kept missing loaded)

theorem keeps_fetchWorkshop (lasts : Lasts P) : Keeps P fetchWorkshop := by
  intro s holds
  rw [outcome_fetchWorkshop]
  cases missing : s.workshop with
  | some found => exact holds
  | none =>
      have fetched := lasts.keeps_fetchSettings s holds
      have absent := (workshop_fetchSettings s).trans missing
      rcases gives : fetchSettings.outcome s with ⟨failure | settings, between⟩ <;>
        rw [gives] at fetched absent
      · exact fetched
      · exact lasts _ _ (.makeWorkshop absent (settings_of_fetchSettings gives)) fetched

theorem keeps_buildEngine (lasts : Lasts P) : Keeps P buildEngine := by
  intro s holds
  rw [outcome_buildEngine]
  have fetched := lasts.keeps_fetchWorkshop s holds
  rcases gives : fetchWorkshop.outcome s with ⟨failure | found, between⟩ <;>
    rw [gives] at fetched
  · exact fetched
  · exact lasts _ _ (.build (workshop_of_fetchWorkshop gives)) fetched

theorem keeps_answer (lasts : Lasts P) {r : Request} (other : r ≠ .reset) :
    Keeps P (answer r) := by
  cases r with
  | assign name value =>
      exact (Keeps.change fun s => lasts _ _ (.surroundings s _ _)).bind fun _ => .pure _
  | remove name =>
      exact (Keeps.change fun s => lasts _ _ (.surroundings s _ _)).bind fun _ => .pure _
  | placeFile file =>
      exact (Keeps.change fun s => lasts _ _ (.surroundings s _ _)).bind fun _ => .pure _
  | settings =>
      exact lasts.keeps_fetchSettings.bind fun made => Keeps.state.bind fun s => .pure _
  | reset => exact absurd rfl other
  | workshop => exact lasts.keeps_fetchWorkshop.map
  | generate template data =>
      exact lasts.keeps_buildEngine.bind fun engine => (Keeps.ofTraced _).map

end Lasts

/-- What every answer of a run keeps holds after the run. -/
theorem holds_after (keeps : ∀ r ∈ requests, Keeps P (answer r)) (holds : P s) :
    P (s.after requests) := Keeps.foldl keeps holds

theorem Lasts.holds_without_reset (lasts : Lasts P) (unreset : .reset ∉ requests) (holds : P s) :
    P (s.after requests) :=
  holds_after (fun _ mem => lasts.keeps_answer fun same => unreset (same ▸ mem)) holds

theorem Lasts.holds_always (lasts : Lasts P) (reset : ∀ s, P s → P { s with settings := none })
    (holds : P s) : P (s.after requests) := by
  refine holds_after (fun r _ => ?_) holds
  cases r with
  | reset => exact (Keeps.change reset).bind fun _ => .pure _
  | _ => exact lasts.keeps_answer nofun

/-- The serial number of the shared settings was given out, and the shared workshop makes what
its settings describe. -/
structure IsSound (s : Shared) : Prop where
  serial_lt : ∀ made, s.settings = some made → made.serial < s.nextSerial
  follows : ∀ found, s.workshop = some found → found.workshop.Follows found.settings.item

theorem IsSound.lasts : Lasts IsSound := by
  rintro s t move ⟨serial_lt, follows⟩
  cases move with
  | surroundings => exact ⟨serial_lt, follows⟩
  | setLevel => exact ⟨serial_lt, follows⟩
  | loadSettings =>
      refine ⟨fun made shared => ?_, follows⟩
      cases shared
      exact Nat.lt_succ_self _
  | makeWorkshop =>
      refine ⟨fun made shared => Nat.lt_succ_of_lt (serial_lt made shared), fun found shared => ?_⟩
      cases shared
      exact Workshop.follows_new _
  | @build found present =>
      refine ⟨serial_lt, fun other shared => ?_⟩
      cases shared
      exact (Workshop.gives_build _ none _ (follows found present)).2

/-- Requests lead here from a time at which nothing was shared. -/
def IsReached (s : Shared) : Prop :=
  ∃ environment file requests, (fresh environment file).after requests = s

theorem IsReached.after (reached : s.IsReached) (later : List Request) :
    (s.after later).IsReached := by
  obtain ⟨environment, file, before, rfl⟩ := reached
  exact ⟨environment, file, before ++ later, after_append _ _ _⟩

theorem IsReached.isSound (reached : s.IsReached) : s.IsSound := by
  obtain ⟨environment, file, before, rfl⟩ := reached
  refine IsSound.lasts.holds_always (fun s sound => ?_) ?_
  · exact ⟨fun _ shared => (nomatch shared), sound.follows⟩
  · exact ⟨fun _ shared => (nomatch shared), fun _ shared => (nomatch shared)⟩

end Stencil.Shared
