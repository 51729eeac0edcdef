/-
# The settings of the shared workshop

The shared workshop is made once, with the settings that are shared at that moment, and there
is no request that forgets it. So it follows those settings ever after, and with it every
engine that brings no settings of its own. Whether they are still the shared settings depends
on the resets since then, and on nothing else: a reset parts the two for good.
-/

import Stencil.Proofs.Engine.Shared.Settings

namespace Stencil.Shared

open Stateful

variable {s t : Shared} {settings : Made Settings} {serial : Nat} {found : SharedWorkshop}

/-- The workshop of this serial number is shared, with the settings that it was made with. -/
def HasWorkshop (serial : Nat) (settings : Made Settings) (s : Shared) : Prop :=
  ∃ workshop, s.workshop = some ⟨serial, settings, workshop⟩

theorem lasts_hasWorkshop (serial : Nat) (settings : Made Settings) :
    Lasts (HasWorkshop serial settings) := by
  rintro s t move ⟨workshop, present⟩
  cases move with
  | makeWorkshop missing =>
      rw [missing] at present
      cases present
  | build found =>
      rw [found] at present
      cases present
      exact ⟨_, rfl⟩
  | _ => exact ⟨workshop, present⟩

theorem HasWorkshop.after (has : HasWorkshop serial settings s) (requests : List Request) :
    HasWorkshop serial settings (s.after requests) :=
  (lasts_hasWorkshop serial settings).holds_always (fun _ has => has) has

theorem hasWorkshop_of_fetchWorkshop (gives : fetchWorkshop.outcome s = (.ok found, t)) :
    HasWorkshop found.serial found.settings t :=
  ⟨found.workshop, workshop_of_fetchWorkshop gives⟩

theorem HasWorkshop.fetchWorkshop (has : HasWorkshop serial settings s) :
    ∃ workshop, (Shared.fetchWorkshop.outcome s).1 = .ok ⟨serial, settings, workshop⟩ := by
  obtain ⟨workshop, present⟩ := has
  exact ⟨workshop, by rw [outcome_fetchWorkshop_of_some present]⟩

/-- What holds in the end and not at the start begins to hold at the turn of some request. -/
theorem exists_turn {Q : Shared → Prop} {requests : List Request} (start : ¬ Q s)
    (finish : Q (s.after requests)) :
    ∃ earlier turn later, requests = earlier ++ turn :: later ∧ ¬ Q (s.after earlier) ∧
      Q (s.after (earlier ++ [turn])) := by
  induction requests generalizing s with
  | nil => exact absurd finish start
  | cons r rest ih =>
      by_cases now : Q (s.after [r])
      · exact ⟨[], r, rest, rfl, start, now⟩
      · obtain ⟨earlier, turn, later, rfl, before, after⟩ := ih now finish
        exact ⟨r :: earlier, turn, later, rfl, before, after⟩

/-- A workshop that is not there yet is made with the settings that a call gives, if it gives
any. -/
theorem fetchWorkshop_makes (missing : s.workshop = none) :
    (∃ failure between, fetchWorkshop.outcome s = (.error failure, between) ∧
        between.workshop = none) ∨
      ∃ settings between, fetchSettings.outcome s = (.ok settings, between) ∧
        fetchWorkshop.outcome s =
          (.ok (between.newWorkshop settings), between.keepWorkshop settings) := by
  have absent := (workshop_fetchSettings s).trans missing
  rw [outcome_fetchWorkshop, missing]
  rcases fetched : fetchSettings.outcome s with ⟨failure | settings, between⟩ <;>
    rw [fetched] at absent
  · exact .inl ⟨failure, between, rfl, absent⟩
  · exact .inr ⟨settings, between, rfl, rfl⟩

/-- The request at whose turn the shared workshop is made leaves the settings shared that it
was made with, which are those that a call would have given before. -/
theorem settings_of_turn {turn : Request} (missing : s.workshop = none)
    (present : (s.after [turn]).workshop ≠ none) :
    ∃ serial settings, (fetchSettings.outcome s).1 = .ok settings ∧
      (s.after [turn]).settings = some settings ∧
      HasWorkshop serial settings (s.after [turn]) := by
  rw [after_singleton] at present ⊢
  cases turn with
  | settings =>
      rw [snd_answer_settings, workshop_fetchSettings] at present
      exact absurd missing present
  | workshop =>
      rw [snd_answer_workshop] at present ⊢
      obtain ⟨failure, between, fails, absent⟩ | ⟨settings, between, fetched, makes⟩ :=
        fetchWorkshop_makes missing
      · rw [fails] at present
        exact absurd absent present
      · have shared : between.settings = some settings := settings_of_fetchSettings fetched
        rw [fetched, makes]
        exact ⟨_, settings, rfl, shared, _, rfl⟩
  | generate template data =>
      rw [snd_answer_generate, outcome_buildEngine] at present ⊢
      obtain ⟨failure, between, fails, absent⟩ | ⟨settings, between, fetched, makes⟩ :=
        fetchWorkshop_makes missing
      · rw [fails] at present
        exact absurd absent present
      · have shared : between.settings = some settings := settings_of_fetchSettings fetched
        rw [fetched, makes]
        exact ⟨_, settings, rfl, shared, _, rfl⟩
  | _ => exact absurd missing present

/-- An engine that brings no settings is built in the shared workshop, so it renders and fills
in defaults by the settings of the workshop. -/
theorem buildEngine_follows (sound : s.IsSound) (gives : fetchWorkshop.outcome s = (.ok found, t))
    {engine : Engine} (built : (buildEngine.outcome s).1 = .ok engine) :
    engine.fillsDefaults = found.settings.item.fillsDefaults ∧
      ∀ kind, Render.Renderer.ofSettings found.settings.item kind =
        .ok (engine.renderer.item.registry.renderer kind) := by
  have kept := IsSound.lasts.keeps_fetchWorkshop s sound
  rw [gives] at kept
  have follows := kept.follows found (workshop_of_fetchWorkshop gives)
  have described := (Workshop.gives_build found.settings.item none _ follows).1
  rw [outcome_buildEngine, gives] at built
  rw [built] at described
  exact Engine.renders_of_ofSettings described.symm

/-- The shared workshop keeps the settings that it was made with. From the start on, whenever it
is given, it is the one that is given ever after, and an engine that brings no settings renders
and fills in defaults by its settings. They are those that a call would have given at the turn
at which there was first a workshop, and they are those that a call would give now exactly if
there was no reset since then. -/
theorem fetchWorkshop_keeps_settings {environment : Environment}
    {file : Except Failure (Option (List Char))} {before : List Request}
    (gives : fetchWorkshop.outcome ((fresh environment file).after before) = (.ok found, t)) :
    (∀ more, ∃ workshop,
        (fetchWorkshop.outcome (t.after more)).1 = .ok { found with workshop }) ∧
      (∀ engine, (buildEngine.outcome ((fresh environment file).after before)).1 = .ok engine →
        engine.fillsDefaults = found.settings.item.fillsDefaults ∧
        ∀ kind, Render.Renderer.ofSettings found.settings.item kind =
          .ok (engine.renderer.item.registry.renderer kind)) ∧
      ∃ earlier turn later, before ++ [.workshop] = earlier ++ turn :: later ∧
        ((fresh environment file).after earlier).workshop = none ∧
        ((fresh environment file).after (earlier ++ [turn])).workshop ≠ none ∧
        (fetchSettings.outcome ((fresh environment file).after earlier)).1 = .ok found.settings ∧
        ((fetchSettings.outcome t).1 = .ok found.settings ↔ .reset ∉ later) := by
  have sound (requests : List Request) : IsSound ((fresh environment file).after requests) :=
    IsReached.isSound ⟨environment, file, requests, rfl⟩
  -- the request for the workshop is part of the history, as it may be the one that makes it
  have here : (fresh environment file).after (before ++ [.workshop]) = t := by
    rw [after_append, after_singleton, snd_answer_workshop, gives]
  have has := hasWorkshop_of_fetchWorkshop gives
  refine ⟨fun more => (has.after more).fetchWorkshop,
    fun engine built => buildEngine_follows (sound before) gives built, ?_⟩
  have start : ¬ (fresh environment file).workshop ≠ none := fun present => present rfl
  have finish : ((fresh environment file).after (before ++ [.workshop])).workshop ≠ none := by
    rw [here, workshop_of_fetchWorkshop gives]
    exact nofun
  obtain ⟨earlier, turn, later, history, missing, present⟩ :=
    exists_turn (Q := fun s => s.workshop ≠ none) start finish
  refine ⟨earlier, turn, later, history, not_not.mp missing, present, ?_⟩
  have made := sound (earlier ++ [turn])
  rw [history, List.append_cons, after_append] at here
  rw [after_append] at present made here
  obtain ⟨serial, settings, fetched, shared, new⟩ := settings_of_turn (not_not.mp missing) present
  have same : found.settings = settings := by
    obtain ⟨workshop, stillThere⟩ := new.after later
    rw [here, workshop_of_fetchWorkshop gives] at stillThere
    cases stillThere
    rfl
  rw [same, ← here]
  exact ⟨fetched, fetchSettings_gives_iff made shared later⟩

/-- Settings are shared before the workshop is made, and after it the environment asks for
another width without a reset. Workshop, settings and engine agree on the old one. -/
theorem fetchWorkshop_keeps_settings_width :
    let s := (fresh [("SEPARATOR_WIDTH", "7")] (.ok none)).after
      [.settings, .workshop, .assign "SEPARATOR_WIDTH" "9"]
    ∃ found t engine, fetchWorkshop.outcome s = (.ok found, t) ∧
      found.settings.item.separatorWidth = 7 ∧
      (fetchSettings.outcome t).1 = .ok found.settings ∧
      (buildEngine.outcome s).1 = .ok engine ∧
      engine.renderer.item.registry.renderer .separator = .separator "-------" := by
  intro s
  have reached : s = (fresh [("SEPARATOR_WIDTH", "7")] (.ok none)).after
      [.settings, .workshop, .assign "SEPARATOR_WIDTH" "9"] := rfl
  have computed :
      (fetchWorkshop.outcome s).1.toOption.map (fun found =>
        (found.settings.item.separatorWidth,
          (Render.Renderer.ofSettings found.settings.item .separator).toOption)) =
        some (7, some (.separator "-------")) ∧
      (buildEngine.outcome s).1.toOption.isSome = true := by decide +kernel
  clear_value s
  obtain ⟨computed, engine, built⟩ := And.imp_right hasResult_of_isSome computed
  rcases gives : fetchWorkshop.outcome s with ⟨failure | found, t⟩ <;> rw [gives] at computed
  · cases computed
  · obtain ⟨width, rule⟩ := Prod.mk.inj (Option.some.inj computed)
    rw [reached] at gives built
    obtain ⟨-, renders, earlier, turn, later, history, -, -, -, agree⟩ :=
      fetchWorkshop_keeps_settings gives
    have kept : .reset ∉ later := by
      intro mem
      have there : Request.reset ∈ earlier ++ turn :: later := by simp [mem]
      rw [← history] at there
      simp at there
    have rendered := (renders engine built).2 .separator
    rw [rendered] at rule
    refine ⟨found, t, engine, rfl, width, agree.mpr kept, ?_, Option.some.inj rule⟩
    rw [reached, built]

/-- A reset parts the shared workshop from the shared settings: they have the width that the
environment asks for by then, and the workshop and the engines built in it keep the one that it
was made with. -/
theorem fetchWorkshop_outdated_after_reset :
    let s := (fresh [("SEPARATOR_WIDTH", "7")] (.ok none)).after
      [.workshop, .assign "SEPARATOR_WIDTH" "9", .reset]
    ∃ found made engine, (fetchWorkshop.outcome s).1 = .ok found ∧
      (fetchSettings.outcome s).1 = .ok made ∧ found.settings ≠ made ∧
      made.item.separatorWidth = 9 ∧ (buildEngine.outcome s).1 = .ok engine ∧
      engine.renderer.item.registry.renderer .separator = .separator "-------" := by
  intro s
  have computed :
      (fetchWorkshop.outcome s).1.toOption.map (fun found => found.settings.item.separatorWidth) =
        some 7 ∧
      (fetchSettings.outcome s).1.toOption.map (fun made => made.item.separatorWidth) = some 9 ∧
      (buildEngine.outcome s).1.toOption.map
        (fun engine => engine.renderer.item.registry.renderer .separator) =
        some (.separator "-------") := by decide +kernel
  clear_value s
  obtain ⟨old, new, rendered⟩ := computed
  obtain ⟨found, given, seven⟩ := eq_ok_of_toOption_map old
  obtain ⟨made, fetched, nine⟩ := eq_ok_of_toOption_map new
  obtain ⟨engine, built, rule⟩ := eq_ok_of_toOption_map rendered
  refine ⟨found, made, engine, given, fetched, fun same => ?_, nine, built, rule⟩
  rw [same, nine] at seven
  cases seven

end Stencil.Shared
