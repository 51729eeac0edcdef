/-
# What the history of a session counts for

In a session one workshop serves all requests, and what it has made for earlier ones is used
again for later ones. This cannot be told from the answers. Up to serial numbers each request
is answered as in a new workshop with the same settings, by the engine that was asked for last,
built in a new workshop as well. So renderers are those that the settings of the workshop
describe, also in an engine that keeps them after the workshop forgot them, and only the
filling in of defaults is settled by the engine.
-/

import Mathlib.Data.List.Induction
import Stencil.Engine.Session
import Stencil.Proofs.Engine.Workshop

namespace Stencil.Session

open Stateful

variable {settings : Settings} {s t : Session} {e : Engine} {α β : Type}

/-- A reply without the serial numbers of what was made. Documents, records and nodes have
none. -/
def Reply.unnumbered : Reply → Reply
  | .renderer made => .renderer made.unnumbered
  | .documentRenderer made => .documentRenderer ⟨0, made.item.unnumbered⟩
  | reply => reply

/-- The session that requests leave, failed ones included. -/
def after (s : Session) (requests : List Request) : Session :=
  requests.foldl (fun s r => ((answer r).outcome s).2) s

/-- Builds an engine under settings of its own or those of the workshop, and puts it in the
place of the one before. -/
def installEngine (own : Option Settings) : Stateful Session Reply := do
  let engine ← inWorkshop (Engine.build own)
  change fun s => { s with engine }
  pure (.engineReplaced engine.fillsDefaults)

theorem answer_replaceEngine_none : answer (.replaceEngine none) = installEngine none := rfl

theorem answer_replaceEngine_some (loading : Traced Settings) :
    answer (.replaceEngine (some loading)) = some <$> ofTraced loading >>= installEngine := rfl

theorem outcome_inWorkshop (x : Stateful Workshop α) (s : Session) :
    (inWorkshop x).outcome s =
      ((x.outcome s.workshop).1, { s with workshop := (x.outcome s.workshop).2 }) := rfl

/-- Two sessions that differ in nothing but in what was made before. -/
structure Resembles (settings : Settings) (s t : Session) : Prop where
  left : s.workshop.Follows settings
  right : t.workshop.Follows settings
  engine : s.engine.unnumbered = t.engine.unnumbered

/-- What a workshop gives by its settings alone, it gives alike in sessions that resemble each
other. -/
theorem runAlike_inWorkshop {x : Stateful Workshop α} {view : α → β} {value : Except Failure β}
    (gives : Workshop.Gives settings x view value) :
    RunAlike (Resembles settings) view (inWorkshop x) (inWorkshop x) := by
  rintro s t ⟨left, right, engine⟩
  obtain ⟨first, left⟩ := gives s.workshop left
  obtain ⟨second, right⟩ := gives t.workshop right
  rw [outcome_inWorkshop, outcome_inWorkshop]
  exact ⟨first.trans second.symm, left, right, engine⟩

theorem runAlike_installEngine (own : Option Settings) :
    RunAlike (Resembles settings) Reply.unnumbered (installEngine own) (installEngine own) := by
  refine (runAlike_inWorkshop (Workshop.gives_build settings own)).bind fun made other same => ?_
  refine (RunAlike.change ?_).bind fun _ _ _ => .pure ?_
  · rintro s t ⟨left, right, -⟩
    exact ⟨left, right, same⟩
  · exact congrArg Reply.engineReplaced (Engine.mk.inj same).1

/-- Sessions that resemble each other answer a request alike, and resemble each other after
it. -/
theorem runAlike_answer (settings : Settings) (r : Request) :
    RunAlike (Resembles settings) Reply.unnumbered (answer r) (answer r) := by
  have engine : RunAlike (Resembles settings) (fun s => s.engine.unnumbered) state state :=
    .state fun s t resembles => resembles.engine
  have renderer := fun kind => runAlike_inWorkshop (Workshop.gives_renderer settings kind)
  have documentRenderer := runAlike_inWorkshop (Workshop.gives_documentRenderer settings)
  cases r with
  | generate template data =>
      refine engine.bind fun s t same => ?_
      have made (u : Template) : s.engine.generate u data = t.engine.generate u data := by
        rw [← Engine.generate_unnumbered, same, Engine.generate_unnumbered]
      simp only [made]
      exact .map_ofTraced
  | prepare template data =>
      refine engine.bind fun s t same => ?_
      refine .bind_ofTraced fun u => .bind_ofTraced fun record => .pure ?_
      rw [← Engine.prepare_unnumbered, same, Engine.prepare_unnumbered]
  | renderer kind =>
      refine .bind_ofTraced fun kind => (renderer kind).map fun made other same => ?_
      rw [Reply.unnumbered, Reply.unnumbered, Made.unnumbered, same, Made.unnumbered]
  | documentRenderer =>
      refine documentRenderer.map fun made other same => ?_
      rw [Reply.unnumbered, same, Reply.unnumbered]
  | renderSection kind part data =>
      refine .bind_ofTraced fun kind => (renderer kind).bind fun made other same => ?_
      rw [same]
      exact .bind_ofTraced fun part => .map_ofTraced
  | dispatch part data =>
      refine documentRenderer.bind fun made other same => ?_
      have registry : made.item.registry = other.item.registry :=
        (Render.DocumentRenderer.mk.inj same).2
      rw [registry]
      exact .bind_ofTraced fun part => .map_ofTraced
  | clear =>
      exact (runAlike_inWorkshop (Workshop.gives_clear settings)).bind fun _ _ _ => .pure rfl
  | replaceEngine own =>
      cases own with
      | none =>
          rw [answer_replaceEngine_none]
          exact runAlike_installEngine none
      | some loading =>
          rw [answer_replaceEngine_some]
          have loaded : RunAlike (Resembles settings) id (some <$> ofTraced loading) _ :=
            .map_ofTraced
          refine loaded.bind ?_
          rintro own _ rfl
          exact runAlike_installEngine own

/-- The engine that a request asks for, built in a new workshop. -/
def Request.engine? (settings : Settings) : Request → Option Engine
  | .replaceEngine none => ((Engine.build none).outcome { settings }).1.toOption
  | .replaceEngine (some loading) =>
    loading.result.toOption.bind fun own =>
      ((Engine.build (some own)).outcome { settings }).1.toOption
  | _ => none

/-- The engine that was asked for last, built in a new workshop. Where none could be built, it
is the one that was there at first. -/
def engineAnew (settings : Settings) (first : Engine) (requests : List Request) : Engine :=
  requests.foldl (fun engine r => (r.engine? settings).getD engine) first

/-- What is done in the workshop leaves the engine. -/
theorem keeps_engine_inWorkshop (x : Stateful Workshop α) :
    Keeps (fun s => s.engine = e) (inWorkshop x) := fun _ same => same

/-- An answer is made up of what is done in the workshop and of the engine that is put in
place, so it keeps what these parts keep. -/
theorem keeps_answer {P : Session → Prop} {r : Request}
    (renderer : ∀ kind, Keeps P (inWorkshop (Workshop.renderer kind)))
    (documentRenderer : Keeps P (inWorkshop Workshop.documentRenderer))
    (clear : r = .clear → Keeps P (inWorkshop Workshop.clear))
    (install : ∀ loading, r = .replaceEngine loading → ∀ own, Keeps P (installEngine own)) :
    Keeps P (answer r) := by
  cases r with
  | generate template data => exact Keeps.state.bind fun s => (Keeps.ofTraced _).map
  | prepare template data =>
      exact Keeps.state.bind fun s => (Keeps.ofTraced _).bind fun t =>
        (Keeps.ofTraced _).bind fun record => .pure _
  | renderer kind => exact (Keeps.ofTraced _).bind fun kind => (renderer kind).map
  | documentRenderer => exact documentRenderer.map
  | renderSection kind part data =>
      exact (Keeps.ofTraced _).bind fun kind => (renderer kind).bind fun made =>
        (Keeps.ofTraced _).bind fun part => (Keeps.ofTraced _).map
  | dispatch part data =>
      exact documentRenderer.bind fun made =>
        (Keeps.ofTraced _).bind fun part => (Keeps.ofTraced _).map
  | clear => exact (clear rfl).bind fun _ => .pure _
  | replaceEngine loading =>
      cases loading with
      | none =>
          rw [answer_replaceEngine_none]
          exact install _ rfl none
      | some loading =>
          rw [answer_replaceEngine_some]
          exact (Keeps.ofTraced _).map.bind fun own => install _ rfl own

theorem keeps_engine_answer {r : Request} (other : ∀ own, r ≠ .replaceEngine own) :
    Keeps (fun s => s.engine = e) (answer r) :=
  keeps_answer (fun _ => keeps_engine_inWorkshop _) (keeps_engine_inWorkshop _)
    (fun _ => keeps_engine_inWorkshop _) fun loading same => absurd same (other loading)

theorem outcome_installEngine (own : Option Settings) (s : Session) :
    (installEngine own).outcome s =
      match (Engine.build own).outcome s.workshop with
      | (.error failure, workshop) => (.error failure, { s with workshop })
      | (.ok engine, workshop) => (.ok (.engineReplaced engine.fillsDefaults), ⟨workshop, engine⟩) := by
  rw [installEngine, outcome_bind, outcome_inWorkshop]
  rcases (Engine.build own).outcome s.workshop with ⟨failure | engine, workshop⟩ <;> rfl

theorem engine_installEngine (follows : s.workshop.Follows settings) (own : Option Settings) :
    ((installEngine own).outcome s).2.engine.unnumbered =
      ((((Engine.build own).outcome { settings }).1.toOption).getD s.engine).unnumbered := by
  have here := (Workshop.gives_build settings own _ follows).1
  have anew := (Workshop.gives_build settings own _ (Workshop.follows_new settings)).1
  rw [← anew] at here
  rw [outcome_installEngine]
  rcases hereNow : (Engine.build own).outcome s.workshop with ⟨failure | engine, _⟩ <;>
    rcases newNow : (Engine.build own).outcome { settings } with ⟨failure' | engine', _⟩ <;>
    rw [hereNow, newNow] at here
  · rfl
  · cases here
  · cases here
  · exact Except.ok.inj here

/-- The engine after a request is the one that the request asks for, if it asks for one and
that can be built. -/
theorem engine_answer (follows : s.workshop.Follows settings) (r : Request) :
    ((answer r).outcome s).2.engine.unnumbered =
      ((r.engine? settings).getD s.engine).unnumbered := by
  by_cases replaces : ∃ own, r = .replaceEngine own
  · obtain ⟨_ | loading, rfl⟩ := replaces
    · rw [answer_replaceEngine_none]
      exact engine_installEngine follows none
    · rw [answer_replaceEngine_some, outcome_bind, outcome_map, Request.engine?]
      simp only [outcome_ofTraced]
      cases loading.result with
      | error failure => rfl
      | ok own => exact engine_installEngine follows (some own)
  · have other : ∀ own, r ≠ .replaceEngine own := fun own same => replaces ⟨own, same⟩
    have asks : r.engine? settings = none := by
      cases r with
      | replaceEngine own => exact absurd rfl (other own)
      | _ => rfl
    rw [keeps_engine_answer other s rfl, asks, Option.getD_none]

theorem after_append (s : Session) (before later : List Request) :
    s.after (before ++ later) = (s.after before).after later :=
  List.foldl_append

theorem after_singleton (s : Session) (r : Request) :
    s.after [r] = ((answer r).outcome s).2 := rfl

/-- A session that began with a new workshop resembles one that has a new workshop now. -/
theorem resembles_after (settings : Settings) (first : Engine) (before : List Request) :
    Resembles settings (after ⟨{ settings }, first⟩ before)
      ⟨{ settings }, engineAnew settings first before⟩ := by
  have new := Workshop.follows_new settings
  induction before using List.reverseRecOn with
  | nil => exact ⟨new, new, rfl⟩
  | append_singleton before r ih =>
      -- the new workshop stays as it is, and only the engine beside it changes with the request
      rw [after_append, after_singleton]
      refine ⟨(runAlike_answer settings r _ _ ih).2.left, new, ?_⟩
      rw [engine_answer ih.left, engineAnew, List.foldl_append]
      show _ = ((r.engine? settings).getD (engineAnew settings first before)).unnumbered
      cases r.engine? settings with
      | none => exact ih.engine
      | some engine => rfl

theorem result_start (settings : Settings) :
    (start settings).result =
      ((Engine.build none).outcome { settings }).1.map fun engine =>
        ⟨((Engine.build none).outcome { settings }).2, engine⟩ := by
  generalize built : (Engine.build none).run { settings } = run
  obtain ⟨engine, workshop⟩ := run
  rw [start, built, outcome, built]
  show (engine >>= fun e => pure (Session.mk workshop e)).result = _
  rw [Traced.result_bind]
  cases engine.result <;> rfl

/-- An opened session is one in which an engine was asked for before anything else. -/
theorem eq_after_of_start (first : Engine) (opened : (start settings).result = .ok s) :
    s = after ⟨{ settings }, first⟩ [.replaceEngine none] := by
  rw [result_start] at opened
  rw [after_singleton, answer_replaceEngine_none, outcome_installEngine]
  rcases built : (Engine.build none).outcome { settings } with ⟨failure | engine, workshop⟩ <;>
    rw [built] at opened <;> cases opened
  rfl

/-- The history of a session cannot be told from its answers. Whatever a session over a new
workshop has been asked for, with any engine in place at first, it answers a request like a new
workshop with the same settings and the engine that was asked for last, built in a new workshop
too: the replies are the same up to serial numbers, and so are the failures. Such an engine
hands its sections to the renderers that the settings of the workshop describe, and fills in
defaults by settings of its own, if it was given any. -/
theorem answer_after_eq_answer_anew (settings : Settings) (first : Engine)
    (before : List Request) :
    (∀ r,
      ((answer r).outcome (after ⟨{ settings }, first⟩ before)).1.map Reply.unnumbered =
        ((answer r).outcome ⟨{ settings }, engineAnew settings first before⟩).1.map
          Reply.unnumbered) ∧
      ∀ own e, ((Engine.build own).outcome { settings }).1 = .ok e →
        e.fillsDefaults = (own.getD settings).fillsDefaults ∧
          ∀ kind, Render.Renderer.ofSettings settings kind =
            .ok (e.renderer.item.registry.renderer kind) := by
  refine ⟨fun r => ?_, fun own e built => ?_⟩
  · exact (runAlike_answer settings r _ _ (resembles_after settings first before)).1
  · have described := (Workshop.gives_build settings own _ (Workshop.follows_new settings)).1
    rw [built] at described
    exact Engine.renders_of_ofSettings described.symm

/-- An opened session gets an engine under other settings, forgets its renderers, is asked for
a kind that there is none of and makes some renderers again. The rule of the next document is
as wide as the settings of the workshop say, and no default is filled in, as the engine has
it. -/
theorem answer_after_eq_answer_anew_letter :
    let settings : Settings :=
      { separatorWidth := 3, signatureBlank := "..", readsLegacyRows := false
        fillsDefaults := true, headerSize := .ofInt 18, headingSize := .ofInt 13
        bodySize := .ofInt 11, footerSize := .ofInt 9, logLevel := "INFO", logDirectory := none }
    let own : Settings := { settings with separatorWidth := 5, fillsDefaults := false }
    let first : Engine := ⟨true, 0, [], .standard⟩
    let requests : List Request :=
      [.replaceEngine (some (pure own)), .clear, .renderer (.text "chart"), .renderer (.text "table")]
    let name : Field :=
      { id := "n", key := "name", label := "Name", defaultValue := some (.text "you") }
    let t : Template :=
      { id := "letter", name := "Letter", fields := [name],
        sections :=
          [{ id := "rule", kindName := "separator" },
           { id := "greeting", kindName := "body", content := some "Dear \x7b\x7bname\x7d\x7d" }] }
    let r : Request := .generate (pure t) .null
    let nodes : List Render.Node :=
      [{ kind := .separator, sectionId := "rule", divider := some "---" },
       { kind := .body, sectionId := "greeting", style := some { size := .float (.ofInt 11) },
         text := some "Dear " }]
    ∃ s d e, (start settings).result = .ok s ∧
      ((answer r).outcome (s.after requests)).1 = .ok (.document d) ∧ d.nodes = nodes ∧
      ((answer r).outcome ⟨{ settings },
        engineAnew settings first (.replaceEngine none :: requests)⟩).1 = .ok (.document d) ∧
      ((Engine.build (some own)).outcome { settings }).1 = .ok e ∧ e.fillsDefaults = false ∧
      e.renderer.item.registry.renderer .separator = .separator "---" := by
  intro settings own first requests name t r nodes
  obtain ⟨s, opened⟩ : HasResult (start settings).result :=
    hasResult_of_isSome (by decide)
  obtain ⟨e, built⟩ : HasResult ((Engine.build (some own)).outcome { settings }).1 :=
    hasResult_of_isSome (by decide)
  have computed : (match ((answer r).outcome ⟨{ settings },
      engineAnew settings first (.replaceEngine none :: requests)⟩).1 with
    | .ok (.document d) => some d.nodes
    | _ => none) = some nodes := by decide +kernel
  have rule : Render.Renderer.ofSettings settings .separator = .ok (.separator "---") := by
    decide
  have agreed := answer_after_eq_answer_anew settings first (.replaceEngine none :: requests)
  have history : s.after requests = after ⟨{ settings }, first⟩ (.replaceEngine none :: requests) := by
    rw [eq_after_of_start first opened, ← after_append, List.singleton_append]
  have keepsGaps : own.fillsDefaults = false := rfl
  clear_value settings own first requests name t r nodes
  obtain ⟨fills, renders⟩ := agreed.2 (some own) e built
  have same := agreed.1 r
  rw [← history] at same
  cases anew : ((answer r).outcome ⟨{ settings },
      engineAnew settings first (.replaceEngine none :: requests)⟩).1 with
  | error failure =>
      rw [anew] at computed
      cases computed
  | ok reply =>
      rw [anew] at computed same
      cases reply with
      | document d =>
          obtain ⟨answered, given, unnumbered⟩ := map_eq_ok.mp same
          cases answered with
          | document other =>
              cases unnumbered
              exact ⟨s, d, e, opened, given, Option.some.inj computed, rfl, built,
                fills.trans keepsGaps,
                Except.ok.inj ((renders .separator).symm.trans rule)⟩
          | _ => cases unnumbered
      | _ => cases computed

end Stencil.Session
