/-
# What a workshop gives

What a workshop has made before is what its settings describe, so it makes no difference
whether something is made now or was made earlier. Up to serial numbers every renderer that a
workshop gives, and every engine built in it, is determined by the settings alone. This holds
from the new workshop on, through failures, and after it forgets what it has made.
-/

import Mathlib.Tactic.Choose
import Stencil.Engine.Basic
import Stencil.Proofs.Log.Stateful

namespace Stencil

/-- A thing that was made, with no serial number of its own. -/
def Made.unnumbered {α : Type} (made : Made α) : Made α := ⟨0, made.item⟩

namespace Render

variable {settings : Settings} {kind : SectionKind}

theorem Renderer.kind_of_ofSettings [Machine] {r : Renderer}
    (made : Renderer.ofSettings settings kind = .ok r) : r.kind = kind := by
  cases kind with
  | separator =>
      obtain ⟨text, -, rfl⟩ := map_eq_ok.mp made
      rfl
  | _ =>
      cases made
      rfl

theorem SectionKind.mem_all (kind : SectionKind) : kind ∈ SectionKind.all := by
  cases kind <;> decide

/-- The kinds for which settings describe renderers have them in the list of all. -/
theorem Registry.find?_of_mapM_ofSettings [Machine] {renderers : List Renderer}
    (made : SectionKind.all.mapM (Renderer.ofSettings settings) = .ok renderers)
    (kind : SectionKind) :
    ∃ r, Registry.find? renderers kind = some r ∧ Renderer.ofSettings settings kind = .ok r := by
  have described (kind : SectionKind) : ∃ r, Renderer.ofSettings settings kind = .ok r :=
    hasResult_mapM.mp ⟨renderers, made⟩ kind (SectionKind.mem_all kind)
  choose value described using described
  obtain rfl : renderers = SectionKind.all.map value :=
    eq_map_of_mapM_eq_ok
      (fun kind r other => Except.ok.inj (other.symm.trans (described kind))) made
  have itself (other : SectionKind) : (value other).kind = other :=
    Renderer.kind_of_ofSettings (described other)
  refine ⟨value kind, ?_, described kind⟩
  rw [Registry.find?, List.find?_map]
  simp only [Function.comp_def, itself]
  cases kind <;> rfl

namespace DocumentRenderer

/-- The renderer of whole documents that settings describe. -/
def ofSettings [Machine] (settings : Settings) : Except Failure DocumentRenderer := do
  let renderers ← SectionKind.all.mapM (Renderer.ofSettings settings)
  let registry ← Registry.ofList renderers
  .ok ⟨renderers.map (Made.mk 0), registry⟩

/-- A renderer of whole documents, without the serial numbers of its parts. -/
def unnumbered (d : DocumentRenderer) : DocumentRenderer :=
  { d with parts := d.parts.map Made.unnumbered }

/-- The renderer of whole documents hands each section to the renderer that settings describe
for its kind. -/
theorem renderer_of_ofSettings [Machine] {d : DocumentRenderer} (made : ofSettings settings = .ok d)
    (kind : SectionKind) : Renderer.ofSettings settings kind = .ok (d.registry.renderer kind) := by
  obtain ⟨renderers, all, rest⟩ := bind_eq_ok.mp made
  obtain ⟨registry, complete, whole⟩ := bind_eq_ok.mp rest
  obtain rfl := Except.ok.inj whole
  obtain ⟨r, found, described⟩ := Registry.find?_of_mapM_ofSettings all kind
  rw [Registry.ofList] at complete
  split at complete
  · cases complete
    simpa [found] using described
  · cases complete

/-- Settings describe a renderer of whole documents unless they describe no divider. -/
theorem ofSettings_eq_error [Machine] {failure : Failure} :
    ofSettings settings = .error failure ↔ divider "-" settings.separatorWidth = .error failure := by
  have each : SectionKind.all.mapM (Renderer.ofSettings settings) =
      (divider "-" settings.separatorWidth).map fun text =>
        [.header (.float settings.headerSize), .body (.float settings.bodySize),
         .footer (.float settings.footerSize), .detail (.float settings.headingSize),
         .separator text, .table settings.readsLegacyRows, .signature settings.signatureBlank] := by
    simp only [SectionKind.all, List.mapM_cons, List.mapM_nil, Renderer.ofSettings]
    cases divider "-" settings.separatorWidth <;> rfl
  rw [ofSettings, each]
  cases divider "-" settings.separatorWidth with
  | error other =>
      constructor
      · rintro ⟨⟩
        rfl
      · rintro ⟨⟩
        rfl
  | ok text => exact iff_of_false (by rintro ⟨⟩) (by rintro ⟨⟩)

/-- Settings describe a renderer of whole documents exactly if they describe one of each kind. -/
theorem hasResult_ofSettings [Machine] :
    HasResult (ofSettings settings) ↔ ∀ kind, HasResult (Renderer.ofSettings settings kind) := by
  constructor
  · rintro ⟨document, made⟩ kind
    exact ⟨_, renderer_of_ofSettings made kind⟩
  · intro each
    cases made : ofSettings settings with
    | ok document => exact hasResult_ok document
    | error failure =>
        obtain ⟨rule, described⟩ := each .separator
        rw [Renderer.ofSettings, ofSettings_eq_error.mp made] at described
        cases described

end DocumentRenderer

end Render

namespace Engine

/-- An engine without the serial numbers of its renderers. -/
def unnumbered (e : Engine) : Engine := ⟨e.fillsDefaults, 0, e.renderer.item.unnumbered⟩

theorem generate_unnumbered [Machine] (e : Engine) (t : Template) (data : Value) :
    e.unnumbered.generate t data = e.generate t data := rfl

theorem prepare_unnumbered (e : Engine) (t : Template) (record : Record) :
    e.unnumbered.prepare t record = e.prepare t record := rfl

/-- The engine that the settings of a workshop describe, under settings of its own or those. -/
def ofSettings [Machine] (settings : Settings) (own : Option Settings) : Except Failure Engine :=
  (Render.DocumentRenderer.ofSettings settings).map fun renderer =>
    ⟨(own.getD settings).fillsDefaults, 0, renderer⟩

theorem ofSettings_eq_error [Machine] {settings : Settings} {own : Option Settings}
    {failure : Failure} :
    ofSettings settings own = .error failure ↔
      Render.divider "-" settings.separatorWidth = .error failure := by
  rw [← Render.DocumentRenderer.ofSettings_eq_error, ofSettings]
  cases Render.DocumentRenderer.ofSettings settings <;> simp [Except.map]

/-- An engine that settings describe renders by them, and fills in defaults by its own. -/
theorem renders_of_ofSettings [Machine] {settings : Settings} {own : Option Settings} {e : Engine}
    (described : ofSettings settings own = .ok e.unnumbered) :
    e.fillsDefaults = (own.getD settings).fillsDefaults ∧
      ∀ kind, Render.Renderer.ofSettings settings kind =
        .ok (e.renderer.item.registry.renderer kind) := by
  obtain ⟨document, made, same⟩ := map_eq_ok.mp described
  obtain ⟨fills, renderer⟩ := Engine.mk.inj same
  obtain rfl : document = e.renderer.item.unnumbered := (Made.mk.inj renderer).2
  have rendering := Render.DocumentRenderer.renderer_of_ofSettings made
  exact ⟨fills.symm, rendering⟩

end Engine

namespace Workshop

open Stateful

variable {settings : Settings} {w : Workshop} {kind : SectionKind} {α β γ δ : Type}

/-- A workshop has these settings, and all that it has made is what they describe. -/
structure Follows [Machine] (w : Workshop) (settings : Settings) : Prop where
  settings_eq : w.settings = settings
  sections : ∀ made ∈ w.sections, Render.Renderer.ofSettings settings made.item.kind = .ok made.item
  document : ∀ made, w.document = some made →
    Render.DocumentRenderer.ofSettings settings = .ok made.item.unnumbered

theorem follows_new [Machine] (settings : Settings) : Follows { settings } settings :=
  ⟨rfl, by simp, by simp⟩

/-- In every workshop that follows some settings a computation comes to the same value, or to
the same failure, and the workshop goes on following them. -/
def Gives [Machine] (settings : Settings) (x : Stateful Workshop α) (view : α → β)
    (value : Except Failure β) : Prop :=
  ∀ w : Workshop, w.Follows settings →
    (x.outcome w).1.map view = value ∧ (x.outcome w).2.Follows settings

namespace Gives

variable {x : Stateful Workshop α} {view : α → β} {look : γ → δ} {value : Except Failure β}

theorem pure [Machine] (a : α) : Gives settings (Pure.pure a) view (.ok (view a)) :=
  fun _ follows => ⟨rfl, follows⟩

/-- What comes after a computation goes on from the value that this one gives. -/
theorem bind [Machine] {next : α → Stateful Workshop γ} {later : β → Except Failure δ}
    (first : Gives settings x view value)
    (second : ∀ a, Gives settings (next a) look (later (view a))) :
    Gives settings (x >>= next) look (value.bind later) := by
  intro w follows
  obtain ⟨rfl, between⟩ := first w follows
  rw [outcome_bind]
  rcases comes : x.outcome w with ⟨failure | a, v⟩ <;> rw [comes] at between
  · exact ⟨rfl, between⟩
  · exact second a v between

end Gives

/-- The workshop with one more renderer in store. -/
def keep (w : Workshop) (item : Render.Renderer) : Workshop :=
  { w with
    sections := w.sections ++ [⟨w.nextSerial, item⟩]
    nextSerial := w.nextSerial + 1 }

theorem outcome_renderer [Machine] (w : Workshop) (kind : SectionKind) :
    (renderer kind).outcome w =
      match w.kept? kind with
      | some made => (.ok made, w)
      | none =>
        match Render.Renderer.ofSettings w.settings kind with
        | .error failure => (.error failure, w)
        | .ok item => (.ok ⟨w.nextSerial, item⟩, w.keep item) := by
  rw [renderer, outcome_bind]
  simp only [outcome_state]
  cases w.kept? kind with
  | some made => rfl
  | none =>
      simp only [outcome_bind, outcome_note, outcome_ofTraced, Traced.result_ofExcept]
      cases Render.Renderer.ofSettings w.settings kind with
      | error failure => rfl
      | ok item => rfl

theorem Follows.keep [Machine] {item : Render.Renderer} (follows : w.Follows settings)
    (made : Render.Renderer.ofSettings settings kind = .ok item) :
    (w.keep item).Follows settings := by
  refine ⟨follows.settings_eq, fun other mem => ?_, follows.document⟩
  rcases List.mem_append.mp mem with before | new
  · exact follows.sections other before
  · obtain rfl := List.mem_singleton.mp new
    show Render.Renderer.ofSettings settings item.kind = .ok item
    rw [Render.Renderer.kind_of_ofSettings made, made]

theorem kind_of_kept? {made : Made Render.Renderer} (kept : w.kept? kind = some made) :
    made.item.kind = kind := by
  simpa [kept?] using List.find?_some kept

/-- The renderer of a kind is the one that settings describe, made before or not. -/
theorem gives_renderer [Machine] (settings : Settings) (kind : SectionKind) :
    Gives settings (renderer kind) Made.item (Render.Renderer.ofSettings settings kind) := by
  intro w follows
  rw [outcome_renderer, follows.settings_eq]
  cases kept : w.kept? kind with
  | some made =>
      have described := follows.sections made (List.mem_of_find?_eq_some kept)
      rw [kind_of_kept? kept] at described
      exact ⟨described.symm, follows⟩
  | none =>
      cases made : Render.Renderer.ofSettings settings kind with
      | error failure => exact ⟨rfl, follows⟩
      | ok item => exact ⟨rfl, follows.keep made⟩

theorem gives_renderers [Machine] (settings : Settings) (kinds : List SectionKind) :
    Gives settings (renderers kinds) (List.map Made.item)
      (kinds.mapM (Render.Renderer.ofSettings settings)) := by
  induction kinds with
  | nil => exact .pure []
  | cons kind rest ih =>
      rw [List.mapM_cons]
      exact (gives_renderer settings kind).bind fun first => ih.bind fun others => .pure _

/-- The workshop with a renderer of whole documents in store. -/
def keepDocument (w : Workshop) (item : Render.DocumentRenderer) : Workshop :=
  { w with document := some ⟨w.nextSerial, item⟩, nextSerial := w.nextSerial + 1 }

theorem outcome_documentRenderer [Machine] (w : Workshop) :
    documentRenderer.outcome w =
      match w.document with
      | some made => (.ok made, w)
      | none =>
        match (renderers SectionKind.all).outcome w with
        | (.error failure, between) => (.error failure, between)
        | (.ok parts, between) =>
          match Render.Registry.ofList (parts.map Made.item) with
          | .error failure => (.error failure, between)
          | .ok registry =>
            (.ok ⟨between.nextSerial, parts, registry⟩, between.keepDocument ⟨parts, registry⟩) := by
  rw [documentRenderer, outcome_bind]
  simp only [outcome_state]
  cases w.document with
  | some made => rfl
  | none =>
      simp only [outcome_bind, outcome_note, outcome_ofTraced, Traced.result_ofExcept]
      rcases (renderers SectionKind.all).outcome w with ⟨failure | parts, between⟩
      · rfl
      · simp only
        cases Render.Registry.ofList (parts.map Made.item) with
        | error failure => rfl
        | ok registry => rfl

theorem Follows.keepDocument [Machine] {item : Render.DocumentRenderer}
    (follows : w.Follows settings)
    (made : Render.DocumentRenderer.ofSettings settings = .ok item.unnumbered) :
    (w.keepDocument item).Follows settings := by
  refine ⟨follows.settings_eq, follows.sections, fun other stored => ?_⟩
  obtain rfl := Option.some.inj stored
  exact made

/-- The renderer of whole documents is the one that settings describe, whichever of its parts
were made before. -/
theorem gives_documentRenderer [Machine] (settings : Settings) :
    Gives settings documentRenderer (fun made => made.item.unnumbered)
      (Render.DocumentRenderer.ofSettings settings) := by
  intro w follows
  rw [outcome_documentRenderer]
  cases kept : w.document with
  | some made => exact ⟨(follows.document made kept).symm, follows⟩
  | none =>
      obtain ⟨described, between⟩ := gives_renderers settings SectionKind.all w follows
      rcases built : (renderers SectionKind.all).outcome w with ⟨failure | parts, v⟩ <;>
        rw [built] at described between
      · refine ⟨?_, between⟩
        rw [Render.DocumentRenderer.ofSettings, ← described]
        rfl
      · have whole : Render.DocumentRenderer.ofSettings settings =
            (Render.Registry.ofList (parts.map Made.item)).map fun registry =>
              Render.DocumentRenderer.unnumbered ⟨parts, registry⟩ := by
          rw [Render.DocumentRenderer.ofSettings, ← described]
          cases complete : Render.Registry.ofList (parts.map Made.item) <;>
            simp [bind, Except.bind, Except.map, complete, Render.DocumentRenderer.unnumbered,
              Made.unnumbered, Function.comp_def]
        cases complete : Render.Registry.ofList (parts.map Made.item) with
        | error failure =>
            simp only [complete] at whole ⊢
            exact ⟨whole.symm, between⟩
        | ok registry =>
            simp only [complete] at whole ⊢
            exact ⟨whole.symm, between.keepDocument whole⟩

theorem outcome_build [Machine] (w : Workshop) (own : Option Settings) :
    (Engine.build own).outcome w =
      ((documentRenderer.outcome w).1.map fun renderer =>
          ⟨(own.getD w.settings).fillsDefaults, renderer⟩,
        (documentRenderer.outcome w).2) := by
  rw [Engine.build, outcome_bind]
  simp only [outcome_state, outcome_bind]
  rcases documentRenderer.outcome w with ⟨failure | renderer, after⟩ <;> rfl

/-- The engine that is built is the one that settings describe. -/
theorem gives_build [Machine] (settings : Settings) (own : Option Settings) :
    Gives settings (Engine.build own) Engine.unnumbered (Engine.ofSettings settings own) := by
  intro w follows
  obtain ⟨described, after⟩ := gives_documentRenderer settings w follows
  rw [outcome_build, Engine.ofSettings, ← described, follows.settings_eq]
  refine ⟨?_, after⟩
  cases (documentRenderer.outcome w).1 <;> rfl

theorem gives_clear (settings : Settings) : Gives settings clear id (.ok ()) :=
  fun w follows => ⟨rfl, follows.settings_eq, by simp [clear, outcome_bind],
    by simp [clear, outcome_bind]⟩

end Workshop

end Stencil
