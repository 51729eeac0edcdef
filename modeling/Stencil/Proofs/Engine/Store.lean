/-
# What a workshop has in store

Until it forgets, a workshop changes in two ways only: one more renderer is put in store, or the
renderer of whole documents is assembled from the seven that are there. Each change puts one
new thing in store, under the next serial number, and leaves the others where they are. So
things in store stay there and differ in their numbers, and a number that was in use before the
workshop forgot never comes back. Whenever a renderer of whole documents is in store, it is made
of the very renderers in store.
-/

import Stencil.Engine.Session
import Stencil.Proofs.Engine.Workshop

namespace Stencil

namespace Session

/-- What is asked of a workshop: the renderer of a kind, or that of whole documents. -/
inductive Wanted
  | part (kind : SectionKind)
  | whole

namespace Wanted

/-- The request for it. -/
def request : Wanted → Request
  | .part kind => .renderer (.text kind.name)
  | .whole => .documentRenderer

/-- What a workshop does to give it. -/
def give : Wanted → Stateful Workshop Reply
  | .part kind => Reply.renderer <$> Workshop.renderer kind
  | .whole => Reply.documentRenderer <$> Workshop.documentRenderer

/-- Settings describe what is wanted, with all its parts. -/
def IsDescribed (settings : Settings) : Wanted → Prop
  | .part kind => HasResult (Render.Renderer.ofSettings settings kind)
  | .whole => ∀ kind, HasResult (Render.Renderer.ofSettings settings kind)

end Wanted

/-- The serial number of the renderer that was given. -/
def Reply.serial? : Reply → Option Nat
  | .renderer made => some made.serial
  | .documentRenderer made => some made.serial
  | _ => none

end Session

namespace Workshop

open Stateful Session

variable {settings : Settings} {w v : Workshop} {kind : SectionKind} {x y : Wanted}
  {reply other new : Reply} {n : Nat} {P : Workshop → Prop}

/-- The changes that make up all that a workshop does but forgetting. -/
inductive Move : Workshop → Workshop → Prop
  | make {w : Workshop} {kind : SectionKind} {item : Render.Renderer}
      (missing : w.kept? kind = none)
      (described : Render.Renderer.ofSettings w.settings kind = .ok item) : Move w (w.keep item)
  | assemble {w : Workshop} {parts : List (Made Render.Renderer)} {registry : Render.Registry}
      (missing : w.document = none) (stored : parts.map some = SectionKind.all.map w.kept?)
      (complete : Render.Registry.ofList (parts.map Made.item) = .ok registry) :
      Move w (w.keepDocument ⟨parts, registry⟩)

/-- A property that is kept by every change but forgetting. -/
def Lasts (P : Workshop → Prop) : Prop := ∀ w v, Move w v → P w → P v

theorem kept?_keep_self {item : Render.Renderer} (missing : w.kept? item.kind = none) :
    (w.keep item).kept? item.kind = some ⟨w.nextSerial, item⟩ := by
  rw [kept?] at missing ⊢
  simp [keep, missing]

theorem kept?_keep_of_ne {item : Render.Renderer} (other : kind ≠ item.kind) :
    (w.keep item).kept? kind = w.kept? kind := by
  simp [keep, kept?, other.symm]

/-- What is kept in making a renderer is kept in giving one. -/
theorem keeps_renderer
    (making : ∀ w kind item, w.kept? kind = none →
      Render.Renderer.ofSettings w.settings kind = .ok item → P w → P (w.keep item))
    (kind : SectionKind) : Keeps P (renderer kind) := by
  intro w holds
  rw [outcome_renderer]
  cases missing : w.kept? kind with
  | some made => exact holds
  | none =>
      cases described : Render.Renderer.ofSettings w.settings kind with
      | error failure => exact holds
      | ok item => exact making w kind item missing described holds

theorem keeps_renderers
    (making : ∀ w kind item, w.kept? kind = none →
      Render.Renderer.ofSettings w.settings kind = .ok item → P w → P (w.keep item))
    (kinds : List SectionKind) : Keeps P (renderers kinds) := by
  induction kinds with
  | nil => exact .pure []
  | cons kind rest ih =>
      exact (keeps_renderer making kind).bind fun first => ih.bind fun others => .pure _

/-- What is in store stays there while renderers are made. -/
theorem keeps_kept? {made : Made Render.Renderer} (kinds : List SectionKind) :
    Keeps (fun w => w.kept? kind = some made) (renderers kinds) := by
  refine keeps_renderers (fun w other item missing described kept => ?_) kinds
  rw [kept?_keep_of_ne, kept]
  rintro rfl
  rw [Render.Renderer.kind_of_ofSettings described, missing] at kept
  cases kept

/-- A renderer that is given is in store then. -/
theorem kept?_of_renderer {made : Made Render.Renderer}
    (gives : (renderer kind).outcome w = (.ok made, v)) : v.kept? kind = some made := by
  rw [outcome_renderer] at gives
  cases missing : w.kept? kind with
  | some other =>
      rw [missing] at gives
      cases gives
      exact missing
  | none =>
      cases described : Render.Renderer.ofSettings w.settings kind with
      | error failure =>
          rw [missing, described] at gives
          cases gives
      | ok item =>
          rw [missing, described] at gives
          cases gives
          obtain rfl := Render.Renderer.kind_of_ofSettings described
          exact kept?_keep_self missing

/-- Renderers that are given one after the other are all in store in the end. -/
theorem kept?_of_renderers {kinds : List SectionKind} {parts : List (Made Render.Renderer)}
    (gives : (renderers kinds).outcome w = (.ok parts, v)) :
    parts.map some = kinds.map v.kept? := by
  induction kinds generalizing w parts with
  | nil =>
      cases gives
      rfl
  | cons kind rest ih =>
      rw [renderers, outcome_bind] at gives
      rcases one : (renderer kind).outcome w with ⟨failure | first, between⟩ <;>
        simp only [one] at gives
      · cases gives
      rw [outcome_bind] at gives
      rcases all : (renderers rest).outcome between with ⟨failure | others, after⟩ <;>
        simp only [all, outcome_pure] at gives <;> cases gives
      have kept := keeps_kept? rest between (kept?_of_renderer one)
      rw [all] at kept
      rw [List.map_cons, List.map_cons, ih all, kept]

theorem document_renderers (kinds : List SectionKind) :
    Keeps (fun v => v.document = w.document) (renderers kinds) :=
  keeps_renderers (fun _ _ _ _ _ same => same) kinds

namespace Lasts

theorem making (lasts : Lasts P) (w : Workshop) (kind : SectionKind) (item : Render.Renderer)
    (missing : w.kept? kind = none)
    (described : Render.Renderer.ofSettings w.settings kind = .ok item) (holds : P w) :
    P (w.keep item) :=
  lasts _ _ (.make missing described) holds

theorem keeps_documentRenderer (lasts : Lasts P) : Keeps P documentRenderer := by
  intro w holds
  rw [outcome_documentRenderer]
  cases missing : w.document with
  | some made => exact holds
  | none =>
      have made := keeps_renderers lasts.making SectionKind.all w holds
      have absent := document_renderers SectionKind.all w rfl
      rcases gives : (renderers SectionKind.all).outcome w with ⟨failure | parts, between⟩ <;>
        rw [gives] at made absent
      · exact made
      · simp only
        cases complete : Render.Registry.ofList (parts.map Made.item) with
        | error failure => exact made
        | ok registry =>
            exact lasts _ _ (.assemble (absent.trans missing) (kept?_of_renderers gives) complete)
              made

theorem keeps_build (lasts : Lasts P) (own : Option Settings) : Keeps P (Engine.build own) := by
  intro w holds
  rw [outcome_build]
  exact lasts.keeps_documentRenderer w holds

end Lasts

/-- What a workshop has in store. -/
def stored? (w : Workshop) : Wanted → Option Reply
  | .part kind => (w.kept? kind).map .renderer
  | .whole => w.document.map .documentRenderer

/-- What is in store is given as it is. -/
theorem outcome_give_of_stored? (stored : w.stored? x = some reply) :
    x.give.outcome w = (.ok reply, w) := by
  cases x with
  | part kind =>
      obtain ⟨made, kept, rfl⟩ := Option.map_eq_some_iff.mp stored
      rw [Wanted.give, outcome_map, outcome_renderer, kept]
      rfl
  | whole =>
      obtain ⟨made, kept, rfl⟩ := Option.map_eq_some_iff.mp stored
      rw [Wanted.give, outcome_map, outcome_documentRenderer, kept]
      rfl

theorem document_of_documentRenderer {made : Made Render.DocumentRenderer}
    (gives : documentRenderer.outcome w = (.ok made, v)) : v.document = some made := by
  rw [outcome_documentRenderer] at gives
  cases missing : w.document with
  | some other =>
      rw [missing] at gives
      cases gives
      exact missing
  | none =>
      rw [missing] at gives
      rcases all : (renderers SectionKind.all).outcome w with ⟨failure | parts, between⟩ <;>
        simp only [all] at gives
      · cases gives
      · cases complete : Render.Registry.ofList (parts.map Made.item) <;>
          simp only [complete] at gives <;> cases gives
        rfl

/-- What is given is in store then. -/
theorem stored?_of_give (gives : x.give.outcome w = (.ok reply, v)) :
    v.stored? x = some reply := by
  cases x with
  | part kind =>
      rw [Wanted.give, outcome_map] at gives
      obtain ⟨given, rfl⟩ := Prod.mk.inj gives
      obtain ⟨made, result, rfl⟩ := map_eq_ok.mp given
      rw [stored?, kept?_of_renderer (Prod.ext result rfl), Option.map_some]
  | whole =>
      rw [Wanted.give, outcome_map] at gives
      obtain ⟨given, rfl⟩ := Prod.mk.inj gives
      obtain ⟨made, result, rfl⟩ := map_eq_ok.mp given
      rw [stored?, document_of_documentRenderer (Prod.ext result rfl), Option.map_some]

/-- One more thing is in store, under the next serial number. -/
structure Adds (w v : Workshop) (x : Wanted) (new : Reply) : Prop where
  missing : w.stored? x = none
  numbered : new.serial? = some w.nextSerial
  stored : v.stored? x = some new
  others : ∀ y, y ≠ x → v.stored? y = w.stored? y
  counted : v.nextSerial = w.nextSerial + 1

theorem Move.adds (move : Move w v) : ∃ x new, Adds w v x new := by
  cases move with
  | @make kind item missing described =>
      obtain rfl := Render.Renderer.kind_of_ofSettings described
      refine ⟨.part item.kind, .renderer ⟨w.nextSerial, item⟩, ?_, rfl, ?_, ?_, rfl⟩
      · rw [stored?, missing, Option.map_none]
      · rw [stored?, kept?_keep_self missing, Option.map_some]
      · rintro (kind | _) other
        · have apart : kind ≠ item.kind := fun same => other (congrArg Wanted.part same)
          rw [stored?, kept?_keep_of_ne apart, stored?]
        · rfl
  | @assemble parts registry missing stored complete =>
      refine ⟨.whole, .documentRenderer ⟨w.nextSerial, parts, registry⟩, ?_, rfl, rfl, ?_, rfl⟩
      · rw [stored?, missing, Option.map_none]
      · rintro (kind | _) other
        · rfl
        · exact absurd rfl other

namespace Adds

theorem stored?_of_before (adds : Adds w v x new) (before : w.stored? y = some reply) :
    v.stored? y = some reply := by
  rw [adds.others y, before]
  rintro rfl
  rw [adds.missing] at before
  cases before

/-- What is in store was there before, or it is new. -/
theorem stored?_cases (adds : Adds w v x new) (after : v.stored? y = some reply) :
    w.stored? y = some reply ∨ (y = x ∧ reply.serial? = some w.nextSerial) := by
  by_cases same : y = x
  · subst same
    rw [adds.stored] at after
    cases after
    exact .inr ⟨rfl, adds.numbered⟩
  · rw [adds.others y same] at after
    exact .inl after

theorem lt_nextSerial (adds : Adds w v x new) (below : n < w.nextSerial) : n < v.nextSerial :=
  adds.counted ▸ Nat.lt_succ_of_lt below

end Adds

theorem lasts_stored? : Lasts fun w => w.stored? x = some reply := by
  intro w v move before
  obtain ⟨_, _, adds⟩ := move.adds
  exact adds.stored?_of_before before

theorem lasts_lt_nextSerial : Lasts fun w => n < w.nextSerial := by
  intro w v move below
  obtain ⟨_, _, adds⟩ := move.adds
  exact adds.lt_nextSerial below

/-- Things in store have serial numbers that were given out, each its own. -/
structure IsNumbered (w : Workshop) : Prop where
  below : ∀ x reply, w.stored? x = some reply → ∃ n < w.nextSerial, reply.serial? = some n
  apart : ∀ x y reply other, w.stored? x = some reply → w.stored? y = some other →
    reply.serial? = other.serial? → x = y

theorem IsNumbered.serial?_ne (numbered : w.IsNumbered) (stored : w.stored? x = some reply) :
    reply.serial? ≠ some w.nextSerial := by
  obtain ⟨n, below, same⟩ := numbered.below x reply stored
  rw [same]
  exact fun equal => Nat.ne_of_lt below (Option.some.inj equal)

theorem IsNumbered.lasts : Lasts IsNumbered := by
  intro w v move numbered
  obtain ⟨x, new, adds⟩ := move.adds
  refine ⟨fun y reply after => ?_, fun y z reply other here there same => ?_⟩
  · rcases adds.stored?_cases after with before | ⟨-, last⟩
    · obtain ⟨n, below, same⟩ := numbered.below y reply before
      exact ⟨n, adds.lt_nextSerial below, same⟩
    · exact ⟨w.nextSerial, adds.counted ▸ Nat.lt_succ_self _, last⟩
  · rcases adds.stored?_cases here with before | ⟨rfl, last⟩ <;>
      rcases adds.stored?_cases there with before' | ⟨rfl, last'⟩
    · exact numbered.apart y z reply other before before' same
    · exact absurd (same.trans last') (numbered.serial?_ne before)
    · exact absurd (same.symm.trans last) (numbered.serial?_ne before')
    · rfl

/-- A serial number was given out, and nothing in store has it any more. -/
structure IsPast (n : Nat) (w : Workshop) : Prop where
  below : n < w.nextSerial
  gone : ∀ x reply, w.stored? x = some reply → reply.serial? ≠ some n

theorem IsPast.lasts (n : Nat) : Lasts (IsPast n) := by
  rintro w v move ⟨below, gone⟩
  obtain ⟨x, new, adds⟩ := move.adds
  refine ⟨adds.lt_nextSerial below, fun y reply after => ?_⟩
  rcases adds.stored?_cases after with before | ⟨-, last⟩
  · exact gone y reply before
  · rw [last]
    exact fun same => Nat.ne_of_lt below (Option.some.inj same).symm

/-- A workshop that has forgotten what it made. -/
def emptied (w : Workshop) : Workshop := { w with sections := [], document := none }

theorem not_stored_emptied (w : Workshop) (x : Wanted) (reply : Reply) :
    w.emptied.stored? x ≠ some reply := by
  cases x <;> nofun

theorem isNumbered_emptied (w : Workshop) : w.emptied.IsNumbered :=
  ⟨fun x reply stored => absurd stored (w.not_stored_emptied x reply),
    fun x _ reply _ stored => absurd stored (w.not_stored_emptied x reply)⟩

theorem isPast_emptied (below : n < w.nextSerial) : IsPast n w.emptied :=
  ⟨below, fun x reply stored => absurd stored (w.not_stored_emptied x reply)⟩

/-- The renderer of whole documents is made of the renderers in store. -/
def IsAssembled (w : Workshop) : Prop :=
  ∀ made, w.document = some made → made.item.parts.map some = SectionKind.all.map w.kept?

theorem IsAssembled.kept (assembled : w.IsAssembled) {made : Made Render.DocumentRenderer}
    (whole : w.document = some made) (kind : SectionKind) :
    ∃ part, w.kept? kind = some part := by
  have mem : w.kept? kind ∈ made.item.parts.map some := by
    rw [assembled made whole]
    exact List.mem_map_of_mem (Render.SectionKind.mem_all kind)
  obtain ⟨part, -, kept⟩ := List.mem_map.mp mem
  exact ⟨part, kept.symm⟩

theorem IsAssembled.lasts : Lasts IsAssembled := by
  intro w v move assembled made whole
  cases move with
  | make missing described =>
      -- nothing is left to make once the renderer of whole documents is there
      obtain ⟨part, kept⟩ := assembled.kept whole _
      rw [missing] at kept
      cases kept
  | assemble missing stored complete =>
      cases whole
      exact stored

theorem isAssembled_emptied (w : Workshop) : w.emptied.IsAssembled := nofun

/-- All that is in store is what the settings describe, and if the renderer of whole documents
is there, so are the renderers of all kinds, and it hands each section to the one for its
kind. -/
structure IsCoherent (settings : Settings) (w : Workshop) : Prop where
  settings_eq : w.settings = settings
  described : ∀ kind made, w.kept? kind = some made →
    made.item.kind = kind ∧ Render.Renderer.ofSettings settings kind = .ok made.item
  parts : ∀ made, w.document = some made →
    made.item.parts.map some = SectionKind.all.map w.kept?
  dispatches : ∀ made, w.document = some made → ∀ kind, ∃ part, w.kept? kind = some part ∧
    made.item.registry.renderer kind = part.item

theorem Follows.isCoherent (follows : w.Follows settings) (assembled : w.IsAssembled) :
    w.IsCoherent settings := by
  have described (kind : SectionKind) (made : Made Render.Renderer)
      (kept : w.kept? kind = some made) :
      Render.Renderer.ofSettings settings kind = .ok made.item := by
    rw [← kind_of_kept? kept]
    exact follows.sections made (List.mem_of_find?_eq_some kept)
  refine ⟨follows.settings_eq, fun kind made kept => ⟨kind_of_kept? kept, described kind made kept⟩,
    assembled, fun made whole kind => ?_⟩
  obtain ⟨part, kept⟩ := assembled.kept whole kind
  have dispatched := Render.DocumentRenderer.renderer_of_ofSettings (follows.document made whole) kind
  rw [described kind part kept] at dispatched
  exact ⟨part, kept, (Except.ok.inj dispatched).symm⟩

end Workshop

end Stencil
