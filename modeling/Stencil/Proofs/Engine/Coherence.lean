/-
# What is given again

A session gives what its workshop has in store and puts in store what it gives, and what lasts
in a workshop lasts through all requests but those to forget, failed ones included. So a thing
that was given once is given again until the workshop forgets, and is never given again after
that. What is in store after any requests is what the settings describe, and the renderer of
whole documents hands sections to the renderers in store.
-/

import Stencil.Proofs.Engine.Session
import Stencil.Proofs.Engine.Store

namespace Stencil.Session

open Stateful

variable {settings : Settings} {s t : Session} {requests between : List Request}
  {x y : Wanted} {reply later : Reply} {n : Nat} {P : Workshop → Prop}

theorem kindOf_name (kind : SectionKind) : Workshop.kindOf (.text kind.name) = .ok kind := by
  cases kind <;> decide

theorem outcome_request (x : Wanted) (s : Session) :
    (answer x.request).outcome s =
      ((x.give.outcome s.workshop).1, { s with workshop := (x.give.outcome s.workshop).2 }) := by
  cases x with
  | part kind =>
      rw [Wanted.request, answer, outcome_bind, kindOf_name]
      simp only [outcome_ofTraced, Traced.result_ofExcept, outcome_map, outcome_inWorkshop,
        Wanted.give]
  | whole =>
      rw [Wanted.request, answer]
      simp only [outcome_map, outcome_inWorkshop, Wanted.give]

theorem kindOf_of_unknown {v : Value} (unknown : ∀ kind : SectionKind, v ≠ .text kind.name) :
    Workshop.kindOf v = v.messageText.bind fun shown =>
      .error (.kindUnknown shown (SectionKind.all.map SectionKind.name)) := by
  cases v with
  | text name =>
      have absent : SectionKind.ofName? name = none := by
        refine List.find?_eq_none.mpr fun kind _ same => unknown kind ?_
        rw [eq_of_beq same]
      simp only [Workshop.kindOf, absent]
  | _ => rfl

/-- What names no kind is refused, and nothing is changed by it. -/
theorem outcome_renderer_of_unknown {v : Value}
    (unknown : ∀ kind : SectionKind, v ≠ .text kind.name) (s : Session) :
    (answer (.renderer v)).outcome s =
      (v.messageText.bind fun shown =>
        .error (.kindUnknown shown (SectionKind.all.map SectionKind.name)), s) := by
  rw [answer, outcome_bind, kindOf_of_unknown unknown]
  cases v.messageText <;> rfl

/-- A workshop that makes what settings describe gives what they describe, whatever it has in
store. -/
theorem hasResult_answer_request (follows : s.workshop.Follows settings) (x : Wanted) :
    HasResult ((answer x.request).outcome s).1 ↔ x.IsDescribed settings := by
  rw [outcome_request]
  cases x with
  | part kind =>
      rw [Wanted.give, outcome_map, hasResult_map, Wanted.IsDescribed,
        ← (Workshop.gives_renderer settings kind _ follows).1, hasResult_map]
  | whole =>
      rw [Wanted.give, outcome_map, hasResult_map, Wanted.IsDescribed,
        ← Render.DocumentRenderer.hasResult_ofSettings,
        ← (Workshop.gives_documentRenderer settings _ follows).1, hasResult_map]

theorem keeps_inWorkshop {α : Type} {x : Stateful Workshop α} (keeps : Keeps P x) :
    Keeps (fun s => P s.workshop) (inWorkshop x) := fun s holds => keeps s.workshop holds

theorem keeps_installEngine (lasts : Workshop.Lasts P) (own : Option Settings) :
    Keeps (fun s => P s.workshop) (installEngine own) := by
  intro s holds
  have built := lasts.keeps_build own s.workshop holds
  rw [outcome_installEngine]
  rcases gives : (Engine.build own).outcome s.workshop with ⟨failure | engine, workshop⟩ <;>
    rw [gives] at built <;> exact built

/-- What lasts in a workshop holds of it after requests, if it is kept also in forgetting where
that is asked for. -/
theorem holds_after (lasts : Workshop.Lasts P)
    (emptied : .clear ∈ requests → ∀ w, P w → P w.emptied) (holds : P s.workshop) :
    P (s.after requests).workshop := by
  refine Keeps.foldl (P := fun s : Session => P s.workshop) (fun r mem => ?_) holds
  refine keeps_answer (fun kind => ?_) ?_ (fun same => ?_) fun _ _ own => ?_
  · exact keeps_inWorkshop (Workshop.keeps_renderer lasts.making kind)
  · exact keeps_inWorkshop lasts.keeps_documentRenderer
  · exact keeps_inWorkshop (emptied (same ▸ mem))
  · exact keeps_installEngine lasts own

theorem isNumbered_after (settings : Settings) (first : Engine) (before : List Request) :
    (after ⟨{ settings }, first⟩ before).workshop.IsNumbered :=
  holds_after Workshop.IsNumbered.lasts (fun _ w _ => w.isNumbered_emptied)
    (Workshop.isNumbered_emptied { settings })

theorem isAssembled_after (settings : Settings) (first : Engine) (before : List Request) :
    (after ⟨{ settings }, first⟩ before).workshop.IsAssembled :=
  holds_after Workshop.IsAssembled.lasts (fun _ w _ => w.isAssembled_emptied)
    (Workshop.isAssembled_emptied { settings })

/-- What is in store stays there until the workshop forgets. -/
theorem stored?_after (stored : s.workshop.stored? x = some reply) (kept : .clear ∉ requests) :
    (s.after requests).workshop.stored? x = some reply :=
  holds_after Workshop.lasts_stored? (fun forgot => absurd forgot kept) stored

/-- Once the workshop forgets, serial numbers that were given out are past for good. -/
theorem isPast_after (below : n < s.workshop.nextSerial) (forgot : .clear ∈ requests) :
    (s.after requests).workshop.IsPast n := by
  obtain ⟨earlier, rest, rfl⟩ := List.append_of_mem forgot
  have given : n < (s.after earlier).workshop.nextSerial :=
    holds_after Workshop.lasts_lt_nextSerial (fun _ _ below => below) below
  have past : (s.after (earlier ++ [.clear])).workshop.IsPast n := by
    rw [after_append, after_singleton]
    exact Workshop.isPast_emptied given
  rw [List.append_cons, after_append]
  exact holds_after (Workshop.IsPast.lasts n) (fun _ _ past => Workshop.isPast_emptied past.below)
    past

theorem stored?_of_answer (answered : (answer x.request).outcome s = (.ok reply, t)) :
    t.workshop.stored? x = some reply := by
  rw [outcome_request] at answered
  obtain ⟨given, rfl⟩ := Prod.mk.inj answered
  exact Workshop.stored?_of_give (Prod.ext given rfl)

theorem answer_of_stored? (stored : s.workshop.stored? x = some reply) :
    ((answer x.request).outcome s).1 = .ok reply := by
  rw [outcome_request, Workshop.outcome_give_of_stored? stored]

/-- What is given later is what was in store once exactly if the same is asked for and the
workshop has not forgotten in between. -/
theorem serial?_eq_iff (numbered : s.workshop.IsNumbered)
    (stored : s.workshop.stored? x = some reply)
    (answered : (answer y.request).outcome (s.after between) = (.ok later, t)) :
    later.serial? = reply.serial? ↔ y = x ∧ .clear ∉ between := by
  have storedLater := stored?_of_answer answered
  obtain rfl : s.after (between ++ [y.request]) = t := by
    rw [after_append, after_singleton, answered]
  by_cases forgot : .clear ∈ between
  · obtain ⟨n, below, given⟩ := numbered.below x reply stored
    have past := isPast_after below (List.mem_append_left [y.request] forgot)
    exact iff_of_false (fun same => past.gone y later storedLater (same.trans given))
      fun both => both.2 forgot
  · have kept : .clear ∉ between ++ [y.request] := by
      rw [List.mem_append, List.mem_singleton]
      rintro (mem | asked)
      · exact forgot mem
      · cases y <;> cases asked
    have storedStill := stored?_after stored kept
    have numbered : (s.after (between ++ [y.request])).workshop.IsNumbered :=
      holds_after Workshop.IsNumbered.lasts (fun _ w _ => w.isNumbered_emptied) numbered
    constructor
    · exact fun same => ⟨numbered.apart y x later reply storedLater storedStill same, forgot⟩
    · rintro ⟨rfl, -⟩
      rw [storedStill] at storedLater
      cases storedLater
      rfl

/-- What a session has in store is coherent, whatever it was asked for. Its renderers are what
the settings describe, each for its kind, and a renderer of whole documents that is in store
hands sections to the renderers in store, of which none is missing. A kind that there is none
of is refused, and nothing is changed by the request. What settings describe is given, and it
is the same thing that is given again if and only if the same is asked for and the workshop has
not forgotten in between. -/
theorem renderers_shared_until_cleared (settings : Settings) (first : Engine)
    (before : List Request) :
    let s := after ⟨{ settings }, first⟩ before
    s.workshop.IsCoherent settings ∧
      (∀ x : Wanted, HasResult ((answer x.request).outcome s).1 ↔ x.IsDescribed settings) ∧
      (∀ v : Value, (∀ kind : SectionKind, v ≠ .text kind.name) →
        (answer (.renderer v)).outcome s =
          (v.messageText.bind fun shown =>
            .error (.kindUnknown shown (SectionKind.all.map SectionKind.name)), s)) ∧
      ∀ x reply t, (answer x.request).outcome s = (.ok reply, t) →
        t.workshop.stored? x = some reply ∧
          ∀ between,
            (.clear ∉ between → ((answer x.request).outcome (t.after between)).1 = .ok reply) ∧
              ∀ y later u, (answer y.request).outcome (t.after between) = (.ok later, u) →
                (later.serial? = reply.serial? ↔ y = x ∧ .clear ∉ between) := by
  intro s
  have follows := (resembles_after settings first before).left
  refine ⟨follows.isCoherent (isAssembled_after settings first before),
    hasResult_answer_request follows, fun v unknown => outcome_renderer_of_unknown unknown s,
    fun x reply t answered => ?_⟩
  have stored := stored?_of_answer answered
  obtain rfl : after ⟨{ settings }, first⟩ (before ++ [x.request]) = t := by
    rw [after_append, after_singleton, answered]
  refine ⟨stored, fun between => ⟨fun kept => ?_, fun y later u => ?_⟩⟩
  · exact answer_of_stored? (stored?_after stored kept)
  · exact serial?_eq_iff (isNumbered_after settings first _) stored

/-- A session is asked for the renderer of tables, later for an engine and for a kind that there
is none of, and for the renderer of tables again. It is the same one, but another one once the
workshop has forgotten. -/
theorem renderers_shared_until_cleared_table :
    let settings : Settings :=
      { separatorWidth := 3, signatureBlank := "..", readsLegacyRows := false
        fillsDefaults := true, headerSize := .ofInt 18, headingSize := .ofInt 13
        bodySize := .ofInt 11, footerSize := .ofInt 9, logLevel := "INFO", logDirectory := none }
    let first : Engine := ⟨true, 0, [], .standard⟩
    let s := after ⟨{ settings }, first⟩ [.renderer (.text "body"), .clear]
    let between : List Request := [.replaceEngine none, .renderer (.text "chart")]
    ∃ reply t again u, (answer (.renderer (.text "table"))).outcome s = (.ok reply, t) ∧
      t.workshop.stored? (.part .table) = some reply ∧
      ((answer (.renderer (.text "table"))).outcome (t.after between)).1 = .ok reply ∧
      (answer (.renderer (.text "table"))).outcome (t.after (between ++ [.clear])) = (.ok again, u) ∧
      again.serial? ≠ reply.serial? ∧
      (answer (.renderer (.text "chart"))).outcome s =
        (.error (.kindUnknown "chart" (SectionKind.all.map SectionKind.name)), s) := by
  intro settings first s between
  have later : HasResult ((answer (.renderer (.text "table"))).outcome
      (((answer (.renderer (.text "table"))).outcome s).2.after (between ++ [.clear]))).1 :=
    hasResult_of_isSome (by decide)
  have now : HasResult ((answer (.renderer (.text "table"))).outcome s).1 :=
    hasResult_of_isSome (by decide)
  obtain ⟨reply, t, given⟩ := outcome_eq_ok_of_hasResult now
  simp only [given] at later
  obtain ⟨again, u, anew⟩ := outcome_eq_ok_of_hasResult later
  have unknown (kind : SectionKind) : Value.text "chart" ≠ .text kind.name := by
    have named : "chart" ≠ kind.name := by cases kind <;> decide
    exact fun same => named (Value.text.inj same)
  have kept : .clear ∉ between := by simp [between]
  obtain ⟨-, -, refuses, shares⟩ :=
    renderers_shared_until_cleared settings first [.renderer (.text "body"), .clear]
  have history : s = after ⟨{ settings }, first⟩ [.renderer (.text "body"), .clear] := rfl
  rw [← history] at refuses shares
  clear_value settings first s between
  obtain ⟨stored, shared⟩ := shares (.part .table) reply t given
  obtain ⟨-, apart⟩ := shared (between ++ [.clear])
  have other := apart (.part .table) again u anew
  exact ⟨reply, t, again, u, given, stored, (shared between).1 kept, anew,
    fun same => (other.mp same).2 (List.mem_append_right _ (.head [])), refuses _ unknown⟩

end Stencil.Session
