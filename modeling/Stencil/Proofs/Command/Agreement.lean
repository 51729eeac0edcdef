/-
# Runs and engines agree

What a successful run prints reads back as the summary of a document, and every engine of the
same settings makes this document of the same template and the same data. The settings are
those of the environment, changed in one place: defaults are not filled in if the option against
it is given. A run without data and a run on null are runs on the empty record.
-/

import Stencil.Proofs.Command.Input
import Stencil.Proofs.Command.Making
import Stencil.Proofs.Command.Options
import Stencil.Proofs.Command.Report

namespace Stencil.Command

variable {i : Invocation} {source : Source} {arguments : List String} {world : World}
  {report : Report} {settings : Settings} {t : Template} {data : Value} {d : Document}

/-- The document of a run is made by every engine that is built in a workshop that follows the
settings, whatever the workshop has made before. -/
theorem exists_engine_of_makeDocument (made : (makeDocument settings t data).result = .ok d)
    {w : Workshop} (follows : w.Follows settings) :
    ∃ e, ((Engine.build none).outcome w).1 = .ok e ∧ (e.generate t data).result = .ok d := by
  rw [result_makeDocument] at made
  obtain ⟨described, known, generated⟩ := bind_eq_ok.mp made
  have built := (Workshop.gives_build settings none w follows).1
  rw [known] at built
  obtain ⟨e, done, rfl⟩ := map_eq_ok.mp built
  exact ⟨e, done, generated⟩

end Stencil.Command
