/-
# Which options are given

An argument in front of the end mark is one word, and an option among the words is carried out
wherever it stands, unless reading stops. So the reader lets defaults be filled in exactly if
no argument in front of the end mark spells out, or cuts short, the option against it.
-/

import Stencil.Command.Arguments
import Stencil.Proofs.Log.Trace

namespace Stencil.Command

/-- Whether a word is an option. -/
def Word.names (o : Switch) : Word → Bool
  | .option other _ => other == o
  | _ => false

/-- Whether an option is given by an argument in front of the end mark, in full or cut short. -/
def Switch.isGiven (o : Switch) (arguments : List String) : Bool :=
  (arguments.takeWhile (· ≠ "--")).any fun argument =>
    (classify argument).toOption.any (Word.names o)

variable {o : Switch} {ws : List Word} {p q : Progress}

/-- The words that are an option are those that its arguments are told to be. -/
theorem any_names_of_words {arguments : List String} (told : words arguments = .ok ws) :
    ws.any (Word.names o) = o.isGiven arguments := by
  induction arguments generalizing ws with
  | nil =>
      cases told
      rfl
  | cons argument rest ih =>
      unfold words at told
      split at told
      · rename_i mark
        cases told
        have plain : (rest.map Word.plain).any (Word.names o) = false := by
          rw [List.any_map, List.any_eq_false]
          intro text _
          exact Bool.false_ne_true
        simp [Switch.isGiven, mark, Word.names, plain]
      · rename_i noMark
        obtain ⟨first, classified, told⟩ := bind_eq_ok.mp told
        obtain ⟨others, later, whole⟩ := bind_eq_ok.mp told
        cases whole
        rw [List.any_cons, ih later]
        simp [Switch.isGiven, noMark, classified, Except.toOption]

theorem fillsDefaults_of_take {value : Operand} (taken : p.take o value = .ok q) :
    q.fillsDefaults = (p.fillsDefaults && !(o == .noDefaults)) := by
  cases o with
  | help => cases taken
  | data | logDirectory =>
      cases taken
      exact (Bool.and_true _).symm
  | noDefaults =>
      cases taken
      exact (Bool.and_false _).symm
  | template | default | schema =>
      unfold Progress.take at taken
      simp only at taken
      split at taken
      · split at taken
        · cases taken
          exact (Bool.and_true _).symm
        · cases taken
      · cases taken
        exact (Bool.and_true _).symm

/-- An option that is carried out takes the defaults away if it is the one against them, and what
is carried out after it does as its words say. -/
theorem fillsDefaults_of_take_bind {value : Operand} {attachment : Attachment}
    {next : Progress → Except Stop Progress}
    (later : ∀ r, next r = .ok q →
      q.fillsDefaults = (r.fillsDefaults && !ws.any (Word.names .noDefaults)))
    (done : (p.take o value).bind next = .ok q) :
    q.fillsDefaults =
      (p.fillsDefaults && !(.option o attachment :: ws).any (Word.names .noDefaults)) := by
  obtain ⟨r, taken, rest⟩ := bind_eq_ok.mp done
  rw [later r rest, fillsDefaults_of_take taken, List.any_cons, Bool.not_or, ← Bool.and_assoc]
  rfl

/-- Carrying words out takes the defaults away if one of them is the option against them. -/
theorem fillsDefaults_of_carryOut (done : carryOut p ws = .ok q) :
    q.fillsDefaults = (p.fillsDefaults && !ws.any (Word.names .noDefaults)) := by
  fun_induction carryOut p ws with
  | case1 p =>
      cases done
      exact (Bool.and_true _).symm
  | case2 p argument rest ih | case3 p argument rest ih | case4 p rest ih => exact ih done
  | case5 p o text rest takes ih | case7 p o cs rest takes ih | case12 p o rest takes ih =>
      exact fillsDefaults_of_take_bind ih done
  | case6 p o text rest takes => cases done
  | case8 p o cs rest takes noLetters => cases done
  | case11 p o rest takes noValue => cases done
  | case9 p o cs rest takes letters ih =>
      obtain ⟨⟨⟩, -, done⟩ := bind_eq_ok.mp done
      exact fillsDefaults_of_take_bind ih done
  | case10 p o takes value others ih =>
      exact fillsDefaults_of_take_bind ih done

/-- The reader lets defaults be filled in unless the option against it is given. -/
theorem fillsDefaults_of_read {arguments : List String} {i : Invocation}
    (asked : Invocation.read arguments = .ok i) :
    i.fillsDefaults = !Switch.isGiven .noDefaults arguments := by
  obtain ⟨ws, told, asked⟩ := bind_eq_ok.mp asked
  obtain ⟨p, done, asked⟩ := bind_eq_ok.mp asked
  have fills : p.fillsDefaults = !Switch.isGiven .noDefaults arguments := by
    rw [fillsDefaults_of_carryOut done, any_names_of_words told, Bool.true_and]
  cases source : p.source with
  | none =>
      rw [source] at asked
      cases asked
  | some named =>
      rw [source] at asked
      simp only at asked
      split at asked
      · cases asked
        exact fills
      · cases asked

/-- The option against defaults counts when it is cut short, but not behind the end mark. -/
example : Switch.isGiven .noDefaults ["--default", "x", "--no-def"] = true ∧
    Switch.isGiven .noDefaults ["--default", "x", "--", "--no-defaults"] = false := by
  decide

end Stencil.Command
