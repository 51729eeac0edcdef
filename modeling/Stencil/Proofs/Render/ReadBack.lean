/-
# Nodes are read back

The document of a node leaves out what is not set, says the text of a line beside its parts, and
marks a signature line by an attribute that is there or not. A reader that goes by the names of
the attributes takes back the node from it, whatever the order in which the names stand. So
different nodes have different documents, and what is empty is told apart from what is not set.
-/

import Mathlib.Data.List.Forall2
import Stencil.Proofs.Schema.Attribute
import Stencil.Proofs.Value.Induction
import Stencil.Render.Node

namespace Stencil

/-- Two values are the same if lists are item by item and objects name by name. The order of the
names in an object does not matter. -/
inductive Value.IsSame : Value → Value → Prop
  | null : IsSame .null .null
  | bool (b : Bool) : IsSame (.bool b) (.bool b)
  | int (i : Int) : IsSame (.int i) (.int i)
  | float (x : Binary64) : IsSame (.float x) (.float x)
  | text (s : String) : IsSame (.text s) (.text s)
  | list {xs ys : List Value} (each : List.Forall₂ IsSame xs ys) : IsSame (.list xs) (.list ys)
  | object {es fs : List (String × Value)}
      (each : ∀ name, Option.Rel IsSame (es.lookup name) (fs.lookup name)) :
      IsSame (.object es) (.object fs)

@[refl]
theorem Value.IsSame.refl (v : Value) : v.IsSame v := by
  induction v using Value.induction with
  | null => exact .null
  | bool b => exact .bool b
  | int i => exact .int i
  | float x => exact .float x
  | text s => exact .text s
  | list items ih => exact .list (List.forall₂_same.mpr ih)
  | object entries ih =>
      refine .object fun name => ?_
      cases held : entries.lookup name with
      | none => exact .none
      | some v =>
          obtain ⟨before, after, split, -⟩ := List.lookup_eq_some_iff.mp held
          exact .some (ih (name, v) (by simp [split]))

/-- An object whose entries stand in another order is the same. -/
theorem Value.isSame_of_perm {es fs : List (String × Value)} (order : es.Perm fs)
    (distinct : (es.map Prod.fst).Nodup) : (Value.object es).IsSame (.object fs) := by
  have distinct' : (fs.map Prod.fst).Nodup := (order.map Prod.fst).nodup_iff.mp distinct
  refine .object fun name => ?_
  have found : es.lookup name = fs.lookup name := by
    apply Option.ext
    intro v
    rw [Record.lookup_eq_some_iff_mem distinct, Record.lookup_eq_some_iff_mem distinct',
      order.mem_iff]
  rw [found]
  cases fs.lookup name with
  | none => exact .none
  | some v => exact .some (.refl v)

namespace Render

/-! ## Parts -/

section Parts

variable {α : Type} {read : Value → Option α} {toValue : α → Value} {name : String}
  {entries : List (String × Value)} {attributes : List (String × Option Value)}

/-- Takes a text from a value. -/
def takeText : Value → Option String
  | .text s => some s
  | _ => none

/-- Takes a truth value from a value. -/
def takeBoolean : Value → Option Bool
  | .bool b => some b
  | _ => none

/-- Takes a number from a value. -/
def takeNumber : Value → Option Number
  | .int i => some (.int i)
  | .float x => some (.float x)
  | _ => none

/-- Takes the kind of a section from a value. -/
def takeKind (v : Value) : Option SectionKind := (takeText v).bind SectionKind.ofName?

/-- Takes the items of a list from a value. -/
def takeList (read : Value → Option α) : Value → Option (List α)
  | .list items => items.mapM read
  | _ => none

/-- Takes an attribute that has to be there. -/
def take (entries : List (String × Value)) (name : String) (read : Value → Option α) : Option α :=
  (entries.lookup name).bind read

/-- Takes an attribute that may be left out. -/
def takeOptional (entries : List (String × Value)) (name : String) (read : Value → Option α) :
    Option (Option α) :=
  (entries.lookup name).elim (some none) fun v => (read v).map some

/-- A reader takes back what was written, from any value that is the same. -/
def TakesBack (read : Value → Option α) (toValue : α → Value) : Prop :=
  ∀ x v, (toValue x).IsSame v → read v = some x

theorem takesBack_text : TakesBack takeText .text := by
  rintro s v ⟨⟩
  rfl

theorem takesBack_boolean : TakesBack takeBoolean .bool := by
  rintro b v ⟨⟩
  rfl

theorem takesBack_number : TakesBack takeNumber numberValue := by
  rintro (i | x) v same
  · cases same
    rfl
  · cases same
    rfl

theorem takesBack_kind : TakesBack takeKind fun kind => .text kind.name := by
  rintro kind v ⟨⟩
  cases kind <;> rfl

theorem takesBack_list (back : TakesBack read toValue) :
    TakesBack (takeList read) fun xs => .list (xs.map toValue) := by
  intro xs v same
  cases same with
  | @list _ items each =>
      show items.mapM read = some xs
      induction xs generalizing items with
      | nil =>
          cases each
          rfl
      | cons x rest ih =>
          obtain _ | ⟨first, others⟩ := each
          simp [back _ _ first, ih others]

theorem takesBack_texts : TakesBack (takeList takeText) textsValue :=
  takesBack_list takesBack_text

/-- Entries that hold values that are the same as those of attributes, each under its name. -/
def HoldSame (attributes : List (String × Option Value)) (entries : List (String × Value)) : Prop :=
  ∀ name v?, (name, v?) ∈ attributes → Option.Rel Value.IsSame v? (entries.lookup name)

/-- What is the same as an object of attributes is an object, and holds the same values. -/
theorem exists_holdSame {v : Value} (same : (Value.object (presentEntries attributes)).IsSame v)
    (distinct : (attributes.map Prod.fst).Nodup) :
    ∃ entries, v = .object entries ∧ HoldSame attributes entries := by
  cases same with
  | object each =>
      refine ⟨_, rfl, fun name v? mem => ?_⟩
      rw [← Schema.lookup_presentEntries_of_mem distinct mem]
      exact each name

theorem HoldSame.take (holds : HoldSame attributes entries) (name : String)
    (back : TakesBack read toValue) (x : α) (mem : (name, some (toValue x)) ∈ attributes) :
    take entries name read = some x := by
  have held := holds name _ mem
  rw [Render.take]
  generalize entries.lookup name = v? at held
  obtain ⟨same⟩ := held
  exact back x _ same

theorem HoldSame.takeOptional (holds : HoldSame attributes entries) (name : String)
    (back : TakesBack read toValue) (x? : Option α) (mem : (name, x?.map toValue) ∈ attributes) :
    takeOptional entries name read = some x? := by
  have held := holds name _ mem
  rw [Render.takeOptional]
  generalize entries.lookup name = v? at held
  cases x? with
  | none =>
      cases held
      rfl
  | some x =>
      obtain ⟨same⟩ := held
      exact congrArg (Option.map some) (back x _ same)

theorem HoldSame.isSome_lookup (holds : HoldSame attributes entries) (name : String)
    (v? : Option Value) (mem : (name, v?) ∈ attributes) :
    (entries.lookup name).isSome = v?.isSome := by
  have held := holds name _ mem
  generalize entries.lookup name = w? at held
  cases held <;> rfl

end Parts

/-! ## Nodes -/

/-- Reads the style of a node. -/
def Style.ofValue? : Value → Option Style
  | .object entries => do
    let size ← take entries "fontSize" takeNumber
    let weight ← take entries "fontWeight" takeText
    let align ← take entries "textAlign" takeText
    let marginTop ← takeOptional entries "marginTop" takeNumber
    let marginBottom ← takeOptional entries "marginBottom" takeNumber
    pure { size, weight, align, marginTop, marginBottom }
  | _ => none

/-- Reads a line of a node. Its text says nothing that its parts do not. -/
def FieldLine.ofValue? : Value → Option FieldLine
  | .object entries => do
    let label ← take entries "label" takeText
    let value ← take entries "value" takeText
    let isBlank ← take entries "blank" takeBoolean
    pure { label, value, isBlank }
  | _ => none

/-- Reads a node. -/
def Node.ofValue? : Value → Option Node
  | .object entries => do
    let kind ← take entries "kind" takeKind
    let sectionId ← take entries "sectionId" takeText
    let text ← takeOptional entries "resolvedText" takeText
    let title ← takeOptional entries "title" takeText
    let style ← takeOptional entries "styleHints" Style.ofValue?
    let headerRow ← takeOptional entries "headerRow" (takeList takeText)
    let rows ← takeOptional entries "rows" (takeList (takeList takeText))
    let fieldLines ← takeOptional entries "fieldLines" (takeList FieldLine.ofValue?)
    let divider ← takeOptional entries "divider" takeText
    let hasSignatureLine := (entries.lookup "signatureLine").isSome
    pure { kind, sectionId, text, title, style, headerRow, rows, fieldLines, divider,
           hasSignatureLine }
  | _ => none

theorem Style.takesBack : TakesBack ofValue? toValue := by
  intro style v same
  obtain ⟨entries, rfl, holds⟩ := exists_holdSame same (by simp)
  rw [ofValue?, holds.take "fontSize" takesBack_number style.size (by simp),
    holds.take "fontWeight" takesBack_text style.weight (by simp),
    holds.take "textAlign" takesBack_text style.align (by simp),
    holds.takeOptional "marginTop" takesBack_number style.marginTop (by simp),
    holds.takeOptional "marginBottom" takesBack_number style.marginBottom (by simp)]
  rfl

theorem FieldLine.takesBack : TakesBack ofValue? toValue := by
  intro line v same
  have attributes : line.toValue =
      .object (presentEntries
        [("label", some (.text line.label)), ("value", some (.text line.value)),
         ("text", some (.text line.text)), ("blank", some (.bool line.isBlank))]) := rfl
  rw [attributes] at same
  obtain ⟨entries, rfl, holds⟩ := exists_holdSame same (by simp)
  rw [ofValue?, holds.take "label" takesBack_text line.label (by simp),
    holds.take "value" takesBack_text line.value (by simp),
    holds.take "blank" takesBack_boolean line.isBlank (by simp)]
  rfl

theorem Node.takesBack : TakesBack ofValue? toValue := by
  intro node v same
  obtain ⟨entries, rfl, holds⟩ := exists_holdSame same (by simp)
  have marked : (entries.lookup "signatureLine").isSome = node.hasSignatureLine := by
    rw [holds.isSome_lookup "signatureLine"
      (if node.hasSignatureLine then some (.bool true) else none) (by simp)]
    cases node.hasSignatureLine <;> rfl
  rw [ofValue?, holds.take "kind" takesBack_kind node.kind (by simp),
    holds.take "sectionId" takesBack_text node.sectionId (by simp),
    holds.takeOptional "resolvedText" takesBack_text node.text (by simp),
    holds.takeOptional "title" takesBack_text node.title (by simp),
    holds.takeOptional "styleHints" Style.takesBack node.style (by simp),
    holds.takeOptional "headerRow" takesBack_texts node.headerRow (by simp),
    holds.takeOptional "rows" (takesBack_list takesBack_texts) node.rows (by simp),
    holds.takeOptional "fieldLines" (takesBack_list FieldLine.takesBack) node.fieldLines (by simp),
    holds.takeOptional "divider" takesBack_text node.divider (by simp), marked]
  rfl

/-- A node is read back from its document and from any value that is the same. So different nodes
have different documents, and an empty text, an empty list of rows and an empty list of lines are
not the same as none. -/
theorem Node.ofValue?_toValue (node : Node) :
    (∀ v, node.toValue.IsSame v → ofValue? v = some node) ∧
      (∀ other : Node, node.toValue.IsSame other.toValue → node = other) ∧
      ¬ ({ node with text := some "" } : Node).toValue.IsSame
          ({ node with text := none } : Node).toValue ∧
      ¬ ({ node with rows := some [] } : Node).toValue.IsSame
          ({ node with rows := none } : Node).toValue ∧
      ¬ ({ node with fieldLines := some [] } : Node).toValue.IsSame
          ({ node with fieldLines := none } : Node).toValue := by
  have eq_of_isSame (first second : Node) (same : first.toValue.IsSame second.toValue) :
      first = second :=
    Option.some.inj ((takesBack first _ same).symm.trans (takesBack second _ (.refl _)))
  refine ⟨takesBack node, eq_of_isSame node, fun same => ?_, fun same => ?_, fun same => ?_⟩
  · cases congrArg Node.text (eq_of_isSame _ _ same)
  · cases congrArg Node.rows (eq_of_isSame _ _ same)
  · cases congrArg Node.fieldLines (eq_of_isSame _ _ same)

/-- A node with nothing but empty parts and numbers out of the ordinary is read back from its
document turned around. -/
theorem Node.ofValue?_toValue_reversed :
    let style : Style :=
      { size := .float .nan, weight := "", marginTop := some (.int 0),
        marginBottom := some (.float .zero) }
    let node : Node :=
      { kind := .detail, sectionId := "", text := some "", style := some style,
        rows := some [[], [""]], fieldLines := some [], hasSignatureLine := true }
    let entries : List (String × Value) :=
      [("signatureLine", .bool true), ("fieldLines", .list []),
       ("rows", .list [.list [], .list [.text ""]]), ("styleHints", style.toValue),
       ("resolvedText", .text ""), ("sectionId", .text ""), ("kind", .text "section")]
    node.toValue.IsSame (.object entries) ∧ ofValue? (.object entries) = some node := by
  intro style node entries
  have same : node.toValue.IsSame (.object entries) :=
    Value.isSame_of_perm (List.reverse_perm entries) (by decide)
  exact ⟨same, (ofValue?_toValue node).1 _ same⟩

end Render

end Stencil
