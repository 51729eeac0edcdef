/-
# Values that callers hand in

Callers hand in values of any type. An operation that needs a record or a text says
so when it gets something else. One that makes no use of its data takes anything.
-/

import Stencil.Failure
import Stencil.Json.Printer
import Stencil.Value.Basic

namespace Stencil

/-- What an operation does first with its data. -/
inductive Use
  | nothing
  | lookup
  | substitution
  deriving DecidableEq, Repr

/-- What is done first by an operation that looks up each of some keys. -/
def Use.lookups {α : Type} : List α → Use
  | [] => .nothing
  | _ :: _ => .lookup

namespace Value

/-- The data record that a value is. -/
def asData : Value → Except Failure Record
  | .object entries => .ok ⟨entries⟩
  | v => .error (.dataNotRecord v.typeName)

/-- The data record that a value is; null is the empty record. -/
def asOptionalData : Value → Except Failure Record
  | .null => .ok .empty
  | v => v.asData

/-- The data record that a value is to an operation. A value of another type fails at
its first use; without any use it is as good as the empty record. -/
def asDataFor (use : Use) : Value → Except Failure Record
  | .object entries => .ok ⟨entries⟩
  | v =>
    match use with
    | .nothing => .ok .empty
    | .lookup => .error (.lookupUnsupported v.typeName)
    | .substitution => .error (.dataNotRecord v.typeName)

/-- The content that a value is; null is the empty text. -/
def asContent : Value → Except Failure String
  | .null => .ok ""
  | .text s => .ok s
  | v => .error (.contentNotText v.typeName)

/-- The indentation that a value is; null is none. Booleans count as numbers. -/
def asIndent : Value → Except Failure (Option Nat)
  | .null => .ok none
  | .bool b => .ok (some b.toNat)
  | .int i =>
    if i < 0 then .error .indentNegative
    else if 0x10000000000000000 ≤ i then .error .indentTooLarge
    else .ok (some i.toNat)
  | v => .error (.indentNotInteger v.typeName)

/-- The width of a divider that a value is. Booleans count as numbers. -/
def asWidth : Value → Except Failure Int
  | .bool b => .ok b.toNat
  | .int i => .ok i
  | v => .error (.dividerCountNotInteger v.typeName)

/-- The values that a value consists of: the items of a list, the characters of a text
or the keys of an object. -/
def parts? : Value → Option (List Value)
  | .list items => some items
  | .text s => some (s.toList.map fun c => .text (String.singleton c))
  | .object entries => some (entries.map fun entry => .text entry.1)
  | _ => none

/-- The key that a value is. Lists and objects are none. -/
def asKey : Value → Except Failure String
  | .text s => .ok s
  | .list items => .error (.keyUnusable (Value.list items).typeName)
  | .object entries => .error (.keyUnusable (Value.object entries).typeName)
  | v => .ok (Json.print Json.documentStyle v)

/-- The entry that an item of a list of pairs is. -/
def asEntry (index : Nat) (v : Value) : Except Failure (String × Value) :=
  match v.parts? with
  | none => .error (.entryNotIterable index)
  | some [key, held] => key.asKey.map fun name => (name, held)
  | some parts => .error (.entryNotPair index parts.length)

/-- The record made from a value: the entries of an object, or those that its parts are
as pairs, one after the other. -/
def toRecord (v : Value) : Except Failure Record :=
  match v with
  | .object entries => .ok ⟨entries⟩
  | _ =>
    match v.parts? with
    | none => .error (.notIterable v.typeName)
    | some parts =>
      (parts.zipIdx.mapM fun (part, index) => asEntry index part).map Record.ofEntries

end Value

end Stencil
