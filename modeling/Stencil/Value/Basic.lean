/-
# Data values

A value is what a data record holds and what a stored document is decoded to.
Integers are unbounded and stay apart from binary numbers. A record is a list of
entries in insertion order.
-/

import Stencil.Number.Binary64

namespace Stencil

/-- A decoded value. -/
inductive Value
  | null
  | bool (b : Bool)
  | int (i : Int)
  | float (x : Binary64)
  | text (s : String)
  | list (items : List Value)
  | object (entries : List (String × Value))
  deriving Repr, Inhabited

namespace Value

/-- The name of a value's type in messages. -/
def typeName : Value → String
  | .null => "NoneType"
  | .bool _ => "bool"
  | .int _ => "int"
  | .float _ => "float"
  | .text _ => "str"
  | .list _ => "list"
  | .object _ => "dict"

/-- A value is present unless it is null or the empty text. -/
def isPresent : Value → Bool
  | .null => false
  | .text s => s != ""
  | _ => true

/-- Null, false, zero, an undefined number and the empty text do not hold; lists
and objects always do. -/
def isTruthy : Value → Bool
  | .null => false
  | .bool b => b
  | .int i => i != 0
  | .float .nan => false
  | .float x => !x.isZero
  | .text s => s != ""
  | .list _ => true
  | .object _ => true

/-- Whether the value is null. -/
def isNull : Value → Bool
  | .null => true
  | _ => false

/-- The items of a list; anything else has none. -/
def items : Value → List Value
  | .list items => items
  | _ => []

end Value

/-- A data record: entries in insertion order. -/
structure Record where
  entries : List (String × Value)
  deriving Repr, Inhabited

namespace Record

/-- The record without entries. -/
def empty : Record := ⟨[]⟩

/-- The value stored under a key. -/
def get? (record : Record) (key : String) : Option Value :=
  record.entries.lookup key

/-- The value of a key, null when the record has no such key. -/
def value (record : Record) (key : String) : Value :=
  (record.get? key).getD .null

/-- Entries with the value of a key replaced where the key stands, or added at the
end. -/
def insertEntry (key : String) (v : Value) : List (String × Value) → List (String × Value)
  | [] => [(key, v)]
  | (k, old) :: rest =>
    if k = key then (key, v) :: rest else (k, old) :: insertEntry key v rest

/-- Stores a value under a key. A key keeps its place. -/
def insert (record : Record) (key : String) (v : Value) : Record :=
  ⟨insertEntry key v record.entries⟩

/-- The record of some entries; the last one of a repeated key counts. -/
def ofEntries (entries : List (String × Value)) : Record :=
  entries.foldl (fun record (key, v) => record.insert key v) empty

end Record

/-- The record that an object holds. -/
def Value.record? : Value → Option Record
  | .object entries => some ⟨entries⟩
  | _ => none

end Stencil
