/-
# Characters by name

A character may be spelt by its name in any letter case. Most names stand in tables.
The names of some ideographs end in the code point itself, and those of the syllables
of Hangul are made of the names of their letters; only such names that no table could
hold have to be in capital letters.
-/

import Stencil.Text.CharacterName.Alias
import Stencil.Text.CharacterName.Ancient
import Stencil.Text.CharacterName.Arabic
import Stencil.Text.CharacterName.Carved
import Stencil.Text.CharacterName.Eastern
import Stencil.Text.CharacterName.Greek
import Stencil.Text.CharacterName.Indic
import Stencil.Text.CharacterName.Latin
import Stencil.Text.CharacterName.Modern
import Stencil.Text.CharacterName.Notation
import Stencil.Text.CharacterName.Phonetic
import Stencil.Text.CharacterName.Pictograph
import Stencil.Text.CharacterName.Rare
import Stencil.Text.CharacterName.Southern
import Stencil.Text.CharacterName.Syllabic
import Stencil.Text.CharacterName.Symbol
import Stencil.Text.CodeRange

namespace Stencil.Text.CharacterName

/-- The tables of names. -/
def tables : List (List Run) :=
  [latin, greek, arabic, indic, southern, syllabic, phonetic, symbol, eastern, modern, ancient,
   carved, rare, notational, pictograph, further]

/-- The code point of a name in the tables. -/
def inTables? (name : List Char) : Option Nat :=
  tables.findSome? fun runs => runs.findSome? fun run => run.find? name

/-- Characters whose names end in their code points, in some families also with a zero in
front. -/
structure Family where
  stem : String
  ranges : Ranges
  allowsZero : Bool := false
  deriving Repr

/-- The ideographs. -/
def ideographs : Family :=
  ⟨"CJK UNIFIED IDEOGRAPH-",
   [(0x3400, 0x4DBF), (0x4E00, 0x9FFF), (0x20000, 0x2A6DF), (0x2A700, 0x2B738),
    (0x2B740, 0x2B81D), (0x2B820, 0x2CEA1), (0x2CEB0, 0x2EBE0), (0x30000, 0x3134A)],
   true⟩

/-- The other families. -/
def families : List Family :=
  [⟨"CJK COMPATIBILITY IDEOGRAPH-",
    [(0xF900, 0xFA6D), (0xFA70, 0xFAD9), (0x2F800, 0x2FA1D)], false⟩,
   ⟨"NUSHU CHARACTER-", [(0x1B170, 0x1B2FB)], false⟩,
   ⟨"KHITAN SMALL SCRIPT CHARACTER-", [(0x18B00, 0x18CD5)], false⟩]

/-- The value of a digit in base sixteen; letters have to be capitals. -/
def hexDigit? (c : Char) : Option Nat :=
  if c.isDigit then some (c.toNat - 48)
  else if 'A' ≤ c ∧ c ≤ 'F' then some (c.toNat - 55)
  else none

/-- The code point that four or five digits spell. -/
def spelledCode? (cs : List Char) : Option Nat :=
  if cs.length = 4 ∨ cs.length = 5 then
    (cs.mapM hexDigit?).map fun digits => digits.foldl (fun code d => 16 * code + d) 0
  else none

/-- The code point of a name in a family. -/
def Family.find? (family : Family) (name : List Char) : Option Nat :=
  (behind? family.stem.toList name).bind fun digits =>
    if digits.head? = some '0' ∧ !family.allowsZero then none
    else (spelledCode? digits).filter family.ranges.has

/-- The names of the letters that a syllable starts with. -/
def initials : List String :=
  ["G", "GG", "N", "D", "DD", "R", "M", "B", "BB", "S", "SS", "", "J", "JJ", "C", "K", "T", "P",
   "H"]

/-- The names of the letters in the middle of a syllable. -/
def vowels : List String :=
  ["A", "AE", "YA", "YAE", "EO", "E", "YEO", "YE", "O", "WA", "WAE", "OE", "YO", "U", "WEO",
   "WE", "WI", "YU", "EU", "YI", "I"]

/-- The names of the letters that a syllable ends with; the first is that of none. -/
def finals : List String :=
  ["", "G", "GG", "GS", "N", "NJ", "NH", "D", "L", "LG", "LM", "LB", "LS", "LT", "LP", "LH", "M",
   "B", "BS", "S", "SS", "NG", "J", "C", "K", "T", "P", "H"]

/-- Takes the longest of some texts that another one starts with: its place among them and
what is left. -/
def takeLongest? (choices : List String) (cs : List Char) : Option (Nat × List Char) :=
  choices.zipIdx.foldl (fun best (choice, index) =>
    match behind? choice.toList cs, best with
    | some left, some (_, shortest) =>
      if left.length < List.length shortest then some (index, left) else best
    | some left, none => some (index, left)
    | none, _ => best) none

/-- The first syllable of Hangul. -/
def firstSyllable : Nat := 0xAC00

/-- The code point of the syllable that letters make up. -/
def syllable? (cs : List Char) : Option Nat := do
  let (initial, cs) ← takeLongest? initials cs
  let (vowel, cs) ← takeLongest? vowels cs
  let (final, cs) ← takeLongest? finals cs
  if cs.isEmpty then
    some (firstSyllable + (initial * vowels.length + vowel) * finals.length + final)
  else none

/-- What the names of syllables start with. -/
def syllableStem : String := "HANGUL SYLLABLE "

/-- The code point of a name. -/
def find? (name : List Char) : Option Nat :=
  match behind? syllableStem.toList name, behind? ideographs.stem.toList name with
  | some letters, _ => syllable? letters
  | none, some _ => ideographs.find? name
  | none, none =>
    let upper := name.map Char.toUpper
    (families.findSome? fun family => family.find? upper).or (inTables? upper)

end Stencil.Text.CharacterName
