/-
# What a character matches

A single character is tested against a character, a class or a set. When letter case
is ignored, the lower case of the character is tested, and a few characters count as
equal although their lower cases differ. A set without letters is tested as it is.
-/

import Stencil.Pattern.Syntax
import Stencil.Text.Blank
import Stencil.Text.DecimalDigit
import Stencil.Text.LowerCase
import Stencil.Text.UpperCase
import Stencil.Text.Word

namespace Stencil.Pattern

/-- Lower case characters that count as equal to others with a different lower
case. -/
def equalCases : List (Nat × List Nat) :=
  [(105, [305]), (115, [383]), (181, [956]), (305, [105]), (383, [115]), (837, [953, 8126]),
   (912, [8147]), (944, [8163]), (946, [976]), (949, [1013]), (952, [977]), (953, [837, 8126]),
   (954, [1008]), (956, [181]), (960, [982]), (961, [1009]), (962, [963]), (963, [962]),
   (966, [981]), (976, [946]), (977, [952]), (981, [966]), (982, [960]), (1008, [954]),
   (1009, [961]), (1013, [949]), (1074, [7296]), (1076, [7297]), (1086, [7298]),
   (1089, [7299]), (1090, [7300, 7301]), (1098, [7302]), (1123, [7303]), (7296, [1074]),
   (7297, [1076]), (7298, [1086]), (7299, [1089]), (7300, [1090, 7301]), (7301, [1090, 7300]),
   (7302, [1098]), (7303, [1123]), (7304, [42571]), (7777, [7835]), (7835, [7777]),
   (8126, [837, 953]), (8147, [912]), (8163, [944]), (42571, [7304]), (64261, [64262]),
   (64262, [64261])]

/-- Whether a code point is a capital letter of the basic alphabet. -/
def isBasicUpper (code : Nat) : Bool := 65 ≤ code && code ≤ 90

/-- Whether a code point is a small letter of the basic alphabet. -/
def isBasicLower (code : Nat) : Bool := 97 ≤ code && code ≤ 122

/-- The lower case of a code point under some options. -/
def Flags.lower (flags : Flags) (code : Nat) : Nat :=
  if flags.unicode then Text.lower code
  else if isBasicUpper code then code + 32
  else code

/-- Whether a code point has another letter case under some options. -/
def Flags.isCased (flags : Flags) (code : Nat) : Bool :=
  if flags.unicode then Text.lower code != code || Text.upperCodes code != [code]
  else isBasicUpper code || isBasicLower code

/-- The lower case characters that count as equal to one under some options, itself
included. -/
def Flags.equals (flags : Flags) (code : Nat) : List Nat :=
  if flags.unicode then code :: (equalCases.lookup code).getD [] else [code]

/-- Whether a code point belongs to a class. -/
def Category.has (ascii : Bool) : Category → Nat → Bool
  | .digit, code => if ascii then 48 ≤ code && code ≤ 57 else Text.isDecimalDigit code
  | .space, code =>
    if ascii then code == 32 || (9 ≤ code && code ≤ 13) else Text.isPatternSpace code
  | .word, code =>
    if ascii then
      code == 95 || (48 ≤ code && code ≤ 57) || isBasicUpper code || isBasicLower code
    else Text.isWord code

/-- Whether a code point is a member of a set item, letter case counting. -/
def SetItem.has (flags : Flags) (code : Nat) : SetItem → Bool
  | .char c => code == c
  | .range first last => first ≤ code && code ≤ last
  | .category kind negated => kind.has (!flags.unicode) code != negated

/-- The code points whose lower case is a given one. -/
def Flags.withLower (flags : Flags) (code : Nat) : List Nat :=
  let others :=
    if flags.unicode then
      Text.lowerRuns.filterMap fun run =>
        let source := (code : Int) - run.shift
        if (run.first : Int) ≤ source ∧ source ≤ run.last ∧
            (source.toNat - run.first) % run.step = 0 then some source.toNat
        else none
    else if isBasicLower code then [code - 32]
    else []
  if flags.lower code == code then code :: others else others

/-- Whether some code point of a range has a given lower case, or one that counts as
equal to it. -/
def Flags.rangeFolds (flags : Flags) (first last code : Nat) : Bool :=
  let reaches (code : Nat) := (flags.withLower code).any fun c => first ≤ c && c ≤ last
  reaches code ||
    (flags.unicode &&
      equalCases.any fun (lower, equals) => equals.contains code && reaches lower)

/-- The first code point of the upper case of a code point. -/
def firstUpper (code : Nat) : Nat := (Text.upperCodes code).head?.getD code

/-- The last code point of the basic plane. Sets fold characters beyond it by another
rule. -/
def basicPlaneEnd : Nat := 0xFFFF

/-- Whether a lower case code point is a member of a set item, letter case not
counting. -/
def SetItem.folds (flags : Flags) (code : Nat) : SetItem → Bool
  | .char c =>
    let lower := flags.lower c
    if lower ≤ basicPlaneEnd then (flags.equals lower).contains code else code == c
  | .range first last =>
    flags.rangeFolds first (min last basicPlaneEnd) code ||
      (basicPlaneEnd < last &&
        ((first ≤ code && code ≤ last) ||
          (first ≤ firstUpper code && firstUpper code ≤ last)))
  | .category kind negated => kind.has (!flags.unicode) code != negated

/-- Whether a run of code points and a range have one in common. -/
def runMeets (run : Text.CaseRun) (first last : Nat) : Bool :=
  let least := if first ≤ run.first then run.first
    else run.first + (first - run.first + run.step - 1) / run.step * run.step
  least ≤ run.last && least ≤ last

/-- Whether a range holds a code point that has another letter case. -/
def Flags.rangeIsCased (flags : Flags) (first last : Nat) : Bool :=
  if flags.unicode then
    Text.lowerRuns.any (runMeets · first last) || Text.upperRuns.any (runMeets · first last) ||
      Text.upperSpellings.any fun (code, _) => first ≤ code && code ≤ last
  else (first ≤ 90 && 65 ≤ last) || (first ≤ 122 && 97 ≤ last)

/-- Whether letter case matters to a set item. -/
def SetItem.isCased (flags : Flags) : SetItem → Bool
  | .char c => flags.isCased c || basicPlaneEnd < flags.lower c
  | .range first last => flags.rangeIsCased first last || basicPlaneEnd < last
  | .category .. => false

/-- Whether a code point is in a set. -/
def inSet (flags : Flags) (items : List SetItem) (code : Nat) : Bool :=
  if flags.ignoreCase && items.any (·.isCased flags) then
    items.any (·.folds flags (flags.lower code))
  else items.any (·.has flags code)

/-- Whether a code point matches a character. -/
def isChar (flags : Flags) (char code : Nat) : Bool :=
  if flags.ignoreCase && flags.isCased char then
    (flags.equals (flags.lower char)).contains (flags.lower code)
  else code == char

end Stencil.Pattern
