/-
# Binary floating point numbers

A binary64 number is kept by its place in the order of magnitudes: the finite
magnitudes are numbered from `0` upwards without gaps, so that equality of
representations is equality of numbers (zero alone has two signs). Every finite
magnitude is a whole number of units of `2 ^ (-1074)`, which makes rounding and
comparison plain arithmetic on natural numbers.
-/

namespace Stencil

/-- How many ranks in a row are evenly spaced. -/
def Binary64.octave : Nat := Nat.pow 2 52

/-- How many finite magnitudes there are. -/
def Binary64.finiteRanks : Nat := 2047 * octave

/-- A binary64 number. The `rank` of a finite number counts the magnitudes below
it. -/
inductive Binary64
  | nan
  | infinite (negative : Bool)
  | finite (negative : Bool) (rank : Fin Binary64.finiteRanks)
  deriving DecidableEq, Repr

namespace Binary64

/-- How many units of `2 ^ (-1074)` make one. -/
def unitsInOne : Nat := Nat.pow 2 1074

/-- The magnitude of a rank in units of `2 ^ (-1074)`: the first octave is spaced by
one unit, and so is the second; after that the spacing doubles with every octave. -/
def units (rank : Nat) : Nat :=
  if rank < octave then rank
  else (octave + rank % octave) <<< (rank / octave - 1)

/-- The quotient of two natural numbers rounded to the nearest whole number, a
half going to the even neighbour. -/
def roundHalfEven (num den : Nat) : Nat :=
  let whole := num / den
  let twice := 2 * (num % den)
  if twice < den then whole
  else if den < twice then whole + 1
  else whole + whole % 2

/-- The rank whose magnitude is nearest to `num / den` units, a tie going to the
even rank. It may exceed the finite ranks, which means overflow. -/
def nearestRank (num den : Nat) : Nat :=
  let shift := (num / den).log2 + 1 - 53
  shift * octave + roundHalfEven num (den <<< shift)

/-- The number of the given sign and rank, infinite past the last finite rank. -/
def ofRank (negative : Bool) (rank : Nat) : Binary64 :=
  if h : rank < finiteRanks then .finite negative ⟨rank, h⟩ else .infinite negative

/-- The number nearest to `num / den`. -/
def ofRatio (negative : Bool) (num den : Nat) : Binary64 :=
  ofRank negative (nearestRank (num * unitsInOne) den)

/-- The number nearest to `digits * 10 ^ exponent`. Exponents so large or so small
that the answer is infinite or zero whatever the digits are decided at once. -/
def ofDecimal (negative : Bool) (digits : Nat) (exponent : Int) : Binary64 :=
  if digits = 0 then ofRank negative 0
  else if 400 < exponent then .infinite negative
  else if exponent + digits.log2 < -400 then ofRank negative 0
  else if 0 ≤ exponent then ofRatio negative (digits * Nat.pow 10 exponent.toNat) 1
  else ofRatio negative digits (Nat.pow 10 (-exponent).toNat)

/-- The number nearest to an integer. -/
def ofInt (i : Int) : Binary64 :=
  ofDecimal (decide (i < 0)) i.natAbs 0

/-- The positive zero. -/
def zero : Binary64 := ofRank false 0

/-- Whether the number is neither infinite nor undefined. -/
def isFinite : Binary64 → Bool
  | .finite .. => true
  | _ => false

/-- Whether the number is zero of either sign. -/
def isZero : Binary64 → Bool
  | .finite _ rank => rank.val == 0
  | _ => false

/-- The integer a finite number equals, if it equals one. -/
def toInt? : Binary64 → Option Int
  | .finite negative rank =>
    if units rank.val % unitsInOne = 0 then
      let magnitude : Int := units rank.val / unitsInOne
      some (if negative then -magnitude else magnitude)
    else none
  | _ => none

end Binary64

/-- A point of the extended line, measured in units of `2 ^ (-1074)`. -/
inductive Point
  | below
  | at (units : Int)
  | above
  deriving DecidableEq, Repr

/-- The strict order of the extended line. -/
def Point.lt : Point → Point → Bool
  | .below, .below => false
  | .below, _ => true
  | .at a, .at b => decide (a < b)
  | .at _, .above => true
  | _, _ => false

/-- The point a number stands for. An undefined number stands for none. -/
def Binary64.point? : Binary64 → Option Point
  | .nan => none
  | .infinite negative => some (if negative then .below else .above)
  | .finite negative rank =>
    some (.at (if negative then -(units rank.val : Int) else units rank.val))

/-- A number that is either an integer of any size or a binary64 number. -/
inductive Number
  | int (i : Int)
  | float (x : Binary64)
  deriving DecidableEq, Repr

namespace Number

/-- The point a number stands for; integers are never rounded. -/
def point? : Number → Option Point
  | .int i => some (.at (i * Binary64.unitsInOne))
  | .float x => x.point?

/-- The strict order of numbers. Nothing is below or above an undefined number. -/
def lt (a b : Number) : Bool :=
  match a.point?, b.point? with
  | some p, some q => p.lt q
  | _, _ => false

/-- The order of numbers. Nothing is below, above or at an undefined number. -/
def le (a b : Number) : Bool :=
  match a.point?, b.point? with
  | some p, some q => !q.lt p
  | _, _ => false

/-- Whether the number is zero. -/
def isZero : Number → Bool
  | .int i => i == 0
  | .float x => x.isZero

end Number

end Stencil
