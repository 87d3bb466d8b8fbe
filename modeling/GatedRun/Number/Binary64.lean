/-!
# Numbers of double precision

A finite number of double precision is a sign and the rank of its size among all such sizes, zero
first. Ranks grow with sizes, so neighbours in rank are neighbours in size, and every number has
one form only. `ofRatio?` takes a fraction to the nearest number, `ofDecimal?` a decimal notation.
-/

namespace GatedRun

namespace Binary64

def binadeSize : Nat := Nat.pow 2 52

def rankBound : Nat := 2047 * binadeSize

def leastExponent : Int := -1074

end Binary64

/-- A finite number of double precision. -/
structure Binary64 where
  isNegative : Bool
  rank : Fin Binary64.rankBound
  deriving DecidableEq

namespace Binary64

/-- The whole number that a power of two scales to the size, with 53 binary digits where the least
power is not reached. -/
def significand (x : Binary64) : Nat :=
  if x.rank.val < binadeSize then x.rank.val else binadeSize + x.rank.val % binadeSize

/-- The power of two that scales the significand: the size is `significand * 2 ^ exponent`. -/
def exponent (x : Binary64) : Int :=
  leastExponent + (x.rank.val / binadeSize - 1 : Nat)

def ratio (x : Binary64) : Nat × Nat :=
  (x.significand <<< x.exponent.toNat, 1 <<< (-x.exponent).toNat)

/-! ### Rounding -/

/-- The whole number nearest to a fraction; of two equally near ones, the even one. -/
def roundRatio (num den : Nat) : Nat :=
  let whole := num / den
  match compare (2 * (num % den)) den with
  | .lt => whole
  | .eq => whole + whole % 2
  | .gt => whole + 1

def inUnits (num den : Nat) (unit : Int) : Nat × Nat :=
  (num <<< (-unit).toNat, den <<< unit.toNat)

/-- The power of two that leaves a fraction with 53 binary digits in front of the point, or with
fewer where the least power is reached. -/
def unitExponent (num den : Nat) : Int :=
  let leading : Int := Int.ofNat num.log2 - Int.ofNat den.log2 - 53
  let guess := if leading < leastExponent then leastExponent else leading
  let (n, d) := inUnits num den guess
  -- The two logarithms leave 53 digits or 54, and 54 are one too many.
  if n / d < 2 * binadeSize then guess else guess + 1

/-- The number nearest to a fraction; of two equally near ones, the one with the even significand.
There is none for a fraction beyond the greatest number. Without a denominator it is zero. -/
def ofRatio? (isNegative : Bool) (num den : Nat) : Option Binary64 :=
  if num = 0 ∨ den = 0 then some ⟨isNegative, 0, by decide⟩
  else
    let unit := unitExponent num den
    let (n, d) := inUnits num den unit
    -- A significand that rounds up to a power of two carries over into the next binade.
    let rank := (unit - leastExponent).toNat * binadeSize + roundRatio n d
    if h : rank < rankBound then some ⟨isNegative, rank, h⟩ else none

/-! ### Reading decimals -/

def decimalStride : Nat := 308

def powerOfTen (n : Nat) : Nat × Nat :=
  ((ofRatio? false (Nat.pow 10 n) 1).map ratio).getD (Nat.pow 10 n, 1)

/-- The number times a power of ten up to the stride, if it is in range. -/
def scaleUp? (x : Binary64) (n : Nat) : Option Binary64 :=
  let (num, den) := x.ratio
  let (up, down) := powerOfTen n
  ofRatio? x.isNegative (num * up) (den * down)

def scaleDown? (x : Binary64) (n : Nat) : Option Binary64 :=
  let (num, den) := x.ratio
  let (up, down) := powerOfTen n
  ofRatio? x.isNegative (num * down) (den * up)

/-- The number divided by a power of ten, one stride after the other. -/
def scaleDownBy? (x : Binary64) (n : Nat) : Option Binary64 :=
  -- Zero needs no strides, however small the power.
  if x.significand = 0 then some x
  else if n ≤ decimalStride then x.scaleDown? n
  else (x.scaleDown? decimalStride).bind (·.scaleDownBy? (n - decimalStride))
termination_by n
decreasing_by simp only [decimalStride] at *; omega

/-- The number that `digits * 10 ^ power` denotes. The digits become a number first, which is then
scaled: each of the two steps rounds. Out of range, it denotes none. -/
def ofDecimal? (isNegative : Bool) (digits : Nat) (power : Int) : Option Binary64 := do
  let x ← ofRatio? isNegative digits 1
  if power < 0 then x.scaleDownBy? (-power).toNat
  else if power.toNat ≤ decimalStride then x.scaleUp? power.toNat
  else if digits = 0 then some x
  else none

end Binary64

end GatedRun
