import GatedRun.Number.Binary64

/-!
# Shortest decimals

A number of double precision is written with the fewest decimal digits that still tell it from its
neighbours. The decimals that do so fill the interval between the halfway points to the two
neighbours, ends included for an even significand (`Decimal.denotes`); `Binary64.shortest` takes
the coarsest decimal grid that has a point there, and on it the point nearest to the number.
-/

namespace GatedRun

/-- The decimal `digits * 10 ^ power`. -/
structure Decimal where
  digits : Nat
  power : Int
  deriving DecidableEq

namespace Decimal

def compareBinary (d : Decimal) (n : Nat) (exponent : Int) : Ordering :=
  compare ((d.digits * Nat.pow 10 d.power.toNat) <<< (-exponent).toNat)
    ((n * Nat.pow 10 (-d.power).toNat) <<< exponent.toNat)

/-- Whether the decimal is nearer to the size of the number than to that of any other number. A
decimal halfway to a neighbour belongs to the even significand. -/
def denotes (d : Decimal) (x : Binary64) : Bool :=
  -- Below a power of two the neighbours lie half as far apart.
  let narrowBelow := x.significand == Binary64.binadeSize && Binary64.leastExponent < x.exponent
  let low := d.compareBinary (4 * x.significand - if narrowBelow then 1 else 2) (x.exponent - 2)
  let high := d.compareBinary (4 * x.significand + 2) (x.exponent - 2)
  let ends := x.significand % 2 == 0
  (low == .gt || (ends && low == .eq)) && (high == .lt || (ends && high == .eq))

end Decimal

namespace Binary64

/-- The last point of the grid of a power of ten that is not beyond the size of the number. -/
def gridBelow (x : Binary64) (power : Int) : Decimal :=
  let (num, den) := x.ratio
  ⟨num * Nat.pow 10 (-power).toNat / (den * Nat.pow 10 power.toNat), power⟩

/-- Of two neighbouring grid points around the size of the number the nearer one; halfway between
them, the even one. -/
def nearerOf (x : Binary64) (below above : Decimal) : Decimal :=
  let middle : Decimal := ⟨2 * below.digits + 1, below.power⟩
  match middle.compareBinary (2 * x.significand) x.exponent with
  | .lt => above
  | .gt => below
  | .eq => if below.digits % 2 = 0 then below else above

/-- The point of a decimal grid that denotes the number, the nearest one if there are two. -/
def onGrid? (x : Binary64) (power : Int) : Option Decimal :=
  let below := x.gridBelow power
  let above : Decimal := ⟨below.digits + 1, power⟩
  match below.denotes x, above.denotes x with
  | true, true => some (x.nearerOf below above)
  | true, false => some below
  | false, true => some above
  | false, false => none

def gridPowers : List Int := (List.range 634).map fun n => 309 - Int.ofNat n

def exactly (x : Binary64) : Decimal :=
  ⟨(x.significand * Nat.pow 5 (-x.exponent).toNat) <<< x.exponent.toNat,
    if x.exponent < 0 then x.exponent else 0⟩

def shortest (x : Binary64) : Decimal :=
  if x.significand = 0 then ⟨0, 0⟩
  else (gridPowers.findSome? fun power => x.onGrid? power).getD x.exactly

end Binary64

/-! ### Notation -/

namespace Decimal

def pointPosition (d : Decimal) : Int :=
  (Nat.toDigits 10 d.digits).length + d.power

def powerLayout (power : Int) : List Char :=
  (if power < 0 then '-' else '+') :: Nat.toDigits 10 power.natAbs

/-- The decimal in digits. Numbers from `0.00001` on and below `10 ^ 16` are written out, with a
digit on both sides of the point; others have one digit in front of the point and a power of ten. -/
def layout (d : Decimal) : List Char :=
  let digits := Nat.toDigits 10 d.digits
  let point := d.pointPosition
  if 0 ≤ d.power ∧ point ≤ 16 then
    digits ++ List.replicate d.power.toNat '0' ++ ['.', '0']
  else if 0 < point ∧ point ≤ 16 then
    digits.take point.toNat ++ '.' :: digits.drop point.toNat
  else if -5 < point ∧ point ≤ 0 then
    '0' :: '.' :: List.replicate (-point).toNat '0' ++ digits
  else
    let fraction := digits.drop 1
    digits.take 1 ++ (if fraction.isEmpty then [] else '.' :: fraction)
      ++ 'e' :: powerLayout (point - 1)

end Decimal

def Binary64.text (x : Binary64) : String :=
  String.ofList ((if x.isNegative then ['-'] else []) ++ x.shortest.layout)

end GatedRun
