import GatedRun.Number.Binary64

/-!
# Number literals

A number as it stands in compact data notation. Literals without a point and without a power of ten
that fit into 64 bits are whole numbers, all others are numbers of double precision
(`Literal.value?`). `Literal.read?` takes one off the front of a text.
-/

namespace GatedRun

/-- A number as it is written. Digits are listed from the first to the last. -/
structure Literal where
  isNegative : Bool
  whole : List Nat
  fraction : Option (List Nat)
  power : Option Int
  deriving DecidableEq

/-- What a literal denotes. -/
inductive Number where
  | whole (n : Int)
  | real (x : Binary64)
  deriving DecidableEq

namespace Literal

/-! ### What it denotes -/

def greatestWord : Nat := 18446744073709551615

/-- The number that the leading digits make, as many of them as fit into 64 bits after what is read
already, and how many digits are left over. -/
def leading (read : Nat) : List Nat → Nat × Nat
  | [] => (read, 0)
  | digit :: rest =>
    if 10 * read + digit ≤ greatestWord then leading (10 * read + digit) rest
    -- Once a digit does not fit, those behind it are left over too.
    else (read, rest.length + 1)

/-- A whole number of 64 bits, with a sign or without; zero has no sign. -/
def whole? (literal : Literal) : Option Int :=
  if literal.fraction.isSome || literal.power.isSome then none
  else
    match leading 0 literal.whole with
    | (n, 0) =>
      if literal.isNegative then
        -- The least number that has a sign is `-2 ^ 63`.
        if 0 < n ∧ 2 * n ≤ greatestWord + 1 then some (-Int.ofNat n) else none
      else some n
    | _ => none

/-- The number of double precision. Digits that do not fit into 64 bits count as zeros. -/
def real? (literal : Literal) : Option Binary64 :=
  let fraction := literal.fraction.getD []
  let (digits, left) := leading 0 (literal.whole ++ fraction)
  let power := literal.power.getD 0 + left - fraction.length
  Binary64.ofDecimal? literal.isNegative digits power

def value? (literal : Literal) : Option Number :=
  match literal.whole? with
  | some n => some (.whole n)
  | none => literal.real?.map .real

/-! ### Reading -/

def readSign : List Char → Bool × List Char
  | '-' :: rest => (true, rest)
  | rest => (false, rest)

def readDigits? (cs : List Char) : Option (List Nat × List Char) :=
  match cs.takeWhile Char.isDigit with
  | [] => none
  | digits => some (digits.map fun c => c.toNat - '0'.toNat, cs.dropWhile Char.isDigit)

def readFraction? : List Char → Option (Option (List Nat) × List Char)
  | '.' :: rest => (readDigits? rest).map fun (digits, rest) => (some digits, rest)
  | rest => some (none, rest)

/-- A power of ten, which may have a sign of either kind. -/
def readSignedPower? (cs : List Char) : Option (Int × List Char) := do
  let (isNegative, rest) := match cs with
    | '+' :: rest => (false, rest)
    | rest => readSign rest
  let (digits, rest) ← readDigits? rest
  let size := Int.ofNat (digits.foldl (fun n digit => 10 * n + digit) 0)
  return (if isNegative then -size else size, rest)

def readPower? : List Char → Option (Option Int × List Char)
  | 'e' :: rest | 'E' :: rest =>
    (readSignedPower? rest).map fun (power, rest) => (some power, rest)
  | rest => some (none, rest)

def read? (cs : List Char) : Option (Literal × List Char) := do
  let (isNegative, rest) := readSign cs
  let (whole, rest) ← readDigits? rest
  let (fraction, rest) ← readFraction? rest
  let (power, rest) ← readPower? rest
  return (⟨isNegative, whole, fraction, power⟩, rest)

end Literal

end GatedRun
