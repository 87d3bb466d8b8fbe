import GatedRun.Number.Literal
import GatedRun.Value

/-!
# Reading values

Reads a value from compact data notation, with blanks between its parts allowed (`Value.read?`).
Each part of the notation has a reader that takes it off the front of a text and leaves the rest.
Readers of nested parts take fuel. A pair of brackets costs two units of it, a comma one and the
innermost value one, so one unit more than the text has characters is enough.
-/

namespace GatedRun.Value

def skipBlanks (cs : List Char) : List Char :=
  cs.dropWhile fun c => c == ' ' || c == '\n' || c == '\r' || c == '\t'

/-! ### Texts -/

def hexDigit? (c : Char) : Option Nat :=
  if '0' ≤ c ∧ c ≤ '9' then some (c.toNat - '0'.toNat)
  else if 'a' ≤ c ∧ c ≤ 'f' then some (c.toNat - 'a'.toNat + 10)
  else if 'A' ≤ c ∧ c ≤ 'F' then some (c.toNat - 'A'.toNat + 10)
  else none

def unit? (digits : List Char) : Option Nat :=
  digits.foldlM (fun n c => (hexDigit? c).map (16 * n + ·)) 0

def pairedChar? (high low : Nat) : Option Char :=
  if 0xd800 ≤ high ∧ high < 0xdc00 ∧ 0xdc00 ≤ low ∧ low < 0xe000 then
    some (Char.ofNat (0x10000 + (high - 0xd800) * 0x400 + (low - 0xdc00)))
  else none

def singleChar? (code : Nat) : Option Char :=
  if 0xd800 ≤ code ∧ code < 0xe000 then none else some (Char.ofNat code)

def namedChar? (c : Char) : Option Char :=
  [('"', '"'), ('\\', '\\'), ('/', '/'), ('b', '\x08'), ('f', '\x0c'), ('n', '\n'), ('r', '\r'),
    ('t', '\t')].lookup c

/-- The characters of a text up to the quote that ends it. -/
def readChars? : List Char → Option (List Char × List Char)
  | [] => none
  | '"' :: rest => some ([], rest)
  | '\\' :: 'u' :: a :: b :: c :: d :: rest =>
    match unit? [a, b, c, d] with
    | none => none
    | some first =>
      match singleChar? first, rest with
      | some char, rest => (readChars? rest).map fun (cs, rest) => (char :: cs, rest)
      -- The first half of a pair asks for the second half right behind it.
      | none, '\\' :: 'u' :: e :: f :: g :: h :: rest => do
        let char ← pairedChar? first (← unit? [e, f, g, h])
        let (cs, rest) ← readChars? rest
        return (char :: cs, rest)
      | none, _ => none
  | '\\' :: c :: rest =>
    match namedChar? c with
    | none => none
    | some char => (readChars? rest).map fun (cs, rest) => (char :: cs, rest)
  | c :: rest => (readChars? rest).map fun (cs, rest) => (c :: cs, rest)

def readText? (cs : List Char) : Option (String × List Char) :=
  (readChars? cs).map fun (cs, rest) => (String.ofList cs, rest)

/-! ### Values -/

def readNumber? (cs : List Char) : Option (Value × List Char) := do
  let (literal, rest) ← Literal.read? cs
  match ← literal.value? with
  | .whole n => return (.int n, rest)
  | .real x => return (.real x, rest)

/-- Puts a field in its place in the order of names. A field that has the name already gives way. -/
def insertField (name : String) (value : Value) : List (String × Value) → List (String × Value)
  | [] => [(name, value)]
  | field :: rest =>
    if name < field.1 then (name, value) :: field :: rest
    else if name = field.1 then (name, value) :: rest
    else field :: insertField name value rest

mutual

/-- The value in front of a text, and the text behind it. -/
def readWith? : Nat → List Char → Option (Value × List Char)
  | 0, _ => none
  | fuel + 1, cs =>
    match skipBlanks cs with
    | 'n' :: 'u' :: 'l' :: 'l' :: rest => some (.null, rest)
    | 't' :: 'r' :: 'u' :: 'e' :: rest => some (.bool true, rest)
    | 'f' :: 'a' :: 'l' :: 's' :: 'e' :: rest => some (.bool false, rest)
    | '"' :: rest => (readText? rest).map fun (s, rest) => (.text s, rest)
    | '[' :: rest =>
      match skipBlanks rest with
      | ']' :: rest => some (.list [], rest)
      | rest => (readItems? fuel rest).map fun (items, rest) => (.list items, rest)
    | '\x7b' :: rest =>
      match skipBlanks rest with
      | '\x7d' :: rest => some (.record [], rest)
      | rest => (readFields? fuel [] rest).map fun (fields, rest) => (.record fields, rest)
    | rest => readNumber? rest

/-- The items of a list, one or more, and the bracket that ends it. -/
def readItems? : Nat → List Char → Option (List Value × List Char)
  | 0, _ => none
  | fuel + 1, cs => do
    let (item, rest) ← readWith? fuel cs
    match skipBlanks rest with
    | ',' :: rest => (readItems? fuel rest).map fun (items, rest) => (item :: items, rest)
    | ']' :: rest => some ([item], rest)
    | _ => none

/-- The fields of a record, one or more, and the bracket that ends it. -/
def readFields? : Nat → List (String × Value) → List Char →
    Option (List (String × Value) × List Char)
  | 0, _, _ => none
  | fuel + 1, read, cs => do
    let '"' :: rest := skipBlanks cs | none
    let (name, rest) ← readText? rest
    let ':' :: rest := skipBlanks rest | none
    let (value, rest) ← readWith? fuel rest
    match skipBlanks rest with
    | ',' :: rest => readFields? fuel (insertField name value read) rest
    | '\x7d' :: rest => some (insertField name value read, rest)
    | _ => none

end

def read? (line : String) : Option Value :=
  let cs := line.toList
  match readWith? (cs.length + 1) cs with
  | some (value, rest) => if (skipBlanks rest).isEmpty then some value else none
  | none => none

end GatedRun.Value
