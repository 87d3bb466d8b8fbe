import GatedRun.Number.Shortest
import GatedRun.Text.Inspection

/-!
# Values of tasks

What a task may yield: nothing at all (`Value.unit`, the yield of a task that is run for its
effect), or a piece of data. `Value.compact` writes a value in compact data notation.
-/

namespace GatedRun

/-- What a task yields. The fields of a record are kept in the order of their names. -/
inductive Value where
  | unit
  | null
  | bool (b : Bool)
  | int (n : Int)
  | real (x : Binary64)
  | text (s : String)
  | list (items : List Value)
  | record (fields : List (String × Value))
  deriving Inhabited

namespace Value

/-- One character of a text, as compact data notation writes it. -/
def compactChar (c : Char) : List Char :=
  if c = '"' then ['\\', '"']
  else if c = '\\' then ['\\', '\\']
  else if c = '\n' then ['\\', 'n']
  else if c = '\r' then ['\\', 'r']
  else if c = '\t' then ['\\', 't']
  else if c = '\x08' then ['\\', 'b']
  else if c = '\x0c' then ['\\', 'f']
  else if c.toNat < 0x20 then
    ['\\', 'u', '0', '0'] ++ (if c.toNat < 0x10 then ['0'] else []) ++ Text.hexDigits c
  else [c]

def compactText (s : String) : String :=
  String.ofList ('"' :: s.toList.flatMap compactChar ++ ['"'])

mutual

/-- The value in compact data notation. -/
def compact : Value → String
  | .unit => "()"
  | .null => "null"
  | .bool b => if b then "true" else "false"
  | .int n => toString n
  | .real x => x.text
  | .text s => compactText s
  | .list items => "[" ++ ",".intercalate (compactItems items) ++ "]"
  | .record fields => "\x7b" ++ ",".intercalate (compactFields fields) ++ "\x7d"

def compactItems : List Value → List String
  | [] => []
  | item :: rest => compact item :: compactItems rest

def compactFields : List (String × Value) → List String
  | [] => []
  | (name, value) :: rest => (compactText name ++ ":" ++ compact value) :: compactFields rest

end

def inspect (value : Value) : Text.Inspection := .atom value.compact

end Value

end GatedRun
