import GatedRun.Text.Quoted

/-!
# Inspections

An inspection is what a value shows to a developer: a tree of named records, tuples and lists. It
has two renderings of the same content, one on a single line (`Inspection.plain`) and one with a
line for each part, indented by four blanks a level (`Inspection.pretty`).
-/

namespace GatedRun.Text

/-- The tree that a value shows. A `labelled` node is a field of a record. -/
inductive Inspection where
  | atom (text : String)
  | labelled (label : String) (value : Inspection)
  /-- A record; an open-ended one says that it has more than it shows. -/
  | record (name : String) (fields : List Inspection) (openEnded : Bool)
  | tuple (name : String) (items : List Inspection)
  | list (items : List Inspection)
  deriving Inhabited

namespace Inspection

def number (n : Nat) : Inspection := .atom (toString n)

def text (s : String) : Inspection := .atom (quoted s)

def flag (b : Bool) : Inspection := .atom (if b then "true" else "false")

def optional : Option Inspection → Inspection
  | none => .atom "None"
  | some value => .tuple "Some" [value]

/-! ### On one line -/

mutual

/-- The inspection on one line. -/
def plain : Inspection → String
  | .atom text => text
  | .labelled label value => label ++ ": " ++ plain value
  | .record name fields openEnded =>
    -- On one line the dots of an open-ended record stand for a field.
    name ++ " \x7b " ++ ", ".intercalate (plainEach fields ++ if openEnded then [".."] else [])
      ++ " \x7d"
  | .tuple name items => name ++ "(" ++ ", ".intercalate (plainEach items) ++ ")"
  | .list items => "[" ++ ", ".intercalate (plainEach items) ++ "]"

def plainEach : List Inspection → List String
  | [] => []
  | item :: rest => plain item :: plainEach rest

end

/-! ### A line for each part -/

def closeWithComma : List String → List String
  | [] => []
  | [line] => [line ++ ","]
  | line :: rest => line :: closeWithComma rest

def leadWith (label : String) : List String → List String
  | [] => []
  | line :: rest => (label ++ ": " ++ line) :: rest

def indented (lines : List String) : List String :=
  lines.map ("    " ++ ·)

mutual

/-- The lines of the inspection. -/
def lines : Inspection → List String
  | .atom text => [text]
  | .labelled label value => leadWith label (lines value)
  | .record name fields openEnded =>
    (name ++ " \x7b") :: indented (linesEach fields ++ if openEnded then [".."] else []) ++ ["\x7d"]
  | .tuple name items => (name ++ "(") :: indented (linesEach items) ++ [")"]
  -- An empty list has no parts to give lines to.
  | .list [] => ["[]"]
  | .list (item :: rest) =>
    "[" :: indented (closeWithComma (lines item) ++ linesEach rest) ++ ["]"]

def linesEach : List Inspection → List String
  | [] => []
  | item :: rest => closeWithComma (lines item) ++ linesEach rest

end

def pretty (inspection : Inspection) : String :=
  "\n".intercalate inspection.lines

end Inspection

end GatedRun.Text
