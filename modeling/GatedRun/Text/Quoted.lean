/-!
# Quoted text

A text in double quotes, as reports for developers show it. Quotes, backslashes and the usual
blanks have short escapes, other control characters of ASCII are written by their code point in
lower-case hexadecimal, and every other character stands for itself.
-/

namespace GatedRun.Text

/-- Control characters of ASCII: those below the blank, and the delete character. -/
def isControl (c : Char) : Bool :=
  c.toNat < 0x20 || c.toNat == 0x7f

def hexDigits (c : Char) : List Char :=
  Nat.toDigits 16 c.toNat

/-- How one character is written between the quotes. -/
def escapeChar (c : Char) : List Char :=
  if c = '"' then ['\\', '"']
  else if c = '\\' then ['\\', '\\']
  else if c = '\n' then ['\\', 'n']
  else if c = '\r' then ['\\', 'r']
  else if c = '\t' then ['\\', 't']
  else if c = '\x00' then ['\\', '0']
  else if isControl c then ['\\', 'u', '\x7b'] ++ hexDigits c ++ ['\x7d']
  else [c]

def quoted (text : String) : String :=
  String.ofList ('"' :: text.toList.flatMap escapeChar ++ ['"'])

end GatedRun.Text
