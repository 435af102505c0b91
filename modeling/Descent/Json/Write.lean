import Descent.Json.Basic

/-!
# Writing JSON text

`Json.render` writes a tree as compact JSON text: no blanks, members in the order the tree
holds them. The text grows at its end only, so writing takes time linear in its length however
deep the tree is. In a string, the quote, the backslash and the control characters below space are
escaped (the common ones by their letter, the others as `\u00XX`); every other character is
written as itself.
-/

namespace Descent.Json

/-- A hexadecimal digit, lowercase, for a value below sixteen. -/
def hexDigit (n : Nat) : Char :=
  if n < 10 then Char.ofNat ('0'.toNat + n) else Char.ofNat ('a'.toNat + n - 10)

/-- How a character is written inside a quoted string. -/
def escapeChar (c : Char) : List Char :=
  match c with
  | '"' => ['\\', '"']
  | '\\' => ['\\', '\\']
  | '\n' => ['\\', 'n']
  | '\r' => ['\\', 'r']
  | '\t' => ['\\', 't']
  | '\x08' => ['\\', 'b']
  | '\x0c' => ['\\', 'f']
  | c =>
    if c.toNat < 0x20 then ['\\', 'u', '0', '0', hexDigit (c.toNat / 16), hexDigit (c.toNat % 16)]
    else [c]

/-- A string as a quoted JSON string, written after `out`. -/
def writeQuoted (s : String) (out : String) : String :=
  (s.toList.foldl (fun acc c => (escapeChar c).foldl String.push acc) (out.push '"')).push '"'

/-- A string as a quoted JSON string. -/
def quote (s : String) : String := writeQuoted s ""

mutual

/-- The compact text of a tree, written after `out`. -/
def write : Json → String → String
  | .null, out => out ++ "null"
  | .bool b, out => out ++ (if b then "true" else "false")
  | .int n, out => out ++ toString n
  | .num text, out => out ++ text
  | .str s, out => writeQuoted s out
  | .arr items, out => (writeItems items (out.push '[')).push ']'
  | .obj fs, out => (writeFields fs (out.push '\x7b')).push '\x7d'

/-- Items separated by commas, written after `out`. -/
def writeItems : List Json → String → String
  | [], out => out
  | [j], out => write j out
  | j :: js, out => writeItems js ((write j out).push ',')

/-- Members separated by commas, each a quoted key, a colon and a value, written after `out`. -/
def writeFields : List (String × Json) → String → String
  | [], out => out
  | [(k, v)], out => write v ((writeQuoted k out).push ':')
  | (k, v) :: fs, out => writeFields fs ((write v ((writeQuoted k out).push ':')).push ',')

end

/-- The compact text of a tree. -/
def render (j : Json) : String := write j ""

end Descent.Json
