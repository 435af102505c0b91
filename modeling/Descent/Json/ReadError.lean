/-!
# Why a text holds no JSON value

A `ReadError` names the flaw and the byte offset at which the reader noticed it. The reader
reads bytes: a flaw found on taking the next character is placed one byte past that
character's start, and one found at the end of the text at its end. `ReadError.message`
turns the offset into a line and a column, both counted as the reader counts them: lines
from one, columns as the bytes since the last line feed.
-/

namespace Descent.Json

/-- What is wrong with a text that should hold one JSON value. -/
inductive Flaw where
  | eofWhileParsingList
  | eofWhileParsingObject
  | eofWhileParsingString
  | eofWhileParsingValue
  | expectedColon
  | expectedListCommaOrEnd
  | expectedObjectCommaOrEnd
  | expectedSomeIdent
  | expectedSomeValue
  | invalidEscape
  | invalidNumber
  | numberOutOfRange
  | controlCharacterWhileParsingString
  | keyMustBeAString
  | loneLeadingSurrogateInHexEscape
  | trailingComma
  | trailingCharacters
  | unexpectedEndOfHexEscape
deriving Inhabited, BEq

/-- The words for a flaw. -/
def Flaw.message : Flaw → String
  | .eofWhileParsingList => "EOF while parsing a list"
  | .eofWhileParsingObject => "EOF while parsing an object"
  | .eofWhileParsingString => "EOF while parsing a string"
  | .eofWhileParsingValue => "EOF while parsing a value"
  | .expectedColon => "expected `:`"
  | .expectedListCommaOrEnd => "expected `,` or `]`"
  | .expectedObjectCommaOrEnd => "expected `,` or `\x7d`"
  | .expectedSomeIdent => "expected ident"
  | .expectedSomeValue => "expected value"
  | .invalidEscape => "invalid escape"
  | .invalidNumber => "invalid number"
  | .numberOutOfRange => "number out of range"
  | .controlCharacterWhileParsingString =>
    "control character (\\u0000-\\u001F) found while parsing a string"
  | .keyMustBeAString => "key must be a string"
  | .loneLeadingSurrogateInHexEscape => "lone leading surrogate in hex escape"
  | .trailingComma => "trailing comma"
  | .trailingCharacters => "trailing characters"
  | .unexpectedEndOfHexEscape => "unexpected end of hex escape"

/-- A flaw and the byte offset from the start of the text at which it was found. -/
structure ReadError where
  flaw : Flaw
  offset : Nat
deriving Inhabited, BEq

/-- The line of a byte offset, counted from one, and the offset of that line's first byte.
`pos` is the offset of the first of `cs`, `line` and `start` those of the text before it. -/
def lineOf (offset : Nat) : List Char → Nat → Nat → Nat → Nat × Nat
  | [], _, line, start => (line, start)
  | c :: cs, pos, line, start =>
    if offset ≤ pos then (line, start)
    else if c = '\n' then lineOf offset cs (pos + 1) (line + 1) (pos + 1)
    else lineOf offset cs (pos + c.utf8Size) line start

/-- The text of an error in `text`: the flaw, then where it was found. -/
def ReadError.message (e : ReadError) (text : String) : String :=
  let (line, start) := lineOf e.offset text.toList 0 1 0
  e.flaw.message ++ " at line " ++ toString line ++ " column " ++ toString (e.offset - start)

end Descent.Json
