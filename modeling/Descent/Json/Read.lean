import Descent.Json.Basic
import Descent.Json.Numeral
import Descent.Json.ReadError

/-!
# Reading JSON text

`Json.read` reads one JSON value, with blanks around it, from a text, or says what is wrong
with the text and where. Strings take the escapes of the format, `\u` escapes included,
where a surrogate must be the first half of a pair followed at once by the second. A
numeral with no fraction and no exponent that fits a 64-bit word is an integer, except a
negative zero; any other numeral is kept as its text, once its magnitude is known to be that
of a finite double (see `Descent.Json.Numeral`). Of two members of an object with one key
the later wins.

The reader walks the text once and notices each flaw at the first byte that shows it; the
offsets of its errors follow the rule of `Descent.Json.ReadError`. The reader is given a count
of steps so that it recurses structurally; a value reads at least one character, so the count
that `read` passes is never used up (`Descent.Json.read_fuel_enough`).
-/

namespace Descent.Json

/-- The blanks of the format: space, tab, line feed and carriage return. -/
def isBlank (c : Char) : Bool := c = ' ' || c = '\t' || c = '\n' || c = '\r'

/-- The number of bytes that characters take. -/
def byteCount (cs : List Char) : Nat := cs.foldl (fun n c => n + c.utf8Size) 0

/-- A text part-way through reading: the characters still to read, and the byte offset of the
first of them. -/
structure Scan where
  rest : List Char
  offset : Nat

namespace Scan

/-- The text after its next character. -/
def next (s : Scan) : Scan :=
  match s.rest with
  | [] => s
  | c :: r => ⟨r, s.offset + c.utf8Size⟩

/-- A flaw noticed on taking the next character: one byte past its start, or at the end of
the text if there is none. -/
def flawAtNext (s : Scan) (f : Flaw) : ReadError :=
  ⟨f, if s.rest.isEmpty then s.offset else s.offset + 1⟩

/-- The blanks of a text skipped. -/
def skipBlanks (s : Scan) : Scan := go s.rest s.offset
where
  go : List Char → Nat → Scan
    | c :: r, o => if isBlank c then go r (o + 1) else ⟨c :: r, o⟩
    | [], o => ⟨[], o⟩

end Scan

/-- The value of a hexadecimal digit of either case. -/
def hexValue? (c : Char) : Option Nat :=
  if '0' ≤ c ∧ c ≤ '9' then some (c.toNat - '0'.toNat)
  else if 'a' ≤ c ∧ c ≤ 'f' then some (c.toNat - 'a'.toNat + 10)
  else if 'A' ≤ c ∧ c ≤ 'F' then some (c.toNat - 'A'.toNat + 10)
  else none

/-- The number that four hexadecimal digits write. -/
def hex4? (a b c d : Char) : Option Nat := do
  let a ← hexValue? a
  let b ← hexValue? b
  let c ← hexValue? c
  let d ← hexValue? d
  pure (((a * 16 + b) * 16 + c) * 16 + d)

/-- The character of a one-letter escape. -/
def escaped? : Char → Option Char
  | '"' => some '"'
  | '\\' => some '\\'
  | '/' => some '/'
  | 'b' => some '\x08'
  | 'f' => some '\x0c'
  | 'n' => some '\n'
  | 'r' => some '\r'
  | 't' => some '\t'
  | _ => none

/-- Whether a code unit is the first half of a surrogate pair. -/
def isHighSurrogate (u : Nat) : Bool := 0xD800 ≤ u && u < 0xDC00

/-- Whether a code unit is the second half of a surrogate pair. -/
def isLowSurrogate (u : Nat) : Bool := 0xDC00 ≤ u && u < 0xE000

/-- The character that a surrogate pair encodes. -/
def pairChar (high low : Nat) : Char :=
  Char.ofNat (0x10000 + (high - 0xD800) * 0x400 + (low - 0xDC00))

/-- The flaw of a `\u` escape with fewer than four characters after it, the first of them at
`offset`: the reader takes four bytes, so it meets the end of the text if they have fewer,
and else a character that is no hexadecimal digit. -/
def shortHexFlaw (cs : List Char) (offset : Nat) : ReadError :=
  if byteCount cs < 4 then ⟨.eofWhileParsingString, offset + byteCount cs⟩
  else ⟨.invalidEscape, offset + 4⟩

/-- The characters of a string after its opening quote, through its closing quote, and the
text after it. The first of `cs` is at byte offset `o`; `acc` holds the characters read so
far, last first. -/
def readChars (acc : List Char) (o : Nat) : List Char → Except ReadError (String × Scan)
  | [] => .error ⟨.eofWhileParsingString, o⟩
  | '"' :: r => .ok (String.ofList acc.reverse, ⟨r, o + 1⟩)
  | '\\' :: 'u' :: a :: b :: c :: d :: r =>
    match hex4? a b c d with
    | none => .error ⟨.invalidEscape, o + 6⟩
    | some u =>
      if isLowSurrogate u then .error ⟨.loneLeadingSurrogateInHexEscape, o + 6⟩
      else if !isHighSurrogate u then readChars (Char.ofNat u :: acc) (o + 6) r
      else
        match r with
        | '\\' :: 'u' :: e :: f :: g :: h :: r' =>
          match hex4? e f g h with
          | none => .error ⟨.invalidEscape, o + 12⟩
          | some v =>
            if isLowSurrogate v then readChars (pairChar u v :: acc) (o + 12) r'
            else .error ⟨.loneLeadingSurrogateInHexEscape, o + 12⟩
        | '\\' :: 'u' :: t => .error (shortHexFlaw t (o + 8))
        | ['\\'] => .error ⟨.eofWhileParsingString, o + 7⟩
        | '\\' :: _ :: _ => .error ⟨.unexpectedEndOfHexEscape, o + 8⟩
        | [] => .error ⟨.eofWhileParsingString, o + 6⟩
        | _ :: _ => .error ⟨.unexpectedEndOfHexEscape, o + 7⟩
  | '\\' :: 'u' :: t => .error (shortHexFlaw t (o + 2))
  | ['\\'] => .error ⟨.eofWhileParsingString, o + 1⟩
  | '\\' :: e :: r =>
    match escaped? e with
    | some ch => readChars (ch :: acc) (o + 2) r
    | none => .error ⟨.invalidEscape, o + 2⟩
  | c :: r =>
    if c.toNat < 0x20 then .error ⟨.controlCharacterWhileParsingString, o + 1⟩
    else readChars (c :: acc) (o + c.utf8Size) r

/-- The value of an exponent's digits, or, if it passes the largest signed 32-bit word, how
many digits the reader has taken when it sees that. -/
def exponentValue (acc : Nat) : List Char → Except Nat Nat
  | [] => .ok acc
  | d :: ds =>
    let next := acc * 10 + digitValue d
    if 2147483647 < next then .error 1
    else
      match exponentValue next ds with
      | .error k => .error (k + 1)
      | .ok v => .ok v

/-- Whether an integer literal of magnitude `m` is read as an integer: a negative one must
fit a signed 64-bit word and be below zero (a negative zero is a float), any other must fit an
unsigned one. -/
def isIntegerLiteral (negative : Bool) (m : Nat) : Bool :=
  if negative then 0 < m && m ≤ 9223372036854775808 else m ≤ wordMax

/-- The exponent part of a numeral, from its `e` or `E`: whether it is negative, its digits,
and the text after them. The first character of `cs` is at offset `o`. -/
def readExponent (cs : List Char) (o : Nat) :
    Except ReadError (Bool × List Char × List Char × Nat) :=
  let (negative, r, o) := match cs with
    | '+' :: r => (false, r, o + 1)
    | '-' :: r => (true, r, o + 1)
    | r => (false, r, o)
  match r with
  | [] => .error ⟨.eofWhileParsingValue, o⟩
  | d :: _ =>
    if d.isDigit then
      let ds := r.takeWhile Char.isDigit
      .ok (negative, ds, r.dropWhile Char.isDigit, o + ds.length)
    else .error ⟨.invalidNumber, o + 1⟩

/-- The integer part of a numeral, from its first character after the sign, at offset `o`: a
lone zero, or digits of which the first is no zero. -/
def readWhole (r : List Char) (o : Nat) : Except ReadError (List Char) :=
  match r with
  | [] => .error ⟨.eofWhileParsingValue, o⟩
  | '0' :: d :: _ => if d.isDigit then .error ⟨.invalidNumber, o + 2⟩ else .ok ['0']
  | d :: _ => if d.isDigit then .ok (r.takeWhile Char.isDigit) else .error ⟨.invalidNumber, o + 1⟩

/-- The fraction of a numeral, from the end of its integer part at offset `o`: the digits after
a point, if there is one, and the text after them with its offset. -/
def readFraction (r : List Char) (o : Nat) :
    Except ReadError (Option (List Char) × List Char × Nat) :=
  match r with
  | '.' :: r =>
    let ds := r.takeWhile Char.isDigit
    match ds, r with
    | [], [] => .error ⟨.eofWhileParsingValue, o + 1⟩
    | [], _ :: _ => .error ⟨.invalidNumber, o + 2⟩
    | _, _ => .ok (some ds, r.dropWhile Char.isDigit, o + 1 + ds.length)
  | _ => .ok (none, r, o)

/-- The exponent of a numeral, from the end of its fraction at offset `o`: its sign and digits
after an `e` or an `E`, if there is one, and the text after them with its offset. -/
def readExponentPart (r : List Char) (o : Nat) :
    Except ReadError (Option (Bool × List Char) × List Char × Nat) :=
  match r with
  | 'e' :: r | 'E' :: r =>
    (readExponent r (o + 1)).map fun (neg, ds, r', o') => (some (neg, ds), r', o')
  | _ => .ok (none, r, o)

/-- The value of a numeral from its parts: its sign, the digits of its integer part, of its
fraction and of its exponent; `text` is the numeral as written and `o` the offset after it. -/
def numeralValue (negative : Bool) (whole : List Char) (fraction : Option (List Char))
    (exponent : Option (Bool × List Char)) (text : String) (o : Nat) : Except ReadError Json := do
  let (sig, taken) := absorbDigits 0 whole
  if fraction.isNone && exponent.isNone && taken = whole.length && isIntegerLiteral negative sig then
    pure (.int (if negative then -(sig : Int) else sig))
  else
    let (sig, scale) := match fraction with
      | some ds =>
        let (sig', more) := absorbDigits sig ds
        (sig', ((whole.length - taken : Nat) : Int) - more)
      | none => (sig, ((whole.length - taken : Nat) : Int))
    let power : Option Int ← match exponent with
      | none => pure (some 0)
      | some (neg, ds) =>
        match exponentValue 0 ds with
        | .ok v => pure (some (if neg then -(v : Int) else v))
        | .error k =>
          -- the exponent leaves a 32-bit word after `k` of its digits, which end the
          -- numeral: an infinity is refused there, and anything else reads as a zero
          if sig != 0 && !neg then .error ⟨.numberOutOfRange, o - ds.length + k⟩
          else pure none
    match power with
    | none => pure (.num text)
    | some p =>
      if exceedsDouble sig (scale + p) then .error ⟨.numberOutOfRange, o⟩
      else pure (.num text)

/-- A numeral, from its first character, a minus or a digit: an optional minus, an integer
part with no leading zero, an optional fraction and an optional exponent. The parts are read
first; a flaw of the value is noticed at the end of the numeral. -/
def readNumber (s : Scan) : Except ReadError (Json × Scan) := do
  let (negative, r0, o0) := match s.rest with
    | '-' :: r => (true, r, s.offset + 1)
    | r => (false, r, s.offset)
  let whole ← readWhole r0 o0
  let (fraction, r2, o2) ← readFraction (r0.drop whole.length) (o0 + whole.length)
  let (exponent, r3, o3) ← readExponentPart r2 o2
  let j ← numeralValue negative whole fraction exponent
    (String.ofList (s.rest.take (o3 - s.offset))) o3
  pure (j, ⟨r3, o3⟩)

/-- The rest of a fixed word whose first letter has been read: `null`, `true` or `false`. -/
def readWord (word : List Char) (s : Scan) : Except ReadError Scan :=
  match word, s.rest with
  | [], _ => .ok s
  | _ :: _, [] => .error (s.flawAtNext .eofWhileParsingValue)
  | w :: ws, c :: _ => if c = w then readWord ws s.next else .error (s.flawAtNext .expectedSomeIdent)

/-- Where the next item of an array starts, `c` being the character after the blanks at `s`:
there for the first item, and after a comma and blanks for the others. -/
def itemStart (first : Bool) (c : Char) (s : Scan) : Except ReadError Scan :=
  if first then .ok s
  else if c = ',' then
    let s' := s.next.skipBlanks
    match s'.rest with
    | ']' :: _ => .error (s'.flawAtNext .trailingComma)
    | [] => .error (s'.flawAtNext .eofWhileParsingValue)
    | _ => .ok s'
  else .error (s.flawAtNext .expectedListCommaOrEnd)

/-- Where the key of the next member of an object starts, at its opening quote, `c` being the
character after the blanks at `s`: there for the first member, and after a comma and blanks for
the others. -/
def keyStart (first : Bool) (c : Char) (s : Scan) : Except ReadError Scan :=
  if first then
    if c = '"' then .ok s else .error (s.flawAtNext .keyMustBeAString)
  else if c = ',' then
    let s' := s.next.skipBlanks
    match s'.rest with
    | '"' :: _ => .ok s'
    | '\x7d' :: _ => .error (s'.flawAtNext .trailingComma)
    | [] => .error (s'.flawAtNext .eofWhileParsingValue)
    | _ => .error (s'.flawAtNext .keyMustBeAString)
  else .error (s.flawAtNext .expectedObjectCommaOrEnd)

mutual

/-- One value after optional blanks, and the text after it. -/
def readValue : Nat → Scan → Except ReadError (Json × Scan)
  | 0, s => .error (s.flawAtNext .expectedSomeValue)
  | fuel + 1, s =>
    let s := s.skipBlanks
    match s.rest with
    | [] => .error (s.flawAtNext .eofWhileParsingValue)
    | 'n' :: _ => (readWord ['u', 'l', 'l'] s.next).map fun s => (.null, s)
    | 't' :: _ => (readWord ['r', 'u', 'e'] s.next).map fun s => (.bool true, s)
    | 'f' :: _ => (readWord ['a', 'l', 's', 'e'] s.next).map fun s => (.bool false, s)
    | '"' :: r => (readChars [] (s.offset + 1) r).map fun (t, s) => (.str t, s)
    | '[' :: _ => readItems fuel true [] s.next
    | '\x7b' :: _ => readFields fuel true [] s.next
    | c :: _ =>
      if c = '-' || c.isDigit then readNumber s else .error (s.flawAtNext .expectedSomeValue)

/-- The items of an array after its opening bracket, or after the items in `acc` (last first)
when `first` is false. -/
def readItems : Nat → Bool → List Json → Scan → Except ReadError (Json × Scan)
  | 0, _, _, s => .error (s.flawAtNext .eofWhileParsingList)
  | fuel + 1, first, acc, s =>
    let s := s.skipBlanks
    match s.rest with
    | ']' :: _ => .ok (.arr acc.reverse, s.next)
    | [] => .error (s.flawAtNext .eofWhileParsingList)
    | c :: _ =>
      match itemStart first c s with
      | .error e => .error e
      | .ok s =>
        match readValue fuel s with
        | .error e => .error e
        | .ok (v, s) => readItems fuel false (v :: acc) s

/-- The members of an object after its opening brace, or after the members in `acc` when
`first` is false. -/
def readFields : Nat → Bool → List (String × Json) → Scan → Except ReadError (Json × Scan)
  | 0, _, _, s => .error (s.flawAtNext .eofWhileParsingObject)
  | fuel + 1, first, acc, s =>
    let s := s.skipBlanks
    match s.rest with
    | '\x7d' :: _ => .ok (.obj acc, s.next)
    | [] => .error (s.flawAtNext .eofWhileParsingObject)
    | c :: _ =>
      match keyStart first c s with
      | .error e => .error e
      | .ok s =>
        match readChars [] (s.offset + 1) s.rest.tail with
        | .error e => .error e
        | .ok (k, s) =>
          let s := s.skipBlanks
          match s.rest with
          | ':' :: _ =>
            match readValue fuel s.next with
            | .error e => .error e
            | .ok (v, s) => readFields fuel false (insertField k v acc) s
          | [] => .error (s.flawAtNext .eofWhileParsingObject)
          | _ => .error (s.flawAtNext .expectedColon)

end

/-- The JSON value that a text holds, with blanks around it, or the first flaw of the text. -/
def read (text : String) : Except ReadError Json := do
  let cs := text.toList
  let (j, s) ← readValue (2 * cs.length + 2) ⟨cs, 0⟩
  let s := s.skipBlanks
  if s.rest.isEmpty then pure j else .error (s.flawAtNext .trailingCharacters)

end Descent.Json
