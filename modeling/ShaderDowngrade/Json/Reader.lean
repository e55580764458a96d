import ShaderDowngrade.Json.Basic
import ShaderDowngrade.Pattern.Reader

/-!
# Reading JSON

The reader descends through the text and hands on what it has left. An error knows how many
characters were left where it was detected; its place is found from that at the end.

Beyond the standard, `NaN`, `Infinity` and `-Infinity` are numbers. Control characters may not
stand in strings, of two fields with the same name the later one counts, and a surrogate escape
that is not half of a pair stands for that surrogate. An integer may have at most 4300 digits, and
brackets may be nested at most `maxDepth` deep.
-/

namespace ShaderDowngrade.Json

/-- Why a text is not a JSON value. -/
inductive SyntaxCause where
  /-- The text begins with a byte order mark. -/
  | byteOrderMark
  /-- No value begins here. -/
  | expectingValue
  /-- No field name begins here. -/
  | expectingName
  /-- A field name is not followed by a colon. -/
  | expectingColon
  /-- An item or field is followed neither by a comma nor by the closing bracket. -/
  | expectingComma
  /-- A string is not closed. -/
  | unterminatedString
  /-- A control character stands in a string. -/
  | controlCharacter
  /-- A backslash stands before a character that has no meaning there. -/
  | badEscape
  /-- `\u` is not followed by four hexadecimal digits. -/
  | badUnicodeEscape
  /-- Something follows the value. -/
  | extraData
deriving DecidableEq, Repr

/-- The cause in words. -/
def SyntaxCause.message : SyntaxCause → String
  | .byteOrderMark => "Unexpected UTF-8 BOM (decode using utf-8-sig)"
  | .expectingValue => "Expecting value"
  | .expectingName => "Expecting property name enclosed in double quotes"
  | .expectingColon => "Expecting ':' delimiter"
  | .expectingComma => "Expecting ',' delimiter"
  | .unterminatedString => "Unterminated string starting at"
  | .controlCharacter => "Invalid control character at"
  | .badEscape => "Invalid \\escape"
  | .badUnicodeEscape => "Invalid \\uXXXX escape"
  | .extraData => "Extra data"

/-- The two kinds of values that hold others. -/
inductive Container where
  | array
  | object
deriving DecidableEq, Repr

def Container.name : Container → String
  | .array => "array"
  | .object => "object"

/-- A failure while reading. -/
inductive Failure where
  /-- The text is not JSON, as seen with so many characters left. -/
  | malformed (cause : SyntaxCause) (left : Nat)
  /-- An integer has more digits than are read. -/
  | integerTooLong (digits : Nat)
  /-- A bracket is nested too deep. -/
  | tooDeep (container : Container)
deriving DecidableEq, Repr

def isSpace (c : Char) : Bool := c == ' ' || c == '\t' || c == '\n' || c == '\r'

/-- The text behind leading space. -/
def skipSpace (cs : Text) : Text := cs.dropWhile isSpace

/-- The failure with all of the given text left. -/
def failAt {α : Type} (cause : SyntaxCause) (cs : Text) : Except Failure α :=
  .error (.malformed cause cs.length)

/-! ## Strings -/

def hexValue? (c : Char) : Option Nat :=
  if c.isDigit then some (c.toNat - '0'.toNat)
  else if 'a' ≤ c ∧ c ≤ 'f' then some (c.toNat - 'a'.toNat + 10)
  else if 'A' ≤ c ∧ c ≤ 'F' then some (c.toNat - 'A'.toNat + 10)
  else none

/-- The UTF-16 unit of four hexadecimal digits. -/
def unit? (a b c d : Char) : Option Nat := do
  return 4096 * (← hexValue? a) + 256 * (← hexValue? b) + 16 * (← hexValue? c) + (← hexValue? d)

def isHighSurrogate (n : Nat) : Bool := 0xd800 ≤ n && n ≤ 0xdbff

def isLowSurrogate (n : Nat) : Bool := 0xdc00 ≤ n && n ≤ 0xdfff

/-- The code point of a unit that stands alone. -/
def ofUnit (n : Nat) : CodePoint :=
  if isHighSurrogate n || isLowSurrogate n then .surrogate (Fin.ofNat 0x800 (n - 0xd800))
  else .char (.ofNat n)

/-- The character of a pair of surrogates. -/
def ofPair (high low : Nat) : CodePoint :=
  .char (.ofNat (0x10000 + 0x400 * (high - 0xd800) + (low - 0xdc00)))

/-- The character that a letter stands for after a backslash. -/
def simpleEscape? : Char → Option Char
  | '"' => some '"'
  | '\\' => some '\\'
  | '/' => some '/'
  | 'b' => some '\x08'
  | 'f' => some '\x0c'
  | 'n' => some '\n'
  | 'r' => some '\r'
  | 't' => some '\t'
  | _ => none

/-- The code point of an escape behind its backslash and `u`, and the text behind it. A unit is
read only if something follows its four digits, since at least the closing quote must. -/
def readUnicode (cs : Text) : Except Failure (CodePoint × Text) :=
  match cs with
  | a :: b :: c :: d :: e :: rest =>
    match unit? a b c d with
    | none => failAt .badUnicodeEscape ('u' :: cs)
    | some unit =>
      match isHighSurrogate unit, e :: rest with
      | true, '\\' :: 'u' :: a' :: b' :: c' :: d' :: e' :: rest' =>
        match unit? a' b' c' d' with
        | none => failAt .badUnicodeEscape ('u' :: a' :: b' :: c' :: d' :: e' :: rest')
        | some low =>
          if isLowSurrogate low then .ok (ofPair unit low, e' :: rest')
          else .ok (ofUnit unit, e :: rest)
      | _, _ => .ok (ofUnit unit, e :: rest)
  | _ => failAt .badUnicodeEscape ('u' :: cs)

/-- The code points of a string up to its closing quote. `opened` is the text from the opening
quote on, to which a missing end is charged. -/
def readPoints (opened : Text) : Nat → Text → Except Failure (List CodePoint × Text)
  | 0, _ => failAt .unterminatedString opened
  | _ + 1, [] => failAt .unterminatedString opened
  | _ + 1, '"' :: cs => .ok ([], cs)
  | _ + 1, ['\\'] => failAt .unterminatedString opened
  | fuel + 1, '\\' :: 'u' :: cs => do
    let (p, rest) ← readUnicode cs
    let (more, rest) ← readPoints opened fuel rest
    return (p :: more, rest)
  | fuel + 1, '\\' :: c :: cs =>
    match simpleEscape? c with
    | none => failAt .badEscape ('\\' :: c :: cs)
    | some d => do
      let (more, rest) ← readPoints opened fuel cs
      return (.char d :: more, rest)
  | fuel + 1, c :: cs =>
    if c.toNat < 0x20 then failAt .controlCharacter (c :: cs)
    else do
      let (more, rest) ← readPoints opened fuel cs
      return (.char c :: more, rest)

/-- A string behind its opening quote. -/
def readString (cs : Text) : Except Failure (CodeString × Text) :=
  (readPoints ('"' :: cs) (cs.length + 1) cs).map fun (points, rest) ↦ (⟨points⟩, rest)

/-! ## Numbers -/

/-- The digits behind a point, if there are any. -/
def fraction? : Text → Option (Text × Text)
  | '.' :: cs =>
    let digits := cs.takeWhile Char.isDigit
    if digits.isEmpty then none else some (digits, cs.dropWhile Char.isDigit)
  | _ => none

/-- The exponent behind its letter, if it has digits. -/
def exponent? : Text → Option (Int × Text)
  | e :: cs =>
    if e = 'e' ∨ e = 'E' then
      let (negative, cs) : Bool × Text :=
        match cs with
        | '-' :: cs => (true, cs)
        | '+' :: cs => (false, cs)
        | _ => (false, cs)
      let digits := cs.takeWhile Char.isDigit
      let n : Nat := Pattern.digitsValue digits
      if digits.isEmpty then none
      else some (if negative then -(n : Int) else n, cs.dropWhile Char.isDigit)
    else none
  | [] => none

/-- The number whose digits begin here; `whole` is the text from its sign on. -/
def readNumber (negative : Bool) (whole cs : Text) : Except Failure (Json × Text) :=
  let digits :=
    match cs with
    | '0' :: _ => ['0']
    | _ => cs.takeWhile Char.isDigit
  if digits.isEmpty then failAt .expectingValue whole
  else
    let rest := cs.drop digits.length
    let fraction := fraction? rest
    let rest := (fraction.map (·.2)).getD rest
    let exponent := exponent? rest
    let rest := (exponent.map (·.2)).getD rest
    if fraction.isNone && exponent.isNone then
      if 4300 < digits.length then .error (.integerTooLong digits.length)
      else
        let n := Pattern.digitsValue digits
        .ok (.int (if negative then -(n : Int) else n), rest)
    else
      let places := (fraction.map (·.1)).getD []
      let exponent := (exponent.map (·.1)).getD 0 - places.length
      .ok (.float (.ofDecimal negative (Pattern.digitsValue (digits ++ places)) exponent), rest)

/-! ## Values -/

/-- A word at the head of the text, and the value it stands for. -/
def keyword? (cs : Text) : Option (Json × Text) :=
  let words : List (String × Json) :=
    [("null", .null), ("true", .bool true), ("false", .bool false), ("NaN", .float .nan),
      ("Infinity", .float (.infinite false)), ("-Infinity", .float (.infinite true))]
  words.findSome? fun (word, value) ↦
    if word.toList.isPrefixOf cs then some (value, cs.drop word.length) else none

/-- How deep brackets may be nested. -/
def maxDepth : Nat := 988

mutual

/-- The value that begins here. `room` is how many more brackets may be open at once. -/
def readValue : Nat → (room : Nat) → Text → Except Failure (Json × Text)
  | 0, _, cs => failAt .expectingValue cs
  | fuel + 1, room, cs =>
    match cs, room with
    | '"' :: rest, _ => (readString rest).map fun (s, rest) ↦ (.str s, rest)
    | '[' :: _, 0 => .error (.tooDeep .array)
    | '{' :: _, 0 => .error (.tooDeep .object)
    | '[' :: rest, room + 1 =>
      match skipSpace rest with
      | ']' :: rest => .ok (.arr [], rest)
      | rest => (readItems fuel room rest).map fun (items, rest) ↦ (.arr items, rest)
    | '{' :: rest, room + 1 =>
      match skipSpace rest with
      | '}' :: rest => .ok (.obj [], rest)
      | rest => (readFields fuel room rest).map fun (fields, rest) ↦ (.ofFields fields, rest)
    | cs, _ =>
      match keyword? cs with
      | some (value, rest) => .ok (value, rest)
      | none =>
        match cs with
        | '-' :: rest => readNumber true cs rest
        | _ => readNumber false cs cs
termination_by structural fuel => fuel

/-- The items of a list from here to its closing bracket. -/
def readItems : Nat → (room : Nat) → Text → Except Failure (List Json × Text)
  | 0, _, cs => failAt .expectingValue cs
  | fuel + 1, room, cs => do
    let (item, rest) ← readValue fuel room cs
    match skipSpace rest with
    | ']' :: rest => return ([item], rest)
    | ',' :: rest =>
      let (items, rest) ← readItems fuel room (skipSpace rest)
      return (item :: items, rest)
    | rest => failAt .expectingComma rest
termination_by structural fuel => fuel

/-- The fields of an object from here to its closing bracket. -/
def readFields : Nat → (room : Nat) → Text → Except Failure (List (CodeString × Json) × Text)
  | 0, _, cs => failAt .expectingName cs
  | fuel + 1, room, cs =>
    match cs with
    | '"' :: rest => do
      let (name, rest) ← readString rest
      match skipSpace rest with
      | ':' :: rest =>
        let (value, rest) ← readValue fuel room (skipSpace rest)
        match skipSpace rest with
        | '}' :: rest => return ([(name, value)], rest)
        | ',' :: rest =>
          let (fields, rest) ← readFields fuel room (skipSpace rest)
          return ((name, value) :: fields, rest)
        | rest => failAt .expectingComma rest
      | rest => failAt .expectingColon rest
    | _ => failAt .expectingName cs
termination_by structural fuel => fuel

end

/-- The value that the whole text holds. -/
def readText (cs : Text) : Except Failure Json :=
  match cs with
  | '\ufeff' :: _ => failAt .byteOrderMark cs
  | _ => do
    let (value, rest) ← readValue (2 * cs.length + 2) maxDepth (skipSpace cs)
    match skipSpace rest with
    | [] => return value
    | rest => failAt .extraData rest

/-! ## Errors with their places -/

/-- A failure and where in the text it was detected. -/
structure ReadError where
  /-- What is wrong. -/
  failure : Failure
  /-- The text that was read. -/
  text : Text

/-- The failure in words, with line, column and offset, the former two counted from one. -/
def ReadError.message (e : ReadError) : String :=
  match e.failure with
  | .malformed cause left =>
    let offset := e.text.length - left
    let before := e.text.take offset
    let line := before.count '\n' + 1
    let column := (before.reverse.takeWhile (· != '\n')).length + 1
    cause.message ++ ": line " ++ toString line ++ " column " ++ toString column ++
      " (char " ++ toString offset ++ ")"
  | .integerTooLong digits =>
    "Exceeds the limit (4300 digits) for integer string conversion: value has " ++
      toString digits ++ " digits; use sys.set_int_max_str_digits() to increase the limit"
  | .tooDeep container =>
    "maximum recursion depth exceeded while decoding a JSON " ++ container.name ++
      " from a unicode string"

/-- Reads a JSON text. -/
def read (s : String) : Except ReadError Json :=
  (readText s.toList).mapError (⟨·, s.toList⟩)

end ShaderDowngrade.Json
