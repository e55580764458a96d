import ShaderDowngrade.Pattern.Basic

/-!
# Reading patterns

The written form of a pattern: literal characters, `.`, `^`, `$`, bracketed classes, the classes
`\d`, `\w`, `\s` and their complements, groups `(…)`, plain brackets `(?:…)`, lookahead `(?=…)`
and `(?!…)`, alternatives with `|`, and the repetitions `*`, `+`, `?`, `{n}`, `{n,}`, `{,m}` and
`{n,m}`, each lazy with a further `?`. A backslash before a character that is neither a letter
nor a digit stands for that character. Braces that do not form a repetition stand for themselves.

Groups are numbered by their opening brackets. The reader descends through the text, from
alternatives to a sequence, an item, a group and alternatives again; one round of these four
consumes at least a character, so four times the length of the text and some is fuel enough.

## What is left out

Word boundaries `\b` and `\B`, the ends `\A` and `\Z` of the text, references back to a group such
as `\1` and `(?P=name)`, lookbehind `(?<=…)` and `(?<!…)`, groups with names, atomic groups,
conditionals, comments, flags, possessive repetitions and characters by their numbers, such as
`\x41`, are not read: a pattern that has one of them is refused. No pattern of the
chain has any. So what is proved of every list of rules is proved of the lists whose patterns do
without these.
-/

namespace ShaderDowngrade

/-- Why a text is not a pattern. -/
inductive PatternError where
  /-- A group is not closed. -/
  | unclosedGroup
  /-- A closing bracket has no opening one. -/
  | unopenedGroup
  /-- A class is not closed. -/
  | unclosedClass
  /-- A range in a class ends before it begins, or has an end that is no character. -/
  | badRange
  /-- A repetition has nothing before it that could be repeated. -/
  | nothingToRepeat
  /-- A repetition follows a repetition. -/
  | repeatedRepetition
  /-- The least number of rounds is above the greatest. -/
  | crossedBounds
  /-- The text ends in a backslash. -/
  | trailingBackslash
  /-- A backslash stands before a letter or digit that has no meaning there. -/
  | unknownEscape (c : Char)
  /-- A group opens with a question mark and a sign that has no meaning there. -/
  | unknownGroup
deriving DecidableEq, Repr

namespace Pattern

/-- The control characters that a letter stands for after a backslash. -/
def controlEscape? : Char → Option Char
  | 'a' => some '\x07'
  | 'f' => some '\x0c'
  | 'n' => some '\n'
  | 'r' => some '\r'
  | 't' => some '\t'
  | 'v' => some '\x0b'
  | _ => none

/-- The classes that a letter stands for after a backslash. -/
def classEscape? : Char → Option ClassItem
  | 'd' => some .digit
  | 'w' => some .word
  | 's' => some .blank
  | _ => none

/-- The expression that a backslash and `c` stand for outside classes. -/
def escapeExpr (c : Char) : Except PatternError Expr :=
  match controlEscape? c, classEscape? c, classEscape? c.toLower with
  | some d, _, _ => .ok (.char d)
  | none, some item, _ => .ok (.one (.oneOf [item]))
  | none, none, some item => .ok (.one (.noneOf [item]))
  | none, none, none => if c.isAlphanum then .error (.unknownEscape c) else .ok (.char c)

/-! ## Classes -/

/-- A character or a named class at the head of a class body. -/
def readMember : Text → Except PatternError (ClassItem × Text)
  | [] => .error .unclosedClass
  | ['\\'] => .error .trailingBackslash
  | '\\' :: c :: cs =>
    match controlEscape? c, classEscape? c with
    | some d, _ => .ok (.single d, cs)
    | none, some item => .ok (item, cs)
    | none, none =>
      if c = 'b' then .ok (.single '\x08', cs)
      else if c.isAlphanum then .error (.unknownEscape c)
      else .ok (.single c, cs)
  | c :: cs => .ok (.single c, cs)

/-- The range from one member to another; only characters can be ends, in ascending order. -/
def rangeOf : ClassItem → ClassItem → Except PatternError ClassItem
  | .range a a', .range b b' =>
    if a = a' ∧ b = b' ∧ a.toNat ≤ b.toNat then .ok (.range a b) else .error .badRange
  | _, _ => .error .badRange

/-- The members up to the closing bracket. A closing bracket in the first place is a member, and
so is a hyphen before the closing bracket. -/
def readMembers : Nat → (first : Bool) → Text → Except PatternError (List ClassItem × Text)
  | 0, _, _ => .error .unclosedClass
  | fuel + 1, first, cs =>
    match first, cs with
    | false, ']' :: rest => .ok ([], rest)
    | _, _ => do
      let (item, rest) ← readMember cs
      match rest with
      | '-' :: ']' :: rest => return ([item, .single '-'], rest)
      | '-' :: rest =>
        let (last, rest) ← readMember rest
        let range ← rangeOf item last
        let (items, rest) ← readMembers fuel false rest
        return (range :: items, rest)
      | _ =>
        let (items, rest) ← readMembers fuel false rest
        return (item :: items, rest)

/-- A class behind its opening bracket. -/
def readClass : Text → Except PatternError (CharTest × Text)
  | '^' :: cs => (readMembers (cs.length + 1) true cs).map fun (items, rest) ↦ (.noneOf items, rest)
  | cs => (readMembers (cs.length + 1) true cs).map fun (items, rest) ↦ (.oneOf items, rest)

/-! ## Repetitions -/

/-- The number that the digits write. -/
def digitsValue (digits : Text) : Nat :=
  digits.foldl (fun n c ↦ 10 * n + (c.toNat - '0'.toNat)) 0

/-- The bounds in braces, behind the opening one, if they have the form of a repetition. -/
def bounds? (cs : Text) : Option ((Nat × Option Nat) × Text) :=
  let low := cs.takeWhile Char.isDigit
  let least := digitsValue low
  match cs.dropWhile Char.isDigit with
  | '}' :: rest => if low.isEmpty then none else some ((least, some least), rest)
  | ',' :: rest =>
    let high := rest.takeWhile Char.isDigit
    match rest.dropWhile Char.isDigit with
    | '}' :: rest => some ((least, if high.isEmpty then none else some (digitsValue high)), rest)
    | _ => none
  | _ => none

/-- The bounds of a repetition at the head of the text, if there is one. -/
def repetition? : Text → Option ((Nat × Option Nat) × Text)
  | '*' :: rest => some ((0, none), rest)
  | '+' :: rest => some ((1, none), rest)
  | '?' :: rest => some ((0, some 1), rest)
  | '{' :: rest => bounds? rest
  | _ => none

/-- Anchors cannot be repeated. -/
def isAnchor : Expr → Bool
  | .start | .finish => true
  | _ => false

/-- The item, under the repetition that follows it, if one does. -/
def readRepetition (item : Expr) (cs : Text) : Except PatternError (Expr × Text) :=
  match repetition? cs with
  | none => .ok (item, cs)
  | some ((least, most), rest) =>
    if most.any (· < least) then .error .crossedBounds
    else if isAnchor item then .error .nothingToRepeat
    else
      let (greedy, rest) :=
        match rest with
        | '?' :: rest => (false, rest)
        | _ => (true, rest)
      if (repetition? rest).isSome then .error .repeatedRepetition
      else .ok (.rep least most greedy item, rest)

/-! ## The descent -/

/-- What is left of a text behind an expression, and the number of the next group. -/
structure Progress where
  /-- The expression that has been read. -/
  expr : Expr
  /-- The number of the next group. -/
  next : Nat
  /-- The text behind the expression. -/
  rest : Text

mutual

/-- Alternatives, up to a closing bracket or the end. -/
def readAlternatives : Nat → Nat → Text → Except PatternError Progress
  | 0, _, _ => .error .unclosedGroup
  | fuel + 1, next, cs => do
    let left ← readSequence fuel next cs
    match left.rest with
    | '|' :: rest =>
      let right ← readAlternatives fuel left.next rest
      return { right with expr := .alt left.expr right.expr }
    | _ => return left
termination_by structural fuel => fuel

/-- A sequence of items, up to a bar, a closing bracket or the end. -/
def readSequence : Nat → Nat → Text → Except PatternError Progress
  | 0, _, _ => .error .unclosedGroup
  | fuel + 1, next, cs =>
    match cs with
    | [] | '|' :: _ | ')' :: _ => .ok ⟨.empty, next, cs⟩
    | c :: cs => do
      let item ← readItem fuel next c cs
      let (repeated, rest) ← readRepetition item.expr item.rest
      let more ← readSequence fuel item.next rest
      return { more with expr := .seq repeated more.expr }
termination_by structural fuel => fuel

/-- The item that begins with `c`. -/
def readItem : Nat → Nat → Char → Text → Except PatternError Progress
  | 0, _, _, _ => .error .unclosedGroup
  | fuel + 1, next, c, cs =>
    match c with
    | '.' => .ok ⟨.one .notNewline, next, cs⟩
    | '^' => .ok ⟨.start, next, cs⟩
    | '$' => .ok ⟨.finish, next, cs⟩
    | '[' => do
      let (test, rest) ← readClass cs
      return ⟨.one test, next, rest⟩
    | '\\' =>
      match cs with
      | [] => .error .trailingBackslash
      | d :: rest => do return ⟨← escapeExpr d, next, rest⟩
    | '*' | '+' | '?' => .error .nothingToRepeat
    | '{' => if (bounds? cs).isSome then .error .nothingToRepeat else .ok ⟨.char '{', next, cs⟩
    | '(' =>
      match cs with
      | '?' :: ':' :: rest => readGroup fuel next rest id
      | '?' :: '=' :: rest => readGroup fuel next rest (.ahead true)
      | '?' :: '!' :: rest => readGroup fuel next rest (.ahead false)
      | '?' :: _ => .error .unknownGroup
      | _ => readGroup fuel (next + 1) cs (.group next)
    | c => .ok ⟨.char c, next, cs⟩
termination_by structural fuel => fuel

/-- The inside of a group and its closing bracket; `wrap` makes the item of it. -/
def readGroup : Nat → Nat → Text → (Expr → Expr) → Except PatternError Progress
  | 0, _, _, _ => .error .unclosedGroup
  | fuel + 1, next, cs, wrap => do
    let inside ← readAlternatives fuel next cs
    match inside.rest with
    | ')' :: rest => return ⟨wrap inside.expr, inside.next, rest⟩
    | _ => .error .unclosedGroup
termination_by structural fuel => fuel

end

/-- Reads a written pattern. -/
def read (spelling : String) : Except PatternError Pattern := do
  let cs := spelling.toList
  let whole ← readAlternatives (4 * cs.length + 4) 1 cs
  match whole.rest with
  | [] => return ⟨spelling, whole.expr⟩
  | _ => .error .unopenedGroup

end Pattern

end ShaderDowngrade
