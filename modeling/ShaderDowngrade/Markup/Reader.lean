import ShaderDowngrade.Markup.EmojiName
import ShaderDowngrade.Markup.Style
import ShaderDowngrade.Text.Width

/-!
# Markup

Texts for the terminal are marked up. A tag in square brackets begins a style, a tag with a slash
ends the latest one of its name or, without a name, the latest of all. Styles do not show in plain
output, but tags are taken away all the same, and a closing tag that closes nothing is a fault. A
bracket is a tag only if a lower-case letter, a number sign, a slash or an at sign follows it, and
no backslash escapes it. The name of an emoji between colons stands for the emoji. Characters that
move the cursor are dropped.

Main statement: `Markup.read_of_notMem`, a text without opening brackets has no tags.
-/

namespace ShaderDowngrade.Markup

/-- Why a text is not marked up properly. Positions count characters. -/
inductive Fault where
  /-- A closing tag names a style that is not open. -/
  | unmatched (tag : Text) (position : Nat)
  /-- A closing tag without a name stands where no style is open. -/
  | nothingOpen (position : Nat)
deriving DecidableEq, Repr

def Fault.message : Fault → String
  | .unmatched tag position =>
    "closing tag '[" ++ String.ofList tag ++ "]' at position " ++ toString position ++
      " doesn't match any open tag"
  | .nothingOpen position =>
    "closing tag '[/]' at position " ++ toString position ++ " has nothing to close"

/-! ## Emoji -/

/-- The emoji of the name that stands between two colons. The name may ask for the emoji's coloured
or its plain form. -/
def emoji? (name : Text) : Option Text :=
  let look (name form : Text) : Option Text :=
    (EmojiName.lookup? (lower (String.ofList name))).map (·.toList ++ form)
  if "-emoji".toList.isSuffixOf name then look (name.take (name.length - 6)) ['\ufe0f']
  else if "-text".toList.isSuffixOf name then look (name.take (name.length - 5)) ['\ufe0e']
  else look name []

/-- The text with emoji for their names, behind a colon if `name` is given: then it holds what has
been read since that colon, latest character first. -/
def emojiAfter (name : Option Text) : Text → Text
  | [] => name.elim [] (':' :: ·.reverse)
  | c :: cs =>
    match name with
    | none => if c = ':' then emojiAfter (some []) cs else c :: emojiAfter none cs
    | some name =>
      if c = ':' then
        (emoji? name.reverse).getD (':' :: name.reverse ++ [':']) ++ emojiAfter none cs
      else if Blank.isBlank c then ':' :: name.reverse ++ c :: emojiAfter none cs
      else emojiAfter (some (c :: name)) cs

/-- The text without backslashes before opening brackets. -/
def unescape : Text → Text
  | '\\' :: '[' :: cs => '[' :: unescape cs
  | c :: cs => c :: unescape cs
  | [] => []

/-- A piece of text between tags, as it is shown. -/
def shown (t : Text) : Text := Width.withoutMotion (emojiAfter none (unescape t))

/-! ## Tags -/

/-- A piece of a marked up text. -/
inductive Piece where
  | text (t : Text)
  /-- What stands between the brackets of a tag, and where its bracket stands. -/
  | tag (position : Nat) (content : Text)
deriving DecidableEq, Repr

/-- Whether a tag may begin with the character. -/
def beginsTag (c : Char) : Bool := ('a' ≤ c && c ≤ 'z') || c == '#' || c == '/' || c == '@'

/-- What stands in the tag whose opening bracket is right before the text. -/
def tag? : Text → Option Text
  | [] => none
  | c :: cs =>
    let content := c :: cs.takeWhile fun d ↦ d != ']' && d != '['
    if beginsTag c && (cs.drop (content.length - 1)).head? = some ']' then some content else none

/-- The tag behind backslashes and a bracket. -/
def escapedTag? (cs : Text) : Option Text :=
  match cs.dropWhile (· == '\\') with
  | '[' :: rest => tag? rest
  | _ => none

/-- The pieces of a tag with backslashes before it. Two of them stand for one, and an odd one makes
the tag text. -/
def tagPieces (position backslashes : Nat) (content : Text) : List Piece :=
  (if backslashes < 2 then [] else [.text (List.replicate (backslashes / 2) '\\')]) ++
    if backslashes % 2 = 1 then [.text ('[' :: content ++ [']'])]
    else [.tag (position + backslashes) content]

/-- A piece of text, if there is any. -/
def textPiece (t : Text) : List Piece := if t.isEmpty then [] else [.text t]

/-- The pieces of a text. `skip` is how many characters belong to a tag that has been read, and
`plain` is the text in front, latest character first. -/
def piecesAfter (position skip : Nat) (plain : Text) : Text → List Piece
  | [] => textPiece plain.reverse
  | c :: cs =>
    match skip with
    | skip + 1 => piecesAfter (position + 1) skip plain cs
    | 0 =>
      match escapedTag? (c :: cs) with
      | some content =>
        let backslashes := ((c :: cs).takeWhile (· == '\\')).length
        textPiece plain.reverse ++ tagPieces position backslashes content ++
          piecesAfter (position + 1) (backslashes + content.length + 1) [] cs
      | none => piecesAfter (position + 1) 0 (c :: plain) cs

/-- The pieces of a text. -/
def pieces (t : Text) : List Piece := piecesAfter 0 0 [] t

/-! ## Reading -/

/-- The normal form of the name in a tag. What stands behind an equals sign does not belong to
it. -/
def styleName (content : Text) : String :=
  Style.normalForm (String.ofList (content.takeWhile (· != '=')))

/-- What pieces show inside open styles, the latest of which is first. -/
def readPieces (open_ : List String) : List Piece → Except Fault Text
  | [] => .ok []
  | .text t :: ps => (readPieces open_ ps).map (shown t ++ ·)
  | .tag position content :: ps =>
    match content with
    | '/' :: closing =>
      if (Blank.stripped (closing.takeWhile (· != '='))).isEmpty then
        match open_ with
        | [] => .error (.nothingOpen position)
        | _ :: outer => readPieces outer ps
      else
        let name := Style.normalForm
          (String.ofList (Blank.stripped (closing.takeWhile (· != '='))))
        if name ∈ open_ then readPieces (open_.erase name) ps
        else .error (.unmatched content position)
    | _ => readPieces (styleName content :: open_) ps

/-- What a marked up text shows. -/
def read (t : Text) : Except Fault Text := readPieces [] (pieces t)

/-! ## Texts without tags -/

theorem escapedTag?_of_notMem {t : Text} (h : '[' ∉ t) : escapedTag? t = none := by
  unfold escapedTag?
  split
  · next rest hrest =>
    exact absurd ((List.dropWhile_sublist _).subset (hrest ▸ List.mem_cons_self)) h
  · rfl

theorem piecesAfter_of_notMem {t : Text} (h : '[' ∉ t) (position : Nat) (plain : Text) :
    piecesAfter position 0 plain t = textPiece (plain.reverse ++ t) := by
  induction t generalizing position plain with
  | nil => simp [piecesAfter]
  | cons c cs ih =>
    rw [piecesAfter, escapedTag?_of_notMem h, ih (mt (List.mem_cons_of_mem c) h)]
    simp

theorem readPieces_textPiece (open_ : List String) (t : Text) (ps : List Piece) :
    readPieces open_ (textPiece t ++ ps) = (readPieces open_ ps).map (shown t ++ ·) := by
  cases t with
  | nil =>
    change readPieces open_ ps = (readPieces open_ ps).map id
    cases readPieces open_ ps <;> rfl
  | cons c cs => rfl

theorem read_of_notMem {t : Text} (h : '[' ∉ t) : read t = .ok (shown t) := by
  have hpieces : pieces t = textPiece t ++ [] := by
    rw [pieces, piecesAfter_of_notMem h, List.append_nil]
    rfl
  rw [read, hpieces, readPieces_textPiece]
  simp [readPieces, Except.map]

end ShaderDowngrade.Markup
