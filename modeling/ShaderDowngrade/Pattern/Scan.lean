import ShaderDowngrade.Pattern.Matching

/-!
# Scanning a text for all matches

A scan cuts a text into pieces: characters that are kept as they are, and matches. Counting,
collecting and replacing all matches are folds over the pieces.

Matches are found from left to right and do not overlap. An empty match may directly follow a
match that is not empty; after an empty match at a place, only a match that consumes something is
taken there, and if there is none the next character is kept.

Main statement: `Pattern.flatten_pieces`, the pieces put side by side are the text again.
-/

namespace ShaderDowngrade

/-- A piece of a scanned text. -/
inductive Piece where
  /-- A character outside all matches. -/
  | kept (c : Char)
  /-- A match. -/
  | found (m : Match)
deriving DecidableEq, Repr

namespace Piece

/-- The characters that the piece covers. -/
def text : Piece → Text
  | .kept c => [c]
  | .found m => m.text

/-- The match of the piece, if it is one. -/
def match? : Piece → Option Match
  | .kept _ => none
  | .found m => some m

end Piece

namespace Expr

/-- The pieces of the text behind its first `skip` characters, where the text begins at
`position` of the whole. A match that consumes `k + 1` characters leaves `k` more to skip. -/
def piecesFrom (e : Expr) : Nat → Nat → Text → List Piece
  | position, 0, [] => (e.matchAt position true []).toList.map .found
  | _, _ + 1, [] => []
  | position, k + 1, _ :: cs => piecesFrom e (position + 1) k cs
  | position, 0, c :: cs =>
    match e.matchAt position true (c :: cs) with
    | none => .kept c :: piecesFrom e (position + 1) 0 cs
    | some m =>
      match m.text with
      | _ :: more => .found m :: piecesFrom e (position + 1) more.length cs
      | [] =>
        match e.matchAt position false (c :: cs) with
        | none => .found m :: .kept c :: piecesFrom e (position + 1) 0 cs
        | some m' => .found m :: .found m' :: piecesFrom e (position + 1) (m'.text.length - 1) cs

end Expr

namespace Pattern

/-- The text cut into kept characters and matches. -/
def pieces (p : Pattern) (text : Text) : List Piece := p.expr.piecesFrom 0 0 text

/-- All matches, from left to right. -/
def allMatches (p : Pattern) (text : Text) : List Match := (p.pieces text).filterMap Piece.match?

/-- The number of matches. -/
def count (p : Pattern) (text : Text) : Nat := (p.allMatches text).length

/-- The text with `replacement m` in the place of every match `m`. -/
def replaceWith (p : Pattern) (replacement : Match → Text) (text : Text) : Text :=
  (p.pieces text).flatMap fun
    | .kept c => [c]
    | .found m => replacement m

end Pattern

/-! ## The pieces are the text -/

theorem Expr.flatMap_text_piecesFrom (e : Expr) (position skip : Nat) (text : Text) :
    (e.piecesFrom position skip text).flatMap Piece.text = text.drop skip := by
  induction text generalizing position skip with
  | nil =>
    cases skip with
    | succ => rfl
    | zero =>
      cases h : e.matchAt position true [] with
      | none => simp [piecesFrom, h]
      | some m => simpa [piecesFrom, h, Piece.text] using (text_of_matchAt h).1
  | cons c cs ih =>
    cases skip with
    | succ => simp [piecesFrom, ih]
    | zero =>
      have stretch {m : Match} {flag : Bool} (h : e.matchAt position flag (c :: cs) = some m)
          (hne : m.text ≠ []) : m.text ++ cs.drop (m.text.length - 1) = c :: cs := by
        have htext := (text_of_matchAt h).1
        obtain ⟨d, ds, hm⟩ := List.exists_cons_of_ne_nil hne
        rw [hm, List.length_cons, List.take_succ_cons, List.cons.injEq] at htext
        have hds : ds ++ cs.drop ds.length = cs := by
          calc ds ++ cs.drop ds.length
              = cs.take ds.length ++ cs.drop ds.length := by rw [← htext.2]
            _ = cs := List.take_append_drop ..
        rw [hm, List.length_cons, Nat.add_sub_cancel, htext.1, List.cons_append, hds]
      simp only [piecesFrom, List.drop_zero]
      split
      · simp [ih, Piece.text]
      · rename_i m hm
        split
        · rename_i d ds hd
          have := stretch hm (by simp [hd])
          simpa [ih, Piece.text, hd] using this
        · rename_i hd
          split
          · simp [ih, Piece.text, hd]
          · rename_i m' hm'
            have := stretch hm' ((text_of_matchAt hm').2 rfl)
            simpa [ih, Piece.text, hd] using this

theorem Pattern.flatten_pieces (p : Pattern) (text : Text) :
    (p.pieces text).flatMap Piece.text = text := by
  simp [pieces, Expr.flatMap_text_piecesFrom]

end ShaderDowngrade
