import Mathlib.Data.List.Basic
import ShaderDowngrade.Markup.Reader

/-!
# Marked up messages

Messages quote names and paths between tags. A name without an opening bracket has no tag of its
own, but it may end in backslashes, and those stand before the closing tag: an odd number of them
makes it text. Either way nothing is closed that is not open, so the message can be shown.

Main statement: `Markup.exists_read_styled`, a message with one styled part can be shown.

## How the quoted text is cut

Up to the last character that is no backslash, nothing in the quoted text can begin a tag. What is
left of it are backslashes in front of the closing tag, and whether their number is odd decides what
becomes of the tag. So the induction on the quoted text has the stretch of backslashes as a case of
its own.
-/

namespace ShaderDowngrade.Markup

variable {content rest u : Text} {open_ : List String} {ps : List Piece}

/-! ## The pieces of a tag -/

theorem piecesAfter_skip (position skip : ℕ) (plain t : Text) (h : skip ≤ t.length) :
    piecesAfter position skip plain t = piecesAfter (position + skip) 0 plain (t.drop skip) := by
  induction skip generalizing position t with
  | zero => rfl
  | succ skip ih =>
    obtain ⟨c, cs, rfl⟩ := List.exists_cons_of_length_pos (Nat.lt_of_lt_of_le (Nat.succ_pos _) h)
    rw [piecesAfter, ih _ _ (Nat.le_of_succ_le_succ h), List.drop_succ_cons, Nat.add_right_comm]
    rfl

theorem dropWhile_backslashes (k : ℕ) (t : Text) :
    (List.replicate k '\\' ++ '[' :: t).dropWhile (· == '\\') = '[' :: t := by
  induction k with
  | zero => rfl
  | succ k ih => exact ih

theorem takeWhile_backslashes (k : ℕ) (t : Text) :
    (List.replicate k '\\' ++ '[' :: t).takeWhile (· == '\\') = List.replicate k '\\' := by
  induction k with
  | zero => rfl
  | succ k ih => exact congrArg ('\\' :: ·) ih

/-- A tag behind backslashes. -/
theorem piecesAfter_tag (h : tag? (content ++ ']' :: rest) = some content) (k position : ℕ)
    (plain : Text) :
    piecesAfter position 0 plain (List.replicate k '\\' ++ '[' :: (content ++ ']' :: rest)) =
      textPiece plain.reverse ++ tagPieces position k content ++
        piecesAfter (position + 1 + (k + content.length + 1)) 0 [] rest := by
  have htake := takeWhile_backslashes k (content ++ ']' :: rest)
  have hescaped : escapedTag? (List.replicate k '\\' ++ '[' :: (content ++ ']' :: rest)) =
      some content := by
    rw [escapedTag?, dropWhile_backslashes]
    exact h
  have hdrop : (List.replicate k '\\' ++ '[' :: (content ++ ']' :: rest)).drop
      (k + content.length + 1 + 1) = rest := by
    have hfront : List.replicate k '\\' ++ '[' :: (content ++ ']' :: rest) =
        (List.replicate k '\\' ++ '[' :: (content ++ [']'])) ++ rest := by simp
    rw [hfront]
    exact List.drop_left' (by simp; omega)
  have hlength : k + content.length + 1 + 1 ≤
      (List.replicate k '\\' ++ '[' :: (content ++ ']' :: rest)).length := by
    simp
    omega
  -- the text begins with some character, whether or not there are backslashes
  obtain ⟨c, cs, hcs⟩ : ∃ c cs, List.replicate k '\\' ++ '[' :: (content ++ ']' :: rest) =
      c :: cs := List.exists_cons_of_ne_nil (by simp)
  rw [hcs] at htake hescaped hdrop hlength ⊢
  rw [piecesAfter, hescaped]
  dsimp only
  rw [htake, List.length_replicate, piecesAfter_skip _ _ _ _ (Nat.le_of_succ_le_succ hlength)]
  rw [List.drop_succ_cons] at hdrop
  rw [hdrop]

theorem escapedTag?_append (hu : '[' ∉ u) (hne : ∃ c ∈ u, c ≠ '\\') (t : Text) :
    escapedTag? (u ++ t) = none := by
  induction u with
  | nil =>
    obtain ⟨_, hmem, -⟩ := hne
    exact absurd hmem List.not_mem_nil
  | cons c u ih =>
    obtain ⟨hc, hrest⟩ := not_or.1 (mt List.mem_cons.2 hu)
    by_cases hback : c = '\\'
    · subst hback
      have hlater : ∃ d ∈ u, d ≠ '\\' := by simpa using hne
      exact ih hrest hlater
    · have hstop : (c :: (u ++ t)).dropWhile (· == '\\') = c :: (u ++ t) := by
        rw [List.dropWhile_cons_of_neg (by simpa using hback)]
      rw [List.cons_append, escapedTag?, hstop]
      split
      · rename_i heq
        exact absurd (List.cons.inj heq).1.symm hc
      · rfl

/-! ## Reading -/

theorem exists_readPieces_text (t : Text) (h : ∃ out, readPieces open_ ps = .ok out) :
    ∃ out, readPieces open_ (.text t :: ps) = .ok out := by
  obtain ⟨out, hout⟩ := h
  rw [readPieces, hout]
  exact ⟨_, rfl⟩

theorem exists_readPieces_textPiece (t : Text) (h : ∃ out, readPieces open_ ps = .ok out) :
    ∃ out, readPieces open_ (textPiece t ++ ps) = .ok out := by
  rw [textPiece]
  split
  · exact h
  · exact exists_readPieces_text t h

/-- What is in the brackets closes the style, if it is the only one that is open. -/
def Closes (content : Text) (style : String) : Prop :=
  (∀ rest, tag? (content ++ ']' :: rest) = some content) ∧
    ∀ position ps, readPieces [style] (.tag position content :: ps) = readPieces [] ps

variable {style : String}

/-- A closing tag closes the style that is open, or backslashes make it text. -/
theorem exists_readPieces_tag (h : Closes content style) (hrest : '[' ∉ rest) (k position : ℕ)
    (plain : Text) :
    ∃ out, readPieces [style] (piecesAfter position 0 plain
      (List.replicate k '\\' ++ '[' :: (content ++ ']' :: rest))) = .ok out := by
  obtain ⟨htag, hclose⟩ := h
  have hend (open_ : List String) (position : ℕ) :
      ∃ out, readPieces open_ (piecesAfter position 0 [] rest) = .ok out := by
    rw [piecesAfter_of_notMem hrest, ← List.append_nil (textPiece _)]
    exact exists_readPieces_textPiece _ ⟨[], rfl⟩
  have hlast (position : ℕ) : ∃ out, readPieces [style]
      ((if k % 2 = 1 then [.text ('[' :: content ++ [']'])]
        else [.tag (position + k) content]) ++
          piecesAfter (position + 1 + (k + content.length + 1)) 0 [] rest) = .ok out := by
    split
    · exact exists_readPieces_text _ (hend _ _)
    · rw [List.singleton_append, hclose]
      exact hend _ _
  rw [piecesAfter_tag (htag rest), List.append_assoc, tagPieces, List.append_assoc]
  refine exists_readPieces_textPiece _ ?_
  split
  · exact hlast position
  · exact exists_readPieces_text _ (hlast position)

/-- Whatever stands before a closing tag, nothing is closed that is not open. -/
theorem exists_readPieces_closing (h : Closes content style) (hu : '[' ∉ u) (hrest : '[' ∉ rest)
    (position : ℕ) (plain : Text) :
    ∃ out, readPieces [style] (piecesAfter position 0 plain
      (u ++ '[' :: (content ++ ']' :: rest))) = .ok out := by
  induction u generalizing position plain with
  | nil => exact exists_readPieces_tag h hrest 0 position plain
  | cons c u ih =>
    obtain ⟨-, hlater⟩ := not_or.1 (mt List.mem_cons.2 hu)
    by_cases hother : ∃ d ∈ c :: u, d ≠ '\\'
    · rw [List.cons_append, piecesAfter, ← List.cons_append, escapedTag?_append hu hother]
      exact ih hlater _ _
    · have hall : ∀ d ∈ c :: u, d = '\\' := by simpa using hother
      rw [List.eq_replicate_of_mem hall]
      exact exists_readPieces_tag h hrest _ position plain

/-! ## Messages -/

/-- The styles that parts of messages have. -/
def messageStyles : List String := ["bold", "dim"]

theorem mem_messageStyles {style : String} :
    style ∈ messageStyles ↔ style = "bold" ∨ style = "dim" := by
  simp [messageStyles]

theorem closes_messageStyle {style : String} (h : style ∈ messageStyles) :
    Closes ('/' :: style.toList) (styleName style.toList) := by
  have hname : ∀ style ∈ messageStyles,
      (Blank.stripped (style.toList.takeWhile (· != '='))).isEmpty = false ∧
        Style.normalForm (String.ofList (Blank.stripped (style.toList.takeWhile (· != '=')))) =
          styleName style.toList := by decide +kernel
  obtain ⟨hnonempty, heq⟩ := hname style h
  constructor
  · rcases mem_messageStyles.1 h with rfl | rfl
    · exact fun rest ↦ rfl
    · exact fun rest ↦ rfl
  · intro position ps
    rw [readPieces, hnonempty, if_neg Bool.false_ne_true, heq, if_pos List.mem_cons_self,
      List.erase_cons_head]

/-- **A message with one styled part can be shown**, if what it quotes has no opening brackets. -/
theorem exists_read_styled {style : String} (hstyle : style ∈ messageStyles) (hu : '[' ∉ u)
    (hrest : '[' ∉ rest) :
    ∃ out, read ('[' :: (style.toList ++ ']' :: (u ++
      '[' :: (('/' :: style.toList) ++ ']' :: rest)))) = .ok out := by
  have hcloses := closes_messageStyle hstyle
  have hopens (t : Text) : tag? (style.toList ++ ']' :: t) = some style.toList := by
    rcases mem_messageStyles.1 hstyle with rfl | rfl
    · rfl
    · rfl
  have hstart (position : ℕ) (ps : List Piece) :
      readPieces [] (.tag position style.toList :: ps) =
        readPieces [styleName style.toList] ps := by
    rcases mem_messageStyles.1 hstyle with rfl | rfl
    · rfl
    · rfl
  have hpieces := piecesAfter_tag
    (hopens (u ++ '[' :: (('/' :: style.toList) ++ ']' :: rest))) 0 0 []
  rw [List.replicate_zero, List.nil_append] at hpieces
  rw [read, pieces, hpieces]
  change ∃ out, readPieces [] (.tag 0 style.toList :: piecesAfter _ 0 [] _) = .ok out
  rw [hstart]
  exact exists_readPieces_closing hcloses hu hrest _ _

end ShaderDowngrade.Markup
