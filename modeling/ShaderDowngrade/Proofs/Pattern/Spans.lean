import ShaderDowngrade.Proofs.Pattern.Cut
import ShaderDowngrade.Proofs.Pattern.Scanning

/-!
# Matches in their places

A span is a match together with the number of characters before it. The spans of a text follow from
its pieces, so whatever cuts the pieces in two cuts the spans, and a stretch of the text overlaps a
match or it does not.

Main statements: `Pattern.CutsAt.spans_append`, the spans on both sides of a cut;
`Pattern.bounds_of_mem_spans`, where spans lie; `Pattern.match_induction`, induction on the matches,
each with the stretch that is kept in front of it.

## Why there is a second induction

A scan goes on by characters and matches, but what is said about a text is mostly about its matches.
The induction on matches gathers what is kept between two of them in one stretch, so that a proof
about matches has no case for a single character.
-/

namespace ShaderDowngrade

/-- A match in its place. -/
structure Span where
  /-- The number of characters before the match. -/
  start : Nat
  /-- The match. -/
  found : Match
deriving DecidableEq, Repr

/-- The number of characters up to the end of the match. -/
def Span.stop (s : Span) : Nat := s.start + s.found.text.length

/-- The matches among pieces that begin at the given place. -/
def Piece.spans : Nat → List Piece → List Span
  | _, [] => []
  | n, .kept _ :: ps => spans (n + 1) ps
  | n, .found m :: ps => ⟨n, m⟩ :: spans (n + m.text.length) ps

namespace Piece

theorem spans_append (n : Nat) (ps qs : List Piece) :
    spans n (ps ++ qs) = spans n ps ++ spans (n + (ps.flatMap text).length) qs := by
  induction ps generalizing n with
  | nil => rfl
  | cons p ps ih =>
    cases p with
    | kept c =>
      rw [List.cons_append, spans, ih, spans, List.flatMap_cons, List.length_append, Nat.add_assoc]
      rfl
    | found m =>
      rw [List.cons_append, spans, ih, spans, List.flatMap_cons, List.length_append, Nat.add_assoc]
      rfl

theorem spans_map_kept (n : Nat) (t : Text) : spans n (t.map .kept) = [] := by
  induction t generalizing n with
  | nil => rfl
  | cons c t ih => exact ih (n + 1)

theorem map_found_spans (n : Nat) (ps : List Piece) :
    (spans n ps).map Span.found = ps.filterMap match? := by
  induction ps generalizing n with
  | nil => rfl
  | cons p ps ih =>
    cases p with
    | kept c => exact ih (n + 1)
    | found m => exact congrArg _ (ih (n + m.text.length))

theorem bounds_of_mem_spans {n : Nat} {ps : List Piece} {s : Span} (h : s ∈ spans n ps) :
    n ≤ s.start ∧ s.stop ≤ n + (ps.flatMap text).length := by
  induction ps generalizing n with
  | nil => cases h
  | cons p ps ih =>
    rw [List.flatMap_cons, List.length_append]
    cases p with
    | kept c =>
      have hbounds := ih h
      have hlength : (kept c).text.length = 1 := rfl
      omega
    | found m =>
      rcases List.mem_cons.1 h with rfl | h
      · exact ⟨Nat.le_refl n, by simp only [Span.stop, text]; omega⟩
      · have hbounds := ih h
        have hlength : (found m).text.length = m.text.length := rfl
        omega

end Piece

namespace Pattern

variable {p : Pattern} {c : Char} {n : Nat} {a b t : Text} {m : Match} {s : Span}

/-- The matches in a text that begins at the given place. -/
def spans (p : Pattern) (n : Nat) (t : Text) : List Span := Piece.spans n (p.pieces t)

theorem map_found_spans (p : Pattern) (n : Nat) (t : Text) :
    (p.spans n t).map Span.found = p.allMatches t :=
  Piece.map_found_spans n _

theorem length_spans (p : Pattern) (n : Nat) (t : Text) : (p.spans n t).length = p.count t := by
  rw [count, ← map_found_spans p n, List.length_map]

theorem bounds_of_mem_spans (h : s ∈ p.spans n t) : n ≤ s.start ∧ s.stop ≤ n + t.length := by
  have hbounds := Piece.bounds_of_mem_spans h
  rwa [flatten_pieces] at hbounds

/-! ## Spans of a text in parts -/

theorem spans_cons_of_eq_none (hp : p.expr.Plain = true)
    (h : p.expr.matchAt 0 true (c :: t) = none) (n : Nat) :
    p.spans n (c :: t) = p.spans (n + 1) t := by
  rw [spans, pieces_cons_of_eq_none hp h, Piece.spans, spans]

theorem spans_append_of_eq_some (hp : p.expr.Plain = true) (hm : m.text ≠ [])
    (h : p.expr.matchAt 0 true (m.text ++ t) = some m) (n : Nat) :
    p.spans n (m.text ++ t) = ⟨n, m⟩ :: p.spans (n + m.text.length) t := by
  rw [spans, pieces_append_of_eq_some hp hm h, Piece.spans, spans]

theorem spans_append_of_pieces_eq (h : p.pieces (a ++ b) = p.pieces a ++ p.pieces b) (n : Nat) :
    p.spans n (a ++ b) = p.spans n a ++ p.spans (n + a.length) b := by
  rw [spans, h, Piece.spans_append, flatten_pieces, spans, spans]

theorem CutsAt.spans_append (h : p.CutsAt c) (hne : [] ∉ p.words)
    (ha : a = [] ∨ a.getLast? = some c) (n : Nat) (b : Text) :
    p.spans n (a ++ b) = p.spans n a ++ p.spans (n + a.length) b := by
  refine spans_append_of_pieces_eq ?_ n
  rcases ha with rfl | ha
  · rw [List.nil_append, pieces_nil hne, List.nil_append]
  · exact h ha b

theorem Keeps.spans_append {d : Text} (h : p.Keeps d) (n : Nat) (t : Text) :
    p.spans n (d ++ t) = p.spans (n + d.length) t := by
  rw [spans, h, Piece.spans_append, Piece.spans_map_kept, List.nil_append, List.flatMap_map]
  exact congrArg (fun d ↦ Piece.spans (n + List.length d) _) (List.flatMap_singleton' d)

theorem Keeps.allMatches_append {d : Text} (h : p.Keeps d) (t : Text) :
    p.allMatches (d ++ t) = p.allMatches t := by
  rw [← map_found_spans p 0, h.spans_append, map_found_spans]

theorem spells_of_mem_spans (hp : p.expr.Plain = true) (hne : [] ∉ p.words)
    (h : s ∈ p.spans n t) : p.expr.Spells s.found.text s.found.groups := by
  induction t using scan_induction hne generalizing n with
  | nil =>
    rw [spans, pieces_nil hne] at h
    cases h
  | kept c t hnone ih =>
    rw [spans_cons_of_eq_none hp hnone] at h
    exact ih h
  | found m t hm hnonempty hsome ih =>
    rw [spans_append_of_eq_some hp hnonempty hsome] at h
    rcases List.mem_cons.1 h with rfl | h
    · exact hm
    · exact ih h

/-! ## Match by match -/

/-- The text is a stretch that a scan keeps, a match, and another text. -/
def Leads (p : Pattern) (a : Text) (m : Match) (t : Text) : Prop :=
  p.pieces (a ++ m.text ++ t) = a.map .kept ++ .found m :: p.pieces t

theorem Leads.spans_eq (h : p.Leads a m t) (n : Nat) : p.spans n (a ++ m.text ++ t) =
    ⟨n + a.length, m⟩ :: p.spans (n + a.length + m.text.length) t := by
  rw [spans, h, Piece.spans_append, Piece.spans_map_kept, List.nil_append, Piece.spans,
    List.flatMap_map]
  rw [show (a.flatMap fun c ↦ (Piece.kept c).text) = a from List.flatMap_singleton' a]
  rfl

theorem Leads.replaceWith_eq (h : p.Leads a m t) (replacement : Match → Text) :
    p.replaceWith replacement (a ++ m.text ++ t) =
      a ++ replacement m ++ p.replaceWith replacement t := by
  rw [replaceWith, h, List.flatMap_append, List.flatMap_map, List.flatMap_cons, ← List.append_assoc]
  exact congrArg (· ++ replacement m ++ _) (List.flatMap_singleton' a)

/-- **Induction on the matches**, each with the stretch that is kept in front of it. -/
theorem match_induction {motive : Text → Prop} (hp : p.expr.Plain = true) (hne : [] ∉ p.words)
    (none : ∀ t, p.pieces t = t.map .kept → motive t)
    (found : ∀ a m t, p.expr.Spells m.text m.groups → p.Leads a m t → motive t →
      motive (a ++ m.text ++ t)) (t : Text) : motive t := by
  -- `a` is what has been kept since the last match
  have key (t : Text) : ∀ a, p.pieces (a ++ t) = a.map .kept ++ p.pieces t → motive (a ++ t) := by
    induction t using scan_induction hne with
    | nil =>
      intro a ha
      refine none _ ?_
      rw [ha, pieces_nil hne, List.append_nil, List.append_nil]
    | kept c t hnone ih =>
      intro a ha
      have hstep := ih (a ++ [c])
      rw [List.append_assoc, List.singleton_append, List.map_append] at hstep
      refine hstep ?_
      rw [ha, pieces_cons_of_eq_none hp hnone, List.append_assoc]
      rfl
    | found m t hspells hm hsome ih =>
      intro a ha
      rw [← List.append_assoc]
      refine found a m t hspells ?_ (ih [] rfl)
      rw [Leads, List.append_assoc, ha, pieces_append_of_eq_some hp hm hsome]
  exact key t [] rfl

end Pattern

end ShaderDowngrade
