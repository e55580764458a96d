import ShaderDowngrade.Pattern.Basic

/-!
# Matching by backtracking

`Expr.run` follows an expression from a cursor and hands every way to get through it, best first,
to a continuation; the first one that the continuation accepts is the answer. Alternatives are
tried from left to right, a greedy repetition tries one more round before it goes on, and a lazy
one goes on first.

## Repetition

After the obligatory rounds there is no limit on the number of rounds other than the given one,
yet the search ends: a further round that consumes nothing is the last. So the rounds that still
may follow are bounded by the length of the rest plus one, and `repeatMore` recurs on that bound.
-/

namespace ShaderDowngrade

/-- A place in a text under matching. -/
structure Cursor where
  /-- The number of characters before this place. -/
  position : Nat
  /-- The characters from this place on. -/
  rest : Text
  /-- What the groups have matched so far, the latest first. -/
  groups : List (Nat × Text)
deriving DecidableEq, Repr

/-- What an expression has matched. -/
structure Match where
  /-- The matched characters. -/
  text : Text
  /-- What the groups have matched, the latest first. -/
  groups : List (Nat × Text)
deriving DecidableEq, Repr

/-- The text of a group; a group that took no part counts as empty, and group 0 is the match. -/
def Match.group (m : Match) (index : Nat) : Text :=
  if index = 0 then m.text else (m.groups.lookup index).getD []

namespace Expr

/-- Steps from a cursor to the cursors behind a round, each offered to a continuation. -/
abbrev Step := Cursor → (Cursor → Option Cursor) → Option Cursor

/-- Exactly the given number of rounds. -/
def repeatExactly (round : Step) (next : Cursor → Option Cursor) : Nat → Cursor → Option Cursor
  | 0, s => next s
  | n + 1, s => round s (repeatExactly round next n)

/-- At most the given number of rounds; one that consumes nothing is the last. -/
def repeatMore (round : Step) (greedy : Bool) (next : Cursor → Option Cursor) :
    Nat → Cursor → Option Cursor
  | 0, s => next s
  | n + 1, s =>
    let again := fun (_ : Unit) ↦ round s fun t ↦
      if t.position = s.position then next t else repeatMore round greedy next n t
    if greedy then (again ()).orElse fun _ ↦ next s else (next s).orElse again

/-- How many rounds may follow the obligatory ones. -/
def roundsLeft (least : Nat) (most : Option Nat) (rest : Text) : Nat :=
  match most with
  | some m => m - least
  | none => rest.length + 1

/-- The first way through the expression, in order of preference, that `next` accepts. -/
def run : Expr → Step
  | .empty, s, next => next s
  | .one test, s, next =>
    match s.rest with
    | [] => none
    | c :: cs =>
      if test.admits c then next { s with position := s.position + 1, rest := cs } else none
  | .start, s, next => if s.position = 0 then next s else none
  | .finish, s, next => if s.rest = [] ∨ s.rest = ['\n'] then next s else none
  | .ahead wanted body, s, next =>
    match body.run s some with
    | some t => if wanted then next { s with groups := t.groups } else none
    | none => if wanted then none else next s
  | .group index body, s, next =>
    body.run s fun t ↦
      next { t with groups := (index, s.rest.take (t.position - s.position)) :: t.groups }
  | .seq first second, s, next => first.run s fun t ↦ second.run t next
  | .alt first second, s, next => (first.run s next).orElse fun _ ↦ second.run s next
  | .rep least most greedy body, s, next =>
    repeatExactly body.run
      (fun t ↦ repeatMore body.run greedy next (roundsLeft least most t.rest) t) least s

/-- The preferred match that begins at the given place, if there is one; with `mayBeEmpty` unset,
the preferred one that consumes something. -/
def matchAt (e : Expr) (position : Nat) (mayBeEmpty : Bool) (rest : Text) : Option Match :=
  (e.run ⟨position, rest, []⟩ fun t ↦
      if mayBeEmpty || t.position != position then some t else none).map
    fun t ↦ ⟨rest.take (t.position - position), t.groups⟩

/-- Whether the expression matches at the given place or later. -/
def occursFrom (e : Expr) (position : Nat) : Text → Bool
  | [] => (e.matchAt position true []).isSome
  | c :: cs => (e.matchAt position true (c :: cs)).isSome || occursFrom e (position + 1) cs

end Expr

/-- Whether the pattern matches anywhere in the text. -/
def Pattern.occursIn (p : Pattern) (text : Text) : Bool := p.expr.occursFrom 0 text

/-! ## One equation per constructor -/

namespace Expr

variable (s : Cursor) (next : Cursor → Option Cursor)

@[simp] theorem run_empty : run .empty s next = next s := rfl

@[simp] theorem run_seq (first second : Expr) :
    run (.seq first second) s next = first.run s fun t ↦ second.run t next := rfl

@[simp] theorem run_alt (first second : Expr) :
    run (.alt first second) s next = (first.run s next).orElse fun _ ↦ second.run s next := rfl

@[simp] theorem run_one (test : CharTest) :
    run (.one test) s next =
      match s.rest with
      | [] => none
      | c :: cs =>
        if test.admits c then next { s with position := s.position + 1, rest := cs } else none :=
  rfl

theorem word_cons (c : Char) (cs : Text) : word (c :: cs) = .seq (char c) (word cs) := rfl

/-- A literal word matches exactly where the rest begins with it. -/
theorem run_word (w : Text) (s : Cursor) (next : Cursor → Option Cursor) :
    run (word w) s next =
      if w.isPrefixOf s.rest then
        next { s with position := s.position + w.length, rest := s.rest.drop w.length }
      else none := by
  induction w generalizing s with
  | nil => rfl
  | cons c cs ih =>
    obtain ⟨position, rest, groups⟩ := s
    cases rest with
    | nil => rfl
    | cons d ds =>
      rw [word_cons, run_seq, run_one]
      by_cases h : c = d
      · subst h
        simp [CharTest.admits, ih, Nat.add_assoc, Nat.add_comm 1]
      · simp [CharTest.admits, h, Ne.symm h]

/-! ## Matching only moves forward -/

/-- The place `t` is the place `s` after some of its characters. -/
def Ahead (s t : Cursor) : Prop :=
  ∃ k ≤ s.rest.length, t.position = s.position + k ∧ t.rest = s.rest.drop k

theorem Ahead.refl (s : Cursor) : Ahead s s := ⟨0, Nat.zero_le _, rfl, rfl⟩

theorem Ahead.trans {s t u : Cursor} (h : Ahead s t) (h' : Ahead t u) : Ahead s u := by
  obtain ⟨k, hk, hp, hr⟩ := h
  obtain ⟨l, hl, hp', hr'⟩ := h'
  rw [hr, List.length_drop] at hl
  exact ⟨k + l, by omega, by omega, by rw [hr', hr, List.drop_drop]⟩

/-- Every answer of a step is an answer of its continuation at a place further on. -/
def Forward (round : Step) : Prop :=
  ∀ s next r, round s next = some r → ∃ t, Ahead s t ∧ next t = some r

theorem orElse_eq_some {a : Option Cursor} {b : Unit → Option Cursor} {r : Cursor} :
    a.orElse b = some r ↔ a = some r ∨ b () = some r ∧ a = none := by
  cases a with
  | none =>
    change b () = some r ↔ _
    simp
  | some c =>
    change some c = some r ↔ _
    simp

theorem repeatExactly_forward {round : Step} (h : Forward round) {next : Cursor → Option Cursor}
    {r : Cursor} (n : Nat) {s : Cursor} (hr : repeatExactly round next n s = some r) :
    ∃ t, Ahead s t ∧ next t = some r := by
  induction n generalizing s with
  | zero => exact ⟨s, .refl s, hr⟩
  | succ n ih =>
    obtain ⟨t, ht, hn⟩ := h _ _ _ hr
    obtain ⟨u, hu, hn⟩ := ih hn
    exact ⟨u, ht.trans hu, hn⟩

theorem repeatMore_forward {round : Step} (h : Forward round) (greedy : Bool)
    {next : Cursor → Option Cursor} {r : Cursor} (n : Nat) {s : Cursor}
    (hr : repeatMore round greedy next n s = some r) : ∃ t, Ahead s t ∧ next t = some r := by
  induction n generalizing s with
  | zero => exact ⟨s, .refl s, hr⟩
  | succ n ih =>
    have again {s : Cursor}
        (hr : (round s fun t ↦
          if t.position = s.position then next t else repeatMore round greedy next n t) = some r) :
        ∃ t, Ahead s t ∧ next t = some r := by
      obtain ⟨t, ht, hn⟩ := h _ _ _ hr
      split at hn
      · exact ⟨t, ht, hn⟩
      · obtain ⟨u, hu, hn⟩ := ih hn
        exact ⟨u, ht.trans hu, hn⟩
    cases greedy <;>
      simp only [repeatMore, Bool.false_eq_true, if_true, if_false, orElse_eq_some] at hr <;>
      rcases hr with hr | ⟨hr, -⟩
    · exact ⟨s, .refl s, hr⟩
    · exact again hr
    · exact again hr
    · exact ⟨s, .refl s, hr⟩

theorem forward_run (e : Expr) : Forward e.run := by
  induction e with
  | empty => exact fun s next r h ↦ ⟨s, .refl s, h⟩
  | one test =>
    intro s next r h
    rw [run_one] at h
    split at h
    · simp at h
    · rename_i c cs hs
      split at h
      · exact ⟨_, ⟨1, by simp [hs], rfl, by simp [hs]⟩, h⟩
      · simp at h
  | start =>
    intro s next r h
    simp only [run] at h
    split at h
    · exact ⟨s, .refl s, h⟩
    · simp at h
  | finish =>
    intro s next r h
    simp only [run] at h
    split at h
    · exact ⟨s, .refl s, h⟩
    · simp at h
  | ahead wanted body _ =>
    intro s next r h
    simp only [run] at h
    split at h <;> split at h
    · refine ⟨_, ?_, h⟩
      exact ⟨0, Nat.zero_le _, rfl, rfl⟩
    · simp at h
    · simp at h
    · exact ⟨s, .refl s, h⟩
  | group index body ih =>
    intro s next r h
    obtain ⟨t, ⟨k, hk, hp, hr⟩, hn⟩ := ih _ _ _ h
    refine ⟨_, ?_, hn⟩
    exact ⟨k, hk, hp, hr⟩
  | seq first second ih ih' =>
    intro s next r h
    obtain ⟨t, ht, hn⟩ := ih _ _ _ h
    obtain ⟨u, hu, hn⟩ := ih' _ _ _ hn
    exact ⟨u, ht.trans hu, hn⟩
  | alt first second ih ih' =>
    intro s next r h
    rw [run_alt, orElse_eq_some] at h
    rcases h with h | ⟨h, -⟩
    · exact ih _ _ _ h
    · exact ih' _ _ _ h
  | rep least most greedy body ih =>
    intro s next r h
    obtain ⟨t, ht, hn⟩ := repeatExactly_forward ih least h
    obtain ⟨u, hu, hn⟩ := repeatMore_forward ih greedy _ hn
    exact ⟨u, ht.trans hu, hn⟩

theorem text_of_matchAt {e : Expr} {position : Nat} {mayBeEmpty : Bool} {rest : Text} {m : Match}
    (h : e.matchAt position mayBeEmpty rest = some m) :
    m.text = rest.take m.text.length ∧ (mayBeEmpty = false → m.text ≠ []) := by
  obtain ⟨r, hr, rfl⟩ := Option.map_eq_some_iff.1 h
  obtain ⟨t, ⟨k, hk, hp, -⟩, hn⟩ := forward_run e _ _ _ hr
  simp only at hk hp
  split at hn
  · rename_i hstay
    cases hn
    have hlen : r.position - position = k := by omega
    refine ⟨by simp [hlen, Nat.min_eq_left hk], fun hne ↦ ?_⟩
    simp only [hne, Bool.false_or, bne_iff_ne, ne_eq] at hstay
    have : 0 < (rest.take (r.position - position)).length := by rw [List.length_take]; omega
    exact List.ne_nil_of_length_pos this
  · simp at hn

end Expr

end ShaderDowngrade
