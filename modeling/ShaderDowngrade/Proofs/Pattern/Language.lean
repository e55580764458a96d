import Mathlib.Data.Set.NAry
import ShaderDowngrade.Pattern.Template

/-!
# The language of a pattern

`Expr.Spells` says which words an expression stands for, and what its groups remember of them,
without any order of preference and without a text around the word. Matching by backtracking finds
such words and no others.

Main statements: `Expr.spells_of_matchAt`, what is matched is spelled by the expression;
`Expr.isSome_matchAt`, for an expression without anchors and lookahead whose repetitions are of
single characters, a match is found wherever a word of the language begins; and
`Pattern.occursIn_iff`, such a pattern matches somewhere in a text exactly if one of its words
occurs in it.

## Soundness for all expressions, completeness for plain ones

Anchors and lookahead look at the text around the word, so a word of their language need not match.
A repetition stops after a round that consumes nothing, so completeness for repetitions of
arbitrary expressions would have to normalise rounds. The rules repeat single characters only, and
`Expr.Plain` is the class for which the argument is direct.
-/

namespace ShaderDowngrade

namespace Expr

/-- The word `w` is spelled by the expression, and the groups then remember `g`, the latest first.
What anchors and lookahead ask of the text around the word is left open. -/
def Spells : Expr → Text → List (Nat × Text) → Prop
  | .empty, w, g | .start, w, g | .finish, w, g => w = [] ∧ g = []
  | .one test, w, g => ∃ c, test.admits c = true ∧ w = [c] ∧ g = []
  | .ahead _ _, w, _ => w = []
  | .group index body, w, g => ∃ g', body.Spells w g' ∧ g = (index, w) :: g'
  | .seq first second, w, g => ∃ w₁ g₁ w₂ g₂,
      first.Spells w₁ g₁ ∧ second.Spells w₂ g₂ ∧ w = w₁ ++ w₂ ∧ g = g₂ ++ g₁
  | .alt first second, w, g => first.Spells w g ∨ second.Spells w g
  | .rep least most _ body, w, g => ∃ rounds : List (Text × List (Nat × Text)),
      least ≤ rounds.length ∧ (∀ m ∈ most, rounds.length ≤ max least m) ∧
        (∀ r ∈ rounds, body.Spells r.1 r.2) ∧
        w = rounds.flatMap Prod.fst ∧ g = rounds.reverse.flatMap Prod.snd

/-! ## Soundness -/

/-- The cursor behind a word, with some groups more. -/
def past (s : Cursor) (w : Text) (g : List (Nat × Text)) (rest : Text) : Cursor :=
  ⟨s.position + w.length, rest, g ++ s.groups⟩

theorem past_nil {s : Cursor} {rest : Text} (h : s.rest = [] ++ rest) : past s [] [] rest = s := by
  rw [List.nil_append] at h
  subst h
  rfl

theorem past_past (s : Cursor) (w v : Text) (g k : List (Nat × Text)) (rest rest' : Text) :
    past (past s w g rest) v k rest' = past s (w ++ v) (k ++ g) rest' := by
  simp [past, Nat.add_assoc]

/-- Every answer of a step is an answer of its continuation behind a word of the language. -/
def Sound (round : Step) (language : Text → List (Nat × Text) → Prop) : Prop :=
  ∀ s next r, round s next = some r →
    ∃ w g rest, language w g ∧ s.rest = w ++ rest ∧ next (past s w g rest) = some r

section Rounds

variable {round : Step} {language : Text → List (Nat × Text) → Prop}
  {next : Cursor → Option Cursor} {r : Cursor}

/-- The words of some rounds, one after the other. -/
def Rounds (language : Text → List (Nat × Text) → Prop) (count : Nat → Prop) (w : Text)
    (g : List (Nat × Text)) : Prop :=
  ∃ rounds : List (Text × List (Nat × Text)), count rounds.length ∧
    (∀ r ∈ rounds, language r.1 r.2) ∧ w = rounds.flatMap Prod.fst ∧
    g = rounds.reverse.flatMap Prod.snd

theorem rounds_zero {count : Nat → Prop} (h : count 0) : Rounds language count [] [] :=
  ⟨[], h, by simp, rfl, rfl⟩

theorem rounds_cons {count : Nat → Prop} {w v : Text} {g k : List (Nat × Text)}
    (hw : language w g) (h : Rounds language (fun n ↦ count (n + 1)) v k) :
    Rounds language count (w ++ v) (k ++ g) := by
  obtain ⟨rounds, hcount, hall, rfl, rfl⟩ := h
  refine ⟨(w, g) :: rounds, hcount, ?_, by simp, by simp⟩
  simpa using ⟨hw, fun a b ↦ hall (a, b)⟩

theorem repeatExactly_sound (h : Sound round language) (n : Nat) {s : Cursor}
    (hr : repeatExactly round next n s = some r) :
    ∃ w g rest, Rounds language (· = n) w g ∧ s.rest = w ++ rest ∧
      next (past s w g rest) = some r := by
  induction n generalizing s with
  | zero => exact ⟨[], [], s.rest, rounds_zero rfl, rfl, hr⟩
  | succ n ih =>
    obtain ⟨w, g, rest, hw, hs, hn⟩ := h _ _ _ hr
    obtain ⟨v, k, rest', hv, hs', hn⟩ := ih hn
    refine ⟨w ++ v, k ++ g, rest', rounds_cons hw (by simpa using hv), ?_, ?_⟩
    · rw [hs, List.append_assoc, ← hs']
      rfl
    · rwa [past_past] at hn

theorem repeatMore_sound (h : Sound round language) (greedy : Bool) (n : Nat) {s : Cursor}
    (hr : repeatMore round greedy next n s = some r) :
    ∃ w g rest, Rounds language (· ≤ n) w g ∧ s.rest = w ++ rest ∧
      next (past s w g rest) = some r := by
  induction n generalizing s with
  | zero => exact ⟨[], [], s.rest, rounds_zero (Nat.le_refl _), rfl, hr⟩
  | succ n ih =>
    have stop (hr : next s = some r) : ∃ w g rest, Rounds language (· ≤ n + 1) w g ∧
        s.rest = w ++ rest ∧ next (past s w g rest) = some r :=
      ⟨[], [], s.rest, rounds_zero (Nat.zero_le _), rfl, hr⟩
    have again (hr : (round s fun t ↦ if t.position = s.position then next t
        else repeatMore round greedy next n t) = some r) :
        ∃ w g rest, Rounds language (· ≤ n + 1) w g ∧ s.rest = w ++ rest ∧
          next (past s w g rest) = some r := by
      obtain ⟨w, g, rest, hw, hs, hn⟩ := h _ _ _ hr
      -- a round that consumes nothing is the last one
      split at hn
      · refine ⟨w ++ [], [] ++ g, rest, rounds_cons hw (rounds_zero (Nat.succ_le_succ n.zero_le)),
          by rw [hs, List.append_nil], ?_⟩
        rwa [List.append_nil, List.nil_append]
      · obtain ⟨v, k, rest', hv, hs', hn⟩ := ih hn
        refine ⟨w ++ v, k ++ g, rest', rounds_cons hw (by simpa using hv), ?_, ?_⟩
        · rw [hs, List.append_assoc, ← hs']
          rfl
        · rwa [past_past] at hn
    cases greedy <;>
      simp only [repeatMore, Bool.false_eq_true, if_true, if_false, orElse_eq_some] at hr <;>
      rcases hr with hr | ⟨hr, -⟩
    · exact stop hr
    · exact again hr
    · exact again hr
    · exact stop hr

end Rounds

/-- **Soundness.** Following an expression leads behind a word that it spells. -/
theorem sound_run (e : Expr) : Sound e.run e.Spells := by
  induction e with
  | empty => exact fun s next r h ↦ ⟨[], [], s.rest, ⟨rfl, rfl⟩, rfl, h⟩
  | one test =>
    intro s next r h
    rw [run_one] at h
    split at h
    · cases h
    · rename_i c cs hs
      split at h
      · rename_i hc
        exact ⟨[c], [], cs, ⟨c, hc, rfl, rfl⟩, hs, h⟩
      · cases h
  | start =>
    intro s next r h
    simp only [run, Option.ite_none_right_eq_some] at h
    exact ⟨[], [], s.rest, ⟨rfl, rfl⟩, rfl, h.2⟩
  | finish =>
    intro s next r h
    simp only [run, Option.ite_none_right_eq_some] at h
    exact ⟨[], [], s.rest, ⟨rfl, rfl⟩, rfl, h.2⟩
  | ahead wanted body ih =>
    intro s next r h
    simp only [run] at h
    split at h <;> simp only [Option.ite_none_right_eq_some, Option.ite_none_left_eq_some] at h
    · -- the groups of the lookahead are those of the cursor it reached, which only grow
      rename_i t ht
      obtain ⟨w, g, rest, -, -, hn⟩ := ih _ _ _ ht
      obtain rfl : past s w g rest = t := by simpa using hn
      exact ⟨[], g, s.rest, rfl, rfl, h.2⟩
    · exact ⟨[], [], s.rest, rfl, rfl, h.2⟩
  | group index body ih =>
    intro s next r h
    obtain ⟨w, g, rest, hw, hs, hn⟩ := ih _ _ _ h
    refine ⟨w, (index, w) :: g, rest, ⟨g, hw, rfl⟩, hs, ?_⟩
    simpa [past, hs] using hn
  | seq first second ih ih' =>
    intro s next r h
    obtain ⟨w, g, rest, hw, hs, hn⟩ := ih _ _ _ h
    obtain ⟨v, k, rest', hv, hs', hn⟩ := ih' _ _ _ hn
    refine ⟨w ++ v, k ++ g, rest', ⟨w, g, v, k, hw, hv, rfl, rfl⟩, ?_, ?_⟩
    · rw [hs, List.append_assoc, ← hs']
      rfl
    · rwa [past_past] at hn
  | alt first second ih ih' =>
    intro s next r h
    rw [run_alt, orElse_eq_some] at h
    rcases h with h | ⟨h, -⟩
    · obtain ⟨w, g, rest, hw, hs⟩ := ih _ _ _ h
      exact ⟨w, g, rest, .inl hw, hs⟩
    · obtain ⟨w, g, rest, hw, hs⟩ := ih' _ _ _ h
      exact ⟨w, g, rest, .inr hw, hs⟩
  | rep least most greedy body ih =>
    intro s next r h
    -- `rs` are the obligatory rounds, `qs` the further ones
    obtain ⟨w, g, rest, ⟨rs, hl, hrs, rfl, rfl⟩, hs, hn⟩ := repeatExactly_sound ih least h
    obtain ⟨v, k, rest', ⟨qs, hm, hqs, rfl, rfl⟩, hs', hn⟩ := repeatMore_sound ih greedy _ hn
    refine ⟨_, _, rest', ⟨rs ++ qs, ?_, ?_, ?_, rfl, rfl⟩, ?_, ?_⟩
    · rw [List.length_append]
      omega
    · rintro m hmost
      obtain rfl : most = some m := hmost
      rw [roundsLeft] at hm
      rw [List.length_append]
      omega
    · simpa [or_imp, forall_and] using ⟨fun a b ↦ hrs (a, b), fun a b ↦ hqs (a, b)⟩
    · rw [hs, List.flatMap_append, List.append_assoc, ← hs']
      rfl
    · rw [past_past] at hn
      simpa using hn

theorem spells_of_matchAt {e : Expr} {position : Nat} {mayBeEmpty : Bool} {rest : Text} {m : Match}
    (h : e.matchAt position mayBeEmpty rest = some m) :
    e.Spells m.text m.groups ∧ m.text <+: rest := by
  obtain ⟨r, hr, rfl⟩ := Option.map_eq_some_iff.1 h
  obtain ⟨w, g, rest', hw, hs, hn⟩ := sound_run e _ _ _ hr
  split at hn
  · cases hn
    simp only [past, List.append_nil] at hs ⊢
    subst hs
    simpa using hw
  · cases hn

/-! ## Completeness for plain expressions -/

/-- No anchors, no lookahead, and repetitions of single characters only. -/
def Plain : Expr → Bool
  | .empty | .one _ => true
  | .start | .finish | .ahead .. => false
  | .group _ body => body.Plain
  | .seq first second | .alt first second => first.Plain && second.Plain
  | .rep _ _ _ (.one _) => true
  | .rep .. => false

/-- The words of repeated characters are the texts of admitted characters. -/
theorem spells_rep_one {least : Nat} {most : Option Nat} {greedy : Bool} {test : CharTest}
    {w : Text} {g : List (Nat × Text)} :
    (rep least most greedy (.one test)).Spells w g ↔
      least ≤ w.length ∧ (∀ m ∈ most, w.length ≤ max least m) ∧
        (∀ c ∈ w, test.admits c = true) ∧ g = [] := by
  constructor
  · rintro ⟨rounds, hleast, hmost, hall, rfl, rfl⟩
    -- each round is one character without groups
    have hlength : ∀ qs : List (Text × List (Nat × Text)),
        (∀ r ∈ qs, (one test).Spells r.1 r.2) → (qs.flatMap Prod.fst).length = qs.length ∧
          (∀ c ∈ qs.flatMap Prod.fst, test.admits c = true) ∧ qs.flatMap Prod.snd = [] := by
      intro qs hqs
      induction qs with
      | nil => simp
      | cons q qs ih =>
        obtain ⟨c, hc, hq, hq'⟩ := hqs q List.mem_cons_self
        obtain ⟨hl, ha, hg⟩ := ih fun r hr ↦ hqs r (List.mem_cons_of_mem q hr)
        simp only [List.flatMap_cons, hq, hq', hg]
        exact ⟨by simp [hl], by simpa [hc] using ha, rfl⟩
    obtain ⟨hl, ha, -⟩ := hlength rounds hall
    obtain ⟨-, -, hg⟩ := hlength rounds.reverse fun r hr ↦ hall r (List.mem_reverse.1 hr)
    exact ⟨hl ▸ hleast, fun m hm ↦ hl ▸ hmost m hm, ha, hg⟩
  · rintro ⟨hleast, hmost, hall, rfl⟩
    refine ⟨w.map fun c ↦ ([c], []), by simpa using hleast, by simpa using hmost, ?_, ?_, ?_⟩
    · intro r hr
      obtain ⟨c, hc, rfl⟩ := List.mem_map.1 hr
      exact ⟨c, hall c hc, rfl, rfl⟩
    · simp [List.flatMap_map]
    · simp [← List.map_reverse, List.flatMap_map]

section Repeated

variable {test : CharTest} {next : Cursor → Option Cursor} {s : Cursor} {w rest : Text}

theorem repeatExactly_one (hs : s.rest = w ++ rest) (hw : ∀ c ∈ w, test.admits c = true) :
    repeatExactly (one test).run next w.length s = next (past s w [] rest) := by
  induction w generalizing s with
  | nil => rw [List.length_nil, repeatExactly, past_nil hs]
  | cons c w ih =>
    rw [List.length_cons, repeatExactly, run_one, hs, List.cons_append]
    simp only [hw c List.mem_cons_self, if_true]
    rw [ih rfl fun d hd ↦ hw d (List.mem_cons_of_mem c hd)]
    simp [past, Nat.add_assoc, Nat.add_comm 1]

theorem isSome_repeatMore_one (greedy : Bool) {n : Nat} (hn : w.length ≤ n)
    (hs : s.rest = w ++ rest) (hw : ∀ c ∈ w, test.admits c = true)
    (hnext : (next (past s w [] rest)).isSome = true) :
    (repeatMore (one test).run greedy next n s).isSome = true := by
  induction n generalizing s w with
  | zero =>
    obtain rfl := List.eq_nil_of_length_eq_zero (Nat.le_zero.1 hn)
    rwa [past_nil hs] at hnext
  | succ n ih =>
    cases w with
    | nil =>
      rw [past_nil hs] at hnext
      cases greedy <;> simp [repeatMore, hnext]
    | cons c w =>
      -- the further round takes `c`, so the cursor moves and the search goes on
      have : ((one test).run s fun t ↦ if t.position = s.position then next t
          else repeatMore (one test).run greedy next n t).isSome = true := by
        rw [run_one, hs, List.cons_append]
        simp only [hw c List.mem_cons_self, if_true, Nat.succ_ne_self, if_false]
        refine ih (by simpa using hn) rfl (fun d hd ↦ hw d (List.mem_cons_of_mem c hd)) ?_
        simpa [past, Nat.add_assoc, Nat.add_comm 1] using hnext
      cases greedy <;> simp [repeatMore, this, -run_one]

end Repeated

/-- **Completeness.** If a word of a plain expression stands at a cursor and the continuation
accepts the place behind it, then following the expression leads somewhere. -/
theorem isSome_run {e : Expr} (he : e.Plain = true) {s : Cursor} {next : Cursor → Option Cursor}
    {w rest : Text} {g : List (Nat × Text)} (hw : e.Spells w g) (hs : s.rest = w ++ rest)
    (hnext : (next (past s w g rest)).isSome = true) : (e.run s next).isSome = true := by
  induction e generalizing s next w rest g with
  | empty =>
    obtain ⟨rfl, rfl⟩ := hw
    rwa [past_nil hs] at hnext
  | one test =>
    obtain ⟨c, hc, rfl, rfl⟩ := hw
    rw [run_one, hs]
    simp only [List.cons_append, List.nil_append, hc, if_true]
    exact hnext
  | start => cases he
  | finish => cases he
  | ahead wanted body => cases he
  | group index body ih =>
    obtain ⟨g', hw, rfl⟩ := hw
    refine ih he hw hs ?_
    simpa [past, hs] using hnext
  | seq first second ih ih' =>
    obtain ⟨he, he'⟩ := Bool.and_eq_true_iff.1 he
    obtain ⟨w₁, g₁, w₂, g₂, hw₁, hw₂, rfl, rfl⟩ := hw
    rw [List.append_assoc] at hs
    refine ih he hw₁ hs (ih' he' hw₂ rfl ?_)
    rwa [past_past]
  | alt first second ih ih' =>
    obtain ⟨he, he'⟩ := Bool.and_eq_true_iff.1 he
    rw [run_alt, Option.isSome_iff_exists]
    rcases hw with hw | hw
    · obtain ⟨t, ht⟩ := Option.isSome_iff_exists.1 (ih he hw hs hnext)
      exact ⟨t, orElse_eq_some.2 (.inl ht)⟩
    · obtain ⟨t, ht⟩ := Option.isSome_iff_exists.1 (ih' he' hw hs hnext)
      cases hf : first.run s next with
      | some u => exact ⟨u, orElse_eq_some.2 (.inl rfl)⟩
      | none => exact ⟨t, orElse_eq_some.2 (.inr ⟨ht, rfl⟩)⟩
  | rep least most greedy body _ =>
    cases body with
    | one test =>
      obtain ⟨hleast, hmost, hall, rfl⟩ := spells_rep_one.1 hw
      -- the obligatory rounds take the first `least` characters, the further ones the others
      have hsplit : s.rest = w.take least ++ (w.drop least ++ rest) := by
        rw [hs, ← List.append_assoc, List.take_append_drop]
      have hlen : (w.take least).length = least := by rw [List.length_take]; omega
      have htake (next' : Cursor → Option Cursor) :
          repeatExactly (one test).run next' least s =
            next' (past s (w.take least) [] (w.drop least ++ rest)) := by
        have := @repeatExactly_one test next' s _ _ hsplit fun c hc ↦
          hall c (List.mem_of_mem_take hc)
        rwa [hlen] at this
      rw [run, htake]
      refine isSome_repeatMore_one greedy ?_ rfl (fun c hc ↦ hall c (List.mem_of_mem_drop hc)) ?_
      · cases most with
        | none => simp [roundsLeft, past]; omega
        | some m =>
          have := hmost m rfl
          simp only [roundsLeft, List.length_drop]
          omega
      · rw [past_past, List.take_append_drop]
        exact hnext
    | _ => cases he

theorem isSome_matchAt {e : Expr} (he : e.Plain = true) {w rest : Text} {g : List (Nat × Text)}
    (position : Nat) (hw : e.Spells w g) (hrest : w <+: rest) :
    (e.matchAt position true rest).isSome = true := by
  obtain ⟨rest, rfl⟩ := hrest
  rw [matchAt, Option.isSome_map]
  exact isSome_run he hw rfl (by simp)

theorem occursFrom_iff {e : Expr} (he : e.Plain = true) (position : Nat) (text : Text) :
    e.occursFrom position text = true ↔ ∃ w g, e.Spells w g ∧ w <:+: text := by
  have here (position : Nat) (text : Text) :
      (e.matchAt position true text).isSome = true ↔ ∃ w g, e.Spells w g ∧ w <+: text := by
    constructor
    · intro h
      obtain ⟨m, hm⟩ := Option.isSome_iff_exists.1 h
      exact ⟨m.text, m.groups, spells_of_matchAt hm⟩
    · rintro ⟨w, g, hw, hrest⟩
      exact isSome_matchAt he position hw hrest
  induction text generalizing position with
  | nil => simp [occursFrom, here]
  | cons c cs ih =>
    simp only [occursFrom, Bool.or_eq_true, here, ih (position + 1), List.infix_cons_iff,
      and_or_left, exists_or]

end Expr

/-! ## Sequences -/

namespace Expr

theorem plain_seqAll {es : List Expr} (h : ∀ e ∈ es, e.Plain = true) :
    (seqAll es).Plain = true := by
  induction es with
  | nil => rfl
  | cons e es ih =>
    rw [seqAll, Plain, h e List.mem_cons_self, ih fun f hf ↦ h f (List.mem_cons_of_mem e hf)]
    rfl

theorem plain_word (w : Text) : (word w).Plain = true :=
  plain_seqAll fun e he ↦ by
    obtain ⟨c, -, rfl⟩ := List.mem_map.1 he
    rfl

/-- The words of the expression, whatever its groups remember. -/
def language (e : Expr) : Set Text := {w | ∃ g, e.Spells w g}

theorem language_empty : language .empty = {[]} := by
  ext w
  constructor
  · rintro ⟨g, rfl, -⟩
    rfl
  · rintro rfl
    exact ⟨[], rfl, rfl⟩

theorem language_group (index : Nat) (body : Expr) :
    language (.group index body) = language body := by
  ext w
  constructor
  · rintro ⟨g, g', h, -⟩
    exact ⟨g', h⟩
  · rintro ⟨g, h⟩
    exact ⟨_, g, h, rfl⟩

theorem language_seq (first second : Expr) :
    language (.seq first second) = Set.image2 (· ++ ·) first.language second.language := by
  ext w
  constructor
  · rintro ⟨g, w₁, g₁, w₂, g₂, h₁, h₂, rfl, -⟩
    exact ⟨w₁, ⟨g₁, h₁⟩, w₂, ⟨g₂, h₂⟩, rfl⟩
  · rintro ⟨w₁, ⟨g₁, h₁⟩, w₂, ⟨g₂, h₂⟩, rfl⟩
    exact ⟨_, w₁, g₁, w₂, g₂, h₁, h₂, rfl, rfl⟩

theorem language_seqAll_singleton (e : Expr) : language (seqAll [e]) = e.language := by
  rw [seqAll, seqAll, language_seq, language_empty, Set.image2_singleton_right]
  simp

theorem spells_seqAll_map_char_append {w v : Text} {es : List Expr} {g : List (Nat × Text)} :
    (seqAll (w.map char ++ es)).Spells v g ↔ ∃ v', v = w ++ v' ∧ (seqAll es).Spells v' g := by
  induction w generalizing v g with
  | nil => simp
  | cons c cs ih =>
    constructor
    · rintro ⟨_, _, v₁, g₁, ⟨d, hd, rfl, rfl⟩, h, rfl, rfl⟩
      obtain ⟨v', rfl, h'⟩ := ih.1 h
      obtain rfl : d = c := by simpa [CharTest.admits] using hd
      exact ⟨v', rfl, by rwa [List.append_nil]⟩
    · rintro ⟨v', rfl, h⟩
      exact ⟨[c], [], cs ++ v', g, ⟨c, by simp [CharTest.admits], rfl, rfl⟩,
        ih.2 ⟨v', rfl, h⟩, rfl, by rw [List.append_nil]⟩

theorem spells_seqAll_group {index : Nat} {body : Expr} {es : List Expr} {w : Text}
    {g : List (Nat × Text)} (h : (seqAll (.group index body :: es)).Spells w g) :
    ∃ v gv w' g', body.Spells v gv ∧ (seqAll es).Spells w' g' ∧ w = v ++ w' ∧
      g = g' ++ (index, v) :: gv := by
  obtain ⟨v, _, w', g', ⟨gv, hv, rfl⟩, h, rfl, rfl⟩ := h
  exact ⟨v, gv, w', g', hv, h, rfl, rfl⟩

theorem spells_seqAll_some1 {items : List ClassItem} {es : List Expr} {w : Text}
    {g : List (Nat × Text)} (h : (seqAll (some1 items :: es)).Spells w g) :
    ∃ v w', v ∈ (some1 items).language ∧ (seqAll es).Spells w' g ∧ w = v ++ w' := by
  obtain ⟨v, gv, w', g', hv, h, rfl, rfl⟩ := h
  obtain rfl : gv = [] := (spells_rep_one.1 hv).2.2.2
  exact ⟨v, w', ⟨_, hv⟩, by rwa [List.append_nil], rfl⟩

theorem language_seqAll_map_char_append (w : Text) (es : List Expr) :
    language (seqAll (w.map char ++ es)) = (w ++ ·) '' language (seqAll es) := by
  ext v
  rw [language, Set.mem_image]
  simp only [Set.mem_ofPred_eq, spells_seqAll_map_char_append]
  constructor
  · rintro ⟨g, v', rfl, h⟩
    exact ⟨v', ⟨g, h⟩, rfl⟩
  · rintro ⟨v', ⟨g, h⟩, rfl⟩
    exact ⟨g, v', rfl, h⟩

theorem language_word (w : Text) : language (word w) = {w} := by
  have := language_seqAll_map_char_append w []
  rw [List.append_nil] at this
  rw [word, this, seqAll, language_empty, Set.image_singleton, List.append_nil]

end Expr

namespace Pattern

/-- The words of the pattern. -/
def words (p : Pattern) : Set Text := p.expr.language

theorem words_of_expr_eq_word {p : Pattern} {w : Text} (h : p.expr = .word w) : p.words = {w} := by
  rw [words, h, Expr.language_word]

theorem text_eq_of_expr_eq_word {p : Pattern} {w : Text} (h : p.expr = .word w) {m : Match}
    (hm : p.expr.Spells m.text m.groups) : m.text = w := by
  have hmem : m.text ∈ p.words := ⟨_, hm⟩
  rwa [words_of_expr_eq_word h, Set.mem_singleton_iff] at hmem

/-- **Occurrence.** A plain pattern matches in a text exactly if one of its words occurs there. -/
theorem occursIn_iff {p : Pattern} (hp : p.expr.Plain = true) (text : Text) :
    p.occursIn text = true ↔ ∃ w ∈ p.words, w <:+: text := by
  rw [occursIn, Expr.occursFrom_iff hp]
  constructor
  · rintro ⟨w, g, hw, hi⟩
    exact ⟨w, ⟨g, hw⟩, hi⟩
  · rintro ⟨w, ⟨g, hw⟩, hi⟩
    exact ⟨w, g, hw, hi⟩

theorem occursIn_of_expr_eq_word {p : Pattern} {w : Text} (h : p.expr = .word w) (text : Text) :
    p.occursIn text = Text.includes text w := by
  rw [Bool.eq_iff_iff, occursIn_iff (h ▸ Expr.plain_word w), words_of_expr_eq_word h,
    Text.includes_iff]
  simp

end Pattern

/-! ## Matches and occurrences -/

namespace Expr

theorem occursFrom_iff_exists (e : Expr) (position : Nat) (text : Text) :
    e.occursFrom position text = true ↔
      ∃ u v, text = u ++ v ∧ (e.matchAt (position + u.length) true v).isSome = true := by
  induction text generalizing position with
  | nil =>
    rw [occursFrom]
    constructor
    · exact fun h ↦ ⟨[], [], rfl, h⟩
    · rintro ⟨u, v, huv, h⟩
      obtain ⟨rfl, rfl⟩ := List.append_eq_nil_iff.1 huv.symm
      exact h
  | cons c cs ih =>
    rw [occursFrom, Bool.or_eq_true, ih]
    constructor
    · rintro (h | ⟨u, v, rfl, h⟩)
      · exact ⟨[], c :: cs, rfl, h⟩
      · exact ⟨c :: u, v, rfl, by rwa [List.length_cons, Nat.add_comm u.length, ← Nat.add_assoc]⟩
    · rintro ⟨u, v, huv, h⟩
      cases u with
      | nil =>
        obtain rfl : c :: cs = v := huv
        exact .inl h
      | cons d u =>
        rw [List.length_cons, Nat.add_comm u.length, ← Nat.add_assoc] at h
        exact .inr ⟨u, v, (List.cons.inj huv).2, h⟩

/-- Literal characters match where the rest begins with them, and what follows matches behind
them. -/
theorem run_seqAll_map_char_append (w : Text) (es : List Expr) (s : Cursor)
    (next : Cursor → Option Cursor) : run (seqAll (w.map char ++ es)) s next =
      if w.isPrefixOf s.rest then
        run (seqAll es) { s with position := s.position + w.length, rest := s.rest.drop w.length }
          next
      else none := by
  induction w generalizing s with
  | nil => rfl
  | cons c cs ih =>
    obtain ⟨position, rest, groups⟩ := s
    rw [List.map_cons, List.cons_append, seqAll, run_seq, run_one]
    cases rest with
    | nil => rfl
    | cons d ds =>
      by_cases h : c = d
      · subst h
        simp [CharTest.admits, ih, Nat.add_assoc, Nat.add_comm 1]
      · simp [CharTest.admits, h, Ne.symm h]

theorem filterMap_match?_piecesFrom_eq_nil_iff (e : Expr) (position : Nat) (text : Text) :
    (e.piecesFrom position 0 text).filterMap Piece.match? = [] ↔
      e.occursFrom position text = false := by
  induction text generalizing position with
  | nil =>
    cases h : e.matchAt position true [] <;> simp [piecesFrom, occursFrom, h, Piece.match?]
  | cons c cs ih =>
    cases h : e.matchAt position true (c :: cs) with
    | none =>
      simp only [piecesFrom, occursFrom, h, Option.isSome_none, Bool.false_or]
      exact ih (position + 1)
    | some m =>
      -- where the scan goes on depends on the match, but the match is listed in any case
      have : (e.piecesFrom position 0 (c :: cs)).filterMap Piece.match? ≠ [] := by
        simp only [piecesFrom, h]
        split
        · simp [Piece.match?]
        · split <;> simp [Piece.match?]
      simp [occursFrom, h, this]

end Expr

namespace Pattern

theorem allMatches_eq_nil_iff (p : Pattern) (text : Text) :
    p.allMatches text = [] ↔ p.occursIn text = false :=
  p.expr.filterMap_match?_piecesFrom_eq_nil_iff 0 text

theorem count_eq_zero_iff (p : Pattern) (text : Text) :
    p.count text = 0 ↔ p.occursIn text = false := by
  rw [count, List.length_eq_zero_iff, allMatches_eq_nil_iff]

end Pattern

end ShaderDowngrade
