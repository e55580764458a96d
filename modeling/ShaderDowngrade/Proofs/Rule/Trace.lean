import Mathlib.Algebra.GroupWithZero.Nat
import ShaderDowngrade.Conversion

/-!
# Traces

The entries of a run list the rules that were executed. What was executed is a forest: every rule
of the chain is a root, and a group that took effect has its own rules below it. The entries are
this forest in preorder, and each of them says of its rule what came of it.

Main statement: `Conversion.exists_forest`, the ledger of a conversion is such a listing, whatever
the chain.

## Why the forest is not read off the entries

An entry names its rule and its group, but names may be shared: by two rules, by a group and a
rule inside it, by groups inside groups. The rules themselves tell where the entries of a group
end, so a node of the forest holds its rule.
-/

namespace ShaderDowngrade

/-- A rule that was executed, its entry, and what was executed inside it. -/
inductive Executed where
  | node (rule : Rule) (entry : Entry) (inside : List Executed)

namespace Rule

/-- The rules of a group. -/
def inner : Rule → List Rule
  | .group _ _ _ _ rules => rules
  | _ => []

/-- Whether the rule is a group. -/
def isGroup : Rule → Bool
  | .group .. => true
  | _ => false

mutual

/-- The rule with all rules inside it, at every depth. -/
def nested : Rule → List Rule
  | .substitute r => [.substitute r]
  | .prepend r => [.prepend r]
  | .group name probe stageGate description rules =>
    .group name probe stageGate description rules :: nestedAll rules

/-- The rules with all rules inside them, at every depth. -/
def nestedAll : List Rule → List Rule
  | [] => []
  | r :: rs => r.nested ++ nestedAll rs

end

theorem self_mem_nested (r : Rule) : r ∈ r.nested := by
  cases r <;> simp [nested]

theorem nestedAll_inner_subset (r : Rule) : nestedAll r.inner ⊆ r.nested := by
  cases r with
  | substitute r => simp [inner, nestedAll]
  | prepend r => simp [inner, nestedAll]
  | group name probe stageGate description rules => simp [inner, nested]

end Rule

namespace Executed

def rule : Executed → Rule
  | .node rule _ _ => rule

def entry : Executed → Entry
  | .node _ entry _ => entry

def inside : Executed → List Executed
  | .node _ _ inside => inside

mutual

/-- All that was executed within the node, the node first. -/
def preorder : Executed → List Executed
  | .node rule entry inside => .node rule entry inside :: preorderAll inside

/-- All that was executed within the nodes of a forest. -/
def preorderAll : List Executed → List Executed
  | [] => []
  | x :: xs => x.preorder ++ preorderAll xs

end

theorem preorder_eq (x : Executed) : x.preorder = x :: preorderAll x.inside := by
  cases x
  rfl

theorem self_mem_preorder (x : Executed) : x ∈ x.preorder := by
  rw [preorder_eq]
  exact List.mem_cons_self

/-- The groups in a forest that took effect, at every depth. -/
def firedGroups (forest : List Executed) : List Executed :=
  (preorderAll forest).filter fun x ↦ x.entry.fired && x.rule.isGroup

/-- The entry says of the rule what came of it, and a group that took effect, but nothing else, has
its rules below it. -/
structure Faithful (stage : Stage) (x : Executed) : Prop where
  /-- The entry goes by the name of the rule, its gate and its words. -/
  identifies : x.entry.rule = x.rule.name ∧ x.entry.gate = x.rule.gate ∧
    x.entry.description = x.rule.describe
  /-- The rules of a group that took effect were executed, all of them and in their order. -/
  inside_eq : x.inside.map rule = if x.entry.fired then x.rule.inner else []
  /-- Their entries carry the name of the group. -/
  group_inside : ∀ y ∈ x.inside, y.entry.group = x.rule.name
  /-- A rule that took effect has matched. -/
  fired_iff_matchCount : x.entry.fired = true ↔ 1 ≤ x.entry.matchCount
  /-- A rule that took no effect has a reason. -/
  fired_iff_skip : x.entry.fired = true ↔ x.entry.skip = .none
  /-- Only a directive that took effect was put in front of the text. -/
  prepend_of_inserted : x.entry.inserted ≠ ("" : CodeString) →
    x.entry.fired = true ∧ ∃ r, x.rule = .prepend r ∧ x.entry.inserted = r.directive
  /-- Only the probe of a group can fail. -/
  group_of_probeFailed : x.entry.skip = .probeFailed → x.rule.isGroup = true
  /-- Only a pattern can be without a match. -/
  substitute_of_noMatch : x.entry.skip = .noMatch → ∃ r, x.rule = .substitute r
  /-- The gate decides about the stage. -/
  stageMismatch_iff : x.entry.skip = .stageMismatch ↔ x.rule.admits stage = false

/-! ## Forests -/

theorem subset_preorderAll (xs : List Executed) : xs ⊆ preorderAll xs := by
  induction xs with
  | nil => exact List.nil_subset _
  | cons x xs ih =>
    rw [preorderAll, preorder_eq, List.cons_append]
    exact List.cons_subset_cons x (List.Subset.trans ih (List.subset_append_right _ _))

mutual

theorem length_preorder : ∀ x : Executed,
    x.preorder.length = 1 + (x.preorder.map fun y ↦ y.inside.length).sum
  | .node rule entry inside => by
    rw [preorder, List.length_cons, List.map_cons, List.sum_cons, length_preorderAll inside]
    exact Nat.add_comm _ 1

/-- Every node is a root or stands directly below a node. -/
theorem length_preorderAll : ∀ xs : List Executed,
    (preorderAll xs).length = xs.length + ((preorderAll xs).map fun y ↦ y.inside.length).sum
  | [] => rfl
  | x :: xs => by
    rw [preorderAll, List.length_append, List.map_append, List.sum_append, length_preorder x,
      length_preorderAll xs, List.length_cons]
    omega

end

mutual

theorem eq_or_exists_inside {y : Executed} : ∀ {x : Executed}, y ∈ x.preorder →
    y = x ∨ ∃ z ∈ x.preorder, y ∈ z.inside
  | .node rule entry inside, h => by
    rcases List.mem_cons.1 h with h | h
    · exact .inl h
    · refine .inr ?_
      rcases mem_or_exists_inside h with hroot | ⟨z, hz, hy⟩
      · exact ⟨_, self_mem_preorder _, hroot⟩
      · exact ⟨z, List.mem_cons_of_mem _ hz, hy⟩

/-- A node is a root or stands directly below another one. -/
theorem mem_or_exists_inside {y : Executed} : ∀ {xs : List Executed}, y ∈ preorderAll xs →
    y ∈ xs ∨ ∃ z ∈ preorderAll xs, y ∈ z.inside
  | x :: xs, h => by
    rcases List.mem_append.1 h with h | h
    · rcases eq_or_exists_inside h with rfl | ⟨z, hz, hy⟩
      · exact .inl List.mem_cons_self
      · exact .inr ⟨z, List.mem_append_left _ hz, hy⟩
    · rcases mem_or_exists_inside h with hroot | ⟨z, hz, hy⟩
      · exact .inl (List.mem_cons_of_mem x hroot)
      · exact .inr ⟨z, List.mem_append_right _ hz, hy⟩

end

/-! ## What one rule records -/

/-- What the entries of a rule have in common. -/
def heading (r : Rule) (outer : String) : Entry :=
  { rule := r.name, gate := r.gate, group := outer, description := r.describe }

variable {stage : Stage} {outer : String} {text : Text}

theorem faithful_of_not_admits {r : Rule} (h : r.admits stage = false) :
    Faithful stage (.node r { heading r outer with skip := .stageMismatch } []) where
  identifies := ⟨rfl, rfl, rfl⟩
  inside_eq := rfl
  group_inside := by simp [inside]
  fired_iff_matchCount := by simp [entry, heading]
  fired_iff_skip := by simp [entry, heading]
  prepend_of_inserted h := absurd rfl h
  group_of_probeFailed h := by cases h
  substitute_of_noMatch h := by cases h
  stageMismatch_iff := iff_of_true rfl h

theorem faithful_substitute {r : Substitution} (h : r.gate.admits stage = true) (count : Nat) :
    Faithful stage (.node (.substitute r) { heading (.substitute r) outer with
      fired := 0 < count, matchCount := count
      skip := if count = 0 then .noMatch else .none } []) where
  identifies := ⟨rfl, rfl, rfl⟩
  inside_eq := by simp [inside, Rule.inner, rule]
  group_inside := by simp [inside]
  fired_iff_matchCount := by simp [entry]; omega
  fired_iff_skip := by
    simp only [entry, decide_eq_true_eq, Nat.pos_iff_ne_zero]
    by_cases hc : count = 0 <;> simp [hc]
  prepend_of_inserted h := absurd rfl h
  group_of_probeFailed h := by by_cases hc : count = 0 <;> simp [entry, hc] at h
  substitute_of_noMatch _ := ⟨r, rfl⟩
  stageMismatch_iff := by
    have : (Rule.substitute r).admits stage = true := h
    by_cases hc : count = 0 <;> simp [entry, rule, hc, this]

theorem faithful_prepend {r : Prepend} (h : r.gate.admits stage = true) :
    Faithful stage (.node (.prepend r) { heading (.prepend r) outer with
      fired := true, matchCount := 1, inserted := r.directive } []) where
  identifies := ⟨rfl, rfl, rfl⟩
  inside_eq := rfl
  group_inside := by simp [inside]
  fired_iff_matchCount := iff_of_true rfl (Int.le_refl 1)
  fired_iff_skip := iff_of_true rfl rfl
  prepend_of_inserted _ := ⟨rfl, r, rfl, rfl⟩
  group_of_probeFailed h := by cases h
  substitute_of_noMatch h := by cases h
  stageMismatch_iff := by
    have : (Rule.prepend r).admits stage = true := h
    simp [entry, rule, heading, this]

theorem faithful_probeFailed {r : Rule} (h : r.admits stage = true) (hgroup : r.isGroup = true) :
    Faithful stage (.node r { heading r outer with skip := .probeFailed } []) where
  identifies := ⟨rfl, rfl, rfl⟩
  inside_eq := rfl
  group_inside := by simp [inside]
  fired_iff_matchCount := by simp [entry, heading]
  fired_iff_skip := by simp [entry, heading]
  prepend_of_inserted h := absurd rfl h
  group_of_probeFailed _ := hgroup
  substitute_of_noMatch h := by cases h
  stageMismatch_iff := by simp [entry, rule, h]

theorem faithful_fired {r : Rule} {forest : List Executed} {hits : Nat}
    (h : r.admits stage = true) (hhits : hits ≠ 0) (hrules : forest.map rule = r.inner)
    (hgroup : ∀ x ∈ forest, x.entry.group = r.name) :
    Faithful stage (.node r { heading r outer with fired := true, matchCount := hits } forest) where
  identifies := ⟨rfl, rfl, rfl⟩
  inside_eq := hrules
  group_inside := hgroup
  fired_iff_matchCount := iff_of_true rfl (by simp only [entry]; omega)
  fired_iff_skip := iff_of_true rfl rfl
  prepend_of_inserted h := absurd rfl h
  group_of_probeFailed h := by cases h
  substitute_of_noMatch h := by cases h
  stageMismatch_iff := by simp [entry, rule, heading, h]

/-! ## What a run records -/

/-- The forest lists the entries of the rules, run in the group of the given name. -/
structure Lists (forest : List Executed) (rules : List Rule) (stage : Stage) (outer : String)
    (entries : List Entry) : Prop where
  /-- The roots are the rules, one by one. -/
  roots : forest.map rule = rules
  /-- The roots were run in the group. -/
  group_roots : ∀ x ∈ forest, x.entry.group = outer
  /-- The entries are those of the nodes, in preorder. -/
  entries_eq : (preorderAll forest).map entry = entries
  /-- Every entry says of its rule what came of it. -/
  faithful : ∀ x ∈ preorderAll forest, x.Faithful stage
  /-- No rule was executed but those of the list and those inside them. -/
  rule_mem : ∀ x ∈ preorderAll forest, x.rule ∈ Rule.nestedAll rules

theorem lists_nil : Lists [] [] stage outer [] where
  roots := rfl
  group_roots := by simp
  entries_eq := rfl
  faithful := by simp [preorderAll]
  rule_mem := by simp [preorderAll]

theorem Lists.append {xs ys : List Executed} {rs qs : List Rule} {es fs : List Entry}
    (h : Lists xs rs stage outer es) (h' : Lists ys qs stage outer fs) :
    Lists (xs ++ ys) (rs ++ qs) stage outer (es ++ fs) := by
  have preorder_append (xs ys : List Executed) :
      preorderAll (xs ++ ys) = preorderAll xs ++ preorderAll ys := by
    induction xs with
    | nil => rfl
    | cons x xs ih => simp [preorderAll, ih]
  have nested_append (rs qs : List Rule) :
      Rule.nestedAll (rs ++ qs) = Rule.nestedAll rs ++ Rule.nestedAll qs := by
    induction rs with
    | nil => rfl
    | cons r rs ih => simp [Rule.nestedAll, ih]
  refine ⟨?_, ?_, ?_, ?_, ?_⟩
  · rw [List.map_append, h.roots, h'.roots]
  · intro x hx
    exact (List.mem_append.1 hx).elim (h.group_roots x) (h'.group_roots x)
  · rw [preorder_append, List.map_append, h.entries_eq, h'.entries_eq]
  · intro x hx
    rw [preorder_append] at hx
    exact (List.mem_append.1 hx).elim (h.faithful x) (h'.faithful x)
  · intro x hx
    rw [preorder_append] at hx
    rw [nested_append]
    exact (List.mem_append.1 hx).elim (fun hx ↦ List.mem_append_left _ (h.rule_mem x hx))
      fun hx ↦ List.mem_append_right _ (h'.rule_mem x hx)

theorem lists_leaf {r : Rule} {e : Entry} (h : Faithful stage (.node r e []))
    (hgroup : e.group = outer) : Lists [.node r e []] [r] stage outer [e] where
  roots := rfl
  group_roots := by simpa [entry] using hgroup
  entries_eq := rfl
  faithful := by simpa [preorderAll, preorder] using h
  rule_mem := by simpa [preorderAll, preorder, Rule.nestedAll, rule] using r.self_mem_nested

theorem exists_lists_of_not_admits {r : Rule} (h : r.admits stage = false) (outer : String)
    (text : Text) : ∃ forest, Lists forest [r] stage outer (r.apply stage outer text).entries := by
  rw [Rule.apply_of_not_admits h]
  exact ⟨_, lists_leaf (faithful_of_not_admits h) rfl⟩

/-- A group that took effect makes one entry, and then come those of its rules. -/
theorem lists_fired {r : Rule} {hits : Nat} {forest : List Executed} {es : List Entry}
    (hgate : r.admits stage = true) (hhits : hits ≠ 0)
    (h : Lists forest r.inner stage r.name es) :
    Lists [.node r { heading r outer with fired := true, matchCount := hits } forest] [r] stage
      outer ({ heading r outer with fired := true, matchCount := hits } :: es) where
  roots := rfl
  group_roots := by simp [entry, heading]
  entries_eq := by simp [preorderAll, preorder, entry, h.entries_eq]
  faithful := by
    simp only [preorderAll, preorder, List.append_nil, List.forall_mem_cons]
    exact ⟨faithful_fired hgate hhits h.roots h.group_roots, h.faithful⟩
  rule_mem := by
    simp only [preorderAll, preorder, List.append_nil, List.forall_mem_cons, Rule.nestedAll]
    exact ⟨r.self_mem_nested, fun x hx ↦ r.nestedAll_inner_subset (h.rule_mem x hx)⟩

end Executed

open Executed (Lists)

variable {stage : Stage}

mutual

/-- A rule that can be applied records itself and, if it is a group that takes effect, its rules. -/
theorem Rule.exists_lists : ∀ (r : Rule) (outer : String) (text : Text),
    (r.apply stage outer text).fault = none →
      ∃ forest, Lists forest [r] stage outer (r.apply stage outer text).entries
  | .substitute r, outer, text => by
    intro h
    by_cases hgate : r.gate.admits stage = true
    · rw [Rule.apply, Substitution.apply, if_pos hgate] at h ⊢
      split at h
      · cases h
      · exact ⟨_, Executed.lists_leaf (Executed.faithful_substitute hgate _) rfl⟩
    · have hclosed : (Rule.substitute r).admits stage = false := Bool.eq_false_iff.2 hgate
      exact Executed.exists_lists_of_not_admits hclosed outer text
  | .prepend r, outer, text => by
    intro h
    by_cases hgate : r.gate.admits stage = true
    · rw [Rule.apply, Prepend.apply, if_pos hgate]
      exact ⟨_, Executed.lists_leaf (Executed.faithful_prepend hgate) rfl⟩
    · have hclosed : (Rule.prepend r).admits stage = false := Bool.eq_false_iff.2 hgate
      exact Executed.exists_lists_of_not_admits hclosed outer text
  | .group name probe gate description rules, outer, text => by
    intro h
    by_cases hgate : gate.admits stage = true
    · rw [Rule.apply, if_pos hgate] at h ⊢
      by_cases hhits : probe.count text = 0
      · rw [if_pos hhits]
        exact ⟨_, Executed.lists_leaf (Executed.faithful_probeFailed hgate rfl) rfl⟩
      · rw [if_neg hhits, Run.andThen_of_ok] at h ⊢
        obtain ⟨forest, hforest⟩ := exists_listsAll rules name text h
        exact ⟨_, Executed.lists_fired hgate hhits hforest⟩
    · have hclosed : (Rule.group name probe gate description rules).admits stage = false :=
        Bool.eq_false_iff.2 hgate
      exact Executed.exists_lists_of_not_admits hclosed outer text

/-- Rules that can be applied record themselves, one after the other. -/
theorem Rule.exists_listsAll : ∀ (rules : List Rule) (outer : String) (text : Text),
    (applyAll rules stage outer text).fault = none →
      ∃ forest, Lists forest rules stage outer (applyAll rules stage outer text).entries
  | [], outer, text => fun _ ↦ ⟨[], Executed.lists_nil⟩
  | r :: rs, outer, text => by
    intro h
    rw [applyAll, Run.andThen] at h ⊢
    cases hfault : (r.apply stage outer text).fault with
    | some fault =>
      rw [hfault] at h
      rw [hfault] at h
      cases h
    | none =>
      rw [hfault] at h
      obtain ⟨first, hfirst⟩ := exists_lists r outer text hfault
      obtain ⟨others, hothers⟩ := exists_listsAll rs outer _ h
      exact ⟨first ++ others, hfirst.append hothers⟩

end

/-! ## The ledger of a conversion -/

namespace Executed

variable {forest : List Executed} {rules : List Rule} {outer : String} {entries : List Entry}

/-- There is an entry for each rule of the list, and one for each rule of a group that took
effect. -/
theorem Lists.length_eq (h : Lists forest rules stage outer entries) :
    entries.length = rules.length +
      ((firedGroups forest).map fun x ↦ x.rule.inner.length).sum := by
  -- only groups that took effect have anything below them, and that is all their rules
  have hinside {x : Executed} (hx : x.Faithful stage) :
      x.inside.length = if x.entry.fired && x.rule.isGroup then x.rule.inner.length else 0 := by
    have := congrArg List.length hx.inside_eq
    rw [List.length_map] at this
    rw [this]
    cases x.entry.fired <;> cases x.rule <;> rfl
  have hsum (xs : List Executed) (hxs : ∀ x ∈ xs, x.Faithful stage) :
      (xs.map fun x ↦ x.inside.length).sum =
        ((xs.filter fun x ↦ x.entry.fired && x.rule.isGroup).map
          fun x ↦ x.rule.inner.length).sum := by
    induction xs with
    | nil => rfl
    | cons x xs ih =>
      obtain ⟨hx, hxs⟩ := List.forall_mem_cons.1 hxs
      rw [List.map_cons, List.sum_cons, hinside hx, ih hxs, List.filter_cons]
      split
      · rw [List.map_cons, List.sum_cons]
      · rw [Nat.zero_add]
  rw [← h.entries_eq, List.length_map, length_preorderAll, ← h.roots, List.length_map,
    hsum _ h.faithful, firedGroups]

theorem Lists.filter_group (h : Lists forest rules stage "" entries)
    (hnames : ∀ r ∈ Rule.nestedAll rules, r.name ≠ "") :
    entries.filter (·.group = ("" : CodeString)) = forest.map entry := by
  have hbelow {x y : Executed} (hx : x ∈ preorderAll forest) (hy : y ∈ x.inside) :
      y.entry.group ≠ ("" : CodeString) := by
    rw [(h.faithful x hx).group_inside y hy, Ne, CodeString.ofString_inj]
    exact hnames _ (h.rule_mem x hx)
  have key (xs : List Executed) (hxs : preorderAll xs ⊆ preorderAll forest)
      (hroots : ∀ x ∈ xs, x.entry.group = ("" : CodeString)) :
      ((preorderAll xs).map entry).filter (·.group = ("" : CodeString)) = xs.map entry := by
    induction xs with
    | nil => rfl
    | cons x xs ih =>
      obtain ⟨hx, hroots⟩ := List.forall_mem_cons.1 hroots
      rw [preorderAll, preorder_eq] at hxs
      have hinside : ((preorderAll x.inside).map entry).filter
          (·.group = ("" : CodeString)) = [] := by
        rw [List.filter_eq_nil_iff]
        intro e he
        obtain ⟨y, hy, rfl⟩ := List.mem_map.1 he
        rw [decide_eq_true_eq]
        rcases mem_or_exists_inside hy with hroot | ⟨z, hz, hyz⟩
        · exact hbelow (hxs (by simp)) hroot
        · exact hbelow (hxs (by simp [hz])) hyz
      rw [preorderAll, preorder_eq, List.cons_append, List.map_cons, List.map_append,
        List.filter_cons_of_pos (by simpa using hx), List.filter_append, hinside, List.nil_append,
        ih (fun y hy ↦ hxs (by simp [hy])) hroots, List.map_cons]
  rw [← h.entries_eq]
  exact key forest (fun _ hx ↦ hx) h.group_roots

end Executed

open Executed in
/-- The forest is what the conversion has executed, as its ledger tells. -/
structure Conversion.TracedBy (c : Conversion) (rules : List Rule) (forest : List Executed) :
    Prop where
  /-- The ledger lists the forest in preorder. -/
  lists : Lists forest rules c.stage "" c.ledger.entries
  /-- The entries without a group are those of the roots. -/
  top_eq : c.ledger.entries.filter (·.group = ("" : CodeString)) = forest.map entry
  /-- There is one of them for each rule of the chain, in order. -/
  top_rules : (c.ledger.entries.filter (·.group = ("" : CodeString))).map Entry.rule =
    rules.map fun r ↦ (r.name : CodeString)
  /-- There is an entry for each rule of the chain, and for each rule of a group each time the group
  took effect. -/
  size_eq : c.ledger.size = rules.length +
    ((firedGroups forest).map fun x ↦ x.rule.inner.length).sum

/-- **The ledger is a trace.** If all rules have names and can be applied, then the ledger of a
conversion lists the rules that were executed, each group that took effect directly followed by
what was executed inside it. -/
theorem Conversion.exists_forest {rules : List Rule} {stage : Stage} {source : Text}
    (hnames : ∀ r ∈ Rule.nestedAll rules, r.name ≠ "")
    (happlied : (Rule.applyAll rules stage "" source).fault = none) :
    ∃ c forest, Conversion.run rules false stage source = .ok c ∧ c.TracedBy rules forest := by
  obtain ⟨forest, h⟩ := Rule.exists_listsAll rules "" source happlied
  have htop := h.filter_group hnames
  refine ⟨_, forest, run_plain happlied, h, htop, ?_, h.length_eq⟩
  have hroot (x : Executed) (hx : x ∈ forest) : x.entry.rule = (x.rule.name : CodeString) :=
    (h.faithful x (Executed.subset_preorderAll forest hx)).identifies.1
  calc ((Rule.applyAll rules stage "" source).entries.filter
        (·.group = ("" : CodeString))).map Entry.rule
      = forest.map fun x ↦ (x.rule.name : CodeString) := by
        rw [htop, List.map_map]
        exact List.map_congr_left hroot
    _ = rules.map fun r ↦ (r.name : CodeString) := by
        rw [← h.roots, List.map_map]
        rfl

/-- A group within a group that has rules of the same names. -/
theorem Conversion.exists_forest_nested :
    let rules : List Rule :=
      [.group "FragDepthOutput" (.ofWord "gl_FragDepth") .always ""
        [Chain.singleRename, Chain.depthOutput, Chain.indexedOutputs], Chain.singleRename]
    let source := "gl_FragDepth = out_FragColor.x;".toList
    (∀ r ∈ Rule.nestedAll rules, r.name ≠ "") ∧
      (Rule.applyAll rules .fragment "" source).fault = none ∧
      ∃ c forest, Conversion.run rules false .fragment source = .ok c ∧
        c.TracedBy rules forest := by
  have hnames : ∀ r ∈ Rule.nestedAll [.group "FragDepthOutput" (.ofWord "gl_FragDepth") .always ""
      [Chain.singleRename, Chain.depthOutput, Chain.indexedOutputs], Chain.singleRename],
      r.name ≠ "" := by decide
  have happlied : (Rule.applyAll [.group "FragDepthOutput" (.ofWord "gl_FragDepth") .always ""
      [Chain.singleRename, Chain.depthOutput, Chain.indexedOutputs], Chain.singleRename]
      .fragment "" "gl_FragDepth = out_FragColor.x;".toList).fault = none := by decide +kernel
  exact ⟨hnames, happlied, exists_forest hnames happlied⟩

end ShaderDowngrade
