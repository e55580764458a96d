import ShaderDowngrade.Proofs.Chain.Directives
import ShaderDowngrade.Proofs.Pattern.Numbered

/-!
# The numbers of the outputs

The group for numbered outputs deletes layout declarations and renames what is left. If the
declarations stand at the starts of lines, then nothing is joined across a deletion, and each
numbered output is either deleted with its declaration or renamed: the counts that the group records
add up, and the numbers that are left come out in their order.

Main statement: `Chain.indexedOutputs_conserves_numbers`.

## Where the text can be cut

A numbered output goes on neither beyond a newline nor beyond a semicolon. In front of a declaration
that begins a line there is a newline, and the declaration ends in a semicolon, so the matches in
the text are those before the declaration, the one in it, and those behind it. After the deletion
the newline is still there.
-/

namespace ShaderDowngrade

namespace Pattern

/-- An element of the legacy outputs, remembering its number. -/
def indexedElement : Pattern :=
  ⟨"gl_FragData\\[([0-9]+)\\]",
    .seqAll (chars "gl_FragData[" ++ [.group 1 (.seqAll [digits]), .char ']'])⟩

example : read indexedElement.spelling = .ok indexedElement := by cbv

theorem expr_indexedElement :
    indexedElement.expr = .numbered "gl_FragData[".toList "]".toList := rfl

theorem nil_notMem_words_indexedOutput : [] ∉ indexedOutput.words :=
  nil_notMem_words_of_expr_eq_numbered expr_indexedOutput

/-- What a layout declaration begins with, up to the output that it declares. -/
def layoutHeader (d : Text) : Text := "layout (location = ".toList ++ d ++ ") vec4 ".toList

/-- Shapes of such beginnings. -/
def layoutHeaders : List Shape :=
  Shape.joined (Shape.joined [.ofWord "layout (location = ".toList] digits.shapes)
    [.ofWord ") vec4 ".toList]

theorem layoutHeader_mem_words {d : Text} (hd : d ∈ digits.language) :
    layoutHeader d ∈ Shape.words layoutHeaders :=
  Shape.append_mem_words (Shape.append_mem_words (by simp) (Expr.language_subset _ hd)) (by simp)

theorem mem_words_indexedLayout_iff_header {l : Text} : l ∈ indexedLayout.words ↔
    ∃ d ∈ digits.language, ∃ d' ∈ digits.language,
      l = layoutHeader d ++ ("out_FragData_".toList ++ d') ++ [';'] := by
  have hword : ") vec4 out_FragData_".toList = ") vec4 ".toList ++ "out_FragData_".toList := by
    decide
  have hclose : ";".toList = [';'] := by decide
  rw [mem_words_indexedLayout, hword, hclose]
  unfold layoutHeader
  simp only [List.append_assoc]

theorem leads_layoutHeader {d d' : Text} (hd : d ∈ digits.language) (hd' : d' ∈ digits.language) :
    indexedOutput.Leads (layoutHeader d) ⟨"out_FragData_".toList ++ d', [(1, d')]⟩ [';'] := by
  have hkeeps : indexedOutput.Keeps (layoutHeader d) :=
    keeps_of_outside (by rfl) ((Shape.outside_words (by decide +kernel)).mono
      indexedOutput.words_subset (Set.singleton_subset_iff.2 (layoutHeader_mem_words hd)))
  obtain ⟨hne, hdigits⟩ := Expr.mem_language_digits.1 hd'
  have hbehind : ∀ c ∈ ([] ++ [';'] : Text).head?, c.isDigit = false := by simp
  have hmatch := Expr.matchAt_numbered (w := "out_FragData_".toList) hne hdigits hbehind
  rw [List.append_nil, ← expr_indexedOutput] at hmatch
  rw [Leads, List.append_assoc, hkeeps,
    pieces_append_of_eq_some (m := ⟨_, _⟩) (by rfl) (by simp) hmatch]

theorem spans_of_mem_indexedLayout {l : Text} (h : l ∈ indexedLayout.words) (n : Nat) :
    l.getLast? = some ';' ∧
      ∃ s, indexedOutput.spans n l = [s] ∧ n < s.stop ∧ s.start < n + l.length := by
  obtain ⟨d, hd, d', hd', rfl⟩ := mem_words_indexedLayout_iff_header.1 h
  have hlast (n : Nat) : indexedOutput.spans n [';'] = [] := by
    rw [spans, show indexedOutput.pieces [';'] = [';'].map .kept by cbv, Piece.spans_map_kept]
  have hspans := (leads_layoutHeader hd hd').spans_eq n
  rw [hlast] at hspans
  refine ⟨List.getLast?_concat, _, hspans, ?_⟩
  have hpos := List.length_pos_iff.2 (Expr.mem_language_digits.1 hd').1
  simp only [Span.stop, List.length_append]
  omega

theorem cutsAt_indexedOutput : indexedOutput.CutsAt '\n' ∧ indexedOutput.CutsAt ';' :=
  ⟨cutsAt_of_stops (by rfl) (by rfl) nil_notMem_words_indexedOutput,
    cutsAt_of_stops (by rfl) (by rfl) nil_notMem_words_indexedOutput⟩

end Pattern

namespace Text

variable {X : Set Text} {a b : Text}

theorem StartsLines.of_append (h : StartsLines X (a ++ b)) : StartsLines X b := by
  intro u x v hx hb
  by_cases hu : u = []
  · exact .inl hu
  · refine .inr (h.getLast?_eq_newline hx hu ⟨a, v, ?_⟩)
    rw [hb]
    simp

end Text

/-- The match does not overlap the stretch. -/
def Span.misses (s : Span) (start stop : Nat) : Bool := stop ≤ s.start || s.stop ≤ start

theorem Span.misses_iff {s : Span} {start stop : Nat} :
    s.misses start stop = true ↔ stop ≤ s.start ∨ s.start + s.found.text.length ≤ start := by
  rw [misses, Bool.or_eq_true, decide_eq_true_eq, decide_eq_true_eq, Span.stop]

namespace Chain

variable {t : Text}

open Pattern (indexedOutput indexedLayout indexedElement)

/-- The text without its layout declarations. -/
def unlaid (t : Text) : Text := indexedLayout.replaceWith (fun _ ↦ []) t

/-- What a numbered output becomes. -/
def element (m : Match) : Text := "gl_FragData[".toList ++ m.group 1 ++ "]".toList

/-! ## Deleting the declarations -/

/-- The numbered outputs that do not overlap a layout declaration. -/
def freeOutputs (n : Nat) (t : Text) : List Span :=
  (indexedOutput.spans n t).filter fun s ↦
    (indexedLayout.spans n t).all (·.misses s.start s.stop)

/-- The output in a declaration is not free, and those on both sides of it are free if they are on
their own. -/
theorem freeOutputs_of_leads {a : Text} {m : Match} {n : Nat} {s : Span}
    (hleads : indexedLayout.Leads a m t)
    (houtputs : indexedOutput.spans n (a ++ m.text ++ t) = indexedOutput.spans n a ++ [s] ++
      indexedOutput.spans (n + a.length + m.text.length) t)
    (hstop : n + a.length < s.stop) (hstart : s.start < n + a.length + m.text.length) :
    freeOutputs n (a ++ m.text ++ t) =
      indexedOutput.spans n a ++ freeOutputs (n + a.length + m.text.length) t := by
  rw [freeOutputs, houtputs, hleads.spans_eq, List.filter_append, List.filter_append]
  have hbefore (r : Span) (hr : r ∈ indexedOutput.spans n a) :
      (⟨n + a.length, m⟩ :: indexedLayout.spans (n + a.length + m.text.length) t).all
        (·.misses r.start r.stop) = true := by
    have hbounds := Pattern.bounds_of_mem_spans hr
    rw [List.all_cons, Bool.and_eq_true, List.all_eq_true]
    refine ⟨Span.misses_iff.2 (.inl hbounds.2), fun l hl ↦ Span.misses_iff.2 (.inl ?_)⟩
    have hlbounds := Pattern.bounds_of_mem_spans hl
    omega
  have hinside : ¬ (⟨n + a.length, m⟩ : Span).misses s.start s.stop = true := by
    rw [Span.misses_iff]
    dsimp only
    omega
  have hbehind (r : Span) (hr : r ∈ indexedOutput.spans (n + a.length + m.text.length) t) :
      (⟨n + a.length, m⟩ : Span).misses r.start r.stop = true := by
    exact Span.misses_iff.2 (.inr (Pattern.bounds_of_mem_spans hr).1)
  rw [List.filter_eq_self.2 hbefore, List.filter_cons_of_neg (by simp [hinside]), List.filter_nil,
    List.append_nil, freeOutputs]
  refine congrArg _ (List.filter_congr fun r hr ↦ ?_)
  rw [List.all_cons, hbehind r hr, Bool.true_and]

/-- If the declarations stand at the starts of lines, then each numbered output is in one of them,
or is kept by the deletion. -/
theorem outputs_of_startsLines (hlines : Text.StartsLines indexedLayout.words t) (n : Nat) :
    (freeOutputs n t).map Span.found = indexedOutput.allMatches (unlaid t) ∧
      indexedOutput.count t = indexedLayout.count t + indexedOutput.count (unlaid t) := by
  have hplain : indexedLayout.expr.Plain = true := by rfl
  have hne : [] ∉ indexedLayout.words := Pattern.nil_notMem_words (by rfl)
  have hnil := Pattern.nil_notMem_words_indexedOutput
  obtain ⟨newline, semicolon⟩ := Pattern.cutsAt_indexedOutput
  induction t using Pattern.match_induction hplain hne generalizing n with
  | none t hpieces =>
    have hspans (n : Nat) : indexedLayout.spans n t = [] := by
      rw [Pattern.spans, hpieces, Piece.spans_map_kept]
    have hunlaid : unlaid t = t := by
      rw [unlaid, Pattern.replaceWith, hpieces, List.flatMap_map]
      exact List.flatMap_singleton' t
    rw [hunlaid, freeOutputs, hspans, ← Pattern.length_spans indexedLayout n, hspans]
    refine ⟨?_, (Nat.zero_add _).symm⟩
    rw [← Pattern.map_found_spans indexedOutput n]
    simp
  | found a m t hm hleads ih =>
    have ha : a = [] ∨ a.getLast? = some '\n' := hlines ⟨_, hm⟩ rfl
    obtain ⟨hfree, hcount⟩ := ih hlines.of_append (n + a.length + m.text.length)
    obtain ⟨hlast, s, hs, hstop, hstart⟩ :=
      Pattern.spans_of_mem_indexedLayout ⟨_, hm⟩ (n + a.length)
    have houtputs : indexedOutput.spans n (a ++ m.text ++ t) = indexedOutput.spans n a ++ [s] ++
        indexedOutput.spans (n + a.length + m.text.length) t := by
      rw [List.append_assoc, newline.spans_append hnil ha, semicolon.spans_append hnil (.inr hlast),
        hs, List.append_assoc]
    have hkept : unlaid (a ++ m.text ++ t) = a ++ unlaid t := by
      rw [unlaid, hleads.replaceWith_eq, List.append_nil, unlaid]
    have hunlaid (n : Nat) : indexedOutput.spans n (a ++ unlaid t) =
        indexedOutput.spans n a ++ indexedOutput.spans (n + a.length) (unlaid t) :=
      newline.spans_append hnil ha n (unlaid t)
    have hfreeOutputs := freeOutputs_of_leads hleads houtputs hstop hstart
    constructor
    · rw [hkept, hfreeOutputs, List.map_append, hfree, Pattern.map_found_spans,
        ← Pattern.map_found_spans indexedOutput 0 (a ++ unlaid t), hunlaid, List.map_append,
        Pattern.map_found_spans, Pattern.map_found_spans]
    · rw [hkept, ← Pattern.length_spans indexedOutput n, houtputs,
        ← Pattern.length_spans indexedLayout n, hleads.spans_eq,
        ← Pattern.length_spans indexedOutput n (a ++ unlaid t), hunlaid]
      simp only [List.length_append, List.length_cons, List.length_nil, Pattern.length_spans]
      omega

/-! ## Renaming what is left -/

/-- The numbers of the outputs are those of the elements that they become, if the text has no
element yet. -/
theorem numbers_renamed (h : ¬ "gl_FragData[".toList <:+: t) :
    (indexedElement.allMatches (indexedOutput.replaceWith element t)).map (·.group 1) =
      (indexedOutput.allMatches t).map (·.group 1) := by
  have hreach : Text.ReachesBy ∅ (Shape.words [.ofWord "gl_FragData[".toList])
      (Shape.words Exchange.indexed.put) := Shape.reachesBy_of_stubs_eq_nil (by cbv)
  rw [Shape.words_ofWord] at hreach
  exact Pattern.numbers_replaceWith (d := ']') Pattern.expr_indexedOutput
    Pattern.expr_indexedElement rfl (by rfl) hreach h

/-! ## The group -/

/-- The numbers of the outputs that are named outside layout declarations. -/
def freeNumbers (t : Text) : List Text :=
  let word := "out_FragData_".toList
  ((Text.numbersBehind word 0 t).filter fun k ↦ (indexedLayout.spans 0 t).all
    (·.misses k.1 (k.1 + word.length + k.2.length))).map Prod.snd

theorem numbersBehind_eq (t : Text) : Text.numbersBehind "out_FragData_".toList 0 t =
    (indexedOutput.spans 0 t).map fun s ↦ (s.start, s.found.group 1) :=
  (Pattern.map_spans_of_expr_eq_numbered Pattern.expr_indexedOutput (by decide) (by decide +kernel)
    0 t).symm

theorem freeNumbers_eq (t : Text) :
    freeNumbers t = ((freeOutputs 0 t).map Span.found).map (·.group 1) := by
  rw [freeNumbers, numbersBehind_eq, List.filter_map, List.map_map, List.map_map, freeOutputs]
  refine congrArg _ (List.filter_congr fun s hs ↦ ?_)
  have hspells := Pattern.spells_of_mem_spans (by rfl) Pattern.nil_notMem_words_indexedOutput hs
  obtain ⟨-, htext⟩ := Pattern.spells_indexedOutput hspells
  rw [Function.comp_apply, Span.stop, htext, List.length_append, ← Nat.add_assoc]

theorem keeps_directive {p : Pattern} (hp : p ∈ soughtLate) :
    p.Keeps (directiveLine drawBuffersDirective) :=
  keeps_of_mem_soughtLate hp _ (by simp [directivesInUse])

theorem indexedOutputs_output_eq (h : indexedOutput.occursIn t = true) :
    indexedOutputs.output .fragment t =
      directiveLine drawBuffersDirective ++ indexedOutput.replaceWith element (unlaid t) := by
  have hlayout := keeps_directive (p := indexedLayout) (by simp [soughtLate])
  have houtput := keeps_directive (p := indexedOutput) (by simp [soughtLate])
  rw [indexedOutputs_output, if_pos h, replaces_indexedLayoutRemoval.output_eq,
    replaces_indexedRename.output_eq]
  exact (congrArg _ (hlayout.replaceWith_append _ t)).trans (houtput.replaceWith_append _ _)

theorem numbers_indexedOutputs (h : indexedOutput.occursIn t = true)
    (hlines : Text.StartsLines indexedLayout.words t)
    (helement : Text.includes t "gl_FragData[".toList = false) :
    (indexedElement.allMatches (indexedOutputs.output .fragment t)).map (·.group 1) =
      freeNumbers t := by
  have hunlaid : Text.includes (unlaid t) "gl_FragData[".toList = false := by
    have hrewrites := Pattern.rewrites_replaceWith (p := indexedLayout) (by rfl)
      (Pattern.nil_notMem_words (by rfl)) (fun _ ↦ []) t
    rw [← Bool.not_eq_true, ← Text.occurs_singleton] at helement ⊢
    exact fun hd ↦ helement (occurs_of_unlaid hrewrites hlines (Shape.words_ofWord _).ge (by decide)
      (by cbv) hd)
  have hdirective :
      ¬ "gl_FragData[".toList <:+: directiveLine drawBuffersDirective ++ unlaid t := by
    rw [← Text.includes_iff, Bool.not_eq_true]
    exact (exchanged_prependDirective drawBuffersDirective _).includes_eq_false (by cbv) hunlaid
  have houtput := keeps_directive (p := indexedOutput) (by simp [soughtLate])
  rw [indexedOutputs_output_eq h, ← houtput.replaceWith_append, numbers_renamed hdirective,
    houtput.allMatches_append, freeNumbers_eq, (outputs_of_startsLines hlines 0).1]

/-- What the group records if there is a numbered output. -/
theorem entries_indexedOutputs (h : indexedOutput.occursIn t = true) (outer : String) :
    ∃ group directive removal rename : Entry,
      (indexedOutputs.apply .fragment outer t).entries = [group, directive, removal, rename] ∧
      (group.rule = "DrawBuffersOutputs" ∧ group.fired = true ∧
        group.matchCount = indexedOutput.count t) ∧
      (directive.rule = "DrawBuffersDirective" ∧ directive.matchCount = 1) ∧
      (removal.rule = "FragDataLayoutRemoval" ∧ removal.matchCount = indexedLayout.count t) ∧
      rename.rule = "FragDataRename" ∧ rename.matchCount = indexedOutput.count (unlaid t) := by
  have hlayout := keeps_directive (p := indexedLayout) (by simp [soughtLate])
  have houtput := keeps_directive (p := indexedOutput) (by simp [soughtLate])
  have hgroup : ∃ e : Entry, indexedOutputs.apply .fragment outer t =
        { Rule.applyAll [drawBuffersPrepend, indexedLayoutRemoval, indexedRename] .fragment
            "DrawBuffersOutputs" t with
          entries := e :: (Rule.applyAll [drawBuffersPrepend, indexedLayoutRemoval, indexedRename]
            .fragment "DrawBuffersOutputs" t).entries } ∧
      e.rule = "DrawBuffersOutputs" ∧ e.matchCount = indexedOutput.count t ∧ e.fired = true :=
    Rule.apply_group_of_occursIn rfl h outer
  have hprepend : drawBuffersPrepend.Records .fragment t 1 := Rule.records_prepend rfl t
  have hnothing : Template.read indexedLayout.expr.groupCount [] = .ok [] := rfl
  have hremoval (t : Text) : indexedLayoutRemoval.Records .fragment t (indexedLayout.count t) :=
    Substitution.records hnothing rfl t
  have hrename (t : Text) : indexedRename.Records .fragment t (indexedOutput.count t) :=
    Substitution.records (by rfl) rfl t
  have hdirectived : drawBuffersPrepend.output .fragment t =
      directiveLine drawBuffersDirective ++ t := (Rule.apply_prepend rfl).1
  have hremoved : indexedLayoutRemoval.output .fragment (directiveLine drawBuffersDirective ++ t) =
      directiveLine drawBuffersDirective ++ unlaid t := by
    rw [replaces_indexedLayoutRemoval.output_eq, hlayout.replaceWith_append, unlaid]
  obtain ⟨group, happly, hgroupRule, hgroupCount, hfired⟩ := hgroup
  obtain ⟨directive, hfirst, hdirectiveRule, hdirectiveCount, -⟩ := hprepend "DrawBuffersOutputs"
  rw [hdirectived] at hfirst
  obtain ⟨removal, hsecond, hremovalRule, hremovalCount, -⟩ :=
    hremoval (directiveLine drawBuffersDirective ++ t) "DrawBuffersOutputs"
  rw [hremoved] at hsecond
  rw [hlayout.count_append] at hremovalCount
  obtain ⟨rename, hthird, hrenameRule, hrenameCount, -⟩ :=
    hrename (directiveLine drawBuffersDirective ++ unlaid t) "DrawBuffersOutputs"
  rw [houtput.count_append] at hrenameCount
  refine ⟨group, directive, removal, rename, ?_, ⟨hgroupRule, hfired, hgroupCount⟩,
    ⟨hdirectiveRule, hdirectiveCount⟩, ⟨hremovalRule, hremovalCount⟩, hrenameRule, hrenameCount⟩
  simp only [happly, Rule.applyAll, hfirst, hsecond, hthird, Run.andThen_of_ok,
    List.singleton_append]

/-- **The group conserves the numbers of the outputs**, if the layout declarations stand at the
starts of lines. Without a numbered output it does nothing. Otherwise every numbered output is
deleted with its declaration or renamed, the counts that the group records add up, and in a text
without elements the elements afterwards have the numbers of the outputs outside declarations, in
their order. -/
theorem indexedOutputs_conserves_numbers (hlines : LayoutsStartLines t) (outer : String) :
    (indexedOutputs.apply .fragment outer t).fault = none ∧
      (Pattern.anyIndexedOutput.occursIn t = false ∧
          (indexedOutputs.apply .fragment outer t).text = t ∧
          (∃ group : Entry, (indexedOutputs.apply .fragment outer t).entries = [group] ∧
            group.rule = "DrawBuffersOutputs" ∧ group.fired = false ∧ group.matchCount = 0) ∨
        Pattern.anyIndexedOutput.occursIn t = true ∧
          (∃ group directive removal rename : Entry,
            (indexedOutputs.apply .fragment outer t).entries =
              [group, directive, removal, rename] ∧
            group.rule = "DrawBuffersOutputs" ∧ group.fired = true ∧
            removal.rule = "FragDataLayoutRemoval" ∧ rename.rule = "FragDataRename" ∧
            group.matchCount = removal.matchCount + rename.matchCount ∧
            group.matchCount = (Text.numbersBehind "out_FragData_".toList 0 t).length ∧
            removal.matchCount = (indexedLayout.allMatches t).length) ∧
          (Text.includes t "gl_FragData[".toList = false →
            (indexedElement.allMatches (indexedOutputs.apply .fragment outer t).text).map
              (·.group 1) = freeNumbers t)) := by
  have hprobe := Pattern.occursIn_indexedOutput t
  obtain ⟨htext, hfault⟩ := Rule.apply_outer indexedOutputs .fragment outer t
  refine ⟨hfault.trans (applicable_indexedOutputs t), ?_⟩
  rw [htext]
  cases h : Pattern.anyIndexedOutput.occursIn t with
  | false =>
    have hrecords : indexedOutputs.Records .fragment t 0 :=
      Rule.records_group_of_not_occursIn rfl (hprobe.trans h)
    obtain ⟨group, happly, hname, hcount, hfired⟩ := hrecords outer
    have houtput : indexedOutputs.output .fragment t = t := by
      rw [indexedOutputs_output, hprobe, h, if_neg Bool.false_ne_true]
    exact .inl ⟨rfl, houtput, group, by rw [happly], hname, hfired, hcount⟩
  | true =>
    obtain ⟨group, directive, removal, rename, hentries, ⟨hgroup, hfired, hgroupCount⟩, -,
      ⟨hremoval, hremovalCount⟩, hrename, hrenameCount⟩ :=
        entries_indexedOutputs (hprobe.trans h) outer
    have hcount := (outputs_of_startsLines hlines.startsLines 0).2
    refine .inr ⟨rfl, ⟨group, directive, removal, rename, hentries, hgroup, hfired, hremoval,
      hrename, ?_, ?_, hremovalCount⟩,
      numbers_indexedOutputs (hprobe.trans h) hlines.startsLines⟩
    · rw [hgroupCount, hremovalCount, hrenameCount, hcount, Int.natCast_add]
    · rw [hgroupCount, numbersBehind_eq, List.length_map, Pattern.length_spans]

/-- Two declarations below each other, and two outputs in the other order. -/
theorem indexedOutputs_conserves_numbers_of_two :
    let source := "layout (location = 0) vec4 out_FragData_0;\n".toList ++
      "layout (location = 10) vec4 out_FragData_10;\n".toList ++
      "void main() \x7b out_FragData_10 = a; out_FragData_0 = b; \x7d".toList
    LayoutsStartLines source ∧ Pattern.anyIndexedOutput.occursIn source = true ∧
      (indexedElement.allMatches (indexedOutputs.apply .fragment "" source).text).map
        (·.group 1) = ["10".toList, "0".toList] := by
  intro source
  have hsource : LayoutsStartLines source ∧ Pattern.anyIndexedOutput.occursIn source = true ∧
      Text.includes source "gl_FragData[".toList = false ∧
      freeNumbers source = ["10".toList, "0".toList] := by
    decide +kernel
  obtain ⟨hlines, houtput, helement, hnumbers⟩ := hsource
  rcases (indexedOutputs_conserves_numbers hlines "").2 with ⟨hnone, -⟩ | ⟨-, -, hconserved⟩
  · rw [houtput] at hnone
    cases hnone
  · exact ⟨hlines, houtput, (hconserved helement).trans hnumbers⟩

end Chain

end ShaderDowngrade
