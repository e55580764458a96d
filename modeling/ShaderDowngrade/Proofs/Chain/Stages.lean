import ShaderDowngrade.Proofs.Chain.Idle

/-!
# Where the stage matters

The first rules do the same at both stages, so the two conversions of a source part at the text that
those rules leave. From there on the stages run different rules, two of them at the vertex stage and
six at the fragment stage, that rename, delete and put directives in front. Their results are the
same exactly if none of them finds anything.

Main statement: `Chain.downgrade_fragment_eq_iff`.

## Why nothing cancels out

There is a weight of characters that every rule of the fragment stage raises and every rule of the
vertex stage lowers. So if the results are the same, then neither is heavier nor lighter than the
text that both have come from, and no rule has taken effect.

An input becomes `varying` at one stage and `attribute` at the other, so the `y` weighs more than
nothing, and a `b` less. An output becomes `varying` at the vertex stage, so `out` weighs more than
that. Where a layout declaration is deleted, the text loses an equals sign. The directives have a
`b` too, which the number sign makes up for.
-/

namespace ShaderDowngrade

namespace Chain

open Text (weight)

variable {stage : Stage} {source t : Text}

/-! ## The first rules -/

theorem renamed_eq_renamed (s stage : Stage) (source : Text) :
    renamed s source = renamed stage source := by
  simp only [renamed_eq, replaces_versionDowngrade.output_eq, replaces_textureCall.output_eq,
    replaces_cubeSampling.output_eq]

/-! ## A weight that tells the stages apart -/

/-- The characters that weigh anything. -/
def leads : List (Char × ℤ) :=
  [('y', 1), ('u', 2), ('l', 3), ('b', -3), ('X', 1), ('#', 5), ('=', -20)]

/-- A weight of characters that the fragment stage raises and the vertex stage lowers. -/
def lead : Char → ℤ := byTable leads

theorem lead_eq_zero_of_repeatable {c : Char} (hc : repeatable c = true) : lead c = 0 := by
  have hleads : ∀ x ∈ leads, repeatable x.1 = false := by decide
  refine (byTable_eq_zero_or_mem leads c).resolve_right fun hmem ↦ ?_
  rw [hleads _ hmem] at hc
  cases hc

theorem liftsFragment_lead : LiftsFragment lead := by
  constructor
  case repeatable_nonpos => exact fun c hc ↦ (lead_eq_zero_of_repeatable hc).le
  all_goals decide

theorem liftsVertex_lead : LiftsVertex fun c ↦ -1 * lead c := by
  constructor
  case repeatable_nonpos =>
    intro c hc
    rw [lead_eq_zero_of_repeatable hc, mul_zero]
  all_goals decide

/-- From one text, the later rules of the two stages lead to the same text only if neither leads
anywhere. -/
theorem text_applyAll_late_eq_iff (t : Text) :
    (Rule.applyAll late .fragment "" t).text = (Rule.applyAll late .vertex "" t).text ↔
      (Rule.applyAll late .fragment "" t).text = t ∧
        (Rule.applyAll late .vertex "" t).text = t := by
  constructor
  · intro heq
    have hfragment := Rule.Raises.weight_lt_or_eq liftsFragment_lead.raises_late "" t
    have hvertex := Rule.Raises.weight_lt_or_eq liftsVertex_lead.raises_late "" t
    rw [Text.weight_mul, Text.weight_mul, ← heq] at hvertex
    rcases hfragment with hrise | hsame
    · rcases hvertex with hfall | hsame
      · omega
      · exact ⟨hsame, heq ▸ hsame⟩
    · exact ⟨hsame, heq ▸ hsame⟩
  · rintro ⟨hfragment, hvertex⟩
    rw [hfragment, hvertex]

/-- **Where the stage matters.** A source becomes the same at both stages exactly if the text that
the first rules leave declares no inputs and no named outputs, and has neither of the outputs nor
the depth output of fragment shaders. -/
theorem downgrade_fragment_eq_iff (stage : Stage) (source : Text) :
    let t := (Rule.applyAll [versionDowngrade, cubeSampling defaultCubeSampler, textureCall] stage
      "" source).text
    downgrade .fragment source = downgrade .vertex source ↔
      Finished.modernInput.occursIn t = false ∧ Pattern.outputDeclaration.occursIn t = false ∧
        Pattern.anyIndexedOutput.occursIn t = false ∧
        Text.includes t "out_FragColor".toList = false ∧
        Text.includes t "gl_FragDepth".toList = false := by
  intro t
  have ht : t = renamed stage source := rfl
  rw [downgrade_eq, downgrade_eq, renamed_eq_renamed .fragment stage,
    renamed_eq_renamed .vertex stage, ← ht, text_applyAll_late_eq_iff,
    Rule.Raises.text_applyAll_eq_iff liftsFragment_gain.raises_late,
    Rule.Raises.text_applyAll_eq_iff liftsVertex_gain.raises_late, idle_late_fragment_iff,
    idle_late_vertex_iff]
  constructor
  · rintro ⟨⟨⟨hinput, hindexed, hsingle⟩, hdepth⟩, -, houtput⟩
    exact ⟨hinput, houtput, hindexed, hsingle, hdepth⟩
  · rintro ⟨hinput, houtput, hindexed, hsingle, hdepth⟩
    exact ⟨⟨⟨hinput, hindexed, hsingle⟩, hdepth⟩, hinput, houtput⟩

end Chain

end ShaderDowngrade
