import Mathlib.Data.Nat.Digits.Defs
import ShaderDowngrade.Proofs.Chain.Steps
import ShaderDowngrade.Proofs.Rule.Growth

/-!
# What the chain can add

No rule of the chain brings in an escape, and none of them makes a text much longer. Both are one
bound: let every character weigh one, but an escape as much as one likes; then every rule is gentle.
A text without escapes weighs its length, so there is no room for an escape in what the chain leaves
of it.

Main statements: `Chain.escape_notMem_downgrade`, no escape comes about; `Chain.portable_standard`,
the ledger of a conversion can be read back from JSON.
-/

namespace ShaderDowngrade

open Text (weight)

variable {n : ℤ} {t : Text}

/-! ## Escapes -/

/-- An escape weighs `n`, and every other character one. -/
def burden (n : ℤ) (c : Char) : ℤ := if c = '\x1b' then n else 1

theorem one_le_burden (hn : 1 ≤ n) (c : Char) : 1 ≤ burden n c := by
  rw [burden]
  split
  · exact hn
  · exact le_refl 1

theorem weight_burden (n : ℤ) (h : '\x1b' ∉ t) : weight (burden n) t = t.length := by
  induction t with
  | nil => rfl
  | cons c t ih =>
    obtain ⟨hc, ht⟩ := not_or.1 (mt List.mem_cons.2 h)
    rw [Text.weight_cons, ih ht, burden, if_neg (Ne.symm hc), List.length_cons, Nat.cast_succ]
    exact Int.add_comm _ _

theorem le_weight_burden (hn : 1 ≤ n) (h : '\x1b' ∈ t) : n ≤ weight (burden n) t := by
  obtain ⟨before, after, rfl⟩ := List.append_of_mem h
  have hbefore := Text.length_le_weight (one_le_burden hn) before
  have hafter := Text.length_le_weight (one_le_burden hn) after
  have hescape : burden n '\x1b' = n := if_pos rfl
  rw [Text.weight_append, Text.weight_cons, hescape]
  omega

theorem weight_burden_nonneg (hn : 1 ≤ n) (t : Text) : 0 ≤ weight (burden n) t :=
  le_trans (Int.natCast_nonneg _) (Text.length_le_weight (one_le_burden hn) t)

namespace Chain

variable {stage s : Stage}

/-! ## The rules are gentle -/

/-- A substitution that runs at one stage only is asked about at that stage. -/
theorem gentle_of_replaces {r : Substitution} {replacement : Match → Text}
    (hstage : r.gate.admits stage = true → stage = s)
    (h : (Rule.substitute r).Replaces s r.pattern replacement)
    (hbound : ∀ m, r.pattern.expr.Spells m.text m.groups →
      weight (burden n) (replacement m) ≤ growthFactor * weight (burden n) m.text) :
    (Rule.substitute r).Gentle (burden n) stage := by
  intro hgate
  obtain rfl := hstage hgate
  exact ⟨replacement, h, hbound⟩

/-- A substitution of a word by one that is not too long. -/
theorem gentle_of_word {r : Substitution} {w v : Text} (hn : 1 ≤ n)
    (hw : r.pattern.expr = .word w) (hstage : r.gate.admits stage = true → stage = s)
    (h : (Rule.substitute r).Replaces s r.pattern fun _ ↦ v) (hv : '\x1b' ∉ v)
    (hlength : v.length ≤ 5 * w.length) : (Rule.substitute r).Gentle (burden n) stage := by
  refine gentle_of_replaces hstage h fun m hm ↦ ?_
  have hweight := Text.length_le_weight (one_le_burden hn) w
  rw [Pattern.text_eq_of_expr_eq_word hw hm, weight_burden n hv, growthFactor]
  omega

/-- A substitution of a numbered word by one with the same number that is not too long. -/
theorem gentle_of_numbered {r : Substitution} {w v new close : Text} (hn : 1 ≤ n)
    (hw : r.pattern.expr = .numbered w v) (hstage : r.gate.admits stage = true → stage = s)
    (h : (Rule.substitute r).Replaces s r.pattern fun m ↦ new ++ m.group 1 ++ close)
    (hnew : '\x1b' ∉ new) (hclose : '\x1b' ∉ close)
    (hlength : new.length + close.length ≤ 5 * w.length) :
    (Rule.substitute r).Gentle (burden n) stage := by
  refine gentle_of_replaces hstage h fun m hm ↦ ?_
  obtain ⟨-, htext⟩ := Expr.spells_numbered (hw ▸ hm)
  have hword := Text.length_le_weight (one_le_burden hn) w
  have hnumber := weight_burden_nonneg hn (m.group 1)
  have hend := weight_burden_nonneg hn v
  rw [htext, growthFactor]
  simp only [Text.weight_append, weight_burden n hnew, weight_burden n hclose]
  omega

/-- A keyword in the place of another one, in front of a type. -/
theorem weight_input_le (hn : 1 ≤ n) {keyword : Text} (hkeyword : '\x1b' ∉ keyword)
    (hlength : keyword.length ≤ 10) {m : Match}
    (hm : Pattern.inputDeclaration.expr.Spells m.text m.groups) :
    weight (burden n) (keyword ++ m.group 2) ≤ growthFactor * weight (burden n) m.text := by
  obtain ⟨b, -, -, htext⟩ := Pattern.spells_inputDeclaration hm
  have hblanks := weight_burden_nonneg hn b
  have htype := weight_burden_nonneg hn (m.group 2)
  have hin : weight (burden n) "in".toList = 2 := weight_burden n (by decide)
  rw [htext, growthFactor]
  simp only [Text.weight_append, weight_burden n hkeyword, hin]
  omega

theorem gentle_fragmentInput (hn : 1 ≤ n) : fragmentInput.Gentle (burden n) stage :=
  gentle_of_replaces eq_of_beq replaces_fragmentInput fun _ hm ↦
    weight_input_le hn (by decide) (by decide) hm

theorem gentle_vertexInput (hn : 1 ≤ n) : vertexInput.Gentle (burden n) stage :=
  gentle_of_replaces eq_of_beq replaces_vertexInput fun _ hm ↦
    weight_input_le hn (by decide) (by decide) hm

theorem gentle_vertexOutput (hn : 1 ≤ n) : vertexOutput.Gentle (burden n) stage := by
  refine gentle_of_replaces eq_of_beq replaces_vertexOutput fun m hm ↦ ?_
  obtain ⟨b, -, b', -, -, -, htext⟩ := Pattern.spells_outputDeclaration hm
  have hblanks := weight_burden_nonneg hn b
  have hblanks' := weight_burden_nonneg hn b'
  have htype := weight_burden_nonneg hn (m.group 2)
  have hname := weight_burden_nonneg hn (m.group 3)
  have hout : weight (burden n) "out".toList = 3 := weight_burden n (by decide)
  have hvarying : weight (burden n) "varying ".toList = 8 := weight_burden n (by decide)
  have hspace : weight (burden n) " ".toList = 1 := weight_burden n (by decide)
  have hend : weight (burden n) ";".toList = 1 := weight_burden n (by decide)
  rw [htext, growthFactor]
  simp only [Text.weight_append, hout, hvarying, hspace, hend]
  omega

theorem gentle_indexedLayoutRemoval (hn : 1 ≤ n) :
    indexedLayoutRemoval.Gentle (burden n) stage := by
  refine gentle_of_replaces (fun _ ↦ rfl) replaces_indexedLayoutRemoval fun m _ ↦ ?_
  have htext := weight_burden_nonneg hn m.text
  rw [Text.weight_nil, growthFactor]
  omega

theorem gentle_indexedRename (hn : 1 ≤ n) : indexedRename.Gentle (burden n) stage :=
  gentle_of_numbered hn Pattern.expr_indexedOutput (fun _ ↦ rfl) replaces_indexedRename (by decide)
    (by decide) (by decide)

theorem gentle_singleElementRename (hn : 1 ≤ n) :
    singleElementRename.Gentle (burden n) stage :=
  gentle_of_numbered hn Pattern.expr_singleOutputElement eq_of_beq replaces_singleElementRename
    (by decide) (by decide) (by decide)

theorem gentle_prepend {r : Prepend} (hline : '\x1b' ∉ r.directive.toList ++ directiveSeparator)
    (hlength : (r.directive.toList ++ directiveSeparator).length ≤ 50) :
    (Rule.prepend r).Gentle (burden n) stage := by
  rw [Rule.Gentle, weight_burden n hline, lineAllowance]
  exact Int.ofNat_le.2 hlength

/-- **Every rule of the chain is gentle**, inside the groups as well, however heavy an escape is. -/
theorem gentle_standard (stage : Stage) (hn : 1 ≤ n) :
    ∀ r ∈ Rule.nestedAll standard, r.Gentle (burden n) stage := by
  change ∀ r ∈ [versionDowngrade, cubeSampling defaultCubeSampler, textureCall, fragmentInput,
    vertexInput, vertexOutput, indexedOutputs, drawBuffersPrepend, indexedLayoutRemoval,
    indexedRename, singleRename, singleElementRename, singleLayoutRemoval, depthOutput,
    depthPrepend, depthRename], r.Gentle (burden n) stage
  simp only [List.forall_mem_cons]
  have hversion : versionDowngrade.Gentle (burden n) stage :=
    gentle_of_word hn rfl (fun _ ↦ rfl) replaces_versionDowngrade (by decide) (by decide)
  have hcube : (cubeSampling defaultCubeSampler).Gentle (burden n) stage :=
    gentle_of_word hn rfl (fun _ ↦ rfl) replaces_cubeSampling (by decide) (by decide)
  have hcall : textureCall.Gentle (burden n) stage :=
    gentle_of_word hn rfl (fun _ ↦ rfl) replaces_textureCall (by decide) (by decide)
  have hsingle : singleRename.Gentle (burden n) stage :=
    gentle_of_word hn rfl eq_of_beq replaces_singleRename (by decide) (by decide)
  have hlayout : singleLayoutRemoval.Gentle (burden n) stage :=
    gentle_of_word hn rfl eq_of_beq replaces_singleLayoutRemoval (by decide) (by decide)
  have hdepth : depthRename.Gentle (burden n) stage :=
    gentle_of_word hn rfl (fun _ ↦ rfl) replaces_depthRename (by decide) (by decide)
  exact ⟨hversion, hcube, hcall, gentle_fragmentInput hn, gentle_vertexInput hn,
    gentle_vertexOutput hn, trivial, gentle_prepend (by decide) (by decide),
    gentle_indexedLayoutRemoval hn, gentle_indexedRename hn, hsingle,
    gentle_singleElementRename hn, hlayout, trivial, gentle_prepend (by decide) (by decide), hdepth,
    List.forall_mem_nil _⟩

/-! ## The text and the ledger of a conversion -/

theorem within_standard (stage : Stage) (hn : 1 ≤ n) (h : '\x1b' ∉ t) :
    (Rule.applyAll standard stage "" t).Within (burden n) (5 ^ 16 * (t.length + 50)) := by
  have hwithin := Rule.within_applyAll (one_le_burden hn) standard "" t _
    (gentle_standard stage hn) (le_refl _)
  rwa [load, weight_burden n h] at hwithin

/-- **No escape comes about.** -/
theorem escape_notMem_downgrade (stage : Stage) (h : '\x1b' ∉ t) : '\x1b' ∉ downgrade stage t := by
  intro hmem
  have hn : (1 : ℤ) ≤ 5 ^ 16 * (t.length + 50) + 1 := by omega
  have hheavy := le_weight_burden hn hmem
  have hbound := (within_standard stage hn h).load_le
  rw [load, lineAllowance] at hbound
  rw [downgrade] at hheavy
  omega

/-- The counts in the ledger of a conversion have no more digits than can be read back. The bound on
the text is far beyond the size of any file. -/
theorem portable_standard (stage : Stage) (h : '\x1b' ∉ t) (hlength : t.length < 10 ^ 200) :
    Ledger.Portable ⟨some stage, (Rule.applyAll standard stage "" t).entries⟩ := by
  intro e he
  have hmodest := (within_standard stage (le_refl 1) h).entries e he
  have hcount := hmodest.matchCount_le
  have hnonneg := hmodest.matchCount_nonneg
  have hfits : e.matchCount.natAbs < 10 ^ 220 := by omega
  have hdigits := Nat.toDigits_length 10 _ 220 (by decide) hfits
  exact ⟨hmodest.rule, hmodest.group, hmodest.inserted, hmodest.description,
    hdigits.trans (by decide)⟩

end Chain

end ShaderDowngrade
