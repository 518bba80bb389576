import SqlScribe.MySql.CastRules

/-!
# Letter case

Lower case is final: no character of a lowered text is changed by lowering it again, whatever its
neighbours are (`Text.IsFinal`). The one rule that looks at neighbours is about the capital sigma,
which no lowered text has, so it is enough to look at the table of letters: no range of it makes a
letter that a range moves (`contains_lowerOf`). Most ranges lie apart from what the others make; the
rest move every other code point, to the one behind it.

The case of ASCII letters makes no difference to lowering. An ASCII letter is a cased letter in
either case and is never looked through, so it does not matter to a sigma beside it
(`Text.toLower_map`).

Plans for casts depend on the lowered name of the type alone, so they ignore case
(`CastRules.plans_ignore_case`).
-/

namespace SqlScribe

namespace Text

/-! ## Ranges of letters -/

namespace CaseRange

/-- The last code point that the range moves letters to. -/
def lastLower (r : CaseRange) : Nat := r.lower + (r.last - r.first)

/-- All code points that the range moves letters to are characters. -/
def isScalar (r : CaseRange) : Bool :=
  r.lastLower < 0xD800 || 0xDFFF < r.lower && r.lastLower < 0x110000

/-- The code points that the first range moves letters to reach those that the second moves. -/
def reaches (r s : CaseRange) : Bool :=
  Nat.ble r.lower s.last && Nat.ble s.first r.lastLower

/-- The second range moves every other code point, and the first moves letters only to those
between. -/
def alternates (r s : CaseRange) : Bool :=
  (r.step == 2 || r.first == r.last) && s.step == 2 && (r.lower + s.first) % 2 == 1

/-- A range that only moves letters to characters moves them all by one distance. -/
theorem toNat_lowerOf {r : CaseRange} {c : Char} (hr : r.isScalar = true)
    (hc : r.contains c = true) :
    (r.lowerOf c).toNat = r.lower + (c.toNat - r.first) := by
  simp only [isScalar, contains, Bool.or_eq_true, Bool.and_eq_true, decide_eq_true_eq] at hr hc
  have hvalid : (r.lower + (c.toNat - r.first)).isValidChar := by
    unfold lastLower at hr
    unfold Nat.isValidChar
    omega
  rw [lowerOf, Char.ofNat, dif_pos hvalid]
  rfl

/-- What the first range makes, the second does not move. -/
theorem contains_lowerOf {r s : CaseRange} {c : Char} (hr : r.isScalar = true)
    (hrs : r.reaches s = true → r.alternates s = true) (hc : r.contains c = true) :
    s.contains (r.lowerOf c) = false := by
  have hlower := toNat_lowerOf hr hc
  rw [Bool.eq_false_iff]
  intro hmoved
  simp only [contains, Bool.and_eq_true, decide_eq_true_eq, beq_iff_eq, hlower] at hc hmoved
  have hreaches : r.reaches s = true := by
    simp only [reaches, lastLower, Bool.and_eq_true, Nat.ble_eq]
    omega
  have halternates := hrs hreaches
  simp only [alternates, Bool.or_eq_true, Bool.and_eq_true, beq_iff_eq] at halternates
  obtain ⟨⟨hstep | hsingle, hstep'⟩, hturns⟩ := halternates
  · rw [hstep] at hc
    rw [hstep'] at hmoved
    omega
  · rw [hstep'] at hmoved
    omega

/-- The capital I with a dot, as a range of its own. -/
def dottedI : CaseRange := ⟨0x130, 0x130, 1, 0x69⟩

end CaseRange

/-- No range moves a letter to a code point that is no character. -/
theorem caseRanges_isScalar : ∀ r ∈ caseRanges, r.isScalar = true := by decide +kernel

/-- Where a range moves letters in among those that another moves, it moves them to the ones
between. -/
theorem caseRanges_alternate : ∀ r ∈ caseRanges, ∀ s ∈ CaseRange.dottedI :: caseRanges,
    r.reaches s = true → r.alternates s = true := by
  -- The pairs that have to be looked at closely are few, so they are picked first.
  have hall : caseRanges.all (fun r =>
      ((CaseRange.dottedI :: caseRanges).filter r.reaches).all r.alternates) = true := by
    decide +kernel
  intro r hr s hs hreaches
  exact List.all_eq_true.1 (List.all_eq_true.1 hall r hr) s (List.mem_filter.2 ⟨hs, hreaches⟩)

/-! ## Lowering twice -/

/-- Lowering leaves the character as it is, whatever its neighbours are. -/
structure IsFinal (c : Char) : Prop where
  ne_dottedI : c ≠ 'İ'
  not_moved : ∀ r ∈ caseRanges, r.contains c = false

instance (c : Char) : Decidable (IsFinal c) :=
  decidable_of_iff (c ≠ 'İ' ∧ ∀ r ∈ caseRanges, r.contains c = false)
    ⟨fun h => ⟨h.1, h.2⟩, fun h => ⟨h.1, h.2⟩⟩

theorem IsFinal.simpleLower_eq {c : Char} (h : IsFinal c) : simpleLower c = c := by
  have hfind : caseRanges.find? (·.contains c) = none := by
    rw [List.find?_eq_none]
    intro r hr
    rw [h.not_moved r hr]
    exact Bool.false_ne_true
  rw [simpleLower, hfind]

/-- A final character stays as it is between any neighbours. -/
theorem IsFinal.lowerBetween_eq {c : Char} (h : IsFinal c) (before after : List Char) :
    lowerBetween before c after = [c] := by
  have hsigma : c ≠ 'Σ' := by
    rintro rfl
    exact absurd h (by decide +kernel)
  rw [lowerBetween, if_neg hsigma, lowerAlone, if_neg h.ne_dottedI, h.simpleLower_eq]

/-- A text of such characters is not changed. -/
theorem lowerAfter_eq_self {text : List Char} (h : ∀ c ∈ text, IsFinal c) (before : List Char) :
    lowerAfter before text = text := by
  induction text generalizing before with
  | nil => rfl
  | cons c rest ih =>
    obtain ⟨hc, hrest⟩ := List.forall_mem_cons.1 h
    rw [lowerAfter, hc.lowerBetween_eq, ih hrest]
    rfl

/-- What a letter is moved to is not moved again. -/
theorem isFinal_simpleLower {c : Char} (hc : c ≠ 'İ') : IsFinal (simpleLower c) := by
  unfold simpleLower
  cases hfind : caseRanges.find? (·.contains c) with
  | none =>
    refine ⟨hc, fun r hr => ?_⟩
    exact Bool.eq_false_iff.2 (List.find?_eq_none.1 hfind r hr)
  | some r =>
    have hr : r ∈ caseRanges := List.mem_of_find?_eq_some hfind
    have hmoves : r.contains c = true := by
      have hfound := List.find?_some hfind
      exact hfound
    have hkept : ∀ s ∈ CaseRange.dottedI :: caseRanges, s.contains (r.lowerOf c) = false :=
      fun s hs => CaseRange.contains_lowerOf (caseRanges_isScalar r hr)
        (caseRanges_alternate r hr s hs) hmoves
    refine ⟨fun hdotted => ?_, fun s hs => hkept s (List.mem_cons_of_mem _ hs)⟩
    have hmoved : CaseRange.dottedI.contains 'İ' = false := hdotted ▸ hkept _ List.mem_cons_self
    exact absurd hmoved (by decide)

/-- Lower-casing a character gives final characters. -/
theorem isFinal_of_mem_lowerBetween {before after : List Char} {c d : Char}
    (h : d ∈ lowerBetween before c after) : IsFinal d := by
  unfold lowerBetween at h
  split at h
  · obtain rfl := List.mem_singleton.1 h
    split <;> decide +kernel
  · unfold lowerAlone at h
    split at h
    · obtain rfl | h := List.mem_cons.1 h
      · decide +kernel
      · obtain rfl := List.mem_singleton.1 h
        decide +kernel
    · rename_i hdotted
      obtain rfl := List.mem_singleton.1 h
      exact isFinal_simpleLower hdotted

theorem isFinal_of_mem_lowerAfter {before text : List Char} :
    ∀ c ∈ lowerAfter before text, IsFinal c := by
  induction text generalizing before with
  | nil => exact List.forall_mem_nil _
  | cons c rest ih =>
    rw [lowerAfter, List.forall_mem_append]
    exact ⟨fun d hd => isFinal_of_mem_lowerBetween hd, ih⟩

/-- A text in lower case stays as it is. -/
theorem toLower_toLower (text : List Char) : toLower (toLower text) = toLower text :=
  lowerAfter_eq_self isFinal_of_mem_lowerAfter []

/-! ## Characters that are cased alike -/

/-- Lowering treats the characters alike: where they stand themselves, and where they stand beside a
sigma. -/
structure CasedAlike (c d : Char) : Prop where
  isCaseIgnorable : isCaseIgnorable d = isCaseIgnorable c
  isCased : isCased d = isCased c
  sigma : d = 'Σ' ↔ c = 'Σ'
  lowerAlone : lowerAlone d = lowerAlone c

section CasedAlike

variable {f : Char → Char} (hf : ∀ c, CasedAlike c (f c))

include hf

theorem meetsCased_map (text : List Char) : meetsCased (text.map f) = meetsCased text := by
  unfold meetsCased
  induction text with
  | nil => rfl
  | cons c rest ih =>
    simp only [List.map_cons, List.dropWhile_cons, (hf c).isCaseIgnorable]
    cases isCaseIgnorable c with
    | true => exact ih
    | false => exact (hf c).isCased

/-- Characters that are cased alike have the same lower case between alike neighbours. -/
theorem lowerBetween_map (before : List Char) (c : Char) (after : List Char) :
    lowerBetween (before.map f) (f c) (after.map f) = lowerBetween before c after := by
  unfold lowerBetween endsWord
  simp only [meetsCased_map hf, (hf c).sigma, (hf c).lowerAlone]

theorem lowerAfter_map (before text : List Char) :
    lowerAfter (before.map f) (text.map f) = lowerAfter before text := by
  induction text generalizing before with
  | nil => rfl
  | cons c rest ih =>
    rw [List.map_cons, lowerAfter, lowerAfter, lowerBetween_map hf, ← List.map_cons, ih]

/-- A text may be changed character by character into one that is cased alike. -/
theorem toLower_map (text : List Char) : toLower (text.map f) = toLower text :=
  lowerAfter_map hf [] text

end CasedAlike

/-! ## The letters of ASCII -/

/-- Beyond the capital letters of ASCII, its lower case changes nothing. -/
theorem toLower_char_eq_or (c : Char) :
    c.toLower = c ∨ ∃ n : Fin 26, c = Char.ofNat (65 + n) := by
  by_cases hcapital : c.val ≥ 'A'.val ∧ c.val ≤ 'Z'.val
  · right
    obtain ⟨hfirst, hlast⟩ : 65 ≤ c.toNat ∧ c.toNat ≤ 90 := hcapital
    refine ⟨⟨c.toNat - 65, by omega⟩, ?_⟩
    have hcode : 65 + (c.toNat - 65) = c.toNat := by omega
    rw [hcode, Char.ofNat_toNat]
  · left
    exact dif_neg hcapital

/-- Casing does not look past an ASCII letter. -/
theorem isCaseIgnorable_letter {c : Char}
    (hc : 65 ≤ c.toNat ∧ c.toNat ≤ 90 ∨ 97 ≤ c.toNat ∧ c.toNat ≤ 122) :
    isCaseIgnorable c = false := by
  have hranges : ∀ r ∈ caseIgnorable,
      (r.2 < 65 ∨ 90 < r.1) ∧ (r.2 < 97 ∨ 122 < r.1) := by decide +kernel
  refine List.any_eq_false.2 fun r hr => ?_
  have hr := hranges r hr
  rw [Bool.and_eq_true, decide_eq_true_eq, decide_eq_true_eq]
  omega

/-- A character and its ASCII lower case are cased alike. -/
theorem casedAlike_toLower (c : Char) : CasedAlike c c.toLower := by
  obtain hsame | ⟨n, rfl⟩ := toLower_char_eq_or c
  · rw [hsame]
    exact ⟨rfl, rfl, Iff.rfl, rfl⟩
  · -- A capital letter is moved to its lower case, which is final.
    have hcodes : ∀ n : Fin 26, (Char.ofNat (65 + n)).toNat = 65 + n ∧
        (Char.ofNat (65 + n)).toLower.toNat = 97 + n := by decide
    have hcased : ∀ n : Fin 26, isCased (Char.ofNat (65 + n)).toLower = true ∧
        isCased (Char.ofNat (65 + n)) = true := by decide
    have hplain : ∀ n : Fin 26, (Char.ofNat (65 + n)).toLower ≠ 'Σ' ∧
        Char.ofNat (65 + n) ≠ 'Σ' ∧ Char.ofNat (65 + n) ≠ 'İ' := by decide
    have hmoved : ∀ n : Fin 26,
        simpleLower (Char.ofNat (65 + n)) = (Char.ofNat (65 + n)).toLower := by decide
    obtain ⟨hcode, hcode'⟩ := hcodes n
    have hfinal : IsFinal (Char.ofNat (65 + n)).toLower :=
      hmoved n ▸ isFinal_simpleLower (hplain n).2.2
    refine ⟨?_, (hcased n).1.trans (hcased n).2.symm, ?_, ?_⟩
    · rw [isCaseIgnorable_letter (by omega), isCaseIgnorable_letter (by omega)]
    · exact iff_of_false (hplain n).1 (hplain n).2.1
    · rw [lowerAlone, if_neg hfinal.ne_dottedI, hfinal.simpleLower_eq, lowerAlone,
        if_neg (hplain n).2.2, hmoved n]

/-- Texts that differ in the case of ASCII letters alone have the same lower case. -/
theorem toLower_eq_of_map_toLower_eq {text other : List Char}
    (h : text.map Char.toLower = other.map Char.toLower) : toLower text = toLower other := by
  rw [← toLower_map casedAlike_toLower text, h, toLower_map casedAlike_toLower]

end Text

/-! ## Plans for casts -/

namespace MySql.CastRules

/-- The types have one plan, or each is refused by its own name. -/
def SamePlan (rules : CastRules) (support : CastSupport) (typeName other : String) : Prop :=
  (∃ plan, rules.planFor support typeName = .ok plan ∧ rules.planFor support other = .ok plan) ∨
    rules.planFor support typeName = .error (.unsupportedCast typeName) ∧
      rules.planFor support other = .error (.unsupportedCast other)

/-- Names with the same lower case have the same plan, or are both refused. -/
theorem samePlan_of_toLower_eq (rules : CastRules) (support : CastSupport)
    {typeName other : String}
    (h : Text.toLower typeName.toList = Text.toLower other.toList) :
    rules.SamePlan support typeName other := by
  unfold SamePlan planFor
  simp only [h]
  cases rules.keyword? (String.ofList (Text.toLower other.toList)) with
  | none => exact .inr ⟨rfl, rfl⟩
  | some keyword => exact .inl ⟨_, rfl, rfl⟩

/-- By any rules on any server, a type and its lower case have the same plan, and so have types that
differ in the case of ASCII letters alone. -/
theorem plans_ignore_case (rules : CastRules) (support : CastSupport) :
    (∀ typeName, rules.SamePlan support typeName (String.ofList (Text.toLower typeName.toList))) ∧
      ∀ typeName other : String,
        typeName.toList.map Char.toLower = other.toList.map Char.toLower →
          rules.SamePlan support typeName other := by
  refine ⟨fun typeName => ?_, fun typeName other h => ?_⟩
  · refine rules.samePlan_of_toLower_eq support ?_
    rw [String.toList_ofList, Text.toLower_toLower]
  · exact rules.samePlan_of_toLower_eq support (Text.toLower_eq_of_map_toLower_eq h)

/-- A rule that starts with a final sigma covers the types that end a word there, in either case of
the letters around it. -/
theorem sigma_plans_ignore_case :
    let rules : CastRules := [⟨"char", ["tας"]⟩]
    rules.planFor .none "TΑΣ" = .ok (.direct "char") ∧
      rules.SamePlan .none "TΑΣ" (String.ofList (Text.toLower "TΑΣ".toList)) ∧
      rules.SamePlan .none "TΑΣ MAX" "tΑΣ max" ∧ rules.SamePlan .none "TΑΣMAX" "tΑΣmax" := by
  intro rules
  have hkeyword : rules.keyword? (String.ofList (Text.toLower "TΑΣ".toList)) = some "char" := by
    decide +kernel
  have hplan : rules.planFor .none "TΑΣ" = .ok (.direct "char") := by
    simp only [planFor, hkeyword]
    rfl
  obtain ⟨hlower, hascii⟩ := plans_ignore_case rules .none
  exact ⟨hplan, hlower _, hascii _ _ (by decide +kernel),
    hascii _ _ (by decide +kernel)⟩

end MySql.CastRules

end SqlScribe
