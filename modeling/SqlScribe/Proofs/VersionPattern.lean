import SqlScribe.Proofs.VersionGrammar

/-!
# The pattern of version texts

A `Pattern` is a regular expression with named groups. `Pattern.ways` lists the ways in which the
beginning of a text matches it, the preferred ones first: more of a repeated character before less,
and an optional part before none. A matcher that backtracks takes the first way of all.

Version texts are matched by `MySql.versionPattern`. Its optional front and its repetitions compete
for the same characters, so in principle the matcher has to try them all. In fact one cut after the
other is forced (`captures?_versionPattern`): the longest run of digits is always the right one, and
what stands behind `5.5.5-` is taken if it has two runs of digits at all.
-/

namespace SqlScribe

/-- Regular expressions with groups named by `ι`. -/
inductive Pattern (ι : Type) where
  | word (word : List Char)
  | one (accepts : Char → Bool)
  /-- Any number of characters, as many as possible. -/
  | many (accepts : Char → Bool)
  | seq (first second : Pattern ι)
  /-- The pattern if possible, else nothing. -/
  | optional (body : Pattern ι)
  | group (name : ι) (body : Pattern ι)
  /-- The end of the text. -/
  | atEnd

namespace Pattern

variable {ι β : Type}

/-- A way to match the beginning of a text. -/
structure Way (ι : Type) where
  groups : List (ι × List Char)
  taken : List Char
  rest : List Char

namespace Way

/-- The way `v` from where `w` ended. -/
abbrev andThen (w v : Way ι) : Way ι := ⟨w.groups ++ v.groups, w.taken ++ v.taken, v.rest⟩

/-- A way that remembers what it took under a name. -/
abbrev named (name : ι) (w : Way ι) : Way ι := { w with groups := (name, w.taken) :: w.groups }

end Way

/-- The beginnings of a text that hold only accepted characters, the longest first. -/
def runs (accepts : Char → Bool) : List Char → List (Way ι)
  | [] => [⟨[], [], []⟩]
  | c :: text =>
    if accepts c then
      (runs accepts text).map (fun w => ⟨[], c :: w.taken, w.rest⟩) ++ [⟨[], [], c :: text⟩]
    else
      [⟨[], [], c :: text⟩]

/-- The ways to match the beginning of a text, the preferred ones first. -/
def ways : Pattern ι → List Char → List (Way ι)
  | .word start, text => if start.isPrefixOf text then [⟨[], start, text.drop start.length⟩] else []
  | .one _, [] => []
  | .one accepts, c :: text => if accepts c then [⟨[], [c], text⟩] else []
  | .many accepts, text => runs accepts text
  | .seq p q, text => (p.ways text).flatMap fun w => (q.ways w.rest).map w.andThen
  | .optional p, text => p.ways text ++ [⟨[], [], text⟩]
  | .group name p, text => (p.ways text).map (·.named name)
  | .atEnd, text => if text.isEmpty then [⟨[], [], []⟩] else []

/-- The first way that a continuation accepts, with what it makes of it. -/
def first (p : Pattern ι) (k : Way ι → Option β) (text : List Char) : Option β :=
  (p.ways text).findSome? k

/-- What the groups of the preferred match hold. -/
def captures? (p : Pattern ι) (text : List Char) : Option (List (ι × List Char)) :=
  (p.ways text).head?.map (·.groups)

/-! ## What comes first -/

/-- The preferred match is the first one, if every match is accepted. -/
theorem captures?_eq_first (p : Pattern ι) (text : List Char) :
    p.captures? text = p.first (fun w => some w.groups) text := by
  unfold captures? first
  cases p.ways text <;> rfl

theorem findSome?_flatMap {α γ : Type} (k : γ → Option β) (f : α → List γ) (xs : List α) :
    (xs.flatMap f).findSome? k = xs.findSome? fun x => (f x).findSome? k := by
  induction xs with
  | nil => rfl
  | cons x xs ih =>
    rw [List.flatMap_cons, List.findSome?_append, ih, List.findSome?_cons]
    cases (f x).findSome? k <;> rfl

/-- A sequence is matched by its first part, and behind that by its second. -/
theorem first_seq (p q : Pattern ι) (k : Way ι → Option β) (text : List Char) :
    (p.seq q).first k text = p.first (fun w => q.first (fun v => k (w.andThen v)) w.rest) text := by
  simp only [first, ways, findSome?_flatMap, List.findSome?_map, Function.comp_def]

/-- An optional part is matched if that leads to something, and else left out. -/
theorem first_optional (p : Pattern ι) (k : Way ι → Option β) (text : List Char) :
    (optional p).first k text = (p.first k text).or (k ⟨[], [], text⟩) := by
  rw [first, ways, List.findSome?_append, List.findSome?_singleton]
  rfl

theorem first_group (name : ι) (p : Pattern ι) (k : Way ι → Option β) (text : List Char) :
    (group name p).first k text = p.first (fun w => k (w.named name)) text := by
  rw [first, ways, List.findSome?_map]
  rfl

theorem first_word_append (start text : List Char) (k : Way ι → Option β) :
    (Pattern.word start).first k (start ++ text) = k ⟨[], start, text⟩ := by
  have hprefix : start.isPrefixOf (start ++ text) = true :=
    List.isPrefixOf_iff_prefix.2 (List.prefix_append start text)
  rw [first, ways, if_pos hprefix, List.drop_left, List.findSome?_singleton]

theorem first_word_of_not {start text : List Char} (h : start.isPrefixOf text = false)
    (k : Way ι → Option β) : (Pattern.word start).first k text = none := by
  rw [first, ways, h]
  rfl

theorem first_atEnd (k : Way ι → Option β) (text : List Char) :
    atEnd.first k text = if text.isEmpty then k ⟨[], [], []⟩ else none := by
  rw [first, ways]
  split
  · rw [List.findSome?_singleton]
  · rfl

/-- The longest run comes first, so it is taken unless only a shorter one leads on. -/
theorem first_many (accepts : Char → Bool) (text : List Char) (k : Way ι → Option β)
    (h : ∀ taken left, text.takeWhile accepts = taken ++ left →
      (k ⟨[], taken, left ++ text.dropWhile accepts⟩).isSome →
      (k ⟨[], text.takeWhile accepts, text.dropWhile accepts⟩).isSome) :
    (many accepts).first k text = k ⟨[], text.takeWhile accepts, text.dropWhile accepts⟩ := by
  rw [first, ways]
  induction text generalizing k with
  | nil => rw [runs, List.findSome?_singleton, List.takeWhile_nil, List.dropWhile_nil]
  | cons c text ih =>
    by_cases hc : accepts c = true
    · rw [List.takeWhile_cons_of_pos hc, List.dropWhile_cons_of_pos hc] at h ⊢
      have hlonger : ∀ taken left, text.takeWhile accepts = taken ++ left →
          (k ⟨[], c :: taken, left ++ text.dropWhile accepts⟩).isSome →
          (k ⟨[], c :: text.takeWhile accepts, text.dropWhile accepts⟩).isSome := by
        intro taken left htext
        exact h (c :: taken) left (by rw [htext, List.cons_append])
      rw [runs, if_pos hc, List.findSome?_append, List.findSome?_map, List.findSome?_singleton]
      rw [Function.comp_def, ih (fun w => k ⟨[], c :: w.taken, w.rest⟩) hlonger]
      -- The empty run is the last resort; it does not lead on where the longest one does not.
      cases hk : k ⟨[], c :: text.takeWhile accepts, text.dropWhile accepts⟩ with
      | some b => rfl
      | none =>
        have hnone := h [] (c :: text.takeWhile accepts) rfl
        rw [List.cons_append, List.takeWhile_append_dropWhile, hk] at hnone
        rw [Option.none_or]
        exact Option.not_isSome_iff_eq_none.1 fun hsome => absurd (hnone hsome) (by simp)
    · rw [runs, if_neg hc, List.findSome?_singleton, List.takeWhile_cons_of_neg hc,
        List.dropWhile_cons_of_neg hc]

/-- One character or more of a class, by name. -/
def run (name : ι) (accepts : Char → Bool) : Pattern ι :=
  .group name (.seq (.one accepts) (.many accepts))

/-- A run of at least one character is the longest one, unless only a shorter one leads on. -/
theorem first_run (name : ι) (accepts : Char → Bool) (text : List Char) (k : Way ι → Option β)
    (h : ∀ taken left, text.takeWhile accepts = taken ++ left →
      (k ⟨[(name, taken)], taken, left ++ text.dropWhile accepts⟩).isSome →
      (k ⟨[(name, text.takeWhile accepts)], text.takeWhile accepts,
        text.dropWhile accepts⟩).isSome) :
    (run name accepts).first k text =
      if (text.takeWhile accepts).isEmpty then none
      else k ⟨[(name, text.takeWhile accepts)], text.takeWhile accepts,
        text.dropWhile accepts⟩ := by
  rw [run, first_group, first_seq]
  cases text with
  | nil => rfl
  | cons c text =>
    by_cases hc : accepts c = true
    · have hone : (Pattern.one accepts).ways (c :: text) = [(⟨[], [c], text⟩ : Way ι)] := by
        rw [ways, if_pos hc]
      rw [List.takeWhile_cons_of_pos hc, List.dropWhile_cons_of_pos hc] at h ⊢
      rw [first, hone, List.findSome?_singleton, List.isEmpty_cons, if_neg (by simp)]
      refine first_many accepts text _ fun taken left htext => ?_
      exact h (c :: taken) left (by rw [htext, List.cons_append])
    · have hone : (Pattern.one accepts).ways (c :: text) = ([] : List (Way ι)) := by
        rw [ways, if_neg hc]
      rw [List.takeWhile_cons_of_neg hc, first, hone]
      rfl

end Pattern

namespace MySql

open Pattern

/-! ## Version texts -/

/-- The parts of a version text that the pattern names. -/
inductive VersionGroup where
  | major
  | minor
  | patch
  | suffix
deriving DecidableEq

/-- The decoration, up to the end of the text and on one line. -/
def suffixPattern : Pattern VersionGroup :=
  .seq (.group .suffix (.many (· != '\n'))) .atEnd

/-- What stands behind the second number. -/
def patchPattern : Pattern VersionGroup :=
  .seq (.optional (.seq (.word ['.']) (.run .patch Text.isDecimalDigit))) suffixPattern

/-- A version without disguise. -/
def numbersPattern : Pattern VersionGroup :=
  .seq (.run .major Text.isDecimalDigit)
    (.seq (.word ['.']) (.seq (.run .minor Text.isDecimalDigit) patchPattern))

/-- A version text: `(5.5.5-)?` in front, two or three numbers with points between them, and a
decoration. -/
def versionPattern : Pattern VersionGroup :=
  .seq (.optional (.word Server.disguise)) numbersPattern

/-- What the groups of the pattern hold in a version text taken apart. -/
def Server.VersionText.groups (v : Server.VersionText) : List (VersionGroup × List Char) :=
  (.major, v.major) :: (.minor, v.minor) ::
    ((v.patch.map fun digits => (.patch, digits)).toList ++ [(.suffix, v.decoration)])

/-! ## The pattern is matched in one way -/

open Server

/-- The decoration takes all that is left, if that is one line. -/
theorem first_suffixPattern {β : Type} (k : Way VersionGroup → Option β) (text : List Char) :
    suffixPattern.first k text =
      if '\n' ∈ text then none else k ⟨[(.suffix, text)], text, []⟩ := by
  rw [suffixPattern, first_seq, first_group]
  simp only [first_atEnd]
  refine (first_many _ _ _ fun taken left htext hsome => ?_).trans ?_
  · -- Only a run up to the end of the text leads on, and no run is longer.
    have hend : left ++ text.dropWhile (· != '\n') = [] := by
      by_contra hne
      rw [Way.named, List.isEmpty_eq_false_iff.2 hne] at hsome
      exact absurd hsome (by simp)
    obtain ⟨rfl, hdrop⟩ := List.append_eq_nil_iff.1 hend
    rw [List.append_nil] at htext
    rw [htext]
    exact hsome
  by_cases hline : '\n' ∈ text
  · have hne : text.dropWhile (· != '\n') ≠ [] := by
      intro hnil
      exact absurd (List.dropWhile_eq_nil_iff.1 hnil '\n' hline) (by decide)
    rw [if_pos hline, Way.named, List.isEmpty_eq_false_iff.2 hne]
    rfl
  · have hall : ∀ c ∈ text, (c != '\n') = true := by
      intro c hc
      rw [bne_iff_ne]
      rintro rfl
      exact hline hc
    rw [if_neg hline, List.dropWhile_eq_nil_iff.2 hall, List.takeWhile_eq_self_iff.2 hall]
    simp [Way.andThen]

theorem not_mem_of_digits {digits : List Char}
    (h : ∀ c ∈ digits, Text.isDecimalDigit c = true) : '\n' ∉ digits := by
  intro hline
  exact absurd (h '\n' hline) (by decide)

theorem mem_append_middle_iff {middle decoration : List Char} {patch : Option (List Char)}
    (h : IsMiddle middle decoration patch) :
    '\n' ∈ middle ++ decoration ↔ '\n' ∈ decoration := by
  cases h with
  | patch hrun => simp [not_mem_of_digits hrun.digits]
  | nothing _ => rfl

/-- The decoration of a version ends where the text does, and no line ends before it. -/
theorem mem_decoration_iff {text : List Char} {v : VersionText} (h : IsNumbered text v) :
    '\n' ∈ v.decoration ↔ '\n' ∈ text := by
  obtain ⟨middle, rfl, hmajor, hminor, hmiddle⟩ := h
  rw [← mem_append_middle_iff hmiddle]
  simp only [List.mem_append, List.mem_cons, not_mem_of_digits hmajor.digits,
    not_mem_of_digits hminor.digits, false_or]
  exact ⟨.inr, fun h => h.resolve_left (by decide)⟩

/-- Where nothing but the end of a line keeps a run from leading on, the longest run does. -/
theorem first_run_of_line {β : Type} {k : Way VersionGroup → Option β}
    (hk : ∀ w, (k w).isSome = true) (name : VersionGroup) (text : List Char) :
    (Pattern.run name Text.isDecimalDigit).first
        (fun w => if '\n' ∈ w.rest then none else k w) text =
      if (text.takeWhile Text.isDecimalDigit).isEmpty then none
      else if '\n' ∈ text.dropWhile Text.isDecimalDigit then none
      else k ⟨[(name, text.takeWhile Text.isDecimalDigit)], text.takeWhile Text.isDecimalDigit,
        text.dropWhile Text.isDecimalDigit⟩ := by
  refine first_run name Text.isDecimalDigit text _ fun taken left htext hsome => ?_
  have hline : '\n' ∉ left ++ text.dropWhile Text.isDecimalDigit := by
    intro hmem
    rw [if_pos hmem] at hsome
    exact absurd hsome (by simp)
  have hdrop : '\n' ∉ text.dropWhile Text.isDecimalDigit := by
    intro hmem
    exact hline (List.mem_append_right left hmem)
  rw [if_neg hdrop]
  exact hk _

theorem first_point {β : Type} (k : Way VersionGroup → Option β) (rest : List Char) :
    (Pattern.word ['.']).first k ('.' :: rest) = k ⟨[], ['.'], rest⟩ :=
  first_word_append ['.'] rest k

theorem first_point_of_not {β : Type} (k : Way VersionGroup → Option β) {text : List Char}
    (h : ∀ rest, text ≠ '.' :: rest) : (Pattern.word ['.']).first k text = none := by
  refine first_word_of_not ?_ k
  rw [← Bool.not_eq_true, List.isPrefixOf_iff_prefix]
  rintro ⟨rest, hrest⟩
  exact h rest hrest.symm

/-- A point and the longest run of digits behind it. -/
theorem first_point_run {β : Type} {k : Way VersionGroup → Option β}
    (hk : ∀ w, (k w).isSome = true) (name : VersionGroup) (text : List Char) :
    (Pattern.seq (.word ['.']) (.run name Text.isDecimalDigit)).first
        (fun w => if '\n' ∈ w.rest then none else k w) text =
      match splitPatch text with
      | (none, _) => none
      | (some digits, rest) =>
        if '\n' ∈ rest then none else k ⟨[(name, digits)], '.' :: digits, rest⟩ := by
  rw [first_seq]
  by_cases hpoint : ∃ rest, text = '.' :: rest
  · obtain ⟨rest, rfl⟩ := hpoint
    rw [first_point, first_run_of_line (fun _ => hk _), splitPatch]
    cases (rest.takeWhile Text.isDecimalDigit).isEmpty <;> rfl
  · have hnot : ∀ rest, text ≠ '.' :: rest := fun rest htext => hpoint ⟨rest, htext⟩
    have hsplit : splitPatch text = (none, text) := by
      unfold splitPatch
      split
      · next rest => exact absurd rfl (hnot rest)
      · rfl
    rw [first_point_of_not _ hnot, hsplit]

/-- Behind the second number, the pattern goes the way of the split. -/
theorem first_patchPattern {β : Type} {k : Way VersionGroup → Option β}
    (hk : ∀ w, (k w).isSome = true) (text : List Char) :
    patchPattern.first k text =
      if '\n' ∈ text then none
      else k ⟨((splitPatch text).1.map fun digits => (.patch, digits)).toList ++
        [(.suffix, (splitPatch text).2)], text, []⟩ := by
  rw [patchPattern, first_seq, first_optional]
  simp only [first_suffixPattern, Way.andThen]
  rw [first_point_run (fun _ => hk _)]
  rcases hsplit : splitPatch text with ⟨patch, decoration⟩
  obtain ⟨middle, rfl, hmiddle⟩ := splitPatch_eq_iff.1 hsplit
  have hline := mem_append_middle_iff hmiddle
  cases hmiddle with
  | patch hrun =>
    by_cases hmem : '\n' ∈ decoration
    · simp only [if_pos hmem, if_pos (hline.2 hmem), Option.none_or]
    · simp only [if_neg hmem, if_neg (mt hline.1 hmem), Option.or_of_isSome (hk _)]
      rfl
  | nothing h => rfl

/-- A shorter run of digits ends before a digit, where the pattern asks for a point. -/
theorem first_run_point {β : Type} (k : Way VersionGroup → Way VersionGroup → Option β)
    (name : VersionGroup) (text : List Char) :
    (Pattern.run name Text.isDecimalDigit).first
        (fun w => (Pattern.word ['.']).first (k w) w.rest) text =
      if (text.takeWhile Text.isDecimalDigit).isEmpty then none
      else (Pattern.word ['.']).first
        (k ⟨[(name, text.takeWhile Text.isDecimalDigit)], text.takeWhile Text.isDecimalDigit,
          text.dropWhile Text.isDecimalDigit⟩) (text.dropWhile Text.isDecimalDigit) := by
  refine first_run name Text.isDecimalDigit text _ fun taken left htext hsome => ?_
  cases left with
  | nil =>
    rw [List.append_nil] at htext
    rw [htext]
    exact hsome
  | cons c left =>
    have hmem : c ∈ text.takeWhile Text.isDecimalDigit := by
      rw [htext]
      exact List.mem_append_right taken List.mem_cons_self
    have hc : Text.isDecimalDigit c = true := List.mem_takeWhile_imp hmem
    have hnot : ∀ rest, c :: left ++ text.dropWhile Text.isDecimalDigit ≠ '.' :: rest := by
      intro rest hrest
      obtain ⟨rfl, -⟩ := List.cons.inj hrest
      exact absurd hc (by decide)
    rw [first_point_of_not _ hnot] at hsome
    exact absurd hsome (by simp)

theorem mem_of_runs {text rest : List Char} (h : text.dropWhile Text.isDecimalDigit = '.' :: rest) :
    '\n' ∈ text ↔ '\n' ∈ rest.dropWhile Text.isDecimalDigit := by
  have hdigits : ∀ cs : List Char, '\n' ∉ cs.takeWhile Text.isDecimalDigit := by
    intro cs
    exact not_mem_of_digits fun c hc => List.mem_takeWhile_imp hc
  calc '\n' ∈ text
    _ ↔ '\n' ∈ text.takeWhile Text.isDecimalDigit ++ '.' ::
          (rest.takeWhile Text.isDecimalDigit ++ rest.dropWhile Text.isDecimalDigit) := by
        rw [List.takeWhile_append_dropWhile, ← h, List.takeWhile_append_dropWhile]
    _ ↔ '\n' ∈ rest.dropWhile Text.isDecimalDigit := by
        simp only [List.mem_append, List.mem_cons, hdigits, false_or, Char.reduceEq]

/-- Two numbers, and what stands behind them. -/
theorem first_numbersPattern {β : Type} {k : Way VersionGroup → Option β}
    (hk : ∀ w, (k w).isSome = true) (text : List Char) :
    numbersPattern.first k text =
      if '\n' ∈ text then none else (split? text).bind fun v => k ⟨v.groups, text, []⟩ := by
  rw [numbersPattern, first_seq]
  simp only [first_seq, first_patchPattern (fun _ => hk _)]
  rw [first_run_point]
  by_cases hpoint : ∃ rest, text.dropWhile Text.isDecimalDigit = '.' :: rest
  · obtain ⟨rest, hrest⟩ := hpoint
    have hline := mem_of_runs hrest
    rw [hrest, first_point, first_run_of_line (fun _ => hk _), split?_of_point hrest]
    cases hmajor : (text.takeWhile Text.isDecimalDigit).isEmpty with
    | true => exact (ite_self none).symm
    | false =>
      cases hminor : (rest.takeWhile Text.isDecimalDigit).isEmpty with
      | true => exact (ite_self none).symm
      | false =>
        have htext : text.takeWhile Text.isDecimalDigit ++ '.' ::
            (rest.takeWhile Text.isDecimalDigit ++ rest.dropWhile Text.isDecimalDigit) = text := by
          rw [List.takeWhile_append_dropWhile, ← hrest, List.takeWhile_append_dropWhile]
        by_cases hmem : '\n' ∈ text
        · rw [if_pos hmem, if_pos (hline.1 hmem)]
          rfl
        · rw [if_neg hmem, if_neg (mt hline.2 hmem)]
          refine congrArg k ?_
          rw [Way.mk.injEq]
          exact ⟨rfl, htext, rfl⟩
  · have hnot : ∀ rest, text.dropWhile Text.isDecimalDigit ≠ '.' :: rest :=
      fun rest hrest => hpoint ⟨rest, hrest⟩
    rw [first_point_of_not _ hnot, split?_of_not_point hnot, ite_self]
    exact (ite_self none).symm

theorem mem_disguise_append_iff (text : List Char) :
    '\n' ∈ disguise ++ text ↔ '\n' ∈ text := by
  rw [List.mem_append]
  exact ⟨fun h => h.resolve_left (by decide), .inr⟩

/-- The first way to match a version text is the one in which reading takes it apart, if it is on
one line. -/
theorem captures?_versionPattern (text : List Char) :
    versionPattern.captures? text =
      if '\n' ∈ text then none else (splitDisguised? text).map (·.groups) := by
  rw [captures?_eq_first, versionPattern, first_seq, first_optional]
  simp only [first_numbersPattern (fun _ => Option.isSome_some), List.nil_append]
  by_cases hprefix : disguise.isPrefixOf text = true
  · obtain ⟨rest, rfl⟩ := List.isPrefixOf_iff_prefix.1 hprefix
    rw [first_word_append, splitDisguised?_append]
    by_cases hline : '\n' ∈ rest
    · have hfull := (mem_disguise_append_iff rest).2 hline
      simp only [if_pos hline, if_pos hfull, Option.none_or]
    · have hfull := mt (mem_disguise_append_iff rest).1 hline
      simp only [if_neg hline, if_neg hfull]
      cases split? rest with
      | none =>
        rw [Option.bind_none, Option.none_or, Option.none_or]
        exact Option.map_eq_bind.symm
      | some v => rfl
  · rw [first_word_of_not (Bool.eq_false_iff.2 hprefix), Option.none_or, splitDisguised?,
      if_neg hprefix]
    exact if_congr Iff.rfl rfl Option.map_eq_bind.symm

/-! ## Reading by the pattern -/

namespace Server

/-- A number by the name of its group. One that is missing is zero, and one that does not fit makes
the text invalid. -/
def groupNumber (text : String) (groups : List (VersionGroup × List Char)) (name : VersionGroup) :
    Except Error UInt32 :=
  match groups.lookup name with
  | none => .ok 0
  | some digits =>
    match number? digits with
    | none => .error (.invalidVersion text)
    | some n => .ok n

/-- The server that the groups of a match describe. -/
def ofGroups (text : String) (groups : List (VersionGroup × List Char)) : Except Error Server := do
  let major ← groupNumber text groups .major
  let minor ← groupNumber text groups .minor
  let patch ← groupNumber text groups .patch
  return ⟨productOf ((groups.lookup .suffix).getD []), major, minor, patch⟩

/-- The server that a text describes, by matching it with the pattern. -/
def readByPattern (text : String) : Except Error Server :=
  match versionPattern.captures? (Text.trim text.toList) with
  | none => .error (.invalidVersion text)
  | some groups => ofGroups text groups

/-- A text is one line exactly if its decoration is. -/
theorem mem_decoration_of_split {text : List Char} {v : VersionText}
    (h : splitDisguised? text = some v) : '\n' ∈ v.decoration ↔ '\n' ∈ text := by
  obtain ⟨front, rest, rfl, ⟨-, rfl⟩ | ⟨-, rfl⟩, hv⟩ := splitDisguised?_eq_some_iff.1 h
  · rw [mem_disguise_append_iff, mem_decoration_iff hv]
  · rw [List.nil_append, mem_decoration_iff hv]

theorem lookup_major (v : VersionText) : v.groups.lookup .major = some v.major := rfl

theorem lookup_minor (v : VersionText) : v.groups.lookup .minor = some v.minor := rfl

theorem lookup_patch (v : VersionText) : v.groups.lookup .patch = v.patch := by
  obtain ⟨major, minor, patch, decoration⟩ := v
  cases patch <;> rfl

theorem lookup_suffix (v : VersionText) : v.groups.lookup .suffix = some v.decoration := by
  obtain ⟨major, minor, patch, decoration⟩ := v
  cases patch <;> rfl

/-- A version on one line is read from its groups as from its parts. -/
theorem ofGroups_groups (text : String) {v : VersionText} (hline : '\n' ∉ v.decoration) :
    ofGroups text v.groups =
      match ofVersionText? v with
      | some server => .ok server
      | none => .error (.invalidVersion text) := by
  rw [ofVersionText?, if_neg (mt List.contains_iff_mem.1 hline)]
  simp only [ofGroups, groupNumber, lookup_major, lookup_minor, lookup_patch, lookup_suffix]
  cases number? v.major with
  | none => rfl
  | some major =>
    cases number? v.minor with
    | none => rfl
    | some minor =>
      cases v.patch with
      | none => rfl
      | some digits => cases hpatch : number? digits <;> simp only [hpatch] <;> rfl

/-- Matching and reading come to the same. -/
theorem readByPattern_eq_read (text : String) : readByPattern text = read text := by
  unfold readByPattern read read?
  rw [captures?_versionPattern]
  cases hsplit : splitDisguised? (Text.trim text.toList) with
  | none =>
    rw [Option.map_none, ite_self]
    rfl
  | some v =>
    have hline := mem_decoration_of_split hsplit
    by_cases hmem : '\n' ∈ v.decoration
    · rw [if_pos (hline.1 hmem), Option.bind_some, ofVersionText?,
        if_pos (List.contains_iff_mem.2 hmem)]
    · rw [if_neg (mt hline.2 hmem)]
      exact ofGroups_groups text hmem

/-- Reading accepts exactly the version texts. With the white space around it cut off, a text is
read as a server if it describes the server, and as nothing else; any other text is an error that
repeats it as it was. The backtracking matcher of the pattern gives the same answers. -/
theorem read_accepts_exactly_versions (text : String) :
    Text.IsTrimmed text.toList (Text.trim text.toList) ∧
    (∀ server, read text = .ok server ↔ Describes (Text.trim text.toList) server) ∧
    (∀ e, read text = .error e ↔
      e = .invalidVersion text ∧ ∀ server, ¬Describes (Text.trim text.toList) server) ∧
    read text = readByPattern text :=
  ⟨Text.isTrimmed_trim text.toList, fun _ => read_eq_ok_iff, fun _ => read_eq_error_iff,
    (readByPattern_eq_read text).symm⟩

-- The front is given up where no version stands behind it.
example : read "5.5.5-log" = .ok ⟨.mySql, 5, 5, 5⟩ := by decide

example : read "5.5.5-10.4-MARIAdb" = .ok ⟨.mariaDb, 10, 4, 0⟩ := by decide

end Server

end MySql

end SqlScribe
