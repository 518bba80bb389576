import Mathlib.Data.List.TakeWhile
import SqlScribe.MySql.Server

/-!
# The grammar of version texts

`Server.Describes` says, without any reading, when a text is the version of a server. White space
aside, it is an optional front `5.5.5-`, two runs of digits with a point between them, a third run
behind another point if one is there, and a decoration on the same line that may name the product.
Each run goes on as far as it can, and the front is a front only if a version stands behind it, so a
text is taken apart in one way at most.

Reading takes a text apart by scanning for the ends of its runs. The lemmas `split?_eq_some_iff` and
its like say that each scan finds exactly the parts that the grammar asks for, and
`read?_eq_some_iff` puts them together.
-/

namespace SqlScribe

/-! ## White space around a text -/

namespace Text

/-- `inner` is the text without the white space around it. -/
structure IsTrimmed (text inner : List Char) : Prop where
  around : ∃ before after, text = before ++ (inner ++ after) ∧
    (∀ c ∈ before, isWhiteSpace c = true) ∧ ∀ c ∈ after, isWhiteSpace c = true
  first : ∀ c ∈ inner.head?, isWhiteSpace c = false
  last : ∀ c ∈ inner.getLast?, isWhiteSpace c = false

theorem trimStart_append {before : List Char} (h : ∀ c ∈ before, isWhiteSpace c = true)
    (rest : List Char) : trimStart (before ++ rest) = trimStart rest :=
  List.dropWhile_append_of_pos h

theorem trimStart_of_first {text : List Char} (h : ∀ c ∈ text.head?, isWhiteSpace c = false) :
    trimStart text = text := by
  cases text with
  | nil => rfl
  | cons c text => exact List.dropWhile_cons_of_neg (Bool.eq_false_iff.1 (h c rfl))

theorem first_trimStart (text : List Char) :
    ∀ c ∈ (trimStart text).head?, isWhiteSpace c = false := by
  intro c hc
  have hhead := List.head?_dropWhile_not isWhiteSpace text
  rw [trimStart, Option.mem_def] at hc
  rw [hc] at hhead
  exact hhead

/-- A text is white space and then what trimming its start leaves. -/
theorem exists_append_trimStart (text : List Char) :
    ∃ before, text = before ++ trimStart text ∧ ∀ c ∈ before, isWhiteSpace c = true := by
  refine ⟨text.takeWhile isWhiteSpace, List.takeWhile_append_dropWhile.symm, fun c hc => ?_⟩
  exact List.mem_takeWhile_imp hc

/-- A text without the white space at its end. -/
theorem exists_trimEnd (text : List Char) :
    ∃ inner after, text = inner ++ after ∧ (∀ c ∈ after, isWhiteSpace c = true) ∧
      ∀ c ∈ inner.getLast?, isWhiteSpace c = false := by
  obtain ⟨before, htext, hbefore⟩ := exists_append_trimStart text.reverse
  refine ⟨(trimStart text.reverse).reverse, before.reverse, ?_, ?_, ?_⟩
  · rw [← List.reverse_append, ← htext, List.reverse_reverse]
  · intro c hc
    exact hbefore c (List.mem_reverse.1 hc)
  · rw [List.getLast?_reverse]
    exact first_trimStart text.reverse

/-- Trimming leaves exactly the text without the white space around it. -/
theorem IsTrimmed.trim_eq {text inner : List Char} (h : IsTrimmed text inner) :
    trim text = inner := by
  obtain ⟨before, after, rfl, hbefore, hafter⟩ := h.around
  rw [trim, trimStart_append hbefore]
  cases hinner : inner with
  | nil =>
    -- Nothing but white space: it is all gone after the first cut.
    have hnil : trimStart ([] ++ after) = [] := by
      simpa [trimStart] using trimStart_append hafter []
    rw [hnil]
    rfl
  | cons c cs =>
    have hfirst : ∀ d ∈ (inner ++ after).head?, isWhiteSpace d = false := by
      intro d hd
      refine h.first d ?_
      rw [hinner] at hd ⊢
      exact hd
    have hlast : ∀ d ∈ inner.reverse.head?, isWhiteSpace d = false := by
      rw [List.head?_reverse]
      exact h.last
    have hafter' : ∀ d ∈ after.reverse, isWhiteSpace d = true := by
      intro d hd
      exact hafter d (List.mem_reverse.1 hd)
    rw [← hinner, trimStart_of_first hfirst, List.reverse_append, trimStart_append hafter',
      trimStart_of_first hlast, List.reverse_reverse]

theorem isTrimmed_trim (text : List Char) : IsTrimmed text (trim text) := by
  obtain ⟨before, htext, hbefore⟩ := exists_append_trimStart text
  obtain ⟨inner, after, hstart, hafter, hlast⟩ := exists_trimEnd (trimStart text)
  have htrimmed : IsTrimmed text inner := by
    refine ⟨⟨before, after, ?_, hbefore, hafter⟩, ?_, hlast⟩
    · rw [← hstart]
      exact htext
    · intro c hc
      refine first_trimStart text c ?_
      rw [hstart, List.head?_append, Option.mem_def.1 hc]
      rfl
  rw [htrimmed.trim_eq]
  exact htrimmed

end Text

namespace MySql.Server

/-! ## Runs of digits -/

/-- The digits are a run that does not go on into the rest. -/
structure IsRun (digits rest : List Char) : Prop where
  ne_nil : digits ≠ []
  digits : ∀ c ∈ digits, Text.isDecimalDigit c = true
  ends : ∀ c ∈ rest.head?, Text.isDecimalDigit c = false

namespace IsRun

variable {digits rest : List Char}

theorem takeWhile_eq (h : IsRun digits rest) :
    (digits ++ rest).takeWhile Text.isDecimalDigit = digits := by
  have hrest : rest.takeWhile Text.isDecimalDigit = [] := by
    cases rest with
    | nil => rfl
    | cons c rest => exact List.takeWhile_cons_of_neg (Bool.eq_false_iff.1 (h.ends c rfl))
  rw [List.takeWhile_append_of_pos h.digits, hrest, List.append_nil]

theorem dropWhile_eq (h : IsRun digits rest) :
    (digits ++ rest).dropWhile Text.isDecimalDigit = rest := by
  have hrest : rest.dropWhile Text.isDecimalDigit = rest := by
    cases rest with
    | nil => rfl
    | cons c rest => exact List.dropWhile_cons_of_neg (Bool.eq_false_iff.1 (h.ends c rfl))
  rw [List.dropWhile_append_of_pos h.digits, hrest]

theorem isEmpty_eq (h : IsRun digits rest) : digits.isEmpty = false := by
  rw [List.isEmpty_eq_false_iff]
  exact h.ne_nil

/-- The digits that a text starts with are a run, if there are any. -/
theorem of_takeWhile {text : List Char}
    (h : (text.takeWhile Text.isDecimalDigit).isEmpty = false) :
    IsRun (text.takeWhile Text.isDecimalDigit) (text.dropWhile Text.isDecimalDigit) where
  ne_nil := List.isEmpty_eq_false_iff.1 h
  digits c hc := List.mem_takeWhile_imp hc
  ends c hc := by
    have hhead := List.head?_dropWhile_not Text.isDecimalDigit text
    rw [Option.mem_def.1 hc] at hhead
    exact hhead

end IsRun

theorem isDecimalDigit_point : Text.isDecimalDigit '.' = false := by decide

/-! ## Taking a text apart -/

/-- What stands between the second number and the decoration: a point and the third number, unless
the decoration follows at once. -/
inductive IsMiddle : List Char → List Char → Option (List Char) → Prop where
  | patch {digits decoration : List Char} (h : IsRun digits decoration) :
    IsMiddle ('.' :: digits) decoration (some digits)
  | nothing {decoration : List Char}
    (h : ∀ c rest, decoration = '.' :: c :: rest → Text.isDecimalDigit c = false) :
    IsMiddle [] decoration none

/-- A third number is split off exactly if a point and digits stand there. -/
theorem splitPatch_eq_iff {text : List Char} {patch : Option (List Char)}
    {decoration : List Char} :
    splitPatch text = (patch, decoration) ↔
      ∃ middle, text = middle ++ decoration ∧ IsMiddle middle decoration patch := by
  constructor
  · intro h
    unfold splitPatch at h
    split at h
    · next rest =>
      split at h
      · next hempty =>
        obtain ⟨rfl, rfl⟩ := Prod.mk.inj h
        refine ⟨[], rfl, .nothing fun c rest' hrest => ?_⟩
        obtain ⟨-, rfl⟩ := List.cons.inj hrest
        -- A digit behind the point would be a run.
        by_contra hc
        rw [Bool.not_eq_false] at hc
        rw [List.takeWhile_cons_of_pos hc] at hempty
        exact absurd hempty (by simp)
      · next hdigits =>
        obtain ⟨rfl, rfl⟩ := Prod.mk.inj h
        have hrun := IsRun.of_takeWhile (Bool.eq_false_iff.2 hdigits)
        exact ⟨_, by rw [List.cons_append, List.takeWhile_append_dropWhile], .patch hrun⟩
    · next hpoint =>
      obtain ⟨rfl, rfl⟩ := Prod.mk.inj h
      exact ⟨[], rfl, .nothing fun c rest htext => absurd htext (hpoint _)⟩
  · rintro ⟨middle, rfl, hmiddle⟩
    cases hmiddle with
    | patch hrun =>
      rw [List.cons_append, splitPatch, hrun.takeWhile_eq, hrun.dropWhile_eq, hrun.isEmpty_eq]
      rfl
    | nothing h =>
      rw [List.nil_append]
      unfold splitPatch
      split
      · next rest =>
        have hempty : (rest.takeWhile Text.isDecimalDigit).isEmpty = true := by
          cases rest with
          | nil => rfl
          | cons c rest =>
            rw [List.takeWhile_cons_of_neg (Bool.eq_false_iff.1 (h c rest rfl))]
            rfl
        rw [if_pos hempty]
      · rfl

/-- The split of a text whose digits end at a point needs digits on both sides of it. -/
theorem split?_of_point {text rest : List Char}
    (h : text.dropWhile Text.isDecimalDigit = '.' :: rest) :
    split? text =
      if (text.takeWhile Text.isDecimalDigit).isEmpty ||
          (rest.takeWhile Text.isDecimalDigit).isEmpty
      then none
      else some ⟨text.takeWhile Text.isDecimalDigit, rest.takeWhile Text.isDecimalDigit,
        (splitPatch (rest.dropWhile Text.isDecimalDigit)).1,
        (splitPatch (rest.dropWhile Text.isDecimalDigit)).2⟩ := by
  rw [split?, h]
  rfl

theorem split?_of_not_point {text : List Char}
    (h : ∀ rest, text.dropWhile Text.isDecimalDigit ≠ '.' :: rest) : split? text = none := by
  unfold split?
  split
  · next rest hrest => exact absurd hrest (h rest)
  · rfl

/-- The text is a version without a front, in the given parts. -/
def IsNumbered (text : List Char) (v : VersionText) : Prop :=
  ∃ middle, text = v.major ++ '.' :: (v.minor ++ (middle ++ v.decoration)) ∧
    IsRun v.major ('.' :: (v.minor ++ (middle ++ v.decoration))) ∧
    IsRun v.minor (middle ++ v.decoration) ∧ IsMiddle middle v.decoration v.patch

/-- The parts of a split are those that the text is made up of. -/
theorem split?_eq_some_iff {text : List Char} {v : VersionText} :
    split? text = some v ↔ IsNumbered text v := by
  constructor
  · intro h
    by_cases hpoint : ∃ rest, text.dropWhile Text.isDecimalDigit = '.' :: rest
    · obtain ⟨rest, hrest⟩ := hpoint
      rcases hsplit : splitPatch (rest.dropWhile Text.isDecimalDigit) with ⟨patch, decoration⟩
      rw [split?_of_point hrest, hsplit] at h
      simp only [Option.ite_none_left_eq_some, Bool.or_eq_true, not_or, Bool.not_eq_true,
        Option.some.injEq] at h
      obtain ⟨⟨hmajor, hminor⟩, rfl⟩ := h
      obtain ⟨middle, hbehind, hmiddle⟩ := splitPatch_eq_iff.1 hsplit
      have hrest' : rest.takeWhile Text.isDecimalDigit ++ (middle ++ decoration) = rest := by
        rw [← hbehind, List.takeWhile_append_dropWhile]
      refine ⟨middle, ?_, ?_, ?_, hmiddle⟩
      · rw [hrest', ← hrest, List.takeWhile_append_dropWhile]
      · rw [hrest', ← hrest]
        exact IsRun.of_takeWhile hmajor
      · rw [← hbehind]
        exact IsRun.of_takeWhile hminor
    · rw [split?_of_not_point fun rest hrest => hpoint ⟨rest, hrest⟩] at h
      exact absurd h (by simp)
  · rintro ⟨middle, rfl, hmajor, hminor, hmiddle⟩
    have hpatch := splitPatch_eq_iff.2 ⟨middle, rfl, hmiddle⟩
    rw [split?_of_point hmajor.dropWhile_eq, hmajor.takeWhile_eq, hminor.takeWhile_eq,
      hminor.dropWhile_eq, hpatch, hmajor.isEmpty_eq, hminor.isEmpty_eq]
    rfl

/-- A text starts with a version as soon as it starts with digits, a point and a digit. -/
theorem isSome_split?_iff {text : List Char} :
    (split? text).isSome = true ↔
      ∃ digits c rest, digits ≠ [] ∧ (∀ d ∈ digits, Text.isDecimalDigit d = true) ∧
        Text.isDecimalDigit c = true ∧ text = digits ++ '.' :: c :: rest := by
  constructor
  · intro h
    obtain ⟨v, hv⟩ := Option.isSome_iff_exists.1 h
    obtain ⟨middle, rfl, hmajor, hminor, -⟩ := split?_eq_some_iff.1 hv
    obtain ⟨c, digits, hminorEq⟩ := List.exists_cons_of_ne_nil hminor.ne_nil
    refine ⟨v.major, c, digits ++ (middle ++ v.decoration), hmajor.ne_nil, hmajor.digits, ?_, ?_⟩
    · exact hminor.digits c (by rw [hminorEq]; exact List.mem_cons_self)
    · rw [hminorEq, List.cons_append]
  · rintro ⟨digits, c, rest, hne, hdigits, hc, rfl⟩
    have hmajor : IsRun digits ('.' :: c :: rest) := by
      refine ⟨hne, hdigits, fun d hd => ?_⟩
      obtain rfl : '.' = d := by simpa using hd
      exact isDecimalDigit_point
    have hminor : ((c :: rest).takeWhile Text.isDecimalDigit).isEmpty = false := by
      rw [List.takeWhile_cons_of_pos hc]
      rfl
    rw [split?_of_point hmajor.dropWhile_eq, hmajor.takeWhile_eq, hmajor.isEmpty_eq, hminor]
    rfl

/-! ## The front -/

/-- A version stands behind the front that old servers put before theirs. -/
def IsDisguised (text : List Char) : Prop :=
  ∃ digits c rest, digits ≠ [] ∧ (∀ d ∈ digits, Text.isDecimalDigit d = true) ∧
    Text.isDecimalDigit c = true ∧ text = disguise ++ (digits ++ '.' :: c :: rest)

/-- What stands before the version in a text. -/
def IsFront (text front : List Char) : Prop :=
  IsDisguised text ∧ front = disguise ∨ ¬IsDisguised text ∧ front = []

/-- A front disguises a text exactly if the text itself can be split. -/
theorem isDisguised_append_iff {text : List Char} :
    IsDisguised (disguise ++ text) ↔ (split? text).isSome = true := by
  simp only [IsDisguised, isSome_split?_iff, List.append_cancel_left_eq]

/-- Behind the front the version is looked for first; if there is none, the front is part of it. -/
theorem splitDisguised?_append (text : List Char) :
    splitDisguised? (disguise ++ text) = (split? text).or (split? (disguise ++ text)) := by
  have hprefix : disguise.isPrefixOf (disguise ++ text) = true :=
    List.isPrefixOf_iff_prefix.2 (List.prefix_append disguise text)
  rw [splitDisguised?, if_pos hprefix, List.drop_left]

theorem splitDisguised?_of_not {text : List Char} (h : ¬IsDisguised text) :
    splitDisguised? text = split? text := by
  unfold splitDisguised?
  split
  · next hprefix =>
    obtain ⟨rest, rfl⟩ := List.isPrefixOf_iff_prefix.1 hprefix
    rw [isDisguised_append_iff, Option.not_isSome_iff_eq_none] at h
    rw [List.drop_left, h, Option.none_or]
  · rfl

theorem splitDisguised?_of_isSome {text : List Char} (h : (split? text).isSome = true) :
    splitDisguised? (disguise ++ text) = split? text := by
  rw [splitDisguised?_append, Option.or_of_isSome h]

/-- The parts of a version are those behind its front, if it has one. -/
theorem splitDisguised?_eq_some_iff {text : List Char} {v : VersionText} :
    splitDisguised? text = some v ↔
      ∃ front rest, text = front ++ rest ∧ IsFront text front ∧ IsNumbered rest v := by
  constructor
  · intro h
    by_cases hdisguised : IsDisguised text
    · obtain ⟨digits, c, rest, hne, hdigits, hc, rfl⟩ := hdisguised
      have hsome := isSome_split?_iff.2 ⟨digits, c, rest, hne, hdigits, hc, rfl⟩
      rw [splitDisguised?_of_isSome hsome] at h
      exact ⟨disguise, _, rfl, .inl ⟨isDisguised_append_iff.2 hsome, rfl⟩, split?_eq_some_iff.1 h⟩
    · rw [splitDisguised?_of_not hdisguised] at h
      exact ⟨[], text, rfl, .inr ⟨hdisguised, rfl⟩, split?_eq_some_iff.1 h⟩
  · rintro ⟨front, rest, rfl, ⟨hdisguised, rfl⟩ | ⟨hplain, rfl⟩, hv⟩
    · rw [splitDisguised?_of_isSome (isDisguised_append_iff.1 hdisguised)]
      exact split?_eq_some_iff.2 hv
    · rw [splitDisguised?_of_not hplain]
      exact split?_eq_some_iff.2 hv

/-! ## Numbers and products -/

/-- The digits are ASCII digits, and their value is the number. -/
def Spells (digits : List Char) (n : UInt32) : Prop :=
  (∀ c ∈ digits, c.isDigit = true) ∧ Nat.ofDigitChars 10 digits 0 = n.toNat

/-- The name of the product stands in the decoration, in letters of either case. -/
def NamesMariaDb (decoration : List Char) : Prop :=
  ∃ before name after, decoration = before ++ (name ++ after) ∧
    name.map Char.toLower = "mariadb".toList

/-- A number is read exactly if ASCII digits spell it. -/
theorem number?_eq_some_iff {digits : List Char} (hne : digits ≠ []) {n : UInt32} :
    number? digits = some n ↔ Spells digits n := by
  have hempty : digits.isEmpty = false := List.isEmpty_eq_false_iff.2 hne
  by_cases hdigits : digits.all Char.isDigit = true
  · have hall : ∀ c ∈ digits, c.isDigit = true := List.all_eq_true.1 hdigits
    have hvalue : number? digits =
        if Nat.ofDigitChars 10 digits 0 < UInt32.size then
          some (UInt32.ofNat (Nat.ofDigitChars 10 digits 0))
        else none := by
      rw [number?, Text.decimalValue?, hempty, hdigits]
      rfl
    rw [hvalue, Spells]
    split
    · next hlt =>
      rw [Option.some.injEq, ← UInt32.toNat_inj, UInt32.toNat_ofNat_of_lt' hlt]
      exact ⟨fun h => ⟨hall, h⟩, fun h => h.2⟩
    · next hge =>
      constructor
      · intro h
        exact absurd h (by simp)
      · rintro ⟨-, h⟩
        exact absurd (h ▸ n.toNat_lt) hge
  · have hnone : number? digits = none := by
      rw [number?, Text.decimalValue?, hempty, Bool.eq_false_iff.2 hdigits]
      rfl
    rw [hnone]
    constructor
    · intro h
      exact absurd h (by simp)
    · rintro ⟨hall, -⟩
      exact absurd (List.all_eq_true.2 hall) hdigits

/-- A server is taken for MariaDB exactly if the decoration names it. -/
theorem productOf_eq_mariaDb_iff {decoration : List Char} :
    productOf decoration = .mariaDb ↔ NamesMariaDb decoration := by
  have hoccurs : productOf decoration = .mariaDb ↔
      Text.occursIn "mariadb".toList (decoration.map Char.toLower) = true := by
    unfold productOf
    split
    · next h => exact ⟨fun _ => h, fun _ => rfl⟩
    · next h => exact ⟨fun hp => absurd hp (by decide), fun hocc => absurd hocc h⟩
  rw [hoccurs, Text.occursIn_iff]
  constructor
  · rintro ⟨before, after, h⟩
    rw [List.append_assoc] at h
    obtain ⟨before', rest, rfl, -, hrest⟩ := List.map_eq_append_iff.1 h
    obtain ⟨name, after', rfl, hname, -⟩ := List.map_eq_append_iff.1 hrest
    exact ⟨before', name, after', rfl, hname⟩
  · rintro ⟨before, name, after, rfl, hname⟩
    refine ⟨before.map Char.toLower, after.map Char.toLower, ?_⟩
    rw [List.map_append, List.map_append, hname, List.append_assoc]

theorem product_eq_iff {product : Product} {decoration : List Char} :
    productOf decoration = product ↔ (product = .mariaDb ↔ NamesMariaDb decoration) := by
  rw [← productOf_eq_mariaDb_iff]
  cases product <;> cases productOf decoration <;> decide

/-! ## Reading follows the grammar -/

/-- The third number of a version; one that is not there is zero. -/
def SpellsPatch (patch : Option (List Char)) (n : UInt32) : Prop :=
  match patch with
  | none => n = 0
  | some digits => Spells digits n

/-- The text, without white space around it, is a version of the server. -/
def Describes (text : List Char) (server : Server) : Prop :=
  ∃ front major minor middle decoration patch,
    text = front ++ (major ++ '.' :: (minor ++ (middle ++ decoration))) ∧
    IsFront text front ∧
    IsRun major ('.' :: (minor ++ (middle ++ decoration))) ∧
    IsRun minor (middle ++ decoration) ∧
    IsMiddle middle decoration patch ∧
    '\n' ∉ decoration ∧
    Spells major server.major ∧ Spells minor server.minor ∧ SpellsPatch patch server.patch ∧
    (server.product = .mariaDb ↔ NamesMariaDb decoration)

theorem ofVersionText?_eq_some_iff {v : VersionText} {server : Server} (hmajor : v.major ≠ [])
    (hminor : v.minor ≠ []) (hpatch : ∀ digits ∈ v.patch, digits ≠ []) :
    ofVersionText? v = some server ↔
      '\n' ∉ v.decoration ∧ Spells v.major server.major ∧ Spells v.minor server.minor ∧
        SpellsPatch v.patch server.patch ∧
        (server.product = .mariaDb ↔ NamesMariaDb v.decoration) := by
  obtain ⟨major, minor, patch, decoration⟩ := v
  obtain ⟨product, m, n, p⟩ := server
  simp only [ofVersionText?, Option.bind_eq_bind, Option.ite_none_left_eq_some,
    List.contains_iff_mem, Option.bind_eq_some_iff, number?_eq_some_iff hmajor,
    number?_eq_some_iff hminor, ← product_eq_iff]
  cases patch with
  | none =>
    simp only [Option.bind_some, Option.pure_def, Option.some.injEq, Server.mk.injEq, SpellsPatch]
    constructor
    · rintro ⟨hline, _, hm, _, hn, rfl, rfl, rfl, rfl⟩
      exact ⟨hline, hm, hn, rfl, rfl⟩
    · rintro ⟨hline, hm, hn, rfl, rfl⟩
      exact ⟨hline, m, hm, n, hn, rfl, rfl, rfl, rfl⟩
  | some digits =>
    simp only [Option.bind_eq_some_iff, number?_eq_some_iff (hpatch digits rfl), Option.pure_def,
      Option.some.injEq, Server.mk.injEq, SpellsPatch]
    constructor
    · rintro ⟨hline, _, hm, _, hn, _, hp, rfl, rfl, rfl, rfl⟩
      exact ⟨hline, hm, hn, hp, rfl⟩
    · rintro ⟨hline, hm, hn, hp, rfl⟩
      exact ⟨hline, m, hm, n, hn, p, hp, rfl, rfl, rfl, rfl⟩

theorem IsMiddle.ne_nil {middle decoration : List Char} {patch : Option (List Char)}
    (h : IsMiddle middle decoration patch) : ∀ digits ∈ patch, digits ≠ [] := by
  intro digits hdigits
  cases h with
  | patch hrun =>
    obtain rfl := Option.some.inj hdigits
    exact hrun.ne_nil
  | nothing _ => exact absurd hdigits (by simp)

/-- A text is read as a server exactly if the grammar says so. -/
theorem read?_eq_some_iff {text : String} {server : Server} :
    read? text = some server ↔ Describes (Text.trim text.toList) server := by
  rw [read?, Option.bind_eq_some_iff]
  constructor
  · rintro ⟨v, hv, hserver⟩
    obtain ⟨front, rest, htext, hfront, middle, rfl, hmajor, hminor, hmiddle⟩ :=
      splitDisguised?_eq_some_iff.1 hv
    have hparts := (ofVersionText?_eq_some_iff hmajor.ne_nil hminor.ne_nil hmiddle.ne_nil).1 hserver
    exact ⟨front, v.major, v.minor, middle, v.decoration, v.patch, htext, hfront, hmajor, hminor,
      hmiddle, hparts⟩
  · rintro ⟨front, major, minor, middle, decoration, patch, htext, hfront, hmajor, hminor, hmiddle,
      hparts⟩
    refine ⟨⟨major, minor, patch, decoration⟩, ?_, ?_⟩
    · exact splitDisguised?_eq_some_iff.2 ⟨front, _, htext, hfront, middle, rfl, hmajor, hminor,
        hmiddle⟩
    · exact (ofVersionText?_eq_some_iff hmajor.ne_nil hminor.ne_nil hmiddle.ne_nil).2 hparts

/-- A text is read as a server exactly if it describes the server. -/
theorem read_eq_ok_iff {text : String} {server : Server} :
    read text = .ok server ↔ Describes (Text.trim text.toList) server := by
  rw [← read?_eq_some_iff, read]
  cases read? text with
  | none => simp
  | some found => simp

/-- A text that describes no server is refused with the text itself, and no other text is. -/
theorem read_eq_error_iff {text : String} {e : Error} :
    read text = .error e ↔
      e = .invalidVersion text ∧ ∀ server, ¬Describes (Text.trim text.toList) server := by
  simp only [← read?_eq_some_iff, read]
  cases read? text with
  | none => simp [eq_comm]
  | some found => simp

end MySql.Server

end SqlScribe
