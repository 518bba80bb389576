import Mathlib.Data.List.MinMax
import SqlScribe.MySql.CastRules

/-!
# The order of cast rules

The first rule that covers a type decides, so the order of the rules matters where one start goes on
into another: `date` covers all that `datetime` covers. If no rule comes before one that continues
its starts (`CastRules.LongerFirst`), nothing is lost: the rule that decides is the one that has the
longest start of the name, the first of them if there are several.

Two starts of one name are comparable, the shorter one starts the longer one. This is what turns the
condition on pairs of starts into a statement about the longest of all (`find?_covers_eq_holder?`).

What the longest start is does not depend on the order. So if no two rules share a start, as in
`CastRules.mySql`, all orders with `LongerFirst` give the same keywords.
-/

namespace SqlScribe

namespace Text

theorem startsWith_iff {text start : String} :
    startsWith text start = true ↔ start.toList <+: text.toList :=
  List.isPrefixOf_iff_prefix

/-- Of two starts of a text, the shorter one starts the longer one. -/
theorem startsWith_of_length_le {text short long : String} (hshort : startsWith text short = true)
    (hlong : startsWith text long = true) (hle : short.length ≤ long.length) :
    startsWith long short = true := by
  rw [startsWith_iff] at *
  refine List.prefix_of_prefix_length_le hshort hlong ?_
  rwa [String.length_toList, String.length_toList]

end Text

namespace MySql

/-- A rule covers the names that start with one of its starts. -/
theorem CastRule.covers_iff {rule : CastRule} {name : String} :
    rule.covers name = true ↔ ∃ start ∈ rule.starts, Text.startsWith name start = true :=
  List.any_eq_true

namespace CastRules

/-! ## Orders and longest starts -/

/-- No start of a rule goes on into a start of a later rule. -/
def LongerFirst (rules : CastRules) : Prop :=
  rules.Pairwise fun rule later => ∀ start ∈ rule.starts, ∀ longer ∈ later.starts,
    Text.startsWith longer start = true → longer = start

instance (rules : CastRules) : Decidable rules.LongerFirst :=
  inferInstanceAs (Decidable (List.Pairwise _ _))

example : ¬LongerFirst [⟨"date", ["date"]⟩, ⟨"datetime", ["datetime"]⟩] := by decide

/-- Some rule has the start, which is one of the name, and no rule has a longer one. -/
structure IsLongestStart (rules : CastRules) (name start : String) : Prop where
  held : ∃ rule ∈ rules, start ∈ rule.starts
  starts : Text.startsWith name start = true
  longest : ∀ rule ∈ rules, ∀ other ∈ rule.starts, Text.startsWith name other = true →
    other.length ≤ start.length

/-- The first rule that has the start. -/
def holder? (rules : CastRules) (start : String) : Option CastRule :=
  rules.find? (·.starts.contains start)

variable {rules rules' : CastRules} {name start : String}

theorem mem_of_find?_covers {rule : CastRule} (h : rules.find? (·.covers name) = some rule) :
    rule ∈ rules ∧ rule.covers name = true := by
  have hcovers := List.find?_some h
  exact ⟨List.mem_of_find?_eq_some h, hcovers⟩

theorem mem_of_holder? {rule : CastRule} (h : rules.holder? start = some rule) :
    rule ∈ rules ∧ start ∈ rule.starts := by
  have hholds := List.find?_some h
  exact ⟨List.mem_of_find?_eq_some h, List.contains_iff_mem.1 hholds⟩

/-- A name has no keyword exactly if it starts with no start of any rule. -/
theorem keyword?_eq_none_iff : rules.keyword? name = none ↔
    ∀ rule ∈ rules, ∀ start ∈ rule.starts, Text.startsWith name start = false := by
  unfold keyword?
  rw [Option.map_eq_none_iff, List.find?_eq_none]
  simp only [CastRule.covers_iff, not_exists, not_and, Bool.not_eq_true]

/-- A name that some rule covers has a longest start. -/
theorem exists_isLongestStart {rule : CastRule} (hrule : rule ∈ rules)
    (hcovers : rule.covers name = true) : ∃ start, rules.IsLongestStart name start := by
  obtain ⟨start, hstart, hname⟩ := CastRule.covers_iff.1 hcovers
  -- All starts of the name, of all rules.
  let starts := (rules.flatMap (·.starts)).filter (Text.startsWith name)
  have mem_starts : ∀ {other}, other ∈ starts ↔
      (∃ rule ∈ rules, other ∈ rule.starts) ∧ Text.startsWith name other = true := by
    intro other
    rw [List.mem_filter, List.mem_flatMap]
  cases hmax : starts.argmax String.length with
  | none =>
    have hmem : start ∈ starts := mem_starts.2 ⟨⟨rule, hrule, hstart⟩, hname⟩
    rw [List.argmax_eq_none.1 hmax] at hmem
    exact absurd hmem List.not_mem_nil
  | some longest =>
    obtain ⟨hheld, hlongest⟩ := mem_starts.1 (List.argmax_mem hmax)
    refine ⟨longest, hheld, hlongest, ?_⟩
    intro rule' hrule' other hother hother'
    exact List.le_of_mem_argmax (mem_starts.2 ⟨⟨rule', hrule', hother⟩, hother'⟩) hmax

/-! ## The deciding rule -/

/-- A rule that covers the name has its longest start, if no later rule continues its starts. -/
theorem IsLongestStart.mem_of_covers {rule : CastRule} {later : CastRules}
    (h : IsLongestStart (rule :: later) name start) (horder : LongerFirst (rule :: later))
    (hcovers : rule.covers name = true) : start ∈ rule.starts := by
  obtain ⟨short, hshort, hname⟩ := CastRule.covers_iff.1 hcovers
  have hle := h.longest rule List.mem_cons_self short hshort hname
  have hcontinues := Text.startsWith_of_length_le hname h.starts hle
  obtain ⟨holder, hholder, hstart⟩ := h.held
  obtain rfl | hlater := List.mem_cons.1 hholder
  · exact hstart
  · have heq := (List.pairwise_cons.1 horder).1 holder hlater short hshort start hstart hcontinues
    rwa [heq]

/-- Behind a rule that does not cover the name, the longest start is the same. -/
theorem IsLongestStart.of_not_covers {rule : CastRule} {later : CastRules}
    (h : IsLongestStart (rule :: later) name start) (hcovers : rule.covers name = false) :
    IsLongestStart later name start where
  held := by
    obtain ⟨holder, hholder, hstart⟩ := h.held
    obtain rfl | hlater := List.mem_cons.1 hholder
    · have hholds := CastRule.covers_iff.2 ⟨start, hstart, h.starts⟩
      exact absurd (hholds.symm.trans hcovers) (by decide)
    · exact ⟨holder, hlater, hstart⟩
  starts := h.starts
  longest other hother := h.longest other (List.mem_cons_of_mem rule hother)

/-- The first rule that covers a name is the first one that has the longest start. -/
theorem find?_covers_eq_holder? (horder : rules.LongerFirst)
    (h : rules.IsLongestStart name start) :
    rules.find? (·.covers name) = rules.holder? start := by
  unfold holder?
  induction rules with
  | nil =>
    obtain ⟨rule, hrule, -⟩ := h.held
    exact absurd hrule List.not_mem_nil
  | cons rule later ih =>
    by_cases hcovers : rule.covers name = true
    · have hholds := List.contains_iff_mem.2 (h.mem_of_covers horder hcovers)
      simp only [List.find?_cons, hcovers, hholds]
    · rw [Bool.not_eq_true] at hcovers
      have hlacks : rule.starts.contains start = false := by
        refine Bool.eq_false_iff.2 fun hholds => ?_
        have hstart := List.contains_iff_mem.1 hholds
        exact absurd (CastRule.covers_iff.2 ⟨start, hstart, h.starts⟩) (by simp [hcovers])
      simp only [List.find?_cons, hcovers, hlacks]
      exact ih (List.pairwise_cons.1 horder).2 (h.of_not_covers hcovers)

/-- The keyword of a name is that of the rule that holds its longest start. -/
theorem keyword?_eq_some_iff (horder : rules.LongerFirst) {keyword : String} :
    rules.keyword? name = some keyword ↔
      ∃ start rule, rules.IsLongestStart name start ∧ rules.holder? start = some rule ∧
        rule.keyword = keyword := by
  unfold keyword?
  rw [Option.map_eq_some_iff]
  constructor
  · rintro ⟨rule, hfind, hkeyword⟩
    obtain ⟨hrule, hcovers⟩ := mem_of_find?_covers hfind
    obtain ⟨start, hlongest⟩ := exists_isLongestStart hrule hcovers
    rw [find?_covers_eq_holder? horder hlongest] at hfind
    exact ⟨start, rule, hlongest, hfind, hkeyword⟩
  · rintro ⟨start, rule, hlongest, hholder, hkeyword⟩
    rw [find?_covers_eq_holder? horder hlongest]
    exact ⟨rule, hholder, hkeyword⟩

/-! ## Other orders -/

/-- No two rules share a start. -/
def SharesNoStart (rules : CastRules) : Prop :=
  ∀ rule ∈ rules, ∀ other ∈ rules, ∀ start ∈ rule.starts, start ∈ other.starts → other = rule

instance (rules : CastRules) : Decidable rules.SharesNoStart :=
  inferInstanceAs (Decidable (∀ rule ∈ rules, _))

/-- The rules of MySQL list a longer start before each start that it continues. -/
theorem mySql_longerFirst : mySql.LongerFirst := by decide +kernel

/-- No two rules of MySQL have a start in common. -/
theorem mySql_sharesNoStart : mySql.SharesNoStart := by decide +kernel

/-- What the longest start of a name is does not depend on the order of the rules. -/
theorem IsLongestStart.perm (hperm : rules.Perm rules') (h : rules.IsLongestStart name start) :
    rules'.IsLongestStart name start where
  held := by
    obtain ⟨rule, hrule, hstart⟩ := h.held
    exact ⟨rule, hperm.mem_iff.1 hrule, hstart⟩
  starts := h.starts
  longest rule hrule := h.longest rule (hperm.mem_iff.2 hrule)

/-- If no two rules share a start, it has the same holder in every order. -/
theorem SharesNoStart.holder?_perm (hstarts : rules'.SharesNoStart) (hperm : rules.Perm rules')
    {rule : CastRule} (h : rules.holder? start = some rule) : rules'.holder? start = some rule := by
  obtain ⟨hrule, hstart⟩ := mem_of_holder? h
  rw [hperm.mem_iff] at hrule
  cases hholder : rules'.holder? start with
  | none => exact absurd (List.contains_iff_mem.2 hstart) (List.find?_eq_none.1 hholder rule hrule)
  | some other =>
    obtain ⟨hother, hshared⟩ := mem_of_holder? hholder
    rw [hstarts rule hrule other hother start hstart hshared]

/-- Two orders of the same rules give the same keywords, if both are orders with `LongerFirst` and
no two of the rules share a start. -/
theorem keyword?_perm (hstarts : rules'.SharesNoStart) (hperm : rules.Perm rules')
    (horder : rules.LongerFirst) (horder' : rules'.LongerFirst) (name : String) :
    rules.keyword? name = rules'.keyword? name := by
  cases hkeyword : rules.keyword? name with
  | none =>
    rw [keyword?_eq_none_iff] at hkeyword
    refine (keyword?_eq_none_iff.2 fun rule hrule => ?_).symm
    exact hkeyword rule (hperm.mem_iff.2 hrule)
  | some keyword =>
    obtain ⟨start, rule, hlongest, hholder, rfl⟩ := (keyword?_eq_some_iff horder).1 hkeyword
    refine ((keyword?_eq_some_iff horder').2 ?_).symm
    exact ⟨start, rule, hlongest.perm hperm, hstarts.holder?_perm hperm hholder, rfl⟩

/-- In an order in which no rule comes before one that continues its starts, the keyword of a name
is that of the first rule with the longest start of it, and a name has none exactly if no rule has a
start of it. The rules of MySQL are in such an order, and in any other such order they give the same
keywords. -/
theorem longest_start_decides :
    (∀ rules : CastRules, rules.LongerFirst → ∀ name,
      (∀ keyword, rules.keyword? name = some keyword ↔
        ∃ start rule, rules.IsLongestStart name start ∧ rules.holder? start = some rule ∧
          rule.keyword = keyword) ∧
      (rules.keyword? name = none ↔
        ∀ rule ∈ rules, ∀ start ∈ rule.starts, Text.startsWith name start = false)) ∧
    mySql.LongerFirst ∧
    ∀ rules : CastRules, rules.Perm mySql → rules.LongerFirst →
      ∀ name, rules.keyword? name = mySql.keyword? name := by
  refine ⟨?_, mySql_longerFirst, ?_⟩
  · intro rules horder name
    exact ⟨fun _ => keyword?_eq_some_iff horder, keyword?_eq_none_iff⟩
  · intro rules hperm horder name
    exact keyword?_perm mySql_sharesNoStart hperm horder mySql_longerFirst name

/-- The rules of MySQL with those for timestamps, and all behind them, moved to the front. -/
theorem timestamps_first_decide_alike :
    LongerFirst (mySql.rotateLeft 8) ∧
      (∀ name, keyword? (mySql.rotateLeft 8) name = mySql.keyword? name) ∧
      ∃ start rule, IsLongestStart (mySql.rotateLeft 8) "timestamp(6) null" start ∧
        holder? (mySql.rotateLeft 8) start = some rule ∧ rule.keyword = "timestamp(6)" := by
  obtain ⟨hlongest, -, horders⟩ := longest_start_decides
  have horder : LongerFirst (mySql.rotateLeft 8) := by decide +kernel
  have hperm : (mySql.rotateLeft 8).Perm mySql := by decide +kernel
  have hkeyword : keyword? (mySql.rotateLeft 8) "timestamp(6) null" = some "timestamp(6)" := by
    decide +kernel
  exact ⟨horder, horders _ hperm horder, ((hlongest _ horder _).1 _).1 hkeyword⟩

end CastRules

end MySql

end SqlScribe
