import SqlScribe.Proofs.Grouping

/-!
# Reading expressions back

A `Phrase` is an expression of columns, strings, calls, choices, tests and binary operators without
its types and kinds. It has no sign or word that is put before an operand without parentheses, and
so its text can be read back: `Phrase.read` is a reader by recursive descent over the tokens that a
reader of quotes finds.

An operand is an atom with tests behind it, where the tests are gathered from left to right, and an
expression is an operand or a binary operator between two. What may follow an expression is told by
the level of its first mark (`Follows`). A function may be called `END`, so whether a choice has a
subject is only known from the character behind the word that follows `CASE` (`startsClause`).

The reader descends to a bound, and what it answers `Settles` once the bound is large enough. For
each construct there is one law that says how its tokens are read if those of its parts are read
(`IsOperand`, `IsPhrase`).
-/

namespace SqlScribe

/-- Expressions without a prefix operator, up to types and kinds. -/
inductive Phrase where
  | column (table : Option String) (name : String)
  | string (contents : String)
  | call (name : String) (args : List Phrase)
  | not (a : Phrase)
  | isNull (a : Phrase)
  | isNotNull (a : Phrase)
  | binary (op : BinaryOp) (a b : Phrase)
  | member (a : Phrase) (values : List Phrase) (negated : Bool)
  | choice (a : Option Phrase) (branches : List (Phrase × Phrase)) (c : Option Phrase)

namespace Phrase

/-! ## Marks -/

/-- The marks of operators, and those of a choice. -/
inductive Mark where
  | operator (mark : Reading.Mark)
  | branch
  | result
  | otherwise
  | ending
deriving DecidableEq

namespace Mark

/-- The text of a mark, with the blanks around it. -/
def text : Mark → String
  | operator m => m.text
  | branch => " WHEN "
  | result => " THEN "
  | otherwise => " ELSE "
  | ending => " END"

/-- The mark as a lexer sees it: characters outside quotes. -/
def tokens (m : Mark) : List Token := m.text.toList.map .plain

/-- What a mark may follow: one of a higher level belongs to what is before it. -/
def level : Mark → Nat
  | operator m => (Reading.Symbol.mark m).level
  | _ => 0

/-- Every mark. A reader that looks for any mark tries them in this order. -/
def all : List Mark := [branch, result, otherwise, ending] ++ Reading.Mark.all.map operator

theorem mem_all (m : Mark) : m ∈ all := by
  cases m with
  | operator m => exact List.mem_append_right _ (List.mem_map_of_mem m.mem_all)
  | _ => decide

theorem isWord_text (m : Mark) : Text.isWord m.text = true := by
  cases m with
  | operator m => exact m.isWord_text
  | _ => decide

/-- No mark begins with another one. -/
theorem eq_of_prefix {m n : Mark} (h : m.tokens <+: n.tokens) : m = n := by
  have hall : ∀ m ∈ all, ∀ n ∈ all, m.text.toList.isPrefixOf n.text.toList = true → m = n := by
    decide +kernel
  have hplain : Function.Injective Token.plain := fun _ _ hc => Token.plain.inj hc
  have hmn : m.text.toList <+: n.text.toList := (List.prefix_map_iff_of_injective hplain).1 h
  exact hall m m.mem_all n n.mem_all (List.isPrefixOf_iff_prefix.2 hmn)

/-- The marks that may follow an atom start with something that no name goes on with. -/
theorem exists_tokens_eq {m : Mark} (h : m.level < 4) :
    ∃ c ts, m.tokens = .plain c :: ts ∧ c.isAlpha = false ∧ c ≠ '(' := by
  have hall : ∀ m ∈ all, m.level < 4 →
      (m.text.toList.head?.any fun c => !c.isAlpha && c != '(') = true := by
    decide +kernel
  have hm := hall m m.mem_all h
  cases htext : m.text.toList with
  | nil =>
    rw [htext] at hm
    contradiction
  | cons c cs =>
    rw [htext] at hm
    simp only [List.head?_cons, Option.any_some, Bool.and_eq_true, Bool.not_eq_true',
      bne_iff_ne] at hm
    exact ⟨c, cs.map .plain, by rw [tokens, htext, List.map_cons], hm.1, hm.2⟩

end Mark

/-- The parenthesis that opens. -/
abbrev opening : Mark := .operator .opening

/-- The parenthesis that closes. -/
abbrev closing : Mark := .operator .closing

/-- What is left behind the mark. -/
def expect (m : Mark) (ts : List Token) : Option (List Token) :=
  if m.tokens.isPrefixOf ts then some (ts.drop m.tokens.length) else none

/-- The mark that comes next, and what is left behind it. -/
def next? (ts : List Token) : Option (Mark × List Token) :=
  Mark.all.findSome? fun m => (expect m ts).map (m, ·)

/-- A mark is taken exactly off texts that start with it. -/
theorem expect_eq_some_iff {m : Mark} {ts rest : List Token} :
    expect m ts = some rest ↔ ts = m.tokens ++ rest := by
  unfold expect
  constructor
  · intro h
    split at h
    case isTrue hprefix =>
      obtain ⟨us, rfl⟩ := List.isPrefixOf_iff_prefix.1 hprefix
      rw [List.drop_left, Option.some.injEq] at h
      rw [h]
    case isFalse => contradiction
  · rintro rfl
    rw [if_pos (List.isPrefixOf_iff_prefix.2 (List.prefix_append _ _)), List.drop_left]

@[simp]
theorem expect_append (m : Mark) (rest : List Token) : expect m (m.tokens ++ rest) = some rest :=
  expect_eq_some_iff.2 rfl

/-- At most one mark comes next. -/
theorem next?_eq_some_iff {m : Mark} {ts rest : List Token} :
    next? ts = some (m, rest) ↔ ts = m.tokens ++ rest := by
  have hsound : ∀ {n : Mark} {us : List Token}, next? ts = some (n, us) → ts = n.tokens ++ us := by
    intro n us h
    obtain ⟨k, -, hk⟩ := List.exists_of_findSome?_eq_some h
    obtain ⟨vs, hvs, heq⟩ := Option.map_eq_some_iff.1 hk
    cases heq
    exact expect_eq_some_iff.1 hvs
  refine ⟨hsound, fun h => ?_⟩
  -- The mark is among those that are tried, and the first that fits is the only one.
  have hsome : (next? ts).isSome = true := by
    rw [next?, List.findSome?_isSome_iff]
    exact ⟨m, m.mem_all, by rw [h, expect_append]; rfl⟩
  obtain ⟨⟨n, us⟩, hnext⟩ := Option.isSome_iff_exists.1 hsome
  have hn := hsound hnext
  rw [h] at hn
  have hmn : m = n := by
    have hprefix : m.tokens <+: m.tokens ++ rest := List.prefix_append _ _
    have hprefix' : n.tokens <+: m.tokens ++ rest := hn ▸ List.prefix_append _ _
    obtain hle | hle := List.prefix_or_prefix_of_prefix hprefix hprefix'
    · exact Mark.eq_of_prefix hle
    · exact (Mark.eq_of_prefix hle).symm
  subst hmn
  rw [hnext, List.append_cancel_left hn]

/-- The mark at the start of a text is found, whatever comes behind it. -/
@[simp]
theorem next?_append (m : Mark) (rest : List Token) : next? (m.tokens ++ rest) = some (m, rest) :=
  next?_eq_some_iff.2 rfl

/-! ## Names -/

/-- The letters that come next, and what is left behind them. -/
def takeName : List Token → List Char × List Token
  | .plain c :: ts =>
    if c.isAlpha then (c :: (takeName ts).1, (takeName ts).2) else ([], .plain c :: ts)
  | ts => ([], ts)

/-- The name has letters only, and some of them. -/
def isName (name : String) : Bool := name != "" && name.toList.all Char.isAlpha

/-- Letters at the start of a text are all taken into the name. -/
theorem takeName_append {name : List Char} (hname : name.all Char.isAlpha = true)
    (rest : List Token) :
    takeName (name.map .plain ++ rest) = (name ++ (takeName rest).1, (takeName rest).2) := by
  induction name with
  | nil => rfl
  | cons c name ih =>
    rw [List.all_cons, Bool.and_eq_true] at hname
    rw [List.map_cons, List.cons_append, takeName, if_pos hname.1, ih hname.2]
    rfl

/-- The words that a clause of a choice starts with. -/
def clauseWords : List String := ["WHEN", "ELSE", "END"]

/-- A clause of a choice comes next: a blank and one of the words, but not as the name of a
function. -/
def startsClause (ts : List Token) : Bool :=
  ts.head? == some (.plain ' ') && clauseWords.contains (String.ofList (takeName ts.tail).1) &&
    (takeName ts.tail).2.head? != some (.plain '(')

theorem exists_of_startsClause {ts : List Token} (h : startsClause ts = true) :
    ∃ us, ts = .plain ' ' :: us := by
  rw [startsClause, Bool.and_eq_true, Bool.and_eq_true, beq_iff_eq] at h
  exact List.head?_eq_some_iff.1 h.1.1

/-! ## The reader -/

/-- A column, given the first part of its name. -/
def readColumn (name : List Char) (ts : List Token) : Phrase × List Token :=
  match expect (.operator .dot) ts with
  | some (.quoted .identifier last :: rest) =>
    (column (some (String.ofList name)) (String.ofList last), rest)
  | _ => (column none (String.ofList name), ts)

mutual

/-- An expression, and what is left behind it. The number bounds how deep the reader goes. -/
def read : List Token → Nat → Option (Phrase × List Token)
  | _, 0 => none
  | ts, n + 1 => do
    let (a, rest) ← readOperand ts n
    readRight a rest n

/-- The operator and the second operand, if there are any, behind an operand that is read
already. -/
def readRight : Phrase → List Token → Nat → Option (Phrase × List Token)
  | _, _, 0 => none
  | a, ts, n + 1 =>
    match next? ts with
    | some (.operator (.op op), rest) => do
      let (b, rest) ← readOperand rest n
      return (binary op a b, rest)
    | _ => some (a, ts)

/-- An atom with the tests behind it. -/
def readOperand : List Token → Nat → Option (Phrase × List Token)
  | _, 0 => none
  | ts, n + 1 => do
    let (a, rest) ← readAtom ts n
    readTests a rest n

/-- The tests of an operand that is read already. -/
def readTests : Phrase → List Token → Nat → Option (Phrase × List Token)
  | _, _, 0 => none
  | a, ts, n + 1 =>
    match next? ts with
    | some (.operator .isNull, rest) => readTests (isNull a) rest n
    | some (.operator .isNotNull, rest) => readTests (isNotNull a) rest n
    | some (.operator (.within negated), rest) => do
      let (values, rest) ← readList rest n
      readTests (member a values negated) rest n
    | _ => some (a, ts)

/-- A string, a column, or what starts with a name or a word outside quotes. -/
def readAtom : List Token → Nat → Option (Phrase × List Token)
  | _, 0 => none
  | ts, n + 1 =>
    match ts with
    | .quoted .string contents :: rest => some (string (String.ofList contents), rest)
    | .quoted .identifier name :: rest => some (readColumn name rest)
    | _ => readNamed (takeName ts).1 (takeName ts).2 n

/-- An atom that starts with a name: a call, a word of the language, or a group if there is no
name. -/
def readNamed : List Char → List Token → Nat → Option (Phrase × List Token)
  | _, _, 0 => none
  | name, ts, n + 1 =>
    if ts.head? = some (.plain '(') then
      if name = [] then readGroup ts n
      else do
        let (args, rest) ← readList ts n
        return (call (String.ofList name) args, rest)
    else if name = "NOT".toList then do
      let (a, rest) ← readGroup ts.tail n
      return (not a, rest)
    else if name = "CASE".toList then readChoice ts n
    else none

/-- An expression in parentheses. -/
def readGroup : List Token → Nat → Option (Phrase × List Token)
  | _, 0 => none
  | ts, n + 1 => do
    let rest ← expect opening ts
    let (a, rest) ← read rest n
    let rest ← expect closing rest
    return (a, rest)

/-- A choice, from its subject or its first branch on. -/
def readChoice : List Token → Nat → Option (Phrase × List Token)
  | _, 0 => none
  | ts, n + 1 =>
    if startsClause ts then do
      let (branches, c, rest) ← readClauses ts n
      return (choice none branches c, rest)
    else do
      let (a, rest) ← read ts.tail n
      let (branches, c, rest) ← readClauses rest n
      return (choice (some a) branches c, rest)

/-- The branches of a choice, what it is otherwise, and its end. -/
def readClauses : List Token → Nat → Option (List (Phrase × Phrase) × Option Phrase × List Token)
  | _, 0 => none
  | ts, n + 1 =>
    match next? ts with
    | some (.branch, rest) => do
      let (test, rest) ← read rest n
      let rest ← expect .result rest
      let (result, rest) ← read rest n
      let (branches, c, rest) ← readClauses rest n
      return ((test, result) :: branches, c, rest)
    | some (.otherwise, rest) => do
      let (c, rest) ← read rest n
      let rest ← expect .ending rest
      return ([], some c, rest)
    | some (.ending, rest) => some ([], none, rest)
    | _ => none

/-- A list of expressions in parentheses. -/
def readList : List Token → Nat → Option (List Phrase × List Token)
  | _, 0 => none
  | ts, n + 1 => do
    let rest ← expect opening ts
    if rest.head? = some (.plain ')') then return ([], rest.tail)
    else do
      let (a, rest) ← read rest n
      let (as, rest) ← readMore rest n
      return (a :: as, rest)

/-- The rest of a list behind one of its expressions. -/
def readMore : List Token → Nat → Option (List Phrase × List Token)
  | _, 0 => none
  | ts, n + 1 =>
    match next? ts with
    | some (.operator .comma, rest) => do
      let (a, rest) ← read rest n
      let (as, rest) ← readMore rest n
      return (a :: as, rest)
    | some (.operator .closing, rest) => some ([], rest)
    | _ => none

end

/-- With a bound that is large enough, the answer is always the same. -/
def Settles {α : Type} (answer : Nat → Option α) (a : α) : Prop :=
  ∃ n, ∀ m, n ≤ m → answer m = some a

/-- An answer that is given from some bound on is settled. -/
theorem settles_succ {α : Type} {answer : Nat → Option α} {a : α} (n : Nat)
    (h : ∀ m, n ≤ m → answer (m + 1) = some a) : Settles answer a := by
  refine ⟨n + 1, fun m hm => ?_⟩
  obtain ⟨k, rfl⟩ : ∃ k, m = k + 1 := ⟨m - 1, by omega⟩
  exact h k (by omega)

/-- A reader settles on one answer at most. -/
theorem Settles.unique {α : Type} {answer : Nat → Option α} {a b : α} (ha : Settles answer a)
    (hb : Settles answer b) : a = b := by
  obtain ⟨j, hj⟩ := ha
  obtain ⟨k, hk⟩ := hb
  have hjk := hj (j + k) (by omega)
  rw [hk (j + k) (by omega)] at hjk
  exact (Option.some.inj hjk).symm

/-! ## What follows -/

/-- The tokens, if there are any, start with a mark below a level. Below 1 are the marks that end an
expression, below 3 those that may follow an operand, and below 4 those that may follow an atom. -/
def Follows (k : Nat) (rest : List Token) : Prop :=
  rest = [] ∨ ∃ m us, rest = Mark.tokens m ++ us ∧ m.level < k

/-- A mark of a lower level follows, whatever comes behind it. -/
theorem follows_append {k : Nat} {m : Mark} (h : m.level < k) (rest : List Token) :
    Follows k (m.tokens ++ rest) :=
  .inr ⟨m, rest, rfl, h⟩

namespace Follows

variable {j k : Nat} {rest : List Token}

theorem mono (h : Follows j rest) (hjk : j ≤ k) : Follows k rest := by
  obtain hnil | ⟨m, us, hm, hlevel⟩ := h
  · exact .inl hnil
  · exact .inr ⟨m, us, hm, Nat.lt_of_lt_of_le hlevel hjk⟩

theorem next? (h : Follows k rest) :
    next? rest = none ∨ ∃ m us, next? rest = some (m, us) ∧ m.level < k := by
  obtain rfl | ⟨m, us, rfl, hlevel⟩ := h
  · exact .inl rfl
  · exact .inr ⟨m, us, next?_append m us, hlevel⟩

/-- A mark of the level or above does not come next. -/
theorem expect_eq_none (h : Follows k rest) {m : Mark} (hm : k ≤ m.level) :
    expect m rest = none := by
  rw [Option.eq_none_iff_forall_ne_some]
  intro us hus
  have hnext := next?_eq_some_iff.2 (expect_eq_some_iff.1 hus)
  obtain hnone | ⟨n, vs, hn, hlevel⟩ := h.next?
  · rw [hnone] at hnext
    contradiction
  · rw [hn] at hnext
    cases hnext
    omega

/-- No name goes on, and nothing is called. -/
theorem not_named (h : Follows 4 rest) :
    takeName rest = ([], rest) ∧ rest.head? ≠ some (.plain '(') := by
  obtain rfl | ⟨m, us, rfl, hlevel⟩ := h
  · exact ⟨rfl, by decide⟩
  · obtain ⟨c, ts, hm, hletter, hopening⟩ := Mark.exists_tokens_eq hlevel
    rw [hm, List.cons_append]
    refine ⟨?_, fun hhead => ?_⟩
    · rw [takeName, if_neg (Bool.eq_false_iff.1 hletter)]
    · rw [List.head?_cons, Option.some.injEq] at hhead
      exact hopening (Token.plain.inj hhead)

/-- Tests end where something of a lower level comes. -/
theorem readTests (h : Follows 3 rest) (a : Phrase) : Settles (readTests a rest) (a, rest) := by
  refine settles_succ 0 fun n _ => ?_
  rw [Phrase.readTests]
  obtain hnone | ⟨m, us, hsome, hlevel⟩ := h.next?
  · rw [hnone]
  · rw [hsome]
    cases m with
    | operator m =>
      cases m with
      | isNull | isNotNull | within => exact absurd hlevel (Nat.lt_irrefl 3)
      | _ => rfl
    | _ => rfl

/-- Where no operator between two operands follows, the reader is done. -/
theorem readRight (h : Follows 2 rest) (a : Phrase) : Settles (readRight a rest) (a, rest) := by
  refine settles_succ 0 fun n _ => ?_
  rw [Phrase.readRight]
  obtain hnone | ⟨m, us, hsome, hlevel⟩ := h.next?
  · rw [hnone]
  · rw [hsome]
    cases m with
    | operator m =>
      cases m with
      | op => exact absurd hlevel (Nat.lt_irrefl 2)
      | _ => rfl
    | _ => rfl

end Follows

/-! ## The tokens of phrases -/

/-- An expression may begin with the tokens: they are not taken for the end of a list, nor for a
clause of a choice. -/
structure Begins (ts : List Token) : Prop where
  not_closing : ∀ rest, (ts ++ rest).head? ≠ some (.plain ')')
  not_clause : ∀ rest, startsClause (.plain ' ' :: (ts ++ rest)) = false

theorem Begins.append {ts : List Token} (h : Begins ts) (us : List Token) : Begins (ts ++ us) where
  not_closing rest := by
    rw [List.append_assoc]
    exact h.not_closing (us ++ rest)
  not_clause rest := by
    rw [List.append_assoc]
    exact h.not_clause (us ++ rest)

/-- Before anything that may follow an atom, the tokens are read as an operand, and tests behind
them as tests of it. -/
structure IsOperand (ts : List Token) (t : Phrase) : Prop where
  begins : Begins ts
  reads : ∀ {rest answer}, Follows 4 rest → Settles (readTests t rest) answer →
    Settles (readOperand (ts ++ rest)) answer

/-- Before anything that ends an expression, the tokens are read as one. -/
structure IsPhrase (ts : List Token) (t : Phrase) : Prop where
  begins : Begins ts
  reads : ∀ {rest}, Follows 1 rest → Settles (read (ts ++ rest)) (t, rest)

/-- In parentheses the tokens are read as a list. -/
def IsList (ts : List Token) (as : List Phrase) : Prop :=
  ∀ rest, Settles (readList (opening.tokens ++ (ts ++ (closing.tokens ++ rest)))) (as, rest)

/-- Before a closing parenthesis the tokens are read as the rest of a list. -/
structure IsMore (ts : List Token) (as : List Phrase) : Prop where
  follows : ∀ rest, Follows 1 (ts ++ (closing.tokens ++ rest))
  reads : ∀ rest, Settles (readMore (ts ++ (closing.tokens ++ rest))) (as, rest)

/-- The tokens are read as the clauses of a choice. -/
structure IsClauses (ts : List Token) (branches : List (Phrase × Phrase)) (c : Option Phrase) :
    Prop where
  follows : ∀ rest, Follows 1 (ts ++ rest)
  starts : ∀ rest, Follows 4 rest → startsClause (ts ++ rest) = true
  reads : ∀ rest, Settles (readClauses (ts ++ rest)) (branches, c, rest)

/-- Tokens are read as at most one phrase. -/
theorem IsPhrase.unique {ts : List Token} {t u : Phrase} (ht : IsPhrase ts t)
    (hu : IsPhrase ts u) : t = u := by
  have heq := (ht.reads (.inl rfl)).unique (hu.reads (.inl rfl))
  exact congrArg Prod.fst heq

/-! ### Beginnings -/

theorem startsClause_name {name : List Char} (hname : name.all Char.isAlpha = true)
    {rest : List Token} (hrest : takeName rest = ([], rest)) :
    startsClause (.plain ' ' :: (name.map .plain ++ rest)) =
      (clauseWords.contains (String.ofList name) && rest.head? != some (.plain '(')) := by
  rw [startsClause, List.head?_cons, List.tail_cons, takeName_append hname, hrest, List.append_nil,
    beq_self_eq_true, Bool.true_and]

theorem begins_quoted (region : Region) (contents : List Char) :
    Begins [.quoted region contents] where
  not_closing _ := by simp
  not_clause _ := rfl

theorem begins_opening (ts : List Token) : Begins (opening.tokens ++ ts) where
  not_closing _ := by simp [Mark.tokens, Mark.text, Reading.Mark.text]
  not_clause _ := rfl

/-- A name begins an expression if it is called or no word of a clause. -/
theorem begins_name {name : List Char} (hname : name.all Char.isAlpha = true) (hne : name ≠ [])
    {ts : List Token} (hts : ∀ rest, takeName (ts ++ rest) = ([], ts ++ rest))
    (hclause : ∀ rest, (clauseWords.contains (String.ofList name) &&
      (ts ++ rest).head? != some (.plain '(')) = false) :
    Begins (name.map .plain ++ ts) where
  not_closing rest := by
    cases name with
    | nil => contradiction
    | cons c name =>
      rw [List.all_cons, Bool.and_eq_true] at hname
      intro hhead
      rw [List.map_cons, List.cons_append, List.cons_append, List.head?_cons, Option.some.injEq]
        at hhead
      rw [Token.plain.inj hhead] at hname
      exact absurd hname.1 (by decide)
  not_clause rest := by
    rw [List.append_assoc, startsClause_name hname (hts rest)]
    exact hclause rest

/-! ### Atoms -/

/-- What is read as an atom before all that may follow one is an operand. -/
theorem IsOperand.of_readAtom {ts : List Token} {t : Phrase} (hbegins : Begins ts)
    (h : ∀ rest, Follows 4 rest → Settles (readAtom (ts ++ rest)) (t, rest)) :
    IsOperand ts t where
  begins := hbegins
  reads {rest _} hrest htests := by
    obtain ⟨j, hatom⟩ := h rest hrest
    obtain ⟨k, htests⟩ := htests
    refine settles_succ (j + k) fun n hn => ?_
    rw [readOperand, hatom n (by omega)]
    exact htests n (by omega)

theorem isOperand_string (contents : String) :
    IsOperand [.quoted .string contents.toList] (string contents) := by
  refine .of_readAtom (begins_quoted _ _) fun rest _ => settles_succ 0 fun n _ => ?_
  rw [List.singleton_append, readAtom, String.ofList_toList]

theorem isOperand_column (name : String) :
    IsOperand [.quoted .identifier name.toList] (column none name) := by
  refine .of_readAtom (begins_quoted _ _) fun rest hrest => settles_succ 0 fun n _ => ?_
  have hdot := hrest.expect_eq_none (m := .operator .dot) (Nat.le_refl 4)
  rw [List.singleton_append, readAtom, readColumn, hdot, String.ofList_toList]

theorem isOperand_qualified (table name : String) :
    IsOperand (.quoted .identifier table.toList ::
      ((Mark.operator .dot).tokens ++ [.quoted .identifier name.toList]))
      (column (some table) name) := by
  refine .of_readAtom ((begins_quoted _ _).append _) fun rest _ => settles_succ 0 fun n _ => ?_
  rw [List.cons_append, List.append_assoc, readAtom, readColumn, expect_append,
    List.singleton_append]
  simp only [String.ofList_toList]

/-- A phrase in parentheses is read up to its closing parenthesis. -/
theorem IsPhrase.readGroup {ts : List Token} {t : Phrase} (h : IsPhrase ts t)
    (rest : List Token) :
    Settles (readGroup (opening.tokens ++ (ts ++ (closing.tokens ++ rest)))) (t, rest) := by
  obtain ⟨n, hread⟩ := h.reads (follows_append (m := closing) Nat.zero_lt_one rest)
  refine settles_succ n fun m hm => ?_
  rw [Phrase.readGroup, expect_append]
  simp only [hread m hm, expect_append, Option.bind_eq_bind, Option.bind_some, Option.pure_def]

theorem readAtom_plain (c : Char) (ts : List Token) (n : Nat) :
    readAtom (.plain c :: ts) (n + 1) =
      readNamed (takeName (.plain c :: ts)).1 (takeName (.plain c :: ts)).2 n := by
  rw [readAtom]
  all_goals rintro _ _ ⟨⟩

/-- An atom that starts with letters is told by the name that they are. -/
theorem settles_readAtom_name {name : List Char} (hname : name.all Char.isAlpha = true)
    (hne : name ≠ []) {rest : List Token} (hrest : takeName rest = ([], rest))
    {answer : Phrase × List Token} (h : Settles (readNamed name rest) answer) :
    Settles (readAtom (name.map .plain ++ rest)) answer := by
  have htake := takeName_append hname rest
  rw [hrest, List.append_nil] at htake
  cases name with
  | nil => contradiction
  | cons c name =>
    obtain ⟨n, hnamed⟩ := h
    refine settles_succ n fun m hm => ?_
    rw [List.map_cons, List.cons_append] at htake ⊢
    rw [readAtom_plain, htake]
    exact hnamed m hm

/-- A phrase in parentheses is an operand, and the parentheses leave no trace. -/
theorem IsPhrase.group {ts : List Token} {t : Phrase} (h : IsPhrase ts t) :
    IsOperand (opening.tokens ++ (ts ++ closing.tokens)) t := by
  refine .of_readAtom (begins_opening _) fun rest _ => ?_
  obtain ⟨n, hgroup⟩ := h.readGroup rest
  rw [List.append_assoc, List.append_assoc]
  refine settles_succ (n + 1) fun m hm => ?_
  obtain ⟨k, rfl⟩ : ∃ k, m = k + 1 := ⟨m - 1, by omega⟩
  -- There is no name before the parenthesis.
  have hopening : (opening.tokens ++ (ts ++ (closing.tokens ++ rest))).head? =
      some (.plain '(') := rfl
  refine (readAtom_plain '(' _ (k + 1)).trans ?_
  refine Eq.trans ?_ (hgroup k (by omega))
  change readNamed [] (opening.tokens ++ _) (k + 1) = _
  rw [readNamed, if_pos hopening, if_pos rfl]

theorem IsPhrase.not {ts : List Token} {t : Phrase} (h : IsPhrase ts t) :
    IsOperand ((Mark.operator .not).tokens ++ (opening.tokens ++ (ts ++ closing.tokens)))
      (not t) := by
  have hletters : "NOT".toList.all Char.isAlpha = true := by decide
  have htokens : ∀ us : List Token,
      (Mark.operator .not).tokens ++ us = "NOT".toList.map .plain ++ .plain ' ' :: us :=
    fun _ => rfl
  refine .of_readAtom ?_ fun rest _ => ?_
  · rw [htokens]
    exact begins_name hletters (by decide) (fun _ => rfl) fun _ => rfl
  · rw [List.append_assoc, List.append_assoc, List.append_assoc, htokens]
    obtain ⟨n, hgroup⟩ := h.readGroup rest
    refine settles_readAtom_name hletters (by decide) rfl (settles_succ n fun m hm => ?_)
    rw [readNamed, if_neg (by simp), if_pos rfl, List.tail_cons, hgroup m hm]
    rfl

/-! ### Calls and lists -/

theorem isList_nil : IsList [] [] := by
  intro rest
  refine settles_succ 0 fun n _ => ?_
  rw [readList, expect_append]
  rfl

theorem IsPhrase.list {ts us : List Token} {t : Phrase} {as : List Phrase} (h : IsPhrase ts t)
    (hus : IsMore us as) : IsList (ts ++ us) (t :: as) := by
  intro rest
  obtain ⟨j, hread⟩ := h.reads (hus.follows rest)
  obtain ⟨k, hmore⟩ := hus.reads rest
  refine settles_succ (j + k) fun n hn => ?_
  rw [List.append_assoc, readList, expect_append, Option.bind_eq_bind, Option.bind_some,
    if_neg (h.begins.not_closing _), hread n (by omega), Option.bind_eq_bind, Option.bind_some]
  simp only [hmore n (by omega), Option.bind_eq_bind, Option.bind_some, Option.pure_def]

theorem isMore_nil : IsMore [] [] where
  follows rest := follows_append Nat.zero_lt_one rest
  reads rest := by
    refine settles_succ 0 fun n _ => ?_
    rw [List.nil_append, readMore, next?_append]

theorem IsPhrase.more {ts us : List Token} {t : Phrase} {as : List Phrase} (h : IsPhrase ts t)
    (hus : IsMore us as) : IsMore ((Mark.operator .comma).tokens ++ (ts ++ us)) (t :: as) where
  follows rest := by
    rw [List.append_assoc]
    exact follows_append Nat.zero_lt_one _
  reads rest := by
    obtain ⟨j, hread⟩ := h.reads (hus.follows rest)
    obtain ⟨k, hmore⟩ := hus.reads rest
    refine settles_succ (j + k) fun n hn => ?_
    rw [List.append_assoc, List.append_assoc, readMore, next?_append]
    simp only [hread n (by omega), hmore n (by omega), Option.bind_eq_bind, Option.bind_some,
      Option.pure_def]

/-- A name before a list in parentheses is a call. -/
theorem IsList.call {ts : List Token} {as : List Phrase} (h : IsList ts as) {name : String}
    (hname : isName name = true) :
    IsOperand (name.toList.map .plain ++ (opening.tokens ++ (ts ++ closing.tokens)))
      (call name as) := by
  rw [isName, Bool.and_eq_true, bne_iff_ne] at hname
  obtain ⟨hne, hletters⟩ := hname
  have hne' : name.toList ≠ [] := fun hnil => hne (String.toList_eq_nil_iff.1 hnil)
  refine .of_readAtom ?_ fun rest _ => ?_
  · exact begins_name hletters hne' (fun _ => rfl) fun _ => Bool.and_false _
  · obtain ⟨n, hlist⟩ := h rest
    rw [List.append_assoc, List.append_assoc, List.append_assoc]
    refine settles_readAtom_name hletters hne' rfl (settles_succ n fun m hm => ?_)
    have hopening : (opening.tokens ++ (ts ++ (closing.tokens ++ rest))).head? =
        some (.plain '(') := rfl
    rw [readNamed, if_pos hopening, if_neg hne', hlist m hm]
    simp only [Option.bind_eq_bind, Option.bind_some, Option.pure_def, String.ofList_toList]

/-! ### Tests and operators -/

/-- A test without values is a mark behind its operand. -/
theorem IsOperand.test {ts : List Token} {t : Phrase} (h : IsOperand ts t) {m : Mark}
    (hm : m.level < 4) {test : Phrase → Phrase}
    (hstep : ∀ rest n, readTests t (m.tokens ++ rest) (n + 1) = readTests (test t) rest n) :
    IsOperand (ts ++ m.tokens) (test t) where
  begins := h.begins.append _
  reads {rest _} _ htests := by
    obtain ⟨n, htests⟩ := htests
    rw [List.append_assoc]
    refine h.reads (follows_append hm rest) (settles_succ n fun k hk => ?_)
    rw [hstep]
    exact htests k hk

theorem IsOperand.isNull {ts : List Token} {t : Phrase} (h : IsOperand ts t) :
    IsOperand (ts ++ (Mark.operator .isNull).tokens) (isNull t) :=
  h.test (by decide) fun rest n => by rw [readTests, next?_append]

theorem IsOperand.isNotNull {ts : List Token} {t : Phrase} (h : IsOperand ts t) :
    IsOperand (ts ++ (Mark.operator .isNotNull).tokens) (isNotNull t) :=
  h.test (by decide) fun rest n => by rw [readTests, next?_append]

/-- A list in parentheses behind an operand is tested for membership. -/
theorem IsOperand.member {ts us : List Token} {t : Phrase} {as : List Phrase}
    (h : IsOperand ts t) (hus : IsList us as) (negated : Bool) :
    IsOperand
      (ts ++ ((Mark.operator (.within negated)).tokens ++
        (opening.tokens ++ (us ++ closing.tokens))))
      (member t as negated) where
  begins := h.begins.append _
  reads {rest _} _ htests := by
    have hlevel : (Mark.operator (.within negated)).level < 4 := Nat.lt_succ_self 3
    obtain ⟨j, htests⟩ := htests
    obtain ⟨k, hlist⟩ := hus rest
    simp only [List.append_assoc]
    refine h.reads (follows_append hlevel _) (settles_succ (j + k) fun n hn => ?_)
    rw [readTests, next?_append]
    simp only [hlist n (by omega), Option.bind_eq_bind, Option.bind_some]
    exact htests n (by omega)

/-- Before anything that ends an operand, an expression goes on with an operator. -/
theorem IsOperand.settles_read {ts : List Token} {t : Phrase} (h : IsOperand ts t)
    {rest : List Token} (hrest : Follows 3 rest) {answer : Phrase × List Token}
    (hright : Settles (readRight t rest) answer) : Settles (read (ts ++ rest)) answer := by
  obtain ⟨j, hoperand⟩ := h.reads (hrest.mono (by decide)) (hrest.readTests t)
  obtain ⟨k, hright⟩ := hright
  refine settles_succ (j + k) fun n hn => ?_
  rw [read, hoperand n (by omega)]
  exact hright n (by omega)

/-- An operand is a phrase by itself. -/
theorem IsOperand.isPhrase {ts : List Token} {t : Phrase} (h : IsOperand ts t) :
    IsPhrase ts t where
  begins := h.begins
  reads hrest := h.settles_read (hrest.mono (by decide)) ((hrest.mono (by decide)).readRight t)

/-- Two operands with an operator between them are a phrase. -/
theorem IsOperand.binary {ts us : List Token} {t u : Phrase} (h : IsOperand ts t)
    (hus : IsOperand us u) (op : BinaryOp) :
    IsPhrase (ts ++ ((Mark.operator (.op op)).tokens ++ us)) (binary op t u) where
  begins := h.begins.append _
  reads {rest} hrest := by
    have hlevel : (Mark.operator (.op op)).level < 3 := Nat.lt_succ_self 2
    have htests := (hrest.mono (by decide : 1 ≤ 3)).readTests u
    obtain ⟨n, hsecond⟩ := hus.reads (hrest.mono (by decide)) htests
    rw [List.append_assoc, List.append_assoc]
    -- No test is left for the first operand where the operator comes.
    refine h.settles_read (follows_append hlevel _) (settles_succ n fun m hm => ?_)
    rw [readRight, next?_append]
    simp only [hsecond m hm, Option.bind_eq_bind, Option.bind_some, Option.pure_def]

/-! ### Choices -/

theorem isClauses_ending : IsClauses Mark.ending.tokens [] none where
  follows rest := follows_append Nat.zero_lt_one rest
  starts rest hrest := by
    -- Nothing is called behind the word, so it is not the name of a function.
    have hletters : "END".toList.all Char.isAlpha = true := by decide
    obtain ⟨htake, hopening⟩ := hrest.not_named
    refine (startsClause_name hletters htake).trans ?_
    rw [Bool.and_eq_true, bne_iff_ne]
    exact ⟨by decide, hopening⟩
  reads rest := by
    refine settles_succ 0 fun n _ => ?_
    rw [readClauses, next?_append]

/-- The last clause of a choice may be what it is otherwise. -/
theorem IsPhrase.otherwise {ts : List Token} {t : Phrase} (h : IsPhrase ts t) :
    IsClauses (Mark.otherwise.tokens ++ (ts ++ Mark.ending.tokens)) [] (some t) where
  follows rest := by
    rw [List.append_assoc]
    exact follows_append Nat.zero_lt_one _
  starts rest _ := rfl
  reads rest := by
    obtain ⟨n, hread⟩ := h.reads (follows_append (m := .ending) Nat.zero_lt_one rest)
    refine settles_succ n fun m hm => ?_
    rw [List.append_assoc, List.append_assoc, readClauses, next?_append]
    simp only [hread m hm, expect_append, Option.bind_eq_bind, Option.bind_some, Option.pure_def]

theorem IsClauses.branch {ts us vs : List Token} {test result : Phrase}
    {branches : List (Phrase × Phrase)} {c : Option Phrase} (hvs : IsClauses vs branches c)
    (hts : IsPhrase ts test) (hus : IsPhrase us result) :
    IsClauses (Mark.branch.tokens ++ (ts ++ (Mark.result.tokens ++ (us ++ vs))))
      ((test, result) :: branches) c where
  follows rest := by
    rw [List.append_assoc]
    exact follows_append Nat.zero_lt_one _
  starts rest _ := rfl
  reads rest := by
    have hthen := follows_append (m := .result) Nat.zero_lt_one (us ++ (vs ++ rest))
    obtain ⟨i, htest⟩ := hts.reads hthen
    obtain ⟨j, hresult⟩ := hus.reads (hvs.follows rest)
    obtain ⟨k, hclauses⟩ := hvs.reads rest
    refine settles_succ (i + j + k) fun n hn => ?_
    simp only [List.append_assoc]
    rw [readClauses, next?_append]
    simp only [htest n (by omega), expect_append, hresult n (by omega), hclauses n (by omega),
      Option.bind_eq_bind, Option.bind_some, Option.pure_def]

/-- A choice is told by its first word and the blank behind it. -/
theorem isOperand_of_readChoice {ts : List Token} {t : Phrase}
    (h : ∀ rest, Follows 4 rest →
      Settles (readChoice (.plain ' ' :: (ts ++ rest))) (t, rest)) :
    IsOperand ("CASE".toList.map .plain ++ .plain ' ' :: ts) t := by
  have hletters : "CASE".toList.all Char.isAlpha = true := by decide
  refine .of_readAtom ?_ fun rest hrest => ?_
  · exact begins_name hletters (by decide) (fun _ => rfl) fun _ => rfl
  · obtain ⟨n, hchoice⟩ := h rest hrest
    rw [List.append_assoc, List.cons_append]
    refine settles_readAtom_name hletters (by decide) rfl (settles_succ n fun m hm => ?_)
    rw [readNamed, if_neg (by simp), if_neg (by decide), if_pos rfl, hchoice m hm]

/-- Clauses behind the word that starts a choice are a choice without a subject. -/
theorem IsClauses.choice {ts : List Token} {branches : List (Phrase × Phrase)} {c : Option Phrase}
    (h : IsClauses ts branches c) :
    IsOperand ("CASE".toList.map .plain ++ ts) (choice none branches c) := by
  have hstarts := h.starts [] (.inl rfl)
  rw [List.append_nil] at hstarts
  obtain ⟨us, rfl⟩ := exists_of_startsClause hstarts
  refine isOperand_of_readChoice fun rest hrest => ?_
  obtain ⟨n, hclauses⟩ := h.reads rest
  refine settles_succ n fun m hm => ?_
  rw [← List.cons_append, readChoice, if_pos (h.starts rest hrest), hclauses m hm]
  rfl

theorem IsClauses.choice_of {ts us : List Token} {t : Phrase} {branches : List (Phrase × Phrase)}
    {c : Option Phrase} (hus : IsClauses us branches c) (hts : IsPhrase ts t) :
    IsOperand ("CASE".toList.map .plain ++ .plain ' ' :: (ts ++ us))
      (Phrase.choice (some t) branches c) := by
  refine isOperand_of_readChoice fun rest _ => ?_
  have hsubject := hts.begins.not_clause (us ++ rest)
  obtain ⟨j, hread⟩ := hts.reads (hus.follows rest)
  obtain ⟨k, hclauses⟩ := hus.reads rest
  refine settles_succ (j + k) fun n hn => ?_
  rw [List.append_assoc, readChoice, if_neg (Bool.eq_false_iff.1 hsubject), List.tail_cons,
    hread n (by omega)]
  simp only [hclauses n (by omega), Option.bind_eq_bind, Option.bind_some, Option.pure_def]

end Phrase

end SqlScribe
