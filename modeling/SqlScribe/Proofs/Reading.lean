import SqlScribe.Operator

/-!
# What the text of operators tells

The text of an expression made of operators is a row of symbols. Without the expression at hand, a
reader makes of it a `Chain`: items between `LIKE` and `ESCAPE`, where an item is a term or a binary
operator between two terms, and a term is an atom behind some minus signs and before some suffixes
such as `IS NULL`. Nothing in the text says more: whether the minus or the suffix came first, or how
the parts of a chain belong together, is lost.

But nothing of the chain is lost: symbols that stand for a chain stand for no other one
(`Chain.unique`). Each symbol has a level, the lowest for what closes a part, and what follows a
part has a lower level than what could still belong to it.
-/

namespace SqlScribe.Reading

/-! ## Symbols -/

/-- The words that divide a chain. -/
inductive Link where
  | like
  | escape
deriving DecidableEq

/-- The symbols that are no names. -/
inductive Mark where
  | dot
  | opening
  | closing
  | comma
  | minus
  | not
  | isNull
  | isNotNull
  | within (negated : Bool)
  | link (link : Link)
  | op (op : BinaryOp)
deriving DecidableEq

/-- What the text of an operator tree is made of. -/
inductive Symbol where
  | name (name : String)
  | mark (mark : Mark)
deriving DecidableEq

/-- What a symbol may follow: a symbol of a higher level belongs to what is before it. -/
def Symbol.level : Symbol → Nat
  | .mark .closing => 0
  | .mark .comma => 0
  | .mark (.link _) => 1
  | .mark (.op _) => 2
  | .mark .isNull => 3
  | .mark .isNotNull => 3
  | .mark (.within _) => 3
  | .mark .dot => 4
  | .mark .opening => 5
  | .mark .minus => 5
  | .mark .not => 5
  | .name _ => 5

/-- The symbols, if there are any, start below a level. -/
def Below (k : Nat) (rest : List Symbol) : Prop := ∀ s ∈ rest.head?, s.level < k

theorem Below.mono {j k : Nat} {rest : List Symbol} (h : Below j rest) (hjk : j ≤ k) :
    Below k rest :=
  fun s hs => Nat.lt_of_lt_of_le (h s hs) hjk

theorem below_cons {k : Nat} {s : Symbol} {rest : List Symbol} :
    Below k (s :: rest) ↔ s.level < k := by
  simp [Below]

theorem below_closing (rest : List Symbol) : Below 1 (.mark .closing :: rest) :=
  below_cons.2 Nat.zero_lt_one

theorem below_link (l : Link) (rest : List Symbol) : Below 2 (.mark (.link l) :: rest) :=
  below_cons.2 Nat.one_lt_two

theorem below_op (op : BinaryOp) (rest : List Symbol) : Below 3 (.mark (.op op) :: rest) :=
  below_cons.2 (by decide : 2 < 3)

/-! ## Readings -/

mutual

/-- Items between `LIKE` and `ESCAPE`. -/
inductive Chain where
  | item (item : Item)
  | link (item : Item) (link : Link) (rest : Chain)

/-- A term, or a binary operator between two. -/
inductive Item where
  | term (term : Term)
  | binary (op : BinaryOp) (left right : Term)

/-- An atom behind minus signs and before suffixes. -/
inductive Term where
  | mk (minuses : Nat) (atom : Atom) (suffixes : List Suffix)

/-- A column, or a chain in parentheses. -/
inductive Atom where
  | column (table : Option String) (name : String)
  | not (chain : Chain)
  | group (chain : Chain)

/-- A test behind a term. -/
inductive Suffix where
  | isNull
  | isNotNull
  | within (negated : Bool) (values : List Chain)

end

mutual

/-- The symbols of a chain: items with links between them. -/
def Chain.symbols : Chain → List Symbol
  | .item i => i.symbols
  | .link i l rest => i.symbols ++ .mark (.link l) :: rest.symbols

/-- The symbols of an item: a term, or an operator between two. -/
def Item.symbols : Item → List Symbol
  | .term t => t.symbols
  | .binary op a b => a.symbols ++ .mark (.op op) :: b.symbols

/-- The symbols of a term: minus signs, an atom, and tests behind it. -/
def Term.symbols : Term → List Symbol
  | .mk minuses atom suffixes =>
    List.replicate minuses (.mark .minus) ++ (atom.symbols ++ suffixSymbols suffixes)

/-- The symbols of an atom: a column, a negation with its parentheses, or a chain in parentheses. -/
def Atom.symbols : Atom → List Symbol
  | .column none name => [.name name]
  | .column (some table) name => [.name table, .mark .dot, .name name]
  | .not c => .mark .not :: .mark .opening :: (c.symbols ++ [.mark .closing])
  | .group c => .mark .opening :: (c.symbols ++ [.mark .closing])

/-- The symbols of a test. The list of a membership stands between parentheses. -/
def Suffix.symbols : Suffix → List Symbol
  | .isNull => [.mark .isNull]
  | .isNotNull => [.mark .isNotNull]
  | .within negated [] => [.mark (.within negated), .mark .opening, .mark .closing]
  | .within negated (c :: cs) =>
    .mark (.within negated) :: .mark .opening :: (c.symbols ++ (moreSymbols cs ++ [.mark .closing]))

/-- The symbols of several tests in a row. -/
def suffixSymbols : List Suffix → List Symbol
  | [] => []
  | x :: xs => x.symbols ++ suffixSymbols xs

/-- The symbols of chains that follow others in a list. -/
def moreSymbols : List Chain → List Symbol
  | [] => []
  | c :: cs => .mark .comma :: (c.symbols ++ moreSymbols cs)

end

/-! ## Where the symbols of a part start -/

/-- An atom starts with a symbol of the highest level that is no minus sign. -/
theorem Atom.exists_symbols_eq_cons (x : Atom) :
    ∃ s rest, x.symbols = s :: rest ∧ s.level = 5 ∧ s ≠ .mark .minus := by
  cases x with
  | column table name => cases table <;> exact ⟨_, _, rfl, rfl, nofun⟩
  | not c => exact ⟨_, _, rfl, rfl, nofun⟩
  | group c => exact ⟨_, _, rfl, rfl, nofun⟩

theorem Term.exists_symbols_eq_cons (x : Term) :
    ∃ s rest, x.symbols = s :: rest ∧ s.level = 5 := by
  obtain ⟨minuses, atom, suffixes⟩ := x
  cases minuses with
  | zero =>
    obtain ⟨s, rest, hs, hlevel, -⟩ := atom.exists_symbols_eq_cons
    exact ⟨s, rest ++ suffixSymbols suffixes, by simp [Term.symbols, hs], hlevel⟩
  | succ n => exact ⟨_, _, rfl, rfl⟩

theorem Item.exists_symbols_eq_cons (x : Item) :
    ∃ s rest, x.symbols = s :: rest ∧ s.level = 5 := by
  cases x with
  | term t => exact t.exists_symbols_eq_cons
  | binary op a b =>
    obtain ⟨s, rest, hs, hlevel⟩ := a.exists_symbols_eq_cons
    exact ⟨s, _, by rw [Item.symbols, hs, List.cons_append], hlevel⟩

theorem Chain.exists_symbols_eq_cons (x : Chain) :
    ∃ s rest, x.symbols = s :: rest ∧ s.level = 5 := by
  cases x with
  | item i => exact i.exists_symbols_eq_cons
  | link i l c =>
    obtain ⟨s, rest, hs, hlevel⟩ := i.exists_symbols_eq_cons
    exact ⟨s, _, by rw [Chain.symbols, hs, List.cons_append], hlevel⟩

/-- A chain does not start where its list has ended. -/
theorem Chain.symbols_append_ne (x : Chain) (r s : List Symbol) :
    x.symbols ++ r ≠ .mark .closing :: s := by
  obtain ⟨first, rest, hfirst, hlevel⟩ := x.exists_symbols_eq_cons
  rw [hfirst]
  rintro ⟨⟩
  exact nomatch hlevel

/-- A test starts with a symbol that belongs to the operand before it. -/
theorem Suffix.exists_symbols_eq_cons (x : Suffix) :
    ∃ s rest, x.symbols = s :: rest ∧ s.level = 3 := by
  cases x with
  | isNull => exact ⟨_, _, rfl, rfl⟩
  | isNotNull => exact ⟨_, _, rfl, rfl⟩
  | within negated values => cases values <;> exact ⟨_, _, rfl, rfl⟩

/-- What stands behind an atom, tests or not, does not belong to the atom. -/
theorem below_suffixSymbols (xs : List Suffix) {r : List Symbol} (hr : Below 3 r) :
    Below 4 (suffixSymbols xs ++ r) := by
  cases xs with
  | nil => exact hr.mono (by decide)
  | cons x xs =>
    obtain ⟨s, rest, hs, hlevel⟩ := x.exists_symbols_eq_cons
    rw [suffixSymbols, hs]
    exact below_cons.2 (by omega)

/-- In a list in parentheses, each expression ends at a comma or at the closing parenthesis. -/
theorem below_moreSymbols (cs : List Chain) (r : List Symbol) :
    Below 1 (moreSymbols cs ++ .mark .closing :: r) := by
  cases cs with
  | nil => exact below_closing r
  | cons c cs => exact below_cons.2 Nat.zero_lt_one

/-- Minus signs are counted: an atom starts with none. -/
theorem replicate_minus_unique {m n : Nat} {x y : Atom} {r s : List Symbol}
    (h : List.replicate m (.mark .minus) ++ (x.symbols ++ r) =
      List.replicate n (.mark .minus) ++ (y.symbols ++ s)) :
    m = n ∧ x.symbols ++ r = y.symbols ++ s := by
  induction m generalizing n with
  | zero =>
    cases n with
    | zero => exact ⟨rfl, h⟩
    | succ n =>
      obtain ⟨first, rest, hfirst, -, hne⟩ := x.exists_symbols_eq_cons
      rw [hfirst] at h
      exact absurd (List.cons.inj h).1 hne
  | succ m ih =>
    cases n with
    | zero =>
      obtain ⟨first, rest, hfirst, -, hne⟩ := y.exists_symbols_eq_cons
      rw [hfirst] at h
      exact absurd (List.cons.inj h).1.symm hne
    | succ n =>
      obtain ⟨rfl, hrest⟩ := ih (List.cons.inj h).2
      exact ⟨rfl, hrest⟩

/-! ## One reading only -/

/-- What starts at a level is not below it. -/
theorem Below.ne_cons {k : Nat} {r : List Symbol} (hr : Below k r) {s : Symbol} {rest : List Symbol}
    (hs : k ≤ s.level) : r ≠ s :: rest := by
  rintro rfl
  have hlevel := below_cons.1 hr
  omega

mutual

/-- Symbols stand for one chain at most, whatever closes it. -/
theorem Chain.unique : ∀ (x y : Chain) {r s : List Symbol}, Below 1 r → Below 1 s →
    x.symbols ++ r = y.symbols ++ s → x = y ∧ r = s
  | .item i, .item j, r, s, hr, hs, h => by
    obtain ⟨rfl, hrest⟩ := Item.unique i j (hr.mono (by decide)) (hs.mono (by decide)) h
    exact ⟨rfl, hrest⟩
  | .item i, .link j l c, r, s, hr, hs, h => by
    -- Behind the same item, one chain is over and the other goes on with a link.
    rw [Chain.symbols, Chain.symbols, List.append_assoc] at h
    obtain ⟨-, hrest⟩ := Item.unique i j (hr.mono (by decide)) (below_link l _) h
    exact absurd hrest (hr.ne_cons (Nat.le_refl 1))
  | .link i l c, .item j, r, s, hr, hs, h => by
    rw [Chain.symbols, Chain.symbols, List.append_assoc] at h
    obtain ⟨-, hrest⟩ := Item.unique i j (below_link l _) (hs.mono (by decide)) h
    exact absurd hrest.symm (hs.ne_cons (Nat.le_refl 1))
  | .link i l c, .link j l' c', r, s, hr, hs, h => by
    rw [Chain.symbols, Chain.symbols, List.append_assoc, List.append_assoc] at h
    obtain ⟨rfl, hlinks⟩ := Item.unique i j (below_link l _) (below_link l' _) h
    obtain ⟨hlink, hchains⟩ := List.cons.inj hlinks
    cases hlink
    obtain ⟨rfl, hrest⟩ := Chain.unique c c' hr hs hchains
    exact ⟨rfl, hrest⟩

/-- An item is read in one way, up to a link or what ends the chain. -/
theorem Item.unique : ∀ (x y : Item) {r s : List Symbol}, Below 2 r → Below 2 s →
    x.symbols ++ r = y.symbols ++ s → x = y ∧ r = s
  | .term t, .term u, r, s, hr, hs, h => by
    obtain ⟨rfl, hrest⟩ := Term.unique t u (hr.mono (by decide)) (hs.mono (by decide)) h
    exact ⟨rfl, hrest⟩
  | .term t, .binary op a b, r, s, hr, hs, h => by
    rw [Item.symbols, Item.symbols, List.append_assoc] at h
    obtain ⟨-, hrest⟩ := Term.unique t a (hr.mono (by decide)) (below_op op _) h
    exact absurd hrest (hr.ne_cons (Nat.le_refl 2))
  | .binary op a b, .term t, r, s, hr, hs, h => by
    rw [Item.symbols, Item.symbols, List.append_assoc] at h
    obtain ⟨-, hrest⟩ := Term.unique a t (below_op op _) (hs.mono (by decide)) h
    exact absurd hrest.symm (hs.ne_cons (Nat.le_refl 2))
  | .binary op a b, .binary op' a' b', r, s, hr, hs, h => by
    rw [Item.symbols, Item.symbols, List.append_assoc, List.append_assoc] at h
    obtain ⟨rfl, hops⟩ := Term.unique a a' (below_op op _) (below_op op' _) h
    obtain ⟨hop, hterms⟩ := List.cons.inj hops
    cases hop
    obtain ⟨rfl, hrest⟩ := Term.unique b b' (hr.mono (by decide)) (hs.mono (by decide)) hterms
    exact ⟨rfl, hrest⟩

/-- A term is read in one way, up to an operator between two operands. -/
theorem Term.unique : ∀ (x y : Term) {r s : List Symbol}, Below 3 r → Below 3 s →
    x.symbols ++ r = y.symbols ++ s → x = y ∧ r = s
  | .mk m a xs, .mk n b ys, r, s, hr, hs, h => by
    simp only [Term.symbols, List.append_assoc] at h
    obtain ⟨rfl, hatoms⟩ := replicate_minus_unique h
    obtain ⟨rfl, hsuffixes⟩ := Atom.unique a b (below_suffixSymbols xs hr)
      (below_suffixSymbols ys hs) hatoms
    obtain ⟨rfl, hrest⟩ := suffixes_unique xs ys hr hs hsuffixes
    exact ⟨rfl, hrest⟩

/-- An atom is read in one way, up to the tests behind it. -/
theorem Atom.unique : ∀ (x y : Atom) {r s : List Symbol}, Below 4 r → Below 4 s →
    x.symbols ++ r = y.symbols ++ s → x = y ∧ r = s
  | .column none name, y, r, s, hr, hs, h => by
    match y with
    | .column none name' =>
      obtain ⟨hname, hrest⟩ := List.cons.inj h
      cases hname
      exact ⟨rfl, hrest⟩
    | .column (some table) name' =>
      obtain ⟨-, hrest⟩ := List.cons.inj h
      exact absurd hrest (hr.ne_cons (Nat.le_refl 4))
    | .not _ | .group _ => exact nomatch (List.cons.inj h).1
  | .column (some table) name, y, r, s, hr, hs, h => by
    match y with
    | .column none name' =>
      obtain ⟨-, hrest⟩ := List.cons.inj h
      exact absurd hrest.symm (hs.ne_cons (Nat.le_refl 4))
    | .column (some table') name' =>
      simp only [Atom.symbols, List.cons_append, List.nil_append, List.cons.injEq,
        Symbol.name.injEq] at h
      obtain ⟨rfl, -, rfl, hrest⟩ := h
      exact ⟨rfl, hrest⟩
    | .not _ | .group _ => exact nomatch (List.cons.inj h).1
  | .not c, y, r, s, hr, hs, h => by
    match y with
    | .not c' =>
      simp only [Atom.symbols, List.cons_append, List.append_assoc, List.cons.injEq, true_and,
        List.nil_append] at h
      obtain ⟨rfl, hrest⟩ := Chain.unique c c' (below_closing r) (below_closing s) h
      exact ⟨rfl, (List.cons.inj hrest).2⟩
    | .column none _ | .column (some _) _ | .group _ => exact nomatch (List.cons.inj h).1
  | .group c, y, r, s, hr, hs, h => by
    match y with
    | .group c' =>
      simp only [Atom.symbols, List.cons_append, List.append_assoc, List.cons.injEq, true_and,
        List.nil_append] at h
      obtain ⟨rfl, hrest⟩ := Chain.unique c c' (below_closing r) (below_closing s) h
      exact ⟨rfl, (List.cons.inj hrest).2⟩
    | .column none _ | .column (some _) _ | .not _ => exact nomatch (List.cons.inj h).1

/-- A test is read in one way, whatever follows it. -/
theorem Suffix.unique : ∀ (x y : Suffix) {r s : List Symbol},
    x.symbols ++ r = y.symbols ++ s → x = y ∧ r = s
  | .isNull, y, r, s, h => by
    match y with
    | .isNull => exact ⟨rfl, (List.cons.inj h).2⟩
    | .isNotNull | .within _ [] | .within _ (_ :: _) => exact nomatch (List.cons.inj h).1
  | .isNotNull, y, r, s, h => by
    match y with
    | .isNotNull => exact ⟨rfl, (List.cons.inj h).2⟩
    | .isNull | .within _ [] | .within _ (_ :: _) => exact nomatch (List.cons.inj h).1
  | .within negated [], y, r, s, h => by
    match y with
    | .within negated' [] =>
      simp only [Suffix.symbols, List.cons_append, List.nil_append, List.cons.injEq, true_and,
        Symbol.mark.injEq, Mark.within.injEq] at h
      obtain ⟨rfl, hrest⟩ := h
      exact ⟨rfl, hrest⟩
    | .within negated' (d :: ds) =>
      simp only [Suffix.symbols, List.cons_append, List.nil_append, List.cons.injEq, true_and,
        List.append_assoc] at h
      exact absurd h.2.symm (d.symbols_append_ne _ _)
    | .isNull | .isNotNull => exact nomatch (List.cons.inj h).1
  | .within negated (c :: cs), y, r, s, h => by
    match y with
    | .within negated' [] =>
      simp only [Suffix.symbols, List.cons_append, List.nil_append, List.cons.injEq, true_and,
        List.append_assoc] at h
      exact absurd h.2 (c.symbols_append_ne _ _)
    | .within negated' (d :: ds) =>
      simp only [Suffix.symbols, List.cons_append, List.nil_append, List.cons.injEq, true_and,
        List.append_assoc, Symbol.mark.injEq, Mark.within.injEq] at h
      obtain ⟨rfl, hvalues⟩ := h
      obtain ⟨rfl, hmore⟩ :=
        Chain.unique c d (below_moreSymbols cs r) (below_moreSymbols ds s) hvalues
      obtain ⟨rfl, hrest⟩ := more_unique cs ds hmore
      exact ⟨rfl, hrest⟩
    | .isNull | .isNotNull => exact nomatch (List.cons.inj h).1

/-- Tests in a row are read in one way, if no further test follows. -/
theorem suffixes_unique : ∀ (xs ys : List Suffix) {r s : List Symbol}, Below 3 r → Below 3 s →
    suffixSymbols xs ++ r = suffixSymbols ys ++ s → xs = ys ∧ r = s
  | [], [], r, s, hr, hs, h => ⟨rfl, h⟩
  | [], y :: ys, r, s, hr, hs, h => by
    obtain ⟨first, rest, hfirst, hlevel⟩ := y.exists_symbols_eq_cons
    rw [suffixSymbols, suffixSymbols, hfirst] at h
    exact absurd h (hr.ne_cons (Nat.le_of_eq hlevel.symm))
  | x :: xs, [], r, s, hr, hs, h => by
    obtain ⟨first, rest, hfirst, hlevel⟩ := x.exists_symbols_eq_cons
    rw [suffixSymbols, suffixSymbols, hfirst] at h
    exact absurd h.symm (hs.ne_cons (Nat.le_of_eq hlevel.symm))
  | x :: xs, y :: ys, r, s, hr, hs, h => by
    rw [suffixSymbols, suffixSymbols, List.append_assoc, List.append_assoc] at h
    obtain ⟨rfl, hsuffixes⟩ := Suffix.unique x y h
    obtain ⟨rfl, hrest⟩ := suffixes_unique xs ys hr hs hsuffixes
    exact ⟨rfl, hrest⟩

theorem more_unique : ∀ (cs ds : List Chain) {r s : List Symbol},
    moreSymbols cs ++ .mark .closing :: r = moreSymbols ds ++ .mark .closing :: s →
      cs = ds ∧ r = s
  | [], [], r, s, h => ⟨rfl, (List.cons.inj h).2⟩
  | [], d :: ds, r, s, h => nomatch (List.cons.inj h).1
  | c :: cs, [], r, s, h => nomatch (List.cons.inj h).1
  | c :: cs, d :: ds, r, s, h => by
    rw [moreSymbols, moreSymbols, List.cons_append, List.cons_append, List.append_assoc,
      List.append_assoc] at h
    obtain ⟨rfl, hmore⟩ := Chain.unique c d (below_moreSymbols cs r) (below_moreSymbols ds s)
      (List.cons.inj h).2
    obtain ⟨rfl, hrest⟩ := more_unique cs ds hmore
    exact ⟨rfl, hrest⟩

end

/-- A chain is all that its symbols tell. -/
theorem Chain.symbols_injective : Function.Injective Chain.symbols := by
  intro x y h
  have hnil : Below 1 [] := nofun
  refine (Chain.unique x y hnil hnil ?_).1
  rw [h]

end SqlScribe.Reading
