import SqlScribe.Proofs.DialectPiece
import SqlScribe.Proofs.Lexis
import SqlScribe.Proofs.OperatorTree

/-!
# What parentheses keep of a tree

The text of an expression of columns and operators spells the symbols of its reading (`Spells`), and
the symbols can be told from the text: a reader of quotes finds the names, and of the other symbols
no text is the beginning of another (`Mark.eq_of_isPrefixOf`). So two such expressions have the same
text exactly if they have the same reading.

This is less than having the same tree. An operand that is a minus sign or a test gets no
parentheses, nor do the parts of a pattern match, so a minus sign before a test and the same test of
the negated value share their text (`negated_test_shares_text`). Well grouped trees are told apart
by their texts.
-/

namespace SqlScribe

open Emit Piece Lexis

namespace Reading

/-! ## The text of symbols -/

/-- The text of a mark, with the blanks around it. -/
def Mark.text : Mark → String
  | .dot => "."
  | .opening => "("
  | .closing => ")"
  | .comma => ", "
  | .minus => "-"
  | .not => "NOT "
  | .isNull => " IS NULL"
  | .isNotNull => " IS NOT NULL"
  | .within false => " IN "
  | .within true => " NOT IN "
  | .link .like => " LIKE "
  | .link .escape => " ESCAPE "
  | .op binary => " " ++ binary.token ++ " "

/-- The text of a symbol in standard SQL. -/
def Symbol.text : Symbol → String
  | .name n => Standard.quote n
  | .mark m => m.text

/-- What a reader of quotes makes of a symbol. -/
def Symbol.tokens : Symbol → List Token
  | .name n => [.quoted .identifier n.toList]
  | .mark m => m.text.toList.map .plain

/-- Every mark, so that what holds of all of them can be decided. -/
def Mark.all : List Mark :=
  [.dot, .opening, .closing, .comma, .minus, .not, .isNull, .isNotNull, .within false,
   .within true, .link .like, .link .escape, .op .add, .op .subtract, .op .multiply, .op .divide,
   .op .modulo, .op .equal, .op .notEqual, .op .less, .op .lessOrEqual, .op .greater,
   .op .greaterOrEqual, .op .and, .op .or, .op .bitAnd, .op .bitOr]

theorem Mark.mem_all (m : Mark) : m ∈ all := by
  cases m with
  | within negated => cases negated <;> decide
  | link l => cases l <;> decide
  | op op => cases op <;> decide
  | _ => decide

/-- The text of a mark is not empty and has no quotes. -/
theorem Mark.isWord_text (m : Mark) : Text.isWord m.text = true := by
  have hall : ∀ m ∈ all, Text.isWord m.text = true := by decide
  exact hall m m.mem_all

/-- No mark begins with another one. -/
theorem Mark.eq_of_isPrefixOf {m n : Mark} (h : m.text.toList.isPrefixOf n.text.toList = true) :
    m = n := by
  have hall : ∀ m ∈ all, ∀ n ∈ all, m.text.toList.isPrefixOf n.text.toList = true → m = n := by
    decide +kernel
  exact hall m m.mem_all n n.mem_all h

theorem Symbol.tokens_ne_nil (s : Symbol) : s.tokens ≠ [] := by
  cases s with
  | name a => exact nofun
  | mark m =>
    have hword := m.isWord_text
    rw [Text.isWord, Bool.and_eq_true, bne_iff_ne] at hword
    intro hnil
    exact hword.1 (String.toList_eq_nil_iff.1 (List.map_eq_nil_iff.1 hnil))

/-- No symbol is the start of another one, so a text is cut into symbols in one way. -/
theorem Symbol.eq_of_prefix : ∀ {s t : Symbol}, s.tokens <+: t.tokens → s = t
  | .name a, .name b, h => by
    have hname : a.toList = b.toList := by simpa [Symbol.tokens] using h
    rw [String.toList_inj.1 hname]
  | .name a, .mark m, h => by
    obtain ⟨rest, hrest⟩ := h
    cases hm : m.text.toList <;> simp [Symbol.tokens, hm] at hrest
  | .mark m, .name a, h => by
    have hne := (Symbol.mark m).tokens_ne_nil
    obtain ⟨rest, hrest⟩ := h
    cases hm : m.text.toList <;> simp [Symbol.tokens, hm] at hrest hne
  | .mark m, .mark n, h => by
    have hplain : Function.Injective Token.plain := fun _ _ hc => Token.plain.inj hc
    have hmn : m.text.toList <+: n.text.toList := (List.prefix_map_iff_of_injective hplain).1 h
    rw [Mark.eq_of_isPrefixOf (List.isPrefixOf_iff_prefix.2 hmn)]

/-- Symbols are told from their tokens. -/
theorem flatMap_tokens_injective {ss ts : List Symbol}
    (h : ss.flatMap Symbol.tokens = ts.flatMap Symbol.tokens) : ss = ts := by
  induction ss generalizing ts with
  | nil =>
    cases ts with
    | nil => rfl
    | cons t ts =>
      rw [List.flatMap_nil, List.flatMap_cons] at h
      exact absurd (List.append_eq_nil_iff.1 h.symm).1 t.tokens_ne_nil
  | cons s ss ih =>
    cases ts with
    | nil =>
      rw [List.flatMap_nil, List.flatMap_cons] at h
      exact absurd (List.append_eq_nil_iff.1 h).1 s.tokens_ne_nil
    | cons t ts =>
      rw [List.flatMap_cons, List.flatMap_cons] at h
      -- Of two beginnings of one list, one begins the other.
      have hst : s = t := by
        have hs : s.tokens <+: s.tokens ++ ss.flatMap Symbol.tokens := List.prefix_append _ _
        have ht : t.tokens <+: s.tokens ++ ss.flatMap Symbol.tokens :=
          h ▸ List.prefix_append _ _
        obtain hprefix | hprefix := List.prefix_or_prefix_of_prefix hs ht
        · exact Symbol.eq_of_prefix hprefix
        · exact (Symbol.eq_of_prefix hprefix).symm
      subst hst
      rw [ih (List.append_cancel_left h)]

/-! ## Texts that spell symbols -/

/-- The piece succeeds, its text is that of the symbols one after the other, and a reader of quotes
finds the tokens of the symbols in it. -/
structure Spells (before after : Edge) (p : Piece) (ss : List Symbol) : Prop where
  error : p.error = none
  text : p.sql.toList = ss.flatMap (·.text.toList)
  reads : Standard.lexis.Reads before after p.sql.toList (ss.flatMap Symbol.tokens)

namespace Spells

variable {before between after : Edge} {p q : Piece} {ss ts : List Symbol}

theorem name (n : String) : Spells .settled .loose (Piece.text (Standard.quote n)) [.name n] where
  error := rfl
  text := by
    rw [List.flatMap_singleton]
    rfl
  reads := Standard.reads_quote n

theorem mark (m : Mark) : Spells .loose .settled (Piece.text m.text) [.mark m] where
  error := rfl
  text := by
    rw [List.flatMap_singleton]
    rfl
  reads := by
    rw [List.flatMap_singleton]
    exact .word m.isWord_text

theorem empty (edge : Edge) : Spells edge edge {} [] :=
  ⟨rfl, rfl, .nil edge⟩

theorem after_settled (h : Spells before after p ss) : Spells .settled after p ss :=
  ⟨h.error, h.text, h.reads.after_settled⟩

theorem before_loose (h : Spells before after p ss) : Spells before .loose p ss :=
  ⟨h.error, h.text, h.reads.before_loose⟩

theorem append (hp : Spells before between p ss) (hq : Spells between after q ts) :
    Spells before after (p ++ q) (ss ++ ts) := by
  rw [append_of_none hp.error]
  refine ⟨hq.error, ?_, ?_⟩
  · rw [String.toList_append, hp.text, hq.text, List.flatMap_append]
  · rw [String.toList_append, List.flatMap_append]
    exact hp.reads.append hq.reads

theorem mark_append (m : Mark) (hp : Spells .settled after p ss) :
    Spells .loose after (Piece.text m.text ++ p) (.mark m :: ss) :=
  (Spells.mark m).append hp

theorem append_mark (hp : Spells before .loose p ss) (m : Mark) :
    Spells before .settled (p ++ Piece.text m.text) (ss ++ [.mark m]) :=
  hp.append (.mark m)

theorem parenthesized (hp : Spells .settled .loose p ss) :
    Spells .loose .settled p.parenthesized (.mark .opening :: (ss ++ [.mark .closing])) :=
  (hp.mark_append .opening).append_mark .closing

end Spells

/-! ## The symbols of readings -/

theorem suffixSymbols_append (xs ys : List Suffix) :
    suffixSymbols (xs ++ ys) = suffixSymbols xs ++ suffixSymbols ys := by
  induction xs with
  | nil => rfl
  | cons x xs ih => rw [List.cons_append, suffixSymbols, suffixSymbols, ih, List.append_assoc]

theorem Term.symbols_negate (t : Term) : t.negate.symbols = .mark .minus :: t.symbols := by
  obtain ⟨n, a, xs⟩ := t
  rfl

theorem Term.symbols_suffixed (x : Suffix) (t : Term) :
    (t.suffixed x).symbols = t.symbols ++ x.symbols := by
  obtain ⟨n, a, xs⟩ := t
  simp only [Term.suffixed, Term.symbols, suffixSymbols_append, suffixSymbols, List.append_nil,
    List.append_assoc]

theorem Chain.symbols_append (c : Chain) (l : Link) (d : Chain) :
    (c.append l d).symbols = c.symbols ++ .mark (.link l) :: d.symbols := by
  match c with
  | .item i => rfl
  | .link i k c =>
    rw [Chain.append, Chain.symbols, Chain.symbols_append c l d, Chain.symbols, List.append_assoc,
      List.cons_append]

theorem Chain.symbols_ofAtom (a : Atom) : (Chain.ofAtom a).symbols = a.symbols :=
  List.append_nil a.symbols

/-- In the place of an operand, operators get parentheses and all else is as it is. -/
theorem asTerm_reading_symbols (t : OperatorTree) :
    t.reading.asTerm.symbols =
      if t.isOperator then .mark .opening :: (t.reading.symbols ++ [.mark .closing])
      else t.reading.symbols := by
  cases t with
  | like a b c =>
    rw [OperatorTree.reading, Chain.asTerm_append]
    exact List.append_nil _
  | binary op a b => exact List.append_nil _
  | _ => rfl

end Reading

/-! ## The text of a tree spells its reading -/

open Reading

variable {X : Signature}

/-- A tree is an operator exactly if its expression gets parentheses as an operand. -/
theorem Expr.isOperator_of_operatorTree? {e : Expr X} {t : OperatorTree}
    (h : e.operatorTree? = some t) : e.isOperator = t.isOperator := by
  cases e with
  | column table name type =>
    cases h
    rfl
  | unary op a type =>
    cases op with
    | convert => exact nomatch h
    | not | negate | isNull | isNotNull =>
      obtain ⟨u, -, rfl⟩ := Option.map_eq_some_iff.1 h
      rfl
  | binary op a b kind type =>
    obtain ⟨u, v, -, -, rfl⟩ := Expr.exists_of_operatorTree?_binary h
    rfl
  | like a b c =>
    obtain ⟨u, v, w, -, -, -, rfl⟩ := Expr.exists_of_operatorTree?_like h
    rfl
  | member a values negated =>
    obtain ⟨u, us, -, -, rfl⟩ := Expr.exists_of_operatorTree?_member h
    rfl
  | _ => exact nomatch h

/-- The text of the expression, if it has an operator tree, spells the reading of the tree. -/
def Expr.SpellsReading (e : Expr .none) : Prop :=
  ∀ t, e.operatorTree? = some t →
    Spells .settled .loose (Dialect.ansi.exprPiece e) t.reading.symbols

/-- As an operand, an expression spells its reading as a term. -/
theorem Expr.SpellsReading.operand {e : Expr .none} (h : e.SpellsReading) {t : OperatorTree}
    (ht : e.operatorTree? = some t) :
    Spells .settled .loose (Piece.operand e (Dialect.ansi.exprPiece e))
      t.reading.asTerm.symbols := by
  rw [asTerm_reading_symbols, ← Expr.isOperator_of_operatorTree? ht]
  unfold Piece.operand
  split
  · exact (h t ht).parenthesized.after_settled.before_loose
  · exact h t ht

/-- The values of a list behind the first one. -/
theorem spells_more {values : List (Expr .none)} (h : ∀ v ∈ values, v.SpellsReading)
    {ts : List OperatorTree} (hts : operatorTrees? values = some ts) :
    Spells .loose .loose
      (Piece.inOrder ((values.map Dialect.ansi.exprPiece).map (text ", " ++ ·)))
      (moreSymbols (readings ts)) := by
  induction values generalizing ts with
  | nil =>
    cases hts
    exact .empty .loose
  | cons v values ih =>
    obtain ⟨t, us, ht, hus, rfl⟩ := exists_of_operatorTrees?_cons hts
    have hfirst := (h v List.mem_cons_self t ht).mark_append .comma
    have hrest := ih (fun w hw => h w (List.mem_cons_of_mem v hw)) hus
    exact hfirst.append hrest

/-- The values of a list in parentheses, behind the mark of the test. -/
theorem spells_within {values : List (Expr .none)} (h : ∀ v ∈ values, v.SpellsReading)
    {ts : List OperatorTree} (hts : operatorTrees? values = some ts) (negated : Bool) :
    Spells .loose .settled
      (textIf negated " NOT" ++ text " IN " ++
        (Piece.separated ", " (values.map Dialect.ansi.exprPiece)).parenthesized)
      (Suffix.within negated (readings ts)).symbols := by
  have hmark : textIf negated " NOT" ++ text " IN " = text (Mark.within negated).text := by
    cases negated <;> rfl
  rw [hmark]
  cases values with
  | nil =>
    cases hts
    have hnothing := (Spells.empty .settled).before_loose.parenthesized.after_settled
    exact hnothing.mark_append (.within negated)
  | cons v values =>
    obtain ⟨t, us, ht, hus, rfl⟩ := exists_of_operatorTrees?_cons hts
    have hfirst := h v List.mem_cons_self t ht
    have hmore := spells_more (fun w hw => h w (List.mem_cons_of_mem v hw)) hus
    have hlist := (hfirst.append hmore).parenthesized.after_settled
    rw [List.append_assoc] at hlist
    exact hlist.mark_append (.within negated)

theorem spells_column (table : Option String) (name : String) (type : Option SqlType) :
    (Expr.column table name type).SpellsReading := by
  intro t ht
  cases ht
  rw [Dialect.ansi_plain.exprPiece_column, OperatorTree.reading, Chain.symbols_ofAtom]
  cases table with
  | none => exact .name name
  | some table =>
    have hcolumn := ((Spells.name table).append_mark .dot).append (.name name)
    rw [Standard.qualified, text_append, text_append]
    exact hcolumn

/-- An operator on one operand spells its reading; the operand of a negation in words has
parentheses of its own. -/
theorem spells_unary (op : UnaryOp) (a : Expr .none) (type : Option SqlType)
    (ha : a.SpellsReading) : (Expr.unary op a type).SpellsReading := by
  intro t ht
  rw [Dialect.ansi_plain.exprPiece_unary]
  change Spells _ _ (Standard.unary op _ type).piece _
  cases op with
  | not =>
    obtain ⟨u, hu, rfl⟩ := Option.map_eq_some_iff.1 ht
    rw [Standard.unary_not_emit, piece_emit, OperatorTree.reading, Chain.symbols_ofAtom]
    have hbody := (ha u hu).parenthesized.after_settled
    exact (hbody.mark_append .not).after_settled.before_loose
  | negate =>
    obtain ⟨u, hu, rfl⟩ := Option.map_eq_some_iff.1 ht
    rw [Standard.unary_negate_emit, piece_emit, OperatorTree.reading, Chain.symbols, Item.symbols,
      Term.symbols_negate]
    exact ((ha.operand hu).mark_append .minus).after_settled
  | convert => exact nomatch ht
  | isNull =>
    obtain ⟨u, hu, rfl⟩ := Option.map_eq_some_iff.1 ht
    rw [Standard.unary_isNull_emit, piece_emit, OperatorTree.reading, Chain.symbols, Item.symbols,
      Term.symbols_suffixed]
    exact ((ha.operand hu).append_mark .isNull).before_loose
  | isNotNull =>
    obtain ⟨u, hu, rfl⟩ := Option.map_eq_some_iff.1 ht
    rw [Standard.unary_isNotNull_emit, piece_emit, OperatorTree.reading, Chain.symbols,
      Item.symbols, Term.symbols_suffixed]
    exact ((ha.operand hu).append_mark .isNotNull).before_loose

theorem spells_binary (op : BinaryOp) (a b : Expr .none) (kind : ScalarKind)
    (type : Option SqlType) (ha : a.SpellsReading) (hb : b.SpellsReading) :
    (Expr.binary op a b kind type).SpellsReading := by
  intro t ht
  obtain ⟨u, v, hu, hv, rfl⟩ := Expr.exists_of_operatorTree?_binary ht
  rw [Dialect.ansi_plain.exprPiece_binary]
  change Spells _ _ (Standard.binary op _ _).piece _
  rw [Standard.binary_emit, piece_emit, Piece.append_assoc, OperatorTree.reading, Chain.symbols,
    Item.symbols]
  exact (ha.operand hu).append ((hb.operand hv).mark_append (.op op))

/-- A comparison with a pattern spells its reading, as a chain: its operands get no parentheses. -/
theorem spells_like (a b : Expr .none) (c : Option (Expr .none)) (ha : a.SpellsReading)
    (hb : b.SpellsReading) (hc : ∀ e ∈ c, e.SpellsReading) : (Expr.like a b c).SpellsReading := by
  intro t ht
  obtain ⟨u, v, w, hu, hv, hw, rfl⟩ := Expr.exists_of_operatorTree?_like ht
  rw [Dialect.ansi_plain.exprPiece_like, Piece.append_assoc, Piece.append_assoc,
    OperatorTree.reading, Chain.symbols_append]
  refine (ha u hu).append (Spells.mark_append (.link .like) ?_)
  cases c with
  | none =>
    cases hw
    rw [Option.map_none, Piece.led, append_empty]
    exact hb v hv
  | some c =>
    obtain ⟨x, hx, rfl⟩ := Option.map_eq_some_iff.1 hw
    rw [escapeReading, Chain.symbols_append]
    exact (hb v hv).append ((hc c rfl x hx).mark_append (.link .escape))

theorem spells_member (a : Expr .none) (values : List (Expr .none)) (negated : Bool)
    (ha : a.SpellsReading) (hvalues : ∀ v ∈ values, v.SpellsReading) :
    (Expr.member a values negated).SpellsReading := by
  intro t ht
  obtain ⟨u, us, hu, hus, rfl⟩ := Expr.exists_of_operatorTree?_member ht
  rw [Dialect.ansi_plain.exprPiece_member, Piece.append_assoc, Piece.append_assoc,
    ← Piece.append_assoc (textIf negated " NOT"), OperatorTree.reading, Chain.symbols,
    Item.symbols, Term.symbols_suffixed]
  exact ((ha.operand hu).append (spells_within hvalues hus negated)).before_loose

/-- Columns and operators spell their readings if their parts do; nothing else has a reading. -/
theorem spells_steps :
    Tree.Steps Expr.SpellsReading (fun _ : Query .none => True) (fun _ : Source .none => True) where
  literal _ _ := nofun
  parameter _ _ := nofun
  column := spells_column
  raw _ := nofun
  call _ _ _ _ _ := nofun
  unary := spells_unary
  binary := spells_binary
  like := spells_like
  member := spells_member
  choice _ _ _ _ _ _ _ := nofun
  existence _ _ _ := nofun
  scalar _ _ := nofun
  nullary := nofun
  dialectUnary := nofun
  dialectBinary := nofun
  variadic := nofun
  query _ _ _ _ _ _ _ _ _ := trivial
  table _ _ _ := trivial
  derived _ _ _ := trivial
  innerJoin _ _ _ _ := trivial
  leftJoin _ _ _ _ := trivial
  crossJoin _ _ := trivial
  crossApply _ _ := trivial
  outerApply _ _ := trivial

/-- Texts that spell readings are equal exactly if the readings are. -/
theorem Reading.Spells.sql_eq_iff {p q : Piece} {c d : Chain}
    (hp : Spells .settled .loose p c.symbols) (hq : Spells .settled .loose q d.symbols) :
    p.sql = q.sql ↔ c = d := by
  constructor
  · intro h
    have htokens : c.symbols.flatMap Symbol.tokens = d.symbols.flatMap Symbol.tokens := by
      have hlex := hp.reads.lex_eq
      rw [h, hq.reads.lex_eq] at hlex
      exact (Option.some.inj hlex).symm
    exact Chain.symbols_injective (flatMap_tokens_injective htokens)
  · rintro rfl
    rw [← String.toList_inj, hp.text, hq.text]

/-- Two expressions of columns and operators both have a text, and it is the same exactly if they
have the same reading; if both are well grouped, exactly if they are the same up to types and
kinds. -/
theorem operator_texts_eq_iff (e₁ e₂ : Expr .none) (t₁ t₂ : OperatorTree)
    (h₁ : e₁.operatorTree? = some t₁) (h₂ : e₂.operatorTree? = some t₂) (o : Output) :
    ∃ text₁ text₂ o₁ o₂, Dialect.ansi.compileExpr e₁ o = .ok text₁ o₁ ∧
      Dialect.ansi.compileExpr e₂ o = .ok text₂ o₂ ∧
      (text₁ = text₂ ↔ t₁.reading = t₂.reading) ∧
      (t₁.isWellGrouped = true → t₂.isWellGrouped = true → (text₁ = text₂ ↔ t₁ = t₂)) := by
  have hs₁ := spells_steps.ofExpr e₁ t₁ h₁
  have hs₂ := spells_steps.ofExpr e₂ t₂ h₂
  obtain ⟨o₁, hok₁⟩ := (Dialect.ansi_plain.compileExpr_ok_iff e₁ o _).2 ⟨hs₁.error, rfl⟩
  obtain ⟨o₂, hok₂⟩ := (Dialect.ansi_plain.compileExpr_ok_iff e₂ o _).2 ⟨hs₂.error, rfl⟩
  have hreading := hs₁.sql_eq_iff hs₂
  refine ⟨_, _, o₁, o₂, hok₁, hok₂, hreading, fun hw₁ hw₂ => ?_⟩
  rw [hreading]
  constructor
  · exact OperatorTree.eq_of_reading_eq hw₁ hw₂
  · rintro rfl
    rfl

/-- Well grouped trees that differ in their parentheses only have different texts. -/
theorem operator_texts_eq_iff_sums :
    ∃ text₁ text₂ o₁ o₂,
      Dialect.ansi.compileExpr
        (.binary .add (.binary .add (.column none "a" none) (.column none "b" none) .integer none)
          (.column none "c" none) .integer none) {} = .ok text₁ o₁ ∧
      Dialect.ansi.compileExpr
        (.binary .add (.column none "a" none)
          (.binary .add (.column none "b" none) (.column none "c" none) .integer none)
          .integer none) {} = .ok text₂ o₂ ∧
      text₁ ≠ text₂ := by
  obtain ⟨text₁, text₂, o₁, o₂, hok₁, hok₂, -, hgrouped⟩ :=
    operator_texts_eq_iff
      (.binary .add (.binary .add (.column none "a" none) (.column none "b" none) .integer none)
        (.column none "c" none) .integer none)
      (.binary .add (.column none "a" none)
        (.binary .add (.column none "b" none) (.column none "c" none) .integer none) .integer none)
      (.binary .add (.binary .add (.column none "a") (.column none "b")) (.column none "c"))
      (.binary .add (.column none "a") (.binary .add (.column none "b") (.column none "c")))
      rfl rfl {}
  refine ⟨text₁, text₂, o₁, o₂, hok₁, hok₂, fun htext => ?_⟩
  exact nomatch (hgrouped rfl rfl).1 htext

/-- A negated test and the test of a negated value are different trees with one text. -/
theorem negated_test_shares_text :
    Dialect.ansi.compileExpr
        (.unary .negate (.unary .isNull (.column none "x" none) none) none) {} =
      .ok "-\"x\" IS NULL" {} ∧
    Dialect.ansi.compileExpr
        (.unary .isNull (.unary .negate (.column none "x" none) none) none) {} =
      .ok "-\"x\" IS NULL" {} ∧
    (Expr.unary .negate (.unary .isNull (.column none "x" none) none) none :
        Expr .none).operatorTree? ≠
      (Expr.unary .isNull (.unary .negate (.column none "x" none) none) none :
        Expr .none).operatorTree? :=
  ⟨rfl, rfl, nofun⟩

end SqlScribe
