import SqlScribe.Proofs.Phrase

/-!
# Texts with one reading

The text of an expression that has a phrase is read back as this phrase. So no two such expressions
share their text, unless they are the same up to types and kinds (`phrase_eq_of_text_eq`).

The proof is one induction over trees. Each construct writes its words between the texts of its
parts (`Piece.Lexes`), and the reader has a law for the tokens of each. An expression is legible in
two ways, on its own and as an operand, and it is enough to show the one that it is written for:
operators get parentheses as operands, and all else is written as it is.
-/

namespace SqlScribe

open Emit Piece Lexis Phrase

/-! ## The phrase of an expression -/

section

variable {X : Signature}

mutual

/-- The phrase of an expression, if it has only constructs of phrases. -/
def Expr.phrase? : Expr X → Option Phrase
  | .literal (.string contents) _ => some (.string contents)
  | .column table name _ => some (.column table name)
  | .call name args false _ => if isName name then (phrases? args).map (.call name) else none
  | .unary .not a _ => a.phrase?.map .not
  | .unary .isNull a _ => a.phrase?.map .isNull
  | .unary .isNotNull a _ => a.phrase?.map .isNotNull
  | .binary op a b _ _ => do return .binary op (← a.phrase?) (← b.phrase?)
  | .member a values negated => do return .member (← a.phrase?) (← phrases? values) negated
  | .choice a branches c _ => do
    return .choice (← optionPhrase? a) (← branchPhrases? branches) (← optionPhrase? c)
  | _ => none

/-- The phrases of several expressions, if each is one. -/
def phrases? : List (Expr X) → Option (List Phrase)
  | [] => some []
  | a :: as => do return (← a.phrase?) :: (← phrases? as)

/-- The phrase of an optional expression, if it is one. -/
def optionPhrase? : Option (Expr X) → Option (Option Phrase)
  | none => some none
  | some a => a.phrase?.map some

/-- The phrases of branches, each test with its result. -/
def branchPhrases? : List (Branch X) → Option (List (Phrase × Phrase))
  | [] => some []
  | ⟨test, result⟩ :: branches => do
    return (← test.phrase?, ← result.phrase?) :: (← branchPhrases? branches)

end

end

/-! ## The tokens of pieces -/

/-- The piece succeeds, and between the edges a reader of quotes finds the tokens in its text. -/
structure Piece.Lexes (before after : Edge) (p : Piece) (ts : List Token) : Prop where
  error : p.error = none
  reads : Standard.lexis.Reads before after p.sql.toList ts

namespace Piece.Lexes

variable {before between after : Edge} {p q : Piece} {ts us : List Token}

theorem word (word : String) (hword : Text.isWord word = true) :
    Lexes .loose .settled (text word) (word.toList.map .plain) :=
  ⟨rfl, .word hword⟩

theorem mark (m : Mark) : Lexes .loose .settled (text m.text) m.tokens :=
  .word m.text m.isWord_text

/-- A quoted name is lexed to one token, whatever is in it. -/
theorem name (n : String) :
    Lexes .settled .loose (text (Standard.quote n)) [.quoted .identifier n.toList] :=
  ⟨rfl, Standard.reads_quote n⟩

theorem string (contents : String) :
    Lexes .settled .loose (text ("'" ++ Standard.escape contents ++ "'"))
      [.quoted .string contents.toList] :=
  ⟨rfl, Standard.reads_escape contents⟩

theorem empty (edge : Edge) : Lexes edge edge {} [] :=
  ⟨rfl, .nil edge⟩

theorem after_settled (h : Lexes before after p ts) : Lexes .settled after p ts :=
  ⟨h.error, h.reads.after_settled⟩

theorem before_loose (h : Lexes before after p ts) : Lexes before .loose p ts :=
  ⟨h.error, h.reads.before_loose⟩

theorem append (hp : Lexes before between p ts) (hq : Lexes between after q us) :
    Lexes before after (p ++ q) (ts ++ us) := by
  rw [append_of_none hp.error]
  refine ⟨hq.error, ?_⟩
  rw [String.toList_append]
  exact hp.reads.append hq.reads

theorem mark_append (m : Mark) (hp : Lexes .settled after p ts) :
    Lexes .loose after (text m.text ++ p) (m.tokens ++ ts) :=
  (Lexes.mark m).append hp

theorem parenthesized (hp : Lexes .settled .loose p ts) :
    Lexes .loose .settled p.parenthesized (opening.tokens ++ (ts ++ closing.tokens)) := by
  rw [Piece.parenthesized, Piece.append_assoc]
  exact (hp.append (.mark closing)).mark_append opening

end Piece.Lexes

/-! ## Legible expressions -/

/-- The text of the piece is read as the phrase. -/
def Piece.TellsPhrase (p : Piece) (t : Phrase) : Prop :=
  ∃ ts, Lexes .settled .loose p ts ∧ IsPhrase ts t

/-- The text of the piece is read as the phrase in the place of an operand. -/
def Piece.TellsOperand (p : Piece) (t : Phrase) : Prop :=
  ∃ ts, Lexes .settled .loose p ts ∧ IsOperand ts t

/-- If the expression has a phrase, its text tells it, on its own and as an operand. -/
def Expr.IsLegible (e : Expr .none) : Prop :=
  ∀ t, e.phrase? = some t →
    (Dialect.ansi.exprPiece e).TellsPhrase t ∧
      (Piece.operand e (Dialect.ansi.exprPiece e)).TellsOperand t

/-- What is no operator is written alike in both places. -/
theorem Piece.TellsOperand.legible {e : Expr .none} {t : Phrase}
    (h : (Dialect.ansi.exprPiece e).TellsOperand t) (he : e.isOperator = false) :
    (Dialect.ansi.exprPiece e).TellsPhrase t ∧
      (Piece.operand e (Dialect.ansi.exprPiece e)).TellsOperand t := by
  obtain ⟨ts, hlexes, hts⟩ := h
  refine ⟨⟨ts, hlexes, hts.isPhrase⟩, ts, ?_, hts⟩
  rw [Piece.operand, he]
  exact hlexes

/-- An operator gets parentheses as an operand. -/
theorem Piece.TellsPhrase.legible {e : Expr .none} {t : Phrase}
    (h : (Dialect.ansi.exprPiece e).TellsPhrase t) (he : e.isOperator = true) :
    (Dialect.ansi.exprPiece e).TellsPhrase t ∧
      (Piece.operand e (Dialect.ansi.exprPiece e)).TellsOperand t := by
  obtain ⟨ts, hlexes, hts⟩ := h
  refine ⟨⟨ts, hlexes, hts⟩, _, ?_, hts.group⟩
  rw [Piece.operand, he]
  exact hlexes.parenthesized.after_settled.before_loose

theorem legible_column (table : Option String) (name : String) (type : Option SqlType) :
    (Expr.column table name type).IsLegible := by
  intro t ht
  cases ht
  refine Piece.TellsOperand.legible ?_ rfl
  rw [Dialect.ansi_plain.exprPiece_column]
  cases table with
  | none => exact ⟨_, .name name, isOperand_column name⟩
  | some table =>
    have hcolumn := (Lexes.name table).append ((Lexes.name name).mark_append (.operator .dot))
    rw [Standard.qualified, text_append, text_append, Piece.append_assoc]
    exact ⟨_, hcolumn, isOperand_qualified table name⟩

theorem legible_literal (value : Literal) (type : Option SqlType) :
    (Expr.literal value type).IsLegible := by
  intro t ht
  cases value with
  | string contents =>
    cases ht
    refine Piece.TellsOperand.legible ?_ rfl
    rw [Dialect.ansi_plain.exprPiece_literal]
    exact ⟨_, .string contents, isOperand_string contents⟩
  | _ => cases ht

/-! ### Lists -/

/-- The expressions of a list behind the first one. -/
theorem exists_isMore {as : List (Expr .none)} (h : ∀ a ∈ as, a.IsLegible) {ts : List Phrase}
    (hts : phrases? as = some ts) :
    ∃ us, Lexes .loose .loose
        (Piece.inOrder ((as.map Dialect.ansi.exprPiece).map (text ", " ++ ·))) us ∧
      IsMore us ts := by
  induction as generalizing ts with
  | nil =>
    cases hts
    exact ⟨[], .empty .loose, isMore_nil⟩
  | cons a as ih =>
    simp only [phrases?, Option.bind_eq_bind, Option.bind_eq_some_iff] at hts
    obtain ⟨t, ht, ts', hts', heq⟩ := hts
    cases heq
    obtain ⟨⟨us, hus, hphrase⟩, -⟩ := h a List.mem_cons_self t ht
    obtain ⟨vs, hvs, hmore⟩ := ih (fun b hb => h b (List.mem_cons_of_mem a hb)) hts'
    refine ⟨_, ?_, hphrase.more hmore⟩
    rw [← List.append_assoc]
    exact (hus.mark_append (.operator .comma)).append hvs

/-- The texts of legible expressions, with commas between them, tell a list of phrases. -/
theorem exists_isList {as : List (Expr .none)} (h : ∀ a ∈ as, a.IsLegible) {ts : List Phrase}
    (hts : phrases? as = some ts) :
    ∃ us, Lexes .settled .loose (Piece.separated ", " (as.map Dialect.ansi.exprPiece)) us ∧
      IsList us ts := by
  cases as with
  | nil =>
    cases hts
    exact ⟨[], (Lexes.empty .settled).before_loose, isList_nil⟩
  | cons a as =>
    simp only [phrases?, Option.bind_eq_bind, Option.bind_eq_some_iff] at hts
    obtain ⟨t, ht, ts', hts', heq⟩ := hts
    cases heq
    obtain ⟨⟨us, hus, hphrase⟩, -⟩ := h a List.mem_cons_self t ht
    obtain ⟨vs, hvs, hmore⟩ := exists_isMore (fun b hb => h b (List.mem_cons_of_mem a hb)) hts'
    exact ⟨us ++ vs, hus.append hvs, hphrase.list hmore⟩

theorem isWord_of_isName {name : String} (h : isName name = true) : Text.isWord name = true := by
  rw [isName, Bool.and_eq_true] at h
  rw [Text.isWord, Bool.and_eq_true, Text.isQuoteFree, List.all_eq_true]
  refine ⟨h.1, fun c hc => ?_⟩
  have hletter := List.all_eq_true.1 h.2 c hc
  rw [Bool.not_eq_true', Text.isQuote, Bool.or_eq_false_iff, Bool.or_eq_false_iff]
  refine ⟨⟨?_, ?_⟩, ?_⟩ <;>
  · rw [beq_eq_false_iff_ne]
    rintro rfl
    exact absurd hletter (by decide)

theorem legible_call (name : String) (args : List (Expr .none)) (niladic : Bool)
    (type : Option SqlType) (hargs : ∀ a ∈ args, a.IsLegible) :
    (Expr.call name args niladic type).IsLegible := by
  intro t ht
  cases niladic with
  | true => cases ht
  | false =>
    rw [Expr.phrase?] at ht
    split at ht
    case isFalse => contradiction
    case isTrue hname =>
      obtain ⟨ts, hts, rfl⟩ := Option.map_eq_some_iff.1 ht
      obtain ⟨us, hus, hlist⟩ := exists_isList hargs hts
      refine Piece.TellsOperand.legible ⟨_, ?_, hlist.call hname⟩ rfl
      rw [Dialect.ansi_plain.exprPiece_call]
      change Lexes _ _ (Standard.call name _ false).piece _
      rw [Standard.call_emit, piece_emit]
      have hword := Lexes.word name (isWord_of_isName hname)
      exact (hword.append hus.parenthesized.after_settled).after_settled.before_loose

/-! ### Operators and tests -/

theorem legible_unary (op : UnaryOp) (a : Expr .none) (type : Option SqlType)
    (ha : a.IsLegible) : (Expr.unary op a type).IsLegible := by
  intro t ht
  cases op with
  | negate | convert => cases ht
  | not =>
    obtain ⟨u, hu, rfl⟩ := Option.map_eq_some_iff.1 ht
    obtain ⟨⟨us, hus, hphrase⟩, -⟩ := ha u hu
    refine Piece.TellsOperand.legible ⟨_, ?_, hphrase.not⟩ rfl
    rw [Dialect.ansi_plain.exprPiece_unary]
    change Lexes _ _ (Standard.unary .not _ type).piece _
    rw [Standard.unary_not_emit, piece_emit]
    have hbody := hus.parenthesized.after_settled
    exact (hbody.mark_append (.operator .not)).after_settled.before_loose
  | isNull =>
    obtain ⟨u, hu, rfl⟩ := Option.map_eq_some_iff.1 ht
    obtain ⟨-, us, hus, hoperand⟩ := ha u hu
    refine Piece.TellsOperand.legible ⟨_, ?_, hoperand.isNull⟩ rfl
    rw [Dialect.ansi_plain.exprPiece_unary]
    change Lexes _ _ (Standard.unary .isNull _ type).piece _
    rw [Standard.unary_isNull_emit, piece_emit]
    exact (hus.append (.mark (.operator .isNull))).before_loose
  | isNotNull =>
    obtain ⟨u, hu, rfl⟩ := Option.map_eq_some_iff.1 ht
    obtain ⟨-, us, hus, hoperand⟩ := ha u hu
    refine Piece.TellsOperand.legible ⟨_, ?_, hoperand.isNotNull⟩ rfl
    rw [Dialect.ansi_plain.exprPiece_unary]
    change Lexes _ _ (Standard.unary .isNotNull _ type).piece _
    rw [Standard.unary_isNotNull_emit, piece_emit]
    exact (hus.append (.mark (.operator .isNotNull))).before_loose

/-- An operator is legible if both operands are, since operators among them get parentheses. -/
theorem legible_binary (op : BinaryOp) (a b : Expr .none) (kind : ScalarKind)
    (type : Option SqlType) (ha : a.IsLegible) (hb : b.IsLegible) :
    (Expr.binary op a b kind type).IsLegible := by
  intro t ht
  simp only [Expr.phrase?, Option.bind_eq_bind, Option.bind_eq_some_iff] at ht
  obtain ⟨u, hu, v, hv, heq⟩ := ht
  cases heq
  obtain ⟨-, us, hus, hleft⟩ := ha u hu
  obtain ⟨-, vs, hvs, hright⟩ := hb v hv
  refine Piece.TellsPhrase.legible ⟨_, ?_, hleft.binary hright op⟩ rfl
  rw [Dialect.ansi_plain.exprPiece_binary]
  change Lexes _ _ (Standard.binary op _ _).piece _
  rw [Standard.binary_emit, piece_emit, Piece.append_assoc]
  exact hus.append (hvs.mark_append (.operator (.op op)))

theorem legible_member (a : Expr .none) (values : List (Expr .none)) (negated : Bool)
    (ha : a.IsLegible) (hvalues : ∀ v ∈ values, v.IsLegible) :
    (Expr.member a values negated).IsLegible := by
  intro t ht
  simp only [Expr.phrase?, Option.bind_eq_bind, Option.bind_eq_some_iff] at ht
  obtain ⟨u, hu, ts, hts, heq⟩ := ht
  cases heq
  obtain ⟨-, us, hus, hoperand⟩ := ha u hu
  obtain ⟨vs, hvs, hlist⟩ := exists_isList hvalues hts
  have hmark : textIf negated " NOT" ++ text " IN " =
      text (Mark.operator (.within negated)).text := by
    cases negated <;> rfl
  refine Piece.TellsOperand.legible ⟨_, ?_, hoperand.member hlist negated⟩ rfl
  rw [Dialect.ansi_plain.exprPiece_member, Piece.append_assoc, Piece.append_assoc,
    ← Piece.append_assoc (textIf negated " NOT"), hmark]
  have hvalues := hvs.parenthesized.after_settled
  exact (hus.append (hvalues.mark_append (.operator (.within negated)))).before_loose

/-! ### Choices -/

/-- What a choice is otherwise, and its end. -/
theorem exists_isClauses_otherwise {c : Option (Expr .none)} (h : ∀ e ∈ c, e.IsLegible)
    {t : Option Phrase} (ht : optionPhrase? c = some t) :
    ∃ ts, Lexes .loose .settled
        (Piece.led " ELSE " (c.map Dialect.ansi.exprPiece) ++ text " END") ts ∧
      IsClauses ts [] t := by
  cases c with
  | none =>
    cases ht
    refine ⟨_, ?_, isClauses_ending⟩
    rw [Option.map_none, Piece.led, empty_append]
    exact .mark .ending
  | some e =>
    obtain ⟨u, hu, rfl⟩ := Option.map_eq_some_iff.1 ht
    obtain ⟨⟨us, hus, hphrase⟩, -⟩ := h e rfl u hu
    refine ⟨_, ?_, hphrase.otherwise⟩
    rw [Option.map_some, Piece.led, Piece.append_assoc]
    exact (hus.append (.mark .ending)).mark_append .otherwise

/-- The branches of a choice before the clauses behind them. -/
theorem exists_isClauses {branches : List (Branch .none)}
    (h : ∀ b ∈ branches, b.test.IsLegible ∧ b.result.IsLegible) {bs : List (Phrase × Phrase)}
    (hbs : branchPhrases? branches = some bs) {p : Piece} {ts : List Token} {c : Option Phrase}
    (hp : Lexes .loose .settled p ts) (hts : IsClauses ts [] c) :
    ∃ us, Lexes .loose .settled
        (Piece.inOrder (branches.map Dialect.ansi.branchPiece) ++ p) us ∧
      IsClauses us bs c := by
  induction branches generalizing bs with
  | nil =>
    cases hbs
    refine ⟨ts, ?_, hts⟩
    rw [List.map_nil, Piece.inOrder, empty_append]
    exact hp
  | cons b branches ih =>
    obtain ⟨test, result⟩ := b
    simp only [branchPhrases?, Option.bind_eq_bind, Option.bind_eq_some_iff] at hbs
    obtain ⟨t, ht, u, hu, bs', hbs', heq⟩ := hbs
    cases heq
    obtain ⟨htest, hresult⟩ := h ⟨test, result⟩ List.mem_cons_self
    obtain ⟨⟨us, hus, hphrase⟩, -⟩ := htest t ht
    obtain ⟨⟨vs, hvs, hphrase'⟩, -⟩ := hresult u hu
    obtain ⟨ws, hws, hclauses⟩ := ih (fun b hb => h b (List.mem_cons_of_mem _ hb)) hbs'
    refine ⟨_, ?_, hclauses.branch hphrase hphrase'⟩
    rw [List.map_cons, Piece.inOrder, Dialect.branchPiece]
    simp only [Piece.append_assoc]
    have hresult := (hvs.append hws).mark_append .result
    exact (hus.append hresult).mark_append .branch

theorem legible_choice (a : Option (Expr .none)) (branches : List (Branch .none))
    (c : Option (Expr .none)) (type : Option SqlType) (ha : ∀ e ∈ a, e.IsLegible)
    (hbranches : ∀ b ∈ branches, b.test.IsLegible ∧ b.result.IsLegible)
    (hc : ∀ e ∈ c, e.IsLegible) : (Expr.choice a branches c type).IsLegible := by
  intro t ht
  simp only [Expr.phrase?, Option.bind_eq_bind, Option.bind_eq_some_iff] at ht
  obtain ⟨u, hu, bs, hbs, v, hv, heq⟩ := ht
  cases heq
  obtain ⟨vs, hvs, hotherwise⟩ := exists_isClauses_otherwise hc hv
  obtain ⟨us, hus, hclauses⟩ := exists_isClauses hbranches hbs hvs hotherwise
  have hcase := Lexes.word "CASE" (by decide)
  refine Piece.TellsOperand.legible ?_ rfl
  rw [Dialect.ansi_plain.exprPiece_choice]
  simp only [Piece.append_assoc]
  cases a with
  | none =>
    cases hu
    refine ⟨_, ?_, hclauses.choice⟩
    rw [Option.map_none, Piece.led, empty_append]
    exact (hcase.append hus.after_settled).after_settled.before_loose
  | some a =>
    obtain ⟨s, hs, rfl⟩ := Option.map_eq_some_iff.1 hu
    obtain ⟨⟨ts, hts, hphrase⟩, -⟩ := ha a rfl s hs
    refine ⟨_, ?_, hclauses.choice_of hphrase⟩
    rw [Option.map_some, Piece.led, Piece.append_assoc]
    have hblank := Lexes.word " " (by decide)
    have hsubject := hblank.append (hts.append hus)
    exact (hcase.append hsubject.after_settled).after_settled.before_loose

/-- Every construct that has a phrase is legible if its parts are. -/
theorem legible_steps :
    Tree.Steps Expr.IsLegible (fun _ : Query .none => True) (fun _ : Source .none => True) where
  literal := legible_literal
  parameter _ _ _ h := by cases h
  column := legible_column
  raw _ _ h := by cases h
  call := legible_call
  unary := legible_unary
  binary := legible_binary
  like _ _ _ _ _ _ _ h := by cases h
  member := legible_member
  choice := legible_choice
  existence _ _ _ _ h := by cases h
  scalar _ _ _ h := by cases h
  nullary node := node.elim
  dialectUnary node := node.elim
  dialectBinary node := node.elim
  variadic node := node.elim
  query _ _ _ _ _ _ _ _ _ := trivial
  table _ _ _ := trivial
  derived _ _ _ := trivial
  innerJoin _ _ _ _ := trivial
  leftJoin _ _ _ _ := trivial
  crossJoin _ _ := trivial
  crossApply _ _ := trivial
  outerApply _ _ := trivial

/-! ## One reading -/

/-- Two expressions that have a phrase both have a text, and if it is the same one, they are the
same up to types and kinds. -/
theorem phrase_eq_of_text_eq (e₁ e₂ : Expr .none) (t₁ t₂ : Phrase)
    (h₁ : e₁.phrase? = some t₁) (h₂ : e₂.phrase? = some t₂) (o : Output) :
    ∃ text₁ text₂ o₁ o₂, Dialect.ansi.compileExpr e₁ o = .ok text₁ o₁ ∧
      Dialect.ansi.compileExpr e₂ o = .ok text₂ o₂ ∧ (text₁ = text₂ → t₁ = t₂) := by
  obtain ⟨⟨ts, hts, hphrase₁⟩, -⟩ := legible_steps.ofExpr e₁ t₁ h₁
  obtain ⟨⟨us, hus, hphrase₂⟩, -⟩ := legible_steps.ofExpr e₂ t₂ h₂
  obtain ⟨o₁, hok₁⟩ := (Dialect.ansi_plain.compileExpr_ok_iff e₁ o _).2 ⟨hts.error, rfl⟩
  obtain ⟨o₂, hok₂⟩ := (Dialect.ansi_plain.compileExpr_ok_iff e₂ o _).2 ⟨hus.error, rfl⟩
  refine ⟨_, _, o₁, o₂, hok₁, hok₂, fun htext => ?_⟩
  have hlex := hts.reads.lex_eq
  rw [htext, hus.reads.lex_eq, Option.some.injEq] at hlex
  subst hlex
  exact hphrase₁.unique hphrase₂

/-- A choice in a branch of another one, with what they are otherwise. -/
def nestedChoice (inner outer : Option (Expr .none)) : Expr .none :=
  .choice none
    [⟨.column none "a" none,
      .choice none [⟨.column none "b" none, .column none "c" none⟩] inner none⟩]
    outer none

/-- The text tells which of two nested choices has something that it is otherwise. -/
theorem phrase_eq_of_text_eq_nested :
    ∃ text₁ text₂ o₁ o₂,
      Dialect.ansi.compileExpr (nestedChoice (some (.literal (.string "d") none)) none) {} =
        .ok text₁ o₁ ∧
      Dialect.ansi.compileExpr (nestedChoice none (some (.literal (.string "d") none))) {} =
        .ok text₂ o₂ ∧
      text₁ ≠ text₂ := by
  obtain ⟨text₁, text₂, o₁, o₂, hok₁, hok₂, heq⟩ :=
    phrase_eq_of_text_eq
      (nestedChoice (some (.literal (.string "d") none)) none)
      (nestedChoice none (some (.literal (.string "d") none)))
      (.choice none
        [(.column none "a",
          .choice none [(.column none "b", .column none "c")] (some (.string "d")))] none)
      (.choice none
        [(.column none "a", .choice none [(.column none "b", .column none "c")] none)]
        (some (.string "d")))
      rfl rfl {}
  refine ⟨text₁, text₂, o₁, o₂, hok₁, hok₂, fun htext => ?_⟩
  cases heq htext

end SqlScribe
