import SqlScribe.Proofs.Agreement
import SqlScribe.Proofs.RuleCongruence

/-!
# What types have to do with texts

Nodes carry types, and operators carry the kind of their value, but little of that reaches the text.
MySQL asks whether operands are strings and whether a sum is one, and what a cast to a type comes
to; standard SQL only writes the name of the type that a value is converted to.

So two trees that differ in types and kinds alone (`Expr.Retyped`) and agree on these questions at
each node have the same text, or fail with the same error.
-/

namespace SqlScribe

open Emit Piece

variable {X : Signature}

/-! ## Trees with other types -/

mutual

/-- The expressions are the same but for types and kinds, and the nodes in the same place are
related by `A`. -/
def Expr.Retyped (A : Expr X → Expr X → Prop) (e e' : Expr X) : Prop :=
  A e e' ∧
    match e with
    | .literal value _ => ∃ type', e' = .literal value type'
    | .parameter name _ => ∃ type', e' = .parameter name type'
    | .column table name _ => ∃ type', e' = .column table name type'
    | .raw text => e' = .raw text
    | .call name args niladic _ =>
      ∃ args' type', e' = .call name args' niladic type' ∧ exprsRetyped A args args'
    | .unary op a _ => ∃ a' type', e' = .unary op a' type' ∧ a.Retyped A a'
    | .binary op a b _ _ =>
      ∃ a' b' kind' type', e' = .binary op a' b' kind' type' ∧ a.Retyped A a' ∧ b.Retyped A b'
    | .like a b c =>
      ∃ a' b' c', e' = .like a' b' c' ∧ a.Retyped A a' ∧ b.Retyped A b' ∧ expr?Retyped A c c'
    | .member a values negated =>
      ∃ a' values', e' = .member a' values' negated ∧ a.Retyped A a' ∧
        exprsRetyped A values values'
    | .choice a branches c _ =>
      ∃ a' branches' c' type', e' = .choice a' branches' c' type' ∧ expr?Retyped A a a' ∧
        branchesRetyped A branches branches' ∧ expr?Retyped A c c'
    | .existence q negated => ∃ q', e' = .existence q' negated ∧ q.Retyped A q'
    | .scalar q => ∃ q', e' = .scalar q' ∧ q.Retyped A q'
    | .nullary node => e' = .nullary node
    | .dialectUnary node a => ∃ a', e' = .dialectUnary node a' ∧ a.Retyped A a'
    | .dialectBinary node a b =>
      ∃ a' b', e' = .dialectBinary node a' b' ∧ a.Retyped A a' ∧ b.Retyped A b'
    | .variadic node operands =>
      ∃ operands', e' = .variadic node operands' ∧ exprsRetyped A operands operands'
termination_by structural e

/-- Expressions are retyped one by one. -/
def exprsRetyped (A : Expr X → Expr X → Prop) : List (Expr X) → List (Expr X) → Prop
  | [], as' => as' = []
  | a :: as, as' => ∃ a' rest, as' = a' :: rest ∧ a.Retyped A a' ∧ exprsRetyped A as rest
termination_by structural xs => xs

/-- An optional expression is retyped, if there is one. -/
def expr?Retyped (A : Expr X → Expr X → Prop) : Option (Expr X) → Option (Expr X) → Prop
  | none, a' => a' = none
  | some a, b => ∃ a', b = some a' ∧ a.Retyped A a'
termination_by structural x => x

/-- Branches are retyped in their tests and in their results. -/
def branchesRetyped (A : Expr X → Expr X → Prop) : List (Branch X) → List (Branch X) → Prop
  | [], bs' => bs' = []
  | ⟨test, result⟩ :: bs, bs' =>
    ∃ b' rest, bs' = b' :: rest ∧ (test.Retyped A b'.test ∧ result.Retyped A b'.result) ∧
      branchesRetyped A bs rest
termination_by structural xs => xs

/-- Columns are retyped in their expressions and keep their labels. -/
def columnsRetyped (A : Expr X → Expr X → Prop) :
    List (OutputColumn X) → List (OutputColumn X) → Prop
  | [], cs' => cs' = []
  | ⟨a, label⟩ :: cs, cs' =>
    ∃ c' rest, cs' = c' :: rest ∧ (a.Retyped A c'.expr ∧ c'.label = label) ∧
      columnsRetyped A cs rest
termination_by structural xs => xs

/-- Keys to sort by are retyped in their expressions and keep their order. -/
def sortKeysRetyped (A : Expr X → Expr X → Prop) : List (SortKey X) → List (SortKey X) → Prop
  | [], ks' => ks' = []
  | ⟨a, ascending⟩ :: ks, ks' =>
    ∃ k' rest, ks' = k' :: rest ∧ (a.Retyped A k'.expr ∧ k'.ascending = ascending) ∧
      sortKeysRetyped A ks rest
termination_by structural xs => xs

/-- Row sources are retyped one by one. -/
def sourcesRetyped (A : Expr X → Expr X → Prop) : List (Source X) → List (Source X) → Prop
  | [], ss' => ss' = []
  | s :: ss, ss' => ∃ s' rest, ss' = s' :: rest ∧ s.Retyped A s' ∧ sourcesRetyped A ss rest
termination_by structural xs => xs

/-- `Expr.Retyped` for queries. -/
def Query.Retyped (A : Expr X → Expr X → Prop) : Query X → Query X → Prop
  | ⟨distinct, columns, sources, predicate, groupKeys, groupPredicate, sortKeys, limit, offset⟩,
    q' =>
    q'.distinct = distinct ∧ columnsRetyped A columns q'.columns ∧
      sourcesRetyped A sources q'.sources ∧ expr?Retyped A predicate q'.predicate ∧
      exprsRetyped A groupKeys q'.groupKeys ∧ expr?Retyped A groupPredicate q'.groupPredicate ∧
      sortKeysRetyped A sortKeys q'.sortKeys ∧ expr?Retyped A limit q'.limit ∧
      expr?Retyped A offset q'.offset
termination_by structural q => q

/-- `Expr.Retyped` for row sources. -/
def Source.Retyped (A : Expr X → Expr X → Prop) : Source X → Source X → Prop
  | .table schema name label, s' => s' = .table schema name label
  | .derived q label, s' => ∃ q', s' = .derived q' label ∧ q.Retyped A q'
  | .innerJoin s condition, s' =>
    ∃ t condition', s' = .innerJoin t condition' ∧ s.Retyped A t ∧ condition.Retyped A condition'
  | .leftJoin s condition, s' =>
    ∃ t condition', s' = .leftJoin t condition' ∧ s.Retyped A t ∧ condition.Retyped A condition'
  | .crossJoin s, s' => ∃ t, s' = .crossJoin t ∧ s.Retyped A t
  | .crossApply s, s' => ∃ t, s' = .crossApply t ∧ s.Retyped A t
  | .outerApply s, s' => ∃ t, s' = .outerApply t ∧ s.Retyped A t
termination_by structural s => s

end

namespace Retyped

/-- A relation between lists that follows their members, one by one. -/
theorem forall₂_of_steps {α : Type} {T : α → α → Prop} {F : List α → List α → Prop}
    (hnil : ∀ ys, F [] ys → ys = [])
    (hcons : ∀ x xs ys, F (x :: xs) ys → ∃ y rest, ys = y :: rest ∧ T x y ∧ F xs rest)
    {xs ys : List α} (h : F xs ys) : List.Forall₂ T xs ys := by
  induction xs generalizing ys with
  | nil =>
    obtain rfl := hnil ys h
    exact .nil
  | cons x xs ih =>
    obtain ⟨y, rest, rfl, hxy, hrest⟩ := hcons x xs ys h
    exact .cons hxy (ih hrest)

variable {A : Expr X → Expr X → Prop}

theorem exprs {as as' : List (Expr X)} (h : exprsRetyped A as as') :
    List.Forall₂ (Expr.Retyped A) as as' :=
  forall₂_of_steps (fun _ h => h) (fun _ _ _ h => h) h

theorem expr? {a a' : Option (Expr X)} (h : expr?Retyped A a a') :
    Option.Rel (Expr.Retyped A) a a' := by
  cases a with
  | none =>
    obtain rfl : a' = none := h
    exact .none
  | some a =>
    obtain ⟨a', rfl, ha⟩ := h
    exact .some ha

theorem branches {bs bs' : List (Branch X)} (h : branchesRetyped A bs bs') :
    List.Forall₂ (fun b b' => b.test.Retyped A b'.test ∧ b.result.Retyped A b'.result) bs bs' :=
  forall₂_of_steps (fun _ h => h) (fun | ⟨_, _⟩, _, _, h => h) h

theorem columns {cs cs' : List (OutputColumn X)} (h : columnsRetyped A cs cs') :
    List.Forall₂ (fun c c' => c.expr.Retyped A c'.expr ∧ c'.label = c.label) cs cs' :=
  forall₂_of_steps (fun _ h => h) (fun | ⟨_, _⟩, _, _, h => h) h

theorem sortKeys {ks ks' : List (SortKey X)} (h : sortKeysRetyped A ks ks') :
    List.Forall₂ (fun k k' => k.expr.Retyped A k'.expr ∧ k'.ascending = k.ascending) ks ks' :=
  forall₂_of_steps (fun _ h => h) (fun | ⟨_, _⟩, _, _, h => h) h

theorem sources {ss ss' : List (Source X)} (h : sourcesRetyped A ss ss') :
    List.Forall₂ (Source.Retyped A) ss ss' :=
  forall₂_of_steps (fun _ h => h) (fun _ _ _ h => h) h

theorem agree {e e' : Expr X} (h : e.Retyped A e') : A e e' := by
  cases e <;> exact h.1

/-- Trees with other types have the same nodes. -/
theorem nodewise : Tree.Nodewise (Expr.Retyped A) (Query.Retyped A) (Source.Retyped A) where
  isOperator {e e'} h := by
    cases e <;> rw [Expr.Retyped] at h <;> grind [Expr.isOperator]
  literal h := h.2
  parameter h := h.2
  column h := h.2
  raw h := h.2
  binary h := h.2
  like h := by
    obtain ⟨-, a', b', c', rfl, ha, hb, hc⟩ := h
    exact ⟨a', b', c', rfl, ha, hb, expr? hc⟩
  member h := by
    obtain ⟨-, a', values', rfl, ha, hvalues⟩ := h
    exact ⟨a', values', rfl, ha, exprs hvalues⟩
  choice h := by
    obtain ⟨-, a', branches', c', type', rfl, ha, hbranches, hc⟩ := h
    exact ⟨a', branches', c', type', rfl, expr? ha, branches hbranches, expr? hc⟩
  existence h := h.2
  scalar h := h.2
  query {q q'} h := by
    cases q
    obtain ⟨hdistinct, hcolumns, hsources, hpredicate, hgroupKeys, hgroupPredicate, hsortKeys, -⟩ :=
      h
    exact
      { distinct := hdistinct
        columns := columns hcolumns
        sources := sources hsources
        predicate := expr? hpredicate
        groupKeys := exprs hgroupKeys
        groupPredicate := expr? hgroupPredicate
        sortKeys := sortKeys hsortKeys }
  table h := h
  derived h := h
  innerJoin h := h
  leftJoin h := h
  crossJoin h := h
  crossApply h := h
  outerApply h := h
  call h := by
    obtain ⟨-, args', type', rfl, hargs⟩ := h
    exact ⟨args', type', rfl, exprs hargs⟩
  nullary h := h.2
  dialectUnary h := h.2
  dialectBinary h := h.2
  variadic h := by
    obtain ⟨-, operands', rfl, hoperands⟩ := h
    exact ⟨operands', rfl, exprs hoperands⟩
  unary h := h.2
  limit {q q'} h := by
    cases q
    obtain ⟨-, -, -, -, -, -, -, hlimit, -⟩ := h
    exact expr? hlimit
  offset {q q'} h := by
    cases q
    obtain ⟨-, -, -, -, -, -, -, -, hoffset⟩ := h
    exact expr? hoffset

end Retyped

/-! ## Standard SQL -/

/-- The nodes agree on the type that they convert to, by its name. -/
def Standard.TypesAgree (e e' : Expr X) : Prop :=
  ∀ a type a' type', e = .unary .convert a type → e' = .unary .convert a' type' →
    type'.map SqlType.name = type.map SqlType.name

/-- Standard SQL asks for the types that are converted to, and for no others. -/
theorem Standard.retyped_simulation :
    Simulation Dialect.ansi Dialect.ansi SameText (Expr.Retyped Standard.TypesAgree)
      (Query.Retyped Standard.TypesAgree) (Source.Retyped Standard.TypesAgree) := by
  refine Dialect.ansi_simulation sameText_congruence Retyped.nodewise ?_
  intro a type a' type' he p p' hp
  have hnames := Retyped.agree he a type a' type' rfl rfl
  cases type with
  | none =>
    cases type' with
    | none =>
      rw [unary_convert_none, unary_convert_none]
      exact ⟨rfl, rfl⟩
    | some type' => exact nomatch hnames
  | some type =>
    cases type' with
    | none => exact nomatch hnames
    | some type' =>
      have hname : type'.name = type.name := Option.some.inj hnames
      rw [unary_convert_emit, unary_convert_emit, piece_emit, piece_emit, hname]
      exact sameText_congruence.between _ _ hp

/-! ## MySQL -/

namespace MySql

/-- What a cast to a type comes to: the keyword that is written and whether the cast goes through
the widest decimal type, or the error. -/
def castOutcome (rules : CastRules) (support : CastSupport) (type : SqlType) :
    Except Error (String × Bool) :=
  (rules.planFor support type.name).map fun plan => (plan.keyword, plan.isThroughDecimal)

/-- The nodes agree on what MySQL asks about types. -/
structure TypesAgree (rules : CastRules) (support : CastSupport) (e e' : Expr signature) :
    Prop where
  isString : e'.isString = e.isString
  addition : ∀ a b kind type a' b' kind' type', e = .binary .add a b kind type →
    e' = .binary .add a' b' kind' type' → (kind' = .string ↔ kind = .string)
  conversion : ∀ a type a' type', e = .unary .convert a type → e' = .unary .convert a' type' →
    type'.map (castOutcome rules support) = type.map (castOutcome rules support)

variable {rules : CastRules} {support : CastSupport}

/-- Nodes that agree on types agree on whether a sum is one of strings. -/
theorem isConcatenation_retyped {op : BinaryOp} {a b a' b' : Expr signature}
    {kind kind' : ScalarKind} {type type' : Option SqlType}
    (h : TypesAgree rules support (.binary op a b kind type) (.binary op a' b' kind' type'))
    (ha : TypesAgree rules support a a') (hb : TypesAgree rules support b b') :
    isConcatenation op a' b' kind' = isConcatenation op a b kind := by
  unfold isConcatenation
  rw [ha.isString, hb.isString]
  by_cases hop : op = .add
  · subst hop
    have hkind := h.addition a b kind type a' b' kind' type' rfl rfl
    rw [decide_eq_decide.2 hkind]
  · simp [hop]

/-- The events of a cast are no text. -/
theorem sameText_events (plan plan' : CastPlan) (name name' : String) :
    SameText (Piece.inOrder ((plan.events name).map event))
      (Piece.inOrder ((plan'.events name').map event)) := by
  cases plan <;> cases plan' <;> exact ⟨rfl, rfl⟩

/-- Conversions that come to the same are written alike. -/
theorem convertPiece_retyped {type type' : SqlType}
    (h : castOutcome rules support type' = castOutcome rules support type) {p p' : Piece}
    (hp : SameText p p') :
    SameText (convertPiece rules support p type) (convertPiece rules support p' type') := by
  unfold castOutcome at h
  unfold convertPiece
  cases hplan : rules.planFor support type.name with
  | error e =>
    cases hplan' : rules.planFor support type'.name with
    | error e' =>
      rw [hplan, hplan'] at h
      obtain rfl : e' = e := Except.error.inj h
      exact ⟨rfl, rfl⟩
    | ok plan' =>
      rw [hplan, hplan'] at h
      cases h
  | ok plan =>
    cases hplan' : rules.planFor support type'.name with
    | error e' =>
      rw [hplan, hplan'] at h
      cases h
    | ok plan' =>
      rw [hplan, hplan'] at h
      obtain ⟨hkeyword, hdecimal⟩ := Prod.mk.inj (Except.ok.inj h)
      exact sameText_congruence.append (sameText_events plan plan' _ _)
        (castPiece_congr sameText_congruence hkeyword hdecimal hp)

/-- MySQL writes trees alike that agree on what it asks about types. -/
theorem retyped_simulation :
    Simulation (dialect support rules) (dialect support rules) SameText
      (Expr.Retyped (TypesAgree rules support)) (Query.Retyped (TypesAgree rules support))
      (Source.Retyped (TypesAgree rules support)) := by
  refine simulation_nodewise sameText_congruence (fun _ => ⟨rfl, rfl⟩) ⟨rfl, rfl⟩
    Retyped.nodewise ?_ ?_
  · intro op a b kind type a' b' kind' type' he ha hb
    exact isConcatenation_retyped (Retyped.agree he) (Retyped.agree ha) (Retyped.agree hb)
  · intro a type a' type' he p p' hp
    have houtcomes := (Retyped.agree he).conversion a type a' type' rfl rfl
    cases type with
    | none =>
      cases type' with
      | none => exact ⟨rfl, rfl⟩
      | some type' => exact nomatch houtcomes
    | some type =>
      cases type' with
      | none => exact nomatch houtcomes
      | some type' =>
        rw [unary_convert_emit, unary_convert_emit, piece_emit, piece_emit]
        exact convertPiece_retyped (Option.some.inj houtcomes) hp

end MySql

/-! ## Texts -/

/-- In MySQL, by any cast rules on any server, types and kinds reach a text only through the
questions of `MySql.TypesAgree`, and in standard SQL only through the names of the types that values
are converted to. -/
theorem types_reach_text_through_strings_and_casts :
    (∀ support rules,
      (MySql.dialect support rules).Agree EmitM.SameOutcome (MySql.dialect support rules)
        (Expr.Retyped (MySql.TypesAgree rules support))
        (Query.Retyped (MySql.TypesAgree rules support))
        (Source.Retyped (MySql.TypesAgree rules support))) ∧
    Dialect.ansi.Agree EmitM.SameOutcome Dialect.ansi (Expr.Retyped Standard.TypesAgree)
      (Query.Retyped Standard.TypesAgree) (Source.Retyped Standard.TypesAgree) :=
  ⟨fun _ _ => MySql.retyped_simulation.agree sameText_lifts,
   Standard.retyped_simulation.agree sameText_lifts⟩

/-- On a server that casts to neither, a double and a float have one text, whatever else the types
around them are. -/
theorem double_and_float_share_text :
    let sum := fun (x y : SqlType) type =>
      (.binary .add (.column none "a" (some x)) (.column none "b" (some y)) .string type :
        Expr MySql.signature)
    let cast := fun (type : SqlType) =>
      (.unary .convert (.column none "x" none) (some type) : Expr MySql.signature)
    let e : Expr MySql.signature :=
      .binary .less (sum ⟨"text", .string⟩ ⟨"text", .string⟩ none) (cast ⟨"double", .double⟩)
        .boolean none
    let e' : Expr MySql.signature :=
      .binary .less (sum ⟨"char(3)", .string⟩ ⟨"json", .string⟩ (some ⟨"text", .string⟩))
        (cast ⟨"FLOAT(4)", .float⟩) .other (some ⟨"bit", .other⟩)
    e.Retyped (MySql.TypesAgree .mySql .none) e' ∧
      ((MySql.dialect .none .mySql).compileExpr e').outcome {} =
        (.ok "(CONCAT(`a`, `b`)) < (CAST(`x` AS decimal(65,30)) + 0e0)", "") := by
  intro sum cast e e'
  have hcolumn : ∀ name (x x' : SqlType), x'.isString = x.isString →
      Expr.Retyped (MySql.TypesAgree .mySql .none) (.column none name (some x))
        (.column none name (some x')) :=
    fun name x x' hx => ⟨⟨hx, by simp, by simp⟩, _, rfl⟩
  have hsum : Expr.Retyped (MySql.TypesAgree .mySql .none)
      (sum ⟨"text", .string⟩ ⟨"text", .string⟩ none)
      (sum ⟨"char(3)", .string⟩ ⟨"json", .string⟩ (some ⟨"text", .string⟩)) := by
    refine ⟨⟨rfl, ?_, by simp [sum]⟩, _, _, _, _, rfl, hcolumn "a" _ _ rfl, hcolumn "b" _ _ rfl⟩
    rintro _ _ _ _ _ _ _ _ ⟨⟩ ⟨⟩
    rfl
  have hcast : Expr.Retyped (MySql.TypesAgree .mySql .none) (cast ⟨"double", .double⟩)
      (cast ⟨"FLOAT(4)", .float⟩) := by
    refine ⟨⟨rfl, by simp [cast], ?_⟩, _, _, rfl, ⟨rfl, by simp, by simp⟩, _, rfl⟩
    rintro _ _ _ _ ⟨⟩ ⟨⟩
    rfl
  have he : e.Retyped (MySql.TypesAgree .mySql .none) e' :=
    ⟨⟨rfl, by simp [e], by simp [e]⟩, _, _, _, _, rfl, hsum, hcast⟩
  refine ⟨he, ?_⟩
  rw [(types_reach_text_through_strings_and_casts.1 .none .mySql).compileExpr he]
  rfl

end SqlScribe
