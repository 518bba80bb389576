import SqlScribe.Dialect.Write

/-!
# Induction over trees, and the walk node by node

Expressions, queries and row sources contain one another, so a property of one kind of tree is
proved together with a property of the other two. `Tree.Steps` holds one step for each construct,
with the parts that stand in lists and options under a quantifier, and `Steps.ofExpr`,
`Steps.ofQuery` and `Steps.ofSource` are the three conclusions.

The second half says, construct by construct, what the standard text of a node is in terms of the
texts of its parts in the dialect (`standardExpr_like` and its like). Proofs about dialects use
these equations and do not open the walk itself.
-/

namespace SqlScribe

variable {X : Signature}

/-! ## Induction -/

namespace Tree

/-- What an induction over trees has to show of each construct. -/
structure Steps (P : Expr X → Prop) (Q : Query X → Prop) (S : Source X → Prop) : Prop where
  literal : ∀ value type, P (.literal value type)
  parameter : ∀ name type, P (.parameter name type)
  column : ∀ table name type, P (.column table name type)
  raw : ∀ text, P (.raw text)
  call : ∀ name args niladic type, (∀ a ∈ args, P a) → P (.call name args niladic type)
  unary : ∀ op a type, P a → P (.unary op a type)
  binary : ∀ op a b kind type, P a → P b → P (.binary op a b kind type)
  like : ∀ a b c, P a → P b → (∀ e ∈ c, P e) → P (.like a b c)
  member : ∀ a values negated, P a → (∀ v ∈ values, P v) → P (.member a values negated)
  choice : ∀ a branches c type, (∀ e ∈ a, P e) →
    (∀ branch ∈ branches, P branch.test ∧ P branch.result) → (∀ e ∈ c, P e) →
    P (.choice a branches c type)
  existence : ∀ q negated, Q q → P (.existence q negated)
  scalar : ∀ q, Q q → P (.scalar q)
  nullary : ∀ node, P (.nullary node)
  dialectUnary : ∀ node a, P a → P (.dialectUnary node a)
  dialectBinary : ∀ node a b, P a → P b → P (.dialectBinary node a b)
  variadic : ∀ node operands, (∀ a ∈ operands, P a) → P (.variadic node operands)
  query : ∀ q : Query X, (∀ column ∈ q.columns, P column.expr) → (∀ s ∈ q.sources, S s) →
    (∀ e ∈ q.predicate, P e) → (∀ e ∈ q.groupKeys, P e) → (∀ e ∈ q.groupPredicate, P e) →
    (∀ key ∈ q.sortKeys, P key.expr) → (∀ e ∈ q.limit, P e) → (∀ e ∈ q.offset, P e) → Q q
  table : ∀ schema name label, S (.table schema name label)
  derived : ∀ q label, Q q → S (.derived q label)
  innerJoin : ∀ s condition, S s → P condition → S (.innerJoin s condition)
  leftJoin : ∀ s condition, S s → P condition → S (.leftJoin s condition)
  crossJoin : ∀ s, S s → S (.crossJoin s)
  crossApply : ∀ s, S s → S (.crossApply s)
  outerApply : ∀ s, S s → S (.outerApply s)

namespace Steps

variable {P : Expr X → Prop} {Q : Query X → Prop} {S : Source X → Prop}

mutual

/-- The property of every expression. -/
theorem ofExpr (h : Steps P Q S) : ∀ e, P e
  | .literal value type => h.literal value type
  | .parameter name type => h.parameter name type
  | .column table name type => h.column table name type
  | .raw text => h.raw text
  | .call name args niladic type => h.call name args niladic type (h.exprs args)
  | .unary op a type => h.unary op a type (h.ofExpr a)
  | .binary op a b kind type => h.binary op a b kind type (h.ofExpr a) (h.ofExpr b)
  | .like a b c => h.like a b c (h.ofExpr a) (h.ofExpr b) (h.expr? c)
  | .member a values negated => h.member a values negated (h.ofExpr a) (h.exprs values)
  | .choice a branches c type =>
    h.choice a branches c type (h.expr? a) (h.branches branches) (h.expr? c)
  | .existence q negated => h.existence q negated (h.ofQuery q)
  | .scalar q => h.scalar q (h.ofQuery q)
  | .nullary node => h.nullary node
  | .dialectUnary node a => h.dialectUnary node a (h.ofExpr a)
  | .dialectBinary node a b => h.dialectBinary node a b (h.ofExpr a) (h.ofExpr b)
  | .variadic node operands => h.variadic node operands (h.exprs operands)

theorem exprs (h : Steps P Q S) : ∀ as : List (Expr X), ∀ a ∈ as, P a
  | [] => List.forall_mem_nil _
  | a :: as => List.forall_mem_cons.2 ⟨h.ofExpr a, h.exprs as⟩

theorem expr? (h : Steps P Q S) : ∀ a : Option (Expr X), ∀ e ∈ a, P e
  | none => nofun
  | some a => fun _ he => Option.mem_some.1 he ▸ h.ofExpr a

theorem branches (h : Steps P Q S) : ∀ bs : List (Branch X), ∀ b ∈ bs, P b.test ∧ P b.result
  | [] => List.forall_mem_nil _
  | ⟨test, result⟩ :: bs =>
    List.forall_mem_cons.2 ⟨⟨h.ofExpr test, h.ofExpr result⟩, h.branches bs⟩

theorem columns (h : Steps P Q S) : ∀ cs : List (OutputColumn X), ∀ c ∈ cs, P c.expr
  | [] => List.forall_mem_nil _
  | ⟨a, _⟩ :: cs => List.forall_mem_cons.2 ⟨h.ofExpr a, h.columns cs⟩

theorem sortKeys (h : Steps P Q S) : ∀ ks : List (SortKey X), ∀ k ∈ ks, P k.expr
  | [] => List.forall_mem_nil _
  | ⟨a, _⟩ :: ks => List.forall_mem_cons.2 ⟨h.ofExpr a, h.sortKeys ks⟩

theorem sources (h : Steps P Q S) : ∀ ss : List (Source X), ∀ s ∈ ss, S s
  | [] => List.forall_mem_nil _
  | s :: ss => List.forall_mem_cons.2 ⟨h.ofSource s, h.sources ss⟩

/-- The property of every query. -/
theorem ofQuery (h : Steps P Q S) : ∀ q, Q q
  | ⟨distinct, columns, sources, predicate, groupKeys, groupPredicate, sortKeys, limit, offset⟩ =>
    h.query ⟨distinct, columns, sources, predicate, groupKeys, groupPredicate, sortKeys, limit,
      offset⟩ (h.columns columns) (h.sources sources) (h.expr? predicate) (h.exprs groupKeys)
      (h.expr? groupPredicate) (h.sortKeys sortKeys) (h.expr? limit) (h.expr? offset)

/-- The property of every row source. -/
theorem ofSource (h : Steps P Q S) : ∀ s, S s
  | .table schema name label => h.table schema name label
  | .derived q label => h.derived q label (h.ofQuery q)
  | .innerJoin s condition => h.innerJoin s condition (h.ofSource s) (h.ofExpr condition)
  | .leftJoin s condition => h.leftJoin s condition (h.ofSource s) (h.ofExpr condition)
  | .crossJoin s => h.crossJoin s (h.ofSource s)
  | .crossApply s => h.crossApply s (h.ofSource s)
  | .outerApply s => h.outerApply s (h.ofSource s)

end

end Steps

end Tree

/-! ## The walk, node by node -/

/-- The query has a limit or an offset. -/
def Query.isLimited (q : Query X) : Bool := q.limit.isSome || q.offset.isSome

namespace Dialect

variable (D : Dialect X)

theorem branchParts_eq_map (branches : List (Branch X)) :
    D.branchParts branches =
      branches.map fun b => Standard.branch (D.writeExpr b.test) (D.writeExpr b.result) := by
  induction branches with
  | nil => rfl
  | cons b branches ih =>
    rw [List.map_cons, ← ih]
    cases b
    rfl

theorem columnParts_eq_map (columns : List (OutputColumn X)) :
    D.columnParts columns =
      columns.map fun c => Standard.outputColumn D.quote (D.writeExpr c.expr) c.label := by
  induction columns with
  | nil => rfl
  | cons c columns ih =>
    rw [List.map_cons, ← ih]
    cases c
    rfl

theorem sortKeyParts_eq_map (keys : List (SortKey X)) :
    D.sortKeyParts keys = keys.map fun k => Standard.sortKey (D.writeExpr k.expr) k.ascending := by
  induction keys with
  | nil => rfl
  | cons k keys ih =>
    rw [List.map_cons, ← ih]
    cases k
    rfl

@[simp]
theorem standardExpr_literal (value : Literal) (type : Option SqlType) :
    D.standardExpr (.literal value type) = Emit.write (value.text D.escape) := rfl

@[simp]
theorem standardExpr_parameter (name : String) (type : Option SqlType) :
    D.standardExpr (.parameter name type) = Emit.write name := rfl

@[simp]
theorem standardExpr_column (table : Option String) (name : String) (type : Option SqlType) :
    D.standardExpr (.column table name type) =
      Emit.write (Standard.qualified D.quote table name) := rfl

@[simp]
theorem standardExpr_raw (text : String) :
    D.standardExpr (.raw text) = Emit.write text := rfl

@[simp]
theorem standardExpr_call (name : String) (args : List (Expr X)) (niladic : Bool)
    (type : Option SqlType) :
    D.standardExpr (.call name args niladic type) = D.call name (args.map D.writeExpr) niladic := by
  rw [← exprParts_eq_map]
  rfl

@[simp]
theorem standardExpr_unary (op : UnaryOp) (a : Expr X) (type : Option SqlType) :
    D.standardExpr (.unary op a type) = D.unary op (D.operand a) type := rfl

@[simp]
theorem standardExpr_binary (op : BinaryOp) (a b : Expr X) (kind : ScalarKind)
    (type : Option SqlType) :
    D.standardExpr (.binary op a b kind type) =
      D.binary op (D.operand a) (D.operand b) kind := rfl

@[simp]
theorem standardExpr_like (a b : Expr X) (c : Option (Expr X)) :
    D.standardExpr (.like a b c) =
      Standard.like (D.writeExpr a) (D.writeExpr b) (c.map D.writeExpr) := by
  rw [← exprPart?_eq_map]
  rfl

@[simp]
theorem standardExpr_member (a : Expr X) (values : List (Expr X)) (negated : Bool) :
    D.standardExpr (.member a values negated) =
      Standard.member (D.operand a) (values.map D.writeExpr) negated := by
  rw [← exprParts_eq_map]
  rfl

@[simp]
theorem standardExpr_choice (a : Option (Expr X)) (branches : List (Branch X))
    (c : Option (Expr X)) (type : Option SqlType) :
    D.standardExpr (.choice a branches c type) =
      Standard.choice (a.map D.writeExpr)
        (branches.map fun b => Standard.branch (D.writeExpr b.test) (D.writeExpr b.result))
        (c.map D.writeExpr) := by
  rw [← exprPart?_eq_map, ← exprPart?_eq_map, ← branchParts_eq_map]
  rfl

@[simp]
theorem standardExpr_existence (q : Query X) (negated : Bool) :
    D.standardExpr (.existence q negated) = Standard.existence (D.writeQuery q) negated := rfl

@[simp]
theorem standardExpr_scalar (q : Query X) :
    D.standardExpr (.scalar q) = Emit.parenthesized (D.writeQuery q) := rfl

@[simp]
theorem standardExpr_nullary (node : X.Nullary) :
    D.standardExpr (.nullary node) = D.nullary node := rfl

@[simp]
theorem standardExpr_dialectUnary (node : X.Unary) (a : Expr X) :
    D.standardExpr (.dialectUnary node a) = D.dialectUnary node (D.writeExpr a) := rfl

@[simp]
theorem standardExpr_dialectBinary (node : X.Binary) (a b : Expr X) :
    D.standardExpr (.dialectBinary node a b) =
      D.dialectBinary node (D.writeExpr a) (D.writeExpr b) := rfl

@[simp]
theorem standardExpr_variadic (node : X.Variadic) (operands : List (Expr X)) :
    D.standardExpr (.variadic node operands) = D.variadic node (operands.map D.writeExpr) := by
  rw [← exprParts_eq_map]
  rfl

/-- The standard text of a query, clause by clause. -/
theorem standardQuery_eq (q : Query X) :
    D.standardQuery q =
      Standard.query q.distinct
        { columns := q.columns.map fun c =>
            Standard.outputColumn D.quote (D.writeExpr c.expr) c.label
          sources := q.sources.map D.writeSource
          predicate := q.predicate.map D.writeExpr
          groupKeys := q.groupKeys.map D.writeExpr
          groupPredicate := q.groupPredicate.map D.writeExpr
          sortKeys := q.sortKeys.map fun k => Standard.sortKey (D.writeExpr k.expr) k.ascending
          rowLimit := if q.isLimited then some (D.writeRowLimit q) else none } := by
  obtain ⟨distinct, columns, sources, predicate, groupKeys, groupPredicate, sortKeys, limit,
    offset⟩ := q
  simp only [standardQuery, writeRowLimit, columnParts_eq_map, sourceParts_eq_map,
    sortKeyParts_eq_map, exprParts_eq_map, exprPart?_eq_map]
  rfl

@[simp]
theorem standardSource_table (schema : Option String) (name : String) (label : Option String) :
    D.standardSource (.table schema name label) = Standard.table D.quote schema name label := rfl

@[simp]
theorem standardSource_derived (q : Query X) (label : String) :
    D.standardSource (.derived q label) = Standard.derived D.quote (D.writeQuery q) label := rfl

@[simp]
theorem standardSource_innerJoin (s : Source X) (condition : Expr X) :
    D.standardSource (.innerJoin s condition) =
      Standard.join "INNER JOIN " (D.writeSource s) (D.writeExpr condition) := rfl

@[simp]
theorem standardSource_leftJoin (s : Source X) (condition : Expr X) :
    D.standardSource (.leftJoin s condition) =
      Standard.join "LEFT JOIN " (D.writeSource s) (D.writeExpr condition) := rfl

@[simp]
theorem standardSource_crossJoin (s : Source X) :
    D.standardSource (.crossJoin s) = Standard.crossJoin (D.writeSource s) := rfl

@[simp]
theorem standardSource_crossApply (s : Source X) :
    D.standardSource (.crossApply s) = D.crossApply (D.writeSource s) := rfl

@[simp]
theorem standardSource_outerApply (s : Source X) :
    D.standardSource (.outerApply s) = D.outerApply (D.writeSource s) := rfl

end Dialect

end SqlScribe
