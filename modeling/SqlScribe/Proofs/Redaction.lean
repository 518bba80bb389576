import SqlScribe.Expr.Basic

/-!
# Redaction

A redacted tree has lost the contents of its strings and all its names of columns, tables, schemas
and labels, and nothing else. Two trees that differ only in these have the same redaction.
-/

namespace SqlScribe

variable {X : Signature}

/-- The literal with nothing in it, if it is a string. -/
def Literal.redact : Literal → Literal
  | .string _ => .string ""
  | value => value

/-- An optional name with nothing in it. -/
def redactName? (name : Option String) : Option String :=
  name.map fun _ => ""

mutual

/-- The expression without the contents of its strings and names. -/
def Expr.redact : Expr X → Expr X
  | .literal value type => .literal value.redact type
  | .parameter name type => .parameter name type
  | .column table _ type => .column (redactName? table) "" type
  | .raw text => .raw text
  | .call name args niladic type => .call name (redactExprs args) niladic type
  | .unary op a type => .unary op a.redact type
  | .binary op a b kind type => .binary op a.redact b.redact kind type
  | .like a b c => .like a.redact b.redact (redactExpr? c)
  | .member a values negated => .member a.redact (redactExprs values) negated
  | .choice a branches c type =>
    .choice (redactExpr? a) (redactBranches branches) (redactExpr? c) type
  | .existence q negated => .existence q.redact negated
  | .scalar q => .scalar q.redact
  | .nullary node => .nullary node
  | .dialectUnary node a => .dialectUnary node a.redact
  | .dialectBinary node a b => .dialectBinary node a.redact b.redact
  | .variadic node operands => .variadic node (redactExprs operands)

/-- Several expressions, redacted. -/
def redactExprs : List (Expr X) → List (Expr X)
  | [] => []
  | a :: as => a.redact :: redactExprs as

/-- An optional expression, redacted. -/
def redactExpr? : Option (Expr X) → Option (Expr X)
  | none => none
  | some a => some a.redact

/-- The branches of a choice, redacted. -/
def redactBranches : List (Branch X) → List (Branch X)
  | [] => []
  | ⟨test, result⟩ :: branches => ⟨test.redact, result.redact⟩ :: redactBranches branches

/-- The columns of a result, redacted with their labels. -/
def redactColumns : List (OutputColumn X) → List (OutputColumn X)
  | [] => []
  | ⟨a, label⟩ :: columns => ⟨a.redact, redactName? label⟩ :: redactColumns columns

/-- The keys to sort by, redacted. -/
def redactSortKeys : List (SortKey X) → List (SortKey X)
  | [] => []
  | ⟨a, ascending⟩ :: keys => ⟨a.redact, ascending⟩ :: redactSortKeys keys

/-- Several row sources, redacted. -/
def redactSources : List (Source X) → List (Source X)
  | [] => []
  | s :: sources => s.redact :: redactSources sources

/-- The query without the contents of its strings and names. -/
def Query.redact : Query X → Query X
  | ⟨distinct, columns, sources, predicate, groupKeys, groupPredicate, sortKeys, limit, offset⟩ =>
    { distinct
      columns := redactColumns columns
      sources := redactSources sources
      predicate := redactExpr? predicate
      groupKeys := redactExprs groupKeys
      groupPredicate := redactExpr? groupPredicate
      sortKeys := redactSortKeys sortKeys
      limit := redactExpr? limit
      offset := redactExpr? offset }

/-- The row source without the contents of its strings and names. -/
def Source.redact : Source X → Source X
  | .table schema _ label => .table (redactName? schema) "" (redactName? label)
  | .derived q _ => .derived q.redact ""
  | .innerJoin s condition => .innerJoin s.redact condition.redact
  | .leftJoin s condition => .leftJoin s.redact condition.redact
  | .crossJoin s => .crossJoin s.redact
  | .crossApply s => .crossApply s.redact
  | .outerApply s => .outerApply s.redact

end

/-- A branch of a choice, redacted. -/
def Branch.redact (b : Branch X) : Branch X := ⟨b.test.redact, b.result.redact⟩

/-- A column of a result, redacted with its label. -/
def OutputColumn.redact (c : OutputColumn X) : OutputColumn X :=
  ⟨c.expr.redact, redactName? c.label⟩

/-- A key to sort by, redacted. -/
def SortKey.redact (k : SortKey X) : SortKey X := ⟨k.expr.redact, k.ascending⟩

/-! ## Lists of parts are redacted part by part -/

theorem redactExprs_eq_map (as : List (Expr X)) : redactExprs as = as.map Expr.redact := by
  induction as with
  | nil => rfl
  | cons a as ih => rw [redactExprs, ih, List.map_cons]

theorem redactExpr?_eq_map (a : Option (Expr X)) : redactExpr? a = a.map Expr.redact := by
  cases a <;> rfl

theorem redactBranches_eq_map (branches : List (Branch X)) :
    redactBranches branches = branches.map Branch.redact := by
  induction branches with
  | nil => rfl
  | cons b branches ih => rw [List.map_cons, ← ih]; cases b; rfl

theorem redactColumns_eq_map (columns : List (OutputColumn X)) :
    redactColumns columns = columns.map OutputColumn.redact := by
  induction columns with
  | nil => rfl
  | cons c columns ih => rw [List.map_cons, ← ih]; cases c; rfl

theorem redactSortKeys_eq_map (keys : List (SortKey X)) :
    redactSortKeys keys = keys.map SortKey.redact := by
  induction keys with
  | nil => rfl
  | cons k keys ih => rw [List.map_cons, ← ih]; cases k; rfl

theorem redactSources_eq_map (sources : List (Source X)) :
    redactSources sources = sources.map Source.redact := by
  induction sources with
  | nil => rfl
  | cons s sources ih => rw [redactSources, ih, List.map_cons]

/-- A query is redacted clause by clause. -/
theorem Query.redact_eq (q : Query X) :
    q.redact =
      { distinct := q.distinct
        columns := q.columns.map OutputColumn.redact
        sources := q.sources.map Source.redact
        predicate := q.predicate.map Expr.redact
        groupKeys := q.groupKeys.map Expr.redact
        groupPredicate := q.groupPredicate.map Expr.redact
        sortKeys := q.sortKeys.map SortKey.redact
        limit := q.limit.map Expr.redact
        offset := q.offset.map Expr.redact } := by
  cases q
  simp only [Query.redact, redactExprs_eq_map, redactExpr?_eq_map, redactColumns_eq_map,
    redactSortKeys_eq_map, redactSources_eq_map]

section

variable (q : Query X)

@[simp]
theorem Query.redact_distinct : q.redact.distinct = q.distinct := by rw [redact_eq]

@[simp]
theorem Query.redact_columns : q.redact.columns = q.columns.map OutputColumn.redact := by
  rw [redact_eq]

@[simp]
theorem Query.redact_sources : q.redact.sources = q.sources.map Source.redact := by rw [redact_eq]

@[simp]
theorem Query.redact_predicate : q.redact.predicate = q.predicate.map Expr.redact := by
  rw [redact_eq]

@[simp]
theorem Query.redact_groupKeys : q.redact.groupKeys = q.groupKeys.map Expr.redact := by
  rw [redact_eq]

@[simp]
theorem Query.redact_groupPredicate :
    q.redact.groupPredicate = q.groupPredicate.map Expr.redact := by
  rw [redact_eq]

@[simp]
theorem Query.redact_sortKeys : q.redact.sortKeys = q.sortKeys.map SortKey.redact := by
  rw [redact_eq]

@[simp]
theorem Query.redact_limit : q.redact.limit = q.limit.map Expr.redact := by rw [redact_eq]

@[simp]
theorem Query.redact_offset : q.redact.offset = q.offset.map Expr.redact := by rw [redact_eq]

end

/-! ## What redaction leaves alone -/

/-- Redaction leaves the parentheses around operands where they are. -/
@[simp]
theorem Expr.isOperator_redact (e : Expr X) : e.redact.isOperator = e.isOperator := by
  cases e <;> rfl

/-- Redaction keeps types, and so what is a string. -/
@[simp]
theorem Expr.isString_redact (e : Expr X) : e.redact.isString = e.isString := by
  cases e with
  | binary op a b kind type => cases type <;> rfl
  | _ => rfl

end SqlScribe
