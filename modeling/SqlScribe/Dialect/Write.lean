import SqlScribe.Dialect.Basic

/-!
# Writing a tree

One pass over the tree, depth first and from left to right, hands each node's parts to the
dialect's rule for the node. `standardExpr`, `standardQuery` and `standardSource` write a node by
the rule of its construct and everything below it in the dialect; `writeExpr`, `writeQuery` and
`writeSource` let the dialect have its say on the node itself too.
-/

namespace SqlScribe.Dialect

open Emit

variable {X : Signature}

mutual

/-- An expression by the rule of its construct. -/
def standardExpr (D : Dialect X) : Expr X → Emit
  | .literal value _ => write (value.text D.escape)
  | .parameter name _ => write name
  | .column table name _ => write (Standard.qualified D.quote table name)
  | .raw text => write text
  | .call name args niladic _ => D.call name (D.exprParts args) niladic
  | .unary op a type => D.unary op ⟨a, D.expr a (D.standardExpr a)⟩ type
  | .binary op a b kind _ =>
    D.binary op ⟨a, D.expr a (D.standardExpr a)⟩ ⟨b, D.expr b (D.standardExpr b)⟩ kind
  | .like a b c =>
    Standard.like (D.expr a (D.standardExpr a)) (D.expr b (D.standardExpr b)) (D.exprPart? c)
  | .member a values negated =>
    Standard.member ⟨a, D.expr a (D.standardExpr a)⟩ (D.exprParts values) negated
  | .choice a branches c _ =>
    Standard.choice (D.exprPart? a) (D.branchParts branches) (D.exprPart? c)
  | .existence q negated => Standard.existence (D.query q (D.standardQuery q)) negated
  | .scalar q => parenthesized (D.query q (D.standardQuery q))
  | .nullary node => D.nullary node
  | .dialectUnary node a => D.dialectUnary node (D.expr a (D.standardExpr a))
  | .dialectBinary node a b =>
    D.dialectBinary node (D.expr a (D.standardExpr a)) (D.expr b (D.standardExpr b))
  | .variadic node operands => D.variadic node (D.exprParts operands)

/-- The actions for a list of expressions. -/
def exprParts (D : Dialect X) : List (Expr X) → List Emit
  | [] => []
  | a :: as => D.expr a (D.standardExpr a) :: D.exprParts as

/-- The action for an optional expression. -/
def exprPart? (D : Dialect X) : Option (Expr X) → Option Emit
  | none => none
  | some a => some (D.expr a (D.standardExpr a))

/-- The actions for the branches of a choice. -/
def branchParts (D : Dialect X) : List (Branch X) → List Emit
  | [] => []
  | ⟨test, result⟩ :: branches =>
    Standard.branch (D.expr test (D.standardExpr test)) (D.expr result (D.standardExpr result)) ::
      D.branchParts branches

/-- The actions for the columns of a result. -/
def columnParts (D : Dialect X) : List (OutputColumn X) → List Emit
  | [] => []
  | ⟨a, label⟩ :: columns =>
    Standard.outputColumn D.quote (D.expr a (D.standardExpr a)) label :: D.columnParts columns

/-- The actions for the keys to sort by. -/
def sortKeyParts (D : Dialect X) : List (SortKey X) → List Emit
  | [] => []
  | ⟨a, ascending⟩ :: keys =>
    Standard.sortKey (D.expr a (D.standardExpr a)) ascending :: D.sortKeyParts keys

/-- The actions for a list of row sources. -/
def sourceParts (D : Dialect X) : List (Source X) → List Emit
  | [] => []
  | s :: sources => D.source s (D.standardSource s) :: D.sourceParts sources

/-- A query by the rule of its clauses. -/
def standardQuery (D : Dialect X) : Query X → Emit
  | ⟨distinct, columns, sources, predicate, groupKeys, groupPredicate, sortKeys, limit, offset⟩ =>
    Standard.query distinct
      { columns := D.columnParts columns
        sources := D.sourceParts sources
        predicate := D.exprPart? predicate
        groupKeys := D.exprParts groupKeys
        groupPredicate := D.exprPart? groupPredicate
        sortKeys := D.sortKeyParts sortKeys
        rowLimit :=
          if limit.isSome || offset.isSome then
            some (D.rowLimit (D.exprPart? limit) (D.exprPart? offset))
          else
            none }

/-- A row source by the rule of its construct. -/
def standardSource (D : Dialect X) : Source X → Emit
  | .table schema name label => Standard.table D.quote schema name label
  | .derived q label => Standard.derived D.quote (D.query q (D.standardQuery q)) label
  | .innerJoin s condition =>
    Standard.join "INNER JOIN " (D.source s (D.standardSource s))
      (D.expr condition (D.standardExpr condition))
  | .leftJoin s condition =>
    Standard.join "LEFT JOIN " (D.source s (D.standardSource s))
      (D.expr condition (D.standardExpr condition))
  | .crossJoin s => Standard.crossJoin (D.source s (D.standardSource s))
  | .crossApply s => D.crossApply (D.source s (D.standardSource s))
  | .outerApply s => D.outerApply (D.source s (D.standardSource s))

end

/-- An expression in the dialect. -/
def writeExpr (D : Dialect X) (e : Expr X) : Emit :=
  D.expr e (D.standardExpr e)

/-- A query in the dialect. -/
def writeQuery (D : Dialect X) (q : Query X) : Emit :=
  D.query q (D.standardQuery q)

/-- A row source in the dialect. -/
def writeSource (D : Dialect X) (s : Source X) : Emit :=
  D.source s (D.standardSource s)

/-- An expression with the action that writes it in the dialect. -/
def operand (D : Dialect X) (e : Expr X) : Operand X :=
  ⟨e, D.writeExpr e⟩

/-- The restriction of a query's rows in the dialect; there may be nothing to write. -/
def writeRowLimit (D : Dialect X) (q : Query X) : Emit :=
  D.rowLimit (q.limit.map D.writeExpr) (q.offset.map D.writeExpr)

/-! ## Parts are the written members -/

/-- The recursion over a list of expressions maps the walk over it. -/
theorem exprParts_eq_map (D : Dialect X) (as : List (Expr X)) :
    D.exprParts as = as.map D.writeExpr := by
  induction as with
  | nil => rfl
  | cons a as ih => simp [exprParts, ih, writeExpr]

theorem exprPart?_eq_map (D : Dialect X) (a : Option (Expr X)) :
    D.exprPart? a = a.map D.writeExpr := by
  cases a <;> rfl

theorem sourceParts_eq_map (D : Dialect X) (sources : List (Source X)) :
    D.sourceParts sources = sources.map D.writeSource := by
  induction sources with
  | nil => rfl
  | cons s sources ih => simp [sourceParts, ih, writeSource]

end SqlScribe.Dialect
