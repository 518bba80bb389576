import SqlScribe.MySql.Dialect
import SqlScribe.Proofs.Tree

/-!
# The trail of a walk

Writing a tree comes past its nodes in an order that the tree alone decides, up to two choices of
the dialect: which calls are written without their arguments, and whether the limit of a query comes
before its offset. A `Route` makes these choices, and the trail of a tree lists where the walk
stops: at each node before the parts of the node, at the restriction of a query's rows, and at the
labels that stand behind what they name.

What goes wrong in a tree, what it quotes and what it reports are all read off its trail.
-/

namespace SqlScribe

variable {X : Signature}

/-- Where the walk over a tree stops. -/
inductive Stop (X : Signature) where
  | expr (expr : Expr X)
  | query (query : Query X)
  | source (source : Source X)
  /-- The restriction of a query's rows. -/
  | rowLimit (limit offset : Option (Expr X))
  /-- What a column or a derived source is called in the rest of the query. -/
  | label (name : String)

/-- What a dialect decides about the walk. -/
structure Route where
  /-- A call, by its name and whether it is niladic, is written without its arguments. -/
  skipsArgs : String → Bool → Bool
  /-- The limit of a query comes before its offset. -/
  limitFirst : Bool

/-- Standard SQL leaves out the arguments of niladic functions. -/
def Standard.route : Route where
  skipsArgs _ niladic := niladic
  limitFirst := false

/-- MySQL leaves out the arguments of niladic functions and of system variables. -/
def MySql.route : Route where
  skipsArgs name niladic := Text.startsWith name variableSigil || niladic
  limitFirst := true

mutual

/-- The stops inside an expression. -/
def Expr.inside (r : Route) : Expr X → List (Stop X)
  | .literal _ _ => []
  | .parameter _ _ => []
  | .column _ _ _ => []
  | .raw _ => []
  | .call name args niladic _ => if r.skipsArgs name niladic then [] else exprsTrail r args
  | .unary _ a _ => .expr a :: a.inside r
  | .binary _ a b _ _ => .expr a :: a.inside r ++ .expr b :: b.inside r
  | .like a b c => .expr a :: a.inside r ++ .expr b :: b.inside r ++ expr?Trail r c
  | .member a values _ => .expr a :: a.inside r ++ exprsTrail r values
  | .choice a branches c _ => expr?Trail r a ++ branchesTrail r branches ++ expr?Trail r c
  | .existence q _ => .query q :: q.inside r
  | .scalar q => .query q :: q.inside r
  | .nullary _ => []
  | .dialectUnary _ a => .expr a :: a.inside r
  | .dialectBinary _ a b => .expr a :: a.inside r ++ .expr b :: b.inside r
  | .variadic _ operands => exprsTrail r operands

/-- The trail of several expressions. -/
def exprsTrail (r : Route) : List (Expr X) → List (Stop X)
  | [] => []
  | a :: as => .expr a :: a.inside r ++ exprsTrail r as

/-- The trail of an optional expression. -/
def expr?Trail (r : Route) : Option (Expr X) → List (Stop X)
  | none => []
  | some a => .expr a :: a.inside r

/-- The trail of the branches of a choice: each test comes before its result. -/
def branchesTrail (r : Route) : List (Branch X) → List (Stop X)
  | [] => []
  | ⟨test, result⟩ :: branches =>
    .expr test :: test.inside r ++ .expr result :: result.inside r ++ branchesTrail r branches

/-- The stops in the columns of a result, each before its label. -/
def columnsTrail (r : Route) : List (OutputColumn X) → List (Stop X)
  | [] => []
  | ⟨a, label⟩ :: columns =>
    .expr a :: a.inside r ++ label.toList.map .label ++ columnsTrail r columns

/-- The trail of the keys to sort by. -/
def sortKeysTrail (r : Route) : List (SortKey X) → List (Stop X)
  | [] => []
  | ⟨a, _⟩ :: keys => .expr a :: a.inside r ++ sortKeysTrail r keys

/-- The trail of several row sources. -/
def sourcesTrail (r : Route) : List (Source X) → List (Stop X)
  | [] => []
  | s :: sources => .source s :: s.inside r ++ sourcesTrail r sources

/-- The stops inside a query, clause by clause. -/
def Query.inside (r : Route) : Query X → List (Stop X)
  | ⟨_, columns, sources, predicate, groupKeys, groupPredicate, sortKeys, limit, offset⟩ =>
    columnsTrail r columns ++ sourcesTrail r sources ++ expr?Trail r predicate ++
      exprsTrail r groupKeys ++ expr?Trail r groupPredicate ++ sortKeysTrail r sortKeys ++
      if limit.isSome || offset.isSome then
        .rowLimit limit offset ::
          if r.limitFirst then expr?Trail r limit ++ expr?Trail r offset
          else expr?Trail r offset ++ expr?Trail r limit
      else []

/-- The stops inside a row source. -/
def Source.inside (r : Route) : Source X → List (Stop X)
  | .table _ _ _ => []
  | .derived q label => .query q :: q.inside r ++ [.label label]
  | .innerJoin s condition => .source s :: s.inside r ++ .expr condition :: condition.inside r
  | .leftJoin s condition => .source s :: s.inside r ++ .expr condition :: condition.inside r
  | .crossJoin s => .source s :: s.inside r
  | .crossApply s => .source s :: s.inside r
  | .outerApply s => .source s :: s.inside r

end

/-- The stops of an expression. -/
def Expr.trail (r : Route) (e : Expr X) : List (Stop X) := .expr e :: e.inside r

/-- The stops of the walk over a query, from the query itself on. -/
def Query.trail (r : Route) (q : Query X) : List (Stop X) := .query q :: q.inside r

/-- The stops of the walk over a row source, from the source itself on. -/
def Source.trail (r : Route) (s : Source X) : List (Stop X) := .source s :: s.inside r

/-! ## Trails of lists and options -/

theorem exprsTrail_eq_flatMap (r : Route) (as : List (Expr X)) :
    exprsTrail r as = as.flatMap (·.trail r) := by
  induction as with
  | nil => rfl
  | cons a as ih =>
    rw [List.flatMap_cons, ← ih]
    rfl

theorem expr?Trail_eq_flatMap (r : Route) (a : Option (Expr X)) :
    expr?Trail r a = a.toList.flatMap (·.trail r) := by
  cases a with
  | none => rfl
  | some a => simp [expr?Trail, Expr.trail]

theorem branchesTrail_eq_flatMap (r : Route) (branches : List (Branch X)) :
    branchesTrail r branches = branches.flatMap fun b => b.test.trail r ++ b.result.trail r := by
  induction branches with
  | nil => rfl
  | cons b branches ih =>
    rw [List.flatMap_cons, ← ih]
    cases b
    rfl

theorem columnsTrail_eq_flatMap (r : Route) (columns : List (OutputColumn X)) :
    columnsTrail r columns =
      columns.flatMap fun c => c.expr.trail r ++ c.label.toList.map .label := by
  induction columns with
  | nil => rfl
  | cons c columns ih =>
    rw [List.flatMap_cons, ← ih]
    cases c
    rfl

theorem sortKeysTrail_eq_flatMap (r : Route) (keys : List (SortKey X)) :
    sortKeysTrail r keys = keys.flatMap fun k => k.expr.trail r := by
  induction keys with
  | nil => rfl
  | cons k keys ih =>
    rw [List.flatMap_cons, ← ih]
    cases k
    rfl

theorem sourcesTrail_eq_flatMap (r : Route) (sources : List (Source X)) :
    sourcesTrail r sources = sources.flatMap (·.trail r) := by
  induction sources with
  | nil => rfl
  | cons s sources ih =>
    rw [List.flatMap_cons, ← ih]
    rfl

/-! ## Trails node by node -/

section

variable (r : Route)

@[simp]
theorem Expr.trail_literal (value : Literal) (type : Option SqlType) :
    (Expr.literal value type : Expr X).trail r = [.expr (.literal value type)] := rfl

@[simp]
theorem Expr.trail_parameter (name : String) (type : Option SqlType) :
    (Expr.parameter name type : Expr X).trail r = [.expr (.parameter name type)] := rfl

@[simp]
theorem Expr.trail_column (table : Option String) (name : String) (type : Option SqlType) :
    (Expr.column table name type : Expr X).trail r = [.expr (.column table name type)] := rfl

@[simp]
theorem Expr.trail_raw (text : String) : (Expr.raw text : Expr X).trail r = [.expr (.raw text)] :=
  rfl

@[simp]
theorem Expr.trail_call (name : String) (args : List (Expr X)) (niladic : Bool)
    (type : Option SqlType) :
    (Expr.call name args niladic type).trail r =
      .expr (.call name args niladic type) ::
        if r.skipsArgs name niladic then [] else args.flatMap (·.trail r) := by
  rw [← exprsTrail_eq_flatMap]
  rfl

@[simp]
theorem Expr.trail_unary (op : UnaryOp) (a : Expr X) (type : Option SqlType) :
    (Expr.unary op a type).trail r = .expr (.unary op a type) :: a.trail r := rfl

@[simp]
theorem Expr.trail_binary (op : BinaryOp) (a b : Expr X) (kind : ScalarKind)
    (type : Option SqlType) :
    (Expr.binary op a b kind type).trail r =
      .expr (.binary op a b kind type) :: (a.trail r ++ b.trail r) := rfl

@[simp]
theorem Expr.trail_like (a b : Expr X) (c : Option (Expr X)) :
    (Expr.like a b c).trail r =
      .expr (.like a b c) :: (a.trail r ++ b.trail r ++ c.toList.flatMap (·.trail r)) := by
  rw [← expr?Trail_eq_flatMap]
  rfl

@[simp]
theorem Expr.trail_member (a : Expr X) (values : List (Expr X)) (negated : Bool) :
    (Expr.member a values negated).trail r =
      .expr (.member a values negated) :: (a.trail r ++ values.flatMap (·.trail r)) := by
  rw [← exprsTrail_eq_flatMap]
  rfl

@[simp]
theorem Expr.trail_choice (a : Option (Expr X)) (branches : List (Branch X)) (c : Option (Expr X))
    (type : Option SqlType) :
    (Expr.choice a branches c type).trail r =
      .expr (.choice a branches c type) ::
        (a.toList.flatMap (·.trail r) ++
          (branches.flatMap fun b => b.test.trail r ++ b.result.trail r) ++
          c.toList.flatMap (·.trail r)) := by
  rw [← expr?Trail_eq_flatMap, ← expr?Trail_eq_flatMap, ← branchesTrail_eq_flatMap]
  rfl

@[simp]
theorem Expr.trail_existence (q : Query X) (negated : Bool) :
    (Expr.existence q negated).trail r = .expr (.existence q negated) :: q.trail r := rfl

@[simp]
theorem Expr.trail_scalar (q : Query X) :
    (Expr.scalar q).trail r = .expr (.scalar q) :: q.trail r := rfl

@[simp]
theorem Expr.trail_nullary (node : X.Nullary) :
    (Expr.nullary node : Expr X).trail r = [.expr (.nullary node)] := rfl

@[simp]
theorem Expr.trail_dialectUnary (node : X.Unary) (a : Expr X) :
    (Expr.dialectUnary node a).trail r = .expr (.dialectUnary node a) :: a.trail r := rfl

@[simp]
theorem Expr.trail_dialectBinary (node : X.Binary) (a b : Expr X) :
    (Expr.dialectBinary node a b).trail r =
      .expr (.dialectBinary node a b) :: (a.trail r ++ b.trail r) := rfl

@[simp]
theorem Expr.trail_variadic (node : X.Variadic) (operands : List (Expr X)) :
    (Expr.variadic node operands).trail r =
      .expr (.variadic node operands) :: operands.flatMap (·.trail r) := by
  rw [← exprsTrail_eq_flatMap]
  rfl

/-- The stops at the restriction of a query's rows. -/
def Query.rowLimitTrail (q : Query X) : List (Stop X) :=
  if q.isLimited then
    .rowLimit q.limit q.offset ::
      if r.limitFirst then
        q.limit.toList.flatMap (·.trail r) ++ q.offset.toList.flatMap (·.trail r)
      else
        q.offset.toList.flatMap (·.trail r) ++ q.limit.toList.flatMap (·.trail r)
  else []

/-- The trail of a query, clause by clause. -/
theorem Query.trail_clauses (q : Query X) :
    q.trail r =
      .query q ::
        ((q.columns.flatMap fun c => c.expr.trail r ++ c.label.toList.map .label) ++
          q.sources.flatMap (·.trail r) ++ q.predicate.toList.flatMap (·.trail r) ++
          q.groupKeys.flatMap (·.trail r) ++ q.groupPredicate.toList.flatMap (·.trail r) ++
          (q.sortKeys.flatMap fun k => k.expr.trail r) ++ q.rowLimitTrail r) := by
  obtain ⟨distinct, columns, sources, predicate, groupKeys, groupPredicate, sortKeys, limit,
    offset⟩ := q
  simp only [Query.trail, Query.inside, Query.rowLimitTrail, columnsTrail_eq_flatMap,
    sourcesTrail_eq_flatMap, sortKeysTrail_eq_flatMap, exprsTrail_eq_flatMap,
    expr?Trail_eq_flatMap]
  rfl

@[simp]
theorem Source.trail_table (schema : Option String) (name : String) (label : Option String) :
    (Source.table schema name label : Source X).trail r = [.source (.table schema name label)] :=
  rfl

@[simp]
theorem Source.trail_derived (q : Query X) (label : String) :
    (Source.derived q label).trail r =
      .source (.derived q label) :: (q.trail r ++ [.label label]) := rfl

@[simp]
theorem Source.trail_innerJoin (s : Source X) (condition : Expr X) :
    (Source.innerJoin s condition).trail r =
      .source (.innerJoin s condition) :: (s.trail r ++ condition.trail r) := rfl

@[simp]
theorem Source.trail_leftJoin (s : Source X) (condition : Expr X) :
    (Source.leftJoin s condition).trail r =
      .source (.leftJoin s condition) :: (s.trail r ++ condition.trail r) := rfl

@[simp]
theorem Source.trail_crossJoin (s : Source X) :
    (Source.crossJoin s).trail r = .source (.crossJoin s) :: s.trail r := rfl

@[simp]
theorem Source.trail_crossApply (s : Source X) :
    (Source.crossApply s).trail r = .source (.crossApply s) :: s.trail r := rfl

@[simp]
theorem Source.trail_outerApply (s : Source X) :
    (Source.outerApply s).trail r = .source (.outerApply s) :: s.trail r := rfl

end

end SqlScribe
