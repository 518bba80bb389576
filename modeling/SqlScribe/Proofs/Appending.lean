import SqlScribe.Dialect.Marked
import SqlScribe.MySql.Dialect
import SqlScribe.Proofs.Piece
import SqlScribe.Proofs.Tree
import SqlScribe.Session

/-!
# Dialects that append

A dialect `Appends` when each of its rules, given parts that append, appends. Then so does the text
of every tree (`Appends.writeExpr`, `Appends.writeQuery`, `Appends.writeSource`), and a tree has a
piece of output of its own, which does not depend on what was written before it.

A dialect `Wraps` when besides all it has to say on expressions, queries and sources at large is to
put something around their pieces. Then its pieces are composed node by node (`Wraps.exprPiece_like`
and its like). Standard SQL and MySQL put nothing around them, they are `Plain`; and marks around
the constructs of a plain dialect make one that wraps (`Wraps.marked`).
-/

namespace SqlScribe

open Emit Piece

variable {X : Signature}

/-! ## Parts that append -/

namespace Emit

/-- Actions that append are the pieces that they add. -/
theorem map_eq_map_emit {α : Type} {f : α → Emit} {xs : List α} (h : ∀ x ∈ xs, (f x).Appends) :
    xs.map f = (xs.map fun x => (f x).piece).map emit := by
  rw [List.map_map]
  exact List.map_congr_left h

theorem optionMap_eq_map_emit {α : Type} {f : α → Emit} {x : Option α}
    (h : ∀ a ∈ x, (f a).Appends) : x.map f = (x.map fun a => (f a).piece).map emit := by
  cases x with
  | none => rfl
  | some a => exact congrArg some (h a rfl)

end Emit

namespace Dialect

/-- Every rule of the dialect turns parts that append into an action that appends. -/
structure Appends (D : Dialect X) : Prop where
  expr : ∀ e p, (D.expr e (emit p)).Appends
  query : ∀ q p, (D.query q (emit p)).Appends
  source : ∀ s p, (D.source s (emit p)).Appends
  rowLimit : ∀ limit offset : Option Piece,
    (D.rowLimit (limit.map emit) (offset.map emit)).Appends
  call : ∀ name (args : List Piece) niladic, (D.call name (args.map emit) niladic).Appends
  unary : ∀ op e p type, (D.unary op ⟨e, emit p⟩ type).Appends
  binary : ∀ op a p b q kind, (D.binary op ⟨a, emit p⟩ ⟨b, emit q⟩ kind).Appends
  crossApply : ∀ p, (D.crossApply (emit p)).Appends
  outerApply : ∀ p, (D.outerApply (emit p)).Appends
  nullary : ∀ node, (D.nullary node).Appends
  dialectUnary : ∀ node p, (D.dialectUnary node (emit p)).Appends
  dialectBinary : ∀ node p q, (D.dialectBinary node (emit p) (emit q)).Appends
  variadic : ∀ node (ps : List Piece), (D.variadic node (ps.map emit)).Appends

/-- What an expression adds to an output. -/
def exprPiece (D : Dialect X) (e : Expr X) : Piece := (D.writeExpr e).piece

/-- What a query adds to an output. -/
def queryPiece (D : Dialect X) (q : Query X) : Piece := (D.writeQuery q).piece

/-- What a row source adds to an output. -/
def sourcePiece (D : Dialect X) (s : Source X) : Piece := (D.writeSource s).piece

/-- What a branch of a choice adds to an output. -/
def branchPiece (D : Dialect X) (b : Branch X) : Piece :=
  text " WHEN " ++ D.exprPiece b.test ++ text " THEN " ++ D.exprPiece b.result

/-- What a source or a column is called, behind the word that leads it in. -/
def labelPiece (D : Dialect X) (label : Option String) : Piece :=
  Piece.led " AS " (label.map fun name => text (D.quote name))

/-- What a column of a result adds to an output. -/
def columnPiece (D : Dialect X) (c : OutputColumn X) : Piece :=
  D.exprPiece c.expr ++ D.labelPiece c.label

/-- What a key to sort by adds to an output. -/
def sortKeyPiece (D : Dialect X) (k : SortKey X) : Piece :=
  D.exprPiece k.expr ++ textIf (!k.ascending) " DESC"

/-- What the restriction of a query's rows adds to an output. -/
def rowLimitPiece (D : Dialect X) (q : Query X) : Piece := (D.writeRowLimit q).piece

namespace Appends

variable {D : Dialect X} (h : D.Appends)

include h in
/-- The dialect's say on an expression keeps it appending. -/
theorem writeExpr_of_standard {e : Expr X} (hs : (D.standardExpr e).Appends) :
    (D.writeExpr e).Appends := by
  rw [Dialect.writeExpr, hs]
  exact h.expr e _

include h in
/-- The dialect's say on a query keeps it appending. -/
theorem writeQuery_of_standard {q : Query X} (hs : (D.standardQuery q).Appends) :
    (D.writeQuery q).Appends := by
  rw [Dialect.writeQuery, hs]
  exact h.query q _

include h in
/-- The dialect's say on a row source keeps it appending. -/
theorem writeSource_of_standard {s : Source X} (hs : (D.standardSource s).Appends) :
    (D.writeSource s).Appends := by
  rw [Dialect.writeSource, hs]
  exact h.source s _

include h in
/-- The step of the induction at a query: every clause is made of parts that append. -/
theorem standardQuery_step {q : Query X}
    (hcolumns : ∀ c ∈ q.columns, (D.writeExpr c.expr).Appends)
    (hsources : ∀ s ∈ q.sources, (D.writeSource s).Appends)
    (hpredicate : ∀ e ∈ q.predicate, (D.writeExpr e).Appends)
    (hgroupKeys : ∀ e ∈ q.groupKeys, (D.writeExpr e).Appends)
    (hgroupPredicate : ∀ e ∈ q.groupPredicate, (D.writeExpr e).Appends)
    (hsortKeys : ∀ k ∈ q.sortKeys, (D.writeExpr k.expr).Appends)
    (hlimit : ∀ e ∈ q.limit, (D.writeExpr e).Appends)
    (hoffset : ∀ e ∈ q.offset, (D.writeExpr e).Appends) : (D.standardQuery q).Appends := by
  have hcolumns' : ∀ c ∈ q.columns,
      (Standard.outputColumn D.quote (D.writeExpr c.expr) c.label).Appends := by
    intro c hc
    rw [hcolumns c hc, Standard.outputColumn_emit]
    exact appends_emit _
  have hsortKeys' : ∀ k ∈ q.sortKeys,
      (Standard.sortKey (D.writeExpr k.expr) k.ascending).Appends := by
    intro k hk
    rw [hsortKeys k hk, Standard.sortKey_emit]
    exact appends_emit _
  have hrowLimit : (D.writeRowLimit q).Appends := by
    rw [writeRowLimit, optionMap_eq_map_emit hlimit, optionMap_eq_map_emit hoffset]
    exact h.rowLimit _ _
  have hlimited : (if q.isLimited then some (D.writeRowLimit q) else none) =
      (if q.isLimited then some (D.writeRowLimit q).piece else none).map emit := by
    split
    · exact congrArg some hrowLimit
    · rfl
  rw [standardQuery_eq, map_eq_map_emit hcolumns', map_eq_map_emit hsources,
    optionMap_eq_map_emit hpredicate, map_eq_map_emit hgroupKeys,
    optionMap_eq_map_emit hgroupPredicate, map_eq_map_emit hsortKeys', hlimited,
    Standard.query_emit]
  exact appends_emit _

include h in
/-- Each construct appends by its standard rule, if its parts do. A part is written by the dialect,
which has its say on it. -/
theorem steps : Tree.Steps (fun e => (D.standardExpr e).Appends)
    (fun q => (D.standardQuery q).Appends) (fun s => (D.standardSource s).Appends) where
  literal value type := by
    rw [standardExpr_literal, write_eq_emit]
    exact appends_emit _
  parameter name type := by
    rw [standardExpr_parameter, write_eq_emit]
    exact appends_emit _
  column table name type := by
    rw [standardExpr_column, write_eq_emit]
    exact appends_emit _
  raw text := by
    rw [standardExpr_raw, write_eq_emit]
    exact appends_emit _
  call name args niladic type hargs := by
    rw [standardExpr_call, map_eq_map_emit fun a ha => h.writeExpr_of_standard (hargs a ha)]
    exact h.call name _ niladic
  unary op a type ha := by
    rw [standardExpr_unary, operand, h.writeExpr_of_standard ha]
    exact h.unary op a _ type
  binary op a b kind type ha hb := by
    rw [standardExpr_binary, operand, operand, h.writeExpr_of_standard ha,
      h.writeExpr_of_standard hb]
    exact h.binary op a _ b _ kind
  like a b c ha hb hc := by
    rw [standardExpr_like, h.writeExpr_of_standard ha, h.writeExpr_of_standard hb,
      optionMap_eq_map_emit fun e he => h.writeExpr_of_standard (hc e he), Standard.like_emit]
    exact appends_emit _
  member a values negated ha hvalues := by
    rw [standardExpr_member, operand, h.writeExpr_of_standard ha,
      map_eq_map_emit fun e he => h.writeExpr_of_standard (hvalues e he), Standard.member_emit]
    exact appends_emit _
  choice a branches c type ha hbranches hc := by
    have hbranches' : ∀ b ∈ branches,
        (Standard.branch (D.writeExpr b.test) (D.writeExpr b.result)).Appends := by
      intro b hb
      obtain ⟨htest, hresult⟩ := hbranches b hb
      rw [h.writeExpr_of_standard htest, h.writeExpr_of_standard hresult, Standard.branch_emit]
      exact appends_emit _
    rw [standardExpr_choice, optionMap_eq_map_emit fun e he => h.writeExpr_of_standard (ha e he),
      map_eq_map_emit hbranches',
      optionMap_eq_map_emit fun e he => h.writeExpr_of_standard (hc e he), Standard.choice_emit]
    exact appends_emit _
  existence q negated hq := by
    rw [standardExpr_existence, h.writeQuery_of_standard hq, Standard.existence_emit]
    exact appends_emit _
  scalar q hq := by
    rw [standardExpr_scalar, h.writeQuery_of_standard hq, parenthesized_emit]
    exact appends_emit _
  nullary node := h.nullary node
  dialectUnary node a ha := by
    rw [standardExpr_dialectUnary, h.writeExpr_of_standard ha]
    exact h.dialectUnary node _
  dialectBinary node a b ha hb := by
    rw [standardExpr_dialectBinary, h.writeExpr_of_standard ha, h.writeExpr_of_standard hb]
    exact h.dialectBinary node _ _
  variadic node operands hoperands := by
    rw [standardExpr_variadic,
      map_eq_map_emit fun e he => h.writeExpr_of_standard (hoperands e he)]
    exact h.variadic node _
  query q hcolumns hsources hpredicate hgroupKeys hgroupPredicate hsortKeys hlimit hoffset :=
    h.standardQuery_step (fun c hc => h.writeExpr_of_standard (hcolumns c hc))
      (fun s hs => h.writeSource_of_standard (hsources s hs))
      (fun e he => h.writeExpr_of_standard (hpredicate e he))
      (fun e he => h.writeExpr_of_standard (hgroupKeys e he))
      (fun e he => h.writeExpr_of_standard (hgroupPredicate e he))
      (fun k hk => h.writeExpr_of_standard (hsortKeys k hk))
      (fun e he => h.writeExpr_of_standard (hlimit e he))
      (fun e he => h.writeExpr_of_standard (hoffset e he))
  table schema name label := by
    rw [standardSource_table, Standard.table_eq_emit]
    exact appends_emit _
  derived q label hq := by
    rw [standardSource_derived, h.writeQuery_of_standard hq, Standard.derived_emit]
    exact appends_emit _
  innerJoin s condition hs hcondition := by
    rw [standardSource_innerJoin, h.writeSource_of_standard hs, h.writeExpr_of_standard hcondition,
      Standard.join_emit]
    exact appends_emit _
  leftJoin s condition hs hcondition := by
    rw [standardSource_leftJoin, h.writeSource_of_standard hs, h.writeExpr_of_standard hcondition,
      Standard.join_emit]
    exact appends_emit _
  crossJoin s hs := by
    rw [standardSource_crossJoin, h.writeSource_of_standard hs, Standard.crossJoin_emit]
    exact appends_emit _
  crossApply s hs := by
    rw [standardSource_crossApply, h.writeSource_of_standard hs]
    exact h.crossApply _
  outerApply s hs := by
    rw [standardSource_outerApply, h.writeSource_of_standard hs]
    exact h.outerApply _

include h

/-- The standard text of an expression is a piece. -/
theorem standardExpr (e : Expr X) : (D.standardExpr e).Appends := h.steps.ofExpr e

/-- The standard text of a query is a piece. -/
theorem standardQuery (q : Query X) : (D.standardQuery q).Appends := h.steps.ofQuery q

/-- The standard text of a row source is a piece. -/
theorem standardSource (s : Source X) : (D.standardSource s).Appends := h.steps.ofSource s

/-- Writing an expression adds its piece. -/
theorem writeExpr (e : Expr X) : D.writeExpr e = emit (D.exprPiece e) :=
  h.writeExpr_of_standard (h.standardExpr e)

/-- Writing a query adds its piece. -/
theorem writeQuery (q : Query X) : D.writeQuery q = emit (D.queryPiece q) :=
  h.writeQuery_of_standard (h.standardQuery q)

/-- Writing a row source adds its piece. -/
theorem writeSource (s : Source X) : D.writeSource s = emit (D.sourcePiece s) :=
  h.writeSource_of_standard (h.standardSource s)

theorem operand (e : Expr X) : D.operand e = ⟨e, emit (D.exprPiece e)⟩ := by
  rw [Dialect.operand, h.writeExpr]

theorem map_writeExpr (as : List (Expr X)) :
    as.map D.writeExpr = (as.map D.exprPiece).map emit :=
  map_eq_map_emit fun a _ => h.writeExpr a

theorem optionMap_writeExpr (a : Option (Expr X)) :
    a.map D.writeExpr = (a.map D.exprPiece).map emit :=
  optionMap_eq_map_emit fun a _ => h.writeExpr a

theorem writeRowLimit (q : Query X) : (D.writeRowLimit q).Appends := by
  rw [Dialect.writeRowLimit, h.optionMap_writeExpr, h.optionMap_writeExpr]
  exact h.rowLimit _ _

end Appends

/-! ## Compiled texts -/

/-- Compiling a piece hands over its text, unless it has an error. -/
theorem compiling_emit_ok_iff (p : Piece) (o : Output) (text : String) :
    (∃ o', compiling (emit p) o = .ok text o') ↔ p.error = none ∧ text = p.sql := by
  unfold compiling emit
  cases p.error <;> simp [eq_comm]

/-- An expression compiles exactly to the text of its piece, unless the piece has an error. -/
theorem Appends.compileExpr_ok_iff {D : Dialect X} (h : D.Appends) (e : Expr X) (o : Output)
    (text : String) :
    (∃ o', D.compileExpr e o = .ok text o') ↔
      (D.exprPiece e).error = none ∧ text = (D.exprPiece e).sql := by
  rw [compileExpr, h.writeExpr, compiling_emit_ok_iff]

theorem Appends.compileQuery_ok_iff {D : Dialect X} (h : D.Appends) (q : Query X) (o : Output)
    (text : String) :
    (∃ o', D.compileQuery q o = .ok text o') ↔
      (D.queryPiece q).error = none ∧ text = (D.queryPiece q).sql := by
  rw [← compiling_emit_ok_iff _ o, ← h.writeQuery]
  unfold compileQuery
  cases hq : compiling (D.writeQuery q) o <;> simp [bind, EStateM.bind, hq, pure, EStateM.pure]

/-! ## Dialects that wrap -/

/-- The dialect appends, and its say on expressions, queries and row sources at large is to put
something around their pieces. -/
structure Wraps (D : Dialect X) (wrap : Construct → Piece → Piece) : Prop extends D.Appends where
  expr_eq : ∀ e p, D.expr e (emit p) = emit (wrap .expr p)
  query_eq : ∀ q p, D.query q (emit p) = emit (wrap .query p)
  source_eq : ∀ s p, D.source s (emit p) = emit (wrap .source p)

/-- The dialect appends, and it has a say only on single constructs. -/
abbrev Plain (D : Dialect X) : Prop := D.Wraps fun _ p => p

namespace Wraps

variable {D : Dialect X} {wrap : Construct → Piece → Piece} (h : D.Wraps wrap)

include h

/-! ### Expressions -/

/-- The piece of an expression is its standard piece with what the dialect puts around it. -/
theorem exprPiece_eq (e : Expr X) : D.exprPiece e = wrap .expr (D.standardExpr e).piece := by
  rw [exprPiece, Dialect.writeExpr, h.standardExpr, h.expr_eq, piece_emit, piece_emit]

theorem exprPiece_literal (value : Literal) (type : Option SqlType) :
    D.exprPiece (.literal value type) = wrap .expr (text (value.text D.escape)) := by
  rw [h.exprPiece_eq, standardExpr_literal, write_eq_emit, piece_emit]

theorem exprPiece_parameter (name : String) (type : Option SqlType) :
    D.exprPiece (.parameter name type) = wrap .expr (text name) := by
  rw [h.exprPiece_eq, standardExpr_parameter, write_eq_emit, piece_emit]

theorem exprPiece_column (table : Option String) (name : String) (type : Option SqlType) :
    D.exprPiece (.column table name type) =
      wrap .expr (text (Standard.qualified D.quote table name)) := by
  rw [h.exprPiece_eq, standardExpr_column, write_eq_emit, piece_emit]

theorem exprPiece_raw (sql : String) : D.exprPiece (.raw sql) = wrap .expr (text sql) := by
  rw [h.exprPiece_eq, standardExpr_raw, write_eq_emit, piece_emit]

/-- The rule of the dialect writes a call, given the pieces of its arguments. -/
theorem exprPiece_call (name : String) (args : List (Expr X)) (niladic : Bool)
    (type : Option SqlType) :
    D.exprPiece (.call name args niladic type) =
      wrap .expr (D.call name ((args.map D.exprPiece).map emit) niladic).piece := by
  rw [h.exprPiece_eq, standardExpr_call, h.map_writeExpr]

theorem exprPiece_unary (op : UnaryOp) (a : Expr X) (type : Option SqlType) :
    D.exprPiece (.unary op a type) =
      wrap .expr (D.unary op ⟨a, emit (D.exprPiece a)⟩ type).piece := by
  rw [h.exprPiece_eq, standardExpr_unary, h.operand]

theorem exprPiece_binary (op : BinaryOp) (a b : Expr X) (kind : ScalarKind)
    (type : Option SqlType) :
    D.exprPiece (.binary op a b kind type) =
      wrap .expr (D.binary op ⟨a, emit (D.exprPiece a)⟩ ⟨b, emit (D.exprPiece b)⟩ kind).piece := by
  rw [h.exprPiece_eq, standardExpr_binary, h.operand, h.operand]

theorem exprPiece_like (a b : Expr X) (c : Option (Expr X)) :
    D.exprPiece (.like a b c) =
      wrap .expr (D.exprPiece a ++ text " LIKE " ++ D.exprPiece b ++
        Piece.led " ESCAPE " (c.map D.exprPiece)) := by
  rw [h.exprPiece_eq, standardExpr_like, h.writeExpr, h.writeExpr, h.optionMap_writeExpr,
    Standard.like_emit, piece_emit]

theorem exprPiece_member (a : Expr X) (values : List (Expr X)) (negated : Bool) :
    D.exprPiece (.member a values negated) =
      wrap .expr (Piece.operand a (D.exprPiece a) ++ textIf negated " NOT" ++ text " IN " ++
        (Piece.separated ", " (values.map D.exprPiece)).parenthesized) := by
  rw [h.exprPiece_eq, standardExpr_member, h.operand, h.map_writeExpr, Standard.member_emit,
    piece_emit]

theorem map_branch (branches : List (Branch X)) :
    (branches.map fun b => Standard.branch (D.writeExpr b.test) (D.writeExpr b.result)) =
      (branches.map D.branchPiece).map emit := by
  rw [List.map_map]
  refine List.map_congr_left fun b _ => ?_
  rw [h.writeExpr, h.writeExpr, Standard.branch_emit]
  rfl

theorem exprPiece_choice (a : Option (Expr X)) (branches : List (Branch X)) (c : Option (Expr X))
    (type : Option SqlType) :
    D.exprPiece (.choice a branches c type) =
      wrap .expr (text "CASE" ++ Piece.led " " (a.map D.exprPiece) ++
        Piece.inOrder (branches.map D.branchPiece) ++ Piece.led " ELSE " (c.map D.exprPiece) ++
        text " END") := by
  rw [h.exprPiece_eq, standardExpr_choice, h.optionMap_writeExpr, h.map_branch,
    h.optionMap_writeExpr, Standard.choice_emit, piece_emit]

theorem exprPiece_existence (q : Query X) (negated : Bool) :
    D.exprPiece (.existence q negated) =
      wrap .expr (textIf negated "NOT " ++ text "EXISTS " ++ (D.queryPiece q).parenthesized) := by
  rw [h.exprPiece_eq, standardExpr_existence, h.writeQuery, Standard.existence_emit, piece_emit]

theorem exprPiece_scalar (q : Query X) :
    D.exprPiece (.scalar q) = wrap .expr (D.queryPiece q).parenthesized := by
  rw [h.exprPiece_eq, standardExpr_scalar, h.writeQuery, parenthesized_emit, piece_emit]

theorem exprPiece_nullary (node : X.Nullary) :
    D.exprPiece (.nullary node) = wrap .expr (D.nullary node).piece := by
  rw [h.exprPiece_eq, standardExpr_nullary]

theorem exprPiece_dialectUnary (node : X.Unary) (a : Expr X) :
    D.exprPiece (.dialectUnary node a) =
      wrap .expr (D.dialectUnary node (emit (D.exprPiece a))).piece := by
  rw [h.exprPiece_eq, standardExpr_dialectUnary, h.writeExpr]

theorem exprPiece_dialectBinary (node : X.Binary) (a b : Expr X) :
    D.exprPiece (.dialectBinary node a b) =
      wrap .expr (D.dialectBinary node (emit (D.exprPiece a)) (emit (D.exprPiece b))).piece := by
  rw [h.exprPiece_eq, standardExpr_dialectBinary, h.writeExpr, h.writeExpr]

theorem exprPiece_variadic (node : X.Variadic) (operands : List (Expr X)) :
    D.exprPiece (.variadic node operands) =
      wrap .expr (D.variadic node ((operands.map D.exprPiece).map emit)).piece := by
  rw [h.exprPiece_eq, standardExpr_variadic, h.map_writeExpr]

/-! ### Queries -/

theorem queryPiece_eq (q : Query X) : D.queryPiece q = wrap .query (D.standardQuery q).piece := by
  rw [queryPiece, Dialect.writeQuery, h.standardQuery, h.query_eq, piece_emit, piece_emit]

theorem map_outputColumn (columns : List (OutputColumn X)) :
    (columns.map fun c => Standard.outputColumn D.quote (D.writeExpr c.expr) c.label) =
      (columns.map D.columnPiece).map emit := by
  rw [List.map_map]
  refine List.map_congr_left fun c _ => ?_
  rw [h.writeExpr, Standard.outputColumn_emit]
  rfl

theorem map_sortKey (keys : List (SortKey X)) :
    (keys.map fun k => Standard.sortKey (D.writeExpr k.expr) k.ascending) =
      (keys.map D.sortKeyPiece).map emit := by
  rw [List.map_map]
  refine List.map_congr_left fun k _ => ?_
  rw [h.writeExpr, Standard.sortKey_emit]
  rfl

/-- The rule of the dialect restricts the rows, given the pieces of the limit and the offset. -/
theorem rowLimitPiece_eq (q : Query X) :
    D.rowLimitPiece q =
      (D.rowLimit ((q.limit.map D.exprPiece).map emit)
        ((q.offset.map D.exprPiece).map emit)).piece := by
  rw [rowLimitPiece, Dialect.writeRowLimit, h.optionMap_writeExpr, h.optionMap_writeExpr]

/-- The piece of a query, clause by clause. -/
theorem queryPiece_clauses (q : Query X) :
    D.queryPiece q =
      wrap .query (text "SELECT " ++ textIf q.distinct "DISTINCT " ++
        (if q.columns.isEmpty then text "1"
          else Piece.separated ", " (q.columns.map D.columnPiece)) ++
        Piece.clause "\nFROM " "\n" (q.sources.map D.sourcePiece) ++
        Piece.led "\nWHERE " (q.predicate.map D.exprPiece) ++
        Piece.clause "\nGROUP BY " ", " (q.groupKeys.map D.exprPiece) ++
        Piece.led "\nHAVING " (q.groupPredicate.map D.exprPiece) ++
        Piece.clause "\nORDER BY " ", " (q.sortKeys.map D.sortKeyPiece) ++
        Piece.led "\n" (if q.isLimited then some (D.rowLimitPiece q) else none)) := by
  have hsources : q.sources.map D.writeSource = (q.sources.map D.sourcePiece).map emit :=
    map_eq_map_emit fun s _ => h.writeSource s
  have hlimited : (if q.isLimited then some (D.writeRowLimit q) else none) =
      (if q.isLimited then some (D.rowLimitPiece q) else none).map emit := by
    split
    · exact congrArg some (h.writeRowLimit q)
    · rfl
  rw [h.queryPiece_eq, standardQuery_eq, h.map_outputColumn, hsources,
    h.optionMap_writeExpr, h.map_writeExpr, h.optionMap_writeExpr, h.map_sortKey, hlimited,
    Standard.query_emit, piece_emit, List.isEmpty_map]

/-! ### Row sources -/

theorem sourcePiece_eq (s : Source X) :
    D.sourcePiece s = wrap .source (D.standardSource s).piece := by
  rw [sourcePiece, Dialect.writeSource, h.standardSource, h.source_eq, piece_emit, piece_emit]

theorem sourcePiece_table (schema : Option String) (name : String) (label : Option String) :
    D.sourcePiece (.table schema name label) =
      wrap .source (text (Standard.qualified D.quote schema name) ++ D.labelPiece label) := by
  rw [h.sourcePiece_eq, standardSource_table, Standard.table_eq_emit, piece_emit]
  rfl

theorem sourcePiece_derived (q : Query X) (label : String) :
    D.sourcePiece (.derived q label) =
      wrap .source ((D.queryPiece q).parenthesized ++ D.labelPiece (some label)) := by
  rw [h.sourcePiece_eq, standardSource_derived, h.writeQuery, Standard.derived_emit, piece_emit]
  rfl

theorem sourcePiece_innerJoin (s : Source X) (condition : Expr X) :
    D.sourcePiece (.innerJoin s condition) =
      wrap .source
        (text "INNER JOIN " ++ D.sourcePiece s ++ text " ON " ++ D.exprPiece condition) := by
  rw [h.sourcePiece_eq, standardSource_innerJoin, h.writeSource, h.writeExpr, Standard.join_emit,
    piece_emit]

theorem sourcePiece_leftJoin (s : Source X) (condition : Expr X) :
    D.sourcePiece (.leftJoin s condition) =
      wrap .source
        (text "LEFT JOIN " ++ D.sourcePiece s ++ text " ON " ++ D.exprPiece condition) := by
  rw [h.sourcePiece_eq, standardSource_leftJoin, h.writeSource, h.writeExpr, Standard.join_emit,
    piece_emit]

theorem sourcePiece_crossJoin (s : Source X) :
    D.sourcePiece (.crossJoin s) = wrap .source (text "CROSS JOIN " ++ D.sourcePiece s) := by
  rw [h.sourcePiece_eq, standardSource_crossJoin, h.writeSource, Standard.crossJoin_emit,
    piece_emit]

theorem sourcePiece_crossApply (s : Source X) :
    D.sourcePiece (.crossApply s) = wrap .source (D.crossApply (emit (D.sourcePiece s))).piece := by
  rw [h.sourcePiece_eq, standardSource_crossApply, h.writeSource]

theorem sourcePiece_outerApply (s : Source X) :
    D.sourcePiece (.outerApply s) = wrap .source (D.outerApply (emit (D.sourcePiece s))).piece := by
  rw [h.sourcePiece_eq, standardSource_outerApply, h.writeSource]

end Wraps

/-! ### Marks -/

/-- A piece between the marks of a construct. -/
def Marks.wrap (marks : Marks) (c : Construct) (p : Piece) : Piece :=
  text (marks.opening c) ++ p ++ text (marks.closing c)

/-- Marks around the action of a piece are marks around the piece. -/
theorem Marks.around_emit (marks : Marks) (c : Construct) (p : Piece) :
    marks.around c (emit p) = emit (marks.wrap c p) := by
  simp only [around, wrap, write_eq_emit, emit_bind_emit, append_assoc]

theorem Marks.around_of_appends (marks : Marks) (c : Construct) {a : Emit} (ha : a.Appends) :
    marks.around c a = emit (marks.wrap c a.piece) := by
  rw [← marks.around_emit, ← ha]

/-- With marks, a plain dialect wraps the pieces of its constructs. -/
theorem Wraps.marked {D : Dialect X} (h : D.Plain) (marks : Marks) :
    (D.marked marks).Wraps marks.wrap where
  expr e p := .of_eq (marks.around_of_appends .expr (h.expr e p))
  query q p := .of_eq (marks.around_of_appends .query (h.query q p))
  source s p := .of_eq (marks.around_of_appends .source (h.source s p))
  rowLimit limit offset := .of_eq (marks.around_of_appends .rowLimit (h.rowLimit limit offset))
  call name args niladic := .of_eq (marks.around_of_appends .call (h.call name args niladic))
  unary op e p type := .of_eq (marks.around_of_appends .unary (h.unary op e p type))
  binary op a p b q kind := .of_eq (marks.around_of_appends .binary (h.binary op a p b q kind))
  crossApply p := .of_eq (marks.around_of_appends .crossApply (h.crossApply p))
  outerApply p := .of_eq (marks.around_of_appends .outerApply (h.outerApply p))
  nullary := h.nullary
  dialectUnary := h.dialectUnary
  dialectBinary := h.dialectBinary
  variadic := h.variadic
  expr_eq e p := (congrArg (marks.around .expr) (h.expr_eq e p)).trans (marks.around_emit _ _)
  query_eq q p := (congrArg (marks.around .query) (h.query_eq q p)).trans (marks.around_emit _ _)
  source_eq s p := (congrArg (marks.around .source) (h.source_eq s p)).trans (marks.around_emit _ _)

end Dialect

end SqlScribe
