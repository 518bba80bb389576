import SqlScribe.Proofs.Simulation
import SqlScribe.Proofs.Trail

/-!
# Rewriting trees

A `Rewriting` replaces nodes of a tree, from the bottom up: operators on one operand, nodes of a
dialect's own, and the limits of queries. Everything else is kept, and no node becomes an operator
that was none, so parentheses stay where they are.

A tree corresponds to what it is rewritten to (`Rewriting.correspondence`), also if only trees count
whose stops all meet some condition.
-/

namespace SqlScribe

variable {X Y : Signature}

/-- How to replace nodes over a signature by expressions over another, given what their parts are
rewritten to. -/
structure Rewriting (X Y : Signature) where
  unary : UnaryOp → Expr Y → Option SqlType → Expr Y := .unary
  /-- The limit of a query, from its rewritten limit and offset. -/
  limit : Option (Expr Y) → Option (Expr Y) → Option (Expr Y) := fun limit _ => limit
  nullary : X.Nullary → Expr Y
  dialectUnary : X.Unary → Expr Y → Expr Y
  dialectBinary : X.Binary → Expr Y → Expr Y → Expr Y
  variadic : X.Variadic → List (Expr Y) → Expr Y
  isOperator_unary : ∀ op a type, (unary op a type).isOperator = false
  isOperator_nullary : ∀ node, (nullary node).isOperator = false
  isOperator_dialectUnary : ∀ node a, (dialectUnary node a).isOperator = false
  isOperator_dialectBinary : ∀ node a b, (dialectBinary node a b).isOperator = false
  isOperator_variadic : ∀ node operands, (variadic node operands).isOperator = false

/-! ## The rewritten tree -/

mutual

/-- The expression with its nodes replaced. -/
def Expr.rewrite (w : Rewriting X Y) : Expr X → Expr Y
  | .literal value type => .literal value type
  | .parameter name type => .parameter name type
  | .column table name type => .column table name type
  | .raw text => .raw text
  | .call name args niladic type => .call name (rewriteExprs w args) niladic type
  | .unary op a type => w.unary op (a.rewrite w) type
  | .binary op a b kind type => .binary op (a.rewrite w) (b.rewrite w) kind type
  | .like a b c => .like (a.rewrite w) (b.rewrite w) (rewriteExpr? w c)
  | .member a values negated => .member (a.rewrite w) (rewriteExprs w values) negated
  | .choice a branches c type =>
    .choice (rewriteExpr? w a) (rewriteBranches w branches) (rewriteExpr? w c) type
  | .existence q negated => .existence (q.rewrite w) negated
  | .scalar q => .scalar (q.rewrite w)
  | .nullary node => w.nullary node
  | .dialectUnary node a => w.dialectUnary node (a.rewrite w)
  | .dialectBinary node a b => w.dialectBinary node (a.rewrite w) (b.rewrite w)
  | .variadic node operands => w.variadic node (rewriteExprs w operands)

/-- Several expressions, rewritten. -/
def rewriteExprs (w : Rewriting X Y) : List (Expr X) → List (Expr Y)
  | [] => []
  | a :: as => a.rewrite w :: rewriteExprs w as

/-- An optional expression, rewritten. -/
def rewriteExpr? (w : Rewriting X Y) : Option (Expr X) → Option (Expr Y)
  | none => none
  | some a => some (a.rewrite w)

/-- The branches of a choice, rewritten. -/
def rewriteBranches (w : Rewriting X Y) : List (Branch X) → List (Branch Y)
  | [] => []
  | ⟨test, result⟩ :: branches =>
    ⟨test.rewrite w, result.rewrite w⟩ :: rewriteBranches w branches

/-- The columns of a result, rewritten; they keep their labels. -/
def rewriteColumns (w : Rewriting X Y) : List (OutputColumn X) → List (OutputColumn Y)
  | [] => []
  | ⟨a, label⟩ :: columns => ⟨a.rewrite w, label⟩ :: rewriteColumns w columns

/-- The keys to sort by, rewritten; they keep their order. -/
def rewriteSortKeys (w : Rewriting X Y) : List (SortKey X) → List (SortKey Y)
  | [] => []
  | ⟨a, ascending⟩ :: keys => ⟨a.rewrite w, ascending⟩ :: rewriteSortKeys w keys

/-- Several row sources, rewritten. -/
def rewriteSources (w : Rewriting X Y) : List (Source X) → List (Source Y)
  | [] => []
  | s :: sources => s.rewrite w :: rewriteSources w sources

/-- The query with its nodes replaced, and its limit too. -/
def Query.rewrite (w : Rewriting X Y) : Query X → Query Y
  | ⟨distinct, columns, sources, predicate, groupKeys, groupPredicate, sortKeys, limit, offset⟩ =>
    { distinct
      columns := rewriteColumns w columns
      sources := rewriteSources w sources
      predicate := rewriteExpr? w predicate
      groupKeys := rewriteExprs w groupKeys
      groupPredicate := rewriteExpr? w groupPredicate
      sortKeys := rewriteSortKeys w sortKeys
      limit := w.limit (rewriteExpr? w limit) (rewriteExpr? w offset)
      offset := rewriteExpr? w offset }

/-- The row source with its nodes replaced. -/
def Source.rewrite (w : Rewriting X Y) : Source X → Source Y
  | .table schema name label => .table schema name label
  | .derived q label => .derived (q.rewrite w) label
  | .innerJoin s condition => .innerJoin (s.rewrite w) (condition.rewrite w)
  | .leftJoin s condition => .leftJoin (s.rewrite w) (condition.rewrite w)
  | .crossJoin s => .crossJoin (s.rewrite w)
  | .crossApply s => .crossApply (s.rewrite w)
  | .outerApply s => .outerApply (s.rewrite w)

end

section

variable (w : Rewriting X Y)

theorem rewriteExpr?_eq_map (a : Option (Expr X)) : rewriteExpr? w a = a.map (Expr.rewrite w) := by
  cases a <;> rfl

/-- The new limit may depend on the offset too. -/
theorem Query.rewrite_limit (q : Query X) :
    (q.rewrite w).limit =
      w.limit (q.limit.map (Expr.rewrite w)) (q.offset.map (Expr.rewrite w)) := by
  cases q
  simp only [Query.rewrite, rewriteExpr?_eq_map]

theorem Query.rewrite_offset (q : Query X) :
    (q.rewrite w).offset = q.offset.map (Expr.rewrite w) := by
  cases q
  simp only [Query.rewrite, rewriteExpr?_eq_map]

/-- Rewriting leaves the parentheses around operands where they are. -/
theorem Expr.isOperator_rewrite (e : Expr X) : (e.rewrite w).isOperator = e.isOperator := by
  cases e with
  | unary op a type => exact w.isOperator_unary op _ type
  | nullary node => exact w.isOperator_nullary node
  | dialectUnary node a => exact w.isOperator_dialectUnary node _
  | dialectBinary node a b => exact w.isOperator_dialectBinary node _ _
  | variadic node operands => exact w.isOperator_variadic node _
  | _ => rfl

end

/-! ## Correspondence -/

namespace Rewriting

variable (w : Rewriting X Y) (r : Route) (P : Stop X → Prop)

/-- All stops of the expression meet the condition, and it is rewritten to the other one. -/
def RewritesExpr (e : Expr X) (e' : Expr Y) : Prop :=
  (∀ stop ∈ e.trail r, P stop) ∧ e' = e.rewrite w

/-- The second query is the rewriting of the first, all of whose stops have the property. -/
def RewritesQuery (q : Query X) (q' : Query Y) : Prop :=
  (∀ stop ∈ q.trail r, P stop) ∧ q' = q.rewrite w

/-- The second row source is the rewriting of the first, all of whose stops have the property. -/
def RewritesSource (s : Source X) (s' : Source Y) : Prop :=
  (∀ stop ∈ s.trail r, P stop) ∧ s' = s.rewrite w

variable {w r P}

/-- Parts that are rewritten one by one correspond one by one. -/
theorem forall₂_rewritten {α β : Type} {T : α → β → Prop} {trail : α → List (Stop X)}
    {rewrite : List α → List β} (hnil : rewrite [] = [])
    (hcons : ∀ x xs, ∃ y, rewrite (x :: xs) = y :: rewrite xs ∧
      ((∀ stop ∈ trail x, P stop) → T x y))
    {xs : List α} (h : ∀ stop ∈ xs.flatMap trail, P stop) : List.Forall₂ T xs (rewrite xs) := by
  induction xs with
  | nil =>
    rw [hnil]
    exact .nil
  | cons x xs ih =>
    rw [List.flatMap_cons, List.forall_mem_append] at h
    obtain ⟨y, hy, hxy⟩ := hcons x xs
    rw [hy]
    exact .cons (hxy h.1) (ih h.2)

/-- Expressions are rewritten one by one, if all of their stops meet the condition. -/
theorem exprs {as : List (Expr X)} (h : ∀ stop ∈ as.flatMap (·.trail r), P stop) :
    List.Forall₂ (w.RewritesExpr r P) as (rewriteExprs w as) :=
  forall₂_rewritten rfl (fun _ _ => ⟨_, rfl, fun ha => ⟨ha, rfl⟩⟩) h

theorem expr? {a : Option (Expr X)} (h : ∀ stop ∈ a.toList.flatMap (·.trail r), P stop) :
    Option.Rel (w.RewritesExpr r P) a (rewriteExpr? w a) := by
  cases a with
  | none => exact .none
  | some a =>
    rw [Option.toList_some, List.flatMap_singleton] at h
    exact .some ⟨h, rfl⟩

theorem branches {bs : List (Branch X)}
    (h : ∀ stop ∈ bs.flatMap fun b => b.test.trail r ++ b.result.trail r, P stop) :
    List.Forall₂
      (fun b b' => w.RewritesExpr r P b.test b'.test ∧ w.RewritesExpr r P b.result b'.result) bs
      (rewriteBranches w bs) := by
  refine forall₂_rewritten rfl (fun | ⟨_, _⟩, _ => ⟨_, rfl, fun hb => ?_⟩) h
  obtain ⟨htest, hresult⟩ := List.forall_mem_append.1 hb
  exact ⟨⟨htest, rfl⟩, hresult, rfl⟩

theorem columns {cs : List (OutputColumn X)}
    (h : ∀ stop ∈ cs.flatMap fun c => c.expr.trail r ++ c.label.toList.map .label, P stop) :
    List.Forall₂ (fun c c' => w.RewritesExpr r P c.expr c'.expr ∧ c'.label = c.label) cs
      (rewriteColumns w cs) := by
  refine forall₂_rewritten rfl (fun | ⟨_, _⟩, _ => ⟨_, rfl, fun hc => ?_⟩) h
  exact ⟨⟨(List.forall_mem_append.1 hc).1, rfl⟩, rfl⟩

theorem sortKeys {ks : List (SortKey X)}
    (h : ∀ stop ∈ ks.flatMap fun k => k.expr.trail r, P stop) :
    List.Forall₂ (fun k k' => w.RewritesExpr r P k.expr k'.expr ∧ k'.ascending = k.ascending) ks
      (rewriteSortKeys w ks) :=
  forall₂_rewritten rfl (fun | ⟨_, _⟩, _ => ⟨_, rfl, fun hk => ⟨⟨hk, rfl⟩, rfl⟩⟩) h

theorem sources {ss : List (Source X)} (h : ∀ stop ∈ ss.flatMap (·.trail r), P stop) :
    List.Forall₂ (w.RewritesSource r P) ss (rewriteSources w ss) :=
  forall₂_rewritten rfl (fun _ _ => ⟨_, rfl, fun hs => ⟨hs, rfl⟩⟩) h

/-- A rewritten query corresponds to the query, clause by clause, except for its limit. -/
theorem clauses {q : Query X} (h : ∀ stop ∈ q.trail r, P stop) :
    q.Corresponds (w.RewritesExpr r P) (w.RewritesSource r P) (q.rewrite w) := by
  simp only [Query.trail_clauses, List.forall_mem_cons, List.forall_mem_append] at h
  obtain ⟨-, ⟨⟨⟨⟨⟨hcolumns, hsources⟩, hpredicate⟩, hgroupKeys⟩, hgroupPredicate⟩, hsortKeys⟩, -⟩ :=
    h
  cases q
  exact
    { distinct := rfl
      columns := columns hcolumns
      sources := sources hsources
      predicate := expr? hpredicate
      groupKeys := exprs hgroupKeys
      groupPredicate := expr? hgroupPredicate
      sortKeys := sortKeys hsortKeys }

/-- A tree corresponds to what it is rewritten to. -/
theorem correspondence :
    Tree.Correspondence (w.RewritesExpr r P) (w.RewritesQuery r P) (w.RewritesSource r P) where
  isOperator {e e'} h := h.2 ▸ e.isOperator_rewrite w
  literal h := ⟨_, h.2⟩
  parameter h := ⟨_, h.2⟩
  column h := ⟨_, h.2⟩
  raw h := h.2
  binary := by
    rintro op a b kind type _ ⟨hstops, rfl⟩
    rw [Expr.trail_binary, List.forall_mem_cons, List.forall_mem_append] at hstops
    obtain ⟨-, ha, hb⟩ := hstops
    exact ⟨_, _, _, _, rfl, ⟨ha, rfl⟩, hb, rfl⟩
  like := by
    rintro a b c _ ⟨hstops, rfl⟩
    rw [Expr.trail_like, List.forall_mem_cons, List.forall_mem_append, List.forall_mem_append]
      at hstops
    obtain ⟨-, ⟨ha, hb⟩, hc⟩ := hstops
    exact ⟨_, _, _, rfl, ⟨ha, rfl⟩, ⟨hb, rfl⟩, expr? hc⟩
  member := by
    rintro a values negated _ ⟨hstops, rfl⟩
    rw [Expr.trail_member, List.forall_mem_cons, List.forall_mem_append] at hstops
    obtain ⟨-, ha, hvalues⟩ := hstops
    exact ⟨_, _, rfl, ⟨ha, rfl⟩, exprs hvalues⟩
  choice := by
    rintro a bs c type _ ⟨hstops, rfl⟩
    rw [Expr.trail_choice, List.forall_mem_cons, List.forall_mem_append, List.forall_mem_append]
      at hstops
    obtain ⟨-, ⟨ha, hbs⟩, hc⟩ := hstops
    exact ⟨_, _, _, _, rfl, expr? ha, branches hbs, expr? hc⟩
  existence h := ⟨_, h.2, (List.forall_mem_cons.1 h.1).2, rfl⟩
  scalar h := ⟨_, h.2, (List.forall_mem_cons.1 h.1).2, rfl⟩
  query := by
    rintro q _ ⟨hstops, rfl⟩
    exact clauses hstops
  table h := h.2
  derived := by
    rintro q label _ ⟨hstops, rfl⟩
    rw [Source.trail_derived, List.forall_mem_cons, List.forall_mem_append] at hstops
    obtain ⟨-, hq, -⟩ := hstops
    exact ⟨_, rfl, hq, rfl⟩
  innerJoin := by
    rintro s condition _ ⟨hstops, rfl⟩
    rw [Source.trail_innerJoin, List.forall_mem_cons, List.forall_mem_append] at hstops
    obtain ⟨-, hs, hcondition⟩ := hstops
    exact ⟨_, _, rfl, ⟨hs, rfl⟩, hcondition, rfl⟩
  leftJoin := by
    rintro s condition _ ⟨hstops, rfl⟩
    rw [Source.trail_leftJoin, List.forall_mem_cons, List.forall_mem_append] at hstops
    obtain ⟨-, hs, hcondition⟩ := hstops
    exact ⟨_, _, rfl, ⟨hs, rfl⟩, hcondition, rfl⟩
  crossJoin h := ⟨_, h.2, (List.forall_mem_cons.1 h.1).2, rfl⟩
  crossApply h := ⟨_, h.2, (List.forall_mem_cons.1 h.1).2, rfl⟩
  outerApply h := ⟨_, h.2, (List.forall_mem_cons.1 h.1).2, rfl⟩

end Rewriting

end SqlScribe
