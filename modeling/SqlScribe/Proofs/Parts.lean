import SqlScribe.Proofs.Trail

/-!
# The parts of a stop

One step of the walk leads from a stop to the stops right inside it, its `parts`, left to right.
The trail of a stop is the stop itself and then the trails of its parts (`Stop.trail_eq`). So a
property that each stop inherits from its parts holds of all stops (`Stop.induction`), and a proof
about the walk need not tell expressions, queries and row sources apart.
-/

namespace SqlScribe

variable {X : Signature}

/-- The parts of an expression; arguments that are not written are none. -/
def Expr.parts (r : Route) : Expr X → List (Stop X)
  | .literal _ _ => []
  | .parameter _ _ => []
  | .column _ _ _ => []
  | .raw _ => []
  | .call name args niladic _ => if r.skipsArgs name niladic then [] else args.map .expr
  | .unary _ a _ => [.expr a]
  | .binary _ a b _ _ => [.expr a, .expr b]
  | .like a b c => [.expr a, .expr b] ++ c.toList.map .expr
  | .member a values _ => .expr a :: values.map .expr
  | .choice a branches c _ =>
    a.toList.map .expr ++ (branches.flatMap fun b => [.expr b.test, .expr b.result]) ++
      c.toList.map .expr
  | .existence q _ => [.query q]
  | .scalar q => [.query q]
  | .nullary _ => []
  | .dialectUnary _ a => [.expr a]
  | .dialectBinary _ a b => [.expr a, .expr b]
  | .variadic _ operands => operands.map .expr

/-- The parts of a query, clause by clause. -/
def Query.parts (q : Query X) : List (Stop X) :=
  (q.columns.flatMap fun c => .expr c.expr :: c.label.toList.map .label) ++
    q.sources.map .source ++ q.predicate.toList.map .expr ++ q.groupKeys.map .expr ++
    q.groupPredicate.toList.map .expr ++ (q.sortKeys.map fun k => .expr k.expr) ++
    if q.isLimited then [.rowLimit q.limit q.offset] else []

/-- The parts of a row source. -/
def Source.parts : Source X → List (Stop X)
  | .table _ _ _ => []
  | .derived q label => [.query q, .label label]
  | .innerJoin s condition => [.source s, .expr condition]
  | .leftJoin s condition => [.source s, .expr condition]
  | .crossJoin s => [.source s]
  | .crossApply s => [.source s]
  | .outerApply s => [.source s]

namespace Stop

/-- The stops right inside a stop. -/
def parts (r : Route) : Stop X → List (Stop X)
  | .expr e => e.parts r
  | .query q => q.parts
  | .source s => s.parts
  | .rowLimit limit offset =>
    if r.limitFirst then limit.toList.map .expr ++ offset.toList.map .expr
    else offset.toList.map .expr ++ limit.toList.map .expr
  | .label _ => []

/-- The trail of what the walk stops at. -/
def trail (r : Route) : Stop X → List (Stop X)
  | .expr e => e.trail r
  | .query q => q.trail r
  | .source s => s.trail r
  | .rowLimit limit offset =>
    .rowLimit limit offset ::
      if r.limitFirst then
        limit.toList.flatMap (·.trail r) ++ offset.toList.flatMap (·.trail r)
      else
        offset.toList.flatMap (·.trail r) ++ limit.toList.flatMap (·.trail r)
  | .label name => [.label name]

variable (r : Route)

theorem flatMap_trail_map {α : Type} {f : α → Stop X} {g : α → List (Stop X)}
    (h : ∀ x, (f x).trail r = g x) (xs : List α) : (xs.map f).flatMap (trail r) = xs.flatMap g := by
  rw [List.flatMap_map]
  exact congrArg (List.flatMap · xs) (funext h)

/-- A stop comes first on its trail, then its parts with theirs. -/
theorem trail_eq (stop : Stop X) : stop.trail r = stop :: (stop.parts r).flatMap (trail r) := by
  have hexprs : ∀ as : List (Expr X), (as.map Stop.expr).flatMap (trail r) =
      as.flatMap (·.trail r) := flatMap_trail_map r fun _ => rfl
  have hsources : ∀ ss : List (Source X), (ss.map Stop.source).flatMap (trail r) =
      ss.flatMap (·.trail r) := flatMap_trail_map r fun _ => rfl
  cases stop with
  | expr e =>
    cases e with
    | call name args niladic type =>
      simp only [parts, Expr.parts, trail, Expr.trail_call]
      split
      · rfl
      · rw [hexprs]
    | like a b c => simp [parts, Expr.parts, hexprs, trail]
    | member a values negated => simp [parts, Expr.parts, hexprs, trail]
    | choice a branches c type =>
      simp [parts, Expr.parts, hexprs, trail, List.flatMap_assoc]
    | variadic node operands => simp [parts, Expr.parts, hexprs, trail]
    | _ => simp [parts, Expr.parts, trail]
  | query q =>
    have hlabels : ∀ label : Option String,
        (label.toList.map Stop.label).flatMap (trail (X := X) r) = label.toList.map .label := by
      intro label
      cases label <;> rfl
    have hrowLimit : (if q.isLimited then [Stop.rowLimit q.limit q.offset] else []).flatMap
        (trail r) = q.rowLimitTrail r := by
      unfold Query.rowLimitTrail
      split
      · exact List.flatMap_singleton _ _
      · rfl
    simp only [trail, Query.trail_clauses, parts, Query.parts, List.flatMap_append,
      List.flatMap_assoc, List.flatMap_cons, hlabels, hsources, hexprs, hrowLimit,
      flatMap_trail_map r (f := fun k : SortKey X => .expr k.expr) fun _ => rfl]
  | source s => cases s <;> simp [parts, Source.parts, trail]
  | rowLimit limit offset =>
    simp only [parts, trail]
    split <;> rw [List.flatMap_append, hexprs, hexprs]
  | label name => rfl

/-- The trail of a part is shorter than that of the stop, so inductions over parts end. -/
theorem length_trail_lt {stop part : Stop X} (h : part ∈ stop.parts r) :
    (part.trail r).length < (stop.trail r).length := by
  have hsub : (part.trail r).Sublist ((stop.parts r).flatMap (trail r)) := by
    rw [List.flatMap_def]
    exact List.sublist_flatten_of_mem (List.mem_map_of_mem h)
  rw [trail_eq r stop, List.length_cons]
  exact Nat.lt_succ_of_le hsub.length_le

/-- What each stop has if its parts have it, all stops have. -/
theorem induction {P : Stop X → Prop} (step : ∀ stop, (∀ part ∈ stop.parts r, P part) → P stop)
    (stop : Stop X) : P stop :=
  step stop fun part hpart =>
    have := length_trail_lt r hpart
    induction step part
termination_by (stop.trail r).length

theorem mem_trail_of_mem_parts {stop part : Stop X} (h : part ∈ stop.parts r) {inner : Stop X}
    (hinner : inner ∈ part.trail r) : inner ∈ stop.trail r := by
  rw [trail_eq r stop]
  exact List.mem_cons_of_mem _ (List.mem_flatMap.2 ⟨part, h, hinner⟩)

theorem self_mem_trail (stop : Stop X) : stop ∈ stop.trail r := by
  rw [trail_eq]
  exact List.mem_cons_self

end Stop

end SqlScribe
