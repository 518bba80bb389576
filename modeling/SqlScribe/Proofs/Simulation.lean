import Mathlib.Data.List.Forall2
import SqlScribe.Proofs.Appending

/-!
# Simulation between dialects

Two dialects write two trees. If the trees correspond node by node and the rules of the dialects
turn related parts into related pieces, then the pieces of the trees are related (`Simulation`).

Three things are kept apart. A `Piece.Congruence` is a relation between pieces that survives
everything the fixed rules do: words are put in, and pieces are put side by side. A
`Tree.Correspondence` says which trees belong together, as far as the constructs go that every
dialect writes alike. What is left to a `Simulation` are the rules that a dialect may replace, and
only those.

The trees may have different signatures, arguments that are not written need not correspond, and a
conversion or the limit of a query may correspond to something else.
-/

namespace SqlScribe

open Emit Piece

variable {X Y : Signature}

/-! ## Congruences -/

/-- The relation holds between a text and itself, and between pieces side by side if it holds
between the pieces. -/
structure Piece.Congruence (R : Piece → Piece → Prop) : Prop where
  text : ∀ sql, R (text sql) (text sql)
  append : ∀ {p p' q q'}, R p p' → R q q' → R (p ++ q) (p' ++ q')

namespace Piece.Congruence

variable {R : Piece → Piece → Prop} (h : Congruence R) {p p' : Piece} {ps ps' : List Piece}

include h

theorem empty : R {} {} := h.text ""

theorem between (before after : String) (hp : R p p') :
    R (Piece.text before ++ p ++ Piece.text after) (Piece.text before ++ p' ++ Piece.text after) :=
  h.append (h.append (h.text before) hp) (h.text after)

theorem parenthesized (hp : R p p') : R p.parenthesized p'.parenthesized :=
  h.between "(" ")" hp

/-- Related operands stay related as operands, if both get parentheses or neither does. -/
theorem operand {e : Expr X} {e' : Expr Y} (he : e'.isOperator = e.isOperator) (hp : R p p') :
    R (Piece.operand e p) (Piece.operand e' p') := by
  unfold Piece.operand
  rw [he]
  split
  · exact h.parenthesized hp
  · exact hp

theorem textIf (condition : Bool) (sql : String) :
    R (Piece.textIf condition sql) (Piece.textIf condition sql) := by
  cases condition with
  | false => exact h.empty
  | true => exact h.text sql

theorem led (lead : String) {x x' : Option Piece} (hx : Option.Rel R x x') :
    R (Piece.led lead x) (Piece.led lead x') := by
  cases hx with
  | none => exact h.empty
  | some hp => exact h.append (h.text lead) hp

theorem inOrder (hps : List.Forall₂ R ps ps') : R (Piece.inOrder ps) (Piece.inOrder ps') := by
  induction hps with
  | nil => exact h.empty
  | cons hp _ ih => exact h.append hp ih

theorem separated (separator : String) (hps : List.Forall₂ R ps ps') :
    R (Piece.separated separator ps) (Piece.separated separator ps') := by
  cases hps with
  | nil => exact h.empty
  | cons hp hps =>
    refine h.append hp (h.inOrder ?_)
    rw [List.forall₂_map_left_iff, List.forall₂_map_right_iff]
    exact hps.imp fun _ _ hq => h.append (h.text separator) hq

theorem clause (lead separator : String) (hps : List.Forall₂ R ps ps') :
    R (Piece.clause lead separator ps) (Piece.clause lead separator ps') := by
  cases hps with
  | nil => exact h.empty
  | cons hp hps => exact h.append (h.text lead) (h.separated separator (.cons hp hps))

end Piece.Congruence

/-! ## Correspondence -/

/-- The queries have the same clauses with corresponding parts. Nothing is said about the
restriction of the rows. -/
structure Query.Corresponds (E : Expr X → Expr Y → Prop) (S : Source X → Source Y → Prop)
    (q : Query X) (q' : Query Y) : Prop where
  distinct : q'.distinct = q.distinct
  columns : List.Forall₂ (fun c c' => E c.expr c'.expr ∧ c'.label = c.label) q.columns q'.columns
  sources : List.Forall₂ S q.sources q'.sources
  predicate : Option.Rel E q.predicate q'.predicate
  groupKeys : List.Forall₂ E q.groupKeys q'.groupKeys
  groupPredicate : Option.Rel E q.groupPredicate q'.groupPredicate
  sortKeys : List.Forall₂ (fun k k' => E k.expr k'.expr ∧ k'.ascending = k.ascending)
    q.sortKeys q'.sortKeys

/-- What corresponds to a tree is made of the same construct, from corresponding parts; types and
kinds may differ. Calls, nodes with one operand and nodes of a dialect's own are free. -/
structure Tree.Correspondence (E : Expr X → Expr Y → Prop) (Q : Query X → Query Y → Prop)
    (S : Source X → Source Y → Prop) : Prop where
  isOperator : ∀ {e e'}, E e e' → e'.isOperator = e.isOperator
  literal : ∀ {value type e'}, E (.literal value type) e' → ∃ type', e' = .literal value type'
  parameter : ∀ {name type e'}, E (.parameter name type) e' → ∃ type', e' = .parameter name type'
  column : ∀ {table name type e'}, E (.column table name type) e' →
    ∃ type', e' = .column table name type'
  raw : ∀ {text e'}, E (.raw text) e' → e' = .raw text
  binary : ∀ {op a b kind type e'}, E (.binary op a b kind type) e' →
    ∃ a' b' kind' type', e' = .binary op a' b' kind' type' ∧ E a a' ∧ E b b'
  like : ∀ {a b c e'}, E (.like a b c) e' →
    ∃ a' b' c', e' = .like a' b' c' ∧ E a a' ∧ E b b' ∧ Option.Rel E c c'
  member : ∀ {a values negated e'}, E (.member a values negated) e' →
    ∃ a' values', e' = .member a' values' negated ∧ E a a' ∧ List.Forall₂ E values values'
  choice : ∀ {a branches c type e'}, E (.choice a branches c type) e' →
    ∃ a' branches' c' type', e' = .choice a' branches' c' type' ∧ Option.Rel E a a' ∧
      List.Forall₂ (fun b b' => E b.test b'.test ∧ E b.result b'.result) branches branches' ∧
      Option.Rel E c c'
  existence : ∀ {q negated e'}, E (.existence q negated) e' →
    ∃ q', e' = .existence q' negated ∧ Q q q'
  scalar : ∀ {q e'}, E (.scalar q) e' → ∃ q', e' = .scalar q' ∧ Q q q'
  query : ∀ {q q'}, Q q q' → q.Corresponds E S q'
  table : ∀ {schema name label s'}, S (.table schema name label) s' →
    s' = .table schema name label
  derived : ∀ {q label s'}, S (.derived q label) s' → ∃ q', s' = .derived q' label ∧ Q q q'
  innerJoin : ∀ {s condition s'}, S (.innerJoin s condition) s' →
    ∃ t condition', s' = .innerJoin t condition' ∧ S s t ∧ E condition condition'
  leftJoin : ∀ {s condition s'}, S (.leftJoin s condition) s' →
    ∃ t condition', s' = .leftJoin t condition' ∧ S s t ∧ E condition condition'
  crossJoin : ∀ {s s'}, S (.crossJoin s) s' → ∃ t, s' = .crossJoin t ∧ S s t
  crossApply : ∀ {s s'}, S (.crossApply s) s' → ∃ t, s' = .crossApply t ∧ S s t
  outerApply : ∀ {s s'}, S (.outerApply s) s' → ∃ t, s' = .outerApply t ∧ S s t

theorem forall₂_map_of_forall_mem {α β : Type} {T : α → β → Prop} {R : Piece → Piece → Prop}
    {f : α → Piece} {g : β → Piece} {xs : List α} {ys : List β}
    (hxs : ∀ x ∈ xs, ∀ y, T x y → R (f x) (g y)) (h : List.Forall₂ T xs ys) :
    List.Forall₂ R (xs.map f) (ys.map g) := by
  induction h with
  | nil => exact .nil
  | cons hxy _ ih =>
    refine .cons (hxs _ List.mem_cons_self _ hxy) (ih fun x hx => ?_)
    exact hxs x (List.mem_cons_of_mem _ hx)

theorem rel_map_of_forall_mem {α β : Type} {T : α → β → Prop} {R : Piece → Piece → Prop}
    {f : α → Piece} {g : β → Piece} {x : Option α} {y : Option β}
    (hx : ∀ a ∈ x, ∀ b, T a b → R (f a) (g b)) (h : Option.Rel T x y) :
    Option.Rel R (x.map f) (y.map g) := by
  cases h with
  | none => exact .none
  | some hab => exact .some (hx _ rfl _ hab)

/-! ## Simulation -/

/-- The restriction of a query's rows on a line of its own, if there is one. -/
def Dialect.rowLimitLine (D : Dialect X) (q : Query X) : Piece :=
  Piece.led "\n" (if q.isLimited then some (D.rowLimitPiece q) else none)

/-- Wherever trees correspond, the rules that a dialect may replace turn related parts into related
pieces. -/
structure Simulation (D : Dialect X) (D' : Dialect Y) (R : Piece → Piece → Prop)
    (E : Expr X → Expr Y → Prop) (Q : Query X → Query Y → Prop) (S : Source X → Source Y → Prop) :
    Prop where
  congruence : Piece.Congruence R
  trees : Tree.Correspondence E Q S
  plain : D.Plain
  plain' : D'.Plain
  quote : D'.quote = D.quote
  escape : D'.escape = D.escape
  call : ∀ {name args niladic type e'}, E (.call name args niladic type) e' →
    (∀ a ∈ args, ∀ a', E a a' → R (D.exprPiece a) (D'.exprPiece a')) →
    R (D.exprPiece (.call name args niladic type)) (D'.exprPiece e')
  unary : ∀ {op a type e'}, E (.unary op a type) e' →
    (∀ a', E a a' → R (D.exprPiece a) (D'.exprPiece a')) →
    R (D.exprPiece (.unary op a type)) (D'.exprPiece e')
  binary : ∀ {op a b kind type a' b' kind' type'},
    E (.binary op a b kind type) (.binary op a' b' kind' type') → E a a' → E b b' →
    ∀ {p p' q q'}, R p p' → R q q' →
    R (D.binary op ⟨a, emit p⟩ ⟨b, emit q⟩ kind).piece
      (D'.binary op ⟨a', emit p'⟩ ⟨b', emit q'⟩ kind').piece
  nullary : ∀ {node e'}, E (.nullary node) e' →
    R (D.exprPiece (.nullary node)) (D'.exprPiece e')
  dialectUnary : ∀ {node a e'}, E (.dialectUnary node a) e' →
    (∀ a', E a a' → R (D.exprPiece a) (D'.exprPiece a')) →
    R (D.exprPiece (.dialectUnary node a)) (D'.exprPiece e')
  dialectBinary : ∀ {node a b e'}, E (.dialectBinary node a b) e' →
    (∀ a', E a a' → R (D.exprPiece a) (D'.exprPiece a')) →
    (∀ b', E b b' → R (D.exprPiece b) (D'.exprPiece b')) →
    R (D.exprPiece (.dialectBinary node a b)) (D'.exprPiece e')
  variadic : ∀ {node operands e'}, E (.variadic node operands) e' →
    (∀ a ∈ operands, ∀ a', E a a' → R (D.exprPiece a) (D'.exprPiece a')) →
    R (D.exprPiece (.variadic node operands)) (D'.exprPiece e')
  rowLimit : ∀ {q q'}, Q q q' →
    (∀ e ∈ q.limit, ∀ e', E e e' → R (D.exprPiece e) (D'.exprPiece e')) →
    (∀ e ∈ q.offset, ∀ e', E e e' → R (D.exprPiece e) (D'.exprPiece e')) →
    R (D.rowLimitLine q) (D'.rowLimitLine q')
  crossApply : ∀ {s t}, S (.crossApply s) (.crossApply t) → ∀ {p p'}, R p p' →
    R (D.crossApply (emit p)).piece (D'.crossApply (emit p')).piece
  outerApply : ∀ {s t}, S (.outerApply s) (.outerApply t) → ∀ {p p'}, R p p' →
    R (D.outerApply (emit p)).piece (D'.outerApply (emit p')).piece

namespace Simulation

variable {D : Dialect X} {D' : Dialect Y} {R : Piece → Piece → Prop} {E : Expr X → Expr Y → Prop}
  {Q : Query X → Query Y → Prop} {S : Source X → Source Y → Prop} (h : Simulation D D' R E Q S)

include h

/-- Dialects that quote alike write labels alike. -/
theorem label (label : Option String) : R (D.labelPiece label) (D'.labelPiece label) := by
  have hnames : Option.Rel R (label.map fun name => text (D.quote name))
      (label.map fun name => text (D'.quote name)) := by
    rw [h.quote]
    cases label with
    | none => exact .none
    | some name => exact .some (h.congruence.text _)
  exact h.congruence.led " AS " hnames

/-- The step at a query: each clause is made of related parts. -/
theorem clauses {q : Query X} {q' : Query Y} (hq : Q q q')
    (hcolumns : ∀ c ∈ q.columns, ∀ e', E c.expr e' → R (D.exprPiece c.expr) (D'.exprPiece e'))
    (hsources : ∀ s ∈ q.sources, ∀ s', S s s' → R (D.sourcePiece s) (D'.sourcePiece s'))
    (hpredicate : ∀ e ∈ q.predicate, ∀ e', E e e' → R (D.exprPiece e) (D'.exprPiece e'))
    (hgroupKeys : ∀ e ∈ q.groupKeys, ∀ e', E e e' → R (D.exprPiece e) (D'.exprPiece e'))
    (hgroupPredicate : ∀ e ∈ q.groupPredicate, ∀ e', E e e' →
      R (D.exprPiece e) (D'.exprPiece e'))
    (hsortKeys : ∀ k ∈ q.sortKeys, ∀ e', E k.expr e' → R (D.exprPiece k.expr) (D'.exprPiece e'))
    (hlimit : ∀ e ∈ q.limit, ∀ e', E e e' → R (D.exprPiece e) (D'.exprPiece e'))
    (hoffset : ∀ e ∈ q.offset, ∀ e', E e e' → R (D.exprPiece e) (D'.exprPiece e')) :
    R (D.queryPiece q) (D'.queryPiece q') := by
  have hparts := h.trees.query hq
  have hcolumn : List.Forall₂ R (q.columns.map D.columnPiece) (q'.columns.map D'.columnPiece) := by
    refine forall₂_map_of_forall_mem (fun c hc c' hcc' => ?_) hparts.columns
    unfold Dialect.columnPiece
    rw [hcc'.2]
    exact h.congruence.append (hcolumns c hc _ hcc'.1) (h.label c.label)
  have hsortKey : List.Forall₂ R (q.sortKeys.map D.sortKeyPiece)
      (q'.sortKeys.map D'.sortKeyPiece) := by
    refine forall₂_map_of_forall_mem (fun k hk k' hkk' => ?_) hparts.sortKeys
    unfold Dialect.sortKeyPiece
    rw [hkk'.2]
    exact h.congruence.append (hsortKeys k hk _ hkk'.1) (h.congruence.textIf _ _)
  have hselected : R
      (if q.columns.isEmpty then text "1" else Piece.separated ", " (q.columns.map D.columnPiece))
      (if q'.columns.isEmpty then text "1"
        else Piece.separated ", " (q'.columns.map D'.columnPiece)) := by
    have hempty : q'.columns.isEmpty = q.columns.isEmpty := by
      rw [Bool.eq_iff_iff, List.isEmpty_iff_length_eq_zero, List.isEmpty_iff_length_eq_zero,
        hparts.columns.length_eq]
    rw [hempty]
    split
    · exact h.congruence.text "1"
    · exact h.congruence.separated ", " hcolumn
  have hselect : R (text "SELECT " ++ Piece.textIf q.distinct "DISTINCT ")
      (text "SELECT " ++ Piece.textIf q'.distinct "DISTINCT ") := by
    rw [hparts.distinct]
    exact h.congruence.append (h.congruence.text _) (h.congruence.textIf _ _)
  have hfrom := h.congruence.clause "\nFROM " "\n"
    (forall₂_map_of_forall_mem hsources hparts.sources)
  have hwhere := h.congruence.led "\nWHERE " (rel_map_of_forall_mem hpredicate hparts.predicate)
  have hgroup := h.congruence.clause "\nGROUP BY " ", "
    (forall₂_map_of_forall_mem hgroupKeys hparts.groupKeys)
  have hhaving := h.congruence.led "\nHAVING "
    (rel_map_of_forall_mem hgroupPredicate hparts.groupPredicate)
  have horder := h.congruence.clause "\nORDER BY " ", " hsortKey
  rw [h.plain.queryPiece_clauses, h.plain'.queryPiece_clauses]
  apply h.congruence.append _ (h.rowLimit hq hlimit hoffset)
  apply h.congruence.append _ horder
  apply h.congruence.append _ hhaving
  apply h.congruence.append _ hgroup
  apply h.congruence.append _ hwhere
  apply h.congruence.append _ hfrom
  exact h.congruence.append hselect hselected

/-- Each construct has related pieces in both dialects, if its parts have. -/
theorem steps : Tree.Steps (fun e => ∀ e', E e e' → R (D.exprPiece e) (D'.exprPiece e'))
    (fun q => ∀ q', Q q q' → R (D.queryPiece q) (D'.queryPiece q'))
    (fun s => ∀ s', S s s' → R (D.sourcePiece s) (D'.sourcePiece s')) where
  literal value type := by
    intro e' he
    obtain ⟨type', rfl⟩ := h.trees.literal he
    rw [h.plain.exprPiece_literal, h.plain'.exprPiece_literal, h.escape]
    exact h.congruence.text _
  parameter name type := by
    intro e' he
    obtain ⟨type', rfl⟩ := h.trees.parameter he
    rw [h.plain.exprPiece_parameter, h.plain'.exprPiece_parameter]
    exact h.congruence.text _
  column table name type := by
    intro e' he
    obtain ⟨type', rfl⟩ := h.trees.column he
    rw [h.plain.exprPiece_column, h.plain'.exprPiece_column, h.quote]
    exact h.congruence.text _
  raw sql := by
    intro e' he
    obtain rfl := h.trees.raw he
    rw [h.plain.exprPiece_raw, h.plain'.exprPiece_raw]
    exact h.congruence.text _
  call name args niladic type hargs := fun e' he => h.call he hargs
  unary op a type ha := fun e' he => h.unary he ha
  binary op a b kind type ha hb := by
    intro e' he
    obtain ⟨a', b', kind', type', rfl, ha', hb'⟩ := h.trees.binary he
    rw [h.plain.exprPiece_binary, h.plain'.exprPiece_binary]
    exact h.binary he ha' hb' (ha a' ha') (hb b' hb')
  like a b c ha hb hc := by
    intro e' he
    obtain ⟨a', b', c', rfl, ha', hb', hc'⟩ := h.trees.like he
    rw [h.plain.exprPiece_like, h.plain'.exprPiece_like]
    have hsubject := h.congruence.append (ha a' ha') (h.congruence.text " LIKE ")
    have hescape := h.congruence.led " ESCAPE " (rel_map_of_forall_mem hc hc')
    exact h.congruence.append (h.congruence.append hsubject (hb b' hb')) hescape
  member a values negated ha hvalues := by
    intro e' he
    obtain ⟨a', values', rfl, ha', hvalues'⟩ := h.trees.member he
    rw [h.plain.exprPiece_member, h.plain'.exprPiece_member]
    have hitem := h.congruence.operand (h.trees.isOperator ha') (ha a' ha')
    have hnot := h.congruence.append hitem (h.congruence.textIf negated " NOT")
    have hlist := h.congruence.separated ", " (forall₂_map_of_forall_mem hvalues hvalues')
    exact h.congruence.append (h.congruence.append hnot (h.congruence.text " IN "))
      (h.congruence.parenthesized hlist)
  choice a branches c type ha hbranches hc := by
    intro e' he
    obtain ⟨a', branches', c', type', rfl, ha', hbranches', hc'⟩ := h.trees.choice he
    rw [h.plain.exprPiece_choice, h.plain'.exprPiece_choice]
    have hbranch : List.Forall₂ R (branches.map D.branchPiece) (branches'.map D'.branchPiece) := by
      refine forall₂_map_of_forall_mem (fun b hb b' hbb' => ?_) hbranches'
      have htest := h.congruence.between " WHEN " " THEN " ((hbranches b hb).1 _ hbb'.1)
      exact h.congruence.append htest ((hbranches b hb).2 _ hbb'.2)
    have hsubject := h.congruence.led " " (rel_map_of_forall_mem ha ha')
    have hotherwise := h.congruence.led " ELSE " (rel_map_of_forall_mem hc hc')
    apply h.congruence.append _ (h.congruence.text " END")
    apply h.congruence.append _ hotherwise
    apply h.congruence.append _ (h.congruence.inOrder hbranch)
    exact h.congruence.append (h.congruence.text "CASE") hsubject
  existence q negated hq := by
    intro e' he
    obtain ⟨q', rfl, hq'⟩ := h.trees.existence he
    rw [h.plain.exprPiece_existence, h.plain'.exprPiece_existence]
    have hnot := h.congruence.append (h.congruence.textIf negated "NOT ")
      (h.congruence.text "EXISTS ")
    exact h.congruence.append hnot (h.congruence.parenthesized (hq q' hq'))
  scalar q hq := by
    intro e' he
    obtain ⟨q', rfl, hq'⟩ := h.trees.scalar he
    rw [h.plain.exprPiece_scalar, h.plain'.exprPiece_scalar]
    exact h.congruence.parenthesized (hq q' hq')
  nullary node := fun e' he => h.nullary he
  dialectUnary node a ha := fun e' he => h.dialectUnary he ha
  dialectBinary node a b ha hb := fun e' he => h.dialectBinary he ha hb
  variadic node operands hoperands := fun e' he => h.variadic he hoperands
  query q hcolumns hsources hpredicate hgroupKeys hgroupPredicate hsortKeys hlimit hoffset :=
    fun q' hq => h.clauses hq hcolumns hsources hpredicate hgroupKeys hgroupPredicate hsortKeys
      hlimit hoffset
  table schema name label := by
    intro s' hs
    obtain rfl := h.trees.table hs
    rw [h.plain.sourcePiece_table, h.plain'.sourcePiece_table, h.quote]
    exact h.congruence.append (h.congruence.text _) (h.label label)
  derived q label hq := by
    intro s' hs
    obtain ⟨q', rfl, hq'⟩ := h.trees.derived hs
    rw [h.plain.sourcePiece_derived, h.plain'.sourcePiece_derived]
    exact h.congruence.append (h.congruence.parenthesized (hq q' hq')) (h.label (some label))
  innerJoin s condition hs hcondition := by
    intro s' hjoin
    obtain ⟨t, condition', rfl, ht, hcondition'⟩ := h.trees.innerJoin hjoin
    rw [h.plain.sourcePiece_innerJoin, h.plain'.sourcePiece_innerJoin]
    exact h.congruence.append (h.congruence.between "INNER JOIN " " ON " (hs t ht))
      (hcondition condition' hcondition')
  leftJoin s condition hs hcondition := by
    intro s' hjoin
    obtain ⟨t, condition', rfl, ht, hcondition'⟩ := h.trees.leftJoin hjoin
    rw [h.plain.sourcePiece_leftJoin, h.plain'.sourcePiece_leftJoin]
    exact h.congruence.append (h.congruence.between "LEFT JOIN " " ON " (hs t ht))
      (hcondition condition' hcondition')
  crossJoin s hs := by
    intro s' hjoin
    obtain ⟨t, rfl, ht⟩ := h.trees.crossJoin hjoin
    rw [h.plain.sourcePiece_crossJoin, h.plain'.sourcePiece_crossJoin]
    exact h.congruence.append (h.congruence.text _) (hs t ht)
  crossApply s hs := by
    intro s' happly
    obtain ⟨t, rfl, ht⟩ := h.trees.crossApply happly
    rw [h.plain.sourcePiece_crossApply, h.plain'.sourcePiece_crossApply]
    exact h.crossApply happly (hs t ht)
  outerApply s hs := by
    intro s' happly
    obtain ⟨t, rfl, ht⟩ := h.trees.outerApply happly
    rw [h.plain.sourcePiece_outerApply, h.plain'.sourcePiece_outerApply]
    exact h.outerApply happly (hs t ht)

/-- Corresponding expressions have related pieces. -/
theorem exprPiece {e : Expr X} {e' : Expr Y} (he : E e e') : R (D.exprPiece e) (D'.exprPiece e') :=
  h.steps.ofExpr e e' he

/-- Corresponding queries have related pieces. -/
theorem queryPiece {q : Query X} {q' : Query Y} (hq : Q q q') :
    R (D.queryPiece q) (D'.queryPiece q') :=
  h.steps.ofQuery q q' hq

/-- Corresponding row sources have related pieces. -/
theorem sourcePiece {s : Source X} {s' : Source Y} (hs : S s s') :
    R (D.sourcePiece s) (D'.sourcePiece s') :=
  h.steps.ofSource s s' hs

end Simulation

end SqlScribe
