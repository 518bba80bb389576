import SqlScribe.Proofs.DialectPiece
import SqlScribe.Proofs.Simulation

/-!
# Rules that keep congruences

The rules of standard SQL and of MySQL turn related parts into related pieces, for every congruence.
What is special about a relation comes in at three places only: where a rule fails, where it notes
an event, and where MySQL decides about an addition of strings or a cast.

Trees over one signature that have the same nodes of the dialect's own (`Tree.OwnNodes`) are
simulated in MySQL up to conversions and limits (`MySql.simulation`). If they have the same nodes
everywhere (`Tree.Nodewise`), only the conversions remain (`MySql.simulation_nodewise`).
-/

namespace SqlScribe

open Emit Piece

variable {X : Signature} {R : Piece → Piece → Prop}

/-! ## Standard SQL -/

namespace Standard

theorem call_congr (hR : Congruence R) (name : String) (niladic : Bool) {ps ps' : List Piece}
    (hps : List.Forall₂ R ps ps') :
    R (call name (ps.map emit) niladic).piece (call name (ps'.map emit) niladic).piece := by
  rw [call_emit, call_emit, piece_emit, piece_emit]
  cases niladic with
  | true => exact hR.text name
  | false => exact hR.append (hR.text name) (hR.parenthesized (hR.separated ", " hps))

/-- Conversions are left out: they depend on their types. -/
theorem unary_congr {Y : Signature} (hR : Congruence R) {op : UnaryOp} (hop : op ≠ .convert)
    {a : Expr X} {a' : Expr Y} (ha : a'.isOperator = a.isOperator) {p p' : Piece} (hp : R p p')
    (type type' : Option SqlType) :
    R (unary op ⟨a, emit p⟩ type).piece (unary op ⟨a', emit p'⟩ type').piece := by
  have hoperand := hR.operand ha hp
  cases op with
  | not =>
    rw [unary_not_emit, unary_not_emit, piece_emit, piece_emit]
    exact hR.append (hR.text _) (hR.parenthesized hp)
  | negate =>
    rw [unary_negate_emit, unary_negate_emit, piece_emit, piece_emit]
    exact hR.append (hR.text _) hoperand
  | convert => exact absurd rfl hop
  | isNull =>
    rw [unary_isNull_emit, unary_isNull_emit, piece_emit, piece_emit]
    exact hR.append hoperand (hR.text _)
  | isNotNull =>
    rw [unary_isNotNull_emit, unary_isNotNull_emit, piece_emit, piece_emit]
    exact hR.append hoperand (hR.text _)

theorem binary_congr {Y : Signature} (hR : Congruence R) (op : BinaryOp) {a b : Expr X}
    {a' b' : Expr Y} (ha : a'.isOperator = a.isOperator) (hb : b'.isOperator = b.isOperator)
    {p p' q q' : Piece} (hp : R p p') (hq : R q q') :
    R (binary op ⟨a, emit p⟩ ⟨b, emit q⟩).piece (binary op ⟨a', emit p'⟩ ⟨b', emit q'⟩).piece := by
  rw [binary_emit, binary_emit, piece_emit, piece_emit]
  exact hR.append (hR.append (hR.operand ha hp) (hR.text _)) (hR.operand hb hq)

theorem rowLimit_congr (hR : Congruence R) {limit limit' offset offset' : Option Piece}
    (hlimit : Option.Rel R limit limit') (hoffset : Option.Rel R offset offset') :
    R (rowLimit (limit.map emit) (offset.map emit)).piece
      (rowLimit (limit'.map emit) (offset'.map emit)).piece := by
  rw [rowLimit_emit, rowLimit_emit, piece_emit, piece_emit]
  have hsome : offset'.isSome = offset.isSome := by cases hoffset <;> rfl
  rw [hsome]
  refine hR.append ?_ ?_
  · cases hoffset with
    | none => exact hR.empty
    | some hq => exact hR.between "OFFSET " " ROWS" hq
  · cases hlimit with
    | none => exact hR.empty
    | some hp =>
      have hlead := hR.append (hR.textIf offset.isSome " ") (hR.text "FETCH FIRST ")
      exact hR.append (hR.append hlead hp) (hR.text " ROWS ONLY")

theorem crossApply_congr (hR : Congruence R) {p p' : Piece} (hp : R p p') :
    R (crossApply (emit p)).piece (crossApply (emit p')).piece := by
  rw [crossApply_emit, crossApply_emit, piece_emit, piece_emit]
  exact hR.append (hR.text _) hp

theorem outerApply_congr (hR : Congruence R) {p p' : Piece} (hp : R p p') :
    R (outerApply (emit p)).piece (outerApply (emit p')).piece := by
  rw [outerApply_emit, outerApply_emit, piece_emit, piece_emit]
  exact hR.append (hR.text _) hp

end Standard

/-! ## MySQL -/

namespace MySql

theorem call_congr (hR : Congruence R) (name : String) (niladic : Bool) {ps ps' : List Piece}
    (hps : List.Forall₂ R ps ps') :
    R (call name (ps.map emit) niladic).piece (call name (ps'.map emit) niladic).piece := by
  unfold call
  split
  · rw [write_eq_emit, piece_emit]
    exact hR.text name
  · exact Standard.call_congr hR name niladic hps

/-- Operators other than conversions do not depend on the server or its rules. -/
theorem unary_congr (hR : Congruence R) {rules rules' : CastRules} {support support' : CastSupport}
    {op : UnaryOp} (hop : op ≠ .convert) {a a' : Expr signature}
    (ha : a'.isOperator = a.isOperator) {p p' : Piece} (hp : R p p') (type type' : Option SqlType) :
    R (unary rules support op ⟨a, emit p⟩ type).piece
      (unary rules' support' op ⟨a', emit p'⟩ type').piece := by
  rw [unary_eq_standard _ _ _ fun h => absurd h hop,
    unary_eq_standard _ _ _ fun h => absurd h hop]
  exact Standard.unary_congr hR hop ha hp type type'

/-- The plans may differ in the keyword that the server refused. -/
theorem castPiece_congr (hR : Congruence R) {plan plan' : CastPlan}
    (hkeyword : plan'.keyword = plan.keyword)
    (hdecimal : plan'.isThroughDecimal = plan.isThroughDecimal) {p p' : Piece} (hp : R p p') :
    R (castPiece plan p) (castPiece plan' p') := by
  cases plan with
  | direct keyword =>
    cases plan' with
    | direct keyword' =>
      obtain rfl : keyword' = keyword := hkeyword
      exact hR.between _ _ hp
    | throughDecimal => exact nomatch hdecimal
  | throughDecimal =>
    cases plan' with
    | direct => exact nomatch hdecimal
    | throughDecimal =>
      exact hR.parenthesized (hR.append (hR.between _ _ hp) (hR.text _))

/-- Related operands make related operations, if both sums are of strings or neither is. -/
theorem binary_congr (hR : Congruence R) (op : BinaryOp) {a b a' b' : Expr signature}
    {kind kind' : ScalarKind}
    (hconcat : isConcatenation op a' b' kind' = isConcatenation op a b kind)
    (ha : a'.isOperator = a.isOperator) (hb : b'.isOperator = b.isOperator) {p p' q q' : Piece}
    (hp : R p p') (hq : R q q') :
    R (binary op ⟨a, emit p⟩ ⟨b, emit q⟩ kind).piece
      (binary op ⟨a', emit p'⟩ ⟨b', emit q'⟩ kind').piece := by
  unfold binary
  simp only [hconcat]
  split
  · have hargs : List.Forall₂ R [p, q] [p', q'] := .cons hp (.cons hq .nil)
    exact Standard.call_congr hR "CONCAT" false hargs
  · exact Standard.binary_congr hR op ha hb hp hq

/-- The event of a limit that is supplied has to be related to itself only if one is supplied. -/
theorem rowLimit_congr (hR : Congruence R) {limit limit' offset offset' : Option Piece}
    (hlimit : Option.Rel R limit limit') (hoffset : Option.Rel R offset offset')
    (hevent : limit = none → offset.isSome = true →
      R (event .limitSupplied) (event .limitSupplied)) :
    R (rowLimit (limit.map emit) (offset.map emit)).piece
      (rowLimit (limit'.map emit) (offset'.map emit)).piece := by
  rw [rowLimit_emit, rowLimit_emit, piece_emit, piece_emit]
  cases hlimit with
  | none =>
    cases hoffset with
    | none => exact hR.empty
    | some hq =>
      have hsupplied := hR.append (hevent rfl rfl)
        (hR.text ("LIMIT " ++ Workaround.largestLimitText))
      exact hR.append (hR.append hsupplied (hR.text " OFFSET ")) hq
  | some hp =>
    have hlimited := hR.append (hR.text "LIMIT ") hp
    cases hoffset with
    | none => exact hlimited
    | some hq => exact hR.append (hR.append hlimited (hR.text " OFFSET ")) hq

theorem lateral_congr (hR : Congruence R) (word : String) {p p' : Piece} (hp : R p p') :
    R (lateral word (emit p)).piece (lateral word (emit p')).piece := by
  rw [lateral_emit, lateral_emit, piece_emit, piece_emit]
  exact hR.between word " ON TRUE" hp

theorem dialectUnary_congr (hR : Congruence R) (hfail : ∀ e, R (fail e) (fail e))
    (node : UnaryNode) {p p' : Piece} (hp : R p p') :
    R (dialectUnary node (emit p)).piece (dialectUnary node (emit p')).piece := by
  cases node with
  | collate charset collation =>
    change R (collate charset collation (emit p)).piece (collate charset collation (emit p')).piece
    rw [collate_emit, collate_emit, piece_emit, piece_emit]
    split
    · exact hfail _
    · split
      · exact hfail _
      · exact hR.between _ _ hp

theorem dialectBinary_congr (hR : Congruence R) (hfail : ∀ e, R (fail e) (fail e))
    (node : BinaryNode) {p p' q q' : Piece} (hp : R p p') (hq : R q q') :
    R (dialectBinary node (emit p) (emit q)).piece
      (dialectBinary node (emit p') (emit q')).piece := by
  cases node with
  | regexp =>
    rw [regexp_emit, regexp_emit, piece_emit, piece_emit]
    exact hR.append (hR.append hp (hR.text _)) hq
  | integerDivision =>
    rw [integerDivision_emit, integerDivision_emit, piece_emit, piece_emit]
    exact hR.append (hR.append (hR.parenthesized hp) (hR.text _)) (hR.parenthesized hq)
  | nonOptimizedEqual =>
    rw [nonOptimizedEqual_eq_emit, nonOptimizedEqual_eq_emit, piece_emit]
    exact hfail _

theorem variadic_congr (hR : Congruence R) (node : VariadicNode) {ps ps' : List Piece}
    (hps : List.Forall₂ R ps ps') :
    R (variadic node (ps.map emit)).piece (variadic node (ps'.map emit)).piece := by
  cases node with
  | sideBySide =>
    rw [sideBySide_emit, sideBySide_emit, piece_emit, piece_emit]
    exact hR.separated " " hps

end MySql

/-! ## Trees with the same nodes -/

/-- The trees correspond, and have the same calls and the same nodes of the dialect's own. -/
structure Tree.OwnNodes (E : Expr X → Expr X → Prop) (Q : Query X → Query X → Prop)
    (S : Source X → Source X → Prop) : Prop extends Tree.Correspondence E Q S where
  call : ∀ {name args niladic type e'}, E (.call name args niladic type) e' →
    ∃ args' type', e' = .call name args' niladic type' ∧ List.Forall₂ E args args'
  nullary : ∀ {node e'}, E (.nullary node) e' → e' = .nullary node
  dialectUnary : ∀ {node a e'}, E (.dialectUnary node a) e' →
    ∃ a', e' = .dialectUnary node a' ∧ E a a'
  dialectBinary : ∀ {node a b e'}, E (.dialectBinary node a b) e' →
    ∃ a' b', e' = .dialectBinary node a' b' ∧ E a a' ∧ E b b'
  variadic : ∀ {node operands e'}, E (.variadic node operands) e' →
    ∃ operands', e' = .variadic node operands' ∧ List.Forall₂ E operands operands'

/-- The trees correspond and have the same nodes everywhere. -/
structure Tree.Nodewise (E : Expr X → Expr X → Prop) (Q : Query X → Query X → Prop)
    (S : Source X → Source X → Prop) : Prop extends Tree.OwnNodes E Q S where
  unary : ∀ {op a type e'}, E (.unary op a type) e' →
    ∃ a' type', e' = .unary op a' type' ∧ E a a'
  limit : ∀ {q q'}, Q q q' → Option.Rel E q.limit q'.limit
  offset : ∀ {q q'}, Q q q' → Option.Rel E q.offset q'.offset

theorem rel_eq_refl {α : Type} (x : Option α) : Option.Rel Eq x x := by
  cases x with
  | none => exact .none
  | some a => exact .some rfl

/-- A tree corresponds to itself. -/
theorem Tree.nodewise_eq : Tree.Nodewise (X := X) Eq Eq Eq where
  isOperator h := by rw [h]
  literal h := ⟨_, h.symm⟩
  parameter h := ⟨_, h.symm⟩
  column h := ⟨_, h.symm⟩
  raw h := h.symm
  binary h := ⟨_, _, _, _, h.symm, rfl, rfl⟩
  like h := ⟨_, _, _, h.symm, rfl, rfl, rel_eq_refl _⟩
  member h := ⟨_, _, h.symm, rfl, List.forall₂_same.2 fun _ _ => rfl⟩
  choice h := ⟨_, _, _, _, h.symm, rel_eq_refl _,
    List.forall₂_same.2 fun _ _ => ⟨rfl, rfl⟩, rel_eq_refl _⟩
  existence h := ⟨_, h.symm, rfl⟩
  scalar h := ⟨_, h.symm, rfl⟩
  query := by
    rintro q _ rfl
    exact
      { distinct := rfl
        columns := List.forall₂_same.2 fun _ _ => ⟨rfl, rfl⟩
        sources := List.forall₂_same.2 fun _ _ => rfl
        predicate := rel_eq_refl _
        groupKeys := List.forall₂_same.2 fun _ _ => rfl
        groupPredicate := rel_eq_refl _
        sortKeys := List.forall₂_same.2 fun _ _ => ⟨rfl, rfl⟩ }
  table h := h.symm
  derived h := ⟨_, h.symm, rfl⟩
  innerJoin h := ⟨_, _, h.symm, rfl, rfl⟩
  leftJoin h := ⟨_, _, h.symm, rfl, rfl⟩
  crossJoin h := ⟨_, h.symm, rfl⟩
  crossApply h := ⟨_, h.symm, rfl⟩
  outerApply h := ⟨_, h.symm, rfl⟩
  call h := ⟨_, _, h.symm, List.forall₂_same.2 fun _ _ => rfl⟩
  nullary h := h.symm
  dialectUnary h := ⟨_, h.symm, rfl⟩
  dialectBinary h := ⟨_, _, h.symm, rfl, rfl⟩
  variadic h := ⟨_, h.symm, List.forall₂_same.2 fun _ _ => rfl⟩
  unary h := ⟨_, _, h.symm, rfl⟩
  limit h := h ▸ rel_eq_refl _
  offset h := h ▸ rel_eq_refl _

/-- The restriction of the rows is related in two dialects if their rules for it are. -/
theorem Tree.Nodewise.rowLimitLine {E : Expr X → Expr X → Prop} {Q : Query X → Query X → Prop}
    {S : Source X → Source X → Prop} (htrees : Tree.Nodewise E Q S) {D D' : Dialect X}
    (hD : D.Plain) (hD' : D'.Plain) (hR : Congruence R)
    (hrule : ∀ {limit limit' offset offset'}, Option.Rel R limit limit' →
      Option.Rel R offset offset' → R (D.rowLimit (limit.map emit) (offset.map emit)).piece
        (D'.rowLimit (limit'.map emit) (offset'.map emit)).piece)
    {q q' : Query X} (hq : Q q q')
    (hlimit : ∀ e ∈ q.limit, ∀ e', E e e' → R (D.exprPiece e) (D'.exprPiece e'))
    (hoffset : ∀ e ∈ q.offset, ∀ e', E e e' → R (D.exprPiece e) (D'.exprPiece e')) :
    R (D.rowLimitLine q) (D'.rowLimitLine q') := by
  have hlimit' := htrees.limit hq
  have hoffset' := htrees.offset hq
  have hlimited : q'.isLimited = q.isLimited := by
    unfold Query.isLimited
    have hsome : ∀ {x x' : Option (Expr X)}, Option.Rel E x x' → x'.isSome = x.isSome :=
      fun hx => by cases hx <;> rfl
    rw [hsome hlimit', hsome hoffset']
  refine hR.led "\n" ?_
  rw [hlimited]
  split
  · rw [hD.rowLimitPiece_eq, hD'.rowLimitPiece_eq]
    exact .some (hrule (rel_map_of_forall_mem hlimit hlimit')
      (rel_map_of_forall_mem hoffset hoffset'))
  · exact .none

/-! ## Simulations -/

/-- Standard SQL simulates itself, if it does at conversions. -/
theorem Dialect.ansi_simulation {E : Expr .none → Expr .none → Prop}
    {Q : Query .none → Query .none → Prop} {S : Source .none → Source .none → Prop}
    (hR : Congruence R) (htrees : Tree.Nodewise E Q S)
    (hconvert : ∀ {a type a' type'}, E (.unary .convert a type) (.unary .convert a' type') →
      ∀ {p p'}, R p p' → R (Standard.unary .convert ⟨a, emit p⟩ type).piece
        (Standard.unary .convert ⟨a', emit p'⟩ type').piece) :
    Simulation Dialect.ansi Dialect.ansi R E Q S where
  congruence := hR
  trees := htrees.toCorrespondence
  plain := ansi_plain
  plain' := ansi_plain
  quote := rfl
  escape := rfl
  call {name args niladic type e'} he hargs := by
    obtain ⟨args', type', rfl, hargs'⟩ := htrees.call he
    rw [ansi_plain.exprPiece_call, ansi_plain.exprPiece_call]
    exact Standard.call_congr hR name niladic (forall₂_map_of_forall_mem hargs hargs')
  unary {op a type e'} he ha := by
    obtain ⟨a', type', rfl, ha'⟩ := htrees.unary he
    rw [ansi_plain.exprPiece_unary, ansi_plain.exprPiece_unary]
    by_cases hop : op = .convert
    · subst hop
      exact hconvert he (ha a' ha')
    · exact Standard.unary_congr hR hop (htrees.isOperator ha') (ha a' ha') type type'
  binary _ ha hb _ _ _ _ hp hq :=
    Standard.binary_congr hR _ (htrees.isOperator ha) (htrees.isOperator hb) hp hq
  nullary {node} := nomatch node
  dialectUnary {node} := nomatch node
  dialectBinary {node} := nomatch node
  variadic {node} := nomatch node
  rowLimit hq hlimit hoffset :=
    htrees.rowLimitLine ansi_plain ansi_plain hR (Standard.rowLimit_congr hR) hq hlimit hoffset
  crossApply _ _ _ hp := Standard.crossApply_congr hR hp
  outerApply _ _ _ hp := Standard.outerApply_congr hR hp

namespace MySql

variable {E : Expr signature → Expr signature → Prop} {Q : Query signature → Query signature → Prop}
  {S : Source signature → Source signature → Prop} {support support' : CastSupport}
  {rules rules' : CastRules}

/-- MySQL, on one server by some rules, simulates MySQL on another by other rules, if it does at
nodes with one operand and at limits. -/
theorem simulation (hR : Congruence R) (hfail : ∀ e, R (fail e) (fail e))
    (htrees : Tree.OwnNodes E Q S)
    (hconcat : ∀ {op a b kind type a' b' kind' type'},
      E (.binary op a b kind type) (.binary op a' b' kind' type') → E a a' → E b b' →
      isConcatenation op a' b' kind' = isConcatenation op a b kind)
    (hunary : ∀ {op a type e'}, E (.unary op a type) e' →
      (∀ a', E a a' →
        R ((dialect support rules).exprPiece a) ((dialect support' rules').exprPiece a')) →
      R ((dialect support rules).exprPiece (.unary op a type))
        ((dialect support' rules').exprPiece e'))
    (hrowLimit : ∀ {q q'}, Q q q' →
      (∀ e ∈ q.limit, ∀ e', E e e' →
        R ((dialect support rules).exprPiece e) ((dialect support' rules').exprPiece e')) →
      (∀ e ∈ q.offset, ∀ e', E e e' →
        R ((dialect support rules).exprPiece e) ((dialect support' rules').exprPiece e')) →
      R ((dialect support rules).rowLimitLine q) ((dialect support' rules').rowLimitLine q')) :
    Simulation (dialect support rules) (dialect support' rules') R E Q S where
  congruence := hR
  trees := htrees.toCorrespondence
  plain := dialect_plain support rules
  plain' := dialect_plain support' rules'
  quote := rfl
  escape := rfl
  call {name args niladic type e'} he hargs := by
    obtain ⟨args', type', rfl, hargs'⟩ := htrees.call he
    rw [(dialect_plain _ _).exprPiece_call, (dialect_plain _ _).exprPiece_call]
    exact call_congr hR name niladic (forall₂_map_of_forall_mem hargs hargs')
  unary := hunary
  binary he ha hb _ _ _ _ hp hq :=
    binary_congr hR _ (hconcat he ha hb) (htrees.isOperator ha) (htrees.isOperator hb) hp hq
  nullary {node} := nomatch node
  dialectUnary {node a e'} he ha := by
    obtain ⟨a', rfl, ha'⟩ := htrees.dialectUnary he
    rw [(dialect_plain _ _).exprPiece_dialectUnary, (dialect_plain _ _).exprPiece_dialectUnary]
    exact dialectUnary_congr hR hfail node (ha a' ha')
  dialectBinary {node a b e'} he ha hb := by
    obtain ⟨a', b', rfl, ha', hb'⟩ := htrees.dialectBinary he
    rw [(dialect_plain _ _).exprPiece_dialectBinary, (dialect_plain _ _).exprPiece_dialectBinary]
    exact dialectBinary_congr hR hfail node (ha a' ha') (hb b' hb')
  variadic {node operands e'} he hoperands := by
    obtain ⟨operands', rfl, hoperands'⟩ := htrees.variadic he
    rw [(dialect_plain _ _).exprPiece_variadic, (dialect_plain _ _).exprPiece_variadic]
    exact variadic_congr hR node (forall₂_map_of_forall_mem hoperands hoperands')
  rowLimit := hrowLimit
  crossApply _ _ _ hp := lateral_congr hR _ hp
  outerApply _ _ _ hp := lateral_congr hR _ hp

/-- On trees with the same nodes everywhere, it is enough to look at conversions. -/
theorem simulation_nodewise (hR : Congruence R) (hfail : ∀ e, R (fail e) (fail e))
    (hevent : R (event .limitSupplied) (event .limitSupplied)) (htrees : Tree.Nodewise E Q S)
    (hconcat : ∀ {op a b kind type a' b' kind' type'},
      E (.binary op a b kind type) (.binary op a' b' kind' type') → E a a' → E b b' →
      isConcatenation op a' b' kind' = isConcatenation op a b kind)
    (hconvert : ∀ {a type a' type'}, E (.unary .convert a type) (.unary .convert a' type') →
      ∀ {p p'}, R p p' → R (unary rules support .convert ⟨a, emit p⟩ type).piece
        (unary rules' support' .convert ⟨a', emit p'⟩ type').piece) :
    Simulation (dialect support rules) (dialect support' rules') R E Q S := by
  refine simulation hR hfail htrees.toOwnNodes hconcat ?_ ?_
  · intro op a type e' he ha
    obtain ⟨a', type', rfl, ha'⟩ := htrees.unary he
    rw [(dialect_plain _ _).exprPiece_unary, (dialect_plain _ _).exprPiece_unary]
    by_cases hop : op = .convert
    · subst hop
      exact hconvert he (ha a' ha')
    · exact unary_congr hR hop (htrees.isOperator ha') (ha a' ha') type type'
  · intro q q' hq hlimit hoffset
    refine htrees.rowLimitLine (dialect_plain _ _) (dialect_plain _ _) hR ?_ hq hlimit hoffset
    exact fun hlimit hoffset => rowLimit_congr hR hlimit hoffset fun _ _ => hevent

end MySql

end SqlScribe
