import SqlScribe.Proofs.Mending
import SqlScribe.Proofs.Reports

/-!
# Where a failed text breaks off

A failed attempt to write a tree leaves some text. Mend the tree with a parameter in the place of
its first faulty node: its text goes on where the failed one broke off, and it goes on with the
parameter. So the faulty node itself has added nothing to the text.

The invariant is `Piece.Mended`, which holds of single slots and of pieces side by side, and so by
induction over stops of whole trees (`Follows.mended_stop`).
-/

namespace SqlScribe

open Piece

variable {X : Signature}

/-! ## Mended texts -/

namespace Piece

/-- There is nothing to mend and the piece does not fail; or it fails, and the text of the mended
piece goes on behind it with a name. -/
def Mended (name : String) (p : Piece) : Option Piece → Prop
  | none => p.error = none
  | some p' => p.error.isSome ∧ ∃ rest, p'.sql = p.sql ++ name ++ rest

theorem exists_sql_append (p q : Piece) : ∃ rest, (p ++ q).sql = p.sql ++ rest := by
  cases hp : p.error with
  | none =>
    rw [append_of_none hp]
    exact ⟨q.sql, rfl⟩
  | some e =>
    rw [append_of_some hp]
    exact ⟨"", by simp⟩

/-- Of two pieces the first is mended if it failed, and else the second. -/
theorem Mended.append {name : String} {p q : Piece} {p' q' : Option Piece}
    (hp : Mended name p p') (hq : Mended name q q') :
    Mended name (p ++ q) ((p'.map (· ++ q)).or (q'.map (p ++ ·))) := by
  cases p' with
  | none =>
    have hp : p.error = none := hp
    cases q' with
    | none =>
      have hq : q.error = none := hq
      change (p ++ q).error = none
      rw [error_append, hp, hq]
      rfl
    | some q' =>
      obtain ⟨herror, rest, hrest⟩ := hq
      refine ⟨by rw [error_append, hp, Option.none_or]; exact herror, rest, ?_⟩
      simp only [append_of_none hp]
      rw [hrest, String.append_assoc, String.append_assoc, String.append_assoc]
  | some p' =>
    obtain ⟨herror, rest, hrest⟩ := hp
    obtain ⟨e, he⟩ := Option.isSome_iff_exists.1 herror
    obtain ⟨rest', hrest'⟩ := exists_sql_append p' q
    rw [append_of_some he]
    refine ⟨herror, rest ++ rest', ?_⟩
    rw [hrest', hrest, String.append_assoc]

end Piece

/-- The faulty expressions have a parameter of the given name as their stand-in. -/
structure Mending.Replaces (m : Mending X) (L : Scheme X) (name : String) : Prop where
  faulty : ∀ stop e, L.layout stop = .error e →
    ∃ faulty type, stop = .expr faulty ∧ m.standIn? faulty = some (.parameter name type)
  sound : ∀ e l, L.expr e = .ok l → m.standIn? e = none

namespace Dialect.Follows

variable {D : Dialect X} {L : Scheme X} {m : Mending X} {r : Route} {name : String}

/-- A row is mended in the first of its parts that failed. -/
theorem mended_slots {row : Row X}
    (hparts : ∀ part ∈ row.parts,
      Mended name (D.stopPiece part) ((part.mend? m r).map D.stopPiece)) :
    Mended name (D.slotsPiece D.stopPiece row)
      ((row.mend? m r).map (D.slotsPiece D.stopPiece)) := by
  induction row with
  | nil => exact rfl
  | cons slot row ih =>
    have hrow := ih fun part hpart => hparts part (Row.mem_parts_cons hpart)
    have hslot : Mended name (slot.piece D D.stopPiece)
        ((slot.mend? m r).map (Slot.piece D D.stopPiece)) := by
      cases slot with
      | part stop =>
        rw [Slot.mend?, Option.map_map]
        exact hparts stop (by simp)
      | _ => exact rfl
    have happend := hslot.append hrow
    simp only [Option.map_map] at happend
    simp only [Row.mend?, mendFirst?, Option.map_or, Option.map_map]
    exact happend

/-- The text of a mended stop goes on with the stand-in where the text of the stop broke off. -/
theorem mended_stop (h : D.Follows L fun _ p => p) (hwalks : L.Walks r) (hkeeps : m.Keeps r L)
    (hreplaces : m.Replaces L name) (stop : Stop X) :
    Mended name (D.stopPiece stop) ((stop.mend? m r).map D.stopPiece) := by
  induction stop using Stop.induction r with
  | step stop ih =>
    have hpiece := h.stopPiece_bare
    rw [hpiece stop]
    cases hlayout : L.layout stop with
    | error e =>
      -- The stop is faulty itself, and the piece of its error has no text.
      obtain ⟨faulty, type, rfl, hstandIn⟩ := hreplaces.faulty stop e hlayout
      have hmend : (Stop.expr faulty).mend? m r = some (.expr (.parameter name type)) := by
        rw [Stop.mend?, Expr.mend?, hstandIn]
        rfl
      rw [hmend, Option.map_some, hpiece]
      exact ⟨rfl, "", by simp [layoutPiece, laid, Scheme.layout, Scheme.expr, slotsPiece,
        Piece.inOrder, Piece.text, Piece.fail]⟩
    | ok layout =>
      -- A stop with a layout is not replaced, so what is mended is one of its slots.
      have hinside : stop.mend? m r = stop.mendInside? m r := by
        cases stop with
        | expr e =>
          rw [Stop.mend?, Expr.mend?, hreplaces.sound e layout hlayout]
          rfl
        | _ => rfl
      have hmended : (stop.mendInside? m r).map D.stopPiece =
          (layout.slots.mend? m r).map fun slots =>
            D.layoutPiece D.stopPiece (.ok { layout with slots }) := by
        have hmap := congrArg (Option.map (D.layoutPiece D.stopPiece))
          (hkeeps.layout stop layout hlayout)
        rw [Option.map_map, Option.map_map] at hmap
        exact (congrArg (Option.map · _) (funext hpiece)).trans hmap
      have hslots := mended_slots (hwalks.layout_has stop layout hlayout ▸ ih)
      have hevents : Mended name (Piece.inOrder (layout.events.map .event)) none := by
        rw [inOrder_events]
        rfl
      have happend := hevents.append hslots
      rw [Option.map_map] at happend
      rw [hinside, hmended]
      exact happend

end Dialect.Follows

/-! ## MySQL -/

namespace MySql

/-- A faulty expression is replaced by a parameter of its type. -/
def parameterMending (rules : CastRules) (name : String) : Mending signature where
  standIn? e := (fault? rules (.expr e)).map fun _ => .parameter name e.type?
  isOperator_eq e e' h := by
    obtain ⟨error, hfault, rfl⟩ := Option.map_eq_some_iff.1 h
    cases e with
    | unary | dialectUnary | dialectBinary => rfl
    | _ => cases hfault
  isString_eq e e' h := by
    obtain ⟨error, hfault, rfl⟩ := Option.map_eq_some_iff.1 h
    cases e with
    | unary | dialectUnary | dialectBinary => rfl
    | _ => cases hfault

/-- The parameter stands in for exactly the faulty expressions. -/
theorem parameterMending_replaces (support : CastSupport) (rules : CastRules) (name : String) :
    (parameterMending rules name).Replaces (scheme support rules) name where
  faulty stop e hlayout := by
    have hfault : fault? rules stop = some e := by
      rw [← scheme_fault? support, Scheme.fault?, hlayout]
    cases stop with
    | expr faulty =>
      refine ⟨faulty, faulty.type?, rfl, ?_⟩
      simp [parameterMending, hfault]
    | _ => cases hfault
  sound e l hlayout := by
    have hfault : fault? rules (.expr e) = none := by
      rw [← scheme_fault? support, Scheme.fault?, Scheme.layout, hlayout]
    simp [parameterMending, hfault]

section

variable (m : Mending signature)

/-- Mending operands does not change whether a sum is one of strings. -/
theorem isConcatenation_mended {op : BinaryOp} {kind : ScalarKind} {a a' b b' : Expr signature}
    (ha : Mending.SameKind a a') (hb : Mending.SameKind b b') :
    isConcatenation op a' b' kind = isConcatenation op a b kind := by
  simp only [isConcatenation, ha.2, hb.2]

/-- The layout of an operator changes in one slot when its operand is mended. -/
theorem unary_mends (support : CastSupport) (rules : CastRules) (op : UnaryOp)
    (a : Expr signature) (type : Option SqlType) :
    m.Mends route (unaryLayout rules support op a type)
      ((a.mend? m route).map (unaryLayout rules support op · type)) := by
  cases op with
  | convert =>
    cases type with
    | none => exact Mending.mends_error _ _
    | some type =>
      obtain ⟨e, hlayout⟩ | ⟨plan, -, hlayout⟩ := convertLayout_cases rules support type
      · simp only [unaryLayout, hlayout]
        exact Mending.mends_error e _
      · simp only [unaryLayout, hlayout]
        rintro l ⟨⟩
        cases plan <;> simp [castRow, Function.comp_def]
  | _ =>
    refine Mending.mends_laid ?_
    simp [unaryLayout, Standard.unaryLayout, Mending.mend?_operand, Function.comp_def]

/-- The layout of an operator changes in one slot when one of its operands is mended. -/
theorem binary_mends (support : CastSupport) (rules : CastRules) (op : BinaryOp)
    (a b : Expr signature) (kind : ScalarKind) :
    m.Mends route ((scheme support rules).binary op a b kind)
      (((a.mend? m route).map ((scheme support rules).binary op · b kind)).or
        ((b.mend? m route).map ((scheme support rules).binary op a · kind))) := by
  -- Neither operand becomes a string, or stops being one, so the form of the sum stays.
  have hleft : (a.mend? m route).map ((scheme support rules).binary op · b kind) =
      (a.mend? m route).map fun a' =>
        laid (if isConcatenation op a b kind then
            .word "CONCAT" :: Row.parenthesized (Row.separated ", " [Row.expr a', Row.expr b])
          else Row.binary op a' b) := by
    refine Option.map_congr fun a' ha' => ?_
    simp only [scheme, isConcatenation_mended (Mending.sameKind ha') ⟨rfl, rfl⟩]
  have hright : (b.mend? m route).map ((scheme support rules).binary op a · kind) =
      (b.mend? m route).map fun b' =>
        laid (if isConcatenation op a b kind then
            .word "CONCAT" :: Row.parenthesized (Row.separated ", " [Row.expr a, Row.expr b'])
          else Row.binary op a b') := by
    refine Option.map_congr fun b' hb' => ?_
    simp only [scheme, isConcatenation_mended ⟨rfl, rfl⟩ (Mending.sameKind hb')]
  refine Mending.mends_laid ?_
  rw [hleft, hright]
  split
  · simp [Row.separated, Option.map_or, Function.comp_def]
  · simp [Row.binary, Mending.mend?_operand, Option.map_or, Function.comp_def]

/-- The layouts of MySQL change in the first slot that has something to mend. -/
theorem scheme_keeps (support : CastSupport) (rules : CastRules) :
    m.Keeps route (scheme support rules) where
  call name args niladic := by
    have hskips : route.skipsArgs name niladic =
        (Text.startsWith name variableSigil || niladic) := rfl
    refine Mending.mends_laid ?_
    cases hsigil : Text.startsWith name variableSigil <;> cases niladic <;>
      simp [hsigil, hskips, scheme, Row.call, Row.mend?_separated (Row.mend?_expr m route),
        Function.comp_def]
  unary := unary_mends m support rules
  binary := binary_mends m support rules
  rowLimit limit offset := by
    have hfirst : route.limitFirst = true := rfl
    rintro l hl
    cases limit <;> cases offset <;> cases hl <;>
      simp [Stop.mend?, Stop.mendInside?, hfirst, mendExpr?_eq, Scheme.layout, scheme,
        rowLimitLayout, laid, Option.map_or, Function.comp_def]
  crossApply s := Mending.mends_laid (by
    simp [scheme, Stop.mend?, Stop.mendInside?, Function.comp_def])
  outerApply s := Mending.mends_laid (by
    simp [scheme, Stop.mend?, Stop.mendInside?, Function.comp_def])
  nullary node := node.elim
  dialectUnary node a := by
    cases node with
    | collate charset collation =>
      change m.Mends route (collateLayout charset collation a)
        ((a.mend? m route).map (collateLayout charset collation))
      obtain ⟨e, hlayout⟩ | hlayout := collateLayout_cases charset collation
      · rw [hlayout]
        exact Mending.mends_error e _
      · rw [hlayout, funext hlayout]
        exact Mending.mends_laid (by simp [Function.comp_def])
  dialectBinary node a b := by
    cases node with
    | nonOptimizedEqual => exact Mending.mends_error _ _
    | _ => exact Mending.mends_laid (by simp [scheme, Option.map_or, Function.comp_def])
  variadic node operands := by
    cases node
    refine Mending.mends_laid ?_
    simp [scheme, Row.mend?_separated (Row.mend?_expr m route), Function.comp_def]

end

end MySql

/-! ## Failed attempts -/

/-- A failed attempt to write a tree leaves a text that the mended tree, whether it is written to
its end or not, goes on with: its text starts with what was left and then the name. -/
def BreaksOff {α : Type} (name : String) (write : α → Emit) (mend? : α → Option α) : Prop :=
  ∀ t o error o', write t o = .error error o' →
    ∃ t' rest, mend? t = some t' ∧ (EmitM.outcome (write t') o).2 = o'.sql ++ name ++ rest

/-- What is written up to a fault is the start of the mended text, up to the stand-in. -/
theorem BreaksOff.of_mended {α : Type} {name : String} {write : α → Emit} {mend? : α → Option α}
    {piece : α → Piece} (hwrite : ∀ t, write t = emit (piece t))
    (h : ∀ t, Mended name (piece t) ((mend? t).map piece)) : BreaksOff name write mend? := by
  intro t o error o' hfails
  rw [hwrite] at hfails
  have herror := (emit_error_iff (piece t) o error).1 ⟨o', hfails⟩
  have hleft : o'.sql = o.sql ++ (piece t).sql := by
    rw [emit, herror] at hfails
    cases hfails
    rfl
  have hmended := h t
  cases hmend : mend? t with
  | none =>
    rw [hmend] at hmended
    cases herror.symm.trans hmended
  | some t' =>
    rw [hmend] at hmended
    obtain ⟨-, rest, hrest⟩ := hmended
    have htext : (EmitM.outcome (write t') o).2 = o.sql ++ (piece t').sql := by
      rw [hwrite, EmitM.outcome, emit]
      cases (piece t').error <;> rfl
    refine ⟨t', rest, rfl, ?_⟩
    rw [htext, hrest, hleft, String.append_assoc, String.append_assoc, String.append_assoc]

/-- In MySQL, with any cast rules and any support, a faulty node adds nothing to the text: a failed
attempt to write a tree leaves just what a parameter in the place of the first faulty node would
come behind. -/
theorem MySql.failed_text_ends_before_fault (support : CastSupport) (rules : CastRules)
    (name : String) :
    BreaksOff name (dialect support rules).writeExpr
      (Expr.mend? (parameterMending rules name) route) ∧
    BreaksOff name (dialect support rules).writeQuery
      (Query.mend? (parameterMending rules name) route) ∧
    BreaksOff name (dialect support rules).writeSource
      (Source.mend? (parameterMending rules name) route) := by
  have hplain := dialect_plain support rules
  have hmended := (dialect_follows support rules).mended_stop (scheme_walks support rules)
    (scheme_keeps (parameterMending rules name) support rules)
    (parameterMending_replaces support rules name)
  refine ⟨.of_mended hplain.writeExpr ?_, .of_mended hplain.writeQuery ?_,
    .of_mended hplain.writeSource ?_⟩
  · intro e
    have he := hmended (.expr e)
    rwa [Stop.mend?, Option.map_map] at he
  · intro q
    have hq := hmended (.query q)
    simp only [Stop.mend?, Stop.mendInside?, Option.map_map] at hq
    exact hq
  · intro s
    have hs := hmended (.source s)
    simp only [Stop.mend?, Stop.mendInside?, Option.map_map] at hs
    exact hs

/-- A comparison that has no text. -/
def MySql.textless : Expr signature :=
  .dialectBinary BinaryNode.nonOptimizedEqual (.raw "a") (.raw "b")

/-- A query whose predicate has no text, with some second column. -/
def MySql.doubtful (second : Expr signature) : Query signature :=
  { columns := [⟨.raw "x", none⟩, ⟨second, some "y"⟩], predicate := some textless }

/-- A query with two faulty nodes, mended at the first, gets as far as the second. -/
theorem MySql.second_column_breaks_off :
    let D := dialect ⟨true, true⟩ []
    D.writeQuery (doubtful textless) { sql := "-- " } =
        .error (.unsupportedOperator "NonOptimizedEqual") { sql := "-- SELECT x, " } ∧
      (EmitM.outcome (D.writeQuery (doubtful (.parameter "@p" none))) { sql := "-- " }).2 =
        "-- SELECT x, @p AS `y`\nWHERE " ∧
      ∃ q' rest, (doubtful textless).mend? (parameterMending [] "@p") route = some q' ∧
        (EmitM.outcome (D.writeQuery q') { sql := "-- " }).2 = "-- SELECT x, " ++ "@p" ++ rest := by
  intro D
  have hfails : D.writeQuery (doubtful textless) { sql := "-- " } =
      .error (.unsupportedOperator "NonOptimizedEqual") { sql := "-- SELECT x, " } := by rfl
  have hmended :
      (EmitM.outcome (D.writeQuery (doubtful (.parameter "@p" none))) { sql := "-- " }).2 =
        "-- SELECT x, @p AS `y`\nWHERE " := by rfl
  exact ⟨hfails, hmended,
    (failed_text_ends_before_fault ⟨true, true⟩ [] "@p").2.1 _ _ _ _ hfails⟩

end SqlScribe
