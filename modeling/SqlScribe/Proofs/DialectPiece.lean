import SqlScribe.Proofs.Appending

/-!
# The pieces of standard SQL and of MySQL

All of these dialects are plain. Each rule that MySQL replaces, and each node that it adds, turns
pieces into a piece as the lemmas `MySql.convert_emit` and its like say.
-/

namespace SqlScribe

open Emit Piece

/-! ## Standard SQL -/

namespace Standard

variable {X : Signature}

/-- A standard operator on one operand appends, since it does for each operator. -/
theorem unary_appends (op : UnaryOp) (e : Expr X) (p : Piece) (type : Option SqlType) :
    (unary op ⟨e, emit p⟩ type).Appends := by
  cases op with
  | not => exact .of_eq (unary_not_emit e p type)
  | negate => exact .of_eq (unary_negate_emit e p type)
  | convert =>
    cases type with
    | none => exact .of_eq (unary_convert_none _)
    | some type => exact .of_eq (unary_convert_emit e p type)
  | isNull => exact .of_eq (unary_isNull_emit e p type)
  | isNotNull => exact .of_eq (unary_isNotNull_emit e p type)

end Standard

/-- Standard SQL appends and puts nothing around its trees. -/
theorem Dialect.ansi_plain : Dialect.ansi.Plain where
  expr _ p := appends_emit p
  query _ p := appends_emit p
  source _ p := appends_emit p
  rowLimit limit offset := .of_eq (Standard.rowLimit_emit limit offset)
  call name args niladic := .of_eq (Standard.call_emit name args niladic)
  unary := Standard.unary_appends
  binary op a p b q _ := .of_eq (Standard.binary_emit op a b p q)
  crossApply p := .of_eq (Standard.crossApply_emit p)
  outerApply p := .of_eq (Standard.outerApply_emit p)
  nullary node := node.elim
  dialectUnary node := node.elim
  dialectBinary node := node.elim
  variadic node := node.elim
  expr_eq _ _ := rfl
  query_eq _ _ := rfl
  source_eq _ _ := rfl

theorem Dialect.plain_plain : Dialect.plain.Plain where
  expr _ p := appends_emit p
  query _ p := appends_emit p
  source _ p := appends_emit p
  rowLimit limit offset := .of_eq (Standard.rowLimit_emit limit offset)
  call name args niladic := .of_eq (Standard.call_emit name args niladic)
  unary := Standard.unary_appends
  binary op a p b q _ := .of_eq (Standard.binary_emit op a b p q)
  crossApply p := .of_eq (Standard.crossApply_emit p)
  outerApply p := .of_eq (Standard.outerApply_emit p)
  nullary _ := .of_eq (write_eq_emit _)
  dialectUnary node := node.elim
  dialectBinary node := node.elim
  variadic node := node.elim
  expr_eq _ _ := rfl
  query_eq _ _ := rfl
  source_eq _ _ := rfl

/-! ## MySQL -/

namespace MySql

/-- The piece of a call; the arguments of a system variable are left out, as those of a niladic
function are. -/
theorem call_emit (name : String) (args : List Piece) (niladic : Bool) :
    call name (args.map emit) niladic =
      emit (if Text.startsWith name variableSigil || niladic then text name else
        text name ++ (Piece.separated ", " args).parenthesized) := by
  unfold call
  rw [Standard.call_emit, write_eq_emit]
  cases Text.startsWith name variableSigil <;> rfl

/-- The piece of a cast by a plan. -/
def castPiece (plan : CastPlan) (p : Piece) : Piece :=
  match plan with
  | .direct keyword => text "CAST(" ++ p ++ text (" AS " ++ keyword ++ ")")
  | .throughDecimal _ =>
    (text "CAST(" ++ p ++ text (" AS " ++ Workaround.widestDecimal ++ ")") ++
      text " + 0e0").parenthesized

theorem castBy_emit (plan : CastPlan) (p : Piece) :
    castBy plan (emit p) = emit (castPiece plan p) := by
  cases plan with
  | direct keyword => exact Standard.cast_emit p keyword
  | throughDecimal requested =>
    simp only [castBy, castPiece, CastPlan.keyword, Standard.cast_emit, write_eq_emit,
      emit_bind_emit, parenthesized_emit]

/-- The piece of a conversion to a type. -/
def convertPiece (rules : CastRules) (support : CastSupport) (p : Piece) (type : SqlType) : Piece :=
  match rules.planFor support type.name with
  | .error e => Piece.fail e
  | .ok plan => Piece.inOrder ((plan.events type.name).map event) ++ castPiece plan p

/-- A cast that the server has a keyword for reports nothing. -/
theorem convertPiece_of_direct {rules : CastRules} {support : CastSupport} {type : SqlType}
    {keyword : String} (h : rules.planFor support type.name = .ok (.direct keyword)) (p : Piece) :
    convertPiece rules support p type = castPiece (.direct keyword) p := by
  rw [convertPiece, h]
  exact empty_append _

/-- A conversion adds its piece: the events of its plan and then the cast. -/
theorem convert_emit (rules : CastRules) (support : CastSupport) (p : Piece) (type : SqlType) :
    convert rules support (emit p) type = emit (convertPiece rules support p type) := by
  unfold convert convertPiece
  cases rules.planFor support type.name with
  | error e => exact throw_eq_emit e
  | ok plan =>
    have hevents : (plan.events type.name).map note =
        ((plan.events type.name).map event).map emit := by
      rw [List.map_map]
      exact List.map_congr_left fun e _ => note_eq_emit e
    simp only [hevents, inOrder_emit, castBy_emit, emit_bind_emit]

theorem unary_convert_emit (rules : CastRules) (support : CastSupport) (e : Expr signature)
    (p : Piece) (type : SqlType) :
    unary rules support .convert ⟨e, emit p⟩ (some type) =
      emit (convertPiece rules support p type) :=
  convert_emit rules support p type

/-- Only a conversion to a type differs from the standard. -/
theorem unary_eq_standard (rules : CastRules) (support : CastSupport) {op : UnaryOp}
    (part : Operand signature) {type : Option SqlType} (h : op = .convert → type = none) :
    unary rules support op part type = Standard.unary op part type := by
  unfold unary
  split
  · exact nomatch h rfl
  · rfl

/-- The piece of an operator between two operands; a sum of strings is a call of `CONCAT`. -/
theorem binary_emit (op : BinaryOp) (a b : Expr signature) (p q : Piece) (kind : ScalarKind) :
    binary op ⟨a, emit p⟩ ⟨b, emit q⟩ kind =
      emit (if isConcatenation op a b kind then
        text "CONCAT" ++ (Piece.separated ", " [p, q]).parenthesized
      else Piece.operand a p ++ text (" " ++ op.token ++ " ") ++ Piece.operand b q) := by
  unfold binary
  have hconcat := Standard.call_emit "CONCAT" [p, q] false
  rw [Standard.binary_emit, apply_ite emit]
  exact ite_congr rfl (fun _ => hconcat) fun _ => rfl

/-- The piece of a limit and an offset; an offset alone is reported and gets the largest limit. -/
theorem rowLimit_emit (limit offset : Option Piece) :
    rowLimit (limit.map emit) (offset.map emit) =
      emit (match limit, offset with
        | none, none => {}
        | some p, none => text "LIMIT " ++ p
        | none, some q =>
          event .limitSupplied ++ text ("LIMIT " ++ Workaround.largestLimitText) ++
            text " OFFSET " ++ q
        | some p, some q => text "LIMIT " ++ p ++ text " OFFSET " ++ q) := by
  cases limit <;> cases offset <;>
    simp only [rowLimit, Option.map_none, Option.map_some, write_eq_emit, note_eq_emit,
      nothing_eq_emit, emit_bind_emit, append_assoc]

theorem lateral_emit (word : String) (p : Piece) :
    lateral word (emit p) = emit (text word ++ p ++ text " ON TRUE") := by
  simp only [lateral, write_eq_emit, emit_bind_emit, append_assoc]

/-- The piece of a comparison by a collation; the character set is looked at before the
collation. -/
theorem collate_emit (charset collation : String) (p : Piece) :
    collate charset collation (emit p) =
      emit (if charset.isEmpty then Piece.fail (.missingPart "Collate" "charset")
        else if collation.isEmpty then Piece.fail (.missingPart "Collate" "collation")
        else text "CONVERT(" ++ p ++
          text (" USING " ++ charset ++ ") COLLATE " ++ collation)) := by
  simp only [collate, throw_eq_emit, write_eq_emit, emit_bind_emit, append_assoc]
  split
  · rfl
  · split <;> rfl

theorem regexp_emit (p q : Piece) :
    dialectBinary .regexp (emit p) (emit q) = emit (p ++ text " REGEXP " ++ q) := by
  simp only [dialectBinary, write_eq_emit, emit_bind_emit, append_assoc]

theorem integerDivision_emit (p q : Piece) :
    dialectBinary .integerDivision (emit p) (emit q) =
      emit (p.parenthesized ++ text " DIV " ++ q.parenthesized) := by
  simp only [dialectBinary, write_eq_emit, parenthesized_emit, emit_bind_emit, append_assoc]

/-- The comparison without a text fails before its operands are written. -/
theorem nonOptimizedEqual_eq_emit (a b : Emit) :
    dialectBinary .nonOptimizedEqual a b =
      emit (Piece.fail (.unsupportedOperator "NonOptimizedEqual")) :=
  throw_eq_emit _

theorem sideBySide_emit (ps : List Piece) :
    variadic .sideBySide (ps.map emit) = emit (Piece.separated " " ps) :=
  separated_emit " " ps

/-- An operator on one operand appends, whether it converts or not. -/
theorem unary_appends (rules : CastRules) (support : CastSupport) (op : UnaryOp)
    (e : Expr signature) (p : Piece) (type : Option SqlType) :
    (unary rules support op ⟨e, emit p⟩ type).Appends := by
  by_cases h : op = .convert → type = none
  · rw [unary_eq_standard rules support _ h]
    exact Standard.unary_appends op e p type
  · obtain ⟨rfl, hsome⟩ := Classical.not_imp.1 h
    obtain ⟨type, rfl⟩ := Option.ne_none_iff_exists'.1 hsome
    exact .of_eq (unary_convert_emit rules support e p type)

theorem dialectBinary_appends (node : BinaryNode) (p q : Piece) :
    (dialectBinary node (emit p) (emit q)).Appends := by
  cases node with
  | regexp => exact .of_eq (regexp_emit p q)
  | integerDivision => exact .of_eq (integerDivision_emit p q)
  | nonOptimizedEqual => exact .of_eq (nonOptimizedEqual_eq_emit _ _)

/-- MySQL appends and puts nothing around its trees, whatever the server casts to and by whatever
rules. -/
theorem dialect_plain (support : CastSupport) (rules : CastRules) :
    (dialect support rules).Plain where
  expr _ p := appends_emit p
  query _ p := appends_emit p
  source _ p := appends_emit p
  rowLimit limit offset := .of_eq (rowLimit_emit limit offset)
  call name args niladic := .of_eq (call_emit name args niladic)
  unary := unary_appends rules support
  binary op a p b q kind := .of_eq (binary_emit op a b p q kind)
  crossApply p := .of_eq (lateral_emit "JOIN LATERAL " p)
  outerApply p := .of_eq (lateral_emit "LEFT JOIN LATERAL " p)
  nullary := nofun
  dialectUnary
    | .collate charset collation, p => .of_eq (collate_emit charset collation p)
  dialectBinary := dialectBinary_appends
  variadic
    | .sideBySide, ps => .of_eq (sideBySide_emit ps)
  expr_eq _ _ := rfl
  query_eq _ _ := rfl
  source_eq _ _ := rfl

theorem exprPiece_convert (support : CastSupport) (rules : CastRules) (a : Expr signature)
    (type : SqlType) :
    (dialect support rules).exprPiece (.unary .convert a (some type)) =
      convertPiece rules support ((dialect support rules).exprPiece a) type := by
  rw [(dialect_plain support rules).exprPiece_unary]
  exact (congrArg piece (unary_convert_emit rules support a _ type)).trans (piece_emit _)

theorem exprPiece_convert_none (support : CastSupport) (rules : CastRules) (a : Expr signature) :
    (dialect support rules).exprPiece (.unary .convert a none) =
      Piece.fail Standard.missingType := by
  have hnone := Standard.unary_convert_none ⟨a, emit ((dialect support rules).exprPiece a)⟩
  rw [(dialect_plain support rules).exprPiece_unary]
  exact (congrArg piece hnone).trans (piece_emit _)

end MySql

end SqlScribe
