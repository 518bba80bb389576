import SqlScribe.Proofs.DialectPiece
import SqlScribe.Proofs.Layout

/-!
# The layouts of standard SQL and of MySQL

`Standard.scheme` lays out what standard SQL writes, and `MySql.scheme` what MySQL writes with some
cast rules on some server. The dialects follow them: for each rule, a lemma such as
`MySql.convert_laid` says that the piece of the rule is the piece of its layout. The layouts come
past the same parts as the walk.

Marks around the constructs of a dialect do not change what it lays out (`Follows.marked`).
-/

namespace SqlScribe

open Emit Piece Dialect

variable {X : Signature}

/-! ## Standard SQL -/

namespace Row

/-- A call: its name, which is not the language's, and its arguments between parentheses unless it
is niladic. -/
def call (name : String) (args : List (Expr X)) (niladic : Bool) : Row X :=
  if niladic then [.verbatim name]
  else .verbatim name :: parenthesized (separated ", " (args.map expr))

/-- An operator between two operands. -/
def binary (op : BinaryOp) (a b : Expr X) : Row X :=
  operand a ++ .word (" " ++ op.token ++ " ") :: operand b

/-- How many rows to skip. -/
def skip : Option (Expr X) → Row X
  | none => []
  | some offset => .word "OFFSET " :: expr offset ++ [.word " ROWS"]

/-- How many rows to fetch, behind a blank if it does not come first. -/
def fetch (first : Bool) : Option (Expr X) → Row X
  | none => []
  | some limit => wordIf (!first) " " ++ .word "FETCH FIRST " :: expr limit ++ [.word " ROWS ONLY"]

end Row

namespace Standard

/-- An operator on one operand. A conversion has a layout only with a type to convert to. -/
def unaryLayout (op : UnaryOp) (a : Expr X) (type : Option SqlType) : Except Error (Layout X) :=
  match op with
  | .not => laid (.word "NOT " :: Row.parenthesized (Row.expr a))
  | .negate => laid (.word "-" :: Row.operand a)
  | .isNull => laid (Row.operand a ++ [.word " IS NULL"])
  | .isNotNull => laid (Row.operand a ++ [.word " IS NOT NULL"])
  | .convert =>
    match type with
    | none => .error missingType
    | some type => laid (Row.cast (Row.expr a) type.name)

/-- Standard layouts, for trees whose only nodes of their own have no operands. -/
def scheme (nullary : X.Nullary → Row X) (noUnary : X.Unary → False) (noBinary : X.Binary → False)
    (noVariadic : X.Variadic → False) : Scheme X where
  call name args niladic := laid (Row.call name args niladic)
  unary := unaryLayout
  binary op a b _ := laid (Row.binary op a b)
  rowLimit limit offset := laid (Row.skip offset ++ Row.fetch offset.isNone limit)
  crossApply s := laid [.word "CROSS APPLY ", .part (.source s)]
  outerApply s := laid [.word "OUTER APPLY ", .part (.source s)]
  nullary node := laid (nullary node)
  dialectUnary node := (noUnary node).elim
  dialectBinary node := (noBinary node).elim
  variadic node := (noVariadic node).elim

section

variable (D : Dialect X) (f : Stop X → Piece)

theorem call_laid (name : String) (args : List (Expr X)) (niladic : Bool) :
    (call name ((args.map fun e => f (.expr e)).map emit) niladic).piece =
      D.layoutPiece f (laid (Row.call name args niladic)) := by
  rw [call_emit, piece_emit]
  cases niladic <;> simp [Row.call, Function.comp_def]

/-- The piece of a standard operator on one operand is that of its layout, faults included. -/
theorem unary_laid (op : UnaryOp) (a : Expr X) (type : Option SqlType) :
    (unary op ⟨a, emit (f (.expr a))⟩ type).piece = D.layoutPiece f (unaryLayout op a type) := by
  cases op with
  | not => simp [unary_not_emit, unaryLayout]
  | negate => simp [unary_negate_emit, unaryLayout]
  | convert =>
    cases type with
    | none => simp [unary_convert_none, unaryLayout]
    | some type => simp [unary_convert_emit, unaryLayout]
  | isNull => simp [unary_isNull_emit, unaryLayout]
  | isNotNull => simp [unary_isNotNull_emit, unaryLayout]

theorem binary_laid (op : BinaryOp) (a b : Expr X) :
    (binary op ⟨a, emit (f (.expr a))⟩ ⟨b, emit (f (.expr b))⟩).piece =
      D.layoutPiece f (laid (Row.binary op a b)) := by
  rw [binary_emit, piece_emit]
  simp [Row.binary, append_assoc]

/-- The piece of the standard restriction of rows is that of its layout; the offset comes first. -/
theorem rowLimit_laid (limit offset : Option (Expr X)) :
    (rowLimit ((limit.map fun e => f (.expr e)).map emit)
      ((offset.map fun e => f (.expr e)).map emit)).piece =
      D.layoutPiece f (laid (Row.skip offset ++ Row.fetch offset.isNone limit)) := by
  rw [rowLimit_emit, piece_emit]
  cases limit <;> cases offset <;> simp [Row.skip, Row.fetch, append_assoc]

theorem crossApply_laid (s : Source X) :
    (crossApply (emit (f (.source s)))).piece =
      D.layoutPiece f (laid [.word "CROSS APPLY ", .part (.source s)]) := by
  rw [crossApply_emit, piece_emit]
  simp

theorem outerApply_laid (s : Source X) :
    (outerApply (emit (f (.source s)))).piece =
      D.layoutPiece f (laid [.word "OUTER APPLY ", .part (.source s)]) := by
  rw [outerApply_emit, piece_emit]
  simp

end

theorem unaryLayout_has (op : UnaryOp) (a : Expr X) (type : Option SqlType) :
    Layout.Has (unaryLayout op a type) [.expr a] := by
  cases op with
  | convert =>
    cases type with
    | none => exact Layout.has_error _ _
    | some type => exact Layout.has_laid (by simp)
  | _ => exact Layout.has_laid (by simp)

/-- Standard layouts have the parts of their stops, in the order of the standard route. -/
theorem scheme_walks (nullary : X.Nullary → Row X) (hnullary : ∀ node, (nullary node).parts = [])
    (noUnary : X.Unary → False) (noBinary : X.Binary → False) (noVariadic : X.Variadic → False) :
    (scheme nullary noUnary noBinary noVariadic).Walks route where
  call name args niladic type :=
    Layout.has_laid (by cases niladic <;> simp [Row.call, Expr.parts, route])
  unary := unaryLayout_has
  binary op a b _ := Layout.has_laid (by simp [Row.binary])
  rowLimit limit offset := Layout.has_laid (by
    cases limit <;> cases offset <;> simp [Row.skip, Row.fetch, Stop.parts, route])
  crossApply s := Layout.has_laid rfl
  outerApply s := Layout.has_laid rfl
  nullary node := Layout.has_laid (hnullary node)
  dialectUnary node := (noUnary node).elim
  dialectBinary node := (noBinary node).elim
  variadic node := (noVariadic node).elim

end Standard

namespace Dialect

/-- The layouts of standard SQL. -/
def ansiScheme : Scheme .none :=
  Standard.scheme Empty.elim Empty.elim Empty.elim Empty.elim

/-- Standard SQL follows its layouts. -/
theorem ansi_follows : ansi.Follows ansiScheme fun _ p => p where
  toWraps := ansi_plain
  rowLimit_laid limit offset f := Standard.rowLimit_laid ansi f limit offset
  call_laid name args niladic f := Standard.call_laid ansi f name args niladic
  unary_laid op a type f := Standard.unary_laid ansi f op a type
  binary_laid op a b _ f := Standard.binary_laid ansi f op a b
  crossApply_laid s f := Standard.crossApply_laid ansi f s
  outerApply_laid s f := Standard.outerApply_laid ansi f s
  nullary_laid node := node.elim
  dialectUnary_laid node := node.elim
  dialectBinary_laid node := node.elim
  variadic_laid node := node.elim

theorem ansiScheme_walks : ansiScheme.Walks Standard.route :=
  Standard.scheme_walks (X := .none) _ (fun node => node.elim) _ _ _

/-- The layouts of the plain dialect. -/
def plainScheme : Scheme daySignature :=
  Standard.scheme (fun days => [.word ("x\x7b" ++ days.text ++ "\x7d")]) Empty.elim Empty.elim
    Empty.elim

theorem plain_follows : plain.Follows plainScheme fun _ p => p where
  toWraps := plain_plain
  rowLimit_laid limit offset f := Standard.rowLimit_laid plain f limit offset
  call_laid name args niladic f := Standard.call_laid plain f name args niladic
  unary_laid op a type f := Standard.unary_laid plain f op a type
  binary_laid op a b _ f := Standard.binary_laid plain f op a b
  crossApply_laid s f := Standard.crossApply_laid plain f s
  outerApply_laid s f := Standard.outerApply_laid plain f s
  nullary_laid days f := by
    change (write _).piece = _
    rw [write_eq_emit, piece_emit]
    simp [plainScheme, Standard.scheme]
  dialectUnary_laid node := node.elim
  dialectBinary_laid node := node.elim
  variadic_laid node := node.elim

theorem plainScheme_walks : plainScheme.Walks Standard.route :=
  Standard.scheme_walks _ (fun _ => rfl) _ _ _

/-- Marks around an action that appends are marks around its piece. -/
theorem Marks.piece_around (marks : Marks) (c : Construct) {a : Emit} (ha : a.Appends) {p : Piece}
    (hp : a.piece = p) : (marks.around c a).piece = marks.wrap c p := by
  rw [marks.around_of_appends c ha, piece_emit, hp]

/-- With marks, a dialect writes by the same layouts. -/
theorem Follows.marked {D : Dialect X} {L : Scheme X} (h : D.Follows L fun _ p => p)
    (marks : Marks) : (D.marked marks).Follows L marks.wrap where
  toWraps := h.toWraps.marked marks
  rowLimit_laid limit offset f :=
    marks.piece_around .rowLimit (h.rowLimit _ _) (h.rowLimit_laid limit offset f)
  call_laid name args niladic f :=
    marks.piece_around .call (h.call name _ niladic) (h.call_laid name args niladic f)
  unary_laid op a type f :=
    marks.piece_around .unary (h.unary op a _ type) (h.unary_laid op a type f)
  binary_laid op a b kind f :=
    marks.piece_around .binary (h.binary op a _ b _ kind) (h.binary_laid op a b kind f)
  crossApply_laid s f := marks.piece_around .crossApply (h.crossApply _) (h.crossApply_laid s f)
  outerApply_laid s f := marks.piece_around .outerApply (h.outerApply _) (h.outerApply_laid s f)
  -- The nodes of a dialect's own are no constructs, so only the mark of the expression is theirs.
  nullary_laid node f := h.nullary_laid node f
  dialectUnary_laid node a f := h.dialectUnary_laid node a f
  dialectBinary_laid node a b f := h.dialectBinary_laid node a b f
  variadic_laid node operands f := h.variadic_laid node operands f

end Dialect

/-! ## MySQL -/

namespace MySql

/-- A cast by a plan; one that goes through a decimal type is a sum and has its own parentheses. -/
def castRow (plan : CastPlan) (value : Row signature) : Row signature :=
  match plan with
  | .direct keyword => Row.cast value keyword
  | .throughDecimal _ => Row.parenthesized (Row.cast value plan.keyword ++ [.word " + 0e0"])

/-- A conversion to a type: the plan for it is found first, and reported before anything is
written. -/
def convertLayout (rules : CastRules) (support : CastSupport) (a : Expr signature)
    (type : SqlType) : Except Error (Layout signature) :=
  match rules.planFor support type.name with
  | .error e => .error e
  | .ok plan => .ok ⟨plan.events type.name, castRow plan (Row.expr a)⟩

/-- An operator on one operand; only conversions to a type differ from the standard. -/
def unaryLayout (rules : CastRules) (support : CastSupport) (op : UnaryOp) (a : Expr signature)
    (type : Option SqlType) : Except Error (Layout signature) :=
  match op, type with
  | .convert, some type => convertLayout rules support a type
  | _, _ => Standard.unaryLayout op a type

/-- A value in a character set, compared by a collation. Neither name may be empty, and the
character set is looked at first. -/
def collateLayout (charset collation : String) (a : Expr signature) :
    Except Error (Layout signature) :=
  if charset.isEmpty then .error (.missingPart "Collate" "charset")
  else if collation.isEmpty then .error (.missingPart "Collate" "collation")
  else laid (.word "CONVERT(" :: Row.expr a ++
    [.word " USING ", .verbatim charset, .word ") COLLATE ", .verbatim collation])

/-- The limit and the offset of a query. An offset alone gets the largest limit, which is
reported. -/
def rowLimitLayout (limit offset : Option (Expr signature)) : Except Error (Layout signature) :=
  match limit, offset with
  | none, none => laid []
  | some limit, none => laid (.word "LIMIT " :: Row.expr limit)
  | none, some offset =>
    .ok ⟨[.limitSupplied],
      .word ("LIMIT " ++ Workaround.largestLimitText) :: .word " OFFSET " :: Row.expr offset⟩
  | some limit, some offset =>
    laid (.word "LIMIT " :: Row.expr limit ++ .word " OFFSET " :: Row.expr offset)

/-- The layouts of MySQL. -/
def scheme (support : CastSupport) (rules : CastRules) : Scheme signature where
  call name args niladic :=
    laid (if Text.startsWith name variableSigil then [.verbatim name]
      else Row.call name args niladic)
  unary := unaryLayout rules support
  binary op a b kind :=
    laid (if isConcatenation op a b kind then
        .word "CONCAT" :: Row.parenthesized (Row.separated ", " [Row.expr a, Row.expr b])
      else Row.binary op a b)
  rowLimit := rowLimitLayout
  crossApply s := laid [.word "JOIN LATERAL ", .part (.source s), .word " ON TRUE"]
  outerApply s := laid [.word "LEFT JOIN LATERAL ", .part (.source s), .word " ON TRUE"]
  nullary node := node.elim
  dialectUnary node a :=
    match node with
    | .collate charset collation => collateLayout charset collation a
  dialectBinary node a b :=
    match node with
    | .regexp => laid (Row.expr a ++ .word " REGEXP " :: Row.expr b)
    | .integerDivision =>
      laid (Row.parenthesized (Row.expr a) ++ .word " DIV " :: Row.parenthesized (Row.expr b))
    | .nonOptimizedEqual => .error (.unsupportedOperator "NonOptimizedEqual")
  variadic node operands :=
    match node with
    | .sideBySide => laid (Row.separated " " (operands.map Row.expr))

/-- Whether a conversion has a layout does not depend on what is converted. -/
theorem convertLayout_cases (rules : CastRules) (support : CastSupport) (type : SqlType) :
    (∃ e, ∀ a, convertLayout rules support a type = .error e) ∨
      ∃ plan, rules.planFor support type.name = .ok plan ∧
        ∀ a, convertLayout rules support a type =
          .ok ⟨plan.events type.name, castRow plan (Row.expr a)⟩ := by
  unfold convertLayout
  cases hplan : rules.planFor support type.name with
  | error e => exact .inl ⟨e, fun _ => rfl⟩
  | ok plan => exact .inr ⟨plan, rfl, fun _ => rfl⟩

/-- MySQL has its own layout only for conversions with a type. -/
theorem unaryLayout_eq_standard (rules : CastRules) (support : CastSupport) {op : UnaryOp}
    {type : Option SqlType} (h : op = .convert → type = none) (a : Expr signature) :
    unaryLayout rules support op a type = Standard.unaryLayout op a type := by
  unfold unaryLayout
  split
  · cases h rfl
  · rfl

/-- Whether a comparison by a collation has a layout does not depend on what is compared. -/
theorem collateLayout_cases (charset collation : String) :
    (∃ e, ∀ a, collateLayout charset collation a = .error e) ∨
      ∀ a, collateLayout charset collation a =
        laid (.word "CONVERT(" :: Row.expr a ++
          [.word " USING ", .verbatim charset, .word ") COLLATE ", .verbatim collation]) := by
  unfold collateLayout
  split
  · exact .inl ⟨_, fun _ => rfl⟩
  · split
    · exact .inl ⟨_, fun _ => rfl⟩
    · exact .inr fun _ => rfl

section

variable (D : Dialect signature) (f : Stop signature → Piece)

theorem call_laid (name : String) (args : List (Expr signature)) (niladic : Bool) :
    (call name ((args.map fun e => f (.expr e)).map emit) niladic).piece =
      D.layoutPiece f (laid (if Text.startsWith name variableSigil then [.verbatim name]
        else Row.call name args niladic)) := by
  rw [call_emit, piece_emit]
  cases Text.startsWith name variableSigil <;> cases niladic <;>
    simp [Row.call, Function.comp_def]

theorem castPiece_laid (plan : CastPlan) (value : Row signature) :
    castPiece plan (D.slotsPiece f value) = D.slotsPiece f (castRow plan value) := by
  cases plan <;> simp [castPiece, castRow, CastPlan.keyword]

/-- The piece of a conversion is that of its layout: both find the same plan or the same error. -/
theorem convertPiece_laid (rules : CastRules) (support : CastSupport) (a : Expr signature)
    (type : SqlType) :
    convertPiece rules support (f (.expr a)) type =
      D.layoutPiece f (convertLayout rules support a type) := by
  unfold convertPiece convertLayout
  cases rules.planFor support type.name with
  | error e => rfl
  | ok plan =>
    dsimp only
    rw [layoutPiece_ok, ← castPiece_laid, slotsPiece_expr]

/-- The piece of an operator on one operand is that of its layout. -/
theorem unary_laid (rules : CastRules) (support : CastSupport) (op : UnaryOp)
    (a : Expr signature) (type : Option SqlType) :
    (unary rules support op ⟨a, emit (f (.expr a))⟩ type).piece =
      D.layoutPiece f (unaryLayout rules support op a type) := by
  by_cases h : op = .convert → type = none
  · rw [unary_eq_standard rules support _ h, unaryLayout_eq_standard rules support h]
    exact Standard.unary_laid D f op a type
  · obtain ⟨rfl, hsome⟩ := Classical.not_imp.1 h
    obtain ⟨type, rfl⟩ := Option.ne_none_iff_exists'.1 hsome
    rw [unary_convert_emit, piece_emit]
    exact convertPiece_laid D f rules support a type

/-- The piece of an operator between two operands is that of its layout; a sum of strings is a
call. -/
theorem binary_laid (op : BinaryOp) (a b : Expr signature) (kind : ScalarKind) :
    (binary op ⟨a, emit (f (.expr a))⟩ ⟨b, emit (f (.expr b))⟩ kind).piece =
      D.layoutPiece f (laid (if isConcatenation op a b kind then
          .word "CONCAT" :: Row.parenthesized (Row.separated ", " [Row.expr a, Row.expr b])
        else Row.binary op a b)) := by
  rw [binary_emit, piece_emit]
  split <;> simp [Row.binary, append_assoc]

/-- The piece of a limit is that of its layout, with the report of a limit that is supplied. -/
theorem rowLimit_laid (limit offset : Option (Expr signature)) :
    (rowLimit ((limit.map fun e => f (.expr e)).map emit)
      ((offset.map fun e => f (.expr e)).map emit)).piece =
      D.layoutPiece f (rowLimitLayout limit offset) := by
  rw [rowLimit_emit, piece_emit]
  cases limit <;> cases offset <;> simp [rowLimitLayout, Piece.inOrder, append_assoc]

theorem lateral_laid (word : String) (s : Source signature) :
    (lateral word (emit (f (.source s)))).piece =
      D.layoutPiece f (laid [.word word, .part (.source s), .word " ON TRUE"]) := by
  rw [lateral_emit, piece_emit]
  simp [append_assoc]

/-- The piece of a comparison by a collation is that of its layout, faults included. -/
theorem collate_laid (charset collation : String) (a : Expr signature) :
    (collate charset collation (emit (f (.expr a)))).piece =
      D.layoutPiece f (collateLayout charset collation a) := by
  rw [collate_emit, piece_emit]
  unfold collateLayout
  split
  · rfl
  · split
    · rfl
    · simp [text_append, append_assoc]

theorem dialectBinary_laid (support : CastSupport) (rules : CastRules) (node : BinaryNode)
    (a b : Expr signature) :
    (dialectBinary node (emit (f (.expr a))) (emit (f (.expr b)))).piece =
      D.layoutPiece f ((scheme support rules).dialectBinary node a b) := by
  cases node with
  | regexp =>
    rw [regexp_emit, piece_emit]
    simp [scheme, append_assoc]
  | integerDivision =>
    rw [integerDivision_emit, piece_emit]
    simp [scheme, append_assoc]
  | nonOptimizedEqual =>
    rw [nonOptimizedEqual_eq_emit, piece_emit]
    rfl

theorem sideBySide_laid (operands : List (Expr signature)) :
    (variadic .sideBySide ((operands.map fun e => f (.expr e)).map emit)).piece =
      D.layoutPiece f (laid (Row.separated " " (operands.map Row.expr))) := by
  rw [sideBySide_emit, piece_emit]
  simp [Function.comp_def]

end

/-- MySQL follows its layouts, whatever the server casts to and by whatever rules. -/
theorem dialect_follows (support : CastSupport) (rules : CastRules) :
    (dialect support rules).Follows (scheme support rules) fun _ p => p where
  toWraps := dialect_plain support rules
  rowLimit_laid limit offset f := rowLimit_laid _ f limit offset
  call_laid name args niladic f := call_laid _ f name args niladic
  unary_laid op a type f := unary_laid _ f rules support op a type
  binary_laid op a b kind f := binary_laid _ f op a b kind
  crossApply_laid s f := lateral_laid _ f _ s
  outerApply_laid s f := lateral_laid _ f _ s
  nullary_laid node := node.elim
  dialectUnary_laid node a f := by
    cases node with
    | collate charset collation => exact collate_laid _ f charset collation a
  dialectBinary_laid node a b f := dialectBinary_laid _ f support rules node a b
  variadic_laid node operands f := by
    cases node
    exact sideBySide_laid _ f operands

theorem unaryLayout_has (rules : CastRules) (support : CastSupport) (op : UnaryOp)
    (a : Expr signature) (type : Option SqlType) :
    Layout.Has (unaryLayout rules support op a type) [.expr a] := by
  by_cases h : op = .convert → type = none
  · rw [unaryLayout_eq_standard rules support h]
    exact Standard.unaryLayout_has op a type
  · obtain ⟨rfl, hsome⟩ := Classical.not_imp.1 h
    obtain ⟨type, rfl⟩ := Option.ne_none_iff_exists'.1 hsome
    change Layout.Has (convertLayout rules support a type) _
    obtain ⟨e, hlayout⟩ | ⟨plan, -, hlayout⟩ := convertLayout_cases rules support type
    · rw [hlayout]
      exact Layout.has_error e _
    · rw [hlayout]
      rintro l ⟨⟩
      cases plan <;> simp [castRow]

/-- The layouts of MySQL have the parts of their stops, in the order of its route. -/
theorem scheme_walks (support : CastSupport) (rules : CastRules) :
    (scheme support rules).Walks route where
  call name args niladic type := by
    refine Layout.has_laid ?_
    cases hsigil : Text.startsWith name variableSigil <;> cases niladic <;>
      simp [Row.call, Expr.parts, route, hsigil]
  unary := unaryLayout_has rules support
  binary op a b kind := by
    refine Layout.has_laid ?_
    split <;> simp [Row.binary]
  rowLimit limit offset := by
    rintro l hl
    cases limit <;> cases offset <;> cases hl <;> simp [Stop.parts, route]
  crossApply s := Layout.has_laid rfl
  outerApply s := Layout.has_laid rfl
  nullary node := node.elim
  dialectUnary node a := by
    cases node with
    | collate charset collation =>
      change Layout.Has (collateLayout charset collation a) _
      obtain ⟨e, hlayout⟩ | hlayout := collateLayout_cases charset collation
      · rw [hlayout]
        exact Layout.has_error e _
      · rw [hlayout]
        exact Layout.has_laid rfl
  dialectBinary node a b := by
    cases node with
    | nonOptimizedEqual => exact Layout.has_error _ _
    | _ => exact Layout.has_laid rfl
  variadic node operands := by
    cases node
    exact Layout.has_laid (by simp)

end MySql

end SqlScribe
