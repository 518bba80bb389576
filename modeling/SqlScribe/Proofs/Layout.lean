import SqlScribe.Proofs.Appending
import SqlScribe.Proofs.Parts

/-!
# Layouts

The text of a node is a row of slots: words of the language, texts and names of the node itself, and
parts, which are the stops right inside it. A `Layout` is such a row with the events that are noted
before it, and a node may have an error in place of a layout. So everything that one step of the
walk can do is written down as data, and what a whole walk does follows from it by induction over
stops.

Most constructs are laid out alike in every dialect. A `Scheme` lays out the others, and a dialect
`Follows` it when the piece of each of its rules is what the scheme lays out, whatever the pieces of
the parts are: one equation for each rule ties the two descriptions of it together.
-/

namespace SqlScribe

open Emit Piece Dialect

variable {X : Signature}

/-! ## Slots -/

/-- One thing in the text of a node. -/
inductive Slot (X : Signature) where
  /-- A word of the language, with the blanks around it. -/
  | word (text : String)
  /-- A text that is not the language's, as it stands. -/
  | verbatim (text : String)
  /-- A name between its quotes. -/
  | name (name : String)
  /-- The contents of a string between quotes. -/
  | string (contents : String)
  /-- A text between single quotes that has nothing to escape. -/
  | body (text : List Char)
  | part (stop : Stop X)

/-- The stop that the slot is for, if it is a part. -/
def Slot.part? : Slot X → Option (Stop X)
  | .part stop => some stop
  | _ => none

/-- Slots from left to right. -/
abbrev Row (X : Signature) := List (Slot X)

/-- The events that a node reports, and then its slots. -/
structure Layout (X : Signature) where
  events : List Event := []
  slots : Row X

namespace Row

/-- Slots between two parentheses. -/
def parenthesized (slots : Row X) : Row X := .word "(" :: slots ++ [.word ")"]

/-- A word if a condition holds. -/
def wordIf (condition : Bool) (text : String) : Row X :=
  if condition then [.word text] else []

/-- Optional slots behind the word that leads them in. -/
def led (lead : String) : Option (Row X) → Row X
  | none => []
  | some slots => .word lead :: slots

/-- Rows with a separator between each two. -/
def separated (separator : String) : List (Row X) → Row X
  | [] => []
  | slots :: rest => slots ++ rest.flatMap (.word separator :: ·)

/-- The rows of a clause behind the word that leads it in, if there are any. -/
def clause (lead separator : String) (rows : List (Row X)) : Row X :=
  if rows.isEmpty then [] else .word lead :: separated separator rows

/-- An expression alone. -/
def expr (e : Expr X) : Row X := [.part (.expr e)]

/-- An expression as an operand. -/
def operand (e : Expr X) : Row X :=
  if e.isOperator then parenthesized (expr e) else expr e

/-- A name behind the name of what it belongs to. -/
def qualified (owner : Option String) (name : String) : Row X :=
  match owner with
  | some owner => [.name owner, .word ".", .name name]
  | none => [.name name]

/-- A cast of a value to a type. The name of the type is not the language's. -/
def cast (value : Row X) (target : String) : Row X :=
  .word "CAST(" :: value ++ [.word " AS ", .verbatim target, .word ")"]

/-- A branch of a choice. -/
def branch (b : Branch X) : Row X :=
  .word " WHEN " :: expr b.test ++ .word " THEN " :: expr b.result

/-- A column of a result, with its label if it has one. -/
def column (c : OutputColumn X) : Row X :=
  expr c.expr ++ led " AS " (c.label.map fun name => [.part (.label name)])

/-- A key to sort by; an ascending order needs no word. -/
def sortKey (k : SortKey X) : Row X :=
  expr k.expr ++ wordIf (!k.ascending) " DESC"

/-- The columns of a result. A query without any selects the number one. -/
def columns (rows : List (Row X)) : Row X :=
  if rows.isEmpty then [.word "1"] else separated ", " rows

/-- The line that restricts the rows of a query. -/
def limitLine (limit offset : Option (Expr X)) : Row X :=
  if limit.isSome || offset.isSome then [.word "\n", .part (.rowLimit limit offset)] else []

end Row

/-- The slots of a constant. -/
def Literal.slots : Literal → Row X
  | .null => [.word "NULL"]
  | .bool true => [.word "TRUE"]
  | .bool false => [.word "FALSE"]
  | .number text => [.verbatim text]
  | .string contents => [.string contents]
  | .date value => [.word "DATE ", .body value.text]
  | .timestamp value => [.word "TIMESTAMP ", .body value.text]
  | .time value => [.word "TIME ", .body value.text]
  | .bytes value => [.word "X", .body (value.flatMap hexByte)]

/-- The slots of a query, clause by clause. -/
def Query.slots (q : Query X) : Row X :=
  .word "SELECT " :: Row.wordIf q.distinct "DISTINCT " ++ Row.columns (q.columns.map Row.column) ++
    Row.clause "\nFROM " "\n" (q.sources.map fun s => [.part (.source s)]) ++
    Row.led "\nWHERE " (q.predicate.map Row.expr) ++
    Row.clause "\nGROUP BY " ", " (q.groupKeys.map Row.expr) ++
    Row.led "\nHAVING " (q.groupPredicate.map Row.expr) ++
    Row.clause "\nORDER BY " ", " (q.sortKeys.map Row.sortKey) ++
    Row.limitLine q.limit q.offset

/-! ## Schemes -/

/-- The layouts of the constructs that have a rule in every dialect, and of a dialect's own
nodes. -/
structure Scheme (X : Signature) where
  call : String → List (Expr X) → Bool → Except Error (Layout X)
  unary : UnaryOp → Expr X → Option SqlType → Except Error (Layout X)
  binary : BinaryOp → Expr X → Expr X → ScalarKind → Except Error (Layout X)
  rowLimit : Option (Expr X) → Option (Expr X) → Except Error (Layout X)
  crossApply : Source X → Except Error (Layout X)
  outerApply : Source X → Except Error (Layout X)
  nullary : X.Nullary → Except Error (Layout X)
  dialectUnary : X.Unary → Expr X → Except Error (Layout X)
  dialectBinary : X.Binary → Expr X → Expr X → Except Error (Layout X)
  variadic : X.Variadic → List (Expr X) → Except Error (Layout X)

/-- Slots without any events. -/
def laid (slots : Row X) : Except Error (Layout X) := .ok { slots }

namespace Scheme

/-- The layout of an expression: most constructs have one of their own, and the rest are up to the
scheme. -/
def expr (L : Scheme X) : Expr X → Except Error (Layout X)
  | .literal value _ => laid value.slots
  | .parameter name _ => laid [.verbatim name]
  | .column table name _ => laid (Row.qualified table name)
  | .raw text => laid [.verbatim text]
  | .call name args niladic _ => L.call name args niladic
  | .unary op a type => L.unary op a type
  | .binary op a b kind _ => L.binary op a b kind
  | .like a b c =>
    laid (Row.expr a ++ .word " LIKE " :: Row.expr b ++ Row.led " ESCAPE " (c.map Row.expr))
  | .member a values negated =>
    laid (Row.operand a ++ Row.wordIf negated " NOT" ++ .word " IN " ::
      Row.parenthesized (Row.separated ", " (values.map Row.expr)))
  | .choice a branches c _ =>
    laid (.word "CASE" :: Row.led " " (a.map Row.expr) ++ branches.flatMap Row.branch ++
      Row.led " ELSE " (c.map Row.expr) ++ [.word " END"])
  | .existence q negated =>
    laid (Row.wordIf negated "NOT " ++ .word "EXISTS " :: Row.parenthesized [.part (.query q)])
  | .scalar q => laid (Row.parenthesized [.part (.query q)])
  | .nullary node => L.nullary node
  | .dialectUnary node a => L.dialectUnary node a
  | .dialectBinary node a b => L.dialectBinary node a b
  | .variadic node operands => L.variadic node operands

/-- The layout of a row source. -/
def source (L : Scheme X) : Source X → Except Error (Layout X)
  | .table schema name label =>
    laid (Row.qualified schema name ++ Row.led " AS " (label.map fun label => [.name label]))
  | .derived q label =>
    laid (Row.parenthesized [.part (.query q)] ++ [.word " AS ", .part (.label label)])
  | .innerJoin s condition =>
    laid (.word "INNER JOIN " :: .part (.source s) :: .word " ON " :: Row.expr condition)
  | .leftJoin s condition =>
    laid (.word "LEFT JOIN " :: .part (.source s) :: .word " ON " :: Row.expr condition)
  | .crossJoin s => laid [.word "CROSS JOIN ", .part (.source s)]
  | .crossApply s => L.crossApply s
  | .outerApply s => L.outerApply s

/-- The layout of a stop, or its error. -/
def layout (L : Scheme X) : Stop X → Except Error (Layout X)
  | .expr e => L.expr e
  | .query q => laid q.slots
  | .source s => L.source s
  | .rowLimit limit offset => L.rowLimit limit offset
  | .label name => laid [.name name]

end Scheme

/-- The rules that a stop passes through, from the outermost to the innermost. -/
def Stop.constructs : Stop X → List Construct
  | .expr (.call ..) => [.expr, .call]
  | .expr (.unary ..) => [.expr, .unary]
  | .expr (.binary ..) => [.expr, .binary]
  | .expr _ => [.expr]
  | .query _ => [.query]
  | .source (.crossApply _) => [.source, .crossApply]
  | .source (.outerApply _) => [.source, .outerApply]
  | .source _ => [.source]
  | .rowLimit _ _ => [.rowLimit]
  | .label _ => []

/-! ## Pieces by layout -/

/-- The text of a slot that is no part. -/
@[simp]
def Slot.text (D : Dialect X) : Slot X → String
  | .word text => text
  | .verbatim text => text
  | .name label => D.quote label
  | .string contents => "'" ++ D.escape contents ++ "'"
  | .body text => "'" ++ String.ofList text ++ "'"
  | .part _ => ""

/-- The piece of a slot, given the pieces of the parts. -/
@[simp]
def Slot.piece (D : Dialect X) (f : Stop X → Piece) : Slot X → Piece
  | .part stop => f stop
  | slot => .text (slot.text D)

namespace Piece

theorem inOrder_append (ps qs : List Piece) : inOrder (ps ++ qs) = inOrder ps ++ inOrder qs := by
  induction ps with
  | nil => exact (empty_append _).symm
  | cons p ps ih => rw [List.cons_append, inOrder, ih, inOrder, append_assoc]

/-- Events alone, in their order. -/
theorem inOrder_events (events : List Event) : inOrder (events.map event) = { events } := by
  induction events with
  | nil => rfl
  | cons e events ih =>
    rw [List.map_cons, inOrder, ih]
    rfl

end Piece

namespace Dialect

/-- The piece of a row, given the pieces of the parts. -/
def slotsPiece (D : Dialect X) (f : Stop X → Piece) (row : Row X) : Piece :=
  Piece.inOrder (row.map (Slot.piece D f))

/-- The piece of a layout, given the pieces of the parts: the events come before the row, and an
error leaves nothing else. -/
def layoutPiece (D : Dialect X) (f : Stop X → Piece) : Except Error (Layout X) → Piece
  | .error e => .fail e
  | .ok layout => Piece.inOrder (layout.events.map .event) ++ D.slotsPiece f layout.slots

/-! ### Rows are composed like pieces -/

variable (D : Dialect X) (f : Stop X → Piece)

@[simp]
theorem slotsPiece_nil : D.slotsPiece f [] = {} := rfl

@[simp]
theorem slotsPiece_cons (slot : Slot X) (slots : Row X) :
    D.slotsPiece f (slot :: slots) = slot.piece D f ++ D.slotsPiece f slots := rfl

@[simp]
theorem slotsPiece_append (a b : Row X) :
    D.slotsPiece f (a ++ b) = D.slotsPiece f a ++ D.slotsPiece f b := by
  rw [slotsPiece, List.map_append, Piece.inOrder_append]
  rfl

@[simp]
theorem slotsPiece_parenthesized (slots : Row X) :
    D.slotsPiece f (Row.parenthesized slots) = (D.slotsPiece f slots).parenthesized := by
  simp [Row.parenthesized, Piece.parenthesized, append_assoc]

@[simp]
theorem slotsPiece_wordIf (condition : Bool) (text : String) :
    D.slotsPiece f (Row.wordIf condition text) = textIf condition text := by
  cases condition <;> simp [Row.wordIf, textIf]

@[simp]
theorem slotsPiece_led (lead : String) (slots : Option (Row X)) :
    D.slotsPiece f (Row.led lead slots) = Piece.led lead (slots.map (D.slotsPiece f)) := by
  cases slots <;> rfl

@[simp]
theorem slotsPiece_flatMap {α : Type} (row : α → Row X) (xs : List α) :
    D.slotsPiece f (xs.flatMap row) = Piece.inOrder (xs.map fun x => D.slotsPiece f (row x)) := by
  induction xs with
  | nil => rfl
  | cons x xs ih => rw [List.flatMap_cons, slotsPiece_append, ih]; rfl

@[simp]
theorem slotsPiece_separated (separator : String) (rows : List (Row X)) :
    D.slotsPiece f (Row.separated separator rows) =
      Piece.separated separator (rows.map (D.slotsPiece f)) := by
  cases rows with
  | nil => rfl
  | cons row rows =>
    simp only [Row.separated, slotsPiece_append, slotsPiece_flatMap, List.map_cons,
      Piece.separated, List.map_map]
    rfl

@[simp]
theorem slotsPiece_clause (lead separator : String) (rows : List (Row X)) :
    D.slotsPiece f (Row.clause lead separator rows) =
      Piece.clause lead separator (rows.map (D.slotsPiece f)) := by
  cases rows with
  | nil => rfl
  | cons row rows =>
    rw [Row.clause, List.isEmpty_cons, if_neg Bool.false_ne_true, slotsPiece_cons,
      slotsPiece_separated]
    rfl

@[simp]
theorem slotsPiece_columns (rows : List (Row X)) :
    D.slotsPiece f (Row.columns rows) =
      if rows.isEmpty then text "1" else Piece.separated ", " (rows.map (D.slotsPiece f)) := by
  unfold Row.columns
  split <;> simp

@[simp]
theorem slotsPiece_expr (e : Expr X) : D.slotsPiece f (Row.expr e) = f (.expr e) :=
  append_empty _

/-- An operand is written as one, with parentheses if it needs them. -/
@[simp]
theorem slotsPiece_operand (e : Expr X) :
    D.slotsPiece f (Row.operand e) = Piece.operand e (f (.expr e)) := by
  unfold Row.operand Piece.operand
  split <;> simp

@[simp]
theorem slotsPiece_qualified (owner : Option String) (name : String) :
    D.slotsPiece f (Row.qualified owner name) = text (Standard.qualified D.quote owner name) := by
  cases owner <;> simp [Row.qualified, Standard.qualified, text_append, append_assoc]

@[simp]
theorem slotsPiece_cast (value : Row X) (target : String) :
    D.slotsPiece f (Row.cast value target) =
      text "CAST(" ++ D.slotsPiece f value ++ text (" AS " ++ target ++ ")") := by
  simp [Row.cast, text_append, append_assoc]

/-- The slots of a constant make up its text. -/
@[simp]
theorem slotsPiece_literal (value : Literal) :
    D.slotsPiece f value.slots = text (value.text D.escape) := by
  have htagged : ∀ (word : String) (body : List Char),
      D.slotsPiece f [.word word, .body body] = text (Literal.tagged word body) := by
    intro word body
    simp [Literal.tagged, text_append, append_assoc]
  cases value with
  | bool value => cases value <;> simp [Literal.slots, Literal.text]
  | date | timestamp | time | bytes => exact htagged _ _
  | _ => simp [Literal.slots, Literal.text]

@[simp]
theorem layoutPiece_laid (slots : Row X) : D.layoutPiece f (laid slots) = D.slotsPiece f slots :=
  empty_append _

@[simp]
theorem layoutPiece_ok (events : List Event) (slots : Row X) :
    D.layoutPiece f (.ok ⟨events, slots⟩) =
      Piece.inOrder (events.map .event) ++ D.slotsPiece f slots := rfl

@[simp]
theorem layoutPiece_error (e : Error) : D.layoutPiece f (.error e) = .fail e := rfl

/-! ### Stops -/

/-- What the walk writes at a stop. -/
def writeStop (D : Dialect X) : Stop X → Emit
  | .expr e => D.writeExpr e
  | .query q => D.writeQuery q
  | .source s => D.writeSource s
  | .rowLimit limit offset => D.rowLimit (limit.map D.writeExpr) (offset.map D.writeExpr)
  | .label name => write (D.quote name)

/-- What a stop adds to an output. -/
def stopPiece (D : Dialect X) (stop : Stop X) : Piece := (D.writeStop stop).piece

@[simp]
theorem stopPiece_expr (e : Expr X) : D.stopPiece (.expr e) = D.exprPiece e := rfl

@[simp]
theorem stopPiece_query (q : Query X) : D.stopPiece (.query q) = D.queryPiece q := rfl

@[simp]
theorem stopPiece_source (s : Source X) : D.stopPiece (.source s) = D.sourcePiece s := rfl

@[simp]
theorem stopPiece_label (name : String) : D.stopPiece (.label name) = text (D.quote name) := by
  rw [stopPiece, writeStop, write_eq_emit, piece_emit]

/-- Writing a stop adds its piece. -/
theorem Appends.writeStop_emit {D : Dialect X} (h : D.Appends) (stop : Stop X) :
    D.writeStop stop = emit (D.stopPiece stop) := by
  cases stop with
  | expr e => exact h.writeExpr e
  | query q => exact h.writeQuery q
  | source s => exact h.writeSource s
  | rowLimit limit offset =>
    have happends := h.rowLimit (limit.map D.exprPiece) (offset.map D.exprPiece)
    rw [← h.optionMap_writeExpr, ← h.optionMap_writeExpr] at happends
    exact happends
  | label name => exact Emit.Appends.of_eq (write_eq_emit _)

/-- The dialect wraps the pieces of its constructs, and the piece of each rule is what the scheme
lays out, whatever the pieces of the parts are. -/
structure Follows (D : Dialect X) (L : Scheme X) (wrap : Construct → Piece → Piece) : Prop
    extends D.Wraps wrap where
  rowLimit_laid : ∀ limit offset f,
    (D.rowLimit ((limit.map fun e => f (.expr e)).map emit)
      ((offset.map fun e => f (.expr e)).map emit)).piece =
      wrap .rowLimit (D.layoutPiece f (L.rowLimit limit offset))
  call_laid : ∀ name args niladic f,
    (D.call name ((args.map fun e => f (.expr e)).map emit) niladic).piece =
      wrap .call (D.layoutPiece f (L.call name args niladic))
  unary_laid : ∀ op a type f,
    (D.unary op ⟨a, emit (f (.expr a))⟩ type).piece =
      wrap .unary (D.layoutPiece f (L.unary op a type))
  binary_laid : ∀ op a b kind f,
    (D.binary op ⟨a, emit (f (.expr a))⟩ ⟨b, emit (f (.expr b))⟩ kind).piece =
      wrap .binary (D.layoutPiece f (L.binary op a b kind))
  crossApply_laid : ∀ s f,
    (D.crossApply (emit (f (.source s)))).piece =
      wrap .crossApply (D.layoutPiece f (L.crossApply s))
  outerApply_laid : ∀ s f,
    (D.outerApply (emit (f (.source s)))).piece =
      wrap .outerApply (D.layoutPiece f (L.outerApply s))
  nullary_laid : ∀ node f, (D.nullary node).piece = D.layoutPiece f (L.nullary node)
  dialectUnary_laid : ∀ node a f,
    (D.dialectUnary node (emit (f (.expr a)))).piece = D.layoutPiece f (L.dialectUnary node a)
  dialectBinary_laid : ∀ node a b f,
    (D.dialectBinary node (emit (f (.expr a))) (emit (f (.expr b)))).piece =
      D.layoutPiece f (L.dialectBinary node a b)
  variadic_laid : ∀ node operands f,
    (D.variadic node ((operands.map fun e => f (.expr e)).map emit)).piece =
      D.layoutPiece f (L.variadic node operands)

namespace Follows

variable {D : Dialect X} {L : Scheme X} {wrap : Construct → Piece → Piece} (h : D.Follows L wrap)

include h

/-- The piece of an expression, by its layout. Where a rule of the dialect is passed, the equation
that ties it to its layout is used; elsewhere the equations for pieces meet those for rows. -/
theorem exprPiece_laid (e : Expr X) :
    D.exprPiece e =
      (Stop.expr e).constructs.foldr wrap (D.layoutPiece D.stopPiece (L.expr e)) := by
  cases e with
  | literal value type =>
    rw [h.exprPiece_literal]
    exact congrArg (wrap .expr) (by simp [Scheme.expr])
  | parameter name type =>
    rw [h.exprPiece_parameter]
    exact congrArg (wrap .expr) (by simp [Scheme.expr])
  | column table name type =>
    rw [h.exprPiece_column]
    exact congrArg (wrap .expr) (by simp [Scheme.expr])
  | raw text =>
    rw [h.exprPiece_raw]
    exact congrArg (wrap .expr) (by simp [Scheme.expr])
  | call name args niladic type =>
    rw [h.exprPiece_call]
    exact congrArg (wrap .expr) (h.call_laid name args niladic D.stopPiece)
  | unary op a type =>
    rw [h.exprPiece_unary]
    exact congrArg (wrap .expr) (h.unary_laid op a type D.stopPiece)
  | binary op a b kind type =>
    rw [h.exprPiece_binary]
    exact congrArg (wrap .expr) (h.binary_laid op a b kind D.stopPiece)
  | like a b c =>
    rw [h.exprPiece_like]
    exact congrArg (wrap .expr) (by simp [Scheme.expr, append_assoc, Function.comp_def])
  | member a values negated =>
    rw [h.exprPiece_member]
    exact congrArg (wrap .expr) (by simp [Scheme.expr, append_assoc, Function.comp_def])
  | choice a branches c type =>
    have hbranches : ∀ b : Branch X,
        D.slotsPiece D.stopPiece (Row.branch b) = D.branchPiece b := by
      intro b
      simp [Row.branch, branchPiece, append_assoc]
    rw [h.exprPiece_choice]
    exact congrArg (wrap .expr) (by
      simp [Scheme.expr, hbranches, append_assoc, Function.comp_def])
  | existence q negated =>
    rw [h.exprPiece_existence]
    exact congrArg (wrap .expr) (by simp [Scheme.expr, append_assoc])
  | scalar q =>
    rw [h.exprPiece_scalar]
    exact congrArg (wrap .expr) (by simp [Scheme.expr])
  | nullary node =>
    rw [h.exprPiece_nullary]
    exact congrArg (wrap .expr) (h.nullary_laid node D.stopPiece)
  | dialectUnary node a =>
    rw [h.exprPiece_dialectUnary]
    exact congrArg (wrap .expr) (h.dialectUnary_laid node a D.stopPiece)
  | dialectBinary node a b =>
    rw [h.exprPiece_dialectBinary]
    exact congrArg (wrap .expr) (h.dialectBinary_laid node a b D.stopPiece)
  | variadic node operands =>
    rw [h.exprPiece_variadic]
    exact congrArg (wrap .expr) (h.variadic_laid node operands D.stopPiece)

theorem queryPiece_laid (q : Query X) :
    D.queryPiece q = wrap .query (D.slotsPiece D.stopPiece q.slots) := by
  have hcolumns : ∀ c : OutputColumn X,
      D.slotsPiece D.stopPiece (Row.column c) = D.columnPiece c := by
    intro c
    simp [Row.column, columnPiece, labelPiece, Function.comp_def]
  have hsortKeys : ∀ k : SortKey X,
      D.slotsPiece D.stopPiece (Row.sortKey k) = D.sortKeyPiece k := by
    intro k
    simp [Row.sortKey, sortKeyPiece]
  have hlimit : D.slotsPiece D.stopPiece (Row.limitLine q.limit q.offset) =
      Piece.led "\n" (if q.isLimited then some (D.rowLimitPiece q) else none) := by
    unfold Row.limitLine Query.isLimited
    split
    · exact congrArg (text "\n" ++ ·) (append_empty _)
    · rfl
  rw [h.queryPiece_clauses]
  refine congrArg (wrap .query) ?_
  simp [hlimit, hcolumns, hsortKeys, Query.slots, append_assoc, Function.comp_def]

theorem sourcePiece_laid (s : Source X) :
    D.sourcePiece s =
      (Stop.source s).constructs.foldr wrap (D.layoutPiece D.stopPiece (L.source s)) := by
  cases s with
  | table schema name label =>
    rw [h.sourcePiece_table]
    exact congrArg (wrap .source) (by simp [Scheme.source, labelPiece, Function.comp_def])
  | derived q label =>
    rw [h.sourcePiece_derived]
    exact congrArg (wrap .source) (by simp [Scheme.source, labelPiece, Piece.led])
  | innerJoin s condition =>
    rw [h.sourcePiece_innerJoin]
    exact congrArg (wrap .source) (by simp [Scheme.source, append_assoc])
  | leftJoin s condition =>
    rw [h.sourcePiece_leftJoin]
    exact congrArg (wrap .source) (by simp [Scheme.source, append_assoc])
  | crossJoin s =>
    rw [h.sourcePiece_crossJoin]
    exact congrArg (wrap .source) (by simp [Scheme.source])
  | crossApply s =>
    rw [h.sourcePiece_crossApply]
    exact congrArg (wrap .source) (h.crossApply_laid s D.stopPiece)
  | outerApply s =>
    rw [h.sourcePiece_outerApply]
    exact congrArg (wrap .source) (h.outerApply_laid s D.stopPiece)

/-- The piece of a stop is what the scheme lays out for it, inside what the dialect puts around the
rules that the stop passes through. -/
theorem stopPiece_eq (stop : Stop X) :
    D.stopPiece stop =
      stop.constructs.foldr wrap (D.layoutPiece D.stopPiece (L.layout stop)) := by
  cases stop with
  | expr e => exact h.exprPiece_laid e
  | query q =>
    rw [stopPiece_query, h.queryPiece_laid, Scheme.layout, layoutPiece_laid]
    rfl
  | source s => exact h.sourcePiece_laid s
  | rowLimit limit offset =>
    rw [stopPiece, writeStop, h.optionMap_writeExpr, h.optionMap_writeExpr]
    exact h.rowLimit_laid limit offset D.stopPiece
  | label name => simp [Scheme.layout, Stop.constructs]

omit h in
/-- The piece of a stop, by its layout, in a dialect that puts nothing around it. -/
theorem stopPiece_bare (h : D.Follows L fun _ p => p) (stop : Stop X) :
    D.stopPiece stop = D.layoutPiece D.stopPiece (L.layout stop) := by
  have hfoldr : ∀ (cs : List Construct) (p : Piece), cs.foldr (fun _ p => p) p = p := by
    intro cs p
    induction cs with
    | nil => rfl
    | cons c cs ih => exact ih
  exact (h.stopPiece_eq stop).trans (hfoldr _ _)

end Follows

end Dialect

/-! ## Parts by layout -/

namespace Row

/-- The parts among the slots. -/
def parts (row : Row X) : List (Stop X) := row.filterMap Slot.part?

@[simp]
theorem parts_nil : parts ([] : Row X) = [] := rfl

@[simp]
theorem parts_word (text : String) (row : Row X) : parts (.word text :: row) = parts row := rfl

@[simp]
theorem parts_verbatim (text : String) (row : Row X) : parts (.verbatim text :: row) = parts row :=
  rfl

@[simp]
theorem parts_name (name : String) (row : Row X) : parts (.name name :: row) = parts row := rfl

@[simp]
theorem parts_part (stop : Stop X) (row : Row X) : parts (.part stop :: row) = stop :: parts row :=
  rfl

theorem mem_parts_cons {slot : Slot X} {row : Row X} {stop : Stop X} (h : stop ∈ parts row) :
    stop ∈ parts (slot :: row) := by
  cases slot with
  | part first => exact List.mem_cons_of_mem first h
  | _ => exact h

@[simp]
theorem parts_append (a b : Row X) : parts (a ++ b) = parts a ++ parts b :=
  List.filterMap_append

@[simp]
theorem parts_parenthesized (row : Row X) : parts (parenthesized row) = parts row := by
  simp [parenthesized]

@[simp]
theorem parts_wordIf (condition : Bool) (text : String) :
    parts (wordIf condition text : Row X) = [] := by
  cases condition <;> rfl

@[simp]
theorem parts_led (lead : String) (row : Option (Row X)) :
    parts (led lead row) = row.toList.flatMap parts := by
  cases row <;> simp [led]

@[simp]
theorem parts_flatMap {α : Type} (row : α → Row X) (xs : List α) :
    parts (xs.flatMap row) = xs.flatMap fun x => parts (row x) :=
  List.filterMap_flatMap

@[simp]
theorem parts_separated (separator : String) (rows : List (Row X)) :
    parts (separated separator rows) = rows.flatMap parts := by
  cases rows <;> simp [separated]

@[simp]
theorem parts_clause (lead separator : String) (rows : List (Row X)) :
    parts (clause lead separator rows) = rows.flatMap parts := by
  cases rows <;> simp [clause]

@[simp]
theorem parts_columns (rows : List (Row X)) : parts (columns rows) = rows.flatMap parts := by
  cases rows <;> simp [columns]

@[simp]
theorem parts_expr (e : Expr X) : parts (expr e) = [.expr e] := rfl

@[simp]
theorem parts_operand (e : Expr X) : parts (operand e) = [.expr e] := by
  unfold operand
  split <;> simp

@[simp]
theorem parts_qualified (owner : Option String) (name : String) :
    parts (qualified owner name : Row X) = [] := by
  cases owner <;> rfl

@[simp]
theorem parts_cast (value : Row X) (target : String) : parts (cast value target) = parts value := by
  simp [cast]

@[simp]
theorem parts_literal (value : Literal) : parts (value.slots : Row X) = [] := by
  cases value with
  | bool value => cases value <;> rfl
  | _ => rfl

@[simp]
theorem flatMap_parts_exprs (es : List (Expr X)) : (es.map expr).flatMap parts = es.map .expr := by
  rw [List.flatMap_map, List.map_eq_flatMap]
  rfl

@[simp]
theorem flatMap_parts_expr? (e : Option (Expr X)) :
    (e.map expr).toList.flatMap parts = e.toList.map .expr := by
  cases e <;> rfl

@[simp]
theorem parts_branch (b : Branch X) : parts (branch b) = [.expr b.test, .expr b.result] := rfl

@[simp]
theorem parts_column (c : OutputColumn X) :
    parts (column c) = .expr c.expr :: c.label.toList.map .label := by
  cases hlabel : c.label <;> simp [column, hlabel]

@[simp]
theorem parts_sortKey (k : SortKey X) : parts (sortKey k) = [.expr k.expr] := by
  simp [sortKey]

@[simp]
theorem parts_limitLine (limit offset : Option (Expr X)) :
    parts (limitLine limit offset) =
      if limit.isSome || offset.isSome then [.rowLimit limit offset] else [] := by
  unfold limitLine
  split <;> rfl

end Row

/-- The slots of a query come past its parts, clause by clause. -/
theorem Query.parts_slots (q : Query X) : q.slots.parts = q.parts := by
  simp [Query.slots, Query.parts, List.flatMap_map, ← List.map_eq_flatMap, Query.isLimited]

/-- The layout, if there is one, has the parts. -/
def Layout.Has (layout : Except Error (Layout X)) (parts : List (Stop X)) : Prop :=
  ∀ l, layout = .ok l → l.slots.parts = parts

theorem Layout.has_laid {row : Row X} {parts : List (Stop X)} (h : row.parts = parts) :
    Layout.Has (laid row) parts := by
  rintro l ⟨⟩
  exact h

/-- An error in place of a layout leaves nothing to show. -/
theorem Layout.has_error (e : Error) (parts : List (Stop X)) : Layout.Has (.error e) parts := by
  rintro l ⟨⟩

/-- Every layout of the scheme has the parts of its stop, in the order of the route. -/
structure Scheme.Walks (L : Scheme X) (r : Route) : Prop where
  call : ∀ name args niladic type,
    Layout.Has (L.call name args niladic) ((Expr.call name args niladic type).parts r)
  unary : ∀ op a type, Layout.Has (L.unary op a type) [.expr a]
  binary : ∀ op a b kind, Layout.Has (L.binary op a b kind) [.expr a, .expr b]
  rowLimit : ∀ limit offset,
    Layout.Has (L.rowLimit limit offset) ((Stop.rowLimit limit offset).parts r)
  crossApply : ∀ s, Layout.Has (L.crossApply s) [.source s]
  outerApply : ∀ s, Layout.Has (L.outerApply s) [.source s]
  nullary : ∀ node, Layout.Has (L.nullary node) []
  dialectUnary : ∀ node a, Layout.Has (L.dialectUnary node a) [.expr a]
  dialectBinary : ∀ node a b, Layout.Has (L.dialectBinary node a b) [.expr a, .expr b]
  variadic : ∀ node operands, Layout.Has (L.variadic node operands) (operands.map .expr)

/-- Every layout has the parts of its stop, in the order of the walk. -/
theorem Scheme.Walks.layout_has {L : Scheme X} {r : Route} (h : L.Walks r) (stop : Stop X) :
    Layout.Has (L.layout stop) (stop.parts r) := by
  cases stop with
  | expr e =>
    cases e with
    | call name args niladic type => exact h.call name args niladic type
    | unary op a type => exact h.unary op a type
    | binary op a b kind type => exact h.binary op a b kind
    | nullary node => exact h.nullary node
    | dialectUnary node a => exact h.dialectUnary node a
    | dialectBinary node a b => exact h.dialectBinary node a b
    | variadic node operands => exact h.variadic node operands
    | _ => exact Layout.has_laid (by simp [Stop.parts, Expr.parts])
  | query q => exact Layout.has_laid q.parts_slots
  | source s =>
    cases s with
    | crossApply s => exact h.crossApply s
    | outerApply s => exact h.outerApply s
    | table schema name label =>
      exact Layout.has_laid (by cases label <;> simp [Stop.parts, Source.parts])
    | _ => exact Layout.has_laid (by simp [Stop.parts, Source.parts])
  | rowLimit limit offset => exact h.rowLimit limit offset
  | label name => exact Layout.has_laid rfl

end SqlScribe
