import SqlScribe.Dialect.Basic
import SqlScribe.Expr.Equality
import SqlScribe.MySql.CastRules

/-!
# The MySQL dialect

MySQL quotes identifiers with backticks, and a backslash escapes inside its strings. It adds regular
expressions, collations and integer division, and lets several expressions stand side by side in the
place of one argument. Beyond these nodes it writes differently only what it has no standard form
for: a sum of strings is a call of `CONCAT`, a conversion names its target by a cast rule, an
applied source is a lateral join, and an offset without a limit gets the largest limit.
-/

namespace SqlScribe.MySql

open Emit

/-! ## Nodes -/

/-- Expressions with one operand that MySQL adds. -/
inductive UnaryNode where
  /-- The value in a character set, compared by a collation. -/
  | collate (charset collation : String)
deriving DecidableEq

/-- Expressions with two operands that MySQL adds. -/
inductive BinaryNode where
  /-- A match with a regular expression. -/
  | regexp
  | integerDivision
  /-- Equality that keeps indexes out of it. It can stand in a tree but has no text. -/
  | nonOptimizedEqual
deriving DecidableEq

/-- Expressions with any number of operands that MySQL adds. -/
inductive VariadicNode where
  /-- Several expressions side by side in the place of one argument, as in `INTERVAL 1 DAY`. -/
  | sideBySide
deriving DecidableEq

/-- The nodes that MySQL adds. -/
abbrev signature : Signature := ⟨Empty, UnaryNode, BinaryNode, VariadicNode⟩

instance : signature.Comparable := ⟨inferInstance, inferInstance, inferInstance, inferInstance⟩

/-! ## Rules -/

/-- The quote character around identifiers. -/
def identifierQuote : Char := '`'

/-- An identifier between its quotes. -/
def quote (name : String) : String :=
  Text.quoteWith identifierQuote name

/-- The contents of a string literal; a backslash is written twice too. -/
def escape (contents : String) : String :=
  Text.doubleIn (fun c => c == '\'' || c == '\\') contents

/-- What the name of a system variable starts with. -/
def variableSigil : String := "@@"

/-- A call; a system variable is written as its name alone. -/
def call (name : String) (args : List Emit) (niladic : Bool) : Emit :=
  if Text.startsWith name variableSigil then write name else Standard.call name args niladic

/-- The value of a cast, by a plan. A decimal plus zero in floating point notation is a double, on
servers that cannot cast to one. -/
def castBy (plan : CastPlan) (value : Emit) : Emit :=
  match plan with
  | .direct keyword => Standard.cast value keyword
  | .throughDecimal _ => parenthesized do
    Standard.cast value plan.keyword
    write " + 0e0"

/-- A conversion to a type. The plan for it comes before the value. -/
def convert (rules : CastRules) (support : CastSupport) (value : Emit) (type : SqlType) : Emit :=
  match rules.planFor support type.name with
  | .error e => throw e
  | .ok plan => do
    inOrder ((plan.events type.name).map note)
    castBy plan value

/-- An operator on one operand; only conversions differ from the standard. -/
def unary (rules : CastRules) (support : CastSupport) (op : UnaryOp) (part : Operand signature)
    (type : Option SqlType) : Emit :=
  match op, type with
  | .convert, some type => convert rules support part.write type
  | _, _ => Standard.unary op part type

/-- The operator adds two strings to a string. -/
def isConcatenation (op : BinaryOp) (left right : Expr signature) (kind : ScalarKind) : Bool :=
  op = .add && kind = .string && left.isString && right.isString

/-- An operator between two operands; only the addition of strings differs from the standard. -/
def binary (op : BinaryOp) (left right : Operand signature) (kind : ScalarKind) : Emit :=
  if isConcatenation op left.expr right.expr kind then
    Standard.call "CONCAT" [left.write, right.write] false
  else
    Standard.binary op left right

/-- The limit, then the offset, which cannot stand without a limit. -/
def rowLimit (limit offset : Option Emit) : Emit :=
  match limit, offset with
  | none, none => nothing
  | some limit, none => do
    write "LIMIT "
    limit
  | none, some offset => do
    note .limitSupplied
    write ("LIMIT " ++ Workaround.largestLimitText)
    write " OFFSET "
    offset
  | some limit, some offset => do
    write "LIMIT "
    limit
    write " OFFSET "
    offset

/-- A lateral join on a condition that always holds. -/
def lateral (word : String) (source : Emit) : Emit := do
  write word
  source
  write " ON TRUE"

/-- A value in a character set, compared by a collation; both have to be named. -/
def collate (charset collation : String) (value : Emit) : Emit :=
  if charset.isEmpty then
    throw (.missingPart "Collate" "charset")
  else if collation.isEmpty then
    throw (.missingPart "Collate" "collation")
  else do
    write "CONVERT("
    value
    write (" USING " ++ charset ++ ") COLLATE " ++ collation)

/-- Expressions with one operand. -/
def dialectUnary (node : UnaryNode) (value : Emit) : Emit :=
  match node with
  | .collate charset collation => collate charset collation value

/-- Expressions with two operands. -/
def dialectBinary (node : BinaryNode) (left right : Emit) : Emit :=
  match node with
  | .regexp => do
    left
    write " REGEXP "
    right
  | .integerDivision => do
    parenthesized left
    write " DIV "
    parenthesized right
  | .nonOptimizedEqual => throw (.unsupportedOperator "NonOptimizedEqual")

/-- Expressions with any number of operands. -/
def variadic (node : VariadicNode) (parts : List Emit) : Emit :=
  match node with
  | .sideBySide => separated " " parts

/-- MySQL on a server with the given cast support, by a list of cast rules. -/
def dialect (support : CastSupport) (rules : CastRules) : Dialect signature where
  quote := quote
  escape := escape
  rowLimit := rowLimit
  call := call
  unary := unary rules support
  binary := binary
  crossApply := lateral "JOIN LATERAL "
  outerApply := lateral "LEFT JOIN LATERAL "
  nullary := nofun
  dialectUnary := dialectUnary
  dialectBinary := dialectBinary
  variadic := variadic

end SqlScribe.MySql
