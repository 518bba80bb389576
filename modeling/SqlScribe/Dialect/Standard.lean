import SqlScribe.Emit
import SqlScribe.Expr.Basic

/-!
# The standard rules

How standard SQL writes each construct, given the actions that write its parts. No rule looks
further into a part than at the expression that it writes, so a rule serves every dialect that does
not replace it.
-/

namespace SqlScribe

/-- A subexpression together with the action that writes it. -/
structure Operand (X : Signature) where
  expr : Expr X
  write : Emit

namespace Standard

open Emit

variable {X : Signature}

/-- The quote character around identifiers. -/
def identifierQuote : Char := '"'

/-- An identifier between its quotes. -/
def quote (name : String) : String :=
  Text.quoteWith identifierQuote name

/-- The contents of a string literal, safe between single quotes. -/
def escape (contents : String) : String :=
  Text.doubleIn (· == '\'') contents

/-! ## Expressions -/

/-- An operand among other operators: one that is an operator itself gets parentheses, so that the
text groups as the tree does. -/
def operand (part : Operand X) : Emit :=
  if part.expr.isOperator then parenthesized part.write else part.write

/-- A name, behind the name of what it belongs to if that is given. -/
def qualified (quote : String → String) (owner : Option String) (name : String) : String :=
  match owner with
  | some owner => quote owner ++ "." ++ quote name
  | none => quote name

/-- A call with its arguments in parentheses; a niladic function has neither. -/
def call (name : String) (args : List Emit) (niladic : Bool) : Emit :=
  if niladic then
    write name
  else do
    write name
    parenthesized (separated ", " args)

/-- A cast of a value to a target type. -/
def cast (value : Emit) (target : String) : Emit := do
  write "CAST("
  value
  write (" AS " ++ target ++ ")")

/-- What a conversion without a target type fails with. -/
def missingType : Error :=
  .missingPart "Convert" "type mapping"

/-- An operator on one operand. A conversion needs the type that it converts to. -/
def unary (op : UnaryOp) (part : Operand X) (type : Option SqlType) : Emit :=
  match op with
  | .not => do
    write "NOT "
    parenthesized part.write
  | .negate => do
    write "-"
    operand part
  | .isNull => do
    operand part
    write " IS NULL"
  | .isNotNull => do
    operand part
    write " IS NOT NULL"
  | .convert =>
    match type with
    | none => throw missingType
    | some type => cast part.write type.name

/-- An operator between two operands. -/
def binary (op : BinaryOp) (left right : Operand X) : Emit := do
  operand left
  write (" " ++ op.token ++ " ")
  operand right

/-- A pattern match. -/
def like (subject pattern : Emit) (escape : Option Emit) : Emit := do
  subject
  write " LIKE "
  pattern
  led " ESCAPE " escape

/-- Membership in a list of values. -/
def member (item : Operand X) (values : List Emit) (negated : Bool) : Emit := do
  operand item
  writeIf negated " NOT"
  write " IN "
  parenthesized (separated ", " values)

/-- A branch of a choice. -/
def branch (test result : Emit) : Emit := do
  write " WHEN "
  test
  write " THEN "
  result

/-- A choice between branches. -/
def choice (subject : Option Emit) (branches : List Emit) (otherwise : Option Emit) : Emit := do
  write "CASE"
  led " " subject
  inOrder branches
  led " ELSE " otherwise
  write " END"

/-- Whether a query has rows. -/
def existence (query : Emit) (negated : Bool) : Emit := do
  writeIf negated "NOT "
  write "EXISTS "
  parenthesized query

/-! ## Row sources -/

/-- What a source or a column is called in the rest of the query. -/
def labelled (quote : String → String) (label : Option String) : Emit :=
  led " AS " (label.map fun name => write (quote name))

/-- A table of the store. -/
def table (quote : String → String) (schema : Option String) (name : String)
    (label : Option String) : Emit := do
  write (qualified quote schema name)
  labelled quote label

/-- The rows of a query, as a source of another. -/
def derived (quote : String → String) (query : Emit) (label : String) : Emit := do
  parenthesized query
  labelled quote (some label)

/-- A join on a condition. -/
def join (word : String) (source condition : Emit) : Emit := do
  write word
  source
  write " ON "
  condition

/-- A source that each row of the sources before it is joined with. -/
def crossJoin (source : Emit) : Emit := do
  write "CROSS JOIN "
  source

/-- A source that is evaluated anew for each row of the sources before it. -/
def crossApply (source : Emit) : Emit := do
  write "CROSS APPLY "
  source

/-- Like `crossApply`, and keeps the rows for which the source is empty. -/
def outerApply (source : Emit) : Emit := do
  write "OUTER APPLY "
  source

/-! ## Queries -/

/-- The columns of a result; a query without any selects the constant one. -/
def columns (parts : List Emit) : Emit :=
  if parts.isEmpty then write "1" else separated ", " parts

/-- A column of a result. -/
def outputColumn (quote : String → String) (expr : Emit) (label : Option String) : Emit := do
  expr
  labelled quote label

/-- A key to sort by. -/
def sortKey (expr : Emit) (ascending : Bool) : Emit := do
  expr
  writeIf (!ascending) " DESC"

/-- How many rows to skip, then how many to fetch. -/
def rowLimit (limit offset : Option Emit) : Emit := do
  match offset with
  | none => nothing
  | some offset => do
    write "OFFSET "
    offset
    write " ROWS"
  match limit with
  | none => nothing
  | some limit => do
    writeIf offset.isSome " "
    write "FETCH FIRST "
    limit
    write " ROWS ONLY"

/-- The actions that write the clauses of a query. -/
structure Clauses where
  columns : List Emit
  sources : List Emit
  predicate : Option Emit
  groupKeys : List Emit
  groupPredicate : Option Emit
  sortKeys : List Emit
  /-- The restriction of the rows, if there is one. -/
  rowLimit : Option Emit

/-- A query, each clause on a line of its own. -/
def query (distinct : Bool) (clauses : Clauses) : Emit := do
  write "SELECT "
  writeIf distinct "DISTINCT "
  columns clauses.columns
  clause "\nFROM " "\n" clauses.sources
  led "\nWHERE " clauses.predicate
  clause "\nGROUP BY " ", " clauses.groupKeys
  led "\nHAVING " clauses.groupPredicate
  clause "\nORDER BY " ", " clauses.sortKeys
  led "\n" clauses.rowLimit

end Standard

end SqlScribe
