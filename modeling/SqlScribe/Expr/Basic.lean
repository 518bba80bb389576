import SqlScribe.Literal
import SqlScribe.Operator
import SqlScribe.SqlType

/-!
# Expressions, queries and row sources

The three kinds of trees that have a text: an `Expr` is a scalar expression, a `Query` selects
rows, and a `Source` is where its rows come from. They contain one another, so they are defined
together.

A dialect may have expressions of its own. A `Signature` names them by how many operands they
take; the trees of a dialect without any are those over `Signature.none`.
-/

namespace SqlScribe

/-- The expression nodes that a dialect adds, by their operands. -/
structure Signature where
  /-- Nodes without operands. -/
  Nullary : Type
  /-- Nodes with one operand. -/
  Unary : Type
  /-- Nodes with two operands. -/
  Binary : Type
  /-- Nodes with any number of operands. -/
  Variadic : Type

/-- No node but the ones that every dialect has. -/
abbrev Signature.none : Signature := ⟨Empty, Empty, Empty, Empty⟩

mutual

/-- Scalar expressions. Where a node can know the type of its value, it carries it. -/
inductive Expr (X : Signature) where
  | literal (value : Literal) (type : Option SqlType)
  | parameter (name : String) (type : Option SqlType)
  | column (table : Option String) (name : String) (type : Option SqlType)
  /-- Text that is written as it stands. -/
  | raw (text : String)
  /-- A call, without parentheses and arguments if the function is niladic. -/
  | call (name : String) (args : List (Expr X)) (niladic : Bool) (type : Option SqlType)
  | unary (op : UnaryOp) (operand : Expr X) (type : Option SqlType)
  | binary (op : BinaryOp) (left right : Expr X) (kind : ScalarKind) (type : Option SqlType)
  | like (subject pattern : Expr X) (escape : Option (Expr X))
  | member (item : Expr X) (values : List (Expr X)) (negated : Bool)
  | choice (operand : Option (Expr X)) (branches : List (Branch X)) (otherwise : Option (Expr X))
    (type : Option SqlType)
  /-- Whether a query has rows. -/
  | existence (query : Query X) (negated : Bool)
  /-- The value that a query yields. -/
  | scalar (query : Query X)
  | nullary (node : X.Nullary)
  | dialectUnary (node : X.Unary) (operand : Expr X)
  | dialectBinary (node : X.Binary) (left right : Expr X)
  | variadic (node : X.Variadic) (operands : List (Expr X))

/-- A branch of a choice: the result, if the test holds. -/
structure Branch (X : Signature) where
  test : Expr X
  result : Expr X

/-- A column of a query's result. -/
structure OutputColumn (X : Signature) where
  expr : Expr X
  label : Option String

/-- A key to sort rows by. -/
structure SortKey (X : Signature) where
  expr : Expr X
  ascending : Bool

/-- Queries, clause by clause. -/
structure Query (X : Signature) where
  distinct : Bool := false
  columns : List (OutputColumn X) := []
  sources : List (Source X) := []
  predicate : Option (Expr X) := none
  groupKeys : List (Expr X) := []
  groupPredicate : Option (Expr X) := none
  sortKeys : List (SortKey X) := []
  limit : Option (Expr X) := none
  offset : Option (Expr X) := none

/-- Row sources. A join names only the source that it adds to the ones before it; an applied source
may refer to them. -/
inductive Source (X : Signature) where
  | table (schema : Option String) (name : String) (label : Option String)
  | derived (query : Query X) (label : String)
  | innerJoin (source : Source X) (condition : Expr X)
  | leftJoin (source : Source X) (condition : Expr X)
  | crossJoin (source : Source X)
  | crossApply (source : Source X)
  | outerApply (source : Source X)

end

namespace Expr

variable {X : Signature}

/-- The type that a node carries. -/
def type? : Expr X → Option SqlType
  | literal _ type => type
  | parameter _ type => type
  | column _ _ type => type
  | call _ _ _ type => type
  | unary _ _ type => type
  | binary _ _ _ _ type => type
  | choice _ _ _ type => type
  | _ => none

/-- An operator that would not keep its operands together among other operators. -/
def isOperator : Expr X → Bool
  | binary .. => true
  | like .. => true
  | _ => false

/-- The value of the expression is a string. An operator that carries no type is typed by its kind,
so a sum of sums of strings is a string. -/
def isString : Expr X → Bool
  | binary _ _ _ kind none => kind = .string
  | e => e.type?.any SqlType.isString

end Expr

end SqlScribe
