import SqlScribe.Dialect.Standard

/-!
# Dialects

A dialect is a record of rules. The rule of a construct says how to write it, given the actions that
write its parts in the same dialect, so a dialect replaces a rule without having to walk the tree.
The rules for whole expressions, queries and sources are given the standard text instead and may
put something around it or in its place.

Except for the nodes that a dialect adds, every rule is the standard one unless it is replaced.
`Dialect.ansi` is the standard itself. The others show how little it takes to depart from it:
`Dialect.timestamped` replaces one function, and `Dialect.days` adds a node and replaces one
operator.
-/

namespace SqlScribe

/-- How to write the trees over a signature. -/
structure Dialect (X : Signature) where
  /-- An identifier between its quotes. -/
  quote : String → String := Standard.quote
  /-- The contents of a string literal, safe between single quotes. -/
  escape : String → String := Standard.escape
  /-- Any expression, given its standard text. -/
  expr : Expr X → Emit → Emit := fun _ standard => standard
  /-- Any query, given its standard text. -/
  query : Query X → Emit → Emit := fun _ standard => standard
  /-- Any row source, given its standard text. -/
  source : Source X → Emit → Emit := fun _ standard => standard
  /-- The limit and the offset of a query. -/
  rowLimit : Option Emit → Option Emit → Emit := Standard.rowLimit
  /-- A call, by the name of the function, its arguments and whether it is niladic. -/
  call : String → List Emit → Bool → Emit := Standard.call
  /-- An operator on one operand, with the type of its result. -/
  unary : UnaryOp → Operand X → Option SqlType → Emit := Standard.unary
  /-- An operator between two operands, with the kind of its result. -/
  binary : BinaryOp → Operand X → Operand X → ScalarKind → Emit :=
    fun op left right _ => Standard.binary op left right
  /-- A source applied to each row, which drops the rows that it has nothing for. -/
  crossApply : Emit → Emit := Standard.crossApply
  /-- A source applied to each row, which keeps the rows that it has nothing for. -/
  outerApply : Emit → Emit := Standard.outerApply
  /-- A node of the dialect's own without operands. -/
  nullary : X.Nullary → Emit
  /-- A node of the dialect's own with one operand. -/
  dialectUnary : X.Unary → Emit → Emit
  /-- A node of the dialect's own with two operands. -/
  dialectBinary : X.Binary → Emit → Emit → Emit
  /-- A node of the dialect's own with any number of operands. -/
  variadic : X.Variadic → List Emit → Emit

namespace Dialect

open Emit

/-- Standard SQL. -/
def ansi : Dialect .none where
  nullary := nofun
  dialectUnary := nofun
  dialectBinary := nofun
  variadic := nofun

/-! ## A function by another name -/

/-- The function `NOW` is the constant `CURRENT_TIMESTAMP`, whatever its arguments are. -/
def timestampedCall (name : String) (args : List Emit) (niladic : Bool) : Emit :=
  if name = "NOW" then write "CURRENT_TIMESTAMP" else Standard.call name args niladic

/-- Standard SQL that spells the current time in full. -/
def timestamped : Dialect .none :=
  { ansi with call := timestampedCall }

/-! ## Intervals of days -/

/-- A number of days. -/
structure Days where
  count : Int
deriving DecidableEq

/-- A dialect whose only node of its own is a number of days. -/
abbrev daySignature : Signature := ⟨Days, Empty, Empty, Empty⟩

/-- The decimal text of a number of days. -/
def Days.text (days : Days) : String :=
  String.ofList (Literal.integerText days.count)

/-- A negation is a difference from zero; the other operators are standard. -/
def daysUnary (op : UnaryOp) (part : Operand daySignature) (type : Option SqlType) : Emit :=
  match op with
  | .negate => parenthesized do
    write "0 - "
    part.write
  | _ => Standard.unary op part type

/-- Standard SQL with intervals of days. -/
def days : Dialect daySignature where
  unary := daysUnary
  nullary days := write ("INTERVAL '" ++ days.text ++ "' DAY")
  dialectUnary := nofun
  dialectBinary := nofun
  variadic := nofun

end Dialect

end SqlScribe
