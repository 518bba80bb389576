import SqlScribe.Dialect.Write

/-!
# Sessions

A session is a sequence of calls in one dialect that share a text. Most calls append to the text,
also when they fail; compiling a query or an expression starts from an empty text, hands the result
over and leaves the text empty.
-/

namespace SqlScribe

/-- Which rule writes a construct: the dialect's, or the standard one over parts that are still
written in the dialect. -/
inductive Rule where
  | dialect
  | standard
deriving DecidableEq

/-- The calls of a session. -/
inductive Call (X : Signature) where
  | compileQuery (query : Query X)
  | compileExpr (expr : Expr X)
  | expr (rule : Rule) (expr : Expr X)
  /-- An expression in the place of an operand. -/
  | operand (expr : Expr X)
  | literal (value : Literal)
  | query (rule : Rule) (query : Query X)
  | rowLimit (rule : Rule) (query : Query X)
  | source (rule : Rule) (source : Source X)
  | crossApply (rule : Rule) (source : Source X)
  | outerApply (rule : Rule) (source : Source X)
  /-- The rule of the construct that the expression is, without a say on expressions at large. -/
  | node (rule : Rule) (expr : Expr X)
  | list (items : List (Expr X)) (separator : String)
  | quote (name : String)
  | escape (contents : String)
  | push (text : String)
  | clear

namespace Dialect

open Emit

variable {X : Signature}

/-- Runs an action on an empty text and hands over what it wrote. The text is empty afterwards,
also if the action fails. -/
def compiling (action : Emit) : EmitM String := fun o =>
  match action { o with sql := "" } with
  | .ok _ o => .ok o.sql { o with sql := "" }
  | .error e o => .error e { o with sql := "" }

/-- The text of a query, which the log records. -/
def compileQuery (D : Dialect X) (q : Query X) : EmitM String := do
  let sql ← compiling (D.writeQuery q)
  note (.queryWritten sql)
  return sql

/-- The text of an expression. -/
def compileExpr (D : Dialect X) (e : Expr X) : EmitM String :=
  compiling (D.writeExpr e)

/-- The standard rule of the construct that an expression is. -/
def standardNode (D : Dialect X) : Expr X → Emit
  | .call name args niladic _ => Standard.call name (args.map D.writeExpr) niladic
  | .unary op a type => Standard.unary op (D.operand a) type
  | .binary op a b _ _ => Standard.binary op (D.operand a) (D.operand b)
  | e => D.standardExpr e

/-- Writes what a call asks for, by its rule. -/
def ruled (rule : Rule) (dialect standard : Emit) : Emit :=
  match rule with
  | .dialect => dialect
  | .standard => standard

/-- Runs a call that hands over no text. -/
def silently (action : Emit) : EmitM (Option String) := do
  action
  return none

/-- Runs a call, which may hand over a text. -/
def run (D : Dialect X) : Call X → EmitM (Option String)
  | .compileQuery q => some <$> D.compileQuery q
  | .compileExpr e => some <$> D.compileExpr e
  | .expr rule e => silently (ruled rule (D.writeExpr e) (D.standardExpr e))
  | .operand e => silently (Standard.operand (D.operand e))
  | .literal value => silently (write (value.text D.escape))
  | .query rule q => silently (ruled rule (D.writeQuery q) (D.standardQuery q))
  | .rowLimit rule q =>
    silently (ruled rule (D.writeRowLimit q)
      (Standard.rowLimit (q.limit.map D.writeExpr) (q.offset.map D.writeExpr)))
  | .source rule s => silently (ruled rule (D.writeSource s) (D.standardSource s))
  | .crossApply rule s =>
    silently (ruled rule (D.crossApply (D.writeSource s)) (Standard.crossApply (D.writeSource s)))
  | .outerApply rule s =>
    silently (ruled rule (D.outerApply (D.writeSource s)) (Standard.outerApply (D.writeSource s)))
  | .node rule e => silently (ruled rule (D.standardExpr e) (D.standardNode e))
  | .list items separator => silently (separated separator (items.map D.writeExpr))
  | .quote name => return some (D.quote name)
  | .escape contents => return some (D.escape contents)
  | .push text => silently (write text)
  | .clear => silently (modify fun o => { o with sql := "" })

end Dialect

/-- What a call leaves: the text that it hands over, or its error; the text of the session after
it; and its events. -/
structure Reply where
  outcome : Except Error (Option String)
  sql : String
  events : List Event

namespace Session

variable {X : Signature}

/-- A call in a session with the given text. -/
def step (D : Dialect X) (sql : String) (call : Call X) : Reply :=
  match D.run call { sql } with
  | .ok result o => ⟨.ok result, o.sql, o.events⟩
  | .error e o => ⟨.error e, o.sql, o.events⟩

/-- The replies to calls in a session that starts with the given text. -/
def replies (D : Dialect X) : String → List (Call X) → List Reply
  | _, [] => []
  | sql, call :: calls =>
    let reply := step D sql call
    reply :: replies D reply.sql calls

end Session

end SqlScribe
