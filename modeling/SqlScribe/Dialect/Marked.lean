import SqlScribe.Dialect.Basic

/-!
# Marked text

A dialect can be made to mark the text of every construct that passes through one of its rules, and
so show how it walked a tree: `marked` puts an opening mark before the text and, if writing it
succeeds, a closing mark behind it.
-/

namespace SqlScribe.Dialect

open Emit

/-- The constructs that have a rule in every dialect. -/
inductive Construct where
  | expr
  | query
  | rowLimit
  | source
  | call
  | unary
  | binary
  | crossApply
  | outerApply
deriving DecidableEq

namespace Construct

/-- The letter that stands for a construct. -/
def letter : Construct → String
  | expr => "v"
  | query => "s"
  | rowLimit => "l"
  | source => "t"
  | call => "f"
  | unary => "u"
  | binary => "b"
  | crossApply => "c"
  | outerApply => "o"

end Construct

/-- What is written before and behind the text of each construct. -/
structure Marks where
  opening : Construct → String
  closing : Construct → String

namespace Marks

/-- Writes a construct's text between its marks. -/
def around (marks : Marks) (construct : Construct) (body : Emit) : Emit := do
  write (marks.opening construct)
  body
  write (marks.closing construct)

/-- A letter and a brace before, a brace behind. -/
def braces : Marks where
  opening construct := construct.letter ++ "\x7b"
  closing _ := "\x7d"

end Marks

variable {X : Signature}

/-- The dialect with marks around the text of each construct. -/
def marked (D : Dialect X) (marks : Marks) : Dialect X :=
  { D with
    expr e standard := marks.around .expr (D.expr e standard)
    query q standard := marks.around .query (D.query q standard)
    source s standard := marks.around .source (D.source s standard)
    rowLimit limit offset := marks.around .rowLimit (D.rowLimit limit offset)
    call name args niladic := marks.around .call (D.call name args niladic)
    unary op part type := marks.around .unary (D.unary op part type)
    binary op left right kind := marks.around .binary (D.binary op left right kind)
    crossApply s := marks.around .crossApply (D.crossApply s)
    outerApply s := marks.around .outerApply (D.outerApply s) }

/-- Standard rules with quoting and escaping that are easy to tell from the standard ones, and
numbers of days as the only node of its own. -/
def plain : Dialect daySignature where
  quote := Text.quoteWith '|'
  escape contents := "~" ++ Standard.escape contents
  nullary days := write ("x\x7b" ++ days.text ++ "\x7d")
  dialectUnary := nofun
  dialectBinary := nofun
  variadic := nofun

/-- The plain dialect with every construct in braces. -/
def braced : Dialect daySignature :=
  plain.marked .braces

end SqlScribe.Dialect
