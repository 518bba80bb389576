import SqlScribe.Expr.Basic

/-!
# Building a query

A query is built by edits, each of which touches one clause: columns, sources and sort keys are
added at the end of their clause, and a predicate, a limit or an offset takes the place of an
earlier one.
-/

namespace SqlScribe.Query

variable {X : Signature}

/-- The query with another output column. -/
def addColumn (q : Query X) (expr : Expr X) (label : Option String) : Query X :=
  { q with columns := q.columns ++ [⟨expr, label⟩] }

/-- The query with another row source. -/
def addSource (q : Query X) (source : Source X) : Query X :=
  { q with sources := q.sources ++ [source] }

/-- The query with another sort key. -/
def sortBy (q : Query X) (expr : Expr X) (ascending : Bool) : Query X :=
  { q with sortKeys := q.sortKeys ++ [⟨expr, ascending⟩] }

/-- The query with the given predicate. -/
def restrict (q : Query X) (predicate : Expr X) : Query X :=
  { q with predicate := some predicate }

/-- The query with the given limit. -/
def limitTo (q : Query X) (limit : Expr X) : Query X :=
  { q with limit := some limit }

/-- The query with the given offset. -/
def skip (q : Query X) (offset : Expr X) : Query X :=
  { q with offset := some offset }

/-- An edit of a query. -/
inductive Edit (X : Signature) where
  | addColumn (expr : Expr X) (label : Option String)
  | addSource (source : Source X)
  | restrict (predicate : Expr X)
  | sortBy (expr : Expr X) (ascending : Bool)
  | limitTo (limit : Expr X)
  | skip (offset : Expr X)

/-- The query after an edit. -/
def edit (q : Query X) : Edit X → Query X
  | .addColumn expr label => q.addColumn expr label
  | .addSource source => q.addSource source
  | .restrict predicate => q.restrict predicate
  | .sortBy expr ascending => q.sortBy expr ascending
  | .limitTo limit => q.limitTo limit
  | .skip offset => q.skip offset

/-- The query that edits build from nothing. -/
def build (edits : List (Edit X)) : Query X :=
  edits.foldl edit {}

end SqlScribe.Query
