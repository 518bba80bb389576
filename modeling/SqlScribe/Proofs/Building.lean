import SqlScribe.Dialect.Basic
import SqlScribe.Edit
import SqlScribe.Session

/-!
# Building clause by clause

Each edit of a query touches one clause and leaves the others alone. So a query that is built by
edits shows in each clause what was said about that clause: all of it in the clauses that are lists,
and the last of it in the others (`build_eq`). How edits of different clauses come one after another
makes no difference (`build_congr`), and no edit is without a trace (`build_eq_default_iff`).
-/

namespace SqlScribe.Query

variable {X : Signature}

/-! ## What an edit says -/

/-- The clauses that edits touch. -/
inductive Clause where
  | columns
  | sources
  | predicate
  | sortKeys
  | limit
  | offset
deriving DecidableEq

/-- What an edit can say about a clause. -/
abbrev Clause.Entry (X : Signature) : Clause → Type
  | columns => OutputColumn X
  | sources => Source X
  | predicate => Expr X
  | sortKeys => SortKey X
  | limit => Expr X
  | offset => Expr X

namespace Edit

/-- The clause that the edit touches. -/
def clause : Edit X → Clause
  | addColumn _ _ => .columns
  | addSource _ => .sources
  | restrict _ => .predicate
  | sortBy _ _ => .sortKeys
  | limitTo _ => .limit
  | skip _ => .offset

/-- What the edit says about its clause. -/
def entry : (e : Edit X) → e.clause.Entry X
  | addColumn expr label => ⟨expr, label⟩
  | addSource source => source
  | restrict predicate => predicate
  | sortBy expr ascending => ⟨expr, ascending⟩
  | limitTo limit => limit
  | skip offset => offset

/-- What the edit says about a clause, if it touches that clause. -/
def entry? (clause : Clause) (e : Edit X) : Option (clause.Entry X) :=
  if h : e.clause = clause then some (h ▸ e.entry) else none

theorem entry?_self (e : Edit X) : e.entry? e.clause = some e.entry :=
  dif_pos rfl

theorem entry?_of_ne {clause : Clause} {e : Edit X} (h : e.clause ≠ clause) :
    e.entry? clause = none :=
  dif_neg h

end Edit

/-- What edits say about a clause, in their order. -/
def entries (clause : Clause) (edits : List (Edit X)) : List (clause.Entry X) :=
  edits.filterMap (Edit.entry? clause)

theorem entries_cons (clause : Clause) (e : Edit X) (edits : List (Edit X)) :
    entries clause (e :: edits) = (e.entry? clause).toList ++ entries clause edits := by
  unfold entries
  cases h : e.entry? clause with
  | none => rw [List.filterMap_cons_none h, Option.toList_none, List.nil_append]
  | some entry => rw [List.filterMap_cons_some h, Option.toList_some, List.singleton_append]

/-- The last of what edits say about a clause is the last of what all but the first say about it,
if they say anything. -/
theorem getLast?_entries_cons (clause : Clause) (e : Edit X) (edits : List (Edit X))
    (old : Option (clause.Entry X)) :
    (entries clause (e :: edits)).getLast?.or old =
      (entries clause edits).getLast?.or ((e.entry? clause).or old) := by
  rw [entries_cons]
  cases e.entry? clause with
  | none => rfl
  | some entry =>
    rw [Option.toList_some, List.singleton_append, List.getLast?_cons, Option.some_or,
      Option.some_or]
    cases (entries clause edits).getLast? with
    | none => rfl
    | some last => rfl

/-- Only the edits of a clause say something about it. -/
theorem entries_filter (clause : Clause) (edits : List (Edit X)) :
    entries clause (edits.filter (·.clause = clause)) = entries clause edits := by
  induction edits with
  | nil => rfl
  | cons e edits ih =>
    by_cases he : e.clause = clause
    · rw [List.filter_cons_of_pos (by simpa using he), entries_cons, entries_cons, ih]
    · rw [List.filter_cons_of_neg (by simpa using he), entries_cons, Edit.entry?_of_ne he, ih,
        Option.toList_none, List.nil_append]

/-! ## What edits build -/

/-- One edit adds what it says to the lists of a query, and puts it in the place of what was in the
other clauses. -/
theorem edit_eq (q : Query X) (e : Edit X) :
    q.edit e =
      { q with
        columns := q.columns ++ (e.entry? .columns).toList
        sources := q.sources ++ (e.entry? .sources).toList
        predicate := (e.entry? .predicate).or q.predicate
        sortKeys := q.sortKeys ++ (e.entry? .sortKeys).toList
        limit := (e.entry? .limit).or q.limit
        offset := (e.entry? .offset).or q.offset } := by
  cases e <;>
    simp [edit, addColumn, addSource, restrict, sortBy, limitTo, skip, Edit.entry?, Edit.clause,
      Edit.entry]

/-- Edits add all that they say to the lists of a query, and put the last of it in the place of what
was in the other clauses. -/
theorem foldl_edit (q : Query X) (edits : List (Edit X)) :
    edits.foldl edit q =
      { q with
        columns := q.columns ++ entries .columns edits
        sources := q.sources ++ entries .sources edits
        predicate := (entries .predicate edits).getLast?.or q.predicate
        sortKeys := q.sortKeys ++ entries .sortKeys edits
        limit := (entries .limit edits).getLast?.or q.limit
        offset := (entries .offset edits).getLast?.or q.offset } := by
  induction edits generalizing q with
  | nil =>
    cases q
    simp [entries]
  | cons e edits ih =>
    rw [List.foldl_cons, ih, edit_eq]
    rw [getLast?_entries_cons .predicate, getLast?_entries_cons .limit,
      getLast?_entries_cons .offset]
    simp only [entries_cons, List.append_assoc]

/-- What is built, clause by clause: lists gather their entries, and of the rest the last entry
counts. -/
theorem build_eq (edits : List (Edit X)) :
    build edits =
      { columns := entries .columns edits
        sources := entries .sources edits
        predicate := (entries .predicate edits).getLast?
        sortKeys := entries .sortKeys edits
        limit := (entries .limit edits).getLast?
        offset := (entries .offset edits).getLast? } := by
  rw [build, foldl_edit]
  simp

/-- Edits that come in the same order in each clause build the same query. -/
theorem build_congr {edits edits' : List (Edit X)}
    (h : ∀ clause, edits.filter (·.clause = clause) = edits'.filter (·.clause = clause)) :
    build edits = build edits' := by
  have hentries : ∀ clause, entries clause edits = entries clause edits' := by
    intro clause
    rw [← entries_filter, h clause, entries_filter]
  rw [build_eq, build_eq]
  simp only [hentries]

/-- Only no edits at all build the empty query. -/
theorem build_eq_default_iff (edits : List (Edit X)) : build edits = {} ↔ edits = [] := by
  constructor
  · intro h
    rw [build_eq, Query.mk.injEq] at h
    obtain ⟨-, hcolumns, hsources, hpredicate, -, -, hsortKeys, hlimit, hoffset⟩ := h
    have hentries : ∀ clause, entries clause edits = [] := by
      intro clause
      cases clause with
      | columns => exact hcolumns
      | sources => exact hsources
      | predicate => exact List.getLast?_eq_none_iff.1 hpredicate
      | sortKeys => exact hsortKeys
      | limit => exact List.getLast?_eq_none_iff.1 hlimit
      | offset => exact List.getLast?_eq_none_iff.1 hoffset
    cases edits with
    | nil => rfl
    | cons e edits =>
      -- The first edit has left what it says in its clause.
      have hfirst := hentries e.clause
      rw [entries_cons, Edit.entry?_self] at hfirst
      exact absurd hfirst (List.cons_ne_nil _ _)
  · rintro rfl
    rfl

/-- A query built by edits has in each clause what the edits say about it. Edits that come in the
same order in each clause build the same query with the same text, and only no edits at all build
the query without clauses. -/
theorem built_by_clause :
    (∀ edits : List (Edit X), build edits =
      { distinct := false
        columns := entries .columns edits
        sources := entries .sources edits
        predicate := (entries .predicate edits).getLast?
        groupKeys := []
        groupPredicate := none
        sortKeys := entries .sortKeys edits
        limit := (entries .limit edits).getLast?
        offset := (entries .offset edits).getLast? }) ∧
    (∀ edits edits' : List (Edit X),
      (∀ clause, edits.filter (·.clause = clause) = edits'.filter (·.clause = clause)) →
        build edits = build edits' ∧
          ∀ D : Dialect X, D.compileQuery (build edits) = D.compileQuery (build edits')) ∧
    ∀ edits : List (Edit X), build edits = {} ↔ edits = [] := by
  refine ⟨build_eq, ?_, build_eq_default_iff⟩
  intro edits edits' h
  have hbuild := build_congr h
  exact ⟨hbuild, fun D => congrArg D.compileQuery hbuild⟩

/-- Columns stay in order and the second predicate holds, whatever edits come between. -/
theorem interleaved_edits_build_alike :
    let a : Expr .none := .column none "a" none
    let b : Expr .none := .column none "b" none
    let edits : List (Edit .none) :=
      [.addColumn a none, .restrict a, .addSource (.table none "t" none), .addColumn b (some "c"),
        .restrict b, .skip (.raw "5")]
    let edits' : List (Edit .none) :=
      [.skip (.raw "5"), .restrict a, .restrict b, .addColumn a none, .addColumn b (some "c"),
        .addSource (.table none "t" none)]
    (∀ clause, edits.filter (·.clause = clause) = edits'.filter (·.clause = clause)) ∧
      build edits = build edits' ∧ (build edits).predicate = some b ∧
      Dialect.ansi.compileQuery (build edits) = Dialect.ansi.compileQuery (build edits') := by
  intro a b edits edits'
  have hclauses : ∀ clause,
      edits.filter (·.clause = clause) = edits'.filter (·.clause = clause) := by
    intro clause
    cases clause <;> rfl
  obtain ⟨hbuild, hcompile⟩ := built_by_clause.2.1 edits edits' hclauses
  exact ⟨hclauses, hbuild, rfl, hcompile Dialect.ansi⟩

end SqlScribe.Query
