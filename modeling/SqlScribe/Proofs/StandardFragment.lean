import SqlScribe.Proofs.Agreement
import SqlScribe.Proofs.Faults
import SqlScribe.Proofs.Rewriting
import SqlScribe.Proofs.RuleCongruence

/-!
# The standard part of MySQL

MySQL differs from standard SQL in its quotes and escapes and, beyond its own nodes, only in the
rules that it replaces. `MySql.isStandard` tells the stops at which no replaced rule makes a
difference. A tree of standard SQL that has no other stops can be written in MySQL, by any cast
rules and for any server, and what is written is what standard SQL with the quotes and escapes of
MySQL writes (`MySql.standard_fragment_agrees`).
-/

namespace SqlScribe

open Emit Piece

/-! ## Equal and successful -/

/-- The action never fails. -/
def EmitM.Succeeds {α : Type} (a : EmitM α) : Prop :=
  ∀ o, ∃ value o', a o = .ok value o'

/-- The pieces are the same and have no error. -/
def Piece.SameSound (p p' : Piece) : Prop := p' = p ∧ p.error = none

theorem Piece.sameSound_congruence : Congruence SameSound where
  text _ := ⟨rfl, rfl⟩
  append hp hq := by
    refine ⟨by rw [hp.1, hq.1], ?_⟩
    rw [error_append, hp.2, hq.2]
    rfl

/-- From the same piece without an error come the same actions, which succeed. -/
theorem Piece.sameSound_lifts : Lifts SameSound fun a a' => a' = a ∧ a.Succeeds where
  emit {p p'} hp := by
    refine ⟨by rw [hp.1], fun o => ⟨(), ?_⟩⟩
    rw [emit_ok_iff]
    exact hp.2
  compiling {a a'} ha := by
    refine ⟨by rw [ha.1], fun o => ?_⟩
    obtain ⟨_, o', ho'⟩ := ha.2 { o with sql := "" }
    exact ⟨_, _, Dialect.compiling_ok ho'⟩
  recorded {a a'} ha := by
    refine ⟨by rw [ha.1], fun o => ?_⟩
    obtain ⟨sql, o', ho'⟩ := ha.2 o
    exact ⟨_, _, Dialect.recorded_ok ho'⟩

namespace MySql

/-! ## The fragment -/

/-- Standard SQL with the quotes and escapes of MySQL. -/
def standardDialect : Dialect .none :=
  { Dialect.ansi with quote := quote, escape := escape }

theorem standardDialect_plain : standardDialect.Plain :=
  { Dialect.ansi_plain with }

/-- A tree of standard SQL as one of MySQL. -/
def embedding : Rewriting .none signature where
  nullary := nofun
  dialectUnary := nofun
  dialectBinary := nofun
  variadic := nofun
  isOperator_unary _ _ _ := rfl
  isOperator_nullary := nofun
  isOperator_dialectUnary := nofun
  isOperator_dialectBinary := nofun
  isOperator_variadic := nofun

/-- A tree of standard SQL is a string in MySQL exactly if it is one itself. -/
theorem isString_embedding (e : Expr .none) : (e.rewrite embedding).isString = e.isString := by
  cases e with
  | binary op a b kind type => cases type <;> rfl
  | nullary node => exact nomatch node
  | dialectUnary node => exact nomatch node
  | dialectBinary node => exact nomatch node
  | variadic node => exact nomatch node
  | _ => rfl

/-- The standard rule for the stop does not fail, and MySQL follows it: a function is no system
variable, a cast names its type by the type's own name, no strings are added, no source is applied
and the rows are not restricted. -/
def isStandard (support : CastSupport) (rules : CastRules) : Stop .none → Bool
  | .expr (.call name _ niladic _) => niladic || !Text.startsWith name variableSigil
  | .expr (.unary .convert _ type) =>
    type.any fun type => rules.planFor support type.name = .ok (.direct type.name)
  | .expr (.binary op a b kind _) => !(op = .add && kind = .string && a.isString && b.isString)
  | .source (.crossApply _) => false
  | .source (.outerApply _) => false
  | .rowLimit _ _ => false
  | _ => true

/-! ## The simulation -/

section

variable {support : CastSupport} {rules : CastRules}

theorem call_standard {name : String} {args : List (Expr .none)} {niladic : Bool}
    {type : Option SqlType}
    (hstandard : isStandard support rules (.expr (.call name args niladic type)) = true)
    (parts : List Piece) :
    call name (parts.map emit) niladic = Standard.call name (parts.map emit) niladic := by
  unfold call
  split
  · rename_i hsigil
    obtain rfl : niladic = true := by simpa [isStandard, hsigil] using hstandard
    rfl
  · rfl

theorem unary_standard {op : UnaryOp} {a : Expr .none} {type : Option SqlType}
    (hstandard : isStandard support rules (.expr (.unary op a type)) = true) {a' : Expr signature}
    (hoperator : a'.isOperator = a.isOperator) {p p' : Piece} (hp : SameSound p p') :
    SameSound (Standard.unary op ⟨a, emit p⟩ type).piece
      (unary rules support op ⟨a', emit p'⟩ type).piece := by
  by_cases hop : op = .convert
  · subst hop
    cases type with
    | none => exact nomatch hstandard
    | some type =>
      have hplan : rules.planFor support type.name = .ok (.direct type.name) := by
        simpa [isStandard] using hstandard
      rw [Standard.unary_convert_emit, unary_convert_emit, piece_emit, piece_emit,
        convertPiece_of_direct hplan]
      exact sameSound_congruence.between _ _ hp
  · rw [unary_eq_standard _ _ _ fun h => absurd h hop]
    exact Standard.unary_congr sameSound_congruence hop hoperator hp type type

theorem binary_standard {op : BinaryOp} {a b : Expr .none} {kind : ScalarKind}
    {type : Option SqlType}
    (hstandard : isStandard support rules (.expr (.binary op a b kind type)) = true) :
    isConcatenation op (a.rewrite embedding) (b.rewrite embedding) kind = false := by
  unfold isConcatenation
  rw [isString_embedding, isString_embedding]
  exact Bool.not_eq_true' _ ▸ hstandard

/-- The restriction of the rows is no stop of a query in the fragment. -/
theorem rowLimit_standard {q : Query .none}
    (hstops : ∀ stop ∈ q.trail Standard.route, isStandard support rules stop = true) :
    q.limit = none ∧ q.offset = none := by
  simp only [Query.trail_clauses, List.forall_mem_cons, List.forall_mem_append] at hstops
  have hrowLimit := hstops.2.2
  unfold Query.rowLimitTrail at hrowLimit
  split at hrowLimit
  · exact nomatch hrowLimit _ List.mem_cons_self
  · rename_i hlimited
    simpa [Query.isLimited] using hlimited

/-- Wherever the fragment is not left, MySQL does as the standard rules say. -/
theorem fragment_simulation :
    Simulation standardDialect (dialect support rules) SameSound
      (embedding.RewritesExpr Standard.route (isStandard support rules · = true))
      (embedding.RewritesQuery Standard.route (isStandard support rules · = true))
      (embedding.RewritesSource Standard.route (isStandard support rules · = true)) where
  congruence := sameSound_congruence
  trees := Rewriting.correspondence
  plain := standardDialect_plain
  plain' := dialect_plain support rules
  quote := rfl
  escape := rfl
  call := by
    rintro name args niladic type _ ⟨hstops, rfl⟩ hargs
    rw [Expr.trail_call, List.forall_mem_cons] at hstops
    change SameSound _ ((dialect support rules).exprPiece
      (.call name (rewriteExprs embedding args) niladic type))
    rw [standardDialect_plain.exprPiece_call, (dialect_plain _ _).exprPiece_call]
    change SameSound (Standard.call name _ niladic).piece (call name _ niladic).piece
    rw [call_standard hstops.1]
    cases niladic with
    | true => exact sameSound_congruence.text name
    | false =>
      exact Standard.call_congr sameSound_congruence name false
        (forall₂_map_of_forall_mem hargs (Rewriting.exprs hstops.2))
  unary := by
    rintro op a type _ ⟨hstops, rfl⟩ ha
    rw [Expr.trail_unary, List.forall_mem_cons] at hstops
    change SameSound _ ((dialect support rules).exprPiece (.unary op (a.rewrite embedding) type))
    rw [standardDialect_plain.exprPiece_unary, (dialect_plain _ _).exprPiece_unary]
    exact unary_standard hstops.1 (a.isOperator_rewrite _) (ha _ ⟨hstops.2, rfl⟩)
  binary := by
    rintro op a b kind type _ _ _ _ ⟨hstops, he⟩ ⟨-, rfl⟩ ⟨-, rfl⟩ p p' q q' hp hq
    cases he
    have hconcat := binary_standard (hstops _ List.mem_cons_self)
    change SameSound (Standard.binary op ⟨a, emit p⟩ ⟨b, emit q⟩).piece
      (binary op ⟨a.rewrite embedding, emit p'⟩ ⟨b.rewrite embedding, emit q'⟩ kind).piece
    unfold binary
    rw [hconcat]
    exact Standard.binary_congr sameSound_congruence op (a.isOperator_rewrite _)
      (b.isOperator_rewrite _) hp hq
  nullary {node} := nomatch node
  dialectUnary {node} := nomatch node
  dialectBinary {node} := nomatch node
  variadic {node} := nomatch node
  rowLimit := by
    rintro q _ ⟨hstops, rfl⟩ - -
    obtain ⟨hlimit, hoffset⟩ := rowLimit_standard hstops
    unfold Dialect.rowLimitLine Query.isLimited
    rw [Query.rewrite_limit, Query.rewrite_offset, hlimit, hoffset]
    exact sameSound_congruence.empty
  crossApply h := nomatch h.1 _ List.mem_cons_self
  outerApply h := nomatch h.1 _ List.mem_cons_self

end

/-- Whatever the server can cast to and by whatever rules, a tree of standard SQL all of whose stops
are standard is written, and as standard SQL with the quotes and escapes of MySQL writes it. -/
theorem standard_fragment_agrees (support : CastSupport) (rules : CastRules) :
    standardDialect.Agree (fun a a' => a' = a ∧ a.Succeeds) (dialect support rules)
      (embedding.RewritesExpr Standard.route (isStandard support rules · = true))
      (embedding.RewritesQuery Standard.route (isStandard support rules · = true))
      (embedding.RewritesSource Standard.route (isStandard support rules · = true)) :=
  fragment_simulation.agree sameSound_lifts

/-- A query in the fragment, on a server that casts to no floating point type. The arguments of a
niladic function are not written, so they may be anything. -/
theorem joined_query_in_fragment :
    let string : Expr .none := .literal (.string "c:\\") (some ⟨"text", .string⟩)
    let now : Expr .none := .call "NOW" [.binary .add string string .string none] true none
    let day : Expr .none := .unary .convert (.column none "d" none) (some ⟨"date", .date⟩)
    let q : Query .none :=
      { columns := [⟨.binary .add string now .string none, some "it"⟩]
        sources := [.table none "t" none, .innerJoin (.derived {} "o") (.raw "o.x")]
        predicate := some (.unary .isNull day none) }
    (∀ stop ∈ q.trail Standard.route, isStandard .none .mySql stop = true) ∧
      ((dialect .none .mySql).compileQuery (q.rewrite embedding)).outcome {} =
        (.ok ("SELECT 'c:\\\\' + NOW AS `it`\nFROM `t`\n" ++
          "INNER JOIN (SELECT 1) AS `o` ON o.x\nWHERE CAST(`d` AS date) IS NULL"), "") := by
  intro string now day q
  have hstops : ∀ stop ∈ q.trail Standard.route, isStandard .none .mySql stop = true := by
    decide
  refine ⟨hstops, ?_⟩
  rw [((standard_fragment_agrees .none .mySql).compileQuery ⟨hstops, rfl⟩).1]
  rfl

end MySql

end SqlScribe
