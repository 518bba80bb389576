import SqlScribe.Proofs.Agreement
import SqlScribe.Proofs.Rewriting
import SqlScribe.Proofs.RuleCongruence

/-!
# Workarounds as a lowering

The workarounds of MySQL for old servers can be taken in the tree already. `MySql.lowering` replaces
a cast that the server refuses by the sum that it is written as, and supplies the limit of a query
that has an offset alone. A server that refuses no cast then gets the same text from the lowered
tree, or fails alike, and nothing is left to report (`MySql.workarounds_are_a_lowering`).

The sum stands in a call without a name, whose parentheses are those of the workaround. The call
carries the type of the cast, since a sum of strings asks for the types of its operands.
-/

namespace SqlScribe

open Emit Piece

namespace MySql

/-! ## The lowered tree -/

/-- A cast of the value through the widest decimal type, as an expression of the given type. -/
def throughDecimal (value : Expr signature) (type : SqlType) : Expr signature :=
  let decimal := .unary .convert value (some ⟨Workaround.widestDecimal, .decimal⟩)
  .call "" [.binary .add decimal (.literal (.number "0e0") none) .double none] false (some type)

/-- A conversion for which the server needs the workaround becomes a sum. -/
def lowerConvert (support : CastSupport) (a : Expr signature) (type : SqlType) : Expr signature :=
  match CastRules.mySql.planFor support type.name with
  | .ok (.throughDecimal _) => throughDecimal a type
  | _ => .unary .convert a (some type)

/-- An operator on one operand, lowered: a conversion that the server refuses goes through a decimal
type. -/
def lowerUnary (support : CastSupport) (op : UnaryOp) (a : Expr signature) (type : Option SqlType) :
    Expr signature :=
  match op, type with
  | .convert, some type => lowerConvert support a type
  | op, type => .unary op a type

theorem lowerUnary_convert (support : CastSupport) (a : Expr signature) (type : SqlType) :
    lowerUnary support .convert a (some type) = lowerConvert support a type := rfl

/-- An offset without a limit gets the largest one. -/
def lowerLimit (limit offset : Option (Expr signature)) : Option (Expr signature) :=
  match limit, offset with
  | none, some _ => some (.literal (.number Workaround.largestLimitText) none)
  | limit, _ => limit

/-- A lowered operator on one operand is none between two, so it never gets parentheses. -/
theorem isOperator_lowerUnary (support : CastSupport) (op : UnaryOp) (a : Expr signature)
    (type : Option SqlType) : (lowerUnary support op a type).isOperator = false := by
  unfold lowerUnary
  split
  · unfold lowerConvert
    split <;> rfl
  · rfl

/-- The workarounds that a server needs, taken everywhere in a tree. -/
def lowering (support : CastSupport) : Rewriting signature signature where
  unary := lowerUnary support
  limit := lowerLimit
  nullary := .nullary
  dialectUnary := .dialectUnary
  dialectBinary := .dialectBinary
  variadic := .variadic
  isOperator_unary := isOperator_lowerUnary support
  isOperator_nullary _ := rfl
  isOperator_dialectUnary _ _ := rfl
  isOperator_dialectBinary _ _ _ := rfl
  isOperator_variadic _ _ := rfl

theorem isString_lowerUnary (support : CastSupport) (op : UnaryOp) (a : Expr signature)
    (type : Option SqlType) :
    (lowerUnary support op a type).isString = type.any SqlType.isString := by
  unfold lowerUnary
  split
  · unfold lowerConvert
    split <;> rfl
  · rfl

/-- What adds strings still does after the lowering. -/
theorem isString_lowering (support : CastSupport) (e : Expr signature) :
    (e.rewrite (lowering support)).isString = e.isString := by
  cases e with
  | unary op a type => exact isString_lowerUnary support op _ type
  | binary op a b kind type => cases type <;> rfl
  | _ => rfl

section

variable {support : CastSupport} {r : Route}

/-- The trees and their lowerings. No condition is put on the stops. -/
theorem lowering_ownNodes :
    Tree.OwnNodes ((lowering support).RewritesExpr r fun _ => True)
      ((lowering support).RewritesQuery r fun _ => True)
      ((lowering support).RewritesSource r fun _ => True) where
  toCorrespondence := Rewriting.correspondence
  call h := ⟨_, _, h.2, Rewriting.exprs fun _ _ => trivial⟩
  nullary h := h.2
  dialectUnary h := ⟨_, h.2, fun _ _ => trivial, rfl⟩
  dialectBinary h := ⟨_, _, h.2, ⟨fun _ _ => trivial, rfl⟩, fun _ _ => trivial, rfl⟩
  variadic h := ⟨_, h.2, Rewriting.exprs fun _ _ => trivial⟩

end

/-! ## Plans on a server that refuses no cast -/

namespace CastRules

variable {rules : CastRules} {support : CastSupport} {name : String}

theorem plan_all (keyword : String) : plan .all keyword = .direct keyword := by
  simp [plan, refuses, CastSupport.all]

/-- The types without a plan are the same on every server. -/
theorem planFor_all_of_error {e : Error} (h : rules.planFor support name = .error e) :
    rules.planFor .all name = .error e := by
  simp only [planFor] at h ⊢
  split at h
  · exact h
  · exact nomatch h

/-- What a server casts to directly, one that refuses nothing casts to as well. -/
theorem planFor_all_of_direct {keyword : String}
    (h : rules.planFor support name = .ok (.direct keyword)) :
    rules.planFor .all name = .ok (.direct keyword) := by
  simp only [planFor] at h ⊢
  split at h
  · exact nomatch h
  · -- What is not refused is cast to by its own keyword.
    unfold plan at h
    split at h
    · exact nomatch h
    · rw [plan_all]
      exact h

/-- A server that refuses no cast has a direct one to the type that workarounds go through. -/
theorem planFor_widestDecimal :
    mySql.planFor .all (SqlType.mk Workaround.widestDecimal .decimal).name =
      .ok (.direct Workaround.widestDecimal) := by
  decide +kernel

end CastRules

/-! ## The simulation -/

/-- The pieces have the same text and fail alike, and the second has no events. -/
def Lowered (p p' : Piece) : Prop := SameText p p' ∧ SecondQuiet p p'

theorem lowered_congruence : Congruence Lowered where
  text sql := ⟨sameText_congruence.text sql, secondQuiet_congruence.text sql⟩
  append hp hq :=
    ⟨sameText_congruence.append hp.1 hq.1, secondQuiet_congruence.append hp.2 hq.2⟩

/-- An event may be left out. -/
theorem lowered_event (e : Event) : Lowered (event e) {} := ⟨⟨rfl, rfl⟩, rfl⟩

theorem lowered_fail (e : Error) : Lowered (fail e) (fail e) := ⟨⟨rfl, rfl⟩, rfl⟩

/-- On a server that refuses no cast, the sum has the text of the workaround. -/
theorem exprPiece_throughDecimal (a : Expr signature) (type : SqlType) (requested : String) :
    (dialect .all .mySql).exprPiece (throughDecimal a type) =
      castPiece (.throughDecimal requested) ((dialect .all .mySql).exprPiece a) := by
  let decimal : Expr signature := .unary .convert a (some ⟨Workaround.widestDecimal, .decimal⟩)
  let zero : Expr signature := .literal (.number "0e0") none
  have hplain := dialect_plain .all .mySql
  have hdecimal : (dialect .all .mySql).exprPiece decimal =
      castPiece (.direct Workaround.widestDecimal) ((dialect .all .mySql).exprPiece a) := by
    rw [exprPiece_convert, convertPiece_of_direct CastRules.planFor_widestDecimal]
  have hzero : (dialect .all .mySql).exprPiece zero = text "0e0" := hplain.exprPiece_literal _ _
  have hsum : (dialect .all .mySql).exprPiece (.binary .add decimal zero .double none) =
      castPiece (.direct Workaround.widestDecimal) ((dialect .all .mySql).exprPiece a) ++
        text " + 0e0" := by
    rw [hplain.exprPiece_binary, hdecimal, hzero]
    have htext : text " + 0e0" = text " + " ++ text "0e0" := text_append " + " "0e0"
    rw [htext, ← append_assoc]
    exact (congrArg piece (binary_emit .add decimal zero _ _ .double)).trans (piece_emit _)
  rw [throughDecimal, hplain.exprPiece_call, List.map_singleton, hsum]
  refine (congrArg piece (call_emit "" [_] false)).trans ?_
  have hone : ∀ p, Piece.separated ", " [p] = p := append_empty
  have hsigil : Text.startsWith "" variableSigil = false := by decide
  rw [piece_emit, hone, hsigil]
  exact empty_append _

/-- A conversion is written as its lowering is written where no cast is refused. -/
theorem lowered_convert {support : CastSupport} {a a' : Expr signature} (type : SqlType)
    (ha : Lowered ((dialect support .mySql).exprPiece a) ((dialect .all .mySql).exprPiece a')) :
    Lowered ((dialect support .mySql).exprPiece (.unary .convert a (some type)))
      ((dialect .all .mySql).exprPiece (lowerConvert support a' type)) := by
  rw [exprPiece_convert]
  unfold lowerConvert
  cases hplan : CastRules.mySql.planFor support type.name with
  | error e =>
    rw [exprPiece_convert, convertPiece, hplan, convertPiece, CastRules.planFor_all_of_error hplan]
    exact lowered_fail e
  | ok plan =>
    cases plan with
    | direct keyword =>
      rw [exprPiece_convert, convertPiece_of_direct hplan,
        convertPiece_of_direct (CastRules.planFor_all_of_direct hplan)]
      exact castPiece_congr lowered_congruence rfl rfl ha
    | throughDecimal requested =>
      -- The event is all that the sum does not have.
      rw [convertPiece, hplan, exprPiece_throughDecimal a' type requested,
        ← empty_append (castPiece _ (Dialect.exprPiece _ a'))]
      exact lowered_congruence.append
        (lowered_congruence.append (lowered_event _) lowered_congruence.empty)
        (castPiece_congr lowered_congruence rfl rfl ha)

/-- An operator is written as its lowering is written where no cast is refused. -/
theorem lowered_unary {support : CastSupport} {a a' : Expr signature} (op : UnaryOp)
    (type : Option SqlType) (hoperator : a'.isOperator = a.isOperator)
    (ha : Lowered ((dialect support .mySql).exprPiece a) ((dialect .all .mySql).exprPiece a')) :
    Lowered ((dialect support .mySql).exprPiece (.unary op a type))
      ((dialect .all .mySql).exprPiece (lowerUnary support op a' type)) := by
  by_cases hop : op = .convert
  · subst hop
    cases type with
    | none =>
      have hkept : lowerUnary support .convert a' none = .unary .convert a' none := rfl
      rw [hkept, exprPiece_convert_none, exprPiece_convert_none]
      exact lowered_fail _
    | some type =>
      rw [lowerUnary_convert]
      exact lowered_convert type ha
  · have hkept : lowerUnary support op a' type = .unary op a' type := by
      unfold lowerUnary
      split
      · exact absurd rfl hop
      · rfl
    rw [hkept, (dialect_plain _ _).exprPiece_unary, (dialect_plain _ _).exprPiece_unary]
    exact unary_congr lowered_congruence hop hoperator ha type type

/-- A limit that the tree has already is written like one that is supplied. -/
theorem lowered_supplied {p p' : Piece} (hp : Lowered p p') :
    let largest := (dialect .all .mySql).exprPiece
      (.literal (.number Workaround.largestLimitText) none)
    Lowered (rowLimit none (some (emit p))).piece
      (rowLimit (some (emit largest)) (some (emit p'))).piece := by
  intro largest
  have hlargest : largest = text Workaround.largestLimitText :=
    (dialect_plain .all .mySql).exprPiece_literal _ _
  have hleft := rowLimit_emit none (some p)
  have hright := rowLimit_emit (some largest) (some p')
  simp only [Option.map_none, Option.map_some] at hleft hright
  rw [hleft, hright, piece_emit, piece_emit, hlargest, text_append,
    ← empty_append (text "LIMIT " ++ _)]
  have hlimit := lowered_congruence.append (lowered_congruence.text "LIMIT ")
    (lowered_congruence.text Workaround.largestLimitText)
  have hsupplied := lowered_congruence.append (lowered_event .limitSupplied) hlimit
  exact lowered_congruence.append
    (lowered_congruence.append hsupplied (lowered_congruence.text " OFFSET ")) hp

/-- The limit of a query is written as the lowered one: an offset alone comes with the largest limit
either way. -/
theorem lowered_rowLimitLine {support : CastSupport} {q : Query signature}
    (hlimit : Option.Rel Lowered (q.limit.map (dialect support .mySql).exprPiece)
      ((q.limit.map (Expr.rewrite (lowering support))).map (dialect .all .mySql).exprPiece))
    (hoffset : Option.Rel Lowered (q.offset.map (dialect support .mySql).exprPiece)
      ((q.offset.map (Expr.rewrite (lowering support))).map (dialect .all .mySql).exprPiece)) :
    Lowered ((dialect support .mySql).rowLimitLine q)
      ((dialect .all .mySql).rowLimitLine (q.rewrite (lowering support))) := by
  unfold Dialect.rowLimitLine Query.isLimited
  rw [(dialect_plain _ _).rowLimitPiece_eq, (dialect_plain _ _).rowLimitPiece_eq,
    Query.rewrite_limit, Query.rewrite_offset]
  generalize q.limit = limit at *
  generalize q.offset = offset at *
  cases limit with
  | none =>
    cases offset with
    | none => exact lowered_congruence.empty
    | some offset =>
      cases hoffset with
      | some hoffset =>
        exact lowered_congruence.led "\n" (.some (lowered_supplied hoffset))
  | some limit =>
    have hkept := rowLimit_congr lowered_congruence hlimit hoffset nofun
    cases offset with
    | none => exact lowered_congruence.led "\n" (.some hkept)
    | some offset => exact lowered_congruence.led "\n" (.some hkept)

/-- Lowering is a simulation of a server by one that refuses no cast. -/
theorem lowering_simulation (support : CastSupport) :
    Simulation (dialect support .mySql) (dialect .all .mySql) Lowered
      ((lowering support).RewritesExpr route fun _ => True)
      ((lowering support).RewritesQuery route fun _ => True)
      ((lowering support).RewritesSource route fun _ => True) := by
  refine simulation lowered_congruence lowered_fail lowering_ownNodes ?_ ?_ ?_
  · rintro op a b kind type a' b' kind' type' ⟨-, he⟩ ⟨-, rfl⟩ ⟨-, rfl⟩
    cases he
    unfold isConcatenation
    rw [isString_lowering, isString_lowering]
  · rintro op a type _ ⟨-, rfl⟩ ha
    exact lowered_unary op type (a.isOperator_rewrite _) (ha _ ⟨fun _ _ => trivial, rfl⟩)
  · rintro q _ ⟨-, rfl⟩ hlimit hoffset
    have hexpr? : ∀ x, Option.Rel ((lowering support).RewritesExpr route fun _ => True) x
        (x.map (Expr.rewrite (lowering support))) := by
      intro x
      rw [← rewriteExpr?_eq_map]
      exact Rewriting.expr? fun _ _ => trivial
    exact lowered_rowLimitLine (rel_map_of_forall_mem hlimit (hexpr? q.limit))
      (rel_map_of_forall_mem hoffset (hexpr? q.offset))

/-- Writing a tree for a server is writing its lowering for a server that refuses no cast, and the
lowering causes no report. -/
theorem workarounds_are_a_lowering (support : CastSupport) :
    (dialect support .mySql).Agree (fun a a' => a.SameOutcome a' ∧ a'.IsQuiet) (dialect .all .mySql)
      (fun e e' => e' = e.rewrite (lowering support))
      (fun q q' => q' = q.rewrite (lowering support))
      (fun s s' => s' = s.rewrite (lowering support)) := by
  have h := (lowering_simulation support).agree (sameText_lifts.and secondQuiet_lifts)
  exact
    { writeExpr := fun he => h.writeExpr ⟨fun _ _ => trivial, he⟩
      writeQuery := fun hq => h.writeQuery ⟨fun _ _ => trivial, hq⟩
      writeSource := fun hs => h.writeSource ⟨fun _ _ => trivial, hs⟩
      compileExpr := fun he => h.compileExpr ⟨fun _ _ => trivial, he⟩
      compileQuery := fun hq => h.compileQuery ⟨fun _ _ => trivial, hq⟩ }

/-- A cast inside another, in a query that skips rows, lowered for a server that casts to no
floating point type. -/
theorem nested_casts_lower :
    let casts : Expr signature :=
      .unary .convert (.unary .convert (.column none "x" none) (some ⟨"float", .float⟩))
        (some ⟨"double", .double⟩)
    let q : Query signature :=
      { columns := [⟨casts, none⟩], offset := some (.literal (.number "5") none) }
    (q.rewrite (lowering .none)).columns =
        [⟨throughDecimal (throughDecimal (.column none "x" none) ⟨"float", .float⟩)
          ⟨"double", .double⟩, none⟩] ∧
      ((dialect .all .mySql).compileQuery (q.rewrite (lowering .none))).outcome {} =
        (.ok ("SELECT (CAST((CAST(`x` AS decimal(65,30)) + 0e0) AS decimal(65,30)) + 0e0)\n" ++
          "LIMIT 18446744073709551610 OFFSET 5"), "") := by
  intro casts q
  refine ⟨rfl, ?_⟩
  rw [((workarounds_are_a_lowering .none).compileQuery rfl).1]
  rfl

end MySql

end SqlScribe
