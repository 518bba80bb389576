import SqlScribe.Proofs.Agreement
import SqlScribe.Proofs.Faults
import SqlScribe.Proofs.RuleCongruence

/-!
# More cast rules

A cast rule that comes after others covers only types that none of them covers. So a longer list of
rules changes nothing for a tree that the shorter list has a plan for everywhere, and nothing for
one that fails for another reason before a plan is missing. What can change is a tree that ends in
an unsupported cast: it may get further, up to another error.
-/

namespace SqlScribe

open Emit Piece

variable {α : Type}

/-- The error is that of a cast that no rule covers. -/
def Error.isUnsupportedCast : Error → Bool
  | unsupportedCast _ => true
  | _ => false

/-! ## Actions and pieces -/

/-- Unless the first action ends in an unsupported cast, the second does the same, to the last
event. The second ends in an unsupported cast only if the first does. -/
structure EmitM.Conserves (a a' : EmitM α) : Prop where
  same : ∀ o, (∀ e o', a o = .error e o' → e.isUnsupportedCast = false) → a' o = a o
  unsupported : ∀ o e' o', a' o = .error e' o' → e'.isUnsupportedCast = true →
    ∃ e o'', a o = .error e o'' ∧ e.isUnsupportedCast = true

namespace EmitM.Conserves

theorem refl (a : EmitM α) : a.Conserves a where
  same _ _ := rfl
  unsupported _ e o' h he := ⟨e, o', h, he⟩

/-- An action that always ends in an unsupported cast leaves the other one free. -/
theorem of_unsupported {a : EmitM α} (a' : EmitM α)
    (h : ∀ o, ∃ e o', a o = .error e o' ∧ e.isUnsupportedCast = true) : a.Conserves a' where
  same o hother := by
    obtain ⟨e, o', ha, he⟩ := h o
    rw [hother e o' ha] at he
    exact nomatch he
  unsupported o _ _ _ _ := h o

theorem compiling {a a' : Emit} (h : Conserves a a') :
    Conserves (Dialect.compiling a) (Dialect.compiling a') where
  same o hother := by
    have hsame : a' { o with sql := "" } = a { o with sql := "" } := by
      refine h.same _ fun e o' ha => ?_
      exact hother e _ (Dialect.compiling_error ha)
    unfold Dialect.compiling
    rw [hsame]
  unsupported o e' o' ha' he' := by
    cases hresult : a' { o with sql := "" } with
    | ok _ o'' =>
      rw [Dialect.compiling_ok hresult] at ha'
      cases ha'
    | error e'' o'' =>
      rw [Dialect.compiling_error hresult] at ha'
      cases ha'
      obtain ⟨e, o₁, ha, he⟩ := h.unsupported _ _ _ hresult he'
      exact ⟨e, _, Dialect.compiling_error ha, he⟩

theorem recorded {a a' : EmitM String} (h : Conserves a a') :
    Conserves (Dialect.recorded a) (Dialect.recorded a') where
  same o hother := by
    have hsame : a' o = a o := h.same o fun e o' ha => hother e o' (Dialect.recorded_error ha)
    cases hresult : a o with
    | ok sql o' => rw [Dialect.recorded_ok (hsame.trans hresult), Dialect.recorded_ok hresult]
    | error e o' =>
      rw [Dialect.recorded_error (hsame.trans hresult), Dialect.recorded_error hresult]
  unsupported o e' o' ha' he' := by
    cases hresult : a' o with
    | ok sql o'' =>
      rw [Dialect.recorded_ok hresult] at ha'
      cases ha'
    | error e'' o'' =>
      rw [Dialect.recorded_error hresult] at ha'
      cases ha'
      obtain ⟨e, o₁, ha, he⟩ := h.unsupported _ _ _ hresult he'
      exact ⟨e, o₁, Dialect.recorded_error ha, he⟩

end EmitM.Conserves

namespace Piece

/-- The pieces are the same, or the first ends in an unsupported cast. -/
def Conserves (p p' : Piece) : Prop :=
  p' = p ∨ ∃ e, p.error = some e ∧ e.isUnsupportedCast = true

/-- Pieces put together from conserved pieces are conserved. -/
theorem conserves_congruence : Congruence Conserves where
  text _ := .inl rfl
  append {p p' q q'} hp hq := by
    rcases hp with rfl | ⟨e, he, hcast⟩
    · cases herror : p'.error with
      | some e =>
        -- The rest is not written in either case.
        left
        rw [append_of_some herror, append_of_some herror]
      | none =>
        rcases hq with rfl | ⟨e, he, hcast⟩
        · exact .inl rfl
        · exact .inr ⟨e, by rw [error_append, herror, he]; rfl, hcast⟩
    · exact .inr ⟨e, by rw [error_append, he]; rfl, hcast⟩

/-- A conserved piece is written as before, where it was written. -/
theorem conserves_lifts : Lifts Conserves EmitM.Conserves where
  emit {p p'} hp := by
    rcases hp with rfl | ⟨e, he, hcast⟩
    · exact .refl _
    · refine .of_unsupported _ fun o => ?_
      obtain ⟨o', herror⟩ := (emit_error_iff p o e).2 he
      exact ⟨e, o', herror, hcast⟩
  compiling h := h.compiling
  recorded h := h.recorded

end Piece

/-! ## Longer lists of rules -/

namespace MySql

namespace CastRules

/-- Rules added one by one stand at the end, in their order. -/
theorem foldl_append (rules : CastRules) (more : List CastRule) :
    more.foldl CastRules.append rules = rules ++ more := by
  induction more generalizing rules with
  | nil => exact (List.append_nil rules).symm
  | cons rule more ih =>
    rw [List.foldl_cons, ih]
    exact List.append_cons rules rule more |>.symm

/-- Further rules are asked only where the first ones have no answer. -/
theorem keyword?_append (rules more : CastRules) (name : String) :
    CastRules.keyword? (rules ++ more) name = (rules.keyword? name).or (more.keyword? name) := by
  unfold keyword?
  rw [List.find?_append, Option.map_or]

/-- The first rules decide as long as they cover the type. -/
theorem planFor_append_of_ok {rules : CastRules} (more : CastRules) {support : CastSupport}
    {name : String} {plan : CastPlan} (h : rules.planFor support name = .ok plan) :
    CastRules.planFor (rules ++ more) support name = .ok plan := by
  simp only [planFor, keyword?_append] at h ⊢
  cases hkeyword : rules.keyword? (String.ofList (Text.toLower name.toList)) with
  | none => simp [hkeyword] at h
  | some keyword => simpa [hkeyword] using h

end CastRules

/-- Further rules conserve every conversion. -/
theorem convertPiece_append (rules more : CastRules) (support : CastSupport) (type : SqlType)
    {p p' : Piece} (hp : Conserves p p') :
    Conserves (convertPiece rules support p type)
      (convertPiece (rules ++ more) support p' type) := by
  unfold convertPiece
  obtain ⟨⟨plan, hplan⟩, -⟩ | ⟨hplan, -⟩ := planFor_eq rules support type
  · rw [hplan, CastRules.planFor_append_of_ok more hplan]
    exact conserves_congruence.append (.inl rfl) (castPiece_congr conserves_congruence rfl rfl hp)
  · rw [hplan]
    exact .inr ⟨.unsupportedCast type.name, rfl, rfl⟩

/-- Whatever rules are added to others, a tree is written as before unless it ended in an
unsupported cast, and it ends in one only if it did before. -/
theorem appended_rules_conserve (support : CastSupport) (rules : CastRules)
    (more : List CastRule) :
    (dialect support rules).Agree EmitM.Conserves
      (dialect support (more.foldl CastRules.append rules)) Eq Eq Eq := by
  rw [CastRules.foldl_append]
  refine Simulation.agree ?_ conserves_lifts
  refine simulation_nodewise conserves_congruence (fun _ => .inl rfl) (.inl rfl)
    Tree.nodewise_eq ?_ ?_
  · intro op a b kind type a' b' kind' type' he _ _
    cases he
    rfl
  · intro a type a' type' he p p' hp
    cases he
    cases type with
    | none => exact .inl rfl
    | some type =>
      rw [unary_convert_emit, unary_convert_emit, piece_emit, piece_emit]
      exact convertPiece_append rules more support type hp

/-- A rule for the types that start with nothing covers every type, and still leaves the others
theirs. -/
theorem catch_all_rule_conserves :
    (dialect .none (CastRules.mySql.append ⟨"binary", ["", "double"]⟩)).compileExpr
        (.unary .convert (.column none "x" none) (some ⟨"DOUBLE", .double⟩)) {} =
      .ok "(CAST(`x` AS decimal(65,30)) + 0e0)" ⟨"", [.castThroughDecimal "DOUBLE" "double"]⟩ := by
  have hok : (dialect .none CastRules.mySql).compileExpr
        (.unary .convert (.column none "x" none) (some ⟨"DOUBLE", .double⟩)) {} =
      .ok "(CAST(`x` AS decimal(65,30)) + 0e0)"
        ⟨"", [.castThroughDecimal "DOUBLE" "double"]⟩ := rfl
  have hconserves :=
    (appended_rules_conserve .none CastRules.mySql [⟨"binary", ["", "double"]⟩]).compileExpr
      (Eq.refl (Expr.unary .convert (.column none "x" none) (some ⟨"DOUBLE", .double⟩)))
  rw [← hok]
  exact hconserves.same {} fun e o' herror => nomatch hok.symm.trans herror

end MySql

end SqlScribe
