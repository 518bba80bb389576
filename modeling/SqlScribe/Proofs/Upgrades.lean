import Mathlib.Data.Prod.Lex
import SqlScribe.Proofs.Agreement
import SqlScribe.Proofs.Faults
import SqlScribe.Proofs.RuleCongruence

/-!
# Upgrading a server

All that a server's version has to do with a text are the floating point types that the server casts
to. A product gains these at one version (`Product.castThreshold`) and keeps them, so the text of a
tree changes at most once along the versions of a product: where the threshold is passed.

Whether there is a text at all does not depend on the version. A plan for a cast is missing or not
whatever the server supports, and a workaround does not fail (`support_simulation`).
-/

namespace SqlScribe

open Emit Piece

variable {α : Type}

/-! ## The same error -/

namespace EmitM

/-- What an action fails with, if it fails. -/
def error? (a : EmitM α) (o : Output) : Option Error :=
  match a o with
  | .ok _ _ => none
  | .error e _ => some e

/-- Whatever was written before, both actions succeed, or both fail with the same error. -/
def FailsAlike (a a' : EmitM α) : Prop :=
  ∀ o, a'.error? o = a.error? o

theorem error?_emit (p : Piece) (o : Output) : error? (emit p) o = p.error := by
  unfold error? Piece.emit
  cases p.error <;> rfl

theorem error?_compiling (a : Emit) (o : Output) :
    error? (Dialect.compiling a) o = a.error? { o with sql := "" } := by
  unfold error?
  cases ha : a { o with sql := "" } with
  | ok _ o' => rw [Dialect.compiling_ok ha]
  | error e o' => rw [Dialect.compiling_error ha]

theorem error?_recorded (a : EmitM String) (o : Output) :
    error? (Dialect.recorded a) o = a.error? o := by
  unfold error?
  cases ha : a o with
  | ok sql o' => rw [Dialect.recorded_ok ha]
  | error e o' => rw [Dialect.recorded_error ha]

end EmitM

open EmitM

namespace Piece

/-- The pieces fail alike; their texts and events may differ. -/
def SameError (p p' : Piece) : Prop := p'.error = p.error

theorem sameError_congruence : Congruence SameError where
  text _ := rfl
  append {p p' q q'} hp hq := by
    unfold SameError at *
    rw [error_append, error_append, hp, hq]

/-- Pieces that fail alike are added by actions that fail alike. -/
theorem sameError_lifts : Lifts SameError FailsAlike where
  emit hp o := by
    rw [error?_emit, error?_emit]
    exact hp
  compiling ha o := by
    rw [error?_compiling, error?_compiling]
    exact ha _
  recorded ha o := by
    rw [error?_recorded, error?_recorded]
    exact ha o

end Piece

namespace Dialect.Agree

variable {X : Signature} {rel : ∀ {α : Type}, EmitM α → EmitM α → Prop}

/-- A dialect agrees with itself in every respect in which actions agree with themselves. -/
theorem refl (hrel : ∀ {α : Type} (a : EmitM α), rel a a) (D : Dialect X) :
    D.Agree rel D Eq Eq Eq where
  writeExpr h := h ▸ hrel _
  writeQuery h := h ▸ hrel _
  writeSource h := h ▸ hrel _
  compileExpr h := h ▸ hrel _
  compileQuery h := h ▸ hrel _

theorem of_forall (hrel : ∀ {α : Type} (a a' : EmitM α), rel a a') (D D' : Dialect X) :
    D.Agree rel D' Eq Eq Eq where
  writeExpr _ := hrel _ _
  writeQuery _ := hrel _ _
  writeSource _ := hrel _ _
  compileExpr _ := hrel _ _
  compileQuery _ := hrel _ _

end Dialect.Agree

namespace MySql

/-! ## Support for casts -/

/-- What fails does not depend on the casts that a server supports. -/
theorem support_simulation (rules : CastRules) (support support' : CastSupport) :
    Simulation (dialect support rules) (dialect support' rules) SameError Eq Eq Eq := by
  refine simulation_nodewise sameError_congruence (fun _ => rfl) rfl Tree.nodewise_eq ?_ ?_
  · intro op a b kind type a' b' kind' type' he _ _
    cases he
    rfl
  · intro a type a' type' he p p' hp
    cases he
    unfold SameError
    rw [error_unary, error_unary, hp]

/-- A plan has a keyword for a floating point type only if the server supports casts to it. -/
theorem CastRules.support_of_planFor {rules : CastRules} {support : CastSupport}
    {typeName : String} {plan : CastPlan} (h : rules.planFor support typeName = .ok plan) :
    (Text.startsWith plan.keyword "double" = true → support.double = true) ∧
      (Text.startsWith plan.keyword "float" = true → support.float = true) := by
  unfold planFor at h
  cases hkeyword : rules.keyword? (String.ofList (Text.toLower typeName.toList)) with
  | none =>
    simp only [hkeyword] at h
    cases h
  | some keyword =>
    simp only [hkeyword] at h
    obtain rfl := Except.ok.inj h
    unfold CastRules.plan
    split
    · -- The keyword of the workaround is that of a decimal type.
      have hdecimal : ¬Text.startsWith Workaround.widestDecimal "double" = true ∧
          ¬Text.startsWith Workaround.widestDecimal "float" = true := by decide
      exact ⟨fun hdouble => absurd hdouble hdecimal.1, fun hfloat => absurd hfloat hdecimal.2⟩
    · rename_i hrefuses
      simp only [refuses, Bool.or_eq_true, Bool.and_eq_true, Bool.not_eq_true', not_or, not_and,
        Bool.not_eq_false] at hrefuses
      exact hrefuses

/-! ## Versions -/

/-- The version from which on a product casts to floating point types. -/
def Product.castThreshold : Product → ℕ ×ₗ ℕ ×ₗ ℕ
  | mySql => toLex (8, toLex (0, 17))
  | mariaDb => toLex (10, toLex (4, 0))

/-- The floating point types that a product casts to from its threshold on. -/
def Product.laterSupport : Product → CastSupport
  | mySql => .all
  | mariaDb => ⟨true, false⟩

namespace Server

/-- The numbers of a server's version, of which an earlier one outweighs the later ones. -/
def version (server : Server) : ℕ ×ₗ ℕ ×ₗ ℕ :=
  toLex (server.major.toNat, toLex (server.minor.toNat, server.patch.toNat))

/-- The comparison of versions is the lexicographic one. -/
theorem atLeast_iff (server : Server) (major minor patch : UInt32) :
    server.atLeast major minor patch = true ↔
      toLex (major.toNat, toLex (minor.toNat, patch.toNat)) ≤ server.version := by
  unfold atLeast version
  simp only [Prod.Lex.toLex_le_toLex, Bool.or_eq_true, Bool.and_eq_true, decide_eq_true_eq,
    gt_iff_lt, ge_iff_le, UInt32.lt_iff_toNat_lt, UInt32.le_iff_toNat_le, ← UInt32.toNat_inj]
  omega

/-- From its threshold on, a server casts to all that its product ever casts to. -/
theorem castSupport_of_le {server : Server} (h : server.product.castThreshold ≤ server.version) :
    server.castSupport = server.product.laterSupport := by
  unfold castSupport
  cases hproduct : server.product with
  | mySql =>
    rw [hproduct] at h
    simp only [(atLeast_iff server 8 0 17).2 h]
    rfl
  | mariaDb =>
    rw [hproduct] at h
    simp only [(atLeast_iff server 10 4 0).2 h]
    rfl

/-- Before its threshold, a server casts to no floating point type. -/
theorem castSupport_of_lt {server : Server} (h : server.version < server.product.castThreshold) :
    server.castSupport = .none := by
  unfold castSupport
  cases hproduct : server.product with
  | mySql =>
    rw [hproduct] at h
    have hold := Bool.eq_false_iff.2 fun hnew => not_le_of_gt h ((atLeast_iff server 8 0 17).1 hnew)
    simp only [hold]
    rfl
  | mariaDb =>
    rw [hproduct] at h
    have hold := Bool.eq_false_iff.2 fun hnew => not_le_of_gt h ((atLeast_iff server 10 4 0).1 hnew)
    simp only [hold]
    rfl

/-- An upgrade keeps the support of casts, or it passes the threshold, and then there was no
support before. -/
theorem castSupport_eq_or {v w : Server} (hproduct : w.product = v.product)
    (h : v.version ≤ w.version) :
    w.castSupport = v.castSupport ∨
      v.castSupport = .none ∧ v.version < v.product.castThreshold ∧
        v.product.castThreshold ≤ w.version := by
  rcases lt_or_ge v.version v.product.castThreshold with hv | hv
  · rcases lt_or_ge w.version v.product.castThreshold with hw | hw
    · left
      rw [castSupport_of_lt hv, castSupport_of_lt (hproduct ▸ hw)]
    · exact .inr ⟨castSupport_of_lt hv, hv, hw⟩
  · left
    have hw : w.product.castThreshold ≤ w.version := hproduct ▸ hv.trans h
    rw [castSupport_of_le hv, castSupport_of_le hw, hproduct]

/-- A later version of the same product casts to all that an earlier one does. -/
theorem castSupport_mono {v w : Server} (hproduct : w.product = v.product)
    (h : v.version ≤ w.version) :
    (v.castSupport.double = true → w.castSupport.double = true) ∧
      (v.castSupport.float = true → w.castSupport.float = true) := by
  rcases castSupport_eq_or hproduct h with hsame | ⟨hnone, -⟩
  · rw [hsame]
    exact ⟨id, id⟩
  · rw [hnone]
    exact ⟨fun hdouble => absurd hdouble Bool.false_ne_true,
      fun hfloat => absurd hfloat Bool.false_ne_true⟩

end Server

/-- Let `w` be the version `v` of a product or a later one. It supports the casts that `v` supports.
By any rules, a tree fails on both in the same way or on neither; and if it is not written alike,
then `v` is below the threshold of the product and `w` is not. On no server is a cast written with a
keyword for a floating point type that the server does not support. -/
theorem upgrade_changes_text_once {v w : Server} (hproduct : w.product = v.product)
    (h : v.version ≤ w.version) (rules : CastRules) :
    (v.castSupport.double = true → w.castSupport.double = true) ∧
    (v.castSupport.float = true → w.castSupport.float = true) ∧
    (dialect v.castSupport rules).Agree FailsAlike (dialect w.castSupport rules) Eq Eq Eq ∧
    (dialect v.castSupport rules).Agree
      (fun a a' => ¬SameOutcome a a' →
        v.version < v.product.castThreshold ∧ v.product.castThreshold ≤ w.version)
      (dialect w.castSupport rules) Eq Eq Eq ∧
    ∀ (server : Server) (typeName : String) (plan : CastPlan),
      rules.planFor server.castSupport typeName = .ok plan →
        (Text.startsWith plan.keyword "double" = true → server.castSupport.double = true) ∧
        (Text.startsWith plan.keyword "float" = true → server.castSupport.float = true) := by
  obtain ⟨hdouble, hfloat⟩ := Server.castSupport_mono hproduct h
  have hfails := (support_simulation rules v.castSupport w.castSupport).agree sameError_lifts
  refine ⟨hdouble, hfloat, hfails, ?_, fun _ _ _ hplan => CastRules.support_of_planFor hplan⟩
  rcases Server.castSupport_eq_or hproduct h with hsame | ⟨-, hpasses⟩
  · rw [hsame]
    exact .refl (fun a hdiffers => absurd (fun _ => rfl) hdiffers) _
  · exact .of_forall (fun _ _ _ => hpasses) _ _

/-- No patch of MariaDB 10.3 casts to doubles, and 10.4.0 does. -/
theorem upgrade_to_mariaDb_10_4 :
    let v : Server := ⟨.mariaDb, 10, 3, 4294967295⟩
    let w : Server := ⟨.mariaDb, 10, 4, 0⟩
    let cast : Expr signature := .unary .convert (.column none "x" none) (some ⟨"double", .double⟩)
    v.version ≤ w.version ∧
      ((dialect v.castSupport .mySql).compileExpr cast).outcome {} =
        (.ok "(CAST(`x` AS decimal(65,30)) + 0e0)", "") ∧
      ((dialect w.castSupport .mySql).compileExpr cast).outcome {} =
        (.ok "CAST(`x` AS double)", "") ∧
      v.version < Product.mariaDb.castThreshold ∧ Product.mariaDb.castThreshold ≤ w.version := by
  intro v w cast
  have hle : v.version ≤ w.version := by decide
  have hv : ((dialect v.castSupport .mySql).compileExpr cast).outcome {} =
      (.ok "(CAST(`x` AS decimal(65,30)) + 0e0)", "") := rfl
  have hw : ((dialect w.castSupport .mySql).compileExpr cast).outcome {} =
      (.ok "CAST(`x` AS double)", "") := rfl
  obtain ⟨-, -, -, hagree, -⟩ := upgrade_changes_text_once (v := v) (w := w) rfl hle .mySql
  refine ⟨hle, hv, hw, hagree.compileExpr (Eq.refl cast) fun hsame => ?_⟩
  have htexts := hw.symm.trans ((hsame {}).trans hv)
  simp at htexts

end MySql

end SqlScribe
