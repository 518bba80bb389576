import Mathlib.Data.List.DropRight
import SqlScribe.Proofs.DialectPiece
import SqlScribe.Session

/-!
# Sessions refine fresh runs

A call that does not reset the text of its session adds a piece to it, whatever the text is; a call
that does leaves the text empty (`step_gathered`). So a session has no memory beyond its text: each
reply is that of a session of its own, and the text is put together from what the calls since the
last reset write on their own, in order (`replies_gathered`).
-/

namespace SqlScribe

open Emit Piece

variable {X : Signature}

/-- The call leaves the text of its session empty. -/
def Call.resets : Call X → Bool
  | .compileQuery _ => true
  | .compileExpr _ => true
  | .clear => true
  | _ => false

/-! ## What a call adds -/

namespace Dialect

/-- The call adds the same piece to every output and hands over the same text. -/
def Adds (D : Dialect X) (call : Call X) : Prop :=
  ∃ p result, D.run call = do emit p; return result

theorem adds_of_silently {D : Dialect X} {call : Call X} {a : Emit}
    (hrun : D.run call = silently a) (ha : a.Appends) : D.Adds call := by
  refine ⟨a.piece, none, ?_⟩
  rw [hrun, ha]
  simp only [silently, piece_emit]

theorem ruled_appends {rule : Rule} {a b : Emit} (ha : a.Appends) (hb : b.Appends) :
    (ruled rule a b).Appends := by
  cases rule
  · exact ha
  · exact hb

namespace Appends

variable {D : Dialect X} (h : D.Appends)

include h

/-- A node appends by the standard rule, whatever the dialect makes of it. -/
theorem standardNode (e : Expr X) : (D.standardNode e).Appends := by
  unfold Dialect.standardNode
  split
  · rw [h.map_writeExpr]
    exact .of_eq (Standard.call_emit _ _ _)
  · rw [h.operand]
    exact Standard.unary_appends _ _ _ _
  · rw [h.operand, h.operand]
    exact .of_eq (Standard.binary_emit _ _ _ _ _)
  · exact h.standardExpr _

/-- A call that does not reset the text adds to it. -/
theorem adds {call : Call X} (hreset : call.resets = false) : D.Adds call := by
  cases call with
  | compileQuery _ => exact nomatch hreset
  | compileExpr _ => exact nomatch hreset
  | expr rule e =>
    exact adds_of_silently rfl
      (ruled_appends (.of_eq (h.writeExpr e)) (h.standardExpr e))
  | operand e =>
    refine adds_of_silently rfl ?_
    rw [h.operand]
    exact .of_eq (Standard.operand_emit e _)
  | literal value => exact adds_of_silently rfl (.of_eq (write_eq_emit _))
  | query rule q =>
    exact adds_of_silently rfl
      (ruled_appends (.of_eq (h.writeQuery q)) (h.standardQuery q))
  | rowLimit rule q =>
    refine adds_of_silently rfl (ruled_appends (h.writeRowLimit q) ?_)
    rw [h.optionMap_writeExpr, h.optionMap_writeExpr]
    exact .of_eq (Standard.rowLimit_emit _ _)
  | source rule s =>
    exact adds_of_silently rfl
      (ruled_appends (.of_eq (h.writeSource s)) (h.standardSource s))
  | crossApply rule s =>
    refine adds_of_silently rfl (ruled_appends ?_ ?_)
    · rw [h.writeSource]
      exact h.crossApply _
    · rw [h.writeSource]
      exact .of_eq (Standard.crossApply_emit _)
  | outerApply rule s =>
    refine adds_of_silently rfl (ruled_appends ?_ ?_)
    · rw [h.writeSource]
      exact h.outerApply _
    · rw [h.writeSource]
      exact .of_eq (Standard.outerApply_emit _)
  | node rule e =>
    exact adds_of_silently rfl
      (ruled_appends (h.standardExpr e) (h.standardNode e))
  | list items separator =>
    refine adds_of_silently rfl ?_
    rw [h.map_writeExpr]
    exact .of_eq (separated_emit separator _)
  | quote name => exact ⟨{}, some (D.quote name), by rw [← nothing_eq_emit]; rfl⟩
  | escape contents => exact ⟨{}, some (D.escape contents), by rw [← nothing_eq_emit]; rfl⟩
  | push text => exact adds_of_silently rfl (.of_eq (write_eq_emit text))
  | clear => exact nomatch hreset

end Appends

end Dialect

/-! ## Steps and runs -/

namespace Session

/-- The reply to a call in a session of its own. -/
def fresh (D : Dialect X) (call : Call X) : Reply := step D "" call

/-- The calls of a session that its text comes from. -/
def sinceReset (calls : List (Call X)) : List (Call X) :=
  calls.rtakeWhile fun call => !call.resets

/-- What calls write on their own, put together since the last reset. -/
def gathered (D : Dialect X) (calls : List (Call X)) : String :=
  String.join ((sinceReset calls).map fun call => (fresh D call).sql)

theorem gathered_concat (D : Dialect X) (calls : List (Call X)) (call : Call X) :
    gathered D (calls ++ [call]) =
      if call.resets then "" else gathered D calls ++ (fresh D call).sql := by
  unfold gathered sinceReset
  rw [List.rtakeWhile_concat]
  cases call.resets <;> simp

/-- A call that adds to the text behaves as on its own, behind the text. -/
theorem step_of_adds {D : Dialect X} {call : Call X} (h : D.Adds call) (sql : String) :
    step D sql call = { fresh D call with sql := sql ++ (fresh D call).sql } := by
  obtain ⟨p, result, hrun⟩ := h
  unfold fresh step
  rw [hrun]
  cases hp : p.error <;>
    simp [bind, EStateM.bind, emit, hp, pure, EStateM.pure]

/-- A call that resets the text does not look at it. -/
theorem step_of_resets (D : Dialect X) {call : Call X} (h : call.resets = true) (sql : String) :
    step D sql call = fresh D call := by
  cases call with
  | compileQuery q => rfl
  | compileExpr e => rfl
  | clear => rfl
  | _ => cases h

theorem fresh_sql_of_resets (D : Dialect X) {call : Call X} (h : call.resets = true) :
    (fresh D call).sql = "" := by
  cases call with
  | compileQuery q =>
    unfold fresh step Dialect.run Dialect.compileQuery Dialect.compiling
    cases hq : D.writeQuery q {} <;>
      simp [Functor.map, EStateM.map, bind, EStateM.bind, hq, pure, EStateM.pure]
  | compileExpr e =>
    unfold fresh step Dialect.run Dialect.compileExpr Dialect.compiling
    cases he : D.writeExpr e {} <;> simp [Functor.map, EStateM.map, he]
  | clear => rfl
  | _ => cases h

/-- One step: the outcome and the events are those of a fresh session, and the text goes on from the
calls since the last reset. -/
theorem step_gathered {D : Dialect X} (h : D.Appends) (before : List (Call X)) (call : Call X) :
    step D (gathered D before) call =
      { fresh D call with sql := gathered D (before ++ [call]) } := by
  rw [gathered_concat]
  cases hreset : call.resets with
  | true =>
    rw [step_of_resets D hreset, if_pos rfl, ← fresh_sql_of_resets D hreset]
  | false => rw [step_of_adds (h.adds hreset), if_neg Bool.false_ne_true]

/-- A run, from wherever the calls before it have left the text. -/
theorem replies_gathered {D : Dialect X} (h : D.Appends) (before calls : List (Call X)) (i : Nat) :
    (replies D (gathered D before) calls)[i]? =
      calls[i]?.map fun call =>
        { fresh D call with sql := gathered D (before ++ calls.take (i + 1)) } := by
  induction calls generalizing before i with
  | nil => rfl
  | cons call calls ih =>
    have hstep := step_gathered h before call
    unfold replies
    cases i with
    | zero => simp [hstep]
    | succ i =>
      have hrest := ih (before ++ [call]) i
      rw [List.append_assoc] at hrest
      simpa [hstep] using hrest

/-- **Sessions are fresh runs put together.** In standard SQL and in MySQL, on every server and by
every list of cast rules, the reply to each call of a session has the outcome and the events of the
call in a session of its own; the text after it is the concatenation of what the calls since the
last reset write on their own, failed calls included; and the text after a call that compiles is
empty, whether it succeeds or not. -/
theorem replies_eq_fresh :
    (∀ (calls : List (Call .none)) (i : Nat),
      (replies .ansi "" calls)[i]? =
        calls[i]?.map fun call =>
          { fresh .ansi call with sql := gathered .ansi (calls.take (i + 1)) }) ∧
    (∀ support rules (calls : List (Call MySql.signature)) (i : Nat),
      (replies (MySql.dialect support rules) "" calls)[i]? =
        calls[i]?.map fun call =>
          { fresh (MySql.dialect support rules) call with
            sql := gathered (MySql.dialect support rules) (calls.take (i + 1)) }) ∧
    (∀ (X : Signature) (D : Dialect X) (sql : String),
      (∀ q, (step D sql (.compileQuery q)).sql = "") ∧
        ∀ e, (step D sql (.compileExpr e)).sql = "") := by
  refine ⟨replies_gathered Dialect.ansi_plain.toAppends [],
    fun support rules => replies_gathered (MySql.dialect_plain support rules).toAppends [], ?_⟩
  intro X D sql
  refine ⟨fun q => ?_, fun e => ?_⟩
  · rw [step_of_resets D rfl, fresh_sql_of_resets D rfl]
  · rw [step_of_resets D rfl, fresh_sql_of_resets D rfl]

end Session

end SqlScribe
