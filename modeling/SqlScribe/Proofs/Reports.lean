import SqlScribe.Proofs.Agreement
import SqlScribe.Proofs.Faults

/-!
# What a walk reports

Each stop of a walk reports what its layout says, before its parts do, and nothing is reported from
the first fault on. So the log of a tree is read off its trail (`Follows.events_stopPiece`): the
reports of the stops before the first faulty one, in their order.

MySQL reports its workarounds: a cast that goes through a decimal type, and a limit that a query did
not ask for. Compiling an expression logs these and nothing else, and a query that is compiled to
its end is logged behind them.
-/

namespace SqlScribe

open Piece

variable {X : Signature}

/-! ## Reports along a trail -/

namespace Scheme

/-- A faulty stop has no layout that would report anything. -/
theorem reports_of_fault {L : Scheme X} {stop : Stop X} {e : Error} (h : L.fault? stop = some e) :
    L.reports stop = [] := by
  unfold fault? at h
  unfold reports
  split at h <;> simp_all

/-- The events of signals one after the other are the reports before the first fault. -/
theorem events_signals (L : Scheme X) (stops : List (Stop X)) :
    (inOrder (stops.map L.signal)).events =
      (stops.takeWhile fun stop => (L.fault? stop).isNone).flatMap L.reports := by
  induction stops with
  | nil => rfl
  | cons stop stops ih =>
    rw [List.map_cons, inOrder, List.takeWhile_cons, L.signal_eq stop]
    cases hfault : L.fault? stop with
    | none =>
      rw [append_of_none rfl, ih]
      rfl
    | some e =>
      rw [append_of_some rfl]
      exact reports_of_fault hfault

end Scheme

/-- The events of a stop are the reports of its trail before the first fault. -/
theorem Dialect.Follows.events_stopPiece {D : Dialect X} {L : Scheme X} {r : Route}
    (h : D.Follows L fun _ p => p) (hwalks : L.Walks r) (stop : Stop X) :
    (D.stopPiece stop).events =
      ((stop.trail r).takeWhile fun stop => (L.fault? stop).isNone).flatMap L.reports := by
  rw [← L.events_signals, ← h.silent_stopPiece hwalks]
  rfl

/-! ## Workarounds of MySQL -/

namespace MySql

/-- The workarounds taken along a trail, up to the first fault. -/
def workarounds (support : CastSupport) (rules : CastRules) (trail : List (Stop signature)) :
    List Event :=
  (trail.takeWhile fun stop => (fault? rules stop).isNone).flatMap (workaround support rules)

theorem all_workarounds_debug (support : CastSupport) (rules : CastRules)
    (trail : List (Stop signature)) :
    (workarounds support rules trail).all (fun event => event.level = .debug) = true := by
  rw [List.all_eq_true]
  intro event hevent
  obtain ⟨stop, -, hevent⟩ := List.mem_flatMap.1 hevent
  unfold workaround at hevent
  split at hevent
  · split at hevent
    · rw [List.mem_singleton.1 hevent]
      rfl
    · cases hevent
  · rw [List.mem_singleton.1 hevent]
    rfl
  · cases hevent

/-- The events that a stop adds are the workarounds along its trail. -/
theorem events_stopPiece (support : CastSupport) (rules : CastRules) (stop : Stop signature) :
    ((dialect support rules).stopPiece stop).events =
      workarounds support rules (stop.trail route) := by
  rw [(dialect_follows support rules).events_stopPiece (scheme_walks support rules),
    scheme_fault?, scheme_reports]
  rfl

end MySql

/-! ## Compiled trees -/

namespace Dialect

theorem compiling_emit (p : Piece) (o : Output) :
    compiling (emit p) o =
      match p.error with
      | none => .ok p.sql ⟨"", o.events ++ p.events⟩
      | some e => .error e ⟨"", o.events ++ p.events⟩ := by
  unfold compiling emit
  cases p.error <;> simp

end Dialect

/-- In MySQL, with any cast rules and any support, the log of an expression lists the workarounds
along its trail, up to the first fault, and the log of a query lists them too and then the query
itself, if it has a text. -/
theorem MySql.log_lists_workarounds (support : CastSupport) (rules : CastRules) :
    (∀ e o, ((dialect support rules).compileExpr e).log o =
      o.events ++ workarounds support rules (e.trail route)) ∧
    (∀ q o,
      (∃ sql o', (dialect support rules).compileQuery q o = .ok sql o' ∧
        o'.events =
          o.events ++ workarounds support rules (q.trail route) ++ [.queryWritten sql]) ∨
      (∃ error o', (dialect support rules).compileQuery q o = .error error o' ∧
        o'.events = o.events ++ workarounds support rules (q.trail route))) ∧
    (∀ trail,
      (workarounds support rules trail).all (fun event => event.level = .debug) = true) ∧
    ∀ sql, (Event.queryWritten sql).level = .trace := by
  have hplain := dialect_plain support rules
  refine ⟨?_, ?_, all_workarounds_debug support rules, fun _ => rfl⟩
  · intro e o
    have hevents : ((dialect support rules).exprPiece e).events =
        workarounds support rules (e.trail route) := events_stopPiece support rules (.expr e)
    rw [← hevents, Dialect.compileExpr, hplain.writeExpr, EmitM.log, Dialect.compiling_emit]
    cases ((dialect support rules).exprPiece e).error <;> rfl
  · intro q o
    have hevents : ((dialect support rules).queryPiece q).events =
        workarounds support rules (q.trail route) := events_stopPiece support rules (.query q)
    have hcompiling := Dialect.compiling_emit ((dialect support rules).queryPiece q) o
    rw [← hplain.writeQuery, hevents] at hcompiling
    rw [Dialect.compileQuery_eq]
    cases herror : ((dialect support rules).queryPiece q).error with
    | none =>
      rw [herror] at hcompiling
      exact .inl ⟨_, _, Dialect.recorded_ok hcompiling, rfl⟩
    | some e =>
      rw [herror] at hcompiling
      exact .inr ⟨_, _, Dialect.recorded_error hcompiling, rfl⟩

end SqlScribe
