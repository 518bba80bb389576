import SqlScribe.Proofs.Simulation

/-!
# Agreement of dialects

A tree can be written into a text that is already there, or compiled on its own; a compiled query
is recorded in the log besides. Two dialects `Agree` on corresponding trees, in some respect, when
the actions are related in each of these ways.

A relation between pieces that a simulation shows gives a relation between actions: it is enough
that the latter holds of actions which add related pieces, and that compiling and recording keep it
(`Lifts`).
-/

namespace SqlScribe

open Emit Piece

variable {X Y : Signature} {α : Type}

/-! ## Compiling and recording -/

namespace Dialect

/-- Notes a text that an action hands over as that of a query. -/
def recorded (a : EmitM String) : EmitM String := do
  let sql ← a
  note (.queryWritten sql)
  return sql

/-- Compiling a query is compiling its text, with a record of it in the log. -/
theorem compileQuery_eq (D : Dialect X) (q : Query X) :
    D.compileQuery q = recorded (compiling (D.writeQuery q)) := rfl

/-- A text is compiled from an empty output, and handed over in place of it. -/
theorem compiling_ok {a : Emit} {o o' : Output} (h : a { o with sql := "" } = .ok () o') :
    compiling a o = .ok o'.sql { o' with sql := "" } := by
  simp [compiling, h]

/-- A compilation that fails leaves no text behind, but what was logged stays. -/
theorem compiling_error {a : Emit} {o o' : Output} {e : Error}
    (h : a { o with sql := "" } = .error e o') :
    compiling a o = .error e { o' with sql := "" } := by
  simp [compiling, h]

theorem recorded_ok {a : EmitM String} {o o' : Output} {sql : String} (h : a o = .ok sql o') :
    recorded a o = .ok sql { o' with events := o'.events ++ [.queryWritten sql] } := by
  simp [recorded, bind, EStateM.bind, h, pure, EStateM.pure]

theorem recorded_error {a : EmitM String} {o o' : Output} {e : Error} (h : a o = .error e o') :
    recorded a o = .error e o' := by
  simp [recorded, bind, EStateM.bind, h]

end Dialect

/-- Relations between actions that follow from a relation between the pieces that they add. -/
structure Lifts (R : Piece → Piece → Prop) (rel : ∀ {α : Type}, EmitM α → EmitM α → Prop) :
    Prop where
  emit : ∀ {p p'}, R p p' → rel (emit p) (emit p')
  compiling : ∀ {a a' : Emit}, rel a a' → rel (Dialect.compiling a) (Dialect.compiling a')
  recorded : ∀ {a a' : EmitM String}, rel a a' →
    rel (Dialect.recorded a) (Dialect.recorded a')

theorem Lifts.and {R R' : Piece → Piece → Prop}
    {rel rel' : ∀ {α : Type}, EmitM α → EmitM α → Prop} (h : Lifts R rel) (h' : Lifts R' rel') :
    Lifts (fun p p' => R p p' ∧ R' p p') (fun a a' => rel a a' ∧ rel' a a') where
  emit hp := ⟨h.emit hp.1, h'.emit hp.2⟩
  compiling ha := ⟨h.compiling ha.1, h'.compiling ha.2⟩
  recorded ha := ⟨h.recorded ha.1, h'.recorded ha.2⟩

/-- However corresponding trees are written, the two actions are related. -/
structure Dialect.Agree (rel : ∀ {α : Type}, EmitM α → EmitM α → Prop) (D : Dialect X)
    (D' : Dialect Y) (E : Expr X → Expr Y → Prop) (Q : Query X → Query Y → Prop)
    (S : Source X → Source Y → Prop) : Prop where
  writeExpr : ∀ {e e'}, E e e' → rel (D.writeExpr e) (D'.writeExpr e')
  writeQuery : ∀ {q q'}, Q q q' → rel (D.writeQuery q) (D'.writeQuery q')
  writeSource : ∀ {s s'}, S s s' → rel (D.writeSource s) (D'.writeSource s')
  compileExpr : ∀ {e e'}, E e e' → rel (D.compileExpr e) (D'.compileExpr e')
  compileQuery : ∀ {q q'}, Q q q' → rel (D.compileQuery q) (D'.compileQuery q')

/-- Dialects in simulation agree on corresponding trees, in every respect to which the relation of
their pieces lifts. -/
theorem Simulation.agree {D : Dialect X} {D' : Dialect Y} {R : Piece → Piece → Prop}
    {E : Expr X → Expr Y → Prop} {Q : Query X → Query Y → Prop} {S : Source X → Source Y → Prop}
    {rel : ∀ {α : Type}, EmitM α → EmitM α → Prop} (h : Simulation D D' R E Q S)
    (hlifts : Lifts R rel) : D.Agree rel D' E Q S := by
  have hexpr : ∀ {e e'}, E e e' → rel (D.writeExpr e) (D'.writeExpr e') := by
    intro e e' he
    rw [h.plain.writeExpr, h.plain'.writeExpr]
    exact hlifts.emit (h.exprPiece he)
  have hquery : ∀ {q q'}, Q q q' → rel (D.writeQuery q) (D'.writeQuery q') := by
    intro q q' hq
    rw [h.plain.writeQuery, h.plain'.writeQuery]
    exact hlifts.emit (h.queryPiece hq)
  refine ⟨hexpr, hquery, ?_, fun he => hlifts.compiling (hexpr he), ?_⟩
  · intro s s' hs
    rw [h.plain.writeSource, h.plain'.writeSource]
    exact hlifts.emit (h.sourcePiece hs)
  · intro q q' hq
    rw [Dialect.compileQuery_eq, Dialect.compileQuery_eq]
    exact hlifts.recorded (hlifts.compiling (hquery hq))

/-! ## The same outcome -/

namespace EmitM

/-- What an action yields or fails with, and the text that it leaves. -/
def outcome (a : EmitM α) (o : Output) : Except Error α × String :=
  match a o with
  | .ok value o' => (.ok value, o'.sql)
  | .error e o' => (.error e, o'.sql)

/-- The log that an action leaves. -/
def log (a : EmitM α) (o : Output) : List Event :=
  match a o with
  | .ok _ o' => o'.events
  | .error _ o' => o'.events

/-- Whatever was written before, the actions yield the same or fail alike, and leave the same text.
Their logs may differ. -/
def SameOutcome (a a' : EmitM α) : Prop :=
  ∀ o, a'.outcome o = a.outcome o

/-- The action notes nothing for debugging. -/
def IsQuiet (a : EmitM α) : Prop :=
  ∀ o, ∃ events, a.log o = o.events ++ events ∧ ∀ event ∈ events, event.level ≠ .debug

/-- The outcome of a compilation is that of writing into an empty output, with the text moved out of
it. -/
theorem outcome_compiling (a : Emit) (o : Output) :
    outcome (Dialect.compiling a) o =
      ((a.outcome { o with sql := "" }).1.map fun _ => (a.outcome { o with sql := "" }).2, "") := by
  unfold outcome
  cases ha : a { o with sql := "" } with
  | ok _ o' => rw [Dialect.compiling_ok ha]; rfl
  | error e o' => rw [Dialect.compiling_error ha]; rfl

theorem outcome_recorded (a : EmitM String) (o : Output) :
    outcome (Dialect.recorded a) o = a.outcome o := by
  unfold outcome
  cases ha : a o with
  | ok sql o' => rw [Dialect.recorded_ok ha]
  | error e o' => rw [Dialect.recorded_error ha]

theorem log_compiling (a : Emit) (o : Output) :
    log (Dialect.compiling a) o = a.log { o with sql := "" } := by
  unfold log
  cases ha : a { o with sql := "" } with
  | ok _ o' => rw [Dialect.compiling_ok ha]
  | error e o' => rw [Dialect.compiling_error ha]

end EmitM

open EmitM

/-- The pieces have the same text and fail alike; their events may differ. -/
def Piece.SameText (p p' : Piece) : Prop :=
  p'.sql = p.sql ∧ p'.error = p.error

/-- Pieces put together from pieces with the same texts and errors have the same texts and
errors. -/
theorem Piece.sameText_congruence : Congruence SameText where
  text _ := ⟨rfl, rfl⟩
  append {p p' q q'} hp hq := by
    unfold SameText
    cases hnone : p.error with
    | none =>
      rw [append_of_none hnone, append_of_none (hp.2.trans hnone), hp.1, hq.1, hq.2]
      exact ⟨rfl, rfl⟩
    | some e =>
      rw [append_of_some hnone, append_of_some (hp.2.trans hnone)]
      exact hp

/-- Pieces with the same text and error are written with the same outcome. -/
theorem Piece.sameText_lifts : Lifts SameText SameOutcome where
  emit {p p'} hp := by
    intro o
    unfold outcome Piece.emit
    rw [hp.1, hp.2]
    cases p.error <;> rfl
  compiling ha := by
    intro o
    rw [outcome_compiling, outcome_compiling, ha]
  recorded ha := by
    intro o
    rw [outcome_recorded, outcome_recorded, ha]

/-- The second piece has no events. -/
def Piece.SecondQuiet (_ p' : Piece) : Prop := p'.events = []

/-- A piece put together from pieces without events has no events. -/
theorem Piece.secondQuiet_congruence : Congruence SecondQuiet where
  text _ := rfl
  append {_ p' _ q'} hp hq := by
    unfold SecondQuiet at *
    cases herror : p'.error with
    | none => rw [append_of_none herror, hp, hq]; rfl
    | some e => rw [append_of_some herror, hp]

/-- A piece without events is written without a report. -/
theorem Piece.secondQuiet_lifts : Lifts SecondQuiet fun _ a' => a'.IsQuiet where
  emit {p p'} hp := by
    intro o
    refine ⟨[], ?_, List.forall_mem_nil _⟩
    unfold log Piece.emit
    rw [hp]
    cases p'.error <;> rfl
  compiling ha := by
    intro o
    rw [log_compiling]
    exact ha { o with sql := "" }
  recorded {_ a'} ha := by
    intro o
    obtain ⟨events, hlog, hevents⟩ := ha o
    unfold log at hlog ⊢
    cases hresult : a' o with
    | ok sql o' =>
      rw [hresult] at hlog
      rw [Dialect.recorded_ok hresult]
      refine ⟨events ++ [.queryWritten sql], ?_, ?_⟩
      · rw [← List.append_assoc]
        exact congrArg (· ++ _) hlog
      · rw [List.forall_mem_append]
        exact ⟨hevents, List.forall_mem_singleton.2 nofun⟩
    | error e o' =>
      rw [hresult] at hlog
      rw [Dialect.recorded_error hresult]
      exact ⟨events, hlog, hevents⟩

end SqlScribe
