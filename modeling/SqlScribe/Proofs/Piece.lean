import SqlScribe.Dialect.Standard

/-!
# Pieces of output

What an action adds to an output, as a value: a `Piece` is a text, the events noted along with it
and the error that ended it, if one did. Pieces are put together like actions (`p ++ q` is `p` alone
if `p` failed), and `Piece.emit` is the action that adds a piece to whatever output it finds.

An action `Appends` when it is `emit` of a piece: then it neither reads nor removes what is there.
The standard rules turn such actions into such actions, and the lemmas `Standard.like_emit` and its
like say which piece comes out.
-/

namespace SqlScribe

/-- A text and events, and the error that ended them if there was one. -/
structure Piece where
  sql : String := ""
  events : List Event := []
  error : Option Error := none

namespace Piece

/-- A text alone. -/
def text (sql : String) : Piece := { sql }

/-- An event alone. -/
def event (event : Event) : Piece := { events := [event] }

/-- A failure before anything is written. -/
def fail (error : Error) : Piece := { error := some error }

/-- A piece and then another one, unless the first failed. -/
def andThen (p q : Piece) : Piece :=
  match p.error with
  | none => ⟨p.sql ++ q.sql, p.events ++ q.events, q.error⟩
  | some _ => p

instance : Append Piece := ⟨andThen⟩

/-- The action that adds the piece to an output. -/
def emit (p : Piece) : Emit := fun o =>
  match p.error with
  | none => .ok () ⟨o.sql ++ p.sql, o.events ++ p.events⟩
  | some e => .error e ⟨o.sql ++ p.sql, o.events ++ p.events⟩

/-- A piece is written to its end exactly if it has no error. -/
theorem emit_ok_iff (p : Piece) (o : Output) :
    (∃ o', emit p o = .ok () o') ↔ p.error = none := by
  unfold emit
  cases p.error <;> simp

/-- Writing a piece fails exactly with its error. -/
theorem emit_error_iff (p : Piece) (o : Output) (e : Error) :
    (∃ o', emit p o = .error e o') ↔ p.error = some e := by
  unfold emit
  cases p.error <;> simp

/-! ## Composition -/

/-- Behind a piece without an error the next one goes on. -/
theorem append_of_none {p : Piece} (h : p.error = none) (q : Piece) :
    p ++ q = ⟨p.sql ++ q.sql, p.events ++ q.events, q.error⟩ := by
  change p.andThen q = _
  rw [andThen, h]

/-- Behind an error nothing comes. -/
theorem append_of_some {p : Piece} {e : Error} (h : p.error = some e) (q : Piece) : p ++ q = p := by
  change p.andThen q = _
  rw [andThen, h]

@[simp]
theorem error_append (p q : Piece) : (p ++ q).error = p.error.or q.error := by
  cases h : p.error with
  | none => rw [append_of_none h, Option.none_or]
  | some e => rw [append_of_some h, h, Option.some_or]

theorem append_assoc (p q r : Piece) : p ++ q ++ r = p ++ (q ++ r) := by
  cases hp : p.error with
  | none =>
    cases hq : q.error with
    | none =>
      have hpq : (p ++ q).error = none := by simp [hp, hq]
      rw [append_of_none hpq, append_of_none hp, append_of_none hp, append_of_none hq]
      simp [String.append_assoc]
    | some e =>
      have hpq : (p ++ q).error = some e := by simp [hp, hq]
      rw [append_of_some hpq, append_of_some hq]
  | some e =>
    have hpq : (p ++ q).error = some e := by simp [hp]
    rw [append_of_some hpq, append_of_some hp, append_of_some hp]

@[simp]
theorem empty_append (p : Piece) : ({} : Piece) ++ p = p := by
  rw [append_of_none rfl]
  simp

@[simp]
theorem append_empty (p : Piece) : p ++ ({} : Piece) = p := by
  cases h : p.error with
  | none =>
    rw [append_of_none h, ← h]
    simp
  | some e => rw [append_of_some h]

theorem text_append (a b : String) : text (a ++ b) = text a ++ text b := rfl

@[simp] theorem error_text (sql : String) : (text sql).error = none := rfl

@[simp] theorem error_fail (e : Error) : (fail e).error = some e := rfl

/-! ## Pieces of pieces -/

/-- A piece between two parentheses. -/
def parenthesized (p : Piece) : Piece := text "(" ++ p ++ text ")"

/-- A text if a condition holds. -/
def textIf (condition : Bool) (sql : String) : Piece := if condition then text sql else {}

/-- An optional piece behind the text that leads it in. -/
def led (lead : String) : Option Piece → Piece
  | none => {}
  | some p => text lead ++ p

/-- Pieces one after the other. -/
def inOrder : List Piece → Piece
  | [] => {}
  | p :: ps => p ++ inOrder ps

/-- Pieces with a separator between each two. -/
def separated (separator : String) : List Piece → Piece
  | [] => {}
  | p :: ps => p ++ inOrder (ps.map (text separator ++ ·))

/-- The pieces of a clause behind the word that leads it in, if there are any. -/
def clause (lead separator : String) (ps : List Piece) : Piece :=
  if ps.isEmpty then {} else text lead ++ separated separator ps

@[simp]
theorem error_inOrder (ps : List Piece) : (inOrder ps).error = ps.findSome? (·.error) := by
  induction ps with
  | nil => rfl
  | cons p ps ih => cases h : p.error <;> simp [inOrder, ih, h]

end Piece

/-! ## Actions that append -/

namespace Emit

open Piece

/-- What an action adds to an empty output. -/
def piece (a : Emit) : Piece :=
  match a {} with
  | .ok _ o => ⟨o.sql, o.events, none⟩
  | .error e o => ⟨o.sql, o.events, some e⟩

/-- The action adds the same piece to every output. -/
def Appends (a : Emit) : Prop := a = emit a.piece

/-- The piece of an action is read back from what the action adds. -/
@[simp]
theorem piece_emit (p : Piece) : (emit p).piece = p := by
  unfold piece emit
  obtain ⟨sql, events, error⟩ := p
  cases error <;> simp

@[simp]
theorem appends_emit (p : Piece) : (emit p).Appends := by
  rw [Appends, piece_emit]

theorem Appends.of_eq {a : Emit} {p : Piece} (h : a = emit p) : a.Appends :=
  h ▸ appends_emit p

theorem write_eq_emit (sql : String) : write sql = emit (text sql) := by
  funext o
  simp [emit, text]

theorem note_eq_emit (e : Event) : note e = emit (event e) := by
  funext o
  simp [emit, event]

theorem nothing_eq_emit : nothing = emit {} := by
  funext o
  simp [emit]

theorem throw_eq_emit (e : Error) : (throw e : Emit) = emit (fail e) := by
  funext o
  change EStateM.Result.error e o = _
  simp [emit, Piece.fail]

theorem emit_bind_emit (p q : Piece) : (emit p >>= fun _ => emit q) = emit (p ++ q) := by
  funext o
  cases h : p.error with
  | none =>
    rw [append_of_none h]
    simp [bind, EStateM.bind, emit, h, String.append_assoc]
  | some e =>
    rw [append_of_some h]
    simp [bind, EStateM.bind, emit, h]

/-! ## Putting actions together -/

theorem parenthesized_emit (p : Piece) : parenthesized (emit p) = emit p.parenthesized := by
  simp only [parenthesized, Piece.parenthesized, write_eq_emit, emit_bind_emit, append_assoc]

theorem writeIf_eq_emit (condition : Bool) (sql : String) :
    writeIf condition sql = emit (textIf condition sql) := by
  cases condition
  · exact nothing_eq_emit
  · exact write_eq_emit sql

theorem led_emit (lead : String) (p : Option Piece) :
    led lead (p.map emit) = emit (Piece.led lead p) := by
  cases p with
  | none => exact nothing_eq_emit
  | some p => simp only [led, Option.map_some, Piece.led, write_eq_emit, emit_bind_emit]

theorem inOrder_emit (ps : List Piece) : inOrder (ps.map emit) = emit (Piece.inOrder ps) := by
  induction ps with
  | nil => exact nothing_eq_emit
  | cons p ps ih => simp only [List.map_cons, inOrder, ih, emit_bind_emit, Piece.inOrder]

theorem separated_emit (separator : String) (ps : List Piece) :
    separated separator (ps.map emit) = emit (Piece.separated separator ps) := by
  cases ps with
  | nil => exact nothing_eq_emit
  | cons p ps =>
    have hparts : (ps.map emit).map (fun next => do write separator; next) =
        (ps.map (text separator ++ ·)).map emit := by
      simp only [List.map_map]
      refine List.map_congr_left fun q _ => ?_
      simp only [Function.comp_apply, write_eq_emit, emit_bind_emit]
    simp only [List.map_cons, separated, Piece.separated]
    rw [hparts, inOrder_emit, emit_bind_emit]

theorem clause_emit (lead separator : String) (ps : List Piece) :
    clause lead separator (ps.map emit) = emit (Piece.clause lead separator ps) := by
  cases ps with
  | nil => exact nothing_eq_emit
  | cons p ps =>
    unfold clause Piece.clause
    rw [separated_emit, write_eq_emit, emit_bind_emit]
    rfl

end Emit

/-! ## The standard rules -/

/-- The piece of an operand among other operators. -/
def Piece.operand {X : Signature} (e : Expr X) (p : Piece) : Piece :=
  if e.isOperator then p.parenthesized else p

namespace Standard

open Emit Piece

variable {X : Signature}

theorem operand_emit (e : Expr X) (p : Piece) : operand ⟨e, emit p⟩ = emit (Piece.operand e p) := by
  unfold operand Piece.operand
  rw [parenthesized_emit, apply_ite emit]

/-- The piece of a call; a niladic function has no parentheses. -/
theorem call_emit (name : String) (args : List Piece) (niladic : Bool) :
    call name (args.map emit) niladic =
      emit (if niladic then text name else
        text name ++ (Piece.separated ", " args).parenthesized) := by
  unfold call
  rw [separated_emit, parenthesized_emit, write_eq_emit, emit_bind_emit, apply_ite emit]

theorem cast_emit (p : Piece) (target : String) :
    cast (emit p) target = emit (text "CAST(" ++ p ++ text (" AS " ++ target ++ ")")) := by
  simp only [cast, write_eq_emit, emit_bind_emit, append_assoc]

theorem unary_not_emit (e : Expr X) (p : Piece) (type : Option SqlType) :
    unary .not ⟨e, emit p⟩ type = emit (text "NOT " ++ p.parenthesized) := by
  simp only [unary, write_eq_emit, parenthesized_emit, emit_bind_emit]

theorem unary_negate_emit (e : Expr X) (p : Piece) (type : Option SqlType) :
    unary .negate ⟨e, emit p⟩ type = emit (text "-" ++ Piece.operand e p) := by
  simp only [unary, write_eq_emit, operand_emit, emit_bind_emit]

theorem unary_isNull_emit (e : Expr X) (p : Piece) (type : Option SqlType) :
    unary .isNull ⟨e, emit p⟩ type = emit (Piece.operand e p ++ text " IS NULL") := by
  simp only [unary, write_eq_emit, operand_emit, emit_bind_emit]

theorem unary_isNotNull_emit (e : Expr X) (p : Piece) (type : Option SqlType) :
    unary .isNotNull ⟨e, emit p⟩ type = emit (Piece.operand e p ++ text " IS NOT NULL") := by
  simp only [unary, write_eq_emit, operand_emit, emit_bind_emit]

/-- A conversion without a type fails before its operand is written. -/
theorem unary_convert_none (part : Operand X) :
    unary .convert part none = emit (Piece.fail missingType) :=
  throw_eq_emit missingType

theorem unary_convert_emit (e : Expr X) (p : Piece) (type : SqlType) :
    unary .convert ⟨e, emit p⟩ (some type) =
      emit (text "CAST(" ++ p ++ text (" AS " ++ type.name ++ ")")) :=
  cast_emit p type.name

theorem binary_emit (op : BinaryOp) (a b : Expr X) (p q : Piece) :
    binary op ⟨a, emit p⟩ ⟨b, emit q⟩ =
      emit (Piece.operand a p ++ text (" " ++ op.token ++ " ") ++ Piece.operand b q) := by
  simp only [binary, write_eq_emit, operand_emit, emit_bind_emit, append_assoc]

theorem like_emit (p q : Piece) (r : Option Piece) :
    like (emit p) (emit q) (r.map emit) =
      emit (p ++ text " LIKE " ++ q ++ Piece.led " ESCAPE " r) := by
  simp only [like, write_eq_emit, led_emit, emit_bind_emit, append_assoc]

theorem member_emit (e : Expr X) (p : Piece) (values : List Piece) (negated : Bool) :
    member ⟨e, emit p⟩ (values.map emit) negated =
      emit (Piece.operand e p ++ textIf negated " NOT" ++ text " IN " ++
        (Piece.separated ", " values).parenthesized) := by
  simp only [member, write_eq_emit, writeIf_eq_emit, operand_emit, separated_emit,
    parenthesized_emit, emit_bind_emit, append_assoc]

theorem branch_emit (test result : Piece) :
    branch (emit test) (emit result) =
      emit (text " WHEN " ++ test ++ text " THEN " ++ result) := by
  simp only [branch, write_eq_emit, emit_bind_emit, append_assoc]

theorem choice_emit (subject : Option Piece) (branches : List Piece) (otherwise : Option Piece) :
    choice (subject.map emit) (branches.map emit) (otherwise.map emit) =
      emit (text "CASE" ++ Piece.led " " subject ++ Piece.inOrder branches ++
        Piece.led " ELSE " otherwise ++ text " END") := by
  simp only [choice, write_eq_emit, led_emit, inOrder_emit, emit_bind_emit, append_assoc]

theorem existence_emit (query : Piece) (negated : Bool) :
    existence (emit query) negated =
      emit (textIf negated "NOT " ++ text "EXISTS " ++ query.parenthesized) := by
  simp only [existence, write_eq_emit, writeIf_eq_emit, parenthesized_emit, emit_bind_emit,
    append_assoc]

/-- The piece of what a source or a column is called in the rest of the query. -/
theorem labelled_eq_emit (quote : String → String) (label : Option String) :
    labelled quote label = emit (Piece.led " AS " (label.map fun name => text (quote name))) := by
  have hparts : (label.map fun name => write (quote name)) =
      (label.map fun name => text (quote name)).map emit := by
    simp only [Option.map_map, write_eq_emit, Function.comp_def]
  rw [labelled, hparts, led_emit]

theorem table_eq_emit (quote : String → String) (schema : Option String) (name : String)
    (label : Option String) :
    table quote schema name label =
      emit (text (qualified quote schema name) ++
        Piece.led " AS " (label.map fun name => text (quote name))) := by
  simp only [table, write_eq_emit, labelled_eq_emit, emit_bind_emit]

theorem derived_emit (quote : String → String) (query : Piece) (label : String) :
    derived quote (emit query) label =
      emit (query.parenthesized ++ (text " AS " ++ text (quote label))) := by
  simp only [derived, parenthesized_emit, labelled_eq_emit, Option.map_some, Piece.led,
    emit_bind_emit]

theorem join_emit (word : String) (source condition : Piece) :
    join word (emit source) (emit condition) =
      emit (text word ++ source ++ text " ON " ++ condition) := by
  simp only [join, write_eq_emit, emit_bind_emit, append_assoc]

theorem crossJoin_emit (source : Piece) :
    crossJoin (emit source) = emit (text "CROSS JOIN " ++ source) := by
  simp only [crossJoin, write_eq_emit, emit_bind_emit]

theorem crossApply_emit (source : Piece) :
    crossApply (emit source) = emit (text "CROSS APPLY " ++ source) := by
  simp only [crossApply, write_eq_emit, emit_bind_emit]

theorem outerApply_emit (source : Piece) :
    outerApply (emit source) = emit (text "OUTER APPLY " ++ source) := by
  simp only [outerApply, write_eq_emit, emit_bind_emit]

/-- The piece of the columns of a result; without any, the number one. -/
theorem columns_emit (parts : List Piece) :
    columns (parts.map emit) =
      emit (if parts.isEmpty then text "1" else Piece.separated ", " parts) := by
  unfold columns
  rw [separated_emit, write_eq_emit, apply_ite emit, List.isEmpty_map]

theorem outputColumn_emit (quote : String → String) (p : Piece) (label : Option String) :
    outputColumn quote (emit p) label =
      emit (p ++ Piece.led " AS " (label.map fun name => text (quote name))) := by
  simp only [outputColumn, labelled_eq_emit, emit_bind_emit]

theorem sortKey_emit (p : Piece) (ascending : Bool) :
    sortKey (emit p) ascending = emit (p ++ textIf (!ascending) " DESC") := by
  simp only [sortKey, writeIf_eq_emit, emit_bind_emit]

/-- The piece of a limit and an offset: the offset comes first, and a blank stands between the
two. -/
theorem rowLimit_emit (limit offset : Option Piece) :
    rowLimit (limit.map emit) (offset.map emit) =
      emit ((offset.elim {} fun p => text "OFFSET " ++ p ++ text " ROWS") ++
        (limit.elim {} fun p =>
          textIf offset.isSome " " ++ text "FETCH FIRST " ++ p ++ text " ROWS ONLY")) := by
  cases limit <;> cases offset <;>
    simp only [rowLimit, Option.map_none, Option.map_some, Option.isSome_none, Option.isSome_some,
      Option.elim_none, Option.elim_some, write_eq_emit, writeIf_eq_emit, nothing_eq_emit,
      emit_bind_emit, append_assoc]

theorem query_emit (distinct : Bool) (cols sources : List Piece) (predicate : Option Piece)
    (groupKeys : List Piece) (groupPredicate : Option Piece) (sortKeys : List Piece)
    (limited : Option Piece) :
    query distinct
        { columns := cols.map emit
          sources := sources.map emit
          predicate := predicate.map emit
          groupKeys := groupKeys.map emit
          groupPredicate := groupPredicate.map emit
          sortKeys := sortKeys.map emit
          rowLimit := limited.map emit } =
      emit (text "SELECT " ++ textIf distinct "DISTINCT " ++
        (if cols.isEmpty then text "1" else Piece.separated ", " cols) ++
        Piece.clause "\nFROM " "\n" sources ++ Piece.led "\nWHERE " predicate ++
        Piece.clause "\nGROUP BY " ", " groupKeys ++ Piece.led "\nHAVING " groupPredicate ++
        Piece.clause "\nORDER BY " ", " sortKeys ++ Piece.led "\n" limited) := by
  simp only [query, write_eq_emit, writeIf_eq_emit, columns_emit, clause_emit, led_emit,
    emit_bind_emit, append_assoc]

end Standard

end SqlScribe
