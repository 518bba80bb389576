import SqlScribe.Proofs.DialectLayout

/-!
# Faults

A tree has a text unless one of its nodes is faulty, and a dialect says which nodes are. Writing a
tree fails exactly if the walk over it stops at a faulty node, and the error is the fault of the
first one it stops at (`FailsFirst`): the check of a node comes before its parts, no
part is left out, and no error is lost or replaced on the way up.

In standard SQL only a conversion without a type is faulty. MySQL adds conversions to types that no
cast rule covers, collations that name no character set or no collation, and the comparison that
has no text.

Besides its text, a stop adds the events that its layout notes, or the error that it has in place of
a layout: its `signal`. What a whole tree adds besides text are the signals along its trail, up to
the first error (`Follows.silent_stopPiece`). The first fault is the error among them, and the log
of a tree is the rest.
-/

namespace SqlScribe

open Piece

variable {X : Signature}

/-! ## Pieces without text -/

namespace Piece

theorem inOrder_flatMap {α : Type} (f : α → List Piece) (xs : List α) :
    inOrder (xs.flatMap f) = inOrder (xs.map fun x => inOrder (f x)) := by
  induction xs with
  | nil => rfl
  | cons x xs ih => rw [List.flatMap_cons, inOrder_append, ih, List.map_cons, inOrder]

/-- The piece without its text. -/
def silent (p : Piece) : Piece := { p with sql := "" }

@[simp]
theorem error_silent (p : Piece) : p.silent.error = p.error := rfl

@[simp]
theorem silent_append (p q : Piece) : (p ++ q).silent = p.silent ++ q.silent := by
  cases hp : p.error with
  | none =>
    rw [append_of_none hp, append_of_none (p := p.silent) hp]
    rfl
  | some e => rw [append_of_some hp, append_of_some (p := p.silent) hp]

theorem silent_inOrder (ps : List Piece) : (inOrder ps).silent = inOrder (ps.map silent) := by
  induction ps with
  | nil => rfl
  | cons p ps ih => rw [inOrder, silent_append, ih, List.map_cons, inOrder]

end Piece

/-! ## Signals -/

/-- What a layout adds to an output besides text, its parts apart. -/
def Layout.signal : Except Error (Layout X) → Piece
  | .error e => .fail e
  | .ok layout => { events := layout.events }

namespace Scheme

/-- The error that a stop has in place of a layout. -/
def fault? (L : Scheme X) (stop : Stop X) : Option Error :=
  match L.layout stop with
  | .error e => some e
  | .ok _ => none

/-- What a stop reports, its parts apart. -/
def reports (L : Scheme X) (stop : Stop X) : List Event :=
  match L.layout stop with
  | .error _ => []
  | .ok layout => layout.events

/-- What a stop adds to an output besides text, its parts apart. -/
def signal (L : Scheme X) (stop : Stop X) : Piece := Layout.signal (L.layout stop)

/-- A signal is made up of the reports and the fault of a stop. -/
theorem signal_eq (L : Scheme X) (stop : Stop X) :
    L.signal stop = { events := L.reports stop, error := L.fault? stop } := by
  unfold signal reports fault?
  cases L.layout stop <;> rfl

end Scheme

namespace Dialect

/-- Slots that are no parts only write. -/
theorem silent_slotsPiece (D : Dialect X) (f : Stop X → Piece) (row : Row X) :
    (D.slotsPiece f row).silent = inOrder (row.parts.map fun stop => (f stop).silent) := by
  rw [slotsPiece, silent_inOrder, List.map_map]
  induction row with
  | nil => rfl
  | cons slot row ih =>
    rw [List.map_cons, inOrder, ih]
    cases slot with
    | part stop => rfl
    | _ => exact empty_append _

/-- Apart from its text, a layout adds its signal and then what its parts add. -/
theorem silent_layoutPiece (D : Dialect X) (f : Stop X → Piece)
    {layout : Except Error (Layout X)} {parts : List (Stop X)} (h : Layout.Has layout parts) :
    (D.layoutPiece f layout).silent =
      Layout.signal layout ++ inOrder (parts.map fun stop => (f stop).silent) := by
  cases layout with
  | error e => exact (append_of_some rfl _).symm
  | ok layout =>
    rw [layoutPiece, silent_append, inOrder_events, silent_slotsPiece, h layout rfl]
    rfl

namespace Follows

variable {D : Dialect X} {L : Scheme X} {r : Route}

/-- Apart from its text, a stop adds the signals of its trail, up to the first fault. -/
theorem silent_stopPiece (h : D.Follows L fun _ p => p) (hwalks : L.Walks r) (stop : Stop X) :
    (D.stopPiece stop).silent = inOrder ((stop.trail r).map L.signal) := by
  induction stop using Stop.induction r with
  | step stop ih =>
    have hparts : inOrder ((stop.parts r).map fun part => (D.stopPiece part).silent) =
        inOrder (((stop.parts r).flatMap (Stop.trail r)).map L.signal) := by
      rw [List.map_flatMap, inOrder_flatMap]
      exact congrArg inOrder (List.map_congr_left ih)
    -- The trail starts with the stop itself, whose signal is what its own layout adds.
    rw [h.stopPiece_bare, Stop.trail_eq, List.map_cons, inOrder, ← hparts]
    exact D.silent_layoutPiece D.stopPiece (hwalks.layout_has stop)

/-- The error of a stop is the first fault on its trail. -/
theorem error_stopPiece (h : D.Follows L fun _ p => p) (hwalks : L.Walks r) (stop : Stop X) :
    (D.stopPiece stop).error = (stop.trail r).findSome? L.fault? := by
  have hsignal : ∀ stop, (L.signal stop).error = L.fault? stop := by
    intro stop
    rw [L.signal_eq]
  rw [← error_silent, h.silent_stopPiece hwalks, error_inOrder, List.findSome?_map]
  exact congrArg (List.findSome? · _) (funext hsignal)

end Follows

end Dialect

/-! ## Standard SQL -/

/-- A conversion without a type is faulty in standard SQL. -/
def Standard.fault? : Stop X → Option Error
  | .expr (.unary .convert _ none) => some missingType
  | _ => none

/-- The stops without a standard layout are the ones that are faulty in standard SQL. -/
theorem Standard.scheme_fault? (nullary : X.Nullary → Row X) (noUnary : X.Unary → False)
    (noBinary : X.Binary → False) (noVariadic : X.Variadic → False) :
    (scheme nullary noUnary noBinary noVariadic).fault? = fault? := by
  funext stop
  cases stop with
  | expr e =>
    cases e with
    | unary op a type =>
      cases op with
      | convert => cases type <;> rfl
      | _ => rfl
    | dialectUnary node a => exact (noUnary node).elim
    | dialectBinary node a b => exact (noBinary node).elim
    | variadic node operands => exact (noVariadic node).elim
    | _ => rfl
  | source s => cases s <;> rfl
  | _ => rfl

/-! ## MySQL -/

namespace MySql

/-- Some rule covers the type, whose name is taken in lower case. -/
def CastRules.covers (rules : CastRules) (type : SqlType) : Bool :=
  rules.any (·.covers (String.ofList (Text.toLower type.name.toList)))

/-- The faults of MySQL. -/
def fault? (rules : CastRules) : Stop signature → Option Error
  | .expr (.unary .convert _ none) => some Standard.missingType
  | .expr (.unary .convert _ (some type)) =>
    if rules.covers type then none else some (.unsupportedCast type.name)
  | .expr (.dialectUnary (.collate charset collation) _) =>
    if charset.isEmpty then some (.missingPart "Collate" "charset")
    else if collation.isEmpty then some (.missingPart "Collate" "collation")
    else none
  | .expr (.dialectBinary .nonOptimizedEqual _ _) => some (.unsupportedOperator "NonOptimizedEqual")
  | _ => none

/-- The workaround taken at a stop. -/
def workaround (support : CastSupport) (rules : CastRules) : Stop signature → List Event
  | .expr (.unary .convert _ (some type)) =>
    match rules.planFor support type.name with
    | .ok (.throughDecimal requested) => [.castThroughDecimal type.name requested]
    | _ => []
  | .rowLimit none (some _) => [.limitSupplied]
  | _ => []

/-- A plan for a cast exists exactly if some rule covers the type. -/
theorem planFor_eq (rules : CastRules) (support : CastSupport) (type : SqlType) :
    (∃ plan, rules.planFor support type.name = .ok plan) ∧ rules.covers type = true ∨
      rules.planFor support type.name = .error (.unsupportedCast type.name) ∧
        rules.covers type = false := by
  unfold CastRules.planFor CastRules.keyword? CastRules.covers
  cases hrule : rules.find? (·.covers (String.ofList (Text.toLower type.name.toList))) with
  | none =>
    refine .inr ⟨by simp [hrule], ?_⟩
    simpa using hrule
  | some rule =>
    have hcovers := List.find?_some hrule
    refine .inl ⟨by simp [hrule], ?_⟩
    rw [List.any_eq_true]
    exact ⟨rule, List.mem_of_find?_eq_some hrule, hcovers⟩

/-- A stop reports its workaround, or else fails with its fault. -/
theorem scheme_signal (support : CastSupport) (rules : CastRules) (stop : Stop signature) :
    (scheme support rules).signal stop =
      { events := workaround support rules stop, error := fault? rules stop } := by
  cases stop with
  | expr e =>
    cases e with
    | unary op a type =>
      cases op with
      | convert =>
        cases type with
        | none => rfl
        | some type =>
          simp only [Scheme.signal, Layout.signal, Scheme.layout, Scheme.expr, scheme, unaryLayout,
            convertLayout, workaround, fault?]
          obtain ⟨⟨plan, hplan⟩, hcovers⟩ | ⟨hplan, hcovers⟩ := planFor_eq rules support type
          · cases plan <;> simp [hplan, hcovers, CastPlan.events]
          · simp [hplan, hcovers, Piece.fail]
      | _ => rfl
    | dialectUnary node a =>
      obtain ⟨charset, collation⟩ := node
      simp only [Scheme.signal, Layout.signal, Scheme.layout, Scheme.expr, scheme, collateLayout,
        workaround, fault?]
      by_cases hcharset : charset.isEmpty
      · simp [hcharset, Piece.fail]
      · by_cases hcollation : collation.isEmpty
        · simp [hcharset, hcollation, Piece.fail]
        · simp [hcharset, hcollation, laid]
    | dialectBinary node a b => cases node <;> rfl
    | nullary node => cases node
    | _ => rfl
  | query q => rfl
  | source s => cases s <;> rfl
  | rowLimit limit offset => cases limit <;> cases offset <;> rfl
  | label name => rfl

/-- The stops without a layout are the ones that are faulty in MySQL. -/
theorem scheme_fault? (support : CastSupport) (rules : CastRules) :
    (scheme support rules).fault? = fault? rules :=
  funext fun stop =>
    congrArg Piece.error (((scheme support rules).signal_eq stop).symm.trans
      (scheme_signal support rules stop))

theorem scheme_reports (support : CastSupport) (rules : CastRules) :
    (scheme support rules).reports = workaround support rules :=
  funext fun stop =>
    congrArg Piece.events (((scheme support rules).signal_eq stop).symm.trans
      (scheme_signal support rules stop))

/-- A unary operator fails at its own fault, and else where its operand does. -/
theorem error_unary (rules : CastRules) (support : CastSupport) (op : UnaryOp)
    (a : Expr signature) (type : Option SqlType) (p : Piece) :
    (unary rules support op ⟨a, emit p⟩ type).piece.error =
      (fault? rules (.expr (.unary op a type))).or p.error := by
  -- The piece of the operand is free in the equation for layouts, so any `p` may stand there.
  have hlaid := unary_laid (dialect support rules) (fun _ => p) rules support op a type
  have hsignal : (Layout.signal (unaryLayout rules support op a type)).error =
      fault? rules (.expr (.unary op a type)) :=
    congrArg Piece.error (scheme_signal support rules (.expr (.unary op a type)))
  rw [hlaid, ← error_silent,
    Dialect.silent_layoutPiece _ _ (unaryLayout_has rules support op a type), error_append, hsignal]
  simp

end MySql

/-! ## The first fault decides -/

/-- The action succeeds if no stop is faulty, and else fails with the fault of the first stop that
is. Its errors are about the tree: none is about a server's version or the formatting of a value. -/
structure FailsFirst (fault? : Stop X → Option Error) (trail : List (Stop X)) (a : Emit) :
    Prop where
  ok_iff : ∀ o, (∃ o', a o = .ok () o') ↔ ∀ stop ∈ trail, fault? stop = none
  error_iff : ∀ o e, (∃ o', a o = .error e o') ↔
    ∃ before stop after, trail = before ++ stop :: after ∧
      (∀ earlier ∈ before, fault? earlier = none) ∧ fault? stop = some e
  about_tree : ∀ o e o', a o = .error e o' → e ≠ .formatting ∧ ∀ text, e ≠ .invalidVersion text

/-- The fault is one that a tree can have. -/
def OfTree (fault? : Stop X → Option Error) : Prop :=
  ∀ stop e, fault? stop = some e → e ≠ .formatting ∧ ∀ text, e ≠ .invalidVersion text

/-- A piece whose error is the first fault of a trail fails there. -/
theorem FailsFirst.of_error {fault? : Stop X → Option Error} (hfault : OfTree fault?)
    {trail : List (Stop X)} {p : Piece} (hp : p.error = trail.findSome? fault?) :
    FailsFirst fault? trail (emit p) where
  ok_iff o := by rw [emit_ok_iff, hp, List.findSome?_eq_none_iff]
  error_iff o e := by
    rw [emit_error_iff, hp, List.findSome?_eq_some_iff]
    constructor
    · rintro ⟨before, stop, after, htrail, hstop, hbefore⟩
      exact ⟨before, stop, after, htrail, hbefore, hstop⟩
    · rintro ⟨before, stop, after, htrail, hbefore, hstop⟩
      exact ⟨before, stop, after, htrail, hstop, hbefore⟩
  about_tree o e o' herror := by
    have hfirst : trail.findSome? fault? = some e := by
      rw [← hp, ← emit_error_iff p o]
      exact ⟨o', herror⟩
    obtain ⟨stop, -, hstop⟩ := List.exists_of_findSome?_eq_some hfirst
    exact hfault stop e hstop

/-- Every way to write a tree fails at the first fault on its trail. -/
structure Dialect.FailsAtFirst (D : Dialect X) (r : Route) (fault? : Stop X → Option Error) :
    Prop where
  expr : ∀ e, FailsFirst fault? (e.trail r) (D.writeExpr e)
  query : ∀ q, FailsFirst fault? (q.trail r) (D.writeQuery q)
  source : ∀ s, FailsFirst fault? (s.trail r) (D.writeSource s)

/-- A dialect that follows a scheme fails at the first stop that the scheme has no layout for. -/
theorem Dialect.Follows.failsAtFirst {D : Dialect X} {L : Scheme X} {r : Route}
    (h : D.Follows L fun _ p => p) (hwalks : L.Walks r) (hfault : OfTree L.fault?) :
    D.FailsAtFirst r L.fault? where
  expr e := by
    rw [h.writeExpr]
    exact .of_error hfault (h.error_stopPiece hwalks (.expr e))
  query q := by
    rw [h.writeQuery]
    exact .of_error hfault (h.error_stopPiece hwalks (.query q))
  source s := by
    rw [h.writeSource]
    exact .of_error hfault (h.error_stopPiece hwalks (.source s))

/-- A missing type is a fault of a tree. -/
theorem Standard.fault?_ofTree : OfTree (X := X) Standard.fault? := by
  intro stop e hstop
  unfold Standard.fault? at hstop
  split at hstop
  · cases hstop
    exact ⟨nofun, nofun⟩
  · cases hstop

/-- So are the faults of MySQL. -/
theorem MySql.fault?_ofTree (rules : CastRules) : OfTree (MySql.fault? rules) := by
  intro stop e hstop
  unfold MySql.fault? at hstop
  split at hstop
  · cases hstop
    exact ⟨nofun, nofun⟩
  · split at hstop
    · cases hstop
    · cases hstop
      exact ⟨nofun, nofun⟩
  · split at hstop
    · cases hstop
      exact ⟨nofun, nofun⟩
    · split at hstop
      · cases hstop
        exact ⟨nofun, nofun⟩
      · cases hstop
  · cases hstop
    exact ⟨nofun, nofun⟩
  · cases hstop

/-- In MySQL, with any cast rules and any support, and in standard SQL, writing a tree fails exactly
if its trail has a faulty stop, and the error is the fault of the first one. -/
theorem writing_fails_at_first_fault :
    (∀ support rules,
      (MySql.dialect support rules).FailsAtFirst MySql.route (MySql.fault? rules)) ∧
    Dialect.ansi.FailsAtFirst Standard.route Standard.fault? := by
  constructor
  · intro support rules
    rw [← MySql.scheme_fault? support]
    refine (MySql.dialect_follows support rules).failsAtFirst (MySql.scheme_walks support rules) ?_
    rw [MySql.scheme_fault?]
    exact MySql.fault?_ofTree rules
  · have hfault : Dialect.ansiScheme.fault? = Standard.fault? := Standard.scheme_fault? _ _ _ _
    rw [← hfault]
    refine Dialect.ansi_follows.failsAtFirst Dialect.ansiScheme_walks ?_
    rw [hfault]
    exact Standard.fault?_ofTree

end SqlScribe
