import SqlScribe.Proofs.Layout

/-!
# Mending a tree

A walk over a tree ends at its first faulty node. Mending the tree puts another expression in the
place of that node and leaves everything else as it is; a tree without faulty nodes has nothing to
mend. A `Mending` says which expressions count as faulty and what stands in for them.

Mending a stop is mending the first of its slots that has something to mend (`Keeps.layout`), since
the layout of a node does not look at its parts any further than to tell operators and strings.
-/

namespace SqlScribe

variable {X : Signature}

/-! ## Mended trees -/

/-- What to put in the place of some expressions. It is an operator or a string exactly if they
are. -/
structure Mending (X : Signature) where
  standIn? : Expr X → Option (Expr X)
  isOperator_eq : ∀ e e', standIn? e = some e' → e'.isOperator = e.isOperator
  isString_eq : ∀ e e', standIn? e = some e' → e'.isString = e.isString

mutual

/-- The expression with the first faulty node inside it replaced, if there is one. -/
def Expr.mendInside? (m : Mending X) (r : Route) : Expr X → Option (Expr X)
  | .literal _ _ => none
  | .parameter _ _ => none
  | .column _ _ _ => none
  | .raw _ => none
  | .call name args niladic type =>
    if r.skipsArgs name niladic then none
    else (mendExprs? m r args).map fun args => .call name args niladic type
  | .unary op a type => ((m.standIn? a).or (a.mendInside? m r)).map fun a => .unary op a type
  | .binary op a b kind type =>
    (((m.standIn? a).or (a.mendInside? m r)).map fun a => .binary op a b kind type).or
      (((m.standIn? b).or (b.mendInside? m r)).map fun b => .binary op a b kind type)
  | .like a b c =>
    (((m.standIn? a).or (a.mendInside? m r)).map fun a => .like a b c).or <|
      (((m.standIn? b).or (b.mendInside? m r)).map fun b => .like a b c).or <|
        (mendExpr? m r c).map fun c => .like a b c
  | .member a values negated =>
    (((m.standIn? a).or (a.mendInside? m r)).map fun a => .member a values negated).or <|
      (mendExprs? m r values).map fun values => .member a values negated
  | .choice a branches c type =>
    ((mendExpr? m r a).map fun a => .choice a branches c type).or <|
      ((mendBranches? m r branches).map fun branches => .choice a branches c type).or <|
        (mendExpr? m r c).map fun c => .choice a branches c type
  | .existence q negated => (q.mend? m r).map fun q => .existence q negated
  | .scalar q => (q.mend? m r).map fun q => .scalar q
  | .nullary _ => none
  | .dialectUnary node a =>
    ((m.standIn? a).or (a.mendInside? m r)).map fun a => .dialectUnary node a
  | .dialectBinary node a b =>
    (((m.standIn? a).or (a.mendInside? m r)).map fun a => .dialectBinary node a b).or
      (((m.standIn? b).or (b.mendInside? m r)).map fun b => .dialectBinary node a b)
  | .variadic node operands =>
    (mendExprs? m r operands).map fun operands => .variadic node operands

/-- Expressions with the first faulty one among them replaced. -/
def mendExprs? (m : Mending X) (r : Route) : List (Expr X) → Option (List (Expr X))
  | [] => none
  | a :: as =>
    (((m.standIn? a).or (a.mendInside? m r)).map (· :: as)).or ((mendExprs? m r as).map (a :: ·))

/-- An optional expression, mended. -/
def mendExpr? (m : Mending X) (r : Route) : Option (Expr X) → Option (Option (Expr X))
  | none => none
  | some a => ((m.standIn? a).or (a.mendInside? m r)).map some

/-- The branches of a choice with the first fault in them replaced. The test of a branch comes
before its result. -/
def mendBranches? (m : Mending X) (r : Route) : List (Branch X) → Option (List (Branch X))
  | [] => none
  | ⟨test, result⟩ :: branches =>
    ((((m.standIn? test).or (test.mendInside? m r)).map (⟨·, result⟩)).or
      (((m.standIn? result).or (result.mendInside? m r)).map (⟨test, ·⟩)) |>.map (· :: branches)).or
      ((mendBranches? m r branches).map (⟨test, result⟩ :: ·))

/-- The columns of a result with the first fault in them replaced. -/
def mendColumns? (m : Mending X) (r : Route) :
    List (OutputColumn X) → Option (List (OutputColumn X))
  | [] => none
  | ⟨a, label⟩ :: columns =>
    (((m.standIn? a).or (a.mendInside? m r)).map (⟨·, label⟩) |>.map (· :: columns)).or
      ((mendColumns? m r columns).map (⟨a, label⟩ :: ·))

/-- The keys to sort by with the first fault in them replaced. -/
def mendSortKeys? (m : Mending X) (r : Route) : List (SortKey X) → Option (List (SortKey X))
  | [] => none
  | ⟨a, ascending⟩ :: keys =>
    (((m.standIn? a).or (a.mendInside? m r)).map (⟨·, ascending⟩) |>.map (· :: keys)).or
      ((mendSortKeys? m r keys).map (⟨a, ascending⟩ :: ·))

/-- Row sources with the first fault in them replaced. -/
def mendSources? (m : Mending X) (r : Route) : List (Source X) → Option (List (Source X))
  | [] => none
  | s :: sources => ((s.mend? m r).map (· :: sources)).or ((mendSources? m r sources).map (s :: ·))

/-- The query with the first faulty node in it replaced, if there is one. -/
def Query.mend? (m : Mending X) (r : Route) : Query X → Option (Query X)
  | q@⟨_, columns, sources, predicate, groupKeys, groupPredicate, sortKeys, limit, offset⟩ =>
    ((mendColumns? m r columns).map ({ q with columns := · })).or <|
    ((mendSources? m r sources).map ({ q with sources := · })).or <|
    ((mendExpr? m r predicate).map ({ q with predicate := · })).or <|
    ((mendExprs? m r groupKeys).map ({ q with groupKeys := · })).or <|
    ((mendExpr? m r groupPredicate).map ({ q with groupPredicate := · })).or <|
    ((mendSortKeys? m r sortKeys).map ({ q with sortKeys := · })).or <|
    if r.limitFirst then
      ((mendExpr? m r limit).map ({ q with limit := · })).or
        ((mendExpr? m r offset).map ({ q with offset := · }))
    else
      ((mendExpr? m r offset).map ({ q with offset := · })).or
        ((mendExpr? m r limit).map ({ q with limit := · }))

/-- The row source with the first faulty node in it replaced, if there is one. -/
def Source.mend? (m : Mending X) (r : Route) : Source X → Option (Source X)
  | .table _ _ _ => none
  | .derived q label => (q.mend? m r).map fun q => .derived q label
  | .innerJoin s condition =>
    ((s.mend? m r).map fun s => .innerJoin s condition).or <|
      ((m.standIn? condition).or (condition.mendInside? m r)).map fun condition =>
        .innerJoin s condition
  | .leftJoin s condition =>
    ((s.mend? m r).map fun s => .leftJoin s condition).or <|
      ((m.standIn? condition).or (condition.mendInside? m r)).map fun condition =>
        .leftJoin s condition
  | .crossJoin s => (s.mend? m r).map .crossJoin
  | .crossApply s => (s.mend? m r).map .crossApply
  | .outerApply s => (s.mend? m r).map .outerApply

end

/-- The expression with the first faulty node replaced, if there is one. -/
def Expr.mend? (m : Mending X) (r : Route) (e : Expr X) : Option (Expr X) :=
  (m.standIn? e).or (e.mendInside? m r)

/-! ## Lists and options -/

/-- The list with its first member that can be mended replaced. -/
def mendFirst? {α : Type} (mend? : α → Option α) : List α → Option (List α)
  | [] => none
  | x :: xs => ((mend? x).map (· :: xs)).or ((mendFirst? mend? xs).map (x :: ·))

/-- Of two lists the first is mended if something in it can be, and else the second. -/
theorem mendFirst?_append {α : Type} (mend? : α → Option α) (xs ys : List α) :
    mendFirst? mend? (xs ++ ys) =
      ((mendFirst? mend? xs).map (· ++ ys)).or ((mendFirst? mend? ys).map (xs ++ ·)) := by
  induction xs with
  | nil => simp [mendFirst?]
  | cons x xs ih =>
    simp [mendFirst?, ih, Option.map_or, Function.comp_def, Option.or_assoc]

/-- A branch of a choice, mended in its test or else in its result. -/
def Branch.mend? (m : Mending X) (r : Route) (b : Branch X) : Option (Branch X) :=
  ((b.test.mend? m r).map ({ b with test := · })).or
    ((b.result.mend? m r).map ({ b with result := · }))

/-- A column of a result, mended in its expression. -/
def OutputColumn.mend? (m : Mending X) (r : Route) (c : OutputColumn X) : Option (OutputColumn X) :=
  (c.expr.mend? m r).map ({ c with expr := · })

/-- A key to sort by, mended in its expression. -/
def SortKey.mend? (m : Mending X) (r : Route) (k : SortKey X) : Option (SortKey X) :=
  (k.expr.mend? m r).map ({ k with expr := · })

section

variable (m : Mending X) (r : Route)

/-- The recursion over a list of expressions mends the first that can be. -/
theorem mendExprs?_eq (as : List (Expr X)) :
    mendExprs? m r as = mendFirst? (Expr.mend? m r) as := by
  induction as with
  | nil => rfl
  | cons a as ih =>
    rw [mendFirst?, ← ih]
    rfl

theorem mendExpr?_eq (a : Option (Expr X)) :
    mendExpr? m r a = (a.bind (Expr.mend? m r)).map some := by
  cases a <;> rfl

theorem mendBranches?_eq (branches : List (Branch X)) :
    mendBranches? m r branches = mendFirst? (Branch.mend? m r) branches := by
  induction branches with
  | nil => rfl
  | cons b branches ih =>
    rw [mendFirst?, ← ih]
    cases b
    rfl

theorem mendColumns?_eq (columns : List (OutputColumn X)) :
    mendColumns? m r columns = mendFirst? (OutputColumn.mend? m r) columns := by
  induction columns with
  | nil => rfl
  | cons c columns ih =>
    rw [mendFirst?, ← ih]
    cases c
    rfl

theorem mendSortKeys?_eq (keys : List (SortKey X)) :
    mendSortKeys? m r keys = mendFirst? (SortKey.mend? m r) keys := by
  induction keys with
  | nil => rfl
  | cons k keys ih =>
    rw [mendFirst?, ← ih]
    cases k
    rfl

theorem mendSources?_eq (sources : List (Source X)) :
    mendSources? m r sources = mendFirst? (Source.mend? m r) sources := by
  induction sources with
  | nil => rfl
  | cons s sources ih =>
    rw [mendFirst?, ← ih]
    rfl

end

/-! ## Mended rows -/

/-- The stop with the first faulty node inside it replaced, if there is one. -/
def Stop.mendInside? (m : Mending X) (r : Route) : Stop X → Option (Stop X)
  | .expr e => (e.mendInside? m r).map .expr
  | .query q => (q.mend? m r).map .query
  | .source s => (s.mend? m r).map .source
  | .rowLimit limit offset =>
    if r.limitFirst then
      ((mendExpr? m r limit).map (.rowLimit · offset)).or
        ((mendExpr? m r offset).map (.rowLimit limit ·))
    else
      ((mendExpr? m r offset).map (.rowLimit limit ·)).or
        ((mendExpr? m r limit).map (.rowLimit · offset))
  | .label _ => none

/-- The stop with the first faulty node replaced, if there is one. -/
def Stop.mend? (m : Mending X) (r : Route) : Stop X → Option (Stop X)
  | .expr e => (e.mend? m r).map .expr
  | stop => stop.mendInside? m r

/-- A slot, mended in the stop that it is a part for. -/
def Slot.mend? (m : Mending X) (r : Route) : Slot X → Option (Slot X)
  | .part stop => (stop.mend? m r).map .part
  | _ => none

namespace Row

variable (m : Mending X) (r : Route)

/-- The row with its first part that can be mended replaced. -/
def mend? (row : Row X) : Option (Row X) := mendFirst? (Slot.mend? m r) row

@[simp]
theorem mend?_nil : mend? m r ([] : Row X) = none := rfl

@[simp]
theorem mend?_word (text : String) (row : Row X) :
    mend? m r (.word text :: row) = (mend? m r row).map (.word text :: ·) := rfl

@[simp]
theorem mend?_verbatim (text : String) (row : Row X) :
    mend? m r (.verbatim text :: row) = (mend? m r row).map (.verbatim text :: ·) := rfl

@[simp]
theorem mend?_name (name : String) (row : Row X) :
    mend? m r (.name name :: row) = (mend? m r row).map (.name name :: ·) := rfl

/-- A part is mended itself, or else what comes behind it. -/
@[simp]
theorem mend?_part (stop : Stop X) (row : Row X) :
    mend? m r (.part stop :: row) =
      ((stop.mend? m r).map (.part · :: row)).or ((mend? m r row).map (.part stop :: ·)) := by
  simp only [mend?, mendFirst?, Slot.mend?, Option.map_map]
  rfl

/-- Of two rows the first is mended if a part of it can be, and else the second. -/
@[simp]
theorem mend?_append (a b : Row X) :
    mend? m r (a ++ b) = ((mend? m r a).map (· ++ b)).or ((mend? m r b).map (a ++ ·)) :=
  mendFirst?_append _ a b

@[simp]
theorem mend?_parenthesized (row : Row X) :
    mend? m r (parenthesized row) = (mend? m r row).map parenthesized := by
  simp only [parenthesized, List.cons_append, mend?_word, mend?_append, mend?_nil, Option.map_none,
    Option.or_none, Option.map_map]
  rfl

@[simp]
theorem mend?_wordIf (condition : Bool) (text : String) :
    mend? m r (wordIf condition text : Row X) = none := by
  cases condition <;> rfl

@[simp]
theorem mend?_expr (e : Expr X) : mend? m r (expr e) = (e.mend? m r).map expr := by
  rw [expr, mend?_part, mend?_nil, Option.map_none, Option.or_none, Stop.mend?, Option.map_map]
  rfl

@[simp]
theorem mend?_qualified (owner : Option String) (name : String) :
    mend? m r (qualified owner name : Row X) = none := by
  cases owner <;> rfl

@[simp]
theorem mend?_literal (value : Literal) : mend? m r (value.slots : Row X) = none := by
  cases value with
  | bool value => cases value <;> rfl
  | _ => rfl

@[simp]
theorem mend?_cast (value : Row X) (target : String) :
    mend? m r (cast value target) = (mend? m r value).map (cast · target) := by
  simp [cast, Function.comp_def]

variable {m r} {α : Type} {row : α → Row X} {mendItem? : α → Option α}

/-- An optional row behind its lead is mended as the item that it is for. -/
theorem mend?_led (h : ∀ x, mend? m r (row x) = (mendItem? x).map row) (lead : String)
    (x : Option α) :
    mend? m r (led lead (x.map row)) =
      ((x.bind mendItem?).map some).map fun x => led lead (x.map row) := by
  cases x <;> simp [led, h, Function.comp_def]

/-- Rows for the items of a list are mended as the list is: at the first item that can be. -/
theorem mend?_flatMap (h : ∀ x, mend? m r (row x) = (mendItem? x).map row) (xs : List α) :
    mend? m r (xs.flatMap row) = (mendFirst? mendItem? xs).map (·.flatMap row) := by
  induction xs with
  | nil => rfl
  | cons x xs ih => simp [mendFirst?, h, ih, Option.map_or, Function.comp_def]

theorem mend?_separated (h : ∀ x, mend? m r (row x) = (mendItem? x).map row) (separator : String)
    (xs : List α) :
    mend? m r (separated separator (xs.map row)) =
      (mendFirst? mendItem? xs).map fun xs => separated separator (xs.map row) := by
  cases xs with
  | nil => rfl
  | cons x xs =>
    have hrow : ∀ x, mend? m r (.word separator :: row x) =
        (mendItem? x).map fun x => .word separator :: row x := by
      intro x
      simp [h, Function.comp_def]
    have hrest := mend?_flatMap hrow xs
    simp [mendFirst?, separated, h, List.flatMap_map, hrest, Option.map_or, Function.comp_def]

theorem mend?_clause (h : ∀ x, mend? m r (row x) = (mendItem? x).map row) (lead separator : String)
    (xs : List α) :
    mend? m r (clause lead separator (xs.map row)) =
      (mendFirst? mendItem? xs).map fun xs => clause lead separator (xs.map row) := by
  have hseparated := mend?_separated h separator xs
  cases xs with
  | nil => rfl
  | cons x xs =>
    simp only [clause, List.map_cons, List.isEmpty_cons] at hseparated ⊢
    simp [hseparated, mendFirst?, Option.map_or, Function.comp_def]

theorem mend?_columns (h : ∀ x, mend? m r (row x) = (mendItem? x).map row) (xs : List α) :
    mend? m r (columns (xs.map row)) =
      (mendFirst? mendItem? xs).map fun xs => columns (xs.map row) := by
  have hseparated := mend?_separated h ", " xs
  cases xs with
  | nil => rfl
  | cons x xs =>
    simp only [columns, List.map_cons, List.isEmpty_cons] at hseparated ⊢
    simp [hseparated, mendFirst?, Option.map_or, Function.comp_def]

theorem mend?_branch (b : Branch X) : mend? m r (branch b) = (b.mend? m r).map branch := by
  simp [branch, Branch.mend?, Option.map_or, Function.comp_def]

theorem mend?_column (c : OutputColumn X) : mend? m r (column c) = (c.mend? m r).map column := by
  have hlabel : mend? m r (led " AS " (c.label.map fun name => [.part (.label name)])) = none := by
    cases c.label <;> rfl
  simp [column, OutputColumn.mend?, hlabel, Function.comp_def]

theorem mend?_sortKey (k : SortKey X) : mend? m r (sortKey k) = (k.mend? m r).map sortKey := by
  simp [sortKey, SortKey.mend?, Function.comp_def]

theorem mend?_source (s : Source X) :
    mend? m r [.part (.source s)] = (s.mend? m r).map fun s => [.part (.source s)] := by
  simp [Stop.mend?, Stop.mendInside?, Function.comp_def]

end Row

/-! ## Mended layouts -/

namespace Mending

variable {m : Mending X} {r : Route}

/-- The expressions are alike to the operators around them. -/
def SameKind (e e' : Expr X) : Prop :=
  e'.isOperator = e.isOperator ∧ e'.isString = e.isString

/-- Mending an expression inside keeps the node itself. -/
theorem sameKind_inside (e : Expr X) : ∀ e' ∈ e.mendInside? m r, SameKind e e' := by
  have hmap : ∀ {α : Type} {e : Expr X} {f : α → Expr X} {x : Option α},
      (∀ a, SameKind e (f a)) → ∀ e' ∈ x.map f, SameKind e e' := by
    intro α e f x hf e' he'
    obtain ⟨a, -, rfl⟩ := Option.map_eq_some_iff.1 he'
    exact hf a
  have hor : ∀ {e : Expr X} {x y : Option (Expr X)}, (∀ e' ∈ x, SameKind e e') →
      (∀ e' ∈ y, SameKind e e') → ∀ e' ∈ x.or y, SameKind e e' := by
    intro e x y hx hy e' he'
    obtain he' | ⟨-, he'⟩ := Option.or_eq_some_iff.1 he'
    · exact hx e' he'
    · exact hy e' he'
  have hbinary : ∀ (op : BinaryOp) (a b a' b' : Expr X) (kind : ScalarKind) (type : Option SqlType),
      SameKind (.binary op a b kind type) (.binary op a' b' kind type) := by
    intro op a b a' b' kind type
    cases type <;> exact ⟨rfl, rfl⟩
  cases e with
  | literal | parameter | column | raw | nullary => rintro e' ⟨⟩
  | call name args niladic type =>
    rw [Expr.mendInside?]
    split
    · rintro e' ⟨⟩
    · exact hmap fun _ => ⟨rfl, rfl⟩
  | unary | existence | scalar | dialectUnary | variadic => exact hmap fun _ => ⟨rfl, rfl⟩
  | binary => exact hor (hmap fun _ => hbinary ..) (hmap fun _ => hbinary ..)
  | member | dialectBinary => exact hor (hmap fun _ => ⟨rfl, rfl⟩) (hmap fun _ => ⟨rfl, rfl⟩)
  | like | choice =>
    exact hor (hmap fun _ => ⟨rfl, rfl⟩) (hor (hmap fun _ => ⟨rfl, rfl⟩) (hmap fun _ => ⟨rfl, rfl⟩))

/-- A mended expression has parentheses, and is a string, where the expression itself has and is. -/
theorem sameKind {e e' : Expr X} (h : e.mend? m r = some e') : SameKind e e' := by
  obtain h | ⟨-, h⟩ := Option.or_eq_some_iff.1 h
  · exact ⟨m.isOperator_eq e e' h, m.isString_eq e e' h⟩
  · exact sameKind_inside e e' h

/-- A mended operand has the parentheses of the operand itself. -/
theorem mend?_operand (e : Expr X) :
    Row.mend? m r (Row.operand e) = (e.mend? m r).map Row.operand := by
  have hrow : Row.mend? m r (Row.operand e) = (e.mend? m r).map fun e' =>
      if e.isOperator then Row.parenthesized (Row.expr e') else Row.expr e' := by
    unfold Row.operand
    split <;> simp [Function.comp_def]
  rw [hrow]
  refine Option.map_congr fun e' he' => ?_
  rw [Row.operand, (sameKind he').1]

/-- The layout, if there is one, changes in one slot when its stop is mended. -/
def Mends (m : Mending X) (r : Route) (layout : Except Error (Layout X))
    (mended : Option (Except Error (Layout X))) : Prop :=
  ∀ l, layout = .ok l → mended = (l.slots.mend? m r).map fun slots => .ok { l with slots }

theorem mends_laid {row : Row X} {mended : Option (Except Error (Layout X))}
    (h : mended = (row.mend? m r).map laid) : Mends m r (laid row) mended := by
  rintro l ⟨⟩
  exact h

/-- Where there is no layout, nothing has to change. -/
theorem mends_error (e : Error) (mended : Option (Except Error (Layout X))) :
    Mends m r (.error e) mended := by
  rintro l ⟨⟩

/-- The layouts of the scheme change in the first slot that has something to mend. -/
structure Keeps (m : Mending X) (r : Route) (L : Scheme X) : Prop where
  call : ∀ name args niladic, Mends m r (L.call name args niladic)
    ((if r.skipsArgs name niladic then none else mendFirst? (Expr.mend? m r) args).map
      (L.call name · niladic))
  unary : ∀ op a type, Mends m r (L.unary op a type) ((a.mend? m r).map (L.unary op · type))
  binary : ∀ op a b kind, Mends m r (L.binary op a b kind)
    (((a.mend? m r).map (L.binary op · b kind)).or ((b.mend? m r).map (L.binary op a · kind)))
  rowLimit : ∀ limit offset, Mends m r (L.rowLimit limit offset)
    (((Stop.rowLimit limit offset).mend? m r).map L.layout)
  crossApply : ∀ s, Mends m r (L.crossApply s) ((s.mend? m r).map L.crossApply)
  outerApply : ∀ s, Mends m r (L.outerApply s) ((s.mend? m r).map L.outerApply)
  nullary : ∀ node, Mends m r (L.nullary node) none
  dialectUnary : ∀ node a, Mends m r (L.dialectUnary node a)
    ((a.mend? m r).map (L.dialectUnary node ·))
  dialectBinary : ∀ node a b, Mends m r (L.dialectBinary node a b)
    (((a.mend? m r).map (L.dialectBinary node · b)).or
      ((b.mend? m r).map (L.dialectBinary node a ·)))
  variadic : ∀ node operands, Mends m r (L.variadic node operands)
    ((mendFirst? (Expr.mend? m r) operands).map (L.variadic node))

section

variable (m r) (L : Scheme X)

theorem Mends.like (a b : Expr X) (c : Option (Expr X)) :
    Mends m r (L.expr (.like a b c)) (((Expr.like a b c).mendInside? m r).map L.expr) := by
  refine mends_laid ?_
  simp only [Expr.mendInside?, mendExpr?_eq]
  simp [Row.mend?_led (Row.mend?_expr m r), Option.map_or, Function.comp_def, Scheme.expr,
    Expr.mend?]

theorem Mends.member (a : Expr X) (values : List (Expr X)) (negated : Bool) :
    Mends m r (L.expr (.member a values negated))
      (((Expr.member a values negated).mendInside? m r).map L.expr) := by
  refine mends_laid ?_
  simp only [Expr.mendInside?, mendExprs?_eq]
  simp [Row.mend?_separated (Row.mend?_expr m r), mend?_operand, Option.map_or, Function.comp_def,
    Scheme.expr, Expr.mend?]

theorem Mends.choice (a : Option (Expr X)) (branches : List (Branch X)) (c : Option (Expr X))
    (type : Option SqlType) :
    Mends m r (L.expr (.choice a branches c type))
      (((Expr.choice a branches c type).mendInside? m r).map L.expr) := by
  refine mends_laid ?_
  simp only [Expr.mendInside?, mendExpr?_eq, mendBranches?_eq]
  simp [Row.mend?_led (Row.mend?_expr m r), Row.mend?_flatMap Row.mend?_branch, Option.map_or,
    Function.comp_def, Scheme.expr, Expr.mend?]

theorem mend?_limitLine (limit offset : Option (Expr X)) :
    Row.mend? m r (Row.limitLine limit offset) =
      if r.limitFirst then
        ((mendExpr? m r limit).map (Row.limitLine · offset)).or
          ((mendExpr? m r offset).map (Row.limitLine limit ·))
      else
        ((mendExpr? m r offset).map (Row.limitLine limit ·)).or
          ((mendExpr? m r limit).map (Row.limitLine · offset)) := by
  cases hfirst : r.limitFirst <;> cases limit <;> cases offset <;>
    simp [Row.limitLine, Stop.mend?, Stop.mendInside?, hfirst, mendExpr?, Option.map_or,
      Function.comp_def]

theorem Mends.query (q : Query X) :
    Mends m r (laid q.slots) ((q.mend? m r).map fun q => laid q.slots) := by
  refine mends_laid ?_
  obtain ⟨distinct, columns, sources, predicate, groupKeys, groupPredicate, sortKeys, limit,
    offset⟩ := q
  simp only [Query.mend?, Query.slots, mendColumns?_eq, mendSources?_eq, mendExprs?_eq,
    mendSortKeys?_eq]
  cases hfirst : r.limitFirst <;>
    simp [hfirst, mend?_limitLine, Row.mend?_columns Row.mend?_column,
      Row.mend?_clause Row.mend?_source, Row.mend?_clause Row.mend?_sortKey,
      Row.mend?_clause (Row.mend?_expr m r), Row.mend?_led (Row.mend?_expr m r), mendExpr?_eq,
      Option.map_or, Function.comp_def]

end

variable {L : Scheme X}

/-- The layout of an expression changes in one slot when the expression is mended inside. -/
theorem Keeps.expr (h : m.Keeps r L) (e : Expr X) :
    Mends m r (L.expr e) ((e.mendInside? m r).map L.expr) := by
  cases e with
  | literal | parameter | column | raw => exact mends_laid (by simp [Expr.mendInside?])
  | call name args niladic type =>
    have hcall := h.call name args niladic
    rw [← mendExprs?_eq] at hcall
    simp only [Expr.mendInside?]
    split at hcall <;> split <;> simp_all [Function.comp_def, Scheme.expr]
  | unary op a type =>
    have hunary := h.unary op a type
    simpa [Expr.mendInside?, Expr.mend?, Function.comp_def, Scheme.expr] using hunary
  | binary op a b kind type =>
    have hbinary := h.binary op a b kind
    simpa [Expr.mendInside?, Expr.mend?, Option.map_or, Function.comp_def, Scheme.expr] using
      hbinary
  | like a b c => exact Mends.like m r L a b c
  | member a values negated => exact Mends.member m r L a values negated
  | choice a branches c type => exact Mends.choice m r L a branches c type
  | existence q negated =>
    exact mends_laid (by
      simp [Expr.mendInside?, Stop.mend?, Stop.mendInside?, Function.comp_def, Scheme.expr])
  | scalar q =>
    exact mends_laid (by
      simp [Expr.mendInside?, Stop.mend?, Stop.mendInside?, Function.comp_def, Scheme.expr])
  | nullary node => exact h.nullary node
  | dialectUnary node a =>
    have hunary := h.dialectUnary node a
    simpa [Expr.mendInside?, Expr.mend?, Function.comp_def, Scheme.expr] using hunary
  | dialectBinary node a b =>
    have hbinary := h.dialectBinary node a b
    simpa [Expr.mendInside?, Expr.mend?, Option.map_or, Function.comp_def, Scheme.expr] using
      hbinary
  | variadic node operands =>
    have hvariadic := h.variadic node operands
    rw [← mendExprs?_eq] at hvariadic
    simpa [Expr.mendInside?, Function.comp_def, Scheme.expr] using hvariadic

theorem Keeps.source (h : m.Keeps r L) (s : Source X) :
    Mends m r (L.source s) ((s.mend? m r).map L.source) := by
  cases s with
  | table schema name label =>
    refine mends_laid ?_
    cases label <;> simp [Source.mend?, Row.led]
  | crossApply s =>
    have hs := h.crossApply s
    simpa [Source.mend?, Function.comp_def, Scheme.source] using hs
  | outerApply s =>
    have hs := h.outerApply s
    simpa [Source.mend?, Function.comp_def, Scheme.source] using hs
  | _ =>
    exact mends_laid (by
      simp [Source.mend?, Expr.mend?, Stop.mend?, Stop.mendInside?, Option.map_or,
        Function.comp_def, Scheme.source])

/-- Mending a stop inside mends the first of its slots that has something to mend. -/
theorem Keeps.layout (h : m.Keeps r L) (stop : Stop X) :
    Mends m r (L.layout stop) ((stop.mendInside? m r).map L.layout) := by
  cases stop with
  | expr e =>
    rw [Stop.mendInside?, Option.map_map]
    exact h.expr e
  | query q =>
    rw [Stop.mendInside?, Option.map_map]
    exact Mends.query m r q
  | source s =>
    rw [Stop.mendInside?, Option.map_map]
    exact h.source s
  | rowLimit limit offset => exact h.rowLimit limit offset
  | label name => exact mends_laid rfl

end Mending

end SqlScribe
