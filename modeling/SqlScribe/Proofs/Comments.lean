import SqlScribe.Proofs.DialectLayout
import SqlScribe.Proofs.Injection
import SqlScribe.Proofs.SpacedRows

/-!
# Comments that the writing opens

A comment that nobody meant to write swallows what stands behind it. If no verbatim text of a tree
opens one, can the writing of the tree? In standard SQL only at one place. A negation puts its minus
sign right before its operand, unless the operand is an operator and gets parentheses. If that
operand starts with a minus sign as well, as another negation or a negative number does, then the
two open a comment (`Stop.doublesMinus`). All other layouts are spaced, so nothing else does, and a
block comment is never opened.
-/

namespace SqlScribe

open Piece Lexis Dialect

variable {X : Signature}

/-! ## Minus signs side by side -/

/-- The text of the expression starts with a minus sign that is not quoted. -/
def Expr.startsMinus : Expr X → Bool
  | .literal (.number text) _ => Text.startsWith text "-"
  | .parameter name _ => Text.startsWith name "-"
  | .raw text => Text.startsWith text "-"
  | .call name _ _ _ => Text.startsWith name "-"
  | .unary .negate _ _ => true
  | .unary .isNull a _ => !a.isOperator && a.startsMinus
  | .unary .isNotNull a _ => !a.isOperator && a.startsMinus
  | .binary _ a _ _ _ => !a.isOperator && a.startsMinus
  | .like a _ _ => a.startsMinus
  | .member a _ _ => !a.isOperator && a.startsMinus
  | _ => false

namespace Stop

/-- The text of the stop starts with a minus sign. Only expressions can: every other text starts
with a word, a name or a parenthesis. -/
def startsMinus : Stop X → Bool
  | .expr e => e.startsMinus
  | _ => false

/-- The operand that stands right behind the minus sign of a negation. -/
def negated? : Stop X → Option (Expr X)
  | .expr (.unary .negate a _) => if a.isOperator then none else some a
  | _ => none

/-- The stop puts a minus sign right before another one. -/
def doublesMinus (stop : Stop X) : Bool := stop.negated?.any Expr.startsMinus

/-- No verbatim text of the stop opens a quoted region or a comment. -/
def IsInert (stop : Stop X) : Prop :=
  ∀ text ∈ stop.verbatim ++ Standard.own stop, Standard.lexis.isInert text = true

end Stop

/-! ## The layouts of standard SQL -/

/-- An operand starts with a minus sign if it has no parentheses and its text does. -/
theorem Row.startsMinus_operand_append (a : Expr X) (row : Row X) :
    (Row.operand a ++ row).startsMinus Stop.startsMinus = (!a.isOperator && a.startsMinus) := by
  unfold Row.operand
  cases a.isOperator with
  | false => rfl
  | true => rfl

/-- The layout, if there is one, is spaced, and starts like the stop. -/
def Stop.Spaces (stop : Stop X) (layout : Except Error (Layout X)) : Prop :=
  ∀ l, layout = .ok l →
    l.slots.Spaced Standard.lexis ∧ l.slots.startsMinus Stop.startsMinus = stop.startsMinus

/-- A spaced row that starts like the stop is such a layout. -/
theorem Stop.spaces_laid {stop : Stop X} {row : Row X} (hrow : row.Spaced Standard.lexis)
    (hstarts : row.startsMinus Stop.startsMinus = stop.startsMinus) : stop.Spaces (laid row) := by
  rintro l ⟨⟩
  exact ⟨hrow, hstarts⟩

namespace Standard

open Stop

theorem spaces_literal {value : Literal} {type : Option SqlType}
    (hinert : Stop.IsInert (X := X) (.expr (.literal value type))) :
    Stop.Spaces (X := X) (.expr (.literal value type)) (laid value.slots) := by
  refine spaces_laid (.literal ?_) ?_
  · rintro text rfl
    exact hinert text List.mem_cons_self
  · cases value with
    | bool value => cases value <;> rfl
    | _ => rfl

/-- A call is spaced if its name is inert, and starts with a minus sign if its name does. -/
theorem spaces_call {name : String} (hname : lexis.isInert name = true) (args : List (Expr X))
    (niladic : Bool) (type : Option SqlType) :
    Stop.Spaces (.expr (.call name args niladic type)) (laid (Row.call name args niladic)) := by
  cases niladic with
  | true => exact spaces_laid (.verbatim hname) rfl
  | false =>
    have hargs := Row.Spaced.separated (L := lexis) ", " (.exprs args) rfl
    exact spaces_laid (.joined (.verbatim hname) "(" (hargs.append_word ")" rfl) rfl) rfl

/-- A negation keeps its slots apart if there are parentheses between them. -/
theorem spaces_unary {op : UnaryOp} {a : Expr X} {type : Option SqlType}
    (hinert : Stop.IsInert (.expr (.unary op a type)))
    (hnegated : Stop.negated? (.expr (.unary op a type)) = none) :
    Stop.Spaces (.expr (.unary op a type)) (unaryLayout op a type) := by
  cases op with
  | not => exact spaces_laid ((Row.Spaced.expr a).parenthesized.cons_word "NOT " rfl) rfl
  | negate =>
    have hminus : Row.Spaced lexis ([.word "-"] : Row X) := .slot rfl
    have hoperand : Row.operand a = Row.parenthesized (Row.expr a) := by
      refine if_pos (Decidable.byContradiction fun hoperator => ?_)
      rw [Stop.negated?, if_neg hoperator] at hnegated
      cases hnegated
    rw [unaryLayout, hoperand]
    exact spaces_laid (.joined hminus "(" ((Row.Spaced.expr a).append_word ")" rfl) rfl) rfl
  | convert =>
    cases type with
    | none => rintro l ⟨⟩
    | some target =>
      exact spaces_laid ((Row.Spaced.expr a).cast (hinert target.name List.mem_cons_self)) rfl
  | isNull =>
    exact spaces_laid ((Row.Spaced.operand a).append_word " IS NULL" rfl)
      (Row.startsMinus_operand_append a _)
  | isNotNull =>
    exact spaces_laid ((Row.Spaced.operand a).append_word " IS NOT NULL" rfl)
      (Row.startsMinus_operand_append a _)

/-- Blanks stand around an operator, so it joins nothing. -/
theorem spaces_binary (op : BinaryOp) (a b : Expr X) (kind : ScalarKind) (type : Option SqlType) :
    Stop.Spaces (.expr (.binary op a b kind type)) (laid (Row.binary op a b)) := by
  have htoken : Text.isFirm (" " ++ op.token ++ " ") = true := by
    cases op <;> decide
  exact spaces_laid (.joined (.operand a) _ (.operand b) htoken)
    (Row.startsMinus_operand_append a _)

theorem spaces_rowLimit (limit offset : Option (Expr X)) :
    Stop.Spaces (.rowLimit limit offset)
      (laid (Row.skip offset ++ Row.fetch offset.isNone limit)) := by
  have hfetch : ∀ first, Row.Continues lexis (Row.fetch first limit) := by
    intro first
    cases limit with
    | none => exact .nil
    | some limit =>
      have hlimit := (Row.Continues.wordIf (L := lexis) (!first) " " rfl).append
        (.word "FETCH FIRST " (.expr limit) rfl)
      exact hlimit.append (.word " ROWS ONLY" .nil rfl)
  cases offset with
  | none =>
    refine spaces_laid (hfetch true [] .nil) ?_
    cases limit <;> rfl
  | some offset =>
    have hoffset := (Row.Spaced.expr (L := lexis) offset).cons_word "OFFSET " rfl
    exact spaces_laid (hfetch false _ (hoffset.append_word " ROWS" rfl)) rfl

theorem spaces_source (s : Source .none) : Stop.Spaces (.source s) (ansiScheme.source s) := by
  have hsource : ∀ s : Source .none, Row.Spaced lexis [.part (.source s)] :=
    fun s => .part (.source s)
  have hjoin : ∀ (s : Source .none) (condition : Expr .none), Row.Spaced lexis
      (.part (.source s) :: .word " ON " :: Row.expr condition) :=
    fun s condition => .joined (hsource s) " ON " (.expr condition) rfl
  cases s with
  | table schema name label =>
    have hlabel : Row.Continues (X := .none) lexis
        (Row.led " AS " (label.map fun label => [.name label])) := by
      cases label with
      | none => exact .nil
      | some label => exact .word " AS " (.name label) rfl
    refine spaces_laid (hlabel _ (.qualified schema name)) ?_
    cases schema <;> rfl
  | derived q label =>
    have hquery : Row.Spaced lexis (Row.parenthesized [.part (.query q)]) :=
      (Row.Spaced.part (.query q)).parenthesized
    exact spaces_laid (.joined hquery " AS " (.part (.label label)) rfl) rfl
  | innerJoin s condition => exact spaces_laid ((hjoin s condition).cons_word "INNER JOIN " rfl) rfl
  | leftJoin s condition => exact spaces_laid ((hjoin s condition).cons_word "LEFT JOIN " rfl) rfl
  | crossJoin s => exact spaces_laid ((hsource s).cons_word "CROSS JOIN " rfl) rfl
  | crossApply s => exact spaces_laid ((hsource s).cons_word "CROSS APPLY " rfl) rfl
  | outerApply s => exact spaces_laid ((hsource s).cons_word "OUTER APPLY " rfl) rfl

/-- Every expression is spaced, except for a negation whose operand has no parentheses. -/
theorem spaces_expr {e : Expr .none} (hinert : Stop.IsInert (.expr e))
    (hnegated : Stop.negated? (.expr e) = none) : Stop.Spaces (.expr e) (ansiScheme.expr e) := by
  cases e with
  | literal value type => exact spaces_literal hinert
  | parameter name type => exact spaces_laid (.verbatim (hinert name List.mem_cons_self)) rfl
  | column table name type =>
    refine spaces_laid (.qualified table name) ?_
    cases table <;> rfl
  | raw text => exact spaces_laid (.verbatim (hinert text List.mem_cons_self)) rfl
  | call name args niladic type =>
    exact spaces_call (hinert name List.mem_cons_self) args niladic type
  | unary op a type => exact spaces_unary hinert hnegated
  | binary op a b kind type => exact spaces_binary op a b kind type
  | like a b c =>
    have hpattern := Row.Spaced.joined (L := lexis) (.expr a) " LIKE " (.expr b) rfl
    have hescape := Row.Continues.led (L := lexis) " ESCAPE " (.expr? c) rfl
    exact spaces_laid (hescape _ hpattern) rfl
  | member a values negated =>
    have hnot := Row.Continues.wordIf (X := .none) (L := lexis) negated " NOT" rfl
    have hvalues := (Row.Spaced.separated (L := lexis) ", " (.exprs values) rfl).parenthesized
    refine spaces_laid (.joined (hnot _ (.operand a)) " IN " hvalues rfl) ?_
    rw [List.append_assoc]
    exact Row.startsMinus_operand_append a _
  | choice a branches c type =>
    have hcase : Row.Spaced (X := .none) lexis [.word "CASE"] := .word "CASE" rfl
    have hsubject : Row.Continues lexis (Row.led " " (a.map Row.expr)) := .led " " (.expr? a) rfl
    have hbranches : Row.Continues lexis (branches.flatMap Row.branch) :=
      .flatMap fun b _ => .word " WHEN " (.joined (.expr b.test) " THEN " (.expr b.result) rfl) rfl
    have hotherwise : Row.Continues lexis (Row.led " ELSE " (c.map Row.expr)) :=
      .led " ELSE " (.expr? c) rfl
    have hall := hotherwise _ (hbranches _ (hsubject _ hcase))
    exact spaces_laid (hall.append_word " END" rfl) rfl
  | existence q negated =>
    have hquery : Row.Spaced lexis (Row.parenthesized [.part (.query q)]) :=
      (Row.Spaced.part (.query q)).parenthesized
    refine spaces_laid (.wordIf_append negated "NOT " (hquery.cons_word "EXISTS " rfl) rfl) ?_
    cases negated <;> rfl
  | scalar q => exact spaces_laid (Row.Spaced.part (.query q)).parenthesized rfl
  | nullary node => exact node.elim
  | dialectUnary node => exact node.elim
  | dialectBinary node => exact node.elim
  | variadic node => exact node.elim

/-- All layouts but those of bare negations are spaced. -/
theorem spaces_layout {stop : Stop .none} (hinert : stop.IsInert)
    (hnegated : stop.negated? = none) : stop.Spaces (ansiScheme.layout stop) := by
  cases stop with
  | expr e => exact spaces_expr hinert hnegated
  | query q => exact spaces_laid (.query q) rfl
  | source s => exact spaces_source s
  | rowLimit limit offset => exact spaces_rowLimit limit offset
  | label name => exact spaces_laid (.name name) rfl

/-- A bare negation is laid out as a minus sign right before its operand. -/
theorem layout_of_negated {stop : Stop .none} {a : Expr .none} (h : stop.negated? = some a) :
    ansiScheme.layout stop = laid [.word "-", .part (.expr a)] ∧ stop.startsMinus = true := by
  unfold Stop.negated? at h
  split at h
  · split at h
    · cases h
    · next hoperator =>
      cases h
      have hoperand : Row.operand a = Row.expr a := if_neg hoperator
      refine ⟨?_, rfl⟩
      change laid (.word "-" :: Row.operand a) = _
      rw [hoperand]
      rfl
  · cases h

end Standard

/-! ## Texts -/

/-- Some stop of the trail puts two minus signs side by side. -/
def Stop.DoublesWithin (stop : Stop .none) : Prop :=
  ∃ inner ∈ stop.trail Standard.route, inner.doublesMinus = true

/-- Minus signs are doubled at the stop itself or inside one of its parts. -/
theorem Stop.doublesWithin_iff (stop : Stop .none) :
    stop.DoublesWithin ↔
      stop.doublesMinus = true ∨ ∃ part ∈ stop.parts Standard.route, part.DoublesWithin := by
  unfold DoublesWithin
  rw [Stop.trail_eq]
  simp only [List.mem_cons, or_and_right, exists_or, exists_eq_left]
  refine or_congr_right ⟨?_, ?_⟩
  · rintro ⟨inner, hinner, hdoubles⟩
    obtain ⟨part, hpart, htrail⟩ := List.mem_flatMap.1 hinner
    exact ⟨part, hpart, inner, htrail, hdoubles⟩
  · rintro ⟨part, hpart, inner, htrail, hdoubles⟩
    exact ⟨inner, List.mem_flatMap.2 ⟨part, hpart, htrail⟩, hdoubles⟩

/-- A tree opens a comment where one of its stops puts two minus signs side by side, and nowhere
else. -/
theorem Dialect.opens_stop (stop : Stop .none)
    (hinert : ∀ inner ∈ stop.trail Standard.route, inner.IsInert) :
    Opens Standard.lexis (ansi.stopPiece stop)
      (fun opener => opener = .line ∧ stop.DoublesWithin) stop.startsMinus := by
  -- What a part starts with has to be known as well: it decides what a minus sign before it does.
  induction stop using Stop.induction Standard.route with
  | step stop ih =>
    have hparts := fun part hpart => ih part hpart fun inner hinner =>
      hinert inner (Stop.mem_trail_of_mem_parts Standard.route hpart hinner)
    rw [ansi_follows.stopPiece_bare]
    cases hlayout : ansiScheme.layout stop with
    | error e => exact .fail e
    | ok layout =>
      have hslots := ansiScheme_walks.layout_has stop layout hlayout
      rw [layoutPiece, inOrder_events]
      apply Opens.events
      rw [← hslots] at hparts
      cases hnegated : stop.negated? with
      | none =>
        have hself := hinert stop (Stop.self_mem_trail Standard.route stop)
        obtain ⟨hspaced, hstarts⟩ := Standard.spaces_layout hself hnegated layout hlayout
        rw [← hstarts]
        refine (hspaced.opens ansi_quotesBy hparts).congr fun opener => ?_
        rw [stop.doublesWithin_iff, Stop.doublesMinus, hnegated, hslots]
        simp [← exists_and_left, and_left_comm]
      | some a =>
        -- Nothing stands between the minus sign and the operand, so this row is not spaced.
        obtain ⟨hlaid, hstarts⟩ := Standard.layout_of_negated hnegated
        obtain ⟨rfl⟩ : layout = { slots := [.word "-", .part (.expr a)] } := by
          rw [hlaid] at hlayout
          exact (Except.ok.inj hlayout).symm
        have hpiece : ansi.slotsPiece ansi.stopPiece [.part (.expr a)] = ansi.stopPiece (.expr a) :=
          Piece.append_empty _
        have hoperand := hparts (.expr a) List.mem_cons_self
        rw [← hpiece] at hoperand
        rw [hstarts]
        refine hoperand.negated.congr fun opener => ?_
        rw [stop.doublesWithin_iff, Stop.doublesMinus, hnegated, ← hslots]
        simp [Stop.startsMinus, ← and_or_left, or_comm]

/-- Outside its quotes, the text opens a comment exactly if the stop puts two minus signs side by
side somewhere, and that is a line comment. -/
def Stop.OpensDoubled (stop : Stop .none) (text : String) : Prop :=
  ∃ ts, Standard.lexis.lex text = some ts ∧
    ∀ opener : Opener, opener.Occurs ts ↔ opener = .line ∧ stop.DoublesWithin

/-- The text of a stop that can be written opens comments where minus signs are doubled. -/
theorem Stop.opensDoubled_sql {stop : Stop .none}
    (hinert : ∀ inner ∈ stop.trail Standard.route, inner.IsInert)
    (herror : (ansi.stopPiece stop).error = none) :
    stop.OpensDoubled (ansi.stopPiece stop).sql := by
  obtain ⟨ts, hreads, hopens, -⟩ := opens_stop stop hinert herror
  exact ⟨ts, hreads.lex_eq, hopens⟩

/-- In standard SQL, if the verbatim texts of a tree open no comment, then only two minus signs that
come side by side do, whatever the strings and names of the tree contain. -/
theorem comments_open_at_doubled_minus (o o' : Output) (text : String) :
    (∀ e : Expr .none, (∀ stop ∈ e.trail Standard.route, stop.IsInert) →
      ansi.compileExpr e o = .ok text o' → (Stop.expr e).OpensDoubled text) ∧
    (∀ q : Query .none, (∀ stop ∈ q.trail Standard.route, stop.IsInert) →
      ansi.compileQuery q o = .ok text o' → (Stop.query q).OpensDoubled text) ∧
    ∀ s : Source .none, (∀ stop ∈ s.trail Standard.route, stop.IsInert) →
      compiling (ansi.writeSource s) o = .ok text o' → (Stop.source s).OpensDoubled text := by
  refine ⟨?_, ?_, ?_⟩
  · intro e hinert hok
    obtain ⟨herror, rfl⟩ := (ansi_quotesBy.compileExpr_ok_iff e o text).1 ⟨o', hok⟩
    exact Stop.opensDoubled_sql hinert herror
  · intro q hinert hok
    obtain ⟨herror, rfl⟩ := (ansi_quotesBy.compileQuery_ok_iff q o text).1 ⟨o', hok⟩
    exact Stop.opensDoubled_sql hinert herror
  · intro s hinert hok
    rw [ansi_quotesBy.writeSource] at hok
    obtain ⟨herror, rfl⟩ := (compiling_emit_ok_iff _ o text).1 ⟨o', hok⟩
    exact Stop.opensDoubled_sql hinert herror

/-- Behind a parenthesis and behind a blank a minus sign doubles none, and openers in a name and in
a string do not count. -/
theorem parenthesized_minus_opens_no_comment :
    let difference : Expr .none :=
      .binary .subtract (.column none "--" none) (.literal (.number "-1") none) .integer none
    let e : Expr .none :=
      .like (.unary .negate difference none) (.literal (.string "/*") none) none
    let text := "-(\"--\" - -1) LIKE '/*'"
    (∀ stop ∈ e.trail Standard.route, stop.IsInert) ∧ ansi.compileExpr e {} = .ok text {} ∧
      ¬(Stop.expr e).DoublesWithin ∧
      ∃ ts, Standard.lexis.lex text = some ts ∧ ∀ opener : Opener, ¬opener.Occurs ts := by
  intro difference e text
  have hnumber : Standard.lexis.isInert "-1" = true := by decide
  have hinert : ∀ stop ∈ e.trail Standard.route, stop.IsInert := by
    simp [e, difference, Stop.IsInert, Stop.verbatim, Standard.own, hnumber]
  have hok : ansi.compileExpr e {} = .ok text {} := rfl
  have hnone : ¬(Stop.expr e).DoublesWithin := by
    simp [e, difference, Stop.DoublesWithin, Stop.trail, Stop.doublesMinus, Stop.negated?,
      Expr.isOperator]
  obtain ⟨ts, hlex, hopens⟩ := (comments_open_at_doubled_minus {} {} text).1 e hinert hok
  exact ⟨hinert, hok, hnone, ts, hlex, fun opener hopener => hnone ((hopens opener).1 hopener).2⟩

/-- A negated negation has no verbatim text, and yet its text opens a comment. -/
theorem negated_negation_opens_comment :
    let e : Expr .none := .unary .negate (.unary .negate (.column none "x" none) none) none
    (∀ stop ∈ e.trail Standard.route, stop.IsInert) ∧
      ansi.compileExpr e {} = .ok "--\"x\"" {} ∧
      ∃ ts, Standard.lexis.lex "--\"x\"" = some ts ∧ Opener.line.Occurs ts := by
  refine ⟨?_, rfl, _, rfl, ?_⟩
  · simp [Stop.IsInert, Stop.verbatim, Standard.own]
  · exact ⟨[], [.quoted .identifier ['x']], rfl⟩

end SqlScribe
