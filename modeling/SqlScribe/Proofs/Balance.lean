import SqlScribe.Proofs.DialectLayout
import SqlScribe.Proofs.FittingRows
import SqlScribe.Proofs.Injection

/-!
# Parentheses balance

Outside its quoted regions, the text of a tree opens as many parentheses as it closes, and never
closes one that is not open, whatever the strings and names of the tree contain. Only the verbatim
texts have to be free of quotes and balanced themselves.

It is enough that every layout is a row that fits, given that the verbatim texts of its stop are
level (`Scheme.Fits`). The layouts of standard SQL and of MySQL are, the latter with the keywords of
its own cast rules.
-/

namespace SqlScribe

open Piece Lexis Dialect

variable {X : Signature}

/-! ## Schemes that fit -/

/-- The verbatim texts of the stop are level, and so are those of the dialect's own. -/
def Stop.IsLevel (own : Stop X → List String) (stop : Stop X) : Prop :=
  ∀ text ∈ stop.verbatim ++ own stop, Text.isLevel text = true

/-- The layout, if there is one, fits. -/
def Layout.Fits (layout : Except Error (Layout X)) : Prop :=
  ∀ l, layout = .ok l → l.slots.Fits .settled .loose

theorem Layout.fits_laid {row : Row X} (h : row.Fits .settled .loose) : Layout.Fits (laid row) := by
  rintro l ⟨⟩
  exact h

theorem Layout.fits_error (e : Error) : Layout.Fits (X := X) (.error e) := by
  rintro l ⟨⟩

/-- The layouts of the scheme fit at level stops. -/
structure Scheme.Fits (L : Scheme X) (own : Stop X → List String) : Prop where
  call : ∀ name args niladic, Text.isLevel name = true → Layout.Fits (L.call name args niladic)
  unary : ∀ op a type, Stop.IsLevel own (.expr (.unary op a type)) →
    Layout.Fits (L.unary op a type)
  binary : ∀ op a b kind, Layout.Fits (L.binary op a b kind)
  rowLimit : ∀ limit offset, Layout.Fits (L.rowLimit limit offset)
  crossApply : ∀ s, Layout.Fits (L.crossApply s)
  outerApply : ∀ s, Layout.Fits (L.outerApply s)
  nullary : ∀ node, Layout.Fits (L.nullary node)
  dialectUnary : ∀ node a, Stop.IsLevel own (.expr (.dialectUnary node a)) →
    Layout.Fits (L.dialectUnary node a)
  dialectBinary : ∀ node a b, Layout.Fits (L.dialectBinary node a b)
  variadic : ∀ node operands, Layout.Fits (L.variadic node operands)

namespace Scheme.Fits

variable {L : Scheme X} {own : Stop X → List String}

/-- An expression fits if its rule does; the constructs without one fit by their parts. -/
theorem expr (h : L.Fits own) {e : Expr X} (he : Stop.IsLevel own (.expr e)) :
    Layout.Fits (L.expr e) := by
  cases e with
  | literal value type =>
    refine Layout.fits_laid (.literal ?_)
    rintro text rfl
    exact he text List.mem_cons_self
  | parameter name type =>
    exact Layout.fits_laid (Row.Fits.verbatim (he name List.mem_cons_self)).before_loose
  | column table name type => exact Layout.fits_laid (.qualified table name)
  | raw text => exact Layout.fits_laid (Row.Fits.verbatim (he text List.mem_cons_self)).before_loose
  | call name args niladic type => exact h.call name args niladic (he name List.mem_cons_self)
  | unary op a type => exact h.unary op a type he
  | binary op a b kind type => exact h.binary op a b kind
  | like a b c =>
    have hpattern := (Row.Fits.expr b).cons_word " LIKE "
    have hescape := Row.Fits.led " ESCAPE " (.expr? c)
    exact Layout.fits_laid ((Row.Fits.expr a).append (hpattern.append hescape))
  | member a values negated =>
    have hnot := Row.Fits.wordIf (X := X) negated " NOT" .loose
    have hvalues := (Row.Fits.separated ", " (.exprs values)).parenthesized
    have hin := hvalues.after_settled.cons_word " IN "
    exact Layout.fits_laid (((Row.Fits.operand a).append hnot).append hin).before_loose
  | choice a branches c type =>
    have hcase := (Row.Fits.word (X := X) "CASE").after_settled
    have hsubject := (Row.Fits.led " " (.expr? a)).after_settled
    have hbranches : Row.Fits .loose .loose (branches.flatMap Row.branch) :=
      .flatMap fun b _ => .branch b
    have hotherwise := Row.Fits.led " ELSE " (.expr? c)
    have hall := ((hcase.append hsubject).append hbranches).append hotherwise
    exact Layout.fits_laid (hall.append_word " END").before_loose
  | existence q negated =>
    have hnot := Row.Fits.wordIf (X := X) negated "NOT " .loose
    have hquery := (Row.Fits.part (.query q)).parenthesized.after_settled
    have hexists := hquery.cons_word "EXISTS "
    exact Layout.fits_laid (hnot.append hexists).after_settled.before_loose
  | scalar q =>
    exact Layout.fits_laid (Row.Fits.part (.query q)).parenthesized.after_settled.before_loose
  | nullary node => exact h.nullary node
  | dialectUnary node a => exact h.dialectUnary node a he
  | dialectBinary node a b => exact h.dialectBinary node a b
  | variadic node operands => exact h.variadic node operands

theorem source (h : L.Fits own) (s : Source X) : Layout.Fits (L.source s) := by
  have hjoin : ∀ (lead : String) (s : Source X) (condition : Expr X),
      Text.isLevelWord lead = true → Row.Fits .settled .loose
        (.word lead :: .part (.source s) :: .word " ON " :: Row.expr condition) := by
    intro lead s condition hlead
    have hcondition := (Row.Fits.expr condition).cons_word " ON "
    exact (((Row.Fits.part (.source s)).append hcondition).cons_word lead hlead).after_settled
  cases s with
  | table schema name label =>
    have hlabel := Row.Fits.led " AS " (Row.Fits.label (X := X) label)
    exact Layout.fits_laid ((Row.Fits.qualified schema name).append hlabel)
  | derived q label =>
    have hquery := (Row.Fits.part (.query q)).parenthesized.after_settled.before_loose
    have hlabel := (Row.Fits.part (X := X) (.label label)).cons_word " AS "
    exact Layout.fits_laid (hquery.append hlabel)
  | innerJoin s condition => exact Layout.fits_laid (hjoin "INNER JOIN " s condition (by decide))
  | leftJoin s condition => exact Layout.fits_laid (hjoin "LEFT JOIN " s condition (by decide))
  | crossJoin s =>
    have hsource := (Row.Fits.part (.source s)).cons_word "CROSS JOIN "
    exact Layout.fits_laid hsource.after_settled
  | crossApply s => exact h.crossApply s
  | outerApply s => exact h.outerApply s

/-- The layout of a level stop fits. -/
theorem layout (h : L.Fits own) {stop : Stop X} (hstop : stop.IsLevel own) :
    Layout.Fits (L.layout stop) := by
  cases stop with
  | expr e => exact h.expr hstop
  | query q => exact Layout.fits_laid (.query q)
  | source s => exact h.source s
  | rowLimit limit offset => exact h.rowLimit limit offset
  | label name => exact Layout.fits_laid (.name name)

end Scheme.Fits

/-- A tree whose stops are level is level. -/
theorem Dialect.Follows.levels_stop {D : Dialect X} {S : Scheme X} {L : Lexis} {r : Route}
    {own : Stop X → List String} (h : D.Follows S fun _ p => p) (hwalks : S.Walks r)
    (hquotes : D.QuotesBy L r own) (hfits : S.Fits own) (stop : Stop X)
    (hlevel : ∀ inner ∈ stop.trail r, inner.IsLevel own) :
    Levels L .settled .loose 0 0 (D.stopPiece stop) := by
  induction stop using Stop.induction r with
  | step stop ih =>
    rw [h.stopPiece_bare]
    cases hlayout : S.layout stop with
    | error e => exact .fail e
    | ok layout =>
      have hparts : ∀ part ∈ layout.slots.parts,
          Levels L .settled .loose 0 0 (D.stopPiece part) := by
        rw [hwalks.layout_has stop layout hlayout]
        intro part hpart
        exact ih part hpart fun inner hinner =>
          hlevel inner (Stop.mem_trail_of_mem_parts r hpart hinner)
      have hstop := hfits.layout (hlevel stop (Stop.self_mem_trail r stop)) layout hlayout
      rw [layoutPiece, inOrder_events]
      exact (Levels.events layout.events .settled 0).append (hstop.levels hquotes hparts)

/-! ## Standard SQL -/

namespace Row.Fits

theorem call {name : String} (hname : Text.isLevel name = true) (args : List (Expr X))
    (niladic : Bool) : Fits .settled .loose (Row.call name args niladic) := by
  unfold Row.call
  split
  · exact (Fits.verbatim hname).before_loose
  · have hargs := (Fits.separated ", " (.exprs args)).parenthesized
    exact ((Fits.verbatim hname).append hargs.after_settled).before_loose

theorem binary (op : BinaryOp) (a b : Expr X) : Fits .settled .loose (Row.binary op a b) := by
  have htoken : Text.isLevelWord (" " ++ op.token ++ " ") = true := by
    cases op <;> decide
  exact (Fits.operand a).append ((Fits.operand b).cons_word _ htoken)

theorem skip (offset : Option (Expr X)) : Fits .settled .settled (Row.skip offset) := by
  cases offset with
  | none => exact .nil .settled
  | some e =>
    have hoffset := (Fits.expr e).cons_word "OFFSET "
    exact (hoffset.append_word " ROWS").after_settled

theorem fetch (first : Bool) (limit : Option (Expr X)) :
    Fits .settled .settled (Row.fetch first limit) := by
  cases limit with
  | none => exact .nil .settled
  | some e =>
    have hblank := Fits.wordIf (X := X) (!first) " " .settled
    have hlimit := ((Fits.expr e).cons_word "FETCH FIRST ").after_settled
    exact (hblank.append hlimit).append_word " ROWS ONLY"

end Row.Fits

/-- The standard operators on one operand fit, conversions to level types among them. -/
theorem Standard.unaryLayout_fits (op : UnaryOp) (a : Expr X) (type : Option SqlType)
    (htype : ∀ target, op = .convert → type = some target → Text.isLevel target.name = true) :
    Layout.Fits (unaryLayout op a type) := by
  cases op with
  | not =>
    have hbody := (Row.Fits.expr a).parenthesized.after_settled
    exact Layout.fits_laid (hbody.cons_word "NOT ").after_settled.before_loose
  | negate =>
    exact Layout.fits_laid ((Row.Fits.operand a).cons_word "-").after_settled
  | convert =>
    cases type with
    | none => exact Layout.fits_error _
    | some target =>
      have hcast := (Row.Fits.expr a).cast (htype target rfl rfl)
      exact Layout.fits_laid hcast.after_settled.before_loose
  | isNull =>
    exact Layout.fits_laid ((Row.Fits.operand a).append_word " IS NULL").before_loose
  | isNotNull =>
    exact Layout.fits_laid ((Row.Fits.operand a).append_word " IS NOT NULL").before_loose

/-- Every layout of standard SQL fits. -/
theorem Dialect.ansiScheme_fits : ansiScheme.Fits Standard.own where
  call name args niladic hname := Layout.fits_laid (.call hname args niladic)
  unary op a type hlevel := by
    refine Standard.unaryLayout_fits op a type ?_
    rintro target rfl rfl
    exact hlevel target.name List.mem_cons_self
  binary op a b _ := Layout.fits_laid (.binary op a b)
  rowLimit limit offset :=
    Layout.fits_laid ((Row.Fits.skip offset).append (.fetch offset.isNone limit)).before_loose
  crossApply s := by
    have hsource := (Row.Fits.part (.source s)).cons_word "CROSS APPLY "
    exact Layout.fits_laid hsource.after_settled
  outerApply s := by
    have hsource := (Row.Fits.part (.source s)).cons_word "OUTER APPLY "
    exact Layout.fits_laid hsource.after_settled
  nullary node := node.elim
  dialectUnary node := node.elim
  dialectBinary node := node.elim
  variadic node := node.elim

/-! ## MySQL -/

namespace MySql

/-- The rules of MySQL write level keywords. -/
theorem CastRules.isLevel_keyword {support : CastSupport} {name : String} {plan : CastPlan}
    (hplan : mySql.planFor support name = .ok plan) : Text.isLevel plan.keyword = true := by
  have hall : ∀ keyword ∈ Workaround.widestDecimal :: unsigned :: mySql.map (·.keyword),
      Text.isLevel keyword = true := by
    decide
  exact hall _ (keyword_mem_of_planFor hplan)

theorem castRow_fits {plan : CastPlan} (hplan : Text.isLevel plan.keyword = true)
    {row : Row signature} (hrow : row.Fits .settled .loose) :
    (castRow plan row).Fits .settled .loose := by
  have hcast := (hrow.cast hplan).after_settled.before_loose
  cases plan with
  | direct keyword => exact hcast
  | throughDecimal requested =>
    have hsum := (hcast.append_word " + 0e0").before_loose
    exact hsum.parenthesized.after_settled.before_loose

/-- Operators on one operand fit, since every keyword of the rules is level. -/
theorem unaryLayout_fits (support : CastSupport) (op : UnaryOp) (a : Expr signature)
    (type : Option SqlType) : Layout.Fits (unaryLayout .mySql support op a type) := by
  by_cases h : op = .convert → type = none
  · rw [unaryLayout_eq_standard .mySql support h]
    refine Standard.unaryLayout_fits op a type ?_
    rintro target rfl rfl
    cases h rfl
  · obtain ⟨rfl, hsome⟩ := Classical.not_imp.1 h
    obtain ⟨type, rfl⟩ := Option.ne_none_iff_exists'.1 hsome
    change Layout.Fits (convertLayout .mySql support a type)
    obtain ⟨e, hlayout⟩ | ⟨plan, hplan, hlayout⟩ := convertLayout_cases .mySql support type
    · rw [hlayout]
      exact Layout.fits_error e
    · rw [hlayout]
      rintro l ⟨⟩
      exact castRow_fits (CastRules.isLevel_keyword hplan) (.expr a)

theorem collateLayout_fits {charset collation : String} (hcharset : Text.isLevel charset = true)
    (hcollation : Text.isLevel collation = true) (a : Expr signature) :
    Layout.Fits (collateLayout charset collation a) := by
  obtain ⟨e, hlayout⟩ | hlayout := collateLayout_cases charset collation
  · rw [hlayout]
    exact Layout.fits_error e
  · have husing := (Row.Fits.verbatim (X := signature) hcharset).cons_word " USING "
    have hbody := ((Row.Fits.expr a).append husing).before_loose
    have hconvert := Row.Fits.enclosed "CONVERT(" ") COLLATE " hbody
    have hrow := (hconvert.append (.verbatim hcollation)).after_settled.before_loose
    rw [hlayout]
    exact Layout.fits_laid (by simpa using hrow)

/-- The limit of MySQL fits, the one that it supplies itself too. -/
theorem rowLimitLayout_fits (limit offset : Option (Expr signature)) :
    Layout.Fits (rowLimitLayout limit offset) := by
  have hoffset := fun e : Expr signature => (Row.Fits.expr e).cons_word " OFFSET "
  have hlimit := fun e : Expr signature => (Row.Fits.expr e).cons_word "LIMIT "
  cases limit with
  | none =>
    cases offset with
    | none => exact Layout.fits_laid (Row.Fits.nil .settled).before_loose
    | some offset =>
      rintro l ⟨⟩
      have hlargest : Text.isLevelWord ("LIMIT " ++ Workaround.largestLimitText) = true := by decide
      exact ((hoffset offset).after_settled.cons_word _ hlargest).after_settled
  | some limit =>
    cases offset with
    | none => exact Layout.fits_laid (hlimit limit).after_settled
    | some offset =>
      exact Layout.fits_laid ((hlimit limit).append (hoffset offset)).after_settled

/-- Every layout of MySQL fits. -/
theorem scheme_fits (support : CastSupport) : (scheme support .mySql).Fits own where
  call name args niladic hname := by
    refine Layout.fits_laid ?_
    split
    · exact (Row.Fits.verbatim hname).before_loose
    · exact .call hname args niladic
  unary op a type _ := unaryLayout_fits support op a type
  binary op a b kind := by
    refine Layout.fits_laid ?_
    split
    · have hargs := (Row.Fits.separated ", " (.exprs [a, b])).parenthesized
      exact (hargs.after_settled.cons_word "CONCAT").after_settled.before_loose
    · exact .binary op a b
  rowLimit := rowLimitLayout_fits
  crossApply s := by
    have hsource := (Row.Fits.part (.source s)).cons_word "JOIN LATERAL "
    exact Layout.fits_laid (hsource.append_word " ON TRUE").after_settled.before_loose
  outerApply s := by
    have hsource := (Row.Fits.part (.source s)).cons_word "LEFT JOIN LATERAL "
    exact Layout.fits_laid (hsource.append_word " ON TRUE").after_settled.before_loose
  nullary node := node.elim
  dialectUnary node a hlevel := by
    cases node with
    | collate charset collation =>
      have hcharset := hlevel charset List.mem_cons_self
      have hcollation := hlevel collation (List.mem_cons_of_mem _ List.mem_cons_self)
      exact collateLayout_fits hcharset hcollation a
  dialectBinary node a b := by
    cases node with
    | regexp =>
      have hpattern := (Row.Fits.expr b).cons_word " REGEXP "
      exact Layout.fits_laid ((Row.Fits.expr a).append hpattern)
    | integerDivision =>
      have hleft := (Row.Fits.expr a).parenthesized.after_settled.before_loose
      have hright := (Row.Fits.expr b).parenthesized.after_settled
      exact Layout.fits_laid (hleft.append (hright.cons_word " DIV ")).before_loose
    | nonOptimizedEqual => exact Layout.fits_error _
  variadic node operands := by
    cases node
    exact Layout.fits_laid (.separated " " (.exprs operands))

end MySql

/-! ## Compiled texts -/

/-- Outside its quotes, the text of a tree is balanced, if the verbatim texts of its stops are
level. -/
def Balances {α : Type} (L : Lexis) (own : Stop X → List String) (trail : α → List (Stop X))
    (compile : α → EmitM String) : Prop :=
  ∀ t o text o', (∀ stop ∈ trail t, stop.IsLevel own) → compile t o = .ok text o' →
    ∃ ts, L.lex text = some ts ∧ Text.isBalanced (Token.outside ts) = true

/-- The texts of expressions, queries and row sources are balanced. -/
structure Dialect.BalancesTrees (D : Dialect X) (L : Lexis) (r : Route)
    (own : Stop X → List String) : Prop where
  exprs : Balances L own (Expr.trail r) D.compileExpr
  queries : Balances L own (Query.trail r) D.compileQuery
  sources : Balances L own (Source.trail r) fun s => compiling (D.writeSource s)

/-- Texts whose pieces are level are balanced. -/
theorem Balances.of_levels {α : Type} {L : Lexis} {own : Stop X → List String}
    {trail : α → List (Stop X)} {compile : α → EmitM String} (piece : α → Piece)
    (hcompile : ∀ t o text, (∃ o', compile t o = .ok text o') ↔
      (piece t).error = none ∧ text = (piece t).sql)
    (hlevels : ∀ t, (∀ stop ∈ trail t, stop.IsLevel own) →
      Levels L .settled .loose 0 0 (piece t)) :
    Balances L own trail compile := by
  intro t o text o' hlevel hok
  obtain ⟨herror, rfl⟩ := (hcompile t o text).1 ⟨o', hok⟩
  obtain ⟨ts, hreads, hdepth⟩ := hlevels t hlevel herror
  exact ⟨ts, hreads.lex_eq, decide_eq_true hdepth⟩

/-- A dialect that follows a fitting scheme balances its trees, if its quotes can be read back. -/
theorem Dialect.Follows.balancesTrees {D : Dialect X} {S : Scheme X} {L : Lexis} {r : Route}
    {own : Stop X → List String} (h : D.Follows S fun _ p => p) (hwalks : S.Walks r)
    (hquotes : D.QuotesBy L r own) (hfits : S.Fits own) : D.BalancesTrees L r own := by
  have hlevels := h.levels_stop hwalks hquotes hfits
  have hsources : ∀ s o text, (∃ o', compiling (D.writeSource s) o = .ok text o') ↔
      (D.sourcePiece s).error = none ∧ text = (D.sourcePiece s).sql := by
    intro s o text
    rw [hquotes.writeSource, compiling_emit_ok_iff]
  exact ⟨.of_levels D.exprPiece hquotes.compileExpr_ok_iff fun e => hlevels (.expr e),
    .of_levels D.queryPiece hquotes.compileQuery_ok_iff fun q => hlevels (.query q),
    .of_levels D.sourcePiece hsources fun s => hlevels (.source s)⟩

/-- In MySQL on any server and in standard SQL, the parentheses outside the quotes of a text
balance, whatever stands inside them. -/
theorem parentheses_balance :
    (∀ support, (MySql.dialect support .mySql).BalancesTrees MySql.lexis MySql.route MySql.own) ∧
      Dialect.ansi.BalancesTrees Standard.lexis Standard.route Standard.own := by
  refine ⟨fun support => ?_, ?_⟩
  · have hquotes := MySql.dialect_quotesBy support MySql.CastRules.mySql_quoteFree
    exact (MySql.dialect_follows support .mySql).balancesTrees (MySql.scheme_walks support .mySql)
      hquotes (MySql.scheme_fits support)
  · exact ansi_follows.balancesTrees ansiScheme_walks ansi_quotesBy ansiScheme_fits

/-- Parentheses in a name and in a string do not count; those of a cast through decimals, of a call
and of a raw text do. -/
theorem quoted_parentheses_do_not_count :
    let cast : Expr MySql.signature :=
      .unary .convert (.column none ")(" none) (some ⟨"double", .double⟩)
    let args : List (Expr MySql.signature) := [.raw "(o.x)", .literal (.string ")))") none]
    let e : Expr MySql.signature := .like cast (.call "CONCAT" args false none) none
    let text := "(CAST(`)(` AS decimal(65,30)) + 0e0) LIKE CONCAT((o.x), ')))')"
    (∀ stop ∈ e.trail MySql.route, stop.IsLevel MySql.own) ∧
      (∃ o', (MySql.dialect .none .mySql).compileExpr e {} = .ok text o') ∧
      ∃ ts, MySql.lexis.lex text = some ts ∧ Text.isBalanced (Token.outside ts) = true := by
  intro cast args e text
  have hsigil : Text.startsWith "CONCAT" MySql.variableSigil = false := by decide
  have hcall : Text.isLevel "CONCAT" = true := by decide
  have hraw : Text.isLevel "(o.x)" = true := by decide
  have hlevel : ∀ stop ∈ e.trail MySql.route, stop.IsLevel MySql.own := by
    simp [e, args, cast, MySql.route, hsigil, Stop.IsLevel, Stop.verbatim, MySql.own, hcall, hraw]
  have hok : ∃ o', (MySql.dialect .none .mySql).compileExpr e {} = .ok text o' := ⟨_, rfl⟩
  refine ⟨hlevel, hok, ?_⟩
  obtain ⟨o', hok⟩ := hok
  exact (parentheses_balance.1 .none).exprs e {} text o' hlevel hok

end SqlScribe
