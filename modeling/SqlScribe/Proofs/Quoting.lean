import SqlScribe.Proofs.Alike
import SqlScribe.Proofs.Trail

/-!
# What a tree quotes

A tree quotes its names, its strings and the bodies of its dates, times and bytes, in the order of
its trail (`Stop.quoted`); numbers, parameters, raw texts and the names of functions are written
verbatim (`Stop.verbatim`), and a dialect may have verbatim texts of its own.

A dialect is `QuotesBy` a lexis when the lexis undoes its quotes and its rules put words without
quotes between their parts. Then a tree whose verbatim texts are free of quotes is read like its
redaction (`QuotesBy.steps`): the same tokens in the same places, and in the quoted ones just what
the tree has there.
-/

namespace SqlScribe

open Emit Piece Lexis

variable {X : Signature}

/-! ## Stops -/

/-- The token of a name between its quotes. -/
def Token.identifier (name : String) : Token := .quoted .identifier name.toList

/-- What the text of a literal quotes. -/
def Literal.quoted : Literal → List Token
  | .null => []
  | .bool _ => []
  | .number _ => []
  | .string contents => [.quoted .string contents.toList]
  | .date value => [.quoted .string value.text]
  | .timestamp value => [.quoted .string value.text]
  | .time value => [.quoted .string value.text]
  | .bytes value => [.quoted .string (value.flatMap hexByte)]

/-- What is quoted at a stop itself, besides the parts that have stops of their own. -/
def Stop.quoted : Stop X → List Token
  | .expr (.literal value _) => value.quoted
  | .expr (.column table name _) => (table.toList ++ [name]).map Token.identifier
  | .source (.table schema name label?) =>
    (schema.toList ++ [name] ++ label?.toList).map Token.identifier
  | .label name => [Token.identifier name]
  | _ => []

theorem Stop.quoted_labels (label : Option String) :
    (label.toList.map (Stop.label (X := X))).flatMap Stop.quoted =
      label.toList.map Token.identifier := by
  cases label <;> rfl

/-- What every dialect writes at a stop as it stands. -/
def Stop.verbatim : Stop X → List String
  | .expr (.literal (.number text) _) => [text]
  | .expr (.parameter name _) => [name]
  | .expr (.raw text) => [text]
  | .expr (.call name _ _ _) => [name]
  | _ => []

/-- No verbatim text of the stop has a quote in it, nor has one of the dialect's own. -/
def Stop.IsClean (own : Stop X → List String) (stop : Stop X) : Prop :=
  ∀ text ∈ stop.verbatim ++ own stop, Text.isQuoteFree text = true

/-! ## The bodies of literals -/

namespace Text

/-- The character cannot change how a string is read. -/
def isBodyChar (c : Char) : Bool := c != '\'' && c != '\\'

theorem isBodyChar_of_isDigit {c : Char} (hc : c.isDigit = true) : isBodyChar c = true := by
  have hquote : c ≠ '\'' := by
    rintro rfl
    exact nomatch hc
  have hbackslash : c ≠ '\\' := by
    rintro rfl
    exact nomatch hc
  simp [isBodyChar, hquote, hbackslash]

/-- Numbers have no characters that change how a string is read. -/
theorem isBodyChar_of_mem_paddedText {width n : Nat} {c : Char} (hc : c ∈ paddedText width n) :
    isBodyChar c = true := by
  obtain hpad | hdigit := List.mem_append.1 hc
  · obtain ⟨-, rfl⟩ := List.mem_replicate.1 hpad
    rfl
  · exact isBodyChar_of_isDigit (Nat.isDigit_of_mem_toDigits (by decide) (by decide) hdigit)

end Text

theorem Calendar.Date.isBodyChar_of_mem_text (date : Date) :
    ∀ c ∈ date.text, Text.isBodyChar c = true := by
  have hyear : ∀ c ∈ yearText date.year, Text.isBodyChar c = true := by
    intro c hc
    unfold yearText at hc
    split at hc
    · exact Text.isBodyChar_of_mem_paddedText hc
    · obtain rfl | hc := List.mem_cons.1 hc
      · split <;> rfl
      · exact Text.isBodyChar_of_mem_paddedText hc
  intro c hc
  simp only [text, List.mem_append, List.mem_cons, or_assoc] at hc
  obtain hc | rfl | hc | rfl | hc := hc
  · exact hyear c hc
  · rfl
  · exact Text.isBodyChar_of_mem_paddedText hc
  · rfl
  · exact Text.isBodyChar_of_mem_paddedText hc

theorem Calendar.Time.isBodyChar_of_mem_text (time : Time) :
    ∀ c ∈ time.text, Text.isBodyChar c = true := by
  intro c hc
  simp only [text, List.mem_append, List.mem_cons, or_assoc] at hc
  obtain hc | rfl | hc | rfl | hc | rfl | hc := hc
  · exact Text.isBodyChar_of_mem_paddedText hc
  · rfl
  · exact Text.isBodyChar_of_mem_paddedText hc
  · rfl
  · exact Text.isBodyChar_of_mem_paddedText hc
  · rfl
  · exact Text.isBodyChar_of_mem_paddedText hc

/-- Dates and times have no characters that change how a string is read. -/
theorem Calendar.Timestamp.isBodyChar_of_mem_text (stamp : Timestamp) :
    ∀ c ∈ stamp.text, Text.isBodyChar c = true := by
  intro c hc
  obtain hc | hc := List.mem_append.1 hc
  · exact stamp.date.isBodyChar_of_mem_text c hc
  · obtain rfl | hc := List.mem_cons.1 hc
    · rfl
    · exact stamp.time.isBodyChar_of_mem_text c hc

theorem Literal.isBodyChar_hexDigit {n : Nat} (hn : n < 16) :
    Text.isBodyChar (hexDigit n) = true := by
  have hall : ∀ n : Fin 16, Text.isBodyChar (hexDigit n) = true := by decide
  exact hall ⟨n, hn⟩

theorem Literal.isBodyChar_of_mem_hexBytes (value : List UInt8) :
    ∀ c ∈ value.flatMap hexByte, Text.isBodyChar c = true := by
  intro c hc
  obtain ⟨byte, -, hc⟩ := List.mem_flatMap.1 hc
  have hbyte := byte.toNat_lt
  obtain rfl | hc := List.mem_cons.1 hc
  · exact isBodyChar_hexDigit (by omega)
  · obtain rfl := List.mem_singleton.1 hc
    exact isBodyChar_hexDigit (by omega)

namespace Lexis

variable (L : Lexis)

/-- The characters that strings have to double. -/
def guarded (c : Char) : Bool := c == '\'' || L.escapes .string c

/-- The characters that strings have to double are those that could end them or escape. -/
theorem guards_guarded : L.Guards .string L.guarded := by
  intro c
  simp [guarded, quoteOf]

variable {L}

theorem doubled_body {body : List Char} (hbody : ∀ c ∈ body, Text.isBodyChar c = true) :
    Text.doubled L.guarded body = body := by
  induction body with
  | nil => rfl
  | cons c body ih =>
    obtain ⟨hc, hrest⟩ := List.forall_mem_cons.1 hbody
    have hfree : L.guarded c = false := by
      simp only [Text.isBodyChar, Bool.and_eq_true, bne_iff_ne] at hc
      simp [guarded, escapes, hc.1, hc.2]
    rw [Text.doubled_cons, hfree, ih hrest]
    rfl

/-- A body without quotes and backslashes, between quotes and behind a word. -/
theorem reads_tagged {word : String} (hword : Text.isQuoteFree word = true) {body : List Char}
    (hbody : ∀ c ∈ body, Text.isBodyChar c = true) :
    L.Reads .settled .loose (Literal.tagged word body).toList
      (word.toList.map .plain ++ [.quoted .string body]) := by
  have hquoted := reads_quoted L.guards_guarded body
  rw [doubled_body hbody] at hquoted
  have htext : (Literal.tagged word body).toList =
      word.toList ++ '\'' :: (body ++ ['\'']) := by
    simp [Literal.tagged]
  rw [htext]
  exact (Reads.plain hword).append hquoted

end Lexis

/-! ## Dialects -/

/-- The lexis undoes the quotes of the dialect, and parts that are alike stay alike under its rules.
The verbatim texts of its own are those of `own`. -/
structure Dialect.QuotesBy (D : Dialect X) (L : Lexis) (r : Route) (own : Stop X → List String) :
    Prop extends D.Plain where
  quote_reads : ∀ name, L.Reads .settled .loose (D.quote name).toList [Token.identifier name]
  escape_reads : ∀ contents, L.Reads .settled .loose ("'" ++ D.escape contents ++ "'").toList
    [.quoted .string contents.toList]
  call_skipped : ∀ name args niladic, r.skipsArgs name niladic = true →
    D.call name args niladic = write name
  call_written : ∀ name (ps : List Piece) niladic, r.skipsArgs name niladic = false →
    D.call name (ps.map emit) niladic =
      emit (text name ++ (Piece.separated ", " ps).parenthesized)
  unary_alike : ∀ op a type p p' ps, Stop.IsClean own (.expr (.unary op a type)) →
    Alike L .settled .loose p p' ps →
    Alike L .settled .loose (D.unary op ⟨a, emit p⟩ type).piece
      (D.unary op ⟨a.redact, emit p'⟩ type).piece ps
  binary_alike : ∀ op a b kind p p' ps q q' qs, Alike L .settled .loose p p' ps →
    Alike L .settled .loose q q' qs →
    Alike L .settled .loose (D.binary op ⟨a, emit p⟩ ⟨b, emit q⟩ kind).piece
      (D.binary op ⟨a.redact, emit p'⟩ ⟨b.redact, emit q'⟩ kind).piece (ps ++ qs)
  rowLimit_alike : ∀ (limit offset : Option (Expr X)) f g (quoted : Expr X → List Token),
    (∀ e ∈ limit, Alike L .settled .loose (f e) (g e) (quoted e)) →
    (∀ e ∈ offset, Alike L .settled .loose (f e) (g e) (quoted e)) →
    Alike L .settled .loose (D.rowLimit ((limit.map f).map emit) ((offset.map f).map emit)).piece
      (D.rowLimit ((limit.map g).map emit) ((offset.map g).map emit)).piece
      (if r.limitFirst then limit.toList.flatMap quoted ++ offset.toList.flatMap quoted
        else offset.toList.flatMap quoted ++ limit.toList.flatMap quoted)
  crossApply_alike : ∀ p p' ps, Alike L .settled .loose p p' ps →
    Alike L .settled .loose (D.crossApply (emit p)).piece (D.crossApply (emit p')).piece ps
  outerApply_alike : ∀ p p' ps, Alike L .settled .loose p p' ps →
    Alike L .settled .loose (D.outerApply (emit p)).piece (D.outerApply (emit p')).piece ps
  nullary_alike : ∀ node, Stop.IsClean own (.expr (.nullary node)) →
    Alike L .settled .loose (D.nullary node).piece (D.nullary node).piece []
  dialectUnary_alike : ∀ node a p p' ps, Stop.IsClean own (.expr (.dialectUnary node a)) →
    Alike L .settled .loose p p' ps →
    Alike L .settled .loose (D.dialectUnary node (emit p)).piece
      (D.dialectUnary node (emit p')).piece ps
  dialectBinary_alike : ∀ node p p' ps q q' qs, Alike L .settled .loose p p' ps →
    Alike L .settled .loose q q' qs →
    Alike L .settled .loose (D.dialectBinary node (emit p) (emit q)).piece
      (D.dialectBinary node (emit p') (emit q')).piece (ps ++ qs)
  variadic_alike : ∀ node (operands : List (Expr X)) f g (quoted : Expr X → List Token),
    (∀ e ∈ operands, Alike L .settled .loose (f e) (g e) (quoted e)) →
    Alike L .settled .loose (D.variadic node ((operands.map f).map emit)).piece
      (D.variadic node ((operands.map g).map emit)).piece (operands.flatMap quoted)

/-- If its stops are clean, the expression is read like its redaction and quotes what its stops
quote. -/
def Dialect.ReadsExpr (D : Dialect X) (L : Lexis) (r : Route) (own : Stop X → List String)
    (e : Expr X) : Prop :=
  (∀ stop ∈ e.trail r, stop.IsClean own) →
    Alike L .settled .loose (D.exprPiece e) (D.exprPiece e.redact)
      ((e.trail r).flatMap Stop.quoted)

/-- `ReadsExpr` for queries. -/
def Dialect.ReadsQuery (D : Dialect X) (L : Lexis) (r : Route) (own : Stop X → List String)
    (q : Query X) : Prop :=
  (∀ stop ∈ q.trail r, stop.IsClean own) →
    Alike L .settled .loose (D.queryPiece q) (D.queryPiece q.redact)
      ((q.trail r).flatMap Stop.quoted)

/-- `ReadsExpr` for row sources. -/
def Dialect.ReadsSource (D : Dialect X) (L : Lexis) (r : Route) (own : Stop X → List String)
    (s : Source X) : Prop :=
  (∀ stop ∈ s.trail r, stop.IsClean own) →
    Alike L .settled .loose (D.sourcePiece s) (D.sourcePiece s.redact)
      ((s.trail r).flatMap Stop.quoted)

namespace Dialect.QuotesBy

variable {D : Dialect X} {L : Lexis} {r : Route} {own : Stop X → List String}
  (h : D.QuotesBy L r own)

include h

/-- Quoted names are alike, whatever they are. -/
theorem name_alike (name other : String) :
    Alike L .settled .loose (text (D.quote name)) (text (D.quote other))
      [Token.identifier name] :=
  .of_reads (h.quote_reads name) (h.quote_reads other) rfl

theorem qualified_alike (owner : Option String) (name : String) :
    Alike L .settled .loose (text (Standard.qualified D.quote owner name))
      (text (Standard.qualified D.quote (redactName? owner) ""))
      ((owner.toList ++ [name]).map Token.identifier) := by
  cases owner with
  | none => exact h.name_alike name ""
  | some owner =>
    have howner := (h.name_alike owner "").append_word "." (by decide)
    rw [redactName?, Option.map_some, Standard.qualified, Standard.qualified, text_append,
      text_append, text_append, text_append]
    exact howner.append (h.name_alike name "")

theorem label_alike (label : Option String) :
    Alike L .loose .loose (D.labelPiece label) (D.labelPiece (redactName? label))
      (label.toList.map Token.identifier) := by
  have hlabel : ∀ name ∈ label, Alike L .settled .loose (text (D.quote name)) (text (D.quote ""))
      [Token.identifier name] := fun name _ => h.name_alike name ""
  rw [List.map_eq_flatMap]
  unfold labelPiece redactName?
  rw [Option.map_map]
  exact .led " AS " (by decide) hlabel

/-- A constant is like its redaction, if no number has a quote in it. -/
theorem literal_alike (value : Literal) (type : Option SqlType)
    (hclean : Stop.IsClean own (.expr (.literal value type))) :
    Alike L .settled .loose (text (value.text D.escape)) (text (value.redact.text D.escape))
      value.quoted := by
  -- Dates, times and bytes have no characters that would have to be doubled.
  have htagged : ∀ {word : String} {body : List Char}, Text.isQuoteFree word = true →
      (∀ c ∈ body, Text.isBodyChar c = true) →
      Alike L .settled .loose (text (Literal.tagged word body)) (text (Literal.tagged word body))
        [.quoted .string body] := by
    intro word body hword hbody
    have halike := Alike.of_reads (reads_tagged (L := L) hword hbody) (reads_tagged hword hbody) rfl
    rwa [List.filter_append, Token.filter_isQuoted_map_plain] at halike
  cases value with
  | null => exact (Alike.text "NULL" (by decide)).before_loose
  | bool value =>
    cases value with
    | false => exact (Alike.text "FALSE" (by decide)).before_loose
    | true => exact (Alike.text "TRUE" (by decide)).before_loose
  | number sql => exact (Alike.text sql (hclean sql List.mem_cons_self)).before_loose
  | string contents => exact .of_reads (h.escape_reads contents) (h.escape_reads "") rfl
  | date value => exact htagged (by decide) value.isBodyChar_of_mem_text
  | timestamp value => exact htagged (by decide) value.isBodyChar_of_mem_text
  | time value => exact htagged (by decide) value.isBodyChar_of_mem_text
  | bytes value => exact htagged (by decide) (Literal.isBodyChar_of_mem_hexBytes value)

omit h in
/-- The parts of a list are alike if their stops are clean. -/
theorem parts_alike {α : Type} {xs : List α} {f g : α → Piece} {trail : α → List (Stop X)}
    (hxs : ∀ x ∈ xs, (∀ stop ∈ trail x, stop.IsClean own) →
      Alike L .settled .loose (f x) (g x) ((trail x).flatMap Stop.quoted))
    (hclean : ∀ stop ∈ xs.flatMap trail, stop.IsClean own) :
    ∀ x ∈ xs, Alike L .settled .loose (f x) (g x) ((trail x).flatMap Stop.quoted) := by
  intro x hx
  exact hxs x hx (List.forall_mem_flatMap.1 hclean x hx)

omit h in
theorem part?_alike {α : Type} {x : Option α} {f g : α → Piece} {trail : α → List (Stop X)}
    (hx : ∀ a ∈ x, (∀ stop ∈ trail a, stop.IsClean own) →
      Alike L .settled .loose (f a) (g a) ((trail a).flatMap Stop.quoted))
    (hclean : ∀ stop ∈ x.toList.flatMap trail, stop.IsClean own) :
    ∀ a ∈ x, Alike L .settled .loose (f a) (g a) ((trail a).flatMap Stop.quoted) := by
  intro a ha
  exact hx a ha (List.forall_mem_flatMap.1 hclean a (Option.mem_toList.2 ha))

omit h in
/-- A branch is read like its redaction if its parts are. -/
theorem branch_alike {b : Branch X} (htest : D.ReadsExpr L r own b.test)
    (hresult : D.ReadsExpr L r own b.result)
    (hclean : ∀ stop ∈ b.test.trail r ++ b.result.trail r, stop.IsClean own) :
    Alike L .loose .loose (D.branchPiece b) (D.branchPiece b.redact)
      ((b.test.trail r ++ b.result.trail r).flatMap Stop.quoted) := by
  obtain ⟨hctest, hcresult⟩ := List.forall_mem_append.1 hclean
  unfold branchPiece
  rw [List.flatMap_append]
  have htest' := (htest hctest).word_append " WHEN " (by decide)
  exact (htest'.append_word " THEN " (by decide)).append (hresult hcresult)

theorem expr_literal (value : Literal) (type : Option SqlType) :
    D.ReadsExpr L r own (.literal value type) := by
  intro hclean
  rw [Expr.redact, h.exprPiece_literal, h.exprPiece_literal, Expr.trail_literal,
    List.flatMap_singleton]
  exact h.literal_alike value type (hclean _ List.mem_cons_self)

/-- A call is read like its redaction, if its arguments are. -/
theorem expr_call (name : String) (args : List (Expr X)) (niladic : Bool) (type : Option SqlType)
    (hargs : ∀ a ∈ args, D.ReadsExpr L r own a) :
    D.ReadsExpr L r own (.call name args niladic type) := by
  intro hclean
  rw [Expr.trail_call, List.forall_mem_cons] at hclean
  obtain ⟨hcname, hcargs⟩ := hclean
  have hname : Alike L .settled .settled (text name) (text name) [] :=
    .text name (hcname name List.mem_cons_self)
  rw [Expr.redact, redactExprs_eq_map, h.exprPiece_call, h.exprPiece_call, Expr.trail_call,
    List.flatMap_cons]
  cases hskips : r.skipsArgs name niladic with
  | true =>
    rw [h.call_skipped _ _ _ hskips, h.call_skipped _ _ _ hskips, write_eq_emit, piece_emit]
    exact hname.before_loose
  | false =>
    rw [hskips] at hcargs
    rw [h.call_written _ _ _ hskips, h.call_written _ _ _ hskips, piece_emit, piece_emit,
      List.map_map, if_neg (by decide), List.flatMap_assoc]
    have hparts := Alike.separated ", " (by decide) (parts_alike hargs hcargs)
    exact hname.append hparts.parenthesized.after_settled.before_loose

theorem expr_like (a b : Expr X) (c : Option (Expr X)) (ha : D.ReadsExpr L r own a)
    (hb : D.ReadsExpr L r own b) (hc : ∀ e ∈ c, D.ReadsExpr L r own e) :
    D.ReadsExpr L r own (.like a b c) := by
  intro hclean
  rw [Expr.trail_like, List.forall_mem_cons, List.forall_mem_append, List.forall_mem_append]
    at hclean
  obtain ⟨-, ⟨hca, hcb⟩, hcc⟩ := hclean
  rw [Expr.redact, redactExpr?_eq_map, h.exprPiece_like, h.exprPiece_like, Option.map_map,
    Expr.trail_like, List.flatMap_cons, List.flatMap_append, List.flatMap_append,
    List.flatMap_assoc]
  have hsubject := (ha hca).append_word " LIKE " (by decide)
  exact (hsubject.append (hb hcb)).append (.led " ESCAPE " (by decide) (part?_alike hc hcc))

theorem expr_member (a : Expr X) (values : List (Expr X)) (negated : Bool)
    (ha : D.ReadsExpr L r own a) (hvalues : ∀ v ∈ values, D.ReadsExpr L r own v) :
    D.ReadsExpr L r own (.member a values negated) := by
  intro hclean
  rw [Expr.trail_member, List.forall_mem_cons, List.forall_mem_append] at hclean
  obtain ⟨-, hca, hcvalues⟩ := hclean
  rw [Expr.redact, redactExprs_eq_map, h.exprPiece_member, h.exprPiece_member, List.map_map,
    Expr.trail_member, List.flatMap_cons, List.flatMap_append, List.flatMap_assoc]
  simp only [Piece.append_assoc]
  have hparts := Alike.separated ", " (by decide) (parts_alike hvalues hcvalues)
  have hin := hparts.parenthesized.after_settled.before_loose.word_append " IN " (by decide)
  exact ((ha hca).operand a).append ((Alike.textIf negated " NOT" (by decide) .loose).append hin)

theorem expr_choice (a : Option (Expr X)) (branches : List (Branch X)) (c : Option (Expr X))
    (type : Option SqlType) (ha : ∀ e ∈ a, D.ReadsExpr L r own e)
    (hbranches : ∀ b ∈ branches, D.ReadsExpr L r own b.test ∧ D.ReadsExpr L r own b.result)
    (hc : ∀ e ∈ c, D.ReadsExpr L r own e) :
    D.ReadsExpr L r own (.choice a branches c type) := by
  intro hclean
  rw [Expr.trail_choice, List.forall_mem_cons, List.forall_mem_append, List.forall_mem_append]
    at hclean
  obtain ⟨-, ⟨hca, hcbranches⟩, hcc⟩ := hclean
  have hparts : ∀ b ∈ branches, Alike L .loose .loose (D.branchPiece b) (D.branchPiece b.redact)
      ((b.test.trail r ++ b.result.trail r).flatMap Stop.quoted) := by
    intro b hb
    exact branch_alike (hbranches b hb).1 (hbranches b hb).2
      (List.forall_mem_flatMap.1 hcbranches b hb)
  rw [Expr.redact, redactExpr?_eq_map, redactExpr?_eq_map, redactBranches_eq_map,
    h.exprPiece_choice, h.exprPiece_choice, Option.map_map, Option.map_map, List.map_map,
    Expr.trail_choice, List.flatMap_cons, List.flatMap_append, List.flatMap_append,
    List.flatMap_assoc, List.flatMap_assoc, List.flatMap_assoc]
  have hcase : Alike L .settled .settled (text "CASE") (text "CASE") [] := .text "CASE" (by decide)
  have hsubject := Alike.led " " (by decide) (part?_alike ha hca)
  have hotherwise := Alike.led " ELSE " (by decide) (part?_alike hc hcc)
  have hall := ((hcase.append hsubject.after_settled).append (.inOrder hparts)).append hotherwise
  exact (hall.append_word " END" (by decide)).before_loose

theorem expr_existence (q : Query X) (negated : Bool) (hq : D.ReadsQuery L r own q) :
    D.ReadsExpr L r own (.existence q negated) := by
  intro hclean
  obtain ⟨-, hcq⟩ := List.forall_mem_cons.1 hclean
  rw [Expr.redact, h.exprPiece_existence, h.exprPiece_existence, Expr.trail_existence,
    List.flatMap_cons]
  simp only [Piece.append_assoc]
  have hexists := (hq hcq).parenthesized.after_settled.word_append "EXISTS " (by decide)
  have hnot := (Alike.textIf negated "NOT " (by decide) .loose).append hexists
  exact hnot.after_settled.before_loose

theorem column_alike {c : OutputColumn X} (hexpr : D.ReadsExpr L r own c.expr)
    (hclean : ∀ stop ∈ c.expr.trail r ++ c.label.toList.map .label, stop.IsClean own) :
    Alike L .settled .loose (D.columnPiece c) (D.columnPiece c.redact)
      ((c.expr.trail r).flatMap Stop.quoted ++ c.label.toList.map Token.identifier) := by
  obtain ⟨hcexpr, -⟩ := List.forall_mem_append.1 hclean
  exact (hexpr hcexpr).append (h.label_alike c.label)

omit h in
theorem sortKey_alike {k : SortKey X} (hexpr : D.ReadsExpr L r own k.expr)
    (hclean : ∀ stop ∈ k.expr.trail r, stop.IsClean own) :
    Alike L .settled .loose (D.sortKeyPiece k) (D.sortKeyPiece k.redact)
      ((k.expr.trail r).flatMap Stop.quoted) := by
  rw [← List.append_nil ((k.expr.trail r).flatMap Stop.quoted)]
  exact (hexpr hclean).append (.textIf (!k.ascending) " DESC" (by decide) .loose)

/-- The restriction of the rows, on a line of its own if there is one. -/
theorem rowLimit_line (q : Query X) (hlimit : ∀ e ∈ q.limit, D.ReadsExpr L r own e)
    (hoffset : ∀ e ∈ q.offset, D.ReadsExpr L r own e)
    (hclean : ∀ stop ∈ q.rowLimitTrail r, stop.IsClean own) :
    Alike L .loose .loose
      (Piece.led "\n" (if q.isLimited then some (D.rowLimitPiece q) else none))
      (Piece.led "\n" (if q.redact.isLimited then some (D.rowLimitPiece q.redact) else none))
      ((q.rowLimitTrail r).flatMap Stop.quoted) := by
  have hlimited : q.redact.isLimited = q.isLimited := by
    simp [Query.isLimited]
  have hquoted : ((q.rowLimitTrail r).flatMap Stop.quoted) =
      if q.isLimited then
        if r.limitFirst then
          q.limit.toList.flatMap (fun e => (e.trail r).flatMap Stop.quoted) ++
            q.offset.toList.flatMap (fun e => (e.trail r).flatMap Stop.quoted)
        else
          q.offset.toList.flatMap (fun e => (e.trail r).flatMap Stop.quoted) ++
            q.limit.toList.flatMap (fun e => (e.trail r).flatMap Stop.quoted)
      else [] := by
    unfold Query.rowLimitTrail
    split
    · rw [List.flatMap_cons]
      split <;> simp only [List.flatMap_append, List.flatMap_assoc] <;> rfl
    · rfl
  rw [hquoted, hlimited]
  cases hq : q.isLimited with
  | false => exact .empty .loose
  | true =>
    have hparts : (∀ stop ∈ q.limit.toList.flatMap (·.trail r), stop.IsClean own) ∧
        ∀ stop ∈ q.offset.toList.flatMap (·.trail r), stop.IsClean own := by
      rw [Query.rowLimitTrail, hq, if_pos rfl, List.forall_mem_cons] at hclean
      obtain ⟨-, hclean⟩ := hclean
      split at hclean
      · exact List.forall_mem_append.1 hclean
      · exact (List.forall_mem_append.1 hclean).symm
    have hredact : ∀ a : Option (Expr X),
        (a.map Expr.redact).map D.exprPiece = a.map fun e => D.exprPiece e.redact :=
      fun a => Option.map_map D.exprPiece Expr.redact a
    have halike := h.rowLimit_alike q.limit q.offset D.exprPiece (fun e => D.exprPiece e.redact)
      (fun e => (e.trail r).flatMap Stop.quoted) (part?_alike hlimit hparts.1)
      (part?_alike hoffset hparts.2)
    rw [if_pos rfl, if_pos rfl, if_pos rfl, h.rowLimitPiece_eq, h.rowLimitPiece_eq,
      Query.redact_limit, Query.redact_offset, hredact, hredact]
    exact halike.word_append "\n" (by decide)

/-- A query is read like its redaction if its parts are: the clauses come in the order of the
trail. -/
theorem query_clauses (q : Query X) (hcolumns : ∀ c ∈ q.columns, D.ReadsExpr L r own c.expr)
    (hsources : ∀ s ∈ q.sources, D.ReadsSource L r own s)
    (hpredicate : ∀ e ∈ q.predicate, D.ReadsExpr L r own e)
    (hgroupKeys : ∀ e ∈ q.groupKeys, D.ReadsExpr L r own e)
    (hgroupPredicate : ∀ e ∈ q.groupPredicate, D.ReadsExpr L r own e)
    (hsortKeys : ∀ k ∈ q.sortKeys, D.ReadsExpr L r own k.expr)
    (hlimit : ∀ e ∈ q.limit, D.ReadsExpr L r own e)
    (hoffset : ∀ e ∈ q.offset, D.ReadsExpr L r own e) : D.ReadsQuery L r own q := by
  intro hclean
  simp only [Query.trail_clauses, List.forall_mem_cons, List.forall_mem_append] at hclean
  obtain ⟨-, ⟨⟨⟨⟨⟨hccolumns, hcsources⟩, hcpredicate⟩, hcgroupKeys⟩, hcgroupPredicate⟩,
    hcsortKeys⟩, hcrowLimit⟩ := hclean
  have hcolumn : ∀ c ∈ q.columns, Alike L .settled .loose (D.columnPiece c)
      (D.columnPiece c.redact)
      ((c.expr.trail r).flatMap Stop.quoted ++ c.label.toList.map Token.identifier) := by
    intro c hc
    exact h.column_alike (hcolumns c hc) (List.forall_mem_flatMap.1 hccolumns c hc)
  have hsortKey : ∀ k ∈ q.sortKeys, Alike L .settled .loose (D.sortKeyPiece k)
      (D.sortKeyPiece k.redact) ((k.expr.trail r).flatMap Stop.quoted) := by
    intro k hk
    exact sortKey_alike (hsortKeys k hk) (List.forall_mem_flatMap.1 hcsortKeys k hk)
  have hselected : Alike L .settled .loose
      (if q.columns.isEmpty then text "1"
        else Piece.separated ", " (q.columns.map D.columnPiece))
      (if q.columns.isEmpty then text "1"
        else Piece.separated ", " (q.columns.map fun c => D.columnPiece c.redact))
      (q.columns.flatMap fun c =>
        (c.expr.trail r).flatMap Stop.quoted ++ c.label.toList.map Token.identifier) := by
    cases hempty : q.columns with
    | nil => exact (Alike.text "1" (by decide)).before_loose
    | cons c columns => exact .separated ", " (by decide) (hempty ▸ hcolumn)
  have hselect : Alike L .settled .settled (text "SELECT ") (text "SELECT ") [] :=
    .text "SELECT " (by decide)
  have hdistinct := Alike.textIf (L := L) q.distinct "DISTINCT " (by decide) .settled
  have hfrom := Alike.clause "\nFROM " "\n" (by decide) (by decide)
    (parts_alike hsources hcsources)
  have hwhere := Alike.led "\nWHERE " (by decide) (part?_alike hpredicate hcpredicate)
  have hgroup := Alike.clause "\nGROUP BY " ", " (by decide) (by decide)
    (parts_alike hgroupKeys hcgroupKeys)
  have hhaving := Alike.led "\nHAVING " (by decide) (part?_alike hgroupPredicate hcgroupPredicate)
  have horder := Alike.clause "\nORDER BY " ", " (by decide) (by decide) hsortKey
  have hlimited := h.rowLimit_line q hlimit hoffset hcrowLimit
  rw [h.queryPiece_clauses, h.queryPiece_clauses, Query.trail_clauses, List.flatMap_cons]
  simp only [List.flatMap_append, List.flatMap_assoc, Stop.quoted_labels, Query.redact_distinct,
    Query.redact_columns, Query.redact_sources, Query.redact_predicate, Query.redact_groupKeys,
    Query.redact_groupPredicate, Query.redact_sortKeys, List.isEmpty_map, List.map_map,
    Option.map_map]
  exact (((((((hselect.append hdistinct).append hselected).append hfrom).append hwhere).append
    hgroup).append hhaving).append horder).append hlimited

omit h in
/-- A join is read like its redaction if its source and its condition are. -/
theorem join_alike {s : Source X} {condition : Expr X} (hs : D.ReadsSource L r own s)
    (hcondition : D.ReadsExpr L r own condition) (word : String) (hword : Text.isWord word = true)
    (hclean : ∀ stop ∈ s.trail r ++ condition.trail r, stop.IsClean own) :
    Alike L .settled .loose
      (text word ++ D.sourcePiece s ++ text " ON " ++ D.exprPiece condition)
      (text word ++ D.sourcePiece s.redact ++ text " ON " ++ D.exprPiece condition.redact)
      ((s.trail r ++ condition.trail r).flatMap Stop.quoted) := by
  obtain ⟨hcs, hccondition⟩ := List.forall_mem_append.1 hclean
  have hsource := ((hs hcs).word_append word hword).append_word " ON " (by decide)
  rw [List.flatMap_append]
  exact (hsource.append (hcondition hccondition)).after_settled

/-- Each construct is read like its redaction, if its parts are. -/
theorem steps :
    Tree.Steps (D.ReadsExpr L r own) (D.ReadsQuery L r own) (D.ReadsSource L r own) where
  literal := h.expr_literal
  parameter name type := by
    intro hclean
    rw [Expr.redact, h.exprPiece_parameter]
    exact (Alike.text name (hclean _ List.mem_cons_self name List.mem_cons_self)).before_loose
  column table name type := by
    intro _
    rw [Expr.redact, h.exprPiece_column, h.exprPiece_column, Expr.trail_column,
      List.flatMap_singleton]
    exact h.qualified_alike table name
  raw sql := by
    intro hclean
    rw [Expr.redact, h.exprPiece_raw]
    exact (Alike.text sql (hclean _ List.mem_cons_self sql List.mem_cons_self)).before_loose
  call := h.expr_call
  unary op a type ha := by
    intro hclean
    obtain ⟨hcop, hca⟩ := List.forall_mem_cons.1 hclean
    rw [Expr.redact, h.exprPiece_unary, h.exprPiece_unary]
    exact h.unary_alike op a type _ _ _ hcop (ha hca)
  binary op a b kind type ha hb := by
    intro hclean
    obtain ⟨-, hcparts⟩ := List.forall_mem_cons.1 hclean
    obtain ⟨hca, hcb⟩ := List.forall_mem_append.1 hcparts
    rw [Expr.redact, h.exprPiece_binary, h.exprPiece_binary, Expr.trail_binary, List.flatMap_cons,
      List.flatMap_append]
    have hparts := h.binary_alike op a b kind _ _ _ _ _ _ (ha hca) (hb hcb)
    -- The node itself quotes nothing.
    exact hparts
  like := h.expr_like
  member := h.expr_member
  choice := h.expr_choice
  existence := h.expr_existence
  scalar q hq := by
    intro hclean
    obtain ⟨-, hcq⟩ := List.forall_mem_cons.1 hclean
    rw [Expr.redact, h.exprPiece_scalar, h.exprPiece_scalar]
    exact (hq hcq).parenthesized.after_settled.before_loose
  nullary node := by
    intro hclean
    rw [Expr.redact, h.exprPiece_nullary]
    exact h.nullary_alike node (hclean _ List.mem_cons_self)
  dialectUnary node a ha := by
    intro hclean
    obtain ⟨hcnode, hca⟩ := List.forall_mem_cons.1 hclean
    rw [Expr.redact, h.exprPiece_dialectUnary, h.exprPiece_dialectUnary]
    exact h.dialectUnary_alike node a _ _ _ hcnode (ha hca)
  dialectBinary node a b ha hb := by
    intro hclean
    obtain ⟨-, hcparts⟩ := List.forall_mem_cons.1 hclean
    obtain ⟨hca, hcb⟩ := List.forall_mem_append.1 hcparts
    rw [Expr.redact, h.exprPiece_dialectBinary, h.exprPiece_dialectBinary,
      Expr.trail_dialectBinary, List.flatMap_cons, List.flatMap_append]
    have hparts := h.dialectBinary_alike node _ _ _ _ _ _ (ha hca) (hb hcb)
    exact hparts
  variadic node operands hoperands := by
    intro hclean
    rw [Expr.trail_variadic, List.forall_mem_cons] at hclean
    rw [Expr.redact, redactExprs_eq_map, h.exprPiece_variadic, h.exprPiece_variadic,
      Expr.trail_variadic, List.flatMap_cons, List.flatMap_assoc, List.map_map (f := Expr.redact)]
    exact h.variadic_alike node operands _ _ _ (parts_alike hoperands hclean.2)
  query := h.query_clauses
  table schema name label := by
    intro _
    rw [Source.redact, h.sourcePiece_table, h.sourcePiece_table, Source.trail_table,
      List.flatMap_singleton, Stop.quoted, List.map_append]
    exact (h.qualified_alike schema name).append (h.label_alike label)
  derived q label hq := by
    intro hclean
    obtain ⟨-, hcparts⟩ := List.forall_mem_cons.1 hclean
    obtain ⟨hcq, -⟩ := List.forall_mem_append.1 hcparts
    rw [Source.redact, h.sourcePiece_derived, h.sourcePiece_derived, Source.trail_derived,
      List.flatMap_cons, List.flatMap_append, List.flatMap_singleton]
    have hquery := (hq hcq).parenthesized.after_settled.before_loose
    exact hquery.append (h.label_alike (some label))
  innerJoin s condition hs hcondition := by
    intro hclean
    obtain ⟨-, hcparts⟩ := List.forall_mem_cons.1 hclean
    rw [Source.redact, h.sourcePiece_innerJoin, h.sourcePiece_innerJoin]
    exact join_alike hs hcondition "INNER JOIN " (by decide) hcparts
  leftJoin s condition hs hcondition := by
    intro hclean
    obtain ⟨-, hcparts⟩ := List.forall_mem_cons.1 hclean
    rw [Source.redact, h.sourcePiece_leftJoin, h.sourcePiece_leftJoin]
    exact join_alike hs hcondition "LEFT JOIN " (by decide) hcparts
  crossJoin s hs := by
    intro hclean
    obtain ⟨-, hcs⟩ := List.forall_mem_cons.1 hclean
    rw [Source.redact, h.sourcePiece_crossJoin, h.sourcePiece_crossJoin]
    exact ((hs hcs).word_append "CROSS JOIN " (by decide)).after_settled
  crossApply s hs := by
    intro hclean
    obtain ⟨-, hcs⟩ := List.forall_mem_cons.1 hclean
    rw [Source.redact, h.sourcePiece_crossApply, h.sourcePiece_crossApply]
    exact h.crossApply_alike _ _ _ (hs hcs)
  outerApply s hs := by
    intro hclean
    obtain ⟨-, hcs⟩ := List.forall_mem_cons.1 hclean
    rw [Source.redact, h.sourcePiece_outerApply, h.sourcePiece_outerApply]
    exact h.outerApply_alike _ _ _ (hs hcs)

end Dialect.QuotesBy

end SqlScribe
