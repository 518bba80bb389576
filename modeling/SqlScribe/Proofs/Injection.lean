import SqlScribe.Proofs.DialectPiece
import SqlScribe.Proofs.Quoting

/-!
# No contents leak out of their quotes

Whatever stands in the strings and names of a tree, a reader of its text who knows only the quotes
of the dialect finds it again, unchanged and in its place, and finds nothing of it anywhere else
(`Dialect.Confines`). Only the verbatim texts of the tree have to be free of quotes. Standard SQL
and MySQL, with the cast rules of MySQL, both confine contents in this sense.
-/

namespace SqlScribe

open Emit Piece Lexis

variable {X : Signature}

/-! ## Standard SQL -/

namespace Standard

/-- The type of a conversion is written as it stands. -/
def own : Stop X → List String
  | .expr (.unary .convert _ (some type)) => [type.name]
  | _ => []

end Standard

/-- A name or a type between two words. -/
theorem Text.isWord_between (before name after : String) (hbefore : isWord before = true)
    (hname : isQuoteFree name = true) (hafter : isQuoteFree after = true) :
    isWord (before ++ name ++ after) = true := by
  unfold isWord at hbefore ⊢
  rw [Bool.and_eq_true, bne_iff_ne] at hbefore
  simp [hbefore.1, hbefore.2, hname, hafter]

namespace Piece.Alike

variable {L : Lexis} {p p' q q' : Piece} {ps qs : List Token}

/-- A cast to a target without quotes. -/
theorem cast {target : String} (htarget : Text.isQuoteFree target = true)
    (hp : Alike L .settled .loose p p' ps) :
    Alike L .loose .settled (Piece.text "CAST(" ++ p ++ Piece.text (" AS " ++ target ++ ")"))
      (Piece.text "CAST(" ++ p' ++ Piece.text (" AS " ++ target ++ ")")) ps := by
  have hword := Text.isWord_between " AS " target ")" (by decide) htarget (by decide)
  exact (hp.word_append "CAST(" (by decide)).append_word _ hword

/-- An operator between two operands. -/
theorem binary (op : BinaryOp) (a b : Expr X) (hp : Alike L .settled .loose p p' ps)
    (hq : Alike L .settled .loose q q' qs) :
    Alike L .settled .loose
      (Piece.operand a p ++ Piece.text (" " ++ op.token ++ " ") ++ Piece.operand b q)
      (Piece.operand a.redact p' ++ Piece.text (" " ++ op.token ++ " ") ++
        Piece.operand b.redact q') (ps ++ qs) := by
  have htoken : Text.isWord (" " ++ op.token ++ " ") = true := by
    cases op <;> decide
  exact ((hp.operand a).append_word _ htoken).append (hq.operand b)

end Piece.Alike

namespace Standard

/-- The standard operators on one operand keep it alike, if the type of a conversion has no quotes.
-/
theorem unary_alike {L : Lexis} (op : UnaryOp) (a : Expr X) (type : Option SqlType)
    {p p' : Piece} {ps : List Token}
    (htype : ∀ target, op = .convert → type = some target → Text.isQuoteFree target.name = true)
    (hp : Alike L .settled .loose p p' ps) :
    Alike L .settled .loose (unary op ⟨a, emit p⟩ type).piece
      (unary op ⟨a.redact, emit p'⟩ type).piece ps := by
  cases op with
  | not =>
    rw [unary_not_emit, unary_not_emit, piece_emit, piece_emit]
    have hbody := hp.parenthesized.after_settled.before_loose
    exact (hbody.word_append "NOT " (by decide)).after_settled
  | negate =>
    rw [unary_negate_emit, unary_negate_emit, piece_emit, piece_emit]
    exact ((hp.operand a).word_append "-" (by decide)).after_settled
  | convert =>
    cases type with
    | none =>
      rw [unary_convert_none, unary_convert_none, piece_emit]
      exact .fail missingType
    | some target =>
      rw [unary_convert_emit, unary_convert_emit, piece_emit, piece_emit]
      exact (hp.cast (htype target rfl rfl)).after_settled.before_loose
  | isNull =>
    rw [unary_isNull_emit, unary_isNull_emit, piece_emit, piece_emit]
    exact ((hp.operand a).append_word " IS NULL" (by decide)).before_loose
  | isNotNull =>
    rw [unary_isNotNull_emit, unary_isNotNull_emit, piece_emit, piece_emit]
    exact ((hp.operand a).append_word " IS NOT NULL" (by decide)).before_loose

/-- The standard restriction of rows keeps its parts alike, in the order in which it writes them. -/
theorem rowLimit_alike {L : Lexis} (limit offset : Option (Expr X)) (f g : Expr X → Piece)
    (quoted : Expr X → List Token)
    (hlimit : ∀ e ∈ limit, Alike L .settled .loose (f e) (g e) (quoted e))
    (hoffset : ∀ e ∈ offset, Alike L .settled .loose (f e) (g e) (quoted e)) :
    Alike L .settled .loose (rowLimit ((limit.map f).map emit) ((offset.map f).map emit)).piece
      (rowLimit ((limit.map g).map emit) ((offset.map g).map emit)).piece
      (offset.toList.flatMap quoted ++ limit.toList.flatMap quoted) := by
  have hoffset' : Alike L .settled .settled
      ((offset.map f).elim {} fun p => text "OFFSET " ++ p ++ text " ROWS")
      ((offset.map g).elim {} fun p => text "OFFSET " ++ p ++ text " ROWS")
      (offset.toList.flatMap quoted) := by
    cases offset with
    | none => exact .empty .settled
    | some e =>
      rw [Option.toList_some, List.flatMap_singleton]
      have hbody := (hoffset e rfl).word_append "OFFSET " (by decide)
      exact (hbody.append_word " ROWS" (by decide)).after_settled
  have hlimit' : Alike L .settled .settled
      ((limit.map f).elim {} fun p =>
        textIf offset.isSome " " ++ text "FETCH FIRST " ++ p ++ text " ROWS ONLY")
      ((limit.map g).elim {} fun p =>
        textIf offset.isSome " " ++ text "FETCH FIRST " ++ p ++ text " ROWS ONLY")
      (limit.toList.flatMap quoted) := by
    cases limit with
    | none => exact .empty .settled
    | some e =>
      rw [Option.toList_some, List.flatMap_singleton]
      have hblank := Alike.textIf (L := L) offset.isSome " " (by decide) .settled
      have hfetch := hblank.append (.text "FETCH FIRST " (by decide))
      exact (hfetch.append (hlimit e rfl)).append_word " ROWS ONLY" (by decide)
  rw [rowLimit_emit, rowLimit_emit, piece_emit, piece_emit, Option.isSome_map, Option.isSome_map]
  exact (hoffset'.append hlimit').before_loose

end Standard

/-- Standard SQL quotes by its lexis. -/
theorem Dialect.ansi_quotesBy :
    Dialect.ansi.QuotesBy Standard.lexis Standard.route Standard.own where
  toWraps := ansi_plain
  quote_reads := Standard.reads_quote
  escape_reads := Standard.reads_escape
  call_skipped name args niladic hskips := by
    obtain rfl : niladic = true := hskips
    rfl
  call_written name ps niladic hskips := by
    obtain rfl : niladic = false := hskips
    exact Standard.call_emit name ps false
  unary_alike op a type p p' ps hclean hp := by
    refine Standard.unary_alike op a type ?_ hp
    rintro target rfl rfl
    exact hclean target.name List.mem_cons_self
  binary_alike op a b kind p p' ps q q' qs hp hq := by
    change Alike _ _ _ (Standard.binary _ _ _).piece (Standard.binary _ _ _).piece _
    rw [Standard.binary_emit, Standard.binary_emit, piece_emit, piece_emit]
    exact .binary op a b hp hq
  rowLimit_alike := Standard.rowLimit_alike
  crossApply_alike p p' ps hp := by
    change Alike _ _ _ (Standard.crossApply _).piece (Standard.crossApply _).piece _
    rw [Standard.crossApply_emit, Standard.crossApply_emit, piece_emit, piece_emit]
    exact (hp.word_append "CROSS APPLY " (by decide)).after_settled
  outerApply_alike p p' ps hp := by
    change Alike _ _ _ (Standard.outerApply _).piece (Standard.outerApply _).piece _
    rw [Standard.outerApply_emit, Standard.outerApply_emit, piece_emit, piece_emit]
    exact (hp.word_append "OUTER APPLY " (by decide)).after_settled
  nullary_alike := nofun
  dialectUnary_alike := nofun
  dialectBinary_alike := nofun
  variadic_alike := nofun

/-! ## MySQL -/

namespace MySql

/-- The character set and the collation of a comparison are written as they stand. -/
def own : Stop signature → List String
  | .expr (.dialectUnary (.collate charset collation) _) => [charset, collation]
  | _ => []

/-- A cast is written with the keyword of a rule, or with one of two others. -/
theorem CastRules.keyword_mem_of_planFor {rules : CastRules} {support : CastSupport}
    {name : String} {plan : CastPlan} (hplan : rules.planFor support name = .ok plan) :
    plan.keyword ∈ Workaround.widestDecimal :: unsigned :: rules.map (·.keyword) := by
  unfold planFor keyword? at hplan
  cases hrule : rules.find? (·.covers (String.ofList (Text.toLower name.toList))) with
  | none => simp [hrule] at hplan
  | some rule =>
    simp only [hrule, Option.map_some, Except.ok.injEq] at hplan
    subst hplan
    have hmem : rule.keyword ∈ rules.map (·.keyword) :=
      List.mem_map_of_mem (List.mem_of_find?_eq_some hrule)
    unfold CastRules.plan
    split
    · exact List.mem_cons_self
    · refine List.mem_cons_of_mem _ ?_
      change signedness _ _ ∈ _
      unfold signedness
      split
      · exact List.mem_cons_self
      · exact List.mem_cons_of_mem _ hmem

/-- No keyword of the rules has a quote in it. -/
def CastRules.QuoteFree (rules : CastRules) : Prop :=
  ∀ rule ∈ rules, Text.isQuoteFree rule.keyword = true

/-- No keyword of MySQL's rules has a quote in it. -/
theorem CastRules.mySql_quoteFree : CastRules.mySql.QuoteFree := by
  unfold CastRules.QuoteFree
  decide

/-- The keyword of a plan has no quote in it. -/
theorem CastRules.QuoteFree.plan {rules : CastRules} (h : rules.QuoteFree) {support : CastSupport}
    {name : String} {plan : CastPlan} (hplan : rules.planFor support name = .ok plan) :
    Text.isQuoteFree plan.keyword = true := by
  have hall : ∀ keyword ∈ Workaround.widestDecimal :: unsigned :: rules.map (·.keyword),
      Text.isQuoteFree keyword = true := by
    simp only [List.forall_mem_cons, List.forall_mem_map]
    exact ⟨by decide, by decide, h⟩
  exact hall _ (keyword_mem_of_planFor hplan)

/-- A cast keeps its value alike, if its keyword has no quote in it. -/
theorem castPiece_alike {L : Lexis} {plan : CastPlan}
    (hplan : Text.isQuoteFree plan.keyword = true) {p p' : Piece} {ps : List Token}
    (hp : Alike L .settled .loose p p' ps) :
    Alike L .settled .loose (castPiece plan p) (castPiece plan p') ps := by
  cases plan with
  | direct keyword => exact (hp.cast hplan).after_settled.before_loose
  | throughDecimal requested =>
    have hcast := (hp.cast hplan).after_settled.before_loose
    have hsum := (hcast.append_word " + 0e0" (by decide)).before_loose
    exact hsum.parenthesized.after_settled.before_loose

/-- A conversion keeps its value alike: its plan, or its error, does not depend on the value. -/
theorem convertPiece_alike {L : Lexis} {rules : CastRules} (hrules : rules.QuoteFree)
    (support : CastSupport) (type : SqlType) {p p' : Piece} {ps : List Token}
    (hp : Alike L .settled .loose p p' ps) :
    Alike L .settled .loose (convertPiece rules support p type)
      (convertPiece rules support p' type) ps := by
  unfold convertPiece
  cases hplan : rules.planFor support type.name with
  | error e => exact .fail e
  | ok plan =>
    have hnothing : ((plan.events type.name).flatMap fun _ => ([] : List Token)) = [] := by simp
    have hevents : Alike L .settled .settled
        (Piece.inOrder ((plan.events type.name).map event))
        (Piece.inOrder ((plan.events type.name).map event)) [] :=
      hnothing ▸ .inOrder fun e _ => .event e .settled
    exact hevents.append (castPiece_alike (hrules.plan hplan) hp)

/-- An operator keeps its operand alike. -/
theorem unary_alike {L : Lexis} {rules : CastRules} (hrules : rules.QuoteFree)
    (support : CastSupport) (op : UnaryOp) (a : Expr signature) (type : Option SqlType)
    {p p' : Piece} {ps : List Token} (hp : Alike L .settled .loose p p' ps) :
    Alike L .settled .loose (unary rules support op ⟨a, emit p⟩ type).piece
      (unary rules support op ⟨a.redact, emit p'⟩ type).piece ps := by
  by_cases h : op = .convert → type = none
  · rw [unary_eq_standard rules support _ h, unary_eq_standard rules support _ h]
    refine Standard.unary_alike op a type ?_ hp
    rintro target rfl rfl
    exact nomatch h rfl
  · obtain ⟨rfl, hsome⟩ := Classical.not_imp.1 h
    obtain ⟨type, rfl⟩ := Option.ne_none_iff_exists'.1 hsome
    rw [unary_convert_emit, unary_convert_emit, piece_emit, piece_emit]
    exact convertPiece_alike hrules support type hp

theorem isConcatenation_redact (op : BinaryOp) (a b : Expr signature) (kind : ScalarKind) :
    isConcatenation op a.redact b.redact kind = isConcatenation op a b kind := by
  simp [isConcatenation]

theorem binary_alike {L : Lexis} (op : BinaryOp) (a b : Expr signature) (kind : ScalarKind)
    {p p' q q' : Piece} {ps qs : List Token} (hp : Alike L .settled .loose p p' ps)
    (hq : Alike L .settled .loose q q' qs) :
    Alike L .settled .loose (binary op ⟨a, emit p⟩ ⟨b, emit q⟩ kind).piece
      (binary op ⟨a.redact, emit p'⟩ ⟨b.redact, emit q'⟩ kind).piece (ps ++ qs) := by
  rw [binary_emit, binary_emit, piece_emit, piece_emit, isConcatenation_redact]
  split
  · have hconcat : Alike L .settled .settled (text "CONCAT") (text "CONCAT") [] :=
      .text "CONCAT" (by decide)
    have hargs : Alike L .settled .loose (Piece.separated ", " [p, q])
        (Piece.separated ", " [p', q']) (ps ++ qs) := by
      have hsecond := hp.append (hq.word_append ", " (by decide))
      simpa [Piece.separated, Piece.inOrder] using hsecond
    exact hconcat.append hargs.parenthesized.after_settled.before_loose
  · exact .binary op a b hp hq

/-- A limit keeps its parts alike, in the order in which MySQL writes them. -/
theorem rowLimit_alike {L : Lexis} (limit offset : Option (Expr signature))
    (f g : Expr signature → Piece) (quoted : Expr signature → List Token)
    (hlimit : ∀ e ∈ limit, Alike L .settled .loose (f e) (g e) (quoted e))
    (hoffset : ∀ e ∈ offset, Alike L .settled .loose (f e) (g e) (quoted e)) :
    Alike L .settled .loose (rowLimit ((limit.map f).map emit) ((offset.map f).map emit)).piece
      (rowLimit ((limit.map g).map emit) ((offset.map g).map emit)).piece
      (limit.toList.flatMap quoted ++ offset.toList.flatMap quoted) := by
  rw [rowLimit_emit, rowLimit_emit, piece_emit, piece_emit]
  cases limit with
  | none =>
    cases offset with
    | none => exact (Alike.empty .settled).before_loose
    | some e =>
      simp only [Option.map_none, Option.map_some, Piece.append_assoc, Option.toList_none,
        Option.toList_some, List.flatMap_nil, List.flatMap_singleton, List.nil_append]
      have hevent := Alike.event (L := L) .limitSupplied .settled
      have hlargest : Text.isWord ("LIMIT " ++ Workaround.largestLimitText) = true := by decide
      have hbody := (hoffset e rfl).word_append " OFFSET " (by decide)
      exact hevent.append (hbody.after_settled.word_append _ hlargest).after_settled
  | some e =>
    have hfirst := ((hlimit e rfl).word_append "LIMIT " (by decide)).after_settled
    cases offset with
    | none => simpa using hfirst
    | some e' =>
      simp only [Option.map_some, Option.toList_some, List.flatMap_singleton]
      exact (hfirst.append_word " OFFSET " (by decide)).append (hoffset e' rfl)

theorem lateral_alike {L : Lexis} (word : String) (hword : Text.isWord word = true) {p p' : Piece}
    {ps : List Token} (hp : Alike L .settled .loose p p' ps) :
    Alike L .settled .loose (lateral word (emit p)).piece (lateral word (emit p')).piece ps := by
  rw [lateral_emit, lateral_emit, piece_emit, piece_emit]
  have hjoin := (hp.word_append word hword).append_word " ON TRUE" (by decide)
  exact hjoin.after_settled.before_loose

/-- A comparison by a collation keeps its value alike, if the names in it have no quotes. -/
theorem collate_alike {L : Lexis} {charset collation : String}
    (hcharset : Text.isQuoteFree charset = true) (hcollation : Text.isQuoteFree collation = true)
    {p p' : Piece} {ps : List Token} (hp : Alike L .settled .loose p p' ps) :
    Alike L .settled .loose (collate charset collation (emit p)).piece
      (collate charset collation (emit p')).piece ps := by
  have hword : Text.isWord (" USING " ++ charset ++ ") COLLATE " ++ collation) = true := by
    have hfree : Text.isQuoteFree (") COLLATE " ++ collation) = true := by
      rw [Text.isQuoteFree_append, hcollation]
      decide
    rw [String.append_assoc]
    exact Text.isWord_between " USING " charset _ (by decide) hcharset hfree
  rw [collate_emit, collate_emit, piece_emit, piece_emit]
  split
  · exact .fail _
  · split
    · exact .fail _
    · exact ((hp.word_append "CONVERT(" (by decide)).append_word _ hword).after_settled.before_loose

theorem dialectBinary_alike {L : Lexis} (node : BinaryNode) {p p' q q' : Piece}
    {ps qs : List Token} (hp : Alike L .settled .loose p p' ps)
    (hq : Alike L .settled .loose q q' qs) :
    Alike L .settled .loose (dialectBinary node (emit p) (emit q)).piece
      (dialectBinary node (emit p') (emit q')).piece (ps ++ qs) := by
  cases node with
  | regexp =>
    rw [regexp_emit, regexp_emit, piece_emit, piece_emit]
    exact (hp.append_word " REGEXP " (by decide)).append hq
  | integerDivision =>
    rw [integerDivision_emit, integerDivision_emit, piece_emit, piece_emit]
    have hleft := hp.parenthesized.before_loose.append_word " DIV " (by decide)
    exact (hleft.append hq.parenthesized.after_settled).after_settled.before_loose
  | nonOptimizedEqual =>
    rw [nonOptimizedEqual_eq_emit, nonOptimizedEqual_eq_emit, piece_emit]
    exact .fail _

/-- MySQL quotes by its lexis, if no keyword of its rules has a quote in it. -/
theorem dialect_quotesBy (support : CastSupport) {rules : CastRules} (hrules : rules.QuoteFree) :
    (dialect support rules).QuotesBy lexis route own where
  toWraps := dialect_plain support rules
  quote_reads := reads_quote
  escape_reads := reads_escape
  call_skipped name args niladic hskips := by
    change call name args niladic = _
    unfold call Standard.call
    obtain hsigil | rfl := Bool.or_eq_true_iff.1 hskips
    · rw [if_pos hsigil]
    · split <;> rfl
  call_written name ps niladic hskips := by
    change call name (ps.map emit) niladic = _
    change (Text.startsWith name variableSigil || niladic) = false at hskips
    rw [call_emit, hskips]
    rfl
  unary_alike op a type p p' ps _ hp := unary_alike hrules support op a type hp
  binary_alike op a b kind p p' ps q q' qs hp hq := binary_alike op a b kind hp hq
  rowLimit_alike := rowLimit_alike
  crossApply_alike p p' ps hp := lateral_alike "JOIN LATERAL " (by decide) hp
  outerApply_alike p p' ps hp := lateral_alike "LEFT JOIN LATERAL " (by decide) hp
  nullary_alike := nofun
  dialectUnary_alike
    | .collate charset collation, a, p, p', ps, hclean, hp =>
      collate_alike (hclean charset List.mem_cons_self)
        (hclean collation (List.mem_cons_of_mem _ List.mem_cons_self)) hp
  dialectBinary_alike node p p' ps q q' qs hp hq := dialectBinary_alike node hp hq
  variadic_alike
    | .sideBySide, operands, f, g, quoted, hoperands => by
      change Alike _ _ _ (variadic .sideBySide ((operands.map f).map emit)).piece
        (variadic .sideBySide ((operands.map g).map emit)).piece _
      rw [sideBySide_emit, sideBySide_emit, piece_emit, piece_emit]
      exact .separated " " (by decide) hoperands

end MySql

/-! ## Compiled texts -/

/-- The texts of trees of some kind keep the contents of strings and names inside their quotes. The
trees are compiled by `compile`, their stops are those of `trail`, and only clean trees matter. -/
structure Confines {α : Type} (L : Lexis) (own : Stop X → List String) (trail : α → List (Stop X))
    (redact : α → α) (compile : α → EmitM String) : Prop where
  /-- A text is read to its end, and what it quotes is what the stops quote, in their order. -/
  reads : ∀ e o text o', (∀ stop ∈ trail e, stop.IsClean own) → compile e o = .ok text o' →
    ∃ ts, L.lex text = some ts ∧ ts.filter Token.isQuoted = (trail e).flatMap Stop.quoted
  /-- Trees with one text have the same contents in the same order. -/
  same_text : ∀ e₁ e₂ o₁ o₂ text o₁' o₂', (∀ stop ∈ trail e₁, stop.IsClean own) →
    (∀ stop ∈ trail e₂, stop.IsClean own) → compile e₁ o₁ = .ok text o₁' →
    compile e₂ o₂ = .ok text o₂' →
    (trail e₁).flatMap Stop.quoted = (trail e₂).flatMap Stop.quoted
  /-- Trees that differ only in contents both have a text, and the texts differ only in what they
  quote. -/
  same_shape : ∀ e₁ e₂ o text₁ o₁, (∀ stop ∈ trail e₁, stop.IsClean own) →
    (∀ stop ∈ trail e₂, stop.IsClean own) → redact e₁ = redact e₂ → compile e₁ o = .ok text₁ o₁ →
    ∃ text₂ o₂, compile e₂ o = .ok text₂ o₂ ∧ ∃ ts₁ ts₂, L.lex text₁ = some ts₁ ∧
      L.lex text₂ = some ts₂ ∧ ts₁.map Token.blank = ts₂.map Token.blank

namespace Confines

variable {α : Type} {L : Lexis} {own : Stop X → List String} {trail : α → List (Stop X)}
  {redact : α → α} {compile : α → EmitM String} {piece : α → Piece}

/-- Trees that are read like their redactions keep their contents inside quotes. -/
theorem of_alike
    (hcompile : ∀ e o text, (∃ o', compile e o = .ok text o') ↔
      (piece e).error = none ∧ text = (piece e).sql)
    (halike : ∀ e, (∀ stop ∈ trail e, stop.IsClean own) →
      Alike L .settled .loose (piece e) (piece (redact e)) ((trail e).flatMap Stop.quoted)) :
    Confines L own trail redact compile := by
  have hreads : ∀ e o text o', (∀ stop ∈ trail e, stop.IsClean own) → compile e o = .ok text o' →
      ∃ ts, L.lex text = some ts ∧ ts.filter Token.isQuoted = (trail e).flatMap Stop.quoted := by
    intro e o text o' hclean hok
    obtain ⟨herror, rfl⟩ := (hcompile e o text).1 ⟨o', hok⟩
    obtain ⟨ts, _, hts, _, _, hquoted⟩ := (halike e hclean).reads herror
    exact ⟨ts, hts.lex_eq, hquoted⟩
  refine ⟨hreads, ?_, ?_⟩
  · intro e₁ e₂ o₁ o₂ text o₁' o₂' hclean₁ hclean₂ hok₁ hok₂
    obtain ⟨ts₁, hlex₁, hquoted₁⟩ := hreads e₁ o₁ text o₁' hclean₁ hok₁
    obtain ⟨ts₂, hlex₂, hquoted₂⟩ := hreads e₂ o₂ text o₂' hclean₂ hok₂
    obtain rfl : ts₁ = ts₂ := Option.some.inj (hlex₁.symm.trans hlex₂)
    exact hquoted₁.symm.trans hquoted₂
  · intro e₁ e₂ o text₁ o₁ hclean₁ hclean₂ hredact hok₁
    have h₁ := halike e₁ hclean₁
    have h₂ := halike e₂ hclean₂
    obtain ⟨herror₁, rfl⟩ := (hcompile e₁ o text₁).1 ⟨o₁, hok₁⟩
    -- Both trees fail like their redaction, which is one and the same.
    have herror₂ : (piece e₂).error = none := by
      rw [← h₂.error, ← hredact, h₁.error, herror₁]
    obtain ⟨o₂, hok₂⟩ := (hcompile e₂ o _).2 ⟨herror₂, rfl⟩
    obtain ⟨ts₁, us₁, hts₁, hus₁, hblank₁, -⟩ := h₁.reads herror₁
    obtain ⟨ts₂, us₂, hts₂, hus₂, hblank₂, -⟩ := h₂.reads herror₂
    have hus : us₁ = us₂ := by
      rw [hredact] at hus₁
      exact Option.some.inj (hus₁.lex_eq.symm.trans hus₂.lex_eq)
    refine ⟨_, o₂, hok₂, ts₁, ts₂, hts₁.lex_eq, hts₂.lex_eq, ?_⟩
    rw [← hblank₁, ← hblank₂, hus]

end Confines

namespace Dialect

variable {D : Dialect X} {L : Lexis} {r : Route} {own : Stop X → List String}

/-- A dialect that quotes by a lexis confines what expressions contain. -/
theorem QuotesBy.confines_exprs (h : D.QuotesBy L r own) :
    Confines L own (Expr.trail r) Expr.redact D.compileExpr :=
  .of_alike h.compileExpr_ok_iff h.steps.ofExpr

theorem QuotesBy.confines_queries (h : D.QuotesBy L r own) :
    Confines L own (Query.trail r) Query.redact D.compileQuery :=
  .of_alike h.compileQuery_ok_iff h.steps.ofQuery

end Dialect

/-- In MySQL on any server and in standard SQL, the texts of expressions and queries keep what
stands in strings and names inside quotes. -/
theorem contents_stay_quoted :
    (∀ support,
      Confines MySql.lexis MySql.own (Expr.trail MySql.route) Expr.redact
        (MySql.dialect support .mySql).compileExpr ∧
      Confines MySql.lexis MySql.own (Query.trail MySql.route) Query.redact
        (MySql.dialect support .mySql).compileQuery) ∧
    Confines Standard.lexis Standard.own (Expr.trail Standard.route) Expr.redact
      Dialect.ansi.compileExpr ∧
    Confines Standard.lexis Standard.own (Query.trail Standard.route) Query.redact
      Dialect.ansi.compileQuery := by
  refine ⟨fun support => ?_, Dialect.ansi_quotesBy.confines_exprs,
    Dialect.ansi_quotesBy.confines_queries⟩
  have hmySql := MySql.dialect_quotesBy support MySql.CastRules.mySql_quoteFree
  exact ⟨hmySql.confines_exprs, hmySql.confines_queries⟩

/-- A name with a backtick in it and a string that tries to end itself stay where they are, among a
call, a parameter, a number and a raw text, which are written as they stand and have no quotes. -/
theorem hostile_contents_stay_quoted :
    let hostile : Expr MySql.signature := .literal (.string "\\' OR 1 = 1 -- ") none
    let args : List (Expr MySql.signature) :=
      [.parameter ":p" none, .literal (.number "42") none, .raw "o.x", hostile]
    let e : Expr MySql.signature :=
      .like (.column none "t`" none) (.call "COALESCE" args false none) none
    let text := "`t``` LIKE COALESCE(:p, 42, o.x, '\\\\'' OR 1 = 1 -- ')"
    (∀ stop ∈ e.trail MySql.route, stop.IsClean MySql.own) ∧
      (MySql.dialect .all .mySql).compileExpr e {} = .ok text {} ∧
      ∃ ts, MySql.lexis.lex text = some ts ∧
        ts.filter Token.isQuoted =
          [.quoted .identifier ['t', '`'], .quoted .string "\\' OR 1 = 1 -- ".toList] := by
  intro hostile args e text
  have hsigil : Text.startsWith "COALESCE" MySql.variableSigil = false := by decide
  have hcall : Text.isQuoteFree "COALESCE" = true := by decide
  have hparameter : Text.isQuoteFree ":p" = true := by decide
  have hnumber : Text.isQuoteFree "42" = true := by decide
  have hraw : Text.isQuoteFree "o.x" = true := by decide
  have hclean : ∀ stop ∈ e.trail MySql.route, stop.IsClean MySql.own := by
    simp [e, args, hostile, MySql.route, hsigil, Stop.IsClean, Stop.verbatim, MySql.own, hcall,
      hparameter, hnumber, hraw]
  have hok : (MySql.dialect .all .mySql).compileExpr e {} = .ok text {} := rfl
  exact ⟨hclean, hok, (contents_stay_quoted.1 .all).1.reads e {} text {} hclean hok⟩

end SqlScribe
