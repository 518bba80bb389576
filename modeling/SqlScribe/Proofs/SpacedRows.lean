import SqlScribe.Proofs.Layout
import SqlScribe.Proofs.Quoting

/-!
# Rows that are spaced

Two texts that are harmless on their own can start a comment when they are put side by side: the
first ends with a minus sign and the second starts with one. A row of slots is `Spaced` when this
cannot happen in it, because there is a firm word between any two slots that are not words. A word
is firm if neither its first nor its last character can be part of an opener.

So an opener in the text of a spaced row stands in the text of one of its parts, and the text
starts with a minus sign if its first slot does (`Row.Spaced.opens`).
-/

namespace SqlScribe

open Piece Lexis Dialect

variable {X : Signature}

/-! ## Openers -/

/-- The two characters that start a comment. -/
inductive Opener where
  /-- `--`, up to the end of the line. -/
  | line
  /-- `/*`, up to the matching `*/`. -/
  | block
deriving DecidableEq

namespace Opener

/-- The character that a comment opens with. -/
def first : Opener → Char
  | line => '-'
  | block => '/'

/-- The character right behind it. -/
def second : Opener → Char
  | line => '-'
  | block => '*'

/-- The opener stands in the text. -/
def isIn (opener : Opener) (text : List Char) : Bool :=
  Text.occursIn [opener.first, opener.second] text

/-- The opener stands outside quotes. -/
def Occurs (opener : Opener) (ts : List Token) : Prop :=
  [.plain opener.first, .plain opener.second] <:+: ts

variable {opener : Opener} {ts us : List Token}

theorem not_occurs_nil (opener : Opener) : ¬opener.Occurs [] := by
  simp [Occurs]

theorem occurs_cons {t : Token} :
    opener.Occurs (t :: ts) ↔
      t = .plain opener.first ∧ ts.head? = some (.plain opener.second) ∨ opener.Occurs ts := by
  unfold Occurs
  rw [List.infix_cons_iff, List.cons_prefix_cons]
  cases ts with
  | nil => simp
  | cons u ts =>
    simp [List.cons_prefix_cons, eq_comm (a := t), eq_comm (a := u)]

/-- An opener in two texts side by side is in one of them or where they meet. -/
theorem occurs_append :
    opener.Occurs (ts ++ us) ↔ opener.Occurs ts ∨ opener.Occurs us ∨
      ts.getLast? = some (.plain opener.first) ∧ us.head? = some (.plain opener.second) := by
  induction ts with
  | nil => simp [not_occurs_nil]
  | cons t ts ih =>
    rw [List.cons_append, occurs_cons, ih, occurs_cons]
    cases ts with
    | nil =>
      have hnil := not_occurs_nil opener
      simp only [List.nil_append, List.head?_nil, List.getLast?_nil, List.getLast?_singleton,
        Option.some.injEq, hnil, reduceCtorEq, false_and, and_false, or_false, false_or]
      exact or_comm
    | cons u ts =>
      rw [List.getLast?_cons_cons, List.cons_append, List.head?_cons, List.head?_cons, or_assoc]

theorem isIn_cons {c : Char} {cs : List Char} :
    opener.isIn (c :: cs) = true ↔
      c = opener.first ∧ cs.head? = some opener.second ∨ opener.isIn cs = true := by
  unfold isIn
  rw [Text.occursIn, Bool.or_eq_true, List.isPrefixOf_iff_prefix, List.cons_prefix_cons,
    eq_comm (a := opener.first)]
  cases cs with
  | nil => simp
  | cons d cs => simp [List.cons_prefix_cons, eq_comm (a := opener.second)]

/-- Outside quotes, the openers are those of the text. -/
theorem occurs_map_plain (cs : List Char) :
    opener.Occurs (cs.map .plain) ↔ opener.isIn cs = true := by
  induction cs with
  | nil => simp [isIn, Text.occursIn, not_occurs_nil]
  | cons c cs ih =>
    rw [List.map_cons, occurs_cons, ih, isIn_cons, List.head?_map, Token.plain.injEq]
    cases cs.head? with
    | none => simp
    | some d => simp

end Opener

/-! ## Texts and words -/

/-- The text opens neither a quoted region nor a comment. -/
def Lexis.isInert (L : Lexis) (text : String) : Bool :=
  text.toList.all (fun c => (L.opens? c).isNone) &&
    [Opener.line, .block].all fun opener => !opener.isIn text.toList

/-- The word opens nothing, and no opener can be completed at its ends. -/
def Text.isFirm (word : String) : Bool :=
  isWord word && [Opener.line, .block].all fun opener => !opener.isIn word.toList &&
    word.toList.head? != some opener.second && word.toList.getLast? != some opener.first

theorem Opener.mem_all (opener : Opener) : opener ∈ [Opener.line, .block] := by
  cases opener <;> decide

namespace Text

variable {word : String}

theorem isWord_of_isFirm (h : isFirm word = true) : isWord word = true :=
  (Bool.and_eq_true_iff.1 h).1

theorem toList_ne_nil_of_isFirm (h : isFirm word = true) : word.toList ≠ [] := by
  intro hnil
  rw [String.toList_eq_nil_iff] at hnil
  subst hnil
  contradiction

/-- A firm word opens nothing itself and completes no opener at either end. -/
theorem ends_of_isFirm (h : isFirm word = true) (opener : Opener) :
    opener.isIn word.toList = false ∧ word.toList.head? ≠ some opener.second ∧
      word.toList.getLast? ≠ some opener.first := by
  have hends := List.all_eq_true.1 (Bool.and_eq_true_iff.1 h).2 opener opener.mem_all
  simpa [and_assoc] using hends

end Text

theorem Text.startsWith_minus_iff {text : String} :
    startsWith text "-" = true ↔ text.toList.head? = some '-' := by
  unfold startsWith
  cases text.toList with
  | nil => simp
  | cons c cs => simp [eq_comm (a := c)]

/-- If the piece does not fail, its text is read on its own. Outside its quotes, openers stand as
told, and so does a minus sign at the start. -/
def Piece.Opens (L : Lexis) (p : Piece) (occurs : Opener → Prop) (starts : Bool) : Prop :=
  p.error = none → ∃ ts, L.Reads .settled .loose p.sql.toList ts ∧
    (∀ opener : Opener, opener.Occurs ts ↔ occurs opener) ∧
    (ts.head? = some (.plain '-') ↔ starts = true)

namespace Piece.Opens

variable {L : Lexis} {p q : Piece} {occurs occurs' : Opener → Prop} {starts starts' : Bool}

theorem congr (h : Opens L p occurs starts) (hoccurs : ∀ opener, occurs opener ↔ occurs' opener) :
    Opens L p occurs' starts := by
  intro herror
  obtain ⟨ts, hts, hopens, hstarts⟩ := h herror
  exact ⟨ts, hts, fun opener => (hopens opener).trans (hoccurs opener), hstarts⟩

theorem fail (e : Error) : Opens L (.fail e) occurs starts := by
  rintro ⟨⟩

theorem events (events : List Event) (h : Opens L p occurs starts) :
    Opens L ({ events } ++ p) occurs starts := by
  intro herror
  rw [error_append, Option.or_eq_none_iff] at herror
  obtain ⟨ts, hts, hopens⟩ := h herror.2
  refine ⟨ts, ?_, hopens⟩
  rw [append_of_none rfl]
  simpa using hts

/-- A text that opens nothing. -/
theorem inert {sql : String} (hsql : L.isInert sql = true) :
    Opens L (text sql) (fun _ => False) (Text.startsWith sql "-") := by
  intro _
  obtain ⟨hquotes, hcomments⟩ := Bool.and_eq_true_iff.1 hsql
  have hreads : L.Reads .settled .settled sql.toList (sql.toList.map .plain) := by
    refine .unopened fun c hc => ?_
    simpa using List.all_eq_true.1 hquotes c hc
  refine ⟨_, hreads.before_loose, fun opener => ?_, ?_⟩
  · rw [opener.occurs_map_plain]
    simpa using List.all_eq_true.1 hcomments opener opener.mem_all
  · rw [Text.startsWith_minus_iff, List.head?_map]
    cases sql.toList.head? with
    | none => simp
    | some c => simp

/-- What is quoted opens no comment. -/
theorem quoted {sql : String} {region : Region} {contents : List Char}
    (h : L.Reads .settled .loose sql.toList [.quoted region contents]) :
    Opens L (text sql) (fun _ => False) false := by
  intro _
  refine ⟨_, h, fun opener => ?_, by simp⟩
  simp [Opener.occurs_cons, opener.not_occurs_nil]

/-- With a firm word between them, two pieces open what they open on their own. -/
theorem joined (hp : Opens L p occurs starts) {word : String} (hword : Text.isFirm word = true)
    (hq : Opens L q occurs' starts') :
    Opens L (p ++ (text word ++ q)) (fun opener => occurs opener ∨ occurs' opener) starts := by
  intro herror
  rw [error_append, error_append, Option.or_eq_none_iff, Option.or_eq_none_iff] at herror
  obtain ⟨hperror, -, hqerror⟩ := herror
  obtain ⟨ts, hts, hopens, hstarts⟩ := hp hperror
  obtain ⟨us, hus, hopens', -⟩ := hq hqerror
  have hbehind : ∀ opener : Opener,
      (word.toList.map Token.plain ++ us).head? ≠ some (.plain opener.second) := by
    intro opener
    have hhead := (Text.ends_of_isFirm hword opener).2.1
    cases hcs : word.toList with
    | nil => exact absurd hcs (Text.toList_ne_nil_of_isFirm hword)
    | cons c cs => simpa [hcs] using hhead
  refine ⟨ts ++ (word.toList.map .plain ++ us), ?_, fun opener => ?_, ?_⟩
  · rw [append_of_none hperror, append_of_none (error_text word), String.toList_append,
      String.toList_append]
    exact hts.append ((Reads.word (Text.isWord_of_isFirm hword)).append hus)
  · obtain ⟨hinside, -, hlast⟩ := Text.ends_of_isFirm hword opener
    have hend : (word.toList.map Token.plain).getLast? ≠ some (.plain opener.first) := by
      rw [List.getLast?_map]
      cases hcs : word.toList.getLast? with
      | none => simp
      | some c => simpa [hcs] using hlast
    rw [Opener.occurs_append, Opener.occurs_append, Opener.occurs_map_plain, hopens, hopens',
      hinside]
    simp only [hbehind opener, hend, Bool.false_eq_true, false_and, and_false, false_or, or_false]
  · rw [← hstarts]
    cases ts with
    | nil => simpa [Opener.second] using hbehind .line
    | cons t ts => simp

/-- Behind a minus sign, one more at the start opens a comment. -/
theorem negated (h : Opens L p occurs starts) :
    Opens L (text "-" ++ p)
      (fun opener => occurs opener ∨ opener = .line ∧ starts = true) true := by
  intro herror
  rw [error_append, Option.or_eq_none_iff] at herror
  obtain ⟨ts, hts, hopens, hstarts⟩ := h herror.2
  refine ⟨.plain '-' :: ts, ?_, fun opener => ?_, by simp⟩
  · rw [append_of_none (error_text "-"), String.toList_append]
    have hminus : Text.isWord "-" = true := by decide
    exact ((Reads.word hminus).append hts).after_settled
  · rw [Opener.occurs_cons, hopens]
    cases opener with
    | line => simp [Opener.first, Opener.second, hstarts, or_comm]
    | block => simp [Opener.first]

end Piece.Opens

/-! ## Spaced rows -/

/-- The slot opens nothing, apart from what its part may open. -/
def Slot.IsInert (L : Lexis) : Slot X → Prop
  | .word text => L.isInert text = true
  | .verbatim text => L.isInert text = true
  | .name _ => True
  | .string _ => True
  | .body text => ∀ c ∈ text, Text.isBodyChar c = true
  | .part _ => True

/-- The text of the slot starts with a minus sign, or that of its part does. -/
def Slot.startsMinus (starts : Stop X → Bool) : Slot X → Bool
  | .word text => Text.startsWith text "-"
  | .verbatim text => Text.startsWith text "-"
  | .part stop => starts stop
  | _ => false

namespace Row

/-- The first slot starts with a minus sign. -/
def startsMinus (starts : Stop X → Bool) (row : Row X) : Bool :=
  row.head?.any (Slot.startsMinus starts)

/-- The rows of single slots with firm words between them. -/
inductive Spaced (L : Lexis) : Row X → Prop where
  | nil : Spaced L []
  | slot {slot : Slot X} (hslot : slot.IsInert L) : Spaced L [slot]
  | joined {a b : Row X} (ha : Spaced L a) (word : String) (hb : Spaced L b)
      (hword : Text.isFirm word = true) : Spaced L (a ++ .word word :: b)

/-- The row may come behind any spaced row. -/
def Continues (L : Lexis) (tail : Row X) : Prop :=
  ∀ row, Spaced L row → Spaced L (row ++ tail)

variable {L : Lexis} {row a b : Row X}

/-- What stands behind a word does not matter to the start of a row. -/
theorem startsMinus_append_word {word : String} (hword : Text.isFirm word = true)
    (starts : Stop X → Bool) :
    startsMinus starts (a ++ .word word :: b) = a.startsMinus starts := by
  cases a with
  | nil =>
    have hminus : ¬Text.startsWith word "-" = true := by
      rw [Text.startsWith_minus_iff]
      exact (Text.ends_of_isFirm hword .line).2.1
    exact Bool.eq_false_iff.2 hminus
  | cons slot a => rfl

namespace Spaced

section

variable {D : Dialect X} {r : Route} {own : Stop X → List String} {f : Stop X → Piece}
  {occurs : Stop X → Opener → Prop} {starts : Stop X → Bool}

/-- What a slot opens on its own. -/
theorem slot_opens (hquotes : D.QuotesBy L r own) {slot : Slot X} (hslot : slot.IsInert L)
    (hparts : ∀ stop ∈ parts [slot], Opens L (f stop) (occurs stop) (starts stop)) :
    Opens L (slot.piece D f) (fun opener => ∃ stop ∈ parts [slot], occurs stop opener)
      (slot.startsMinus starts) := by
  have hnone : ∀ opener, False ↔ ∃ stop ∈ ([] : List (Stop X)), occurs stop opener := by simp
  cases slot with
  | word text => exact (Opens.inert hslot).congr hnone
  | verbatim text => exact (Opens.inert hslot).congr hnone
  | name name => exact (Opens.quoted (hquotes.quote_reads name)).congr hnone
  | string contents => exact (Opens.quoted (hquotes.escape_reads contents)).congr hnone
  | body text =>
    have hreads : L.Reads .settled .loose (Literal.tagged "" text).toList [.quoted .string text] :=
      reads_tagged (by decide) hslot
    rw [Literal.tagged, String.empty_append] at hreads
    exact (Opens.quoted hreads).congr hnone
  | part stop => exact (hparts stop List.mem_cons_self).congr fun opener => by simp

/-- A spaced row opens what its parts open. -/
theorem opens (hquotes : D.QuotesBy L r own) (h : Spaced L row)
    (hparts : ∀ stop ∈ row.parts, Opens L (f stop) (occurs stop) (starts stop)) :
    Opens L (D.slotsPiece f row) (fun opener => ∃ stop ∈ row.parts, occurs stop opener)
      (row.startsMinus starts) := by
  induction h with
  | nil =>
    have hempty : Opens L (text "") (fun _ => False) false := .inert rfl
    exact hempty.congr fun opener => by simp
  | @slot slot hslot =>
    have hsingle : D.slotsPiece f [slot] = slot.piece D f := Piece.append_empty _
    rw [hsingle]
    exact slot_opens hquotes hslot hparts
  | joined _ word _ hword iha ihb =>
    rw [parts_append, parts_word] at hparts
    obtain ⟨hpartsa, hpartsb⟩ := List.forall_mem_append.1 hparts
    rw [slotsPiece_append, startsMinus_append_word hword]
    refine ((iha hpartsa).joined hword (ihb hpartsb)).congr fun opener => ?_
    simp only [parts_append, parts_word, List.mem_append, or_and_right, exists_or]

end

theorem cons_word (word : String) (h : Spaced L row) (hword : Text.isFirm word = true) :
    Spaced L (.word word :: row) :=
  .joined .nil word h hword

theorem append_word (h : Spaced L row) (word : String) (hword : Text.isFirm word = true) :
    Spaced L (row ++ [.word word]) :=
  .joined h word .nil hword

theorem word (word : String) (hword : Text.isFirm word = true) :
    Spaced L ([.word word] : Row X) :=
  .joined .nil word .nil hword

/-- A word that is left out leaves no gap at the start of a row. -/
theorem wordIf_append (condition : Bool) (word : String) (h : Spaced L row)
    (hword : Text.isFirm word = true) : Spaced L (Row.wordIf condition word ++ row) := by
  cases condition with
  | false => exact h
  | true => exact h.cons_word word hword

theorem parenthesized (h : Spaced L row) : Spaced L (Row.parenthesized row) :=
  (h.cons_word "(" rfl).append_word ")" rfl

theorem part (stop : Stop X) : Spaced L [.part stop] := .slot trivial

theorem expr (e : Expr X) : Spaced L (Row.expr e) := .part (.expr e)

theorem operand (e : Expr X) : Spaced L (Row.operand e) := by
  unfold Row.operand
  split
  · exact (Spaced.expr e).parenthesized
  · exact .expr e

theorem verbatim {text : String} (htext : L.isInert text = true) :
    Spaced L ([.verbatim text] : Row X) := .slot htext

theorem name (name : String) : Spaced L ([.name name] : Row X) := .slot trivial

theorem qualified (owner : Option String) (name : String) :
    Spaced L (Row.qualified owner name : Row X) := by
  cases owner with
  | none => exact .name name
  | some owner => exact .joined (.name owner) "." (.name name) rfl

theorem cast (h : Spaced L row) {target : String} (htarget : L.isInert target = true) :
    Spaced L (Row.cast row target) :=
  .joined (h.cons_word "CAST(" rfl) " AS " ((Spaced.verbatim htarget).append_word ")" rfl) rfl

end Spaced

namespace Continues

theorem nil : Continues L ([] : Row X) := by
  intro row h
  rwa [List.append_nil]

/-- A word and a spaced row may come behind any spaced row. -/
theorem word (word : String) (h : Spaced L row) (hword : Text.isFirm word = true) :
    Continues L (.word word :: row) :=
  fun _ hrow => .joined hrow word h hword

theorem append (ha : Continues L a) (hb : Continues L b) : Continues L (a ++ b) := by
  intro row h
  rw [← List.append_assoc]
  exact hb _ (ha row h)

theorem wordIf (condition : Bool) (word : String) (hword : Text.isFirm word = true) :
    Continues L (Row.wordIf condition word : Row X) := by
  cases condition with
  | false => exact .nil
  | true => exact .word word .nil hword

theorem led (lead : String) {row? : Option (Row X)} (hrow : ∀ row ∈ row?, Spaced L row)
    (hlead : Text.isFirm lead = true) : Continues L (Row.led lead row?) := by
  cases row? with
  | none => exact .nil
  | some row => exact .word lead (hrow row rfl) hlead

theorem flatMap {α : Type} {rowOf : α → Row X} {xs : List α}
    (hxs : ∀ x ∈ xs, Continues L (rowOf x)) : Continues L (xs.flatMap rowOf) := by
  induction xs with
  | nil => exact .nil
  | cons x xs ih =>
    rw [List.flatMap_cons]
    apply (hxs x List.mem_cons_self).append
    exact ih fun y hy => hxs y (List.mem_cons_of_mem x hy)

end Continues

/-- Rows with a firm separator between them are spaced. -/
theorem Spaced.separated (separator : String) {rows : List (Row X)}
    (hrows : ∀ row ∈ rows, Spaced L row) (hseparator : Text.isFirm separator = true) :
    Spaced L (Row.separated separator rows) := by
  cases rows with
  | nil => exact .nil
  | cons row rows =>
    have hrest : ∀ next ∈ rows, Continues L (.word separator :: next) := by
      intro next hnext
      exact .word separator (hrows next (List.mem_cons_of_mem row hnext)) hseparator
    exact Continues.flatMap hrest row (hrows row List.mem_cons_self)

/-- A clause with a firm lead and separator may come behind any spaced row. -/
theorem Continues.clause (lead separator : String) {rows : List (Row X)}
    (hrows : ∀ row ∈ rows, Spaced L row) (hlead : Text.isFirm lead = true)
    (hseparator : Text.isFirm separator = true) :
    Continues L (Row.clause lead separator rows) := by
  cases rows with
  | nil => exact .nil
  | cons row rows => exact .word lead (.separated separator hrows hseparator) hlead

namespace Spaced

theorem columns {rows : List (Row X)} (hrows : ∀ row ∈ rows, Spaced L row) :
    Spaced L (Row.columns rows) := by
  cases rows with
  | nil => exact .word "1" rfl
  | cons row rows => exact .separated ", " hrows rfl

theorem exprs (es : List (Expr X)) : ∀ row ∈ es.map Row.expr, Spaced L row :=
  List.forall_mem_map.2 fun e _ => .expr e

theorem expr? (e? : Option (Expr X)) : ∀ row ∈ e?.map Row.expr, Spaced L row := by
  cases e? with
  | none => rintro row ⟨⟩
  | some e =>
    rintro row ⟨⟩
    exact .expr e

theorem column (c : OutputColumn X) : Spaced L (Row.column c) := by
  refine Continues.led " AS " ?_ rfl _ (.expr c.expr)
  cases c.label with
  | none => rintro row ⟨⟩
  | some name =>
    rintro row ⟨⟩
    exact .part (.label name)

theorem sortKey (k : SortKey X) : Spaced L (Row.sortKey k) :=
  Continues.wordIf (!k.ascending) " DESC" rfl _ (.expr k.expr)

/-- Every query is spaced: firm words stand between its parts. -/
theorem query (q : Query X) : Spaced L q.slots := by
  have hcolumns : Spaced L (Row.columns (q.columns.map Row.column)) :=
    .columns (List.forall_mem_map.2 fun c _ => .column c)
  have hselect := (wordIf_append q.distinct "DISTINCT " hcolumns rfl).cons_word "SELECT " rfl
  have hfrom : Continues L
      (Row.clause "\nFROM " "\n" (q.sources.map fun s => [.part (.source s)])) :=
    .clause _ _ (List.forall_mem_map.2 fun s _ => .part (.source s)) rfl rfl
  have hwhere : Continues L (Row.led "\nWHERE " (q.predicate.map Row.expr)) :=
    .led _ (.expr? q.predicate) rfl
  have hgroup : Continues L (Row.clause "\nGROUP BY " ", " (q.groupKeys.map Row.expr)) :=
    .clause _ _ (.exprs q.groupKeys) rfl rfl
  have hhaving : Continues L (Row.led "\nHAVING " (q.groupPredicate.map Row.expr)) :=
    .led _ (.expr? q.groupPredicate) rfl
  have horder : Continues L (Row.clause "\nORDER BY " ", " (q.sortKeys.map Row.sortKey)) :=
    .clause _ _ (List.forall_mem_map.2 fun k _ => .sortKey k) rfl rfl
  have hlimited : Continues L (Row.limitLine q.limit q.offset) := by
    unfold Row.limitLine
    split
    · exact .word "\n" (.part _) rfl
    · exact .nil
  exact hlimited _ (horder _ (hhaving _ (hgroup _ (hwhere _ (hfrom _ hselect)))))

/-- A constant is spaced, if it is no number or an inert one. -/
theorem literal {value : Literal}
    (hnumber : ∀ text, value = .number text → L.isInert text = true) :
    Spaced L (value.slots : Row X) := by
  have htagged : ∀ {lead : String} {body : List Char}, Text.isFirm lead = true →
      (∀ c ∈ body, Text.isBodyChar c = true) →
      Spaced L ([.word lead, .body body] : Row X) := by
    intro lead body hlead hbody
    have hslot : (Slot.body body : Slot X).IsInert L := hbody
    exact (Spaced.slot hslot).cons_word lead hlead
  cases value with
  | null => exact .word "NULL" rfl
  | bool value =>
    cases value with
    | false => exact .word "FALSE" rfl
    | true => exact .word "TRUE" rfl
  | number text => exact .verbatim (hnumber text rfl)
  | string contents => exact .slot trivial
  | date value => exact htagged rfl value.isBodyChar_of_mem_text
  | timestamp value => exact htagged rfl value.isBodyChar_of_mem_text
  | time value => exact htagged rfl value.isBodyChar_of_mem_text
  | bytes value => exact htagged rfl (Literal.isBodyChar_of_mem_hexBytes value)

end Spaced

end Row

end SqlScribe
