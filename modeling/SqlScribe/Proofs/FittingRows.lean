import SqlScribe.Proofs.Layout
import SqlScribe.Proofs.Quoting

/-!
# Rows that balance

Outside its quoted regions a text should close every parenthesis that it opens, and none that is not
open. For the text of a tree this is decided row by row: `Row.Fits` is the grammar of the rows that
balance whenever their parts do. Words and verbatim texts balance on their own, names, strings and
parts are taken as they are, and two words with an unbalanced parenthesis each may enclose a row.

The quoted regions of a row that fits do not run into one another either, so a reader of quotes
finds what is outside of them (`Row.Fits.levels`).
-/

namespace SqlScribe

open Piece Lexis Dialect

variable {X : Signature}

/-! ## Depth -/

namespace Text

/-- How many parentheses are open behind a character, given how many are open before it; there is no
answer if it closes one that is not open. -/
def depthBehind (before : Nat) (c : Char) : Option Nat :=
  if c = '(' then some (before + 1)
  else if c = ')' then if before = 0 then none else some (before - 1)
  else some before

/-- How many parentheses are open behind a text. -/
def depth : Nat → List Char → Option Nat
  | before, [] => some before
  | before, c :: text => (depthBehind before c).bind (depth · text)

/-- No parenthesis is closed that is not open, and in the end none is open. -/
def isBalanced (text : List Char) : Bool := depth 0 text = some 0

/-- The text has no quotes and is balanced. -/
def isLevel (text : String) : Bool := isQuoteFree text && isBalanced text.toList

/-- The text is level and can stand between two others. -/
def isLevelWord (text : String) : Bool := isWord text && isBalanced text.toList

/-- A character changes the depth alike inside further parentheses. -/
theorem depthBehind_add {before behind : Nat} {c : Char} (h : depthBehind before c = some behind)
    (more : Nat) : depthBehind (before + more) c = some (behind + more) := by
  unfold depthBehind at h ⊢
  by_cases hopen : c = '('
  · rw [if_pos hopen, Option.some.injEq] at h ⊢
    omega
  · rw [if_neg hopen] at h ⊢
    by_cases hclose : c = ')'
    · rw [if_pos hclose] at h ⊢
      by_cases hzero : before = 0
      · rw [if_pos hzero] at h
        contradiction
      · rw [if_neg hzero, Option.some.injEq] at h
        rw [if_neg (by omega), Option.some.injEq]
        omega
    · rw [if_neg hclose, Option.some.injEq] at h ⊢
      omega

/-- More open parentheses before a text are as many more behind it. -/
theorem depth_add {text : List Char} {before behind : Nat} (h : depth before text = some behind)
    (more : Nat) : depth (before + more) text = some (behind + more) := by
  induction text generalizing before with
  | nil =>
    cases h
    rfl
  | cons c text ih =>
    rw [depth, Option.bind_eq_some_iff] at h
    obtain ⟨between, hc, htext⟩ := h
    rw [depth, depthBehind_add hc, Option.bind_some]
    exact ih htext

/-- The depth behind two texts is that behind the second, from the depth behind the first on. -/
theorem depth_append (before : Nat) (a b : List Char) :
    depth before (a ++ b) = (depth before a).bind (depth · b) := by
  induction a generalizing before with
  | nil => rfl
  | cons c a ih =>
    rw [List.cons_append, depth, depth, Option.bind_assoc]
    exact congrArg _ (funext fun between => ih between)

end Text

/-! ## Levelled pieces -/

/-- The character of a token outside quotes. -/
def Token.plain? : Token → Option Char
  | plain c => some c
  | quoted _ _ => none

/-- The tokens outside quotes, as a text. -/
def Token.outside (ts : List Token) : List Char := ts.filterMap Token.plain?

theorem Token.outside_map_plain (cs : List Char) : outside (cs.map plain) = cs := by
  simp [outside, plain?, Function.comp_def]

/-- If the piece does not fail, its text is read between the edges and takes the number of open
parentheses outside quotes from one to another. -/
def Piece.Levels (L : Lexis) (before after : Edge) (opened left : Nat) (p : Piece) : Prop :=
  p.error = none → ∃ ts, L.Reads before after p.sql.toList ts ∧
    Text.depth opened (Token.outside ts) = some left

namespace Piece.Levels

variable {L : Lexis} {before between after : Edge} {opened middle left : Nat} {p q : Piece}

theorem empty (edge : Edge) (opened : Nat) : Levels L edge edge opened opened {} :=
  fun _ => ⟨[], .nil edge, rfl⟩

theorem fail (e : Error) : Levels L before after opened left (.fail e) := by
  rintro ⟨⟩

theorem events (events : List Event) (edge : Edge) (opened : Nat) :
    Levels L edge edge opened opened { events } :=
  fun _ => ⟨[], .nil edge, rfl⟩

/-- What the first piece leaves open the second may close. -/
theorem append (hp : Levels L before between opened middle p)
    (hq : Levels L between after middle left q) : Levels L before after opened left (p ++ q) := by
  intro herror
  rw [error_append, Option.or_eq_none_iff] at herror
  obtain ⟨ts, hts, hdepth⟩ := hp herror.1
  obtain ⟨us, hus, hdepth'⟩ := hq herror.2
  refine ⟨ts ++ us, ?_, ?_⟩
  · rw [append_of_none herror.1, String.toList_append]
    exact hts.append hus
  · rw [Token.outside, List.filterMap_append, Text.depth_append]
    exact Option.bind_eq_some_iff.2 ⟨middle, hdepth, hdepth'⟩

/-- What stays level on its own stays level inside parentheses. -/
theorem inside (h : Levels L before after 0 0 p) (opened : Nat) :
    Levels L before after opened opened p := by
  intro herror
  obtain ⟨ts, hts, hdepth⟩ := h herror
  have hmore := Text.depth_add hdepth opened
  rw [Nat.zero_add] at hmore
  exact ⟨ts, hts, hmore⟩

theorem after_settled (h : Levels L before after opened left p) :
    Levels L .settled after opened left p := by
  intro herror
  obtain ⟨ts, hts, hdepth⟩ := h herror
  exact ⟨ts, hts.after_settled, hdepth⟩

theorem before_loose (h : Levels L before after opened left p) :
    Levels L before .loose opened left p := by
  intro herror
  obtain ⟨ts, hts, hdepth⟩ := h herror
  exact ⟨ts, hts.before_loose, hdepth⟩

/-- A text without quotes, with all its parentheses. -/
theorem text {sql : String} (hsql : Text.isQuoteFree sql = true)
    (hdepth : Text.depth opened sql.toList = some left) :
    Levels L .settled .settled opened left (text sql) := by
  intro _
  exact ⟨_, .plain hsql, by rwa [Token.outside_map_plain]⟩

/-- A word changes the depth by the parentheses in it. -/
theorem word {sql : String} (hsql : Text.isWord sql = true)
    (hdepth : Text.depth opened sql.toList = some left) :
    Levels L .loose .settled opened left (Piece.text sql) := by
  intro _
  exact ⟨_, .word hsql, by rwa [Token.outside_map_plain]⟩

/-- What is quoted does not count. -/
theorem quoted {sql : String} {region : Region} {contents : List Char}
    (h : L.Reads .settled .loose sql.toList [.quoted region contents]) (opened : Nat) :
    Levels L .settled .loose opened opened (Piece.text sql) :=
  fun _ => ⟨_, h, rfl⟩

end Piece.Levels

/-! ## Rows that fit -/

namespace Row

/-- The rows that stand between two edges and close the parentheses that they open, whatever their
parts are, if only the parts do so. -/
inductive Fits : Edge → Edge → Row X → Prop where
  | nil (edge : Edge) : Fits edge edge []
  | word (text : String) (htext : Text.isLevelWord text = true := by decide) :
      Fits .loose .settled [.word text]
  | verbatim {text : String} (htext : Text.isLevel text = true) :
      Fits .settled .settled [.verbatim text]
  | name (name : String) : Fits .settled .loose [.name name]
  | string (contents : String) : Fits .settled .loose [.string contents]
  | body {text : List Char} (htext : ∀ c ∈ text, Text.isBodyChar c = true) :
      Fits .settled .loose [.body text]
  | part (stop : Stop X) : Fits .settled .loose [.part stop]
  | append {before between after : Edge} {a b : Row X} (ha : Fits before between a)
      (hb : Fits between after b) : Fits before after (a ++ b)
  /-- One word opens a parenthesis around the row and another one closes it. -/
  | enclosed (opening closing : String) {row : Row X} (hrow : Fits .settled .loose row)
      (hopening : Text.isWord opening = true := by decide)
      (hopens : Text.depth 0 opening.toList = some 1 := by decide)
      (hclosing : Text.isWord closing = true := by decide)
      (hcloses : Text.depth 1 closing.toList = some 0 := by decide) :
      Fits .loose .settled (.word opening :: row ++ [.word closing])
  | after_settled {before after : Edge} {row : Row X} (hrow : Fits before after row) :
      Fits .settled after row
  | before_loose {before after : Edge} {row : Row X} (hrow : Fits before after row) :
      Fits before .loose row

namespace Fits

variable {before after : Edge} {row : Row X}

/-- A row that fits is level if its parts are. -/
theorem levels {D : Dialect X} {L : Lexis} {r : Route} {own : Stop X → List String}
    (hquotes : D.QuotesBy L r own) {f : Stop X → Piece} (h : Fits before after row)
    (hparts : ∀ stop ∈ row.parts, Levels L .settled .loose 0 0 (f stop)) :
    Levels L before after 0 0 (D.slotsPiece f row) := by
  have hsingle : ∀ slot, D.slotsPiece f [slot] = slot.piece D f := fun slot =>
    Piece.append_empty _
  induction h with
  | nil edge => exact .empty edge 0
  | word text htext =>
    rw [hsingle]
    obtain ⟨hword, hbalanced⟩ := Bool.and_eq_true_iff.1 htext
    exact .word hword (of_decide_eq_true hbalanced)
  | verbatim htext =>
    rw [hsingle]
    obtain ⟨hfree, hbalanced⟩ := Bool.and_eq_true_iff.1 htext
    exact .text hfree (of_decide_eq_true hbalanced)
  | name name =>
    rw [hsingle]
    exact .quoted (hquotes.quote_reads name) 0
  | string contents =>
    rw [hsingle]
    exact .quoted (hquotes.escape_reads contents) 0
  | @body text htext =>
    rw [hsingle]
    have hreads : L.Reads .settled .loose (Literal.tagged "" text).toList [.quoted .string text] :=
      reads_tagged (by decide) htext
    rw [Literal.tagged, String.empty_append] at hreads
    exact .quoted hreads 0
  | part stop =>
    rw [hsingle]
    exact hparts stop List.mem_cons_self
  | append ha hb iha ihb =>
    rw [parts_append] at hparts
    obtain ⟨hpartsa, hpartsb⟩ := List.forall_mem_append.1 hparts
    rw [slotsPiece_append]
    exact (iha hpartsa).append (ihb hpartsb)
  | enclosed opening closing hrow hopening hopens hclosing hcloses ih =>
    rw [parts_append, parts_word, parts_word, parts_nil, List.append_nil] at hparts
    rw [slotsPiece_append, hsingle]
    -- The induction is about rows from level zero; between the two words everything is one deeper.
    have hinner := (ih hparts).inside 1
    exact ((Levels.word hopening hopens).append hinner).append (.word hclosing hcloses)
  | after_settled _ ih => exact (ih hparts).after_settled
  | before_loose _ ih => exact (ih hparts).before_loose

/-- A word before a row, which may follow anything then. -/
theorem cons_word (text : String) (hrow : Fits .settled after row)
    (htext : Text.isLevelWord text = true := by decide) : Fits .loose after (.word text :: row) :=
  (Fits.word text htext).append hrow

/-- A word behind a row. -/
theorem append_word (hrow : Fits before .loose row) (text : String)
    (htext : Text.isLevelWord text = true := by decide) :
    Fits before .settled (row ++ [.word text]) :=
  hrow.append (.word text htext)

theorem wordIf (condition : Bool) (text : String) (edge : Edge)
    (htext : Text.isLevelWord text = true := by decide) :
    Fits edge edge (Row.wordIf condition text : Row X) := by
  cases condition with
  | false => exact .nil edge
  | true =>
    cases edge with
    | settled => exact (Fits.word text htext).after_settled
    | loose => exact (Fits.word text htext).before_loose

theorem parenthesized (hrow : Fits .settled .loose row) :
    Fits .loose .settled (Row.parenthesized row) :=
  .enclosed "(" ")" hrow

theorem led (lead : String) {row? : Option (Row X)}
    (hrow : ∀ row ∈ row?, Fits .settled .loose row)
    (hlead : Text.isLevelWord lead = true := by decide) :
    Fits .loose .loose (Row.led lead row?) := by
  cases row? with
  | none => exact .nil .loose
  | some row => exact (hrow row rfl).cons_word lead hlead

theorem flatMap {α : Type} {rowOf : α → Row X} {edge : Edge} {xs : List α}
    (hxs : ∀ x ∈ xs, Fits edge edge (rowOf x)) : Fits edge edge (xs.flatMap rowOf) := by
  induction xs with
  | nil => exact .nil edge
  | cons x xs ih =>
    rw [List.flatMap_cons]
    exact (hxs x List.mem_cons_self).append (ih fun y hy => hxs y (List.mem_cons_of_mem x hy))

/-- A level separator keeps fitting rows fitting. -/
theorem separated (separator : String) {rows : List (Row X)}
    (hrows : ∀ row ∈ rows, Fits .settled .loose row)
    (hseparator : Text.isLevelWord separator = true := by decide) :
    Fits .settled .loose (Row.separated separator rows) := by
  cases rows with
  | nil => exact (Fits.nil .settled).before_loose
  | cons row rows =>
    have hrest : ∀ next ∈ rows, Fits .loose .loose (.word separator :: next) :=
      fun next hnext => (hrows next (List.mem_cons_of_mem row hnext)).cons_word separator hseparator
    exact (hrows row List.mem_cons_self).append (.flatMap hrest)

theorem clause (lead separator : String) {rows : List (Row X)}
    (hrows : ∀ row ∈ rows, Fits .settled .loose row)
    (hlead : Text.isLevelWord lead = true := by decide)
    (hseparator : Text.isLevelWord separator = true := by decide) :
    Fits .loose .loose (Row.clause lead separator rows) := by
  cases rows with
  | nil => exact .nil .loose
  | cons row rows => exact (Fits.separated separator hrows hseparator).cons_word lead hlead

theorem columns {rows : List (Row X)} (hrows : ∀ row ∈ rows, Fits .settled .loose row) :
    Fits .settled .loose (Row.columns rows) := by
  cases rows with
  | nil => exact (Fits.word "1").after_settled.before_loose
  | cons row rows => exact .separated ", " hrows

theorem expr (e : Expr X) : Fits .settled .loose (Row.expr e) := .part (.expr e)

theorem exprs (es : List (Expr X)) : ∀ row ∈ es.map Row.expr, Fits .settled .loose row :=
  List.forall_mem_map.2 fun e _ => .expr e

theorem expr? (e? : Option (Expr X)) : ∀ row ∈ e?.map Row.expr, Fits .settled .loose row := by
  cases e? with
  | none => rintro row ⟨⟩
  | some e =>
    rintro row ⟨⟩
    exact .expr e

theorem operand (e : Expr X) : Fits .settled .loose (Row.operand e) := by
  unfold Row.operand
  split
  · exact (Fits.expr e).parenthesized.after_settled.before_loose
  · exact .expr e

theorem qualified (owner : Option String) (name : String) :
    Fits .settled .loose (Row.qualified owner name : Row X) := by
  cases owner with
  | none => exact .name name
  | some owner => exact (Fits.name owner).append (.cons_word "." (.name name))

theorem label (label : Option String) :
    ∀ row ∈ label.map fun name => [Slot.name (X := X) name], Fits .settled .loose row := by
  cases label with
  | none => rintro row ⟨⟩
  | some name =>
    rintro row ⟨⟩
    exact .name name

theorem cast (hrow : Fits .settled .loose row) {target : String}
    (htarget : Text.isLevel target = true) : Fits .loose .settled (Row.cast row target) := by
  have hbody := hrow.append (.cons_word " AS " (.verbatim htarget))
  have henclosed := Fits.enclosed "CAST(" ")" hbody.before_loose
  simpa [Row.cast] using henclosed

theorem branch (b : Branch X) : Fits .loose .loose (Row.branch b) := by
  have htest := (Fits.expr b.test).cons_word " WHEN "
  exact htest.append ((Fits.expr b.result).cons_word " THEN ")

theorem column (c : OutputColumn X) : Fits .settled .loose (Row.column c) := by
  refine (Fits.expr c.expr).append (.led " AS " ?_)
  cases c.label with
  | none => rintro row ⟨⟩
  | some name =>
    rintro row ⟨⟩
    exact .part (.label name)

theorem sortKey (k : SortKey X) : Fits .settled .loose (Row.sortKey k) :=
  (Fits.expr k.expr).append (.wordIf (!k.ascending) " DESC" .loose)

theorem limitLine (limit offset : Option (Expr X)) :
    Fits .loose .loose (Row.limitLine limit offset) := by
  unfold Row.limitLine
  split
  · exact (Fits.part (.rowLimit limit offset)).cons_word "\n"
  · exact .nil .loose

/-- Every query fits: its clauses have words between them, and nothing of its own is uneven. -/
theorem query (q : Query X) : Fits .settled .loose q.slots := by
  have hselect : Fits .settled .settled [Slot.word (X := X) "SELECT "] :=
    (Fits.word "SELECT ").after_settled
  have hdistinct := Fits.wordIf (X := X) q.distinct "DISTINCT " .settled
  have hcolumns : Fits .settled .loose (Row.columns (q.columns.map Row.column)) :=
    .columns (List.forall_mem_map.2 fun c _ => .column c)
  have hfrom := Fits.clause "\nFROM " "\n"
    (List.forall_mem_map.2 fun s (_ : s ∈ q.sources) => .part (.source s))
  have hwhere := Fits.led "\nWHERE " (.expr? q.predicate)
  have hgroup := Fits.clause "\nGROUP BY " ", " (.exprs q.groupKeys)
  have hhaving := Fits.led "\nHAVING " (.expr? q.groupPredicate)
  have horder := Fits.clause "\nORDER BY " ", "
    (List.forall_mem_map.2 fun k (_ : k ∈ q.sortKeys) => .sortKey k)
  have hlimited := Fits.limitLine q.limit q.offset
  exact (((((((hselect.append hdistinct).append hcolumns).append hfrom).append hwhere).append
    hgroup).append hhaving).append horder).append hlimited

/-- A constant fits if it is no number, or a level one. -/
theorem literal {value : Literal}
    (hnumber : ∀ text, value = .number text → Text.isLevel text = true) :
    Fits .settled .loose (value.slots : Row X) := by
  have htagged : ∀ {word : String} {body : List Char}, Text.isLevelWord word = true →
      (∀ c ∈ body, Text.isBodyChar c = true) →
      Fits .settled .loose [Slot.word (X := X) word, .body body] := fun hword hbody =>
    ((Fits.body hbody).cons_word _ hword).after_settled
  cases value with
  | null => exact (Fits.word "NULL").after_settled.before_loose
  | bool value =>
    cases value with
    | false => exact (Fits.word "FALSE").after_settled.before_loose
    | true => exact (Fits.word "TRUE").after_settled.before_loose
  | number text => exact (Fits.verbatim (hnumber text rfl)).before_loose
  | string contents => exact .string contents
  | date value => exact htagged (by decide) value.isBodyChar_of_mem_text
  | timestamp value => exact htagged (by decide) value.isBodyChar_of_mem_text
  | time value => exact htagged (by decide) value.isBodyChar_of_mem_text
  | bytes value => exact htagged (by decide) (Literal.isBodyChar_of_mem_hexBytes value)

end Fits

end Row

end SqlScribe
