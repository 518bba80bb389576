import SqlScribe.Proofs.Appending
import SqlScribe.Proofs.Lexis
import SqlScribe.Proofs.Redaction

/-!
# Pieces that read alike

Two pieces are `Alike` when a reader of quotes finds the same tokens in both, up to what is quoted,
or when both fail. Along with two pieces goes the list of what the first one quotes.

Pieces stay alike under everything that trees are written with: side by side, with words without
quotes before, between and after them, in parentheses and in lists.
-/

namespace SqlScribe

open Emit Piece Lexis

variable {X : Signature}

/-! ## Alike pieces -/

/-- Between two edges the texts are read as the same tokens up to what they quote, and `quoted` are
the quoted tokens of the first one. -/
def Lexis.ReadsAlike (L : Lexis) (before after : Edge) (a b : String) (quoted : List Token) :
    Prop :=
  ∃ ts us, L.Reads before after a.toList ts ∧ L.Reads before after b.toList us ∧
    us.map Token.blank = ts.map Token.blank ∧ ts.filter Token.isQuoted = quoted

/-- The pieces fail alike, or else their texts are read alike. -/
structure Piece.Alike (L : Lexis) (before after : Edge) (p p' : Piece) (quoted : List Token) :
    Prop where
  error : p'.error = p.error
  reads : p.error = none → L.ReadsAlike before after p.sql p'.sql quoted

namespace Piece.Alike

variable {L : Lexis} {before between after : Edge} {p p' q q' : Piece} {ps qs : List Token}

/-- Texts that are read alike, up to what stands in their quotes, are alike. -/
theorem of_reads {a b : String} {t u : List Token} (ha : L.Reads before after a.toList t)
    (hb : L.Reads before after b.toList u) (hblank : u.map Token.blank = t.map Token.blank) :
    Alike L before after (text a) (text b) (t.filter Token.isQuoted) where
  error := rfl
  reads _ := ⟨t, u, ha, hb, hblank, rfl⟩

/-- A text that redaction leaves alone. -/
theorem text (sql : String) (hsql : Text.isQuoteFree sql = true) :
    Alike L .settled .settled (text sql) (text sql) [] := by
  rw [← Token.filter_isQuoted_map_plain sql.toList]
  exact of_reads (.plain hsql) (.plain hsql) rfl

/-- A word between two parts. -/
theorem word (word : String) (hword : Text.isWord word = true) :
    Alike L .loose .settled (Piece.text word) (Piece.text word) [] := by
  rw [← Token.filter_isQuoted_map_plain word.toList]
  exact of_reads (.word hword) (.word hword) rfl

theorem empty (edge : Edge) : Alike L edge edge {} {} [] where
  error := rfl
  reads _ := ⟨[], [], .nil edge, .nil edge, rfl, rfl⟩

theorem event (e : Event) (edge : Edge) :
    Alike L edge edge (Piece.event e) (Piece.event e) [] where
  error := rfl
  reads _ := ⟨[], [], .nil edge, .nil edge, rfl, rfl⟩

theorem fail (e : Error) : Alike L before after (Piece.fail e) (Piece.fail e) qs where
  error := rfl
  reads := nofun

theorem after_settled (h : Alike L before after p p' qs) : Alike L .settled after p p' qs where
  error := h.error
  reads hp := by
    obtain ⟨ts, us, hts, hus, hblank, hquoted⟩ := h.reads hp
    exact ⟨ts, us, hts.after_settled, hus.after_settled, hblank, hquoted⟩

/-- What may stand before anything may stand before a text without a quote at its start. -/
theorem before_loose (h : Alike L before after p p' qs) : Alike L before .loose p p' qs where
  error := h.error
  reads hp := by
    obtain ⟨ts, us, hts, hus, hblank, hquoted⟩ := h.reads hp
    exact ⟨ts, us, hts.before_loose, hus.before_loose, hblank, hquoted⟩

/-- Pieces that are alike side by side. -/
theorem append (hp : Alike L before between p p' ps) (hq : Alike L between after q q' qs) :
    Alike L before after (p ++ q) (p' ++ q') (ps ++ qs) where
  error := by rw [error_append, error_append, hp.error, hq.error]
  reads h := by
    rw [error_append, Option.or_eq_none_iff] at h
    obtain ⟨hpnone, hqnone⟩ := h
    obtain ⟨ts, us, hts, hus, hblank, hquoted⟩ := hp.reads hpnone
    obtain ⟨ts', us', hts', hus', hblank', hquoted'⟩ := hq.reads hqnone
    rw [append_of_none hpnone, append_of_none (hp.error.trans hpnone)]
    refine ⟨ts ++ ts', us ++ us', ?_, ?_, ?_, ?_⟩
    · rw [String.toList_append]
      exact hts.append hts'
    · rw [String.toList_append]
      exact hus.append hus'
    · rw [List.map_append, List.map_append, hblank, hblank']
    · rw [List.filter_append, hquoted, hquoted']

/-- A word after a piece. -/
theorem append_word (hp : Alike L before .loose p p' ps) (word : String)
    (hword : Text.isWord word = true) :
    Alike L before .settled (p ++ Piece.text word) (p' ++ Piece.text word) ps := by
  rw [← List.append_nil ps]
  exact hp.append (.word word hword)

/-- A word before a piece, which may follow anything then. -/
theorem word_append (word : String) (hword : Text.isWord word = true)
    (hp : Alike L .settled after p p' ps) :
    Alike L .loose after (Piece.text word ++ p) (Piece.text word ++ p') ps :=
  (Alike.word word hword).append hp

/-- Parentheses settle both ends. -/
theorem parenthesized (hp : Alike L .settled .loose p p' ps) :
    Alike L .loose .settled p.parenthesized p'.parenthesized ps :=
  (hp.word_append "(" (by decide)).append_word ")" (by decide)

/-- Redaction does not change which operands get parentheses. -/
theorem operand (e : Expr X) (hp : Alike L .settled .loose p p' ps) :
    Alike L .settled .loose (Piece.operand e p) (Piece.operand e.redact p') ps := by
  unfold Piece.operand
  rw [Expr.isOperator_redact]
  split
  · exact hp.parenthesized.after_settled.before_loose
  · exact hp

/-- A word that may be left out. -/
theorem textIf (condition : Bool) (word : String) (hword : Text.isWord word = true) (edge : Edge) :
    Alike L edge edge (Piece.textIf condition word) (Piece.textIf condition word) [] := by
  cases condition with
  | false => exact .empty edge
  | true =>
    cases edge with
    | settled => exact (Alike.word word hword).after_settled
    | loose => exact (Alike.word word hword).before_loose

/-! ### Lists and options of parts -/

section

variable {α : Type} {f g : α → Piece} {quoted : α → List Token}

theorem led (lead : String) (hlead : Text.isWord lead = true) {x : Option α}
    (hx : ∀ a ∈ x, Alike L .settled .loose (f a) (g a) (quoted a)) :
    Alike L .loose .loose (Piece.led lead (x.map f)) (Piece.led lead (x.map g))
      (x.toList.flatMap quoted) := by
  cases x with
  | none => exact .empty .loose
  | some a =>
    rw [Option.toList_some, List.flatMap_singleton]
    exact (hx a rfl).word_append lead hlead

theorem inOrder {edge : Edge} {xs : List α}
    (hxs : ∀ x ∈ xs, Alike L edge edge (f x) (g x) (quoted x)) :
    Alike L edge edge (Piece.inOrder (xs.map f)) (Piece.inOrder (xs.map g))
      (xs.flatMap quoted) := by
  induction xs with
  | nil => exact .empty edge
  | cons x xs ih =>
    have hx := hxs x List.mem_cons_self
    have hrest := ih fun y hy => hxs y (List.mem_cons_of_mem x hy)
    exact hx.append hrest

/-- A separator that is a word keeps the ends of its neighbours apart. -/
theorem separated (separator : String) (hseparator : Text.isWord separator = true) {xs : List α}
    (hxs : ∀ x ∈ xs, Alike L .settled .loose (f x) (g x) (quoted x)) :
    Alike L .settled .loose (Piece.separated separator (xs.map f))
      (Piece.separated separator (xs.map g)) (xs.flatMap quoted) := by
  cases xs with
  | nil => exact (Alike.empty .settled).before_loose
  | cons x xs =>
    have hx := hxs x List.mem_cons_self
    have hrest : ∀ y ∈ xs, Alike L .loose .loose (Piece.text separator ++ f y)
        (Piece.text separator ++ g y) (quoted y) :=
      fun y hy => (hxs y (List.mem_cons_of_mem x hy)).word_append separator hseparator
    simp only [List.map_cons, Piece.separated, List.map_map]
    exact hx.append (.inOrder hrest)

theorem clause (lead separator : String) (hlead : Text.isWord lead = true)
    (hseparator : Text.isWord separator = true) {xs : List α}
    (hxs : ∀ x ∈ xs, Alike L .settled .loose (f x) (g x) (quoted x)) :
    Alike L .loose .loose (Piece.clause lead separator (xs.map f))
      (Piece.clause lead separator (xs.map g)) (xs.flatMap quoted) := by
  cases xs with
  | nil => exact .empty .loose
  | cons x xs => exact (Alike.separated separator hseparator hxs).word_append lead hlead

end

end Piece.Alike

end SqlScribe
