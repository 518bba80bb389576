import Mathlib.Data.List.Basic
import SqlScribe.Proofs.DialectLayout

/-!
# Marked text mirrors the tree

A dialect with marks around its constructs shows how it walks a tree. Its text is a `Script`: texts
with opening and closing marks between them. The marks alone are the `brackets` of the tree, one
pair for each rule that a stop passes through, around the brackets of its parts; without the marks
the script is the text of the dialect itself. One script serves all marks, so the marks are where
the script says and not merely texts that happen to look like marks.
-/

namespace SqlScribe

open Piece Dialect

variable {X : Signature}

/-! ## Scripts -/

/-- A text or a mark. -/
inductive Cue where
  | opening (construct : Construct)
  | closing (construct : Construct)
  | text (sql : String)
deriving DecidableEq

namespace Cue

/-- The cue is a mark, opening or closing. -/
def isMark : Cue → Bool
  | opening _ => true
  | closing _ => true
  | text _ => false

/-- The construct whose mark opens here. -/
def opened? : Cue → Option Construct
  | opening construct => some construct
  | _ => none

/-- The text of a cue, with the given texts for the marks. -/
def render (marks : Marks) : Cue → String
  | opening construct => marks.opening construct
  | closing construct => marks.closing construct
  | text sql => sql

end Cue

/-- A marked text. -/
abbrev Script := List Cue

namespace Script

/-- The marks of a script. -/
def marks (script : Script) : Script := script.filter Cue.isMark

/-- The script as a text, with its marks written out. -/
def render (marks : Marks) : Script → String
  | [] => ""
  | cue :: script => cue.render marks ++ render marks script

/-- The script as a text, with its marks dropped. -/
def unmarked (script : Script) : String :=
  render ⟨fun _ => "", fun _ => ""⟩ script

@[simp]
theorem render_append (marks : Marks) (a b : Script) :
    render marks (a ++ b) = render marks a ++ render marks b := by
  induction a with
  | nil => exact String.empty_append.symm
  | cons cue a ih => rw [List.cons_append, render, ih, render, String.append_assoc]

end Script

/-! ## The brackets of a tree -/

namespace Stop

/-- The marks of the rules that a stop passes through, around those of its parts. -/
def brackets (r : Route) (stop : Stop X) : Script :=
  stop.constructs.map .opening ++
    (stop.parts r).attach.flatMap (fun part => part.1.brackets r) ++
    stop.constructs.reverse.map .closing
termination_by (stop.trail r).length
decreasing_by exact length_trail_lt r part.2

variable (r : Route)

/-- The brackets of a stop enclose those of its parts, in their order. -/
theorem brackets_eq (stop : Stop X) :
    stop.brackets r =
      stop.constructs.map .opening ++ (stop.parts r).flatMap (brackets r) ++
        stop.constructs.reverse.map .closing := by
  rw [brackets, List.flatMap_subtype (fun _ _ => rfl), List.unattach_attach]

/-- The opening marks are those of the stops on the trail, in their order. -/
theorem opened_brackets (stop : Stop X) :
    (stop.brackets r).filterMap Cue.opened? = (stop.trail r).flatMap constructs := by
  have hopening : ∀ cs : List Construct, (cs.map Cue.opening).filterMap Cue.opened? = cs := by
    intro cs
    rw [List.filterMap_map]
    exact List.filterMap_some
  have hclosing : ∀ cs : List Construct, (cs.map Cue.closing).filterMap Cue.opened? = [] := by
    intro cs
    rw [List.filterMap_map]
    exact List.filterMap_none _
  induction stop using Stop.induction r with
  | step stop ih =>
    rw [brackets_eq, trail_eq, List.filterMap_append, List.filterMap_append, hopening, hclosing,
      List.append_nil, List.filterMap_flatMap, List.flatMap_cons, List.flatMap_assoc]
    exact congrArg (stop.constructs ++ ·) (List.flatMap_congr ih)

end Stop

/-! ## Scripted pieces -/

/-- The pieces for all marks come from one script, with the given marks, that is the text of the
bare piece when they are dropped; or all of them fail alike. -/
structure Scripted (bare : Piece) (marked : Marks → Piece) (brackets : Script) : Prop where
  script : bare.error = none → ∃ script : Script, script.marks = brackets ∧
    bare.sql = script.unmarked ∧ ∀ marks, marked marks = ⟨script.render marks, bare.events, none⟩
  error : ∀ e, bare.error = some e → ∀ marks, (marked marks).error = some e

namespace Scripted

variable {p p' : Piece} {q q' : Marks → Piece} {bs bs' : Script}

theorem text (sql : String) : Scripted (.text sql) (fun _ => .text sql) [] where
  script _ := ⟨[.text sql], rfl, by simp [Script.unmarked, Script.render, Cue.render, Piece.text],
    fun marks => by simp [Script.render, Cue.render, Piece.text]⟩
  error e h := by cases h

theorem events (events : List Event) : Scripted { events } (fun _ => { events }) [] where
  script _ := ⟨[], rfl, rfl, fun _ => rfl⟩
  error e h := by cases h

theorem fail (e : Error) : Scripted (.fail e) (fun _ => .fail e) bs where
  script h := by cases h
  error _ he _ := he

/-- The script of two pieces is the two scripts in a row, and neither is needed if the first piece
fails. -/
theorem append (h : Scripted p q bs) (h' : Scripted p' q' bs') :
    Scripted (p ++ p') (fun marks => q marks ++ q' marks) (bs ++ bs') where
  script hok := by
    rw [error_append, Option.or_eq_none_iff] at hok
    obtain ⟨script, hbs, hsql, hmarked⟩ := h.script hok.1
    obtain ⟨script', hbs', hsql', hmarked'⟩ := h'.script hok.2
    refine ⟨script ++ script', ?_, ?_, ?_⟩
    · rw [Script.marks, List.filter_append, ← hbs, ← hbs']
      rfl
    · rw [append_of_none hok.1, hsql, hsql']
      exact (Script.render_append ..).symm
    · intro marks
      rw [hmarked, hmarked', append_of_none hok.1, append_of_none rfl, Script.render_append]
  error e he marks := by
    rw [error_append]
    rw [error_append, Option.or_eq_some_iff] at he
    obtain he | ⟨hok, he⟩ := he
    · rw [h.error e he marks]
      rfl
    · obtain ⟨script, -, -, hmarked⟩ := h.script hok
      rw [hmarked, h'.error e he marks]
      rfl

theorem empty : Scripted {} (fun _ => {}) [] := events []

/-- Marks around a piece are marks around its script. -/
theorem wrap (h : Scripted p q bs) (c : Construct) :
    Scripted p (fun marks => marks.wrap c (q marks)) (.opening c :: bs ++ [.closing c]) where
  script hok := by
    obtain ⟨script, hbs, hsql, hmarked⟩ := h.script hok
    refine ⟨.opening c :: script ++ [.closing c], ?_, ?_, ?_⟩
    · rw [← hbs]
      simp [Script.marks, List.filter_cons, Cue.isMark]
    · rw [hsql]
      simp [Script.unmarked, Script.render, Cue.render]
    · intro marks
      rw [hmarked, Marks.wrap, append_assoc, append_of_none rfl, append_of_none rfl]
      simp [Script.render, Cue.render, Piece.text]
  error e he marks := by
    have herror := h.error e he marks
    simp [Marks.wrap, herror]

/-- Marks of several constructs around a piece nest, the last one innermost. -/
theorem wraps (h : Scripted p q bs) (cs : List Construct) :
    Scripted p (fun marks => cs.foldr marks.wrap (q marks))
      (cs.map .opening ++ bs ++ cs.reverse.map .closing) := by
  induction cs with
  | nil =>
    rw [List.map_nil, List.nil_append, List.reverse_nil, List.map_nil, List.append_nil]
    exact h
  | cons c cs ih =>
    have hwrap := ih.wrap c
    rw [List.reverse_cons, List.map_append, List.map_cons, List.cons_append, List.cons_append,
      ← List.append_assoc]
    exact hwrap

end Scripted

/-! ## Marked dialects -/

namespace Dialect.Follows

variable {D : Dialect X} {L : Scheme X} {r : Route}

/-- A row is scripted if its parts are: all other slots are texts. -/
theorem scripted_slots {row : Row X}
    (h : ∀ part ∈ row.parts, Scripted (D.stopPiece part)
      (fun marks => (D.marked marks).stopPiece part) (part.brackets r)) :
    Scripted (D.slotsPiece D.stopPiece row)
      (fun marks => (D.marked marks).slotsPiece (D.marked marks).stopPiece row)
      (row.parts.flatMap (Stop.brackets r)) := by
  induction row with
  | nil => exact .empty
  | cons slot row ih =>
    have hrow := ih fun part hpart => h part (Row.mem_parts_cons hpart)
    cases slot with
    | part stop => exact (h stop List.mem_cons_self).append hrow
    | _ => exact (Scripted.text _).append hrow

/-- With marks, every stop is scripted, and its marks are its brackets. -/
theorem scripted_stop (h : D.Follows L fun _ p => p) (hwalks : L.Walks r) (stop : Stop X) :
    Scripted (D.stopPiece stop) (fun marks => (D.marked marks).stopPiece stop)
      (stop.brackets r) := by
  have hmarked := fun marks : Marks => (h.marked marks).stopPiece_eq
  induction stop using Stop.induction r with
  | step stop ih =>
    simp only [hmarked]
    rw [h.stopPiece_bare, Stop.brackets_eq]
    refine Scripted.wraps ?_ stop.constructs
    cases hlayout : L.layout stop with
    | error e => exact .fail e
    | ok layout =>
      have hparts := hwalks.layout_has stop layout hlayout
      have hslots := scripted_slots (hparts ▸ ih)
      rw [hparts] at hslots
      simp only [layoutPiece, inOrder_events]
      exact (Scripted.events layout.events).append hslots

end Dialect.Follows

/-! ## Written trees -/

/-- However a dialect's constructs are marked, a tree that has a text in the dialect is written by
one script. Its marks are the brackets of the tree, which open what the trail passes, and without
them it is the text of the dialect. A tree without a text fails alike with marks. -/
structure Dialect.Mirrors {α : Type} (D : Dialect X) (r : Route) (write : Dialect X → α → Emit)
    (stop : α → Stop X) : Prop where
  ok : ∀ t o o', write D t o = .ok () o' → ∃ script : Script,
    script.marks = (stop t).brackets r ∧
    script.filterMap Cue.opened? = ((stop t).trail r).flatMap Stop.constructs ∧
    o'.sql = o.sql ++ script.unmarked ∧
    ∀ marks, write (D.marked marks) t o = .ok () { o' with sql := o.sql ++ script.render marks }
  error : ∀ t o e o', write D t o = .error e o' →
    ∀ marks, ∃ o'', write (D.marked marks) t o = .error e o''

/-- What opens in a script opens in its marks. -/
theorem Script.filterMap_opened_marks (script : Script) :
    script.marks.filterMap Cue.opened? = script.filterMap Cue.opened? := by
  induction script with
  | nil => rfl
  | cons cue script ih =>
    cases cue with
    | opening c => exact congrArg (c :: ·) ih
    | _ => exact ih

namespace Dialect

/-- Trees whose pieces are scripted are mirrored by their marked texts. -/
theorem Mirrors.of_scripted {α : Type} {D : Dialect X} {r : Route} {write : Dialect X → α → Emit}
    {stop : α → Stop X} {bare : α → Piece} {marked : Marks → α → Piece}
    (hbare : ∀ t, write D t = emit (bare t))
    (hmarked : ∀ marks t, write (D.marked marks) t = emit (marked marks t))
    (h : ∀ t, Scripted (bare t) (fun marks => marked marks t) ((stop t).brackets r)) :
    D.Mirrors r write stop where
  ok t o o' hok := by
    rw [hbare] at hok
    have herror := (emit_ok_iff (bare t) o).1 ⟨o', hok⟩
    obtain ⟨script, hbrackets, hsql, hscript⟩ := (h t).script herror
    have ho' : o' = ⟨o.sql ++ (bare t).sql, o.events ++ (bare t).events⟩ := by
      rw [emit, herror] at hok
      cases hok
      rfl
    subst ho'
    refine ⟨script, hbrackets, ?_, ?_, ?_⟩
    · rw [← Script.filterMap_opened_marks, hbrackets, Stop.opened_brackets]
    · rw [hsql]
    · intro marks
      rw [hmarked, hscript]
      rfl
  error t o e o' hfails marks := by
    rw [hbare] at hfails
    have herror := (emit_error_iff (bare t) o e).1 ⟨o', hfails⟩
    rw [hmarked, emit_error_iff]
    exact (h t).error e herror marks

/-- The dialect mirrors expressions, queries and row sources. -/
structure MirrorsTrees (D : Dialect X) (r : Route) : Prop where
  exprs : D.Mirrors r writeExpr .expr
  queries : D.Mirrors r writeQuery .query
  sources : D.Mirrors r writeSource .source

/-- A dialect that follows a scheme mirrors its trees. -/
theorem Follows.mirrorsTrees {D : Dialect X} {L : Scheme X} {r : Route}
    (h : D.Follows L fun _ p => p) (hwalks : L.Walks r) : D.MirrorsTrees r := by
  have hbare := h.writeStop_emit
  have hmarked := fun marks : Marks => (h.marked marks).writeStop_emit
  have hscripted := h.scripted_stop hwalks
  exact ⟨.of_scripted (fun e => hbare (.expr e)) (fun marks e => hmarked marks (.expr e))
      fun e => hscripted (.expr e),
    .of_scripted (fun q => hbare (.query q)) (fun marks q => hmarked marks (.query q))
      fun q => hscripted (.query q),
    .of_scripted (fun s => hbare (.source s)) (fun marks s => hmarked marks (.source s))
      fun s => hscripted (.source s)⟩

/-- Standard rules, with the usual quotes or with other ones, pass every part of a tree through the
dialect exactly once: marks around the constructs come in pairs, one for each rule that a stop of
the trail passes through, and the pairs nest and follow one another as the stops do. -/
theorem marks_mirror_tree :
    plain.MirrorsTrees Standard.route ∧ ansi.MirrorsTrees Standard.route :=
  ⟨plain_follows.mirrorsTrees plainScheme_walks, ansi_follows.mirrorsTrees ansiScheme_walks⟩

example : (braced.writeExpr (.unary .not (.call "f" [.raw "p"] false none) none)).fresh.sql =
    "v\x7bu\x7bNOT (v\x7bf\x7bf(v\x7bp\x7d)\x7d\x7d)\x7d\x7d" := by rfl

end Dialect

end SqlScribe
