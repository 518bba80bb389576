import SqlScribe.Proofs.DialectPiece

/-!
# Sums of strings

MySQL does not concatenate with `+`, so an addition of strings is written as a call of `CONCAT`
wherever both sides are known to be strings. A `StringSum` is a tree of such additions down to the
first expressions that are none, its leaves. Its `parts` say how it is written: the texts that the
additions contribute themselves, with the leaves between them.

An addition counts as a string for the addition above it, no matter how it is written itself. So
what decides is only what a leaf is typed as, right below the addition that it belongs to, and a sum
has an infix `+` of its own exactly if one of its leaves is not typed as a string.
-/

namespace SqlScribe

open Emit Piece

/-! ## Typed as strings -/

namespace Expr

variable {X : Signature}

/-- The expression is an operator of kind string that carries no type, or else it carries a type of
kind string. -/
def IsStringTyped (e : Expr X) : Prop :=
  (∃ op a b, e = .binary op a b .string none) ∨
    (∀ op a b kind, e ≠ .binary op a b kind none) ∧
      ∃ type, e.type? = some type ∧ type.kind = .string

/-- The test for strings decides what being a string means. -/
theorem isString_iff (e : Expr X) : e.isString = true ↔ e.IsStringTyped := by
  by_cases h : ∃ op a b kind, e = .binary op a b kind none
  · obtain ⟨op, a, b, kind, rfl⟩ := h
    rw [isString, decide_eq_true_iff]
    constructor
    · rintro rfl
      exact .inl ⟨op, a, b, rfl⟩
    · rintro (⟨_, _, _, heq⟩ | ⟨hnot, -⟩)
      · cases heq
        rfl
      · exact absurd rfl (hnot op a b kind)
  · have hnot : ∀ op a b kind, e ≠ .binary op a b kind none :=
      fun op a b kind heq => h ⟨op, a, b, kind, heq⟩
    have hstring : e.isString = e.type?.any SqlType.isString := by
      rw [isString]
      exact hnot
    rw [hstring, Option.any_eq_true]
    constructor
    · rintro ⟨type, htype, hkind⟩
      exact .inr ⟨hnot, type, htype, of_decide_eq_true hkind⟩
    · rintro (⟨op, a, b, rfl⟩ | ⟨-, type, htype, hkind⟩)
      · exact absurd rfl (hnot op a b .string)
      · exact ⟨type, htype, decide_eq_true hkind⟩

instance (e : Expr X) : Decidable e.IsStringTyped :=
  decidable_of_iff _ e.isString_iff

/-- The expression is an addition of kind string that carries no type. -/
def isStringAddition : Expr X → Bool
  | .binary .add _ _ .string none => true
  | _ => false

end Expr

/-! ## Pieces that succeed -/

/-- The piece succeeds with the text. -/
def Piece.Writes (p : Piece) (sql : String) : Prop := p.error = none ∧ p.sql = sql

namespace Piece.Writes

variable {p q : Piece} {a b : String}

theorem text (sql : String) : Writes (text sql) sql := ⟨rfl, rfl⟩

theorem append (hp : Writes p a) (hq : Writes q b) : Writes (p ++ q) (a ++ b) := by
  rw [append_of_none hp.1]
  exact ⟨hq.1, by rw [hp.2, hq.2]⟩

theorem parenthesized (hp : Writes p a) : Writes p.parenthesized ("(" ++ a ++ ")") :=
  ((Writes.text "(").append hp).append (.text ")")

end Piece.Writes

namespace MySql

/-! ## Sums -/

/-- Additions of kind string without a type, down to expressions that are none. -/
inductive StringSum where
  | leaf (e : Expr signature) (h : e.isStringAddition = false)
  | node (left right : StringSum)

/-- A part of the text of a sum. -/
inductive SumPart where
  /-- A text of the sum itself. -/
  | own (text : String)
  | leaf (e : Expr signature)

namespace StringSum

/-- The sum as an expression. -/
def expr : StringSum → Expr signature
  | leaf e _ => e
  | node left right => .binary .add left.expr right.expr .string none

/-- What is added, from left to right. -/
def leaves : StringSum → List (Expr signature)
  | leaf e _ => [e]
  | node left right => left.leaves ++ right.leaves

/-- The sum adds something to something. -/
def isNode : StringSum → Bool
  | leaf _ _ => false
  | node _ _ => true

/-- As an operand the sum is a string: it is an addition, or a leaf that is typed as one. -/
def IsString (s : StringSum) : Prop := s.isNode = true ∨ s.expr.IsStringTyped

instance (s : StringSum) : Decidable s.IsString := inferInstanceAs (Decidable (_ ∨ _))

/-- The parts between parentheses if the sum, as an operand of `+`, is a binary operator or a
pattern match. -/
def grouped (s : StringSum) (parts : List SumPart) : List SumPart :=
  match s.expr with
  | .binary .. | .like .. => .own "(" :: parts ++ [.own ")"]
  | _ => parts

/-- How the sum is written. -/
def parts : StringSum → List SumPart
  | leaf e _ => [.leaf e]
  | node left right =>
    if left.IsString ∧ right.IsString then
      .own "CONCAT(" :: left.parts ++ .own ", " :: right.parts ++ [.own ")"]
    else
      left.grouped left.parts ++ .own " + " :: right.grouped right.parts

end StringSum

/-- The text of a part, given those of the leaves. -/
def SumPart.text (leafText : Expr signature → String) : SumPart → String
  | own text => text
  | leaf e => leafText e

/-- The text of parts, given those of the leaves. -/
def textOf (leafText : Expr signature → String) (parts : List SumPart) : String :=
  String.join (parts.map (SumPart.text leafText))

namespace StringSum

variable (support : CastSupport) (rules : CastRules) {leafText : Expr signature → String}

/-- An addition is typed as a string by its kind. -/
theorem isStringTyped_expr (s : StringSum) : s.expr.IsStringTyped ↔ s.IsString := by
  refine ⟨.inr, fun h => ?_⟩
  cases s with
  | leaf e he => exact h.resolve_left Bool.false_ne_true
  | node left right => exact .inl ⟨.add, left.expr, right.expr, rfl⟩

/-- The test for strings decides whether a sum is one as an operand. -/
theorem isString_expr (s : StringSum) : s.expr.isString = true ↔ s.IsString := by
  rw [Expr.isString_iff, isStringTyped_expr]

/-- Parentheses stand around what is an operator when it is written as an operand. -/
theorem grouped_eq (s : StringSum) (parts : List SumPart) :
    s.grouped parts = if s.expr.isOperator then .own "(" :: parts ++ [.own ")"] else parts := by
  unfold grouped Expr.isOperator
  cases s.expr <;> rfl

/-- An operand writes its parts, in parentheses if it needs them. -/
theorem writes_operand {s : StringSum} {p : Piece} {parts : List SumPart}
    (h : p.Writes (textOf leafText parts)) :
    (Piece.operand s.expr p).Writes (textOf leafText (s.grouped parts)) := by
  rw [grouped_eq, Piece.operand]
  split
  · have hparentheses : textOf leafText (.own "(" :: parts ++ [.own ")"]) =
        "(" ++ textOf leafText parts ++ ")" := by
      simp [textOf, SumPart.text, String.append_assoc]
    rw [hparentheses]
    exact h.parenthesized
  · exact h

/-- The piece of a sum has the text of its parts. -/
theorem writes_expr (s : StringSum)
    (h : ∀ e ∈ s.leaves, ((dialect support rules).exprPiece e).Writes (leafText e)) :
    ((dialect support rules).exprPiece s.expr).Writes (textOf leafText s.parts) := by
  induction s with
  | leaf e he =>
    have htext : textOf leafText [.leaf e] = leafText e := by simp [textOf, SumPart.text]
    rw [parts, htext]
    exact h e List.mem_cons_self
  | node left right ihleft ihright =>
    have hleft := ihleft fun e he => h e (List.mem_append_left _ he)
    have hright := ihright fun e he => h e (List.mem_append_right _ he)
    rw [expr, (dialect_plain support rules).exprPiece_binary]
    change (binary _ _ _ _).piece.Writes _
    rw [binary_emit, piece_emit, parts]
    by_cases hstring : left.IsString ∧ right.IsString
    · have hconcat : isConcatenation .add left.expr right.expr .string = true := by
        simp [isConcatenation, left.isString_expr.2 hstring.1, right.isString_expr.2 hstring.2]
      have htext : textOf leafText
          (.own "CONCAT(" :: left.parts ++ .own ", " :: right.parts ++ [.own ")"]) =
          "CONCAT" ++ ("(" ++ (textOf leafText left.parts ++
            (", " ++ textOf leafText right.parts)) ++ ")") := by
        have hname : ∀ x, "CONCAT" ++ ("(" ++ x) = "CONCAT(" ++ x :=
          fun _ => String.append_assoc.symm
        simp [textOf, SumPart.text, String.append_assoc, hname]
      have hargs : ∀ p q : Piece, Piece.separated ", " [p, q] = p ++ (text ", " ++ q) := by
        intro p q
        simp [Piece.separated, Piece.inOrder]
      rw [if_pos hconcat, if_pos hstring, htext, hargs]
      exact (Writes.text "CONCAT").append
        (hleft.append ((Writes.text ", ").append hright)).parenthesized
    · have hconcat : ¬isConcatenation .add left.expr right.expr .string = true := by
        simpa [isConcatenation, isString_expr] using hstring
      have htext : textOf leafText
          (left.grouped left.parts ++ .own " + " :: right.grouped right.parts) =
          textOf leafText (left.grouped left.parts) ++ " + " ++
            textOf leafText (right.grouped right.parts) := by
        simp [textOf, SumPart.text, String.append_assoc]
      rw [if_neg hconcat, if_neg hstring, htext]
      exact ((writes_operand hleft).append (.text " + ")).append (writes_operand hright)

/-! ## The infix of a sum -/

/-- What is no string is a leaf that is not typed as one. -/
theorem exists_of_not_isString {s : StringSum} (h : ¬s.IsString) :
    ∃ e ∈ s.leaves, ¬e.IsStringTyped := by
  cases s with
  | leaf e he => exact ⟨e, List.mem_cons_self, fun htyped => h (.inr htyped)⟩
  | node left right => exact absurd (.inl rfl) h

/-- A string with a leaf that is not typed as one is an addition. -/
theorem isNode_of_mem {s : StringSum} (h : s.IsString) {e : Expr signature} (he : e ∈ s.leaves)
    (htyped : ¬e.IsStringTyped) : s.isNode = true := by
  cases s with
  | leaf a ha =>
    obtain rfl : e = a := List.mem_singleton.1 he
    exact absurd (h.resolve_left Bool.false_ne_true) htyped
  | node left right => rfl

/-- A sum has a plus sign in it exactly if it adds something that is no string. -/
theorem own_infix_mem_iff (s : StringSum) :
    .own " + " ∈ s.parts ↔ s.isNode = true ∧ ∃ e ∈ s.leaves, ¬e.IsStringTyped := by
  induction s with
  | leaf e he => simp [parts, isNode]
  | node left right ihleft ihright =>
    rw [parts, leaves]
    by_cases hstring : left.IsString ∧ right.IsString
    · have hmem : .own " + " ∈ (.own "CONCAT(" :: left.parts ++ .own ", " :: right.parts ++
          [.own ")"]) ↔ .own " + " ∈ left.parts ∨ .own " + " ∈ right.parts := by
        simp
      rw [if_pos hstring, hmem, ihleft, ihright]
      constructor
      · rintro (⟨-, e, he, htyped⟩ | ⟨-, e, he, htyped⟩)
        · exact ⟨rfl, e, List.mem_append_left _ he, htyped⟩
        · exact ⟨rfl, e, List.mem_append_right _ he, htyped⟩
      · rintro ⟨-, e, he, htyped⟩
        rcases List.mem_append.1 he with he | he
        · exact .inl ⟨isNode_of_mem hstring.1 he htyped, e, he, htyped⟩
        · exact .inr ⟨isNode_of_mem hstring.2 he htyped, e, he, htyped⟩
    · rw [if_neg hstring]
      refine iff_of_true (List.mem_append_right _ List.mem_cons_self) ⟨rfl, ?_⟩
      rcases Decidable.not_and_iff_not_or_not.1 hstring with hleft | hright
      · obtain ⟨e, he, htyped⟩ := exists_of_not_isString hleft
        exact ⟨e, List.mem_append_left _ he, htyped⟩
      · obtain ⟨e, he, htyped⟩ := exists_of_not_isString hright
        exact ⟨e, List.mem_append_right _ he, htyped⟩

end StringSum

/-- If the leaves of a sum have texts, the text of the sum is that of its parts, and it has an infix
of its own exactly if it is an addition and some leaf is not typed as a string. -/
theorem string_sum_text (support : CastSupport) (rules : CastRules) (s : StringSum)
    (leafText : Expr signature → String) (o : Output)
    (hleaves : ∀ e ∈ s.leaves,
      ∃ o', (dialect support rules).compileExpr e o = .ok (leafText e) o') :
    (∃ o', (dialect support rules).compileExpr s.expr o = .ok (textOf leafText s.parts) o') ∧
      (.own " + " ∈ s.parts ↔ s.isNode = true ∧ ∃ e ∈ s.leaves, ¬e.IsStringTyped) := by
  have hplain := dialect_plain support rules
  refine ⟨?_, s.own_infix_mem_iff⟩
  have hwrites := s.writes_expr support rules fun e he => by
    obtain ⟨herror, htext⟩ := (hplain.compileExpr_ok_iff e o _).1 (hleaves e he)
    exact ⟨herror, htext.symm⟩
  exact (hplain.compileExpr_ok_iff s.expr o _).2 ⟨hwrites.1, hwrites.2.symm⟩

/-- Two strings, and something that is not known to be one. -/
def mixedSum : StringSum :=
  .node
    (.node (.leaf (.column none "a" (some ⟨"varchar(50)", .string⟩)) rfl)
      (.leaf (.column none "b" (some ⟨"varchar(50)", .string⟩)) rfl))
    (.leaf (.column none "x" none) rfl)

/-- The strings are concatenated, and the result is grouped as any other operator. -/
theorem string_sum_text_mixed :
    (∃ o', (dialect .none []).compileExpr mixedSum.expr {} =
      .ok "(CONCAT(`a`, `b`)) + `x`" o') ∧ .own " + " ∈ mixedSum.parts := by
  have hleaves : ∀ e ∈ mixedSum.leaves, ∃ o', (dialect .none []).compileExpr e {} =
      .ok ((dialect .none []).exprPiece e).sql o' := by
    intro e he
    simp only [mixedSum, StringSum.leaves, List.cons_append, List.nil_append, List.mem_cons,
      List.not_mem_nil, or_false] at he
    rcases he with rfl | rfl | rfl
    all_goals exact ⟨_, rfl⟩
  obtain ⟨htext, hinfix⟩ := string_sum_text .none [] mixedSum _ {} hleaves
  refine ⟨htext, hinfix.2 ⟨rfl, .column none "x" none, ?_, by decide⟩⟩
  exact List.mem_append_right _ List.mem_cons_self

end MySql

end SqlScribe
