import SqlScribe.Expr.Basic

/-!
# Equality of trees

Two trees are equal when they have the same shape with the same contents. The comparison follows
the first tree and agrees with equality (`Expr.same_iff`, `Query.same_iff`, `Source.same_iff`), so
trees over a signature with decidable equality have decidable equality themselves.
-/

namespace SqlScribe

/-- Decidable equality of all nodes that a dialect adds. -/
class Signature.Comparable (X : Signature) where
  nullary : DecidableEq X.Nullary
  unary : DecidableEq X.Unary
  binary : DecidableEq X.Binary
  variadic : DecidableEq X.Variadic

instance : Signature.none.Comparable := ⟨inferInstance, inferInstance, inferInstance, inferInstance⟩

section Comparison

variable {X : Signature} [C : X.Comparable]

mutual

/-- Whether two expressions are equal. -/
def Expr.same : Expr X → Expr X → Bool
  | .literal v t, e => match e with
    | .literal v' t' => v == v' && t == t'
    | _ => false
  | .parameter n t, e => match e with
    | .parameter n' t' => n == n' && t == t'
    | _ => false
  | .column s n t, e => match e with
    | .column s' n' t' => s == s' && n == n' && t == t'
    | _ => false
  | .raw s, e => match e with
    | .raw s' => s == s'
    | _ => false
  | .call f as b t, e => match e with
    | .call f' as' b' t' => f == f' && sameExprs as as' && b == b' && t == t'
    | _ => false
  | .unary op a t, e => match e with
    | .unary op' a' t' => op == op' && a.same a' && t == t'
    | _ => false
  | .binary op a b k t, e => match e with
    | .binary op' a' b' k' t' => op == op' && a.same a' && b.same b' && k == k' && t == t'
    | _ => false
  | .like a b c, e => match e with
    | .like a' b' c' => a.same a' && b.same b' && sameExpr? c c'
    | _ => false
  | .member a as b, e => match e with
    | .member a' as' b' => a.same a' && sameExprs as as' && b == b'
    | _ => false
  | .choice a bs c t, e => match e with
    | .choice a' bs' c' t' => sameExpr? a a' && sameBranches bs bs' && sameExpr? c c' && t == t'
    | _ => false
  | .existence q b, e => match e with
    | .existence q' b' => q.same q' && b == b'
    | _ => false
  | .scalar q, e => match e with
    | .scalar q' => q.same q'
    | _ => false
  | .nullary n, e => match e with
    | .nullary n' => (C.nullary n n').decide
    | _ => false
  | .dialectUnary n a, e => match e with
    | .dialectUnary n' a' => (C.unary n n').decide && a.same a'
    | _ => false
  | .dialectBinary n a b, e => match e with
    | .dialectBinary n' a' b' => (C.binary n n').decide && a.same a' && b.same b'
    | _ => false
  | .variadic n as, e => match e with
    | .variadic n' as' => (C.variadic n n').decide && sameExprs as as'
    | _ => false

/-- Whether two lists of expressions are equal. -/
def sameExprs : List (Expr X) → List (Expr X) → Bool
  | [], as => as.isEmpty
  | a :: as, bs => match bs with
    | b :: bs => a.same b && sameExprs as bs
    | [] => false

/-- Whether two optional expressions are equal. -/
def sameExpr? : Option (Expr X) → Option (Expr X) → Bool
  | none, a => a.isNone
  | some a, b => match b with
    | some b => a.same b
    | none => false

/-- Whether two lists of branches are equal. -/
def sameBranches : List (Branch X) → List (Branch X) → Bool
  | [], bs => bs.isEmpty
  | ⟨a, b⟩ :: as, bs => match bs with
    | ⟨a', b'⟩ :: bs => (a.same a' && b.same b') && sameBranches as bs
    | [] => false

/-- Whether two lists of output columns are equal. -/
def sameColumns : List (OutputColumn X) → List (OutputColumn X) → Bool
  | [], bs => bs.isEmpty
  | ⟨a, l⟩ :: as, bs => match bs with
    | ⟨a', l'⟩ :: bs => (a.same a' && l == l') && sameColumns as bs
    | [] => false

/-- Whether two lists of sort keys are equal. -/
def sameSortKeys : List (SortKey X) → List (SortKey X) → Bool
  | [], bs => bs.isEmpty
  | ⟨a, d⟩ :: as, bs => match bs with
    | ⟨a', d'⟩ :: bs => (a.same a' && d == d') && sameSortKeys as bs
    | [] => false

/-- Whether two lists of row sources are equal. -/
def sameSources : List (Source X) → List (Source X) → Bool
  | [], bs => bs.isEmpty
  | a :: as, bs => match bs with
    | b :: bs => a.same b && sameSources as bs
    | [] => false

/-- Whether two queries are equal. -/
def Query.same : Query X → Query X → Bool
  | ⟨d, cs, ss, p, gs, g, ks, l, o⟩, ⟨d', cs', ss', p', gs', g', ks', l', o'⟩ =>
    d == d' && sameColumns cs cs' && sameSources ss ss' && sameExpr? p p' && sameExprs gs gs' &&
      sameExpr? g g' && sameSortKeys ks ks' && sameExpr? l l' && sameExpr? o o'

/-- Whether two row sources are equal. -/
def Source.same : Source X → Source X → Bool
  | .table s n l, e => match e with
    | .table s' n' l' => s == s' && n == n' && l == l'
    | _ => false
  | .derived q l, e => match e with
    | .derived q' l' => q.same q' && l == l'
    | _ => false
  | .innerJoin s c, e => match e with
    | .innerJoin s' c' => s.same s' && c.same c'
    | _ => false
  | .leftJoin s c, e => match e with
    | .leftJoin s' c' => s.same s' && c.same c'
    | _ => false
  | .crossJoin s, e => match e with
    | .crossJoin s' => s.same s'
    | _ => false
  | .crossApply s, e => match e with
    | .crossApply s' => s.same s'
    | _ => false
  | .outerApply s, e => match e with
    | .outerApply s' => s.same s'
    | _ => false

end

mutual

/-- The comparison of expressions is equality. -/
theorem Expr.same_iff : ∀ a b : Expr X, a.same b = true ↔ a = b
  | .literal .., e => by cases e <;> simp [Expr.same]
  | .parameter .., e => by cases e <;> simp [Expr.same]
  | .column .., e => by cases e <;> simp [Expr.same, and_assoc]
  | .raw _, e => by cases e <;> simp [Expr.same]
  | .call _ as _ _, e => by cases e <;> simp [Expr.same, sameExprs_iff as, and_assoc]
  | .unary _ a _, e => by cases e <;> simp [Expr.same, Expr.same_iff a, and_assoc]
  | .binary _ a b _ _, e => by
    cases e <;> simp [Expr.same, Expr.same_iff a, Expr.same_iff b, and_assoc]
  | .like a b c, e => by
    cases e <;> simp [Expr.same, Expr.same_iff a, Expr.same_iff b, sameExpr?_iff c, and_assoc]
  | .member a as _, e => by
    cases e <;> simp [Expr.same, Expr.same_iff a, sameExprs_iff as, and_assoc]
  | .choice a bs c _, e => by
    cases e <;> simp [Expr.same, sameExpr?_iff a, sameBranches_iff bs, sameExpr?_iff c, and_assoc]
  | .existence q _, e => by cases e <;> simp [Expr.same, Query.same_iff q]
  | .scalar q, e => by cases e <;> simp [Expr.same, Query.same_iff q]
  | .nullary _, e => by cases e <;> simp [Expr.same]
  | .dialectUnary _ a, e => by cases e <;> simp [Expr.same, Expr.same_iff a]
  | .dialectBinary _ a b, e => by
    cases e <;> simp [Expr.same, Expr.same_iff a, Expr.same_iff b, and_assoc]
  | .variadic _ as, e => by cases e <;> simp [Expr.same, sameExprs_iff as]

theorem sameExprs_iff : ∀ as bs : List (Expr X), sameExprs as bs = true ↔ as = bs
  | [], bs => by cases bs <;> simp [sameExprs]
  | a :: as, bs => by cases bs <;> simp [sameExprs, Expr.same_iff a, sameExprs_iff as]

theorem sameExpr?_iff : ∀ a b : Option (Expr X), sameExpr? a b = true ↔ a = b
  | none, b => by cases b <;> simp [sameExpr?]
  | some a, b => by cases b <;> simp [sameExpr?, Expr.same_iff a]

theorem sameBranches_iff : ∀ as bs : List (Branch X), sameBranches as bs = true ↔ as = bs
  | [], bs => by cases bs <;> simp [sameBranches]
  | ⟨a, b⟩ :: as, bs => by
    rcases bs with _ | ⟨⟨_, _⟩, _⟩ <;>
      simp [sameBranches, Expr.same_iff a, Expr.same_iff b, sameBranches_iff as]

theorem sameColumns_iff : ∀ as bs : List (OutputColumn X), sameColumns as bs = true ↔ as = bs
  | [], bs => by cases bs <;> simp [sameColumns]
  | ⟨a, _⟩ :: as, bs => by
    rcases bs with _ | ⟨⟨_, _⟩, _⟩ <;> simp [sameColumns, Expr.same_iff a, sameColumns_iff as]

theorem sameSortKeys_iff : ∀ as bs : List (SortKey X), sameSortKeys as bs = true ↔ as = bs
  | [], bs => by cases bs <;> simp [sameSortKeys]
  | ⟨a, _⟩ :: as, bs => by
    rcases bs with _ | ⟨⟨_, _⟩, _⟩ <;> simp [sameSortKeys, Expr.same_iff a, sameSortKeys_iff as]

theorem sameSources_iff : ∀ as bs : List (Source X), sameSources as bs = true ↔ as = bs
  | [], bs => by cases bs <;> simp [sameSources]
  | a :: as, bs => by cases bs <;> simp [sameSources, Source.same_iff a, sameSources_iff as]

/-- The comparison of queries is equality. -/
theorem Query.same_iff : ∀ a b : Query X, a.same b = true ↔ a = b
  | ⟨_, cs, ss, p, gs, g, ks, l, o⟩, ⟨_, _, _, _, _, _, _, _, _⟩ => by
    simp [Query.same, sameColumns_iff cs, sameSources_iff ss, sameExpr?_iff p, sameExprs_iff gs,
      sameExpr?_iff g, sameSortKeys_iff ks, sameExpr?_iff l, sameExpr?_iff o, and_assoc]

/-- The comparison of row sources is equality. -/
theorem Source.same_iff : ∀ a b : Source X, a.same b = true ↔ a = b
  | .table .., e => by cases e <;> simp [Source.same, and_assoc]
  | .derived q _, e => by cases e <;> simp [Source.same, Query.same_iff q]
  | .innerJoin s c, e => by cases e <;> simp [Source.same, Source.same_iff s, Expr.same_iff c]
  | .leftJoin s c, e => by cases e <;> simp [Source.same, Source.same_iff s, Expr.same_iff c]
  | .crossJoin s, e => by cases e <;> simp [Source.same, Source.same_iff s]
  | .crossApply s, e => by cases e <;> simp [Source.same, Source.same_iff s]
  | .outerApply s, e => by cases e <;> simp [Source.same, Source.same_iff s]

end

instance : DecidableEq (Expr X) := fun a b => decidable_of_iff _ (Expr.same_iff a b)

instance : DecidableEq (Query X) := fun a b => decidable_of_iff _ (Query.same_iff a b)

instance : DecidableEq (Source X) := fun a b => decidable_of_iff _ (Source.same_iff a b)

end Comparison

end SqlScribe
