import SqlScribe.Expr.Basic
import SqlScribe.Proofs.Reading

/-!
# Trees of operators

An `OperatorTree` is an expression of columns and operators without its types and kinds, and
`Expr.operatorTree?` finds the one of an expression. Its `reading` is what its text tells of it.

A tree is well grouped if no minus sign is put before a test and no pattern match is the subject or
the pattern of another. A well grouped tree is found again from its reading (`tree_reading`), so
among these trees no two have the same reading.
-/

namespace SqlScribe

open Reading

/-- Expressions of columns and operators, up to types and kinds. -/
inductive OperatorTree where
  | column (table : Option String) (name : String)
  | not (a : OperatorTree)
  | negate (a : OperatorTree)
  | isNull (a : OperatorTree)
  | isNotNull (a : OperatorTree)
  | binary (op : BinaryOp) (a b : OperatorTree)
  | like (a b : OperatorTree) (c : Option OperatorTree)
  | member (a : OperatorTree) (values : List OperatorTree) (negated : Bool)

section

variable {X : Signature}

mutual

/-- The tree of an expression, if it has only columns and operators. -/
def Expr.operatorTree? : Expr X → Option OperatorTree
  | .column table name _ => some (.column table name)
  | .unary .not a _ => a.operatorTree?.map .not
  | .unary .negate a _ => a.operatorTree?.map .negate
  | .unary .isNull a _ => a.operatorTree?.map .isNull
  | .unary .isNotNull a _ => a.operatorTree?.map .isNotNull
  | .binary op a b _ _ => do return .binary op (← a.operatorTree?) (← b.operatorTree?)
  | .like a b c => do return .like (← a.operatorTree?) (← b.operatorTree?) (← optionTree? c)
  | .member a values negated => do
    return .member (← a.operatorTree?) (← operatorTrees? values) negated
  | _ => none

/-- The trees of several expressions, if each has one. -/
def operatorTrees? : List (Expr X) → Option (List OperatorTree)
  | [] => some []
  | a :: as => do return (← a.operatorTree?) :: (← operatorTrees? as)

/-- The tree of an optional expression, if it has one. -/
def optionTree? : Option (Expr X) → Option (Option OperatorTree)
  | none => some none
  | some a => a.operatorTree?.map some

end

variable {a b : Expr X} {as : List (Expr X)} {c : Option (Expr X)}

/-- The tree of an operator has the trees of its operands. -/
theorem Expr.exists_of_operatorTree?_binary {op : BinaryOp} {kind : ScalarKind}
    {type : Option SqlType} {t : OperatorTree}
    (h : (Expr.binary op a b kind type).operatorTree? = some t) :
    ∃ u v, a.operatorTree? = some u ∧ b.operatorTree? = some v ∧ t = .binary op u v := by
  simp only [Expr.operatorTree?, Option.bind_eq_bind, Option.bind_eq_some_iff] at h
  obtain ⟨u, hu, v, hv, ht⟩ := h
  exact ⟨u, v, hu, hv, (Option.some.inj ht).symm⟩

theorem Expr.exists_of_operatorTree?_like {t : OperatorTree}
    (h : (Expr.like a b c).operatorTree? = some t) :
    ∃ u v w, a.operatorTree? = some u ∧ b.operatorTree? = some v ∧ optionTree? c = some w ∧
      t = .like u v w := by
  simp only [Expr.operatorTree?, Option.bind_eq_bind, Option.bind_eq_some_iff] at h
  obtain ⟨u, hu, v, hv, w, hw, ht⟩ := h
  exact ⟨u, v, w, hu, hv, hw, (Option.some.inj ht).symm⟩

theorem Expr.exists_of_operatorTree?_member {negated : Bool} {t : OperatorTree}
    (h : (Expr.member a as negated).operatorTree? = some t) :
    ∃ u us, a.operatorTree? = some u ∧ operatorTrees? as = some us ∧ t = .member u us negated := by
  simp only [Expr.operatorTree?, Option.bind_eq_bind, Option.bind_eq_some_iff] at h
  obtain ⟨u, hu, us, hus, ht⟩ := h
  exact ⟨u, us, hu, hus, (Option.some.inj ht).symm⟩

theorem exists_of_operatorTrees?_cons {ts : List OperatorTree}
    (h : operatorTrees? (a :: as) = some ts) :
    ∃ u us, a.operatorTree? = some u ∧ operatorTrees? as = some us ∧ ts = u :: us := by
  simp only [operatorTrees?, Option.bind_eq_bind, Option.bind_eq_some_iff] at h
  obtain ⟨u, hu, us, hus, ht⟩ := h
  exact ⟨u, us, hu, hus, (Option.some.inj ht).symm⟩

end

/-! ## The reading of a tree -/

namespace Reading

/-- Two chains with a link between them. -/
def Chain.append : Chain → Link → Chain → Chain
  | .item i, l, d => .link i l d
  | .link i k c, l, d => .link i k (c.append l d)

/-- A chain in the place of an operand: more than a term gets parentheses. -/
def Chain.asTerm : Chain → Term
  | .item (.term t) => t
  | c => .mk 0 (.group c) []

/-- A chain of a single atom. -/
def Chain.ofAtom (a : Atom) : Chain := .item (.term (.mk 0 a []))

/-- One more minus sign before a term. -/
def Term.negate : Term → Term
  | .mk n a xs => .mk (n + 1) a xs

/-- One more test behind a term. -/
def Term.suffixed (x : Suffix) : Term → Term
  | .mk n a xs => .mk n a (xs ++ [x])

end Reading

mutual

/-- What the text of a tree tells. -/
def OperatorTree.reading : OperatorTree → Chain
  | .column table name => .ofAtom (.column table name)
  | .not a => .ofAtom (.not a.reading)
  | .negate a => .item (.term a.reading.asTerm.negate)
  | .isNull a => .item (.term (a.reading.asTerm.suffixed .isNull))
  | .isNotNull a => .item (.term (a.reading.asTerm.suffixed .isNotNull))
  | .binary op a b => .item (.binary op a.reading.asTerm b.reading.asTerm)
  | .like a b c => a.reading.append .like (escapeReading b.reading c)
  | .member a values negated =>
    .item (.term (a.reading.asTerm.suffixed (.within negated (readings values))))

/-- The readings of several trees. -/
def readings : List OperatorTree → List Chain
  | [] => []
  | t :: ts => t.reading :: readings ts

/-- The reading of a pattern with the escape that may follow it. -/
def escapeReading (pattern : Chain) : Option OperatorTree → Chain
  | none => pattern
  | some c => pattern.append .escape c.reading

end

namespace OperatorTree

/-- The tree is a test behind an operand. -/
def isTest : OperatorTree → Bool
  | isNull _ => true
  | isNotNull _ => true
  | member .. => true
  | _ => false

/-- The tree is a comparison with a pattern. -/
def isLike : OperatorTree → Bool
  | like .. => true
  | _ => false

/-- The tree gets parentheses in the place of an operand. -/
def isOperator : OperatorTree → Bool
  | binary .. => true
  | like .. => true
  | _ => false

end OperatorTree

mutual

/-- No minus sign is before a test, and no pattern match is the subject or the pattern of
another. -/
def OperatorTree.isWellGrouped : OperatorTree → Bool
  | .column _ _ => true
  | .not a => a.isWellGrouped
  | .negate a => !a.isTest && a.isWellGrouped
  | .isNull a => a.isWellGrouped
  | .isNotNull a => a.isWellGrouped
  | .binary _ a b => a.isWellGrouped && b.isWellGrouped
  | .like a b c =>
    !a.isLike && !b.isLike && a.isWellGrouped && b.isWellGrouped && isWellGrouped? c
  | .member a values _ => a.isWellGrouped && areWellGrouped values

/-- All of the trees are well grouped. -/
def areWellGrouped : List OperatorTree → Bool
  | [] => true
  | t :: ts => t.isWellGrouped && areWellGrouped ts

/-- The tree is well grouped, if there is one. -/
def isWellGrouped? : Option OperatorTree → Bool
  | none => true
  | some c => c.isWellGrouped

end

/-! ## Back from readings to trees -/

/-- The tree behind some minus signs. -/
def OperatorTree.negated (t : OperatorTree) : Nat → OperatorTree
  | 0 => t
  | n + 1 => .negate (t.negated n)

namespace Reading

mutual

/-- A tree with the given reading, where the links of a chain are taken from the right. -/
def Chain.tree : Chain → OperatorTree
  | .item i => i.tree
  | .link i .like (.link j .escape c) => .like i.tree j.tree (some c.tree)
  | .link i _ c => .like i.tree c.tree none

/-- The tree of an item. -/
def Item.tree : Item → OperatorTree
  | .term t => t.tree
  | .binary op a b => .binary op a.tree b.tree

/-- A tree that reads as the term, with the minus signs inside the suffixes. -/
def Term.tree : Term → OperatorTree
  | .mk n a xs => suffixTree (a.tree.negated n) xs

/-- The tree of an atom. Parentheses around a chain leave no trace in it. -/
def Atom.tree : Atom → OperatorTree
  | .column table name => .column table name
  | .not c => .not c.tree
  | .group c => c.tree

/-- The tree with suffixes behind it. -/
def suffixTree (t : OperatorTree) : List Suffix → OperatorTree
  | [] => t
  | .isNull :: xs => suffixTree (.isNull t) xs
  | .isNotNull :: xs => suffixTree (.isNotNull t) xs
  | .within negated cs :: xs => suffixTree (.member t (trees cs) negated) xs

/-- The trees of several chains. -/
def trees : List Chain → List OperatorTree
  | [] => []
  | c :: cs => c.tree :: trees cs

end

/-! ### The parts of a reading -/

theorem Term.tree_negate {n : Nat} {a : Atom} :
    (Term.mk n a []).negate.tree = .negate (Term.mk n a []).tree := rfl

theorem suffixTree_append (t : OperatorTree) (xs ys : List Suffix) :
    suffixTree t (xs ++ ys) = suffixTree (suffixTree t xs) ys := by
  induction xs generalizing t with
  | nil => rfl
  | cons x xs ih => cases x <;> exact ih _

theorem Term.tree_suffixed (x : Suffix) (u : Term) :
    (u.suffixed x).tree = suffixTree u.tree [x] := by
  obtain ⟨n, a, xs⟩ := u
  exact suffixTree_append _ xs [x]

/-- Linked chains get parentheses. -/
theorem Chain.asTerm_append (c : Chain) (l : Link) (d : Chain) :
    (c.append l d).asTerm = .mk 0 (.group (c.append l d)) [] := by
  cases c <;> rfl

/-- Parentheses do not change the tree. -/
theorem Chain.tree_asTerm (c : Chain) : c.asTerm.tree = c.tree := by
  unfold Chain.asTerm
  split <;> rfl

end Reading

namespace OperatorTree

/-- Only a pattern match reads as more than one item. -/
theorem exists_reading_eq_item {t : OperatorTree} (h : t.isLike = false)
    (ht : t.reading.tree = t) : ∃ i, t.reading = .item i ∧ i.tree = t := by
  cases t with
  | like a b c => exact nomatch h
  | _ => exact ⟨_, rfl, ht⟩

/-- Only a test has a suffix, and minus signs do not hide one if the tree is well grouped. -/
theorem exists_asTerm_reading_eq : ∀ t : OperatorTree, t.isTest = false → t.isWellGrouped = true →
    ∃ n a, t.reading.asTerm = .mk n a []
  | .column _ _, _, _ => ⟨0, _, rfl⟩
  | .not _, _, _ => ⟨0, _, rfl⟩
  | .negate a, _, h => by
    simp only [isWellGrouped, Bool.and_eq_true, Bool.not_eq_true'] at h
    obtain ⟨n, b, hb⟩ := exists_asTerm_reading_eq a h.1 h.2
    refine ⟨n + 1, b, ?_⟩
    rw [reading, Chain.asTerm, hb, Term.negate]
  | .binary _ _ _, _, _ => ⟨0, _, rfl⟩
  | .like _ _ _, _, _ => ⟨0, _, Chain.asTerm_append _ _ _⟩

mutual

/-- A well grouped tree is found again from its reading. -/
theorem tree_reading : ∀ t : OperatorTree, t.isWellGrouped = true → t.reading.tree = t
  | .column _ _, _ => rfl
  | .not a, h => congrArg OperatorTree.not (tree_reading a h)
  | .negate a, h => by
    simp only [isWellGrouped, Bool.and_eq_true, Bool.not_eq_true'] at h
    -- The operand has no suffix, so the minus sign is put before its atom and nothing else.
    obtain ⟨n, b, hb⟩ := exists_asTerm_reading_eq a h.1 h.2
    have ha : (Term.mk n b []).tree = a := by
      rw [← hb, Chain.tree_asTerm, tree_reading a h.2]
    change a.reading.asTerm.negate.tree = _
    rw [hb, Term.tree_negate, ha]
  | .isNull a, h => by
    change (a.reading.asTerm.suffixed .isNull).tree = _
    rw [Term.tree_suffixed, Chain.tree_asTerm, tree_reading a h]
    rfl
  | .isNotNull a, h => by
    change (a.reading.asTerm.suffixed .isNotNull).tree = _
    rw [Term.tree_suffixed, Chain.tree_asTerm, tree_reading a h]
    rfl
  | .binary op a b, h => by
    simp only [isWellGrouped, Bool.and_eq_true] at h
    change OperatorTree.binary op a.reading.asTerm.tree b.reading.asTerm.tree = _
    rw [Chain.tree_asTerm, Chain.tree_asTerm, tree_reading a h.1, tree_reading b h.2]
  | .like a b none, h => by
    simp only [isWellGrouped, Bool.and_eq_true, Bool.not_eq_true'] at h
    obtain ⟨⟨⟨⟨hlikea, hlikeb⟩, ha⟩, hb⟩, -⟩ := h
    obtain ⟨i, hi, hai⟩ := exists_reading_eq_item hlikea (tree_reading a ha)
    obtain ⟨j, hj, hbj⟩ := exists_reading_eq_item hlikeb (tree_reading b hb)
    rw [reading, hi, escapeReading, hj, ← hai, ← hbj]
    rfl
  | .like a b (some c), h => by
    simp only [isWellGrouped, isWellGrouped?, Bool.and_eq_true, Bool.not_eq_true'] at h
    obtain ⟨⟨⟨⟨hlikea, hlikeb⟩, ha⟩, hb⟩, hc⟩ := h
    obtain ⟨i, hi, hai⟩ := exists_reading_eq_item hlikea (tree_reading a ha)
    obtain ⟨j, hj, hbj⟩ := exists_reading_eq_item hlikeb (tree_reading b hb)
    rw [reading, hi, escapeReading, hj, ← hai, ← hbj]
    exact congrArg (fun t => OperatorTree.like i.tree j.tree (some t)) (tree_reading c hc)
  | .member a values negated, h => by
    simp only [isWellGrouped, Bool.and_eq_true] at h
    change (a.reading.asTerm.suffixed (.within negated (readings values))).tree = _
    rw [Term.tree_suffixed, Chain.tree_asTerm, tree_reading a h.1]
    exact congrArg (fun ts => OperatorTree.member a ts negated) (trees_readings values h.2)

/-- Well grouped trees are read back from their readings, one by one. -/
theorem trees_readings : ∀ ts : List OperatorTree, areWellGrouped ts = true →
    trees (readings ts) = ts
  | [], _ => rfl
  | t :: ts, h => by
    simp only [areWellGrouped, Bool.and_eq_true] at h
    rw [readings, trees, tree_reading t h.1, trees_readings ts h.2]

end

/-- Well grouped trees with the same reading are the same. -/
theorem eq_of_reading_eq {t u : OperatorTree} (ht : t.isWellGrouped = true)
    (hu : u.isWellGrouped = true) (h : t.reading = u.reading) : t = u := by
  rw [← tree_reading t ht, ← tree_reading u hu, h]

end OperatorTree

end SqlScribe
