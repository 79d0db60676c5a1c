import Formula.Proofs.Climbing
set_option autoImplicit false

/-!
# Rows of operands

Operands with binary operators between them are made one tree by joining the powers from right to
left, then products and quotients from left to right, and then sums and differences (`Row.tree`).
Nothing is looked at twice, and the operands are not looked at at all.

A climb does the same in another order: it joins an operator as soon as it has the right operand,
for which it lets the operators behind it go first if they have a claim to it.  The two agree
because the tree of a row has the tree of such a claim inside it, `Row.tree_span`.
-/

namespace Formula

theorem Kind.precedence_of_binary {kind : Kind} (h : kind.isBinary = true) :
    1 ≤ kind.precedence ∧ kind.precedence ≤ 3 := by
  rcases binary_cases h with rfl | rfl | rfl | rfl | rfl <;> decide

/-- Operands with operators between them: the first operand, and each of the others behind its
operator. -/
structure Row where
  first : Expr
  others : List (Token × Expr)

namespace Row

/-! ## Joining the operators of a precedence -/

/-- Two rows with an operator between them. -/
def beside (left : Row) (op : Token) (right : Row) : Row :=
  ⟨left.first, left.others ++ (op, right.first) :: right.others⟩

/-- Joins the operators of a precedence from left to right, behind a first operand. -/
def joinLeftFrom (level : Nat) (a : Expr) : List (Token × Expr) → Row
  | [] => ⟨a, []⟩
  | (op, b) :: others =>
      if op.kind.precedence = level then joinLeftFrom level (.binary a b op) others
      else beside ⟨a, []⟩ op (joinLeftFrom level b others)

/-- Joins the operators of a precedence from right to left, behind a first operand. -/
def joinRightFrom (level : Nat) (a : Expr) : List (Token × Expr) → Row
  | [] => ⟨a, []⟩
  | (op, b) :: others =>
      let right := joinRightFrom level b others
      if op.kind.precedence = level then ⟨.binary a right.first op, right.others⟩
      else beside ⟨a, []⟩ op right

/-- The row with the operators of a precedence joined from left to right. -/
def joinLeft (level : Nat) (row : Row) : Row := joinLeftFrom level row.first row.others

/-- The row with its powers joined, from right to left. -/
def joinPowers (row : Row) : Row := joinRightFrom 3 row.first row.others

/-- The row with its powers joined, and then its products and quotients. -/
def joinProducts (row : Row) : Row := joinLeft 2 (joinPowers row)

/-- The row with its powers joined, then its products and quotients, and then its sums and
differences. -/
def joinSums (row : Row) : Row := joinLeft 1 (joinProducts row)

/-- The tree of a row of operands. -/
def tree (row : Row) : Expr := (joinSums row).first

/-- The operators of a row. -/
def operators (row : Row) : List Token := row.others.map Prod.fst

/-! ## Rows beside one another -/

theorem beside_assoc (left : Row) (op : Token) (middle : Row) (op' : Token) (right : Row) :
    beside (beside left op middle) op' right = beside left op (beside middle op' right) := by
  rw [beside, beside, beside, beside, List.append_assoc, List.cons_append]

theorem operators_beside (left : Row) (op : Token) (right : Row) :
    (beside left op right).operators = left.operators ++ op :: right.operators := by
  rw [operators, beside, List.map_append, List.map_cons]
  rfl

section Level

variable {level : Nat} {op : Token}

/-- An operator of another precedence has nothing joined across it. -/
theorem joinLeftFrom_beside (h : op.kind.precedence ≠ level) (a : Expr)
    (others : List (Token × Expr)) (right : Row) :
    joinLeftFrom level a (others ++ (op, right.first) :: right.others) =
      beside (joinLeftFrom level a others) op (joinLeftFrom level right.first right.others) := by
  induction others generalizing a with
  | nil => simp only [List.nil_append, joinLeftFrom, if_neg h]
  | cons other others ih =>
      obtain ⟨op', b⟩ := other
      rw [List.cons_append, joinLeftFrom, joinLeftFrom]
      split
      · exact ih _
      · rw [ih, beside_assoc]

theorem joinRightFrom_beside (h : op.kind.precedence ≠ level) (a : Expr)
    (others : List (Token × Expr)) (right : Row) :
    joinRightFrom level a (others ++ (op, right.first) :: right.others) =
      beside (joinRightFrom level a others) op (joinRightFrom level right.first right.others) := by
  induction others generalizing a with
  | nil => simp only [List.nil_append, joinRightFrom, if_neg h]
  | cons other others ih =>
      obtain ⟨op', b⟩ := other
      rw [List.cons_append, joinRightFrom, joinRightFrom, ih]
      split
      · rfl
      · rw [beside_assoc]

/-- The operators that are left are those of other precedences. -/
theorem operators_joinLeftFrom (level : Nat) (a : Expr) (others : List (Token × Expr)) :
    (joinLeftFrom level a others).operators =
      (others.map Prod.fst).filter (·.kind.precedence ≠ level) := by
  induction others generalizing a with
  | nil => rfl
  | cons other others ih =>
      obtain ⟨op, b⟩ := other
      rw [joinLeftFrom, List.map_cons]
      by_cases h : op.kind.precedence = level
      · rw [if_pos h, ih, List.filter_cons_of_neg (by simpa using h)]
      · rw [if_neg h, operators_beside, ih, List.filter_cons_of_pos (by simpa using h)]
        rfl

theorem operators_joinRightFrom (level : Nat) (a : Expr) (others : List (Token × Expr)) :
    (joinRightFrom level a others).operators =
      (others.map Prod.fst).filter (·.kind.precedence ≠ level) := by
  induction others generalizing a with
  | nil => rfl
  | cons other others ih =>
      obtain ⟨op, b⟩ := other
      rw [joinRightFrom, List.map_cons]
      dsimp only
      by_cases h : op.kind.precedence = level
      · rw [if_pos h, List.filter_cons_of_neg (by simpa using h), ← ih b]
        rfl
      · rw [if_neg h, operators_beside, ih, List.filter_cons_of_pos (by simpa using h)]
        rfl

end Level

/-! ## The passes

What two of them leave: the operators below a precedence, each with the trees of what stands between
them. -/

/-- The pass joins all operators of at least a precedence, and none of the others. -/
structure JoinsFrom (least : Nat) (join : Row → Row) : Prop where
  apart : ∀ {op : Token}, op.kind.precedence < least → ∀ left right,
    join (beside left op right) = beside (join left) op (join right)
  whole : ∀ {row : Row},
    (∀ op ∈ row.operators, least ≤ op.kind.precedence ∧ op.kind.precedence ≤ 3) →
      join row = ⟨tree row, []⟩

theorem eq_of_operators_nil {row : Row} (h : row.operators = []) : row = ⟨row.first, []⟩ := by
  rw [operators, List.map_eq_nil_iff] at h
  rw [← h]

theorem joinsFrom_joinPowers : JoinsFrom 3 joinPowers where
  apart h left right := joinRightFrom_beside (Nat.ne_of_lt h) _ _ _
  whole {row} h := by
    have hnone : (joinPowers row).operators = [] := by
      rw [joinPowers, operators_joinRightFrom, List.filter_eq_nil_iff]
      intro op hop
      have hpower := h op hop
      simp only [decide_eq_true_eq]
      omega
    have hjoined := eq_of_operators_nil hnone
    rw [tree, joinSums, joinProducts, hjoined]
    rfl

theorem joinsFrom_joinProducts : JoinsFrom 2 joinProducts where
  apart h left right := by
    rw [joinProducts, joinsFrom_joinPowers.apart (by omega)]
    exact joinLeftFrom_beside (Nat.ne_of_lt h) _ _ _
  whole {row} h := by
    have hnone : (joinProducts row).operators = [] := by
      rw [joinProducts, joinLeft, operators_joinLeftFrom, List.filter_eq_nil_iff]
      intro op hop
      rw [← operators, joinPowers, operators_joinRightFrom, List.mem_filter] at hop
      have hproduct := h op hop.1
      have hpower := hop.2
      simp only [decide_eq_true_eq] at hpower ⊢
      omega
    have hjoined := eq_of_operators_nil hnone
    rw [tree, joinSums, hjoined]
    rfl

/-- Nothing is left beside the tree of a row of binary operators. -/
theorem joinSums_whole {row : Row} (h : ∀ op ∈ row.operators, op.kind.isBinary = true) :
    joinSums row = ⟨tree row, []⟩ := by
  have hnone : (joinSums row).operators = [] := by
    rw [joinSums, joinLeft, operators_joinLeftFrom, List.filter_eq_nil_iff]
    intro op hop
    rw [← operators, joinProducts, joinLeft, operators_joinLeftFrom, List.mem_filter, ← operators,
      joinPowers, operators_joinRightFrom, List.mem_filter] at hop
    obtain ⟨⟨hmem, hpower⟩, hproduct⟩ := hop
    simp only [decide_eq_true_eq] at hpower hproduct ⊢
    have bounds := Kind.precedence_of_binary (h op hmem)
    omega
  rw [tree, ← eq_of_operators_nil hnone]

/-! ## Claims on a right operand

`inner` is what has a claim to the operand `b`, and `outer` is the row from the first operator that
has none on. -/

section Span

variable {least : Nat} {join : Row → Row} {op : Token} {inner outer : List (Token × Expr)}

/-- A pass joins what it can in front of the first operator that it cannot join, and what is behind
that does not depend on it. -/
theorem JoinsFrom.span (h : JoinsFrom least join)
    (hinner : ∀ x ∈ inner, least ≤ x.1.kind.precedence ∧ x.1.kind.precedence ≤ 3)
    (houter : ∀ x ∈ outer.head?, x.1.kind.precedence < least) (b other : Expr) :
    join ⟨b, inner ++ outer⟩ = ⟨tree ⟨b, inner⟩, (join ⟨other, outer⟩).others⟩ := by
  have hjoined : join ⟨b, inner⟩ = ⟨tree ⟨b, inner⟩, []⟩ := by
    refine h.whole fun op hop => ?_
    obtain ⟨x, hx, rfl⟩ := List.mem_map.1 hop
    exact hinner x hx
  have hother : join ⟨other, []⟩ = ⟨other, []⟩ := h.whole fun op hop => nomatch hop
  cases outer with
  | nil => rw [List.append_nil, hjoined, hother]
  | cons next outer =>
      obtain ⟨op, c⟩ := next
      have apart (row : Row) := h.apart (houter (op, c) rfl) row ⟨c, outer⟩
      rw [show (⟨b, inner ++ (op, c) :: outer⟩ : Row) = beside ⟨b, inner⟩ op ⟨c, outer⟩ from rfl,
        show (⟨other, (op, c) :: outer⟩ : Row) = beside ⟨other, []⟩ op ⟨c, outer⟩ from rfl,
        apart, apart, hjoined, hother]
      rfl

/-- In front of an operator that a pass cannot join, it leaves the operand as it is. -/
theorem JoinsFrom.operand (h : JoinsFrom least join)
    (houter : ∀ x ∈ outer.head?, x.1.kind.precedence < least) (a other : Expr) :
    join ⟨a, outer⟩ = ⟨a, (join ⟨other, outer⟩).others⟩ := by
  have none : ∀ x ∈ ([] : List (Token × Expr)),
      least ≤ x.1.kind.precedence ∧ x.1.kind.precedence ≤ 3 := fun _ hx => nomatch hx
  exact h.span none houter a other

/-- Where operators are joined from left to right, after a pass for all the tighter ones, the first
of them joins the trees on its sides. -/
theorem JoinsFrom.joinLeft_span {level : Nat} (h : JoinsFrom (level + 1) join)
    (hop : op.kind.precedence = level)
    (hinner : ∀ x ∈ inner, level + 1 ≤ x.1.kind.precedence ∧ x.1.kind.precedence ≤ 3)
    (houter : ∀ x ∈ outer.head?, x.1.kind.precedence < level + 1) (a b : Expr) :
    joinLeft level (join ⟨a, (op, b) :: (inner ++ outer)⟩) =
      joinLeft level (join ⟨.binary a (tree ⟨b, inner⟩) op, outer⟩) := by
  have hleft : join ⟨a, (op, b) :: (inner ++ outer)⟩
      = beside ⟨a, []⟩ op ⟨tree ⟨b, inner⟩, (join ⟨a, outer⟩).others⟩ := by
    have apart := h.apart (Nat.lt_succ_of_le (Nat.le_of_eq hop)) ⟨a, []⟩ ⟨b, inner ++ outer⟩
    have single : join ⟨a, []⟩ = ⟨a, []⟩ := h.whole fun op hop => nomatch hop
    rw [single, h.span hinner houter b a] at apart
    exact apart
  rw [hleft, h.operand houter (.binary a (tree ⟨b, inner⟩) op) a, joinLeft, joinLeft, beside,
    List.nil_append, joinLeftFrom, if_pos hop]

/-- Where powers are joined from right to left, the first of them has the tree of the next ones as
its right operand. -/
theorem joinPowers_span (hop : op.kind.precedence = 3)
    (hinner : ∀ x ∈ inner, 3 ≤ x.1.kind.precedence ∧ x.1.kind.precedence ≤ 3)
    (houter : ∀ x ∈ outer.head?, x.1.kind.precedence < 3) (a b : Expr) :
    joinPowers ⟨a, (op, b) :: (inner ++ outer)⟩ =
      joinPowers ⟨.binary a (tree ⟨b, inner⟩) op, outer⟩ := by
  have hleft : joinPowers ⟨a, (op, b) :: (inner ++ outer)⟩
      = ⟨.binary a (joinPowers ⟨b, inner ++ outer⟩).first op,
          (joinPowers ⟨b, inner ++ outer⟩).others⟩ := by
    rw [joinPowers, joinRightFrom]
    exact if_pos hop
  rw [hleft, joinsFrom_joinPowers.span hinner houter b a,
    joinsFrom_joinPowers.operand houter (.binary a (tree ⟨b, inner⟩) op) a]

/-- **The tree of a row has the tree of a claim inside it**: the right operand of an operator is the
tree of the row from there up to the first operator that has no claim to it. -/
theorem tree_span (hop : op.kind.isBinary = true)
    (hinner : ∀ x ∈ inner, Reader.joins op.kind.rightThreshold x.1 = true)
    (houter : ∀ x ∈ outer.head?, x.1.kind.precedence < op.kind.rightThreshold) (a b : Expr) :
    tree ⟨a, (op, b) :: (inner ++ outer)⟩ = tree ⟨.binary a (tree ⟨b, inner⟩) op, outer⟩ := by
  have claims (x : Token × Expr) (hx : x ∈ inner) :
      op.kind.rightThreshold ≤ x.1.kind.precedence ∧ x.1.kind.precedence ≤ 3 := by
    obtain ⟨hbinary, hle⟩ := Reader.joins_iff.1 (hinner x hx)
    exact ⟨hle, (Kind.precedence_of_binary hbinary).2⟩
  have sum (hprecedence : op.kind.precedence = 1) (hthreshold : op.kind.rightThreshold = 2) :
      joinSums ⟨a, (op, b) :: (inner ++ outer)⟩ =
        joinSums ⟨.binary a (tree ⟨b, inner⟩) op, outer⟩ := by
    rw [hthreshold] at claims houter
    exact joinsFrom_joinProducts.joinLeft_span hprecedence claims houter a b
  have product (hprecedence : op.kind.precedence = 2) (hthreshold : op.kind.rightThreshold = 3) :
      joinProducts ⟨a, (op, b) :: (inner ++ outer)⟩ =
        joinProducts ⟨.binary a (tree ⟨b, inner⟩) op, outer⟩ := by
    rw [hthreshold] at claims houter
    exact joinsFrom_joinPowers.joinLeft_span hprecedence claims houter a b
  rcases Kind.binary_cases hop with hkind | hkind | hkind | hkind | hkind
  case inr.inr.inr.inr =>
    have hthreshold : op.kind.rightThreshold = 3 := by rw [hkind]; rfl
    rw [hthreshold] at claims houter
    rw [tree, joinSums, joinProducts, joinPowers_span (by rw [hkind]; rfl) claims houter]
    rfl
  case inl | inr.inl => rw [tree, sum (by rw [hkind]; rfl) (by rw [hkind]; rfl), ← tree]
  case inr.inr.inl | inr.inr.inr.inl =>
    rw [tree, joinSums, product (by rw [hkind]; rfl) (by rw [hkind]; rfl)]
    rfl

end Span

end Row

end Formula
