import Formula.Proofs.Progress
set_option autoImplicit false

/-!
# Nodes are built of the right parts

The nodes of a tree can be built with a check: a binary operation of a binary operator, a unary one
of a unary operator, a name of one member at least.  The readers build their nodes without one,
since each of them has just looked at the operator or read the members.

Here the same readers build every node with its check, and answer a node that is refused in any way
whatsoever.  They are the same readers: no node is ever refused, not even one that is given up
later because the tokens behind it are.
-/

namespace Formula

namespace Reader

variable {α : Type} (refused : NodeError → Refusal)

/-! ## Readers with checks -/

/-- What is built in front of the tokens, if it can be. -/
def built (node : Except NodeError α) : Reader α := fun rest =>
  match node with
  | .ok x => .ok x rest
  | .error error => .fail (refused error) rest

mutual

/-- `climb`, with checked operations. -/
def climbChecked (operand : Nat → Reader Expr) (count around : Nat) (left : Expr) (least : Nat) :
    Reader Expr
  | [] => .ok left []
  | op :: rest =>
      if op.kind.isBinary && least ≤ op.kind.precedence then
        match count with
        | 0 => .fail .tooDeep (op :: rest)
        | count + 1 =>
            (operand around rest).andThen fun right rest =>
              (extendChecked operand count around op right rest).andThen
                fun right rest => (built refused (Expr.binary? left right op) rest).andThen
                  fun left rest => climbChecked operand count around left least rest
      else .ok left (op :: rest)

/-- `extend`, with checked operations. -/
def extendChecked (operand : Nat → Reader Expr) (count around : Nat) (op : Token) (right : Expr) :
    Reader Expr
  | [] => .ok right []
  | next :: rest =>
      if next.kind.isBinary && next.kind.takesOperandOf op.kind then
        match count with
        | 0 => .fail .tooDeep (next :: rest)
        | count + 1 =>
            (climbChecked operand count (around + 1) right next.kind.precedence
              (next :: rest)).andThen fun right rest => extendChecked operand count around op right rest
      else .ok right (next :: rest)

end

/-- What may follow a primary inside a factor, as a checked operation. -/
def closeFactorChecked (operand : Expr) : Reader Expr
  | [] => .ok operand []
  | op :: rest =>
      if !op.kind.isUnary then .ok operand (op :: rest)
      else if op.kind.isRightAssociative then built refused (Expr.unary? operand op) rest
      else .fail (.unexpected op) (op :: rest)

/-- A primary and a postfix operator after it, with a checked operation. -/
def factorCheckedWith (primary : Reader Expr) : Reader Expr := fun ts =>
  (primary ts).andThen (closeFactorChecked refused)

/-- An expression with checked operations. -/
def expressionCheckedWith (primary : Nat → Reader Expr) : Reader Expr := fun ts =>
  (factorCheckedWith refused (primary 2) ts).andThen fun left rest =>
    climbChecked refused (fun around => factorCheckedWith refused (primary (around + 1))) rest.length
      2 left 1 rest

/-- A name of checked members. -/
def identifierChecked : Reader Name := fun ts =>
  (expect .identifier ts).andThen fun first rest =>
    (furtherMembers rest).andThen fun others rest =>
      built refused (Name.ofMembers? (first :: others)) rest

/-- A primary with checked operations and names. -/
def primaryCheckedWith (nested : Nat → Reader Expr) : Reader Expr
  | [] => .fail (.expected .expression) []
  | t :: rest =>
      match t.kind with
      | .number => number (t :: rest)
      | .identifier =>
          (identifierChecked refused (t :: rest)).andThen
            (closeName (expressionCheckedWith refused fun around => nested (around + 1)))
      | .openParen => closeGroup (expressionCheckedWith refused nested) rest
      | .minus =>
          (nested 0 rest).andThen fun operand rest =>
            built refused (Expr.unary? operand { kind := .negate, start := t.start }) rest
      | .negate =>
          (nested 0 rest).andThen fun operand rest => built refused (Expr.unary? operand t) rest
      | _ => .fail (.unexpected t) (t :: rest)

/-- A primary with checked operations and names, within the given number of frames. -/
def primaryChecked (frames : Nat) : Reader Expr := fun ts =>
  match frames with
  | 0 => .fail .tooDeep ts
  | frames + 1 => primaryCheckedWith refused (fun around => primaryChecked (frames - around)) ts
termination_by frames

/-- An expression with checked operations and names that takes all the tokens. -/
def wholeChecked (frames : Nat) : Reader Expr := fun ts =>
  match expressionCheckedWith refused (fun around => primaryChecked refused (frames - around)) ts with
  | .fail refusal rest => .fail refusal rest
  | .ok e [] => .ok e []
  | .ok _ (t :: rest) => .fail (.unexpected t) (t :: rest)

/-! ## No node is refused -/

theorem built_binary {op : Token} (h : op.kind.isBinary = true) (left right : Expr)
    (rest : List Token) :
    built refused (Expr.binary? left right op) rest = .ok (.binary left right op) rest := by
  rw [Expr.binary?, if_pos h]
  rfl

theorem built_unary {op : Token} (h : op.kind.isUnary = true) (operand : Expr)
    (rest : List Token) :
    built refused (Expr.unary? operand op) rest = .ok (.unary operand op) rest := by
  rw [Expr.unary?, if_pos h]
  rfl

variable {operand : Nat → Reader Expr}

/-- Both loops have looked at an operator before they join it. -/
theorem climb_extend_checked (count : Nat) :
    (∀ around left least ts, climbChecked refused operand count around left least ts =
      climb operand count around left least ts) ∧
    (∀ around op right ts, extendChecked refused operand count around op right ts =
      extend operand count around op right ts) := by
  induction count with
  | zero =>
      refine ⟨fun around left least ts => ?_, fun around op right ts => ?_⟩
      · cases ts <;> rw [climb, climbChecked]
      · cases ts <;> rw [extend, extendChecked]
  | succ count ih =>
      obtain ⟨climbs, extends_⟩ := ih
      refine ⟨fun around left least ts => ?_, fun around op right ts => ?_⟩
      · cases ts with
        | nil => rw [climb, climbChecked]
        | cons op rest =>
            rw [climbChecked]
            cases hjoins : joins least op with
            | false =>
                rw [climb_stops hjoins, ← joins, hjoins]
                rfl
            | true =>
                rw [climb_joins hjoins, ← joins, hjoins, if_pos rfl]
                refine Reply.andThen_congr rfl fun right mid _ => ?_
                refine Reply.andThen_congr (extends_ _ _ _ _) fun right mid _ => ?_
                rw [built_binary refused (joins_iff.1 hjoins).1, Reply.andThen_ok, climbs]
      · cases ts with
        | nil => rw [extend, extendChecked]
        | cons next rest =>
            rw [extend, extendChecked]
            split
            · rw [climbs]
              cases climb operand count (around + 1) right next.kind.precedence (next :: rest) with
              | ok right mid => exact extends_ _ _ _ _
              | fail refusal mid => rfl
            · rfl

theorem factorCheckedWith_eq (primary : Reader Expr) :
    factorCheckedWith refused primary = factorWith primary := by
  funext ts
  rw [factorWith_eq, factorCheckedWith]
  refine Reply.andThen_congr rfl fun operand mid _ => ?_
  cases mid with
  | nil => rfl
  | cons op rest =>
      rw [closeFactorChecked, closeFactor]
      cases hunary : op.kind.isUnary with
      | false => rfl
      | true => rw [built_unary refused hunary]

theorem expressionCheckedWith_eq (primary : Nat → Reader Expr) :
    expressionCheckedWith refused primary = expressionWith primary := by
  funext ts
  rw [expressionWith_eq, expressionCheckedWith, factorCheckedWith_eq]
  refine Reply.andThen_congr rfl fun left mid _ => ?_
  simp only [factorCheckedWith_eq]
  exact (climb_extend_checked refused mid.length).1 2 left 1 mid

theorem identifierChecked_eq : identifierChecked refused = identifier := by
  funext ts
  rw [identifier_eq, identifierChecked]
  refine Reply.andThen_congr rfl fun first mid _ => ?_
  rw [Reply.map_eq_andThen]
  rfl

theorem primaryCheckedWith_eq (nested : Nat → Reader Expr) :
    primaryCheckedWith refused nested = primaryWith nested := by
  funext ts
  cases ts with
  | nil => rfl
  | cons t rest =>
      cases hopens : opensPrimary t.kind with
      | false =>
          rw [primaryWith_refuses nested hopens, primaryCheckedWith]
          cases hk : t.kind <;> rw [hk] at hopens <;> first | rfl | cases hopens
      | true =>
          cases hk : t.kind <;> rw [hk] at hopens
          case number => rw [primaryWith_number nested hk, primaryCheckedWith, hk]
          case identifier =>
            rw [primaryWith_identifier nested hk, primaryCheckedWith, hk]
            dsimp only
            rw [identifierChecked_eq, expressionCheckedWith_eq]
          case openParen =>
            rw [primaryWith_openParen nested hk, primaryCheckedWith, hk]
            dsimp only
            rw [expressionCheckedWith_eq]
          case minus =>
            rw [primaryWith_minus nested hk, primaryCheckedWith, hk, Reply.map_eq_andThen]
            exact Reply.andThen_congr rfl fun operand mid _ => built_unary refused rfl operand mid
          case negate =>
            have hunary : t.kind.isUnary = true := by rw [hk]; rfl
            rw [primaryWith_negate nested hk, primaryCheckedWith, hk, Reply.map_eq_andThen]
            exact Reply.andThen_congr rfl fun operand mid _ => built_unary refused hunary operand mid
          all_goals cases hopens

theorem primaryChecked_eq (frames : Nat) : primaryChecked refused frames = primary frames := by
  induction frames using Nat.strongRecOn with
  | ind frames ih =>
      funext ts
      cases frames with
      | zero => rw [primary_zero, primaryChecked]
      | succ frames =>
          have inner : (fun around => primaryChecked refused (frames - around)) =
              fun around => primary (frames - around) :=
            funext fun around => ih (frames - around) (by omega)
          rw [primary_succ, primaryChecked, inner, primaryCheckedWith_eq]

/-- Every node that the readers build passes its check. -/
theorem wholeChecked_eq (frames : Nat) : wholeChecked refused frames = whole frames := by
  funext ts
  unfold wholeChecked whole
  simp only [primaryChecked_eq, expressionCheckedWith_eq]
  rfl

end Reader

end Formula
