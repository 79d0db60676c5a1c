import Formula.Proofs.Likeness
import Formula.Proofs.Progress
set_option autoImplicit false

/-!
# Readers do not look at columns

What a reader replies to tokens without their columns is what it replies to the tokens
themselves, with the columns forgotten.  So tokens that differ in their columns only are read as
trees that differ in their columns only, or are refused alike (`ignoresColumns_whole`).

The property passes through chains of replies, so it is proved along the same lines as progress
of the readers is, reader by reader.
-/

namespace Formula

/-! ## Replies without columns -/

/-- The refusal as if its token was not cut from a text. -/
def Refusal.unplaced : Refusal → Refusal
  | .expected what => .expected what
  | .unexpected token => .unexpected token.unplaced
  | .blankNumber => .blankNumber
  | .tooDeep => .tooDeep

namespace Reply

variable {α β : Type}

/-- The reply as if no token was cut from a text; `forget` does the same to the phrase. -/
def unplaced (forget : α → α) : Reply α → Reply α
  | .ok value rest => .ok (forget value) (rest.map Token.unplaced)
  | .fail refusal rest => .fail refusal.unplaced (rest.map Token.unplaced)

variable {forget : α → α} {forget' : β → β}

/-- Columns may be forgotten within a chain or behind it. -/
theorem unplaced_andThen {r : Reply α} {next next' : α → Reader β}
    (h : ∀ x mid, r = .ok x mid →
      next' (forget x) (mid.map Token.unplaced) = (next x mid).unplaced forget') :
    (r.unplaced forget).andThen next' = (r.andThen next).unplaced forget' := by
  cases r with
  | ok x mid => exact h x mid rfl
  | fail refusal mid => rfl

/-- Columns may be forgotten before a phrase is put into another form or after it. -/
theorem unplaced_map {f f' : α → β} (h : ∀ x, f' (forget x) = forget' (f x)) (r : Reply α) :
    (r.unplaced forget).map f' = (r.map f).unplaced forget' := by
  cases r with
  | ok x rest => rw [map, unplaced, unplaced, map, h]
  | fail refusal rest => rfl

end Reply

namespace Reader

variable {α β : Type}

/-- The reader does not look at columns; `forget` forgets those of a phrase. -/
def IgnoresColumns (forget : α → α) (read : Reader α) : Prop :=
  ∀ ts, read (ts.map Token.unplaced) = (read ts).unplaced forget

section Chains

variable {forget : α → α} {forget' : β → β}

theorem IgnoresColumns.of_eq {read read' : Reader α} (h : ∀ ts, read ts = read' ts)
    (ignores : IgnoresColumns forget read') : IgnoresColumns forget read := by
  intro ts
  rw [h, h]
  exact ignores ts

/-- A reader and another one behind it. -/
theorem IgnoresColumns.before {first : Reader α} (ignores : IgnoresColumns forget first)
    {next next' : α → Reader β}
    (h : ∀ x mid, next' (forget x) (mid.map Token.unplaced) = (next x mid).unplaced forget')
    (ts : List Token) : (first (ts.map Token.unplaced)).andThen next' =
      ((first ts).andThen next).unplaced forget' := by
  rw [ignores ts, Reply.unplaced_andThen fun x mid _ => h x mid]

theorem IgnoresColumns.andThen {first : Reader α} (ignores : IgnoresColumns forget first)
    {next : α → Reader β}
    (h : ∀ x mid, next (forget x) (mid.map Token.unplaced) = (next x mid).unplaced forget') :
    IgnoresColumns forget' fun ts => (first ts).andThen next :=
  ignores.before h

theorem IgnoresColumns.map {read : Reader α} (ignores : IgnoresColumns forget read) {f f' : α → β}
    (h : ∀ x, f' (forget x) = forget' (f x)) (ts : List Token) :
    (read (ts.map Token.unplaced)).map f' = ((read ts).map f).unplaced forget' := by
  rw [ignores ts, Reply.unplaced_map h]

end Chains

/-! ## Names, numbers and factors -/

theorem ignoresColumns_expect (kind : Kind) : IgnoresColumns Token.unplaced (expect kind) := by
  intro ts
  cases ts with
  | nil => rfl
  | cons t rest =>
      rw [List.map_cons, expect, expect, Token.unplaced_kind]
      split <;> rfl

theorem ignoresColumns_furtherMembers :
    IgnoresColumns (List.map Token.unplaced) furtherMembers := by
  intro ts
  fun_induction furtherMembers ts with
  | case1 => rfl
  | case2 period h => rw [List.map_singleton, furtherMembers, Token.unplaced_kind, if_pos h]; rfl
  | case3 period h => rw [List.map_singleton, furtherMembers, Token.unplaced_kind, if_neg h]; rfl
  | case4 period member ts hperiod hmember refusal rest hread ih =>
      rw [List.map_cons, List.map_cons, furtherMembers, Token.unplaced_kind, if_pos hperiod,
        Token.unplaced_kind, if_pos hmember, ih, hread]
      rfl
  | case5 period member ts hperiod hmember members rest hread ih =>
      rw [List.map_cons, List.map_cons, furtherMembers, Token.unplaced_kind, if_pos hperiod,
        Token.unplaced_kind, if_pos hmember, ih, hread]
      rfl
  | case6 period member ts hperiod hmember =>
      rw [List.map_cons, List.map_cons, furtherMembers, Token.unplaced_kind, if_pos hperiod,
        Token.unplaced_kind, if_neg hmember]
      rfl
  | case7 period member ts hperiod =>
      rw [List.map_cons, List.map_cons, furtherMembers, Token.unplaced_kind, if_neg hperiod]
      rfl

theorem ignoresColumns_identifier : IgnoresColumns Name.unplaced identifier :=
  ((ignoresColumns_expect .identifier).andThen fun first =>
    ignoresColumns_furtherMembers.map fun _ => by rfl).of_eq identifier_eq

theorem ignoresColumns_number : IgnoresColumns Expr.unplaced number :=
  ((ignoresColumns_expect .number).andThen fun token mid => by
    rw [closeNumber, closeNumber, Token.unplaced_lexeme]
    split
    · rfl
    · split <;> rfl).of_eq number_eq

theorem ignoresColumns_factorWith {primary : Reader Expr}
    (ignores : IgnoresColumns Expr.unplaced primary) :
    IgnoresColumns Expr.unplaced (factorWith primary) :=
  (ignores.andThen fun operand mid => by
    cases mid with
    | nil => rfl
    | cons op rest =>
        rw [List.map_cons, closeFactor, closeFactor, Token.unplaced_kind]
        split
        · rfl
        · split <;> rfl).of_eq (factorWith_eq primary)

/-! ## Operators -/

section Operators

variable {operand : Nat → Reader Expr}

theorem unplaced_climbAll (advances : ∀ around, Advances (operand around))
    (ignores : ∀ around, IgnoresColumns Expr.unplaced (operand around)) (around : Nat) (left : Expr)
    (least : Nat) (ts : List Token) :
    climbAll operand around left.unplaced least (ts.map Token.unplaced) =
      (climbAll operand around left least ts).unplaced Expr.unplaced := by
  -- on the number of tokens, as the climbing equation takes them
  induction hn : ts.length using Nat.strongRecOn generalizing ts around left least with
  | ind n ih =>
      cases ts with
      | nil => rw [List.map_nil, climbAll_nil, climbAll_nil]; rfl
      | cons op rest =>
          cases h : joins least op with
          | false =>
              have h' : joins least op.unplaced = false := h
              rw [List.map_cons, climbAll_stops h, climbAll_stops h']
              rfl
          | true =>
              have h' : joins least op.unplaced = true := h
              rw [List.length_cons] at hn
              rw [List.map_cons, climbAll_joins advances h, climbAll_joins advances h']
              have hchain : chain operand around op.kind.rightThreshold
                  (rest.map Token.unplaced) =
                (chain operand around op.kind.rightThreshold rest).unplaced
                  Expr.unplaced := by
                rw [chain, chain, ignores _ rest]
                refine Reply.unplaced_andThen fun first mid hfirst => ?_
                have shorter := (advances _ rest).2 first mid hfirst
                exact ih mid.length (by omega) _ first _ mid rfl
              rw [Token.unplaced_kind, hchain]
              refine Reply.unplaced_andThen fun right mid hright => ?_
              have shorter := (advances_chain advances _ _ rest).2 right mid hright
              exact ih mid.length (by omega) around (.binary left right op) least mid rfl

theorem ignoresColumns_chain (advances : ∀ around, Advances (operand around))
    (ignores : ∀ around, IgnoresColumns Expr.unplaced (operand around)) (around least : Nat) :
    IgnoresColumns Expr.unplaced (chain operand around least) :=
  (ignores around).andThen fun left mid =>
    unplaced_climbAll advances ignores (around + 1) left least mid

end Operators

/-! ## Primaries -/

section Nested

variable {nested : Nat → Reader Expr}

theorem ignoresColumns_expressionWith (advances : ∀ around, Advances (nested around))
    (ignores : ∀ around, IgnoresColumns Expr.unplaced (nested around)) :
    IgnoresColumns Expr.unplaced (expressionWith nested) :=
  (ignoresColumns_chain (advances_operand advances)
    (fun around => ignoresColumns_factorWith (ignores (around + 1))) 1 1).of_eq
      (expressionWith_eq nested)

theorem ignoresColumns_furtherAll {expression : Reader Expr} (advances : Advances expression)
    (ignores : IgnoresColumns Expr.unplaced expression) :
    IgnoresColumns Expr.unplacedAll (furtherAll expression) := by
  intro ts
  induction hn : ts.length using Nat.strongRecOn generalizing ts with
  | ind n ih =>
      cases ts with
      | nil => rw [List.map_nil, furtherAll_nil]; rfl
      | cons comma rest =>
          by_cases h : comma.kind = .comma
          · have h' : comma.unplaced.kind = .comma := h
            rw [List.length_cons] at hn
            rw [List.map_cons, furtherAll_comma advances h, furtherAll_comma advances h',
              ignores rest]
            refine Reply.unplaced_andThen fun argument mid hread => ?_
            have shorter := (advances rest).2 argument mid hread
            rw [ih mid.length (by omega) mid rfl]
            exact Reply.unplaced_map (fun _ => by rfl) _
          · rw [List.map_cons, furtherAll_stops expression h,
              furtherAll_stops (t := comma.unplaced) expression h]
            rfl

theorem ignoresColumns_argumentsWith {expression : Reader Expr} (advances : Advances expression)
    (ignores : IgnoresColumns Expr.unplaced expression) :
    IgnoresColumns Expr.unplacedAll (argumentsWith expression) :=
  (ignores.andThen fun argument =>
    (ignoresColumns_furtherAll advances ignores).map fun _ => by rfl).of_eq (argumentsWith_eq expression)

theorem isNext_unplaced (kind : Kind) (ts : List Token) :
    isNext kind (ts.map Token.unplaced) = isNext kind ts := by
  cases ts <;> rfl

theorem unplaced_closeName {expression : Reader Expr} (advances : Advances expression)
    (ignores : IgnoresColumns Expr.unplaced expression) (name : Name) (ts : List Token) :
    closeName expression name.unplaced (ts.map Token.unplaced) =
      (closeName expression name ts).unplaced Expr.unplaced := by
  cases ts with
  | nil => rfl
  | cons next inner =>
      rw [List.map_cons, closeName, closeName, Token.unplaced_kind]
      split
      · rw [callWith_eq, callWith_eq, isNext_unplaced]
        split
        · exact (ignoresColumns_expect .closeParen).map (fun _ => by rfl) inner
        · exact (ignoresColumns_argumentsWith advances ignores).before (fun arguments =>
            (ignoresColumns_expect .closeParen).map fun _ => by rfl) inner
      · rfl

theorem ignoresColumns_closeGroup {expression : Reader Expr}
    (ignores : IgnoresColumns Expr.unplaced expression) :
    IgnoresColumns Expr.unplaced (closeGroup expression) :=
  ignores.andThen fun _ => (ignoresColumns_expect .closeParen).map fun _ => rfl

theorem ignoresColumns_primaryWith (advances : ∀ around, Advances (nested around))
    (ignores : ∀ around, IgnoresColumns Expr.unplaced (nested around)) :
    IgnoresColumns Expr.unplaced (primaryWith nested) := by
  intro ts
  cases ts with
  | nil => rfl
  | cons t rest =>
      rw [List.map_cons]
      cases hopens : opensPrimary t.kind with
      | false =>
          rw [primaryWith_refuses nested hopens, primaryWith_refuses nested (t := t.unplaced) hopens]
          rfl
      | true =>
          cases hk : t.kind <;> rw [hk] at hopens
          case number =>
            rw [primaryWith_number nested hk, primaryWith_number nested (t := t.unplaced) hk]
            exact ignoresColumns_number (t :: rest)
          case identifier =>
            rw [primaryWith_identifier nested hk, primaryWith_identifier nested (t := t.unplaced) hk]
            have hadvances := advances_argument advances
            have hignores := ignoresColumns_expressionWith (fun around => advances (around + 1))
              fun around => ignores (around + 1)
            exact ignoresColumns_identifier.andThen (unplaced_closeName hadvances hignores) (t :: rest)
          case openParen =>
            rw [primaryWith_openParen nested hk, primaryWith_openParen nested (t := t.unplaced) hk]
            exact ignoresColumns_closeGroup (ignoresColumns_expressionWith advances ignores) rest
          case minus =>
            rw [primaryWith_minus nested hk, primaryWith_minus nested (t := t.unplaced) hk]
            exact (ignores 0).map (fun _ => by rfl) rest
          case negate =>
            rw [primaryWith_negate nested hk, primaryWith_negate nested (t := t.unplaced) hk]
            exact (ignores 0).map (fun _ => by rfl) rest
          all_goals cases hopens

end Nested

/-! ## Within frames -/

theorem ignoresColumns_primary (frames : Nat) : IgnoresColumns Expr.unplaced (primary frames) := by
  induction frames using Nat.strongRecOn with
  | ind frames ih =>
      cases frames with
      | zero =>
          intro ts
          rw [primary_zero, primary_zero]
          rfl
      | succ frames =>
          exact (ignoresColumns_primaryWith (fun around => advances_primary (frames - around))
            fun around => ih (frames - around) (by omega)).of_eq (primary_succ frames)

theorem ignoresColumns_expression (frames : Nat) :
    IgnoresColumns Expr.unplaced (expression frames) :=
  ignoresColumns_expressionWith (fun around => advances_primary (frames - around)) fun around =>
    ignoresColumns_primary (frames - around)

/-- Tokens that differ in their columns only are read as expressions that differ in their columns
only, or are refused alike. -/
theorem ignoresColumns_whole (frames : Nat) : IgnoresColumns Expr.unplaced (whole frames) := by
  intro ts
  rw [whole, whole, ignoresColumns_expression frames ts]
  cases expression frames ts with
  | fail refusal rest => rfl
  | ok e rest => cases rest <;> rfl

end Reader

end Formula
