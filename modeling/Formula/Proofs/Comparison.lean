import Formula.Proofs.Progress
set_option autoImplicit false

/-!
# Readers compared

Two readers that are built alike, one on readers of what is nested in a phrase and the other on
others, reply alike as far as the ones that they are built on do.  That holds for every way of
comparing replies that passes through chains (`Reply.Passes`), and it takes no more than the replies
to fewer tokens than the phrase has: `primaryWith_compared`.
-/

namespace Formula

namespace Reply

/-- A way of comparing replies that passes through chains. -/
structure Passes (rel : (α : Type) → Reply α → Reply α → Prop) : Prop where
  self : ∀ {α : Type} (r : Reply α), rel α r r
  andThen : ∀ {α β : Type} {r r' : Reply α} {next next' : α → Reader β}, rel α r r' →
    (∀ x mid, r = .ok x mid → rel β (next x mid) (next' x mid)) →
      rel β (r.andThen next) (r'.andThen next')

theorem Passes.map {rel : (α : Type) → Reply α → Reply α → Prop} (passes : Passes rel)
    {α β : Type} {r r' : Reply α} (h : rel α r r') (f : α → β) : rel β (r.map f) (r'.map f) := by
  rw [map_eq_andThen, map_eq_andThen]
  exact passes.andThen h fun _ _ _ => passes.self _

theorem passes_eq : Passes fun _ r r' => r = r' where
  self _ := rfl
  andThen := andThen_congr

end Reply

namespace Reader

variable {rel : (α : Type) → Reply α → Reply α → Prop} {bound : Nat}

/-- The replies of the readers to fewer tokens than `bound` compare. -/
def Compared (rel : (α : Type) → Reply α → Reply α → Prop) (bound : Nat) {α : Type}
    (read read' : Reader α) : Prop :=
  ∀ ts, ts.length < bound → rel α (read ts) (read' ts)

section Operators

variable {operand operand' : Nat → Reader Expr}

/-- Operands are read from fewer tokens than a climb starts with. -/
theorem climb_extend_compared (passes : Reply.Passes rel)
    (advances : ∀ around, Advances (operand around))
    (h : ∀ around, Compared rel bound (operand around) (operand' around)) (count : Nat) :
    (∀ around left least ts, ts.length ≤ bound → rel Expr
      (climb operand count around left least ts) (climb operand' count around left least ts)) ∧
    (∀ around op right ts, op.kind.isBinary = true → ts.length ≤ bound → rel Expr
      (extend operand count around op right ts) (extend operand' count around op right ts)) := by
  have suffix : ∀ around ts, (operand around ts).rest <:+ ts := fun around ts =>
    (advances around ts).1
  induction count with
  | zero =>
      refine ⟨fun around left least ts _ => ?_, fun around op right ts _ _ => ?_⟩
      · cases ts <;> rw [climb, climb] <;> exact passes.self _
      · cases ts <;> rw [extend, extend] <;> exact passes.self _
  | succ count ih =>
      obtain ⟨climbs, extensions⟩ := ih
      refine ⟨fun around left least ts short => ?_, fun around op right ts hop short => ?_⟩
      · cases ts with
        | nil =>
            rw [climb_nil, climb_nil]
            exact passes.self _
        | cons op rest =>
            cases hjoins : joins least op with
            | false =>
                rw [climb_stops hjoins, climb_stops hjoins]
                exact passes.self _
            | true =>
                have hop := (joins_iff.1 hjoins).1
                rw [climb_joins hjoins, climb_joins hjoins]
                refine passes.andThen (h _ rest short) fun right mid hright => ?_
                have shorter := (advances _ rest).2 right mid hright
                have room : mid.length ≤ bound :=
                  Nat.le_of_lt (Nat.lt_trans shorter (Nat.lt_of_succ_le short))
                refine passes.andThen (extensions _ op right mid hop room) ?_
                intro right' mid' hextend
                have left_over := extend_rest suffix count around hop right mid
                rw [hextend] at left_over
                exact climbs around _ least mid' (Nat.le_trans left_over.length_le room)
      · cases ts with
        | nil =>
            rw [extend_nil, extend_nil]
            exact passes.self _
        | cons next rest =>
            cases hjoins : joins op.kind.rightThreshold next with
            | false =>
                rw [extend_stops hop hjoins, extend_stops hop hjoins]
                exact passes.self _
            | true =>
                rw [extend_joins hop hjoins, extend_joins hop hjoins]
                refine passes.andThen (climbs (around + 1) right _ (next :: rest) short) ?_
                intro right' mid hclimb
                have left_over := climb_rest suffix count (around + 1) right next.kind.precedence
                  (next :: rest)
                rw [hclimb] at left_over
                exact extensions around op right' mid hop (Nat.le_trans left_over.length_le short)

theorem factorWith_compared (passes : Reply.Passes rel) {primary primary' : Reader Expr}
    (h : Compared rel bound primary primary') :
    Compared rel bound (factorWith primary) (factorWith primary') := by
  intro ts short
  rw [factorWith_eq, factorWith_eq]
  exact passes.andThen (h ts short) fun _ _ _ => passes.self _

theorem expressionWith_compared (passes : Reply.Passes rel)
    (advances : ∀ around, Advances (operand around))
    (h : ∀ around, Compared rel bound (operand around) (operand' around)) :
    Compared rel bound (expressionWith operand) (expressionWith operand') := by
  intro ts short
  rw [expressionWith_eq, expressionWith_eq]
  have advances_factor := advances_operand advances
  have factors := fun around => factorWith_compared passes (h (around + 1))
  refine passes.andThen (factors 1 ts short) fun left mid hleft => ?_
  have shorter := (advances_factor 1 ts).2 left mid hleft
  exact (climb_extend_compared passes advances_factor factors mid.length).1 2 left 1 mid (by omega)

end Operators

section Nested

variable {expression expression' : Reader Expr}

theorem furtherArguments_compared (passes : Reply.Passes rel) (advances : Advances expression)
    (h : Compared rel bound expression expression') (count : Nat) (ts : List Token)
    (short : ts.length ≤ bound) :
    rel _ (furtherArguments expression count ts) (furtherArguments expression' count ts) := by
  induction count generalizing ts with
  | zero => cases ts <;> rw [furtherArguments, furtherArguments] <;> exact passes.self _
  | succ count ih =>
      cases ts with
      | nil =>
          rw [furtherArguments, furtherArguments]
          exact passes.self _
      | cons comma rest =>
          by_cases hcomma : comma.kind = .comma
          · rw [furtherArguments_comma _ _ hcomma, furtherArguments_comma _ _ hcomma]
            refine passes.andThen (h rest short) fun argument mid hread => ?_
            have shorter := (advances rest).2 argument mid hread
            rw [List.length_cons] at short
            exact passes.map (ih mid (by omega)) _
          · rw [furtherArguments_stops _ _ hcomma, furtherArguments_stops _ _ hcomma]
            exact passes.self _

theorem argumentsWith_compared (passes : Reply.Passes rel) (advances : Advances expression)
    (h : Compared rel bound expression expression') :
    Compared rel bound (argumentsWith expression) (argumentsWith expression') := by
  intro ts short
  rw [argumentsWith_eq, argumentsWith_eq]
  refine passes.andThen (h ts short) fun argument mid hread => ?_
  have shorter := (advances ts).2 argument mid hread
  exact passes.map (furtherArguments_compared passes advances h mid.length mid (by omega)) _

theorem closeName_compared (passes : Reply.Passes rel) (advances : Advances expression)
    (h : Compared rel bound expression expression') (name : Name) {ts : List Token}
    (short : ts.length ≤ bound) :
    rel Expr (closeName expression name ts) (closeName expression' name ts) := by
  cases ts with
  | nil => exact passes.self _
  | cons opening ts =>
      by_cases hopening : opening.kind = .openParen
      · rw [closeName_openParen _ _ hopening, closeName_openParen _ _ hopening, callWith_eq,
          callWith_eq]
        refine passes.andThen ?_ fun arguments mid _ => passes.self _
        split
        · exact passes.self _
        · exact argumentsWith_compared passes advances h ts short
      · rw [closeName, closeName, if_neg hopening, if_neg hopening]
        exact passes.self _

/-- **What is nested in a primary is read from fewer tokens**, and the replies to primaries compare
if those to what is nested in them do. -/
theorem primaryWith_compared (passes : Reply.Passes rel) {nested nested' : Nat → Reader Expr}
    (advances : ∀ around, Advances (nested around)) {ts : List Token}
    (h : ∀ around, Compared rel ts.length (nested around) (nested' around)) :
    rel Expr (primaryWith nested ts) (primaryWith nested' ts) := by
  cases ts with
  | nil => exact passes.self _
  | cons t ts =>
      have short : ts.length < (t :: ts).length := Nat.lt_succ_self _
      cases hopens : opensPrimary t.kind with
      | false =>
          rw [primaryWith_refuses nested hopens, primaryWith_refuses nested' hopens]
          exact passes.self _
      | true =>
          cases hk : t.kind <;> rw [hk] at hopens
          case number =>
            rw [primaryWith_number nested hk, primaryWith_number nested' hk]
            exact passes.self _
          case identifier =>
            rw [primaryWith_identifier nested hk, primaryWith_identifier nested' hk]
            refine passes.andThen (passes.self _) fun name mid hread => ?_
            have shorter := (advances_identifier (t :: ts)).2 name mid hread
            exact closeName_compared passes (advances_argument advances)
              (expressionWith_compared passes (fun around => advances (around + 1))
                fun around => h (around + 1)) name (Nat.le_of_lt shorter)
          case openParen =>
            rw [primaryWith_openParen nested hk, primaryWith_openParen nested' hk]
            have hexpression := expressionWith_compared passes advances h
            exact passes.andThen (hexpression ts short) fun _ _ _ => passes.self _
          case minus =>
            rw [primaryWith_minus nested hk, primaryWith_minus nested' hk]
            exact passes.map (h 0 ts short) _
          case negate =>
            rw [primaryWith_negate nested hk, primaryWith_negate nested' hk]
            exact passes.map (h 0 ts short) _
          all_goals cases hopens

end Nested

end Reader

end Formula
