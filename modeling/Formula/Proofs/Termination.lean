import Formula.Proofs.Unlimited
set_option autoImplicit false

/-!
# The recursion of the readers ends

The readers call one another, and two of them go round in loops inside one another.  All of it ends
because no call moves backwards and a call that returns has taken a token: so a loop is at most as
long as there are tokens, and what is nested in a phrase is read from fewer tokens than the phrase.

The loop that lets further operators take a right operand takes no token itself.  It goes on because
the climb that it calls starts at the precedence of the very next operator, and so joins that one at
least (`operand_of_climb_joins`).
-/

namespace Formula

namespace Reader

variable {α : Type}

/-- The readers reply the same to fewer tokens than `bound`. -/
def SameBelow (bound : Nat) (read read' : Reader α) : Prop :=
  ∀ ts, ts.length < bound → read ts = read' ts

/-- What the calls of the readers within the given frames do to the tokens at hand. -/
structure MovesForward (frames : Nat) : Prop where
  /-- No call moves backwards, and a call that returns has taken a token. -/
  phrases : Advances (expression frames) ∧ Advances (factor frames) ∧ Advances (primary frames) ∧
    Advances identifier ∧ Advances (argumentList frames)
  tokens : Advances number ∧ ∀ kind, Advances (expect kind)
  /-- The loops do not move backwards either. -/
  climbs : ∀ count around left least ts,
    (climb (factors frames) count around left least ts).rest <:+ ts
  extensions : ∀ count around op right ts, op.kind.isBinary = true →
    (extend (factors frames) count around op right ts).rest <:+ ts
  members : ∀ ts, (furtherMembers ts).rest <:+ ts
  arguments : ∀ count ts, (furtherArguments (expression frames) count ts).rest <:+ ts
  calls : ∀ name ts, (callWith (expression frames) name ts).rest <:+ ts
  /-- The climb that is called for a right operand takes an operator and an operand at least. -/
  rightOperand : ∀ count around right next rest e left, next.kind.isBinary = true →
    climb (factors frames) count around right next.kind.precedence (next :: rest) = .ok e left →
      ∃ operand behind, factors frames around rest = .ok operand behind ∧
        behind.length < rest.length ∧ left <:+ behind

theorem movesForward (frames : Nat) : MovesForward frames := by
  have operands := advances_factors frames
  have suffix : ∀ around ts, (factors frames around ts).rest <:+ ts := fun around ts =>
    (operands around ts).1
  have expressions := advances_expression frames
  refine ⟨⟨expressions, advances_factorWith (advances_primary _), advances_primary frames,
    advances_identifier, advances_argumentsWith (advances_expression _)⟩,
    ⟨advances_number, advances_expect⟩, climb_rest suffix,
    fun count around op right ts hop => extend_rest suffix count around hop right ts,
    furtherMembers_rest, furtherArguments_rest expressions, callWith_rest expressions, ?_⟩
  intro count around right next rest e left hnext hread
  obtain ⟨operand, behind, hoperand, hbehind⟩ :=
    operand_of_climb_joins suffix (joins_iff.2 ⟨hnext, Nat.le_refl _⟩) hread
  exact ⟨operand, behind, hoperand, (operands _ rest).2 operand behind hoperand, hbehind⟩

/-- The number of tokens at hand is a measure of the loops and of the recursion of the readers. -/
structure EndsWithTokens : Prop where
  /-- What is nested in a primary, and the operands in the loops of a climb, are read from fewer
  tokens. -/
  nested : ∀ (nested nested' : Nat → Reader Expr) ts, (∀ around, Advances (nested around)) →
    (∀ around, SameBelow ts.length (nested around) (nested' around)) →
      primaryWith nested ts = primaryWith nested' ts
  operands : ∀ (operand operand' : Nat → Reader Expr) ts, (∀ around, Advances (operand around)) →
    (∀ around, SameBelow ts.length (operand around) (operand' around)) →
      (∀ count around left least,
        climb operand count around left least ts = climb operand' count around left least ts) ∧
      ∀ count around op right, op.kind.isBinary = true →
        extend operand count around op right ts = extend operand' count around op right ts
  /-- The loops can do with a count of the tokens: a greater one changes nothing. -/
  climbs : ∀ (operand : Nat → Reader Expr) ts count, (∀ around, Advances (operand around)) →
    ts.length ≤ count → ∀ around left least,
      climb operand count around left least ts = climb operand ts.length around left least ts
  extensions : ∀ (operand : Nat → Reader Expr) ts count, (∀ around, Advances (operand around)) →
    ts.length < count → ∀ around op right, op.kind.isBinary = true →
      extend operand count around op right ts = extend operand (ts.length + 1) around op right ts
  arguments : ∀ (expression : Reader Expr) ts count, Advances expression → ts.length ≤ count →
    furtherArguments expression count ts = furtherArguments expression ts.length ts
  /-- The calls that are in progress are at most three for each token, and three more. -/
  frames : ∀ frames ts, 3 * ts.length + 3 < frames → ¬ (expression frames ts).TooDeep ∧
    ¬ (factor frames ts).TooDeep ∧ ¬ (primary frames ts).TooDeep ∧ ¬ (argumentList frames ts).TooDeep
  rounds : ∀ frames around ts, around + 3 * ts.length < frames → ∀ count left least,
    ts.length ≤ count → ¬ (climb (factors frames) count around left least ts).TooDeep
  /-- Without a limit on frames the recursion determines a reply to every list of tokens, and it
  never gives up. -/
  unlimited : ∃ read : Reader Expr, (∀ ts, read ts = primaryWith (fun _ => read) ts) ∧
    (∀ ts, ¬ (read ts).TooDeep) ∧
    ∀ read' : Reader Expr, (∀ ts, read' ts = primaryWith (fun _ => read') ts) → read' = read

theorem endsWithTokens : EndsWithTokens where
  nested _ _ _ advances same := primaryWith_compared Reply.passes_eq advances same
  operands _ _ ts advances same := by
    have compared := climb_extend_compared Reply.passes_eq advances same
    refine ⟨fun count around left least => ?_, fun count around op right hop => ?_⟩
    · exact (compared count).1 around left least ts (Nat.le_refl _)
    · exact (compared count).2 around op right ts hop (Nat.le_refl _)
  climbs _ _ _ advances enough := climb_count advances enough
  extensions _ _ _ advances enough around _ right hop := extend_count advances enough around hop right
  arguments _ ts _ advances enough := furtherArguments_count advances ts.length ts _ _
    (Nat.le_refl _) enough (Nat.le_refl _)
  frames frames ts short := by
    have primaries := not_tooDeep_primary frames ts (by omega)
    have argument (ts' : List Token) (shorter : ts'.length < ts.length + 1) :
        ¬ (expression (frames - 1) ts').TooDeep := not_tooDeep_expression (frames - 1) ts' (by omega)
    exact ⟨not_tooDeep_expression frames ts (by omega), not_tooDeep_factor ts (by omega), primaries,
      not_tooDeep_argumentsWith (advances_expression _) argument ts (Nat.lt_succ_self _)⟩
  rounds frames around ts short count left least enough := by
    rw [climb_count (advances_factors frames) enough]
    have operands : NestsWithin (frames - 1) (factors frames) := fun around ts room =>
      not_tooDeep_factor ts (by omega)
    exact not_tooDeep_climbAll (advances_factors frames) operands least around left ts (by omega)
  unlimited := ⟨unlimited, unlimited_eq, not_tooDeep_unlimited, fun _ fixed => unlimited_iff.1 fixed⟩

/-- **The readers make progress and come to an end.**  Whatever the tokens are, no call moves
backwards, every call that returns a phrase has taken a token, and a climb for a right operand has
taken an operator and an operand.  So the loops of a climb, and the recursion of the readers, end
on all tokens: what is nested is read from fewer of them, the rounds of a loop are no more than there
are tokens, and the calls that are in progress no more than three for each of them, and three. -/
theorem readers_progress : (∀ frames, MovesForward frames) ∧ EndsWithTokens :=
  ⟨movesForward, endsWithTokens⟩

end Reader

end Formula
