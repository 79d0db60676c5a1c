import Formula.Proofs.Grammar
import Formula.Proofs.Progress
set_option autoImplicit false

/-!
# Phrases are read

Every phrase of the grammar is read from the front of a list of tokens as what it stands for,
unless it is nested too deeply, as long as the token behind it does not continue it.

A phrase of binary operators is not read by itself: the same climb goes on behind it.  So it is
said of such a phrase what a chain of operands does in front of it, whatever the climb behind it
will do (`ReadsInChain`).
-/

namespace Formula

open Grammar

namespace Reader

/-! ## The token behind a phrase -/

/-- Would a token of the kind `kind` right behind a phrase of the kind `q` become a part of it,
or be refused there? -/
def continues (q : Nonterminal) (kind : Kind) : Bool :=
  kind = .period || kind = .openParen || (kind.isUnary && q ≠ .primary)
    || (kind.isBinary && q.rank < (leftOf kind).rank)

/-- A phrase of the kind `q` may end in front of `rest`. -/
def Ends (q : Nonterminal) (rest : List Token) : Prop :=
  ∀ t ∈ rest.head?, continues q t.kind = false

/-- What stands behind an expression that is complete: a closing parenthesis, a comma, or
nothing. -/
def Closes (rest : List Token) : Prop :=
  ∀ t ∈ rest.head?, t.kind = .closeParen ∨ t.kind = .comma

theorem continues_loosen {p q : Nonterminal} (le : q.rank ≤ p.rank) {kind : Kind}
    (h : continues p kind = true) : continues q kind = true := by
  have primary : p ≠ .primary → q ≠ .primary := by
    rintro hp rfl
    cases p <;> first | exact absurd le (by decide) | exact hp rfl
  simp only [continues, Bool.or_eq_true, Bool.and_eq_true, decide_eq_true_eq] at h ⊢
  rcases h with (h | ⟨hunary, hp⟩) | ⟨hbinary, hlt⟩
  · exact Or.inl (Or.inl h)
  · exact Or.inl (Or.inr ⟨hunary, primary hp⟩)
  · exact Or.inr ⟨hbinary, by omega⟩

theorem Ends.tighten {p q : Nonterminal} {rest : List Token} (h : Ends q rest)
    (le : q.rank ≤ p.rank) : Ends p rest := by
  intro t ht
  have refused := h t ht
  rw [← Bool.not_eq_true] at refused ⊢
  exact fun hcontinues => refused (continues_loosen le hcontinues)

theorem Closes.ends {rest : List Token} (h : Closes rest) (q : Nonterminal) : Ends q rest := by
  intro t ht
  rcases h t ht with hk | hk <;> rw [hk] <;> cases q <;> decide

theorem closes_nil : Closes [] := fun _ ht => nomatch ht

theorem closes_closeParen {closing : Token} (h : closing.kind = .closeParen) (rest : List Token) :
    Closes (closing :: rest) := by
  intro t ht
  cases ht
  exact Or.inl h

theorem closes_comma {comma : Token} (h : comma.kind = .comma) (rest : List Token) :
    Closes (comma :: rest) := by
  intro t ht
  cases ht
  exact Or.inr h

theorem Closes.not_joins {rest : List Token} (h : Closes rest) (least : Nat) :
    ∀ next ∈ rest.head?, joins least next = false := by
  intro next hnext
  rcases h next hnext with hk | hk <;> rw [joins, hk] <;> rfl

/-- An operator may follow its left operand. -/
theorem ends_leftOf {op : Token} {kind : Kind} (hop : op.kind = kind) (h : kind.isBinary = true)
    (rest : List Token) : Ends (leftOf kind) (op :: rest) := by
  intro t ht
  cases ht
  rw [hop]
  rcases Kind.binary_cases h with rfl | rfl | rfl | rfl | rfl <;> decide

/-- Behind what an operator makes stands no operator that could take the right operand. -/
theorem Ends.stops {kind : Kind} (h : kind.isBinary = true) {rest : List Token}
    (ends : Ends (made kind) rest) : ∀ next ∈ rest.head?, joins kind.rightThreshold next = false := by
  intro next hnext
  have refused := ends next hnext
  rw [← Bool.not_eq_true] at refused ⊢
  intro hjoins
  obtain ⟨hbinary, threshold⟩ := joins_iff.1 hjoins
  refine refused ?_
  generalize next.kind = follower at hbinary threshold ⊢
  revert threshold
  rcases Kind.binary_cases hbinary with rfl | rfl | rfl | rfl | rfl <;>
    rcases Kind.binary_cases h with rfl | rfl | rfl | rfl | rfl <;> decide

/-! ## Names -/

theorem expect_cons {kind : Kind} {t : Token} (h : t.kind = kind) (rest : List Token) :
    expect kind (t :: rest) = .ok t rest := by
  rw [expect, if_pos h]

theorem furtherMembers_complete {ts members rest : List Token} (h : Members ts members)
    (noPeriod : ∀ t ∈ rest.head?, t.kind ≠ .period) :
    furtherMembers (ts ++ rest) = .ok members rest := by
  induction h with
  | none =>
      rcases rest with _ | ⟨t, _ | ⟨u, rest⟩⟩
      · rfl
      · rw [List.nil_append, furtherMembers, if_neg (noPeriod t rfl)]
      · rw [List.nil_append, furtherMembers, if_neg (noPeriod t rfl)]
  | more hperiod hmember _ ih =>
      rw [List.cons_append, List.cons_append, furtherMembers, if_pos hperiod, if_pos hmember, ih]

theorem identifier_complete {ts rest : List Token} {name : Name} (h : Identifier ts name)
    (noPeriod : ∀ t ∈ rest.head?, t.kind ≠ .period) : identifier (ts ++ rest) = .ok name rest := by
  obtain ⟨hfirst, further⟩ := h
  rw [identifier_eq, List.cons_append, expect_cons hfirst, Reply.andThen_ok,
    furtherMembers_complete further noPeriod]
  rfl

/-! ## What is to be shown of a phrase -/

/-- The factors inside an expression within the given number of frames, with so many calls around
them. -/
def factors (frames around : Nat) : Reader Expr := factor (frames - around)

theorem expression_eq (frames : Nat) (ts : List Token) :
    expression frames ts = chain (factors frames) 1 1 ts :=
  expressionWith_eq (fun around => primary (frames - around)) ts

/-- The expressions among the arguments of a call. -/
theorem expressionWith_inArguments (frames : Nat) :
    expressionWith (fun around => primary (frames - (around + 1))) = expression (frames - 1) := by
  unfold expression
  congr 1
  funext around
  rw [Nat.sub_sub, Nat.add_comm]

/-- The tokens are read as a primary in front of whatever may follow it. -/
def ReadsAlone (ts : List Token) (e : Expr) : Prop :=
  ∀ frames rest, Ends .primary rest → (primary frames (ts ++ rest)).Reads e rest

/-- A chain reads the tokens as its first operand and operators, and goes on behind them. -/
def ReadsInChain (q : Nonterminal) (ts : List Token) (e : Expr) : Prop :=
  ∀ frames around least rest, least ≤ q.rank → Ends q rest → ∀ y left,
    (climbAll (factors frames) (around + 1) e least rest).Reads y left →
      (chain (factors frames) around least (ts ++ rest)).Reads y left

/-- What is to be shown of a phrase of the kind `q`. -/
def Readable : Nonterminal → List Token → Expr → Prop
  | .primary => ReadsAlone
  | q => ReadsInChain q

/-- The tokens are read as arguments in front of a closing parenthesis. -/
def ReadsArguments (ts : List Token) (es : List Expr) : Prop :=
  ∀ frames closing rest, closing.kind = .closeParen →
    (argumentsWith (expression frames) (ts ++ closing :: rest)).Reads es (closing :: rest)

theorem advances_factors (frames around : Nat) : Advances (factors frames around) :=
  advances_factorWith (advances_primary (frames - around - 1))

theorem advances_expression (frames : Nat) : Advances (expression frames) :=
  advances_expressionWith fun around => advances_primary (frames - around)

/-- A sum is read as an expression. -/
theorem ReadsInChain.expression {ts : List Token} {e : Expr} (h : ReadsInChain .sum ts e)
    (frames : Nat) {rest : List Token} (closes : Closes rest) :
    (expression frames (ts ++ rest)).Reads e rest := by
  rw [expression_eq]
  refine h frames 1 1 rest (by decide) (closes.ends .sum) e rest (Or.inl ?_)
  exact climbAll_stops_of_head (closes.not_joins 1) 2 e

/-! ## Factors and operators -/

theorem ReadsInChain.ofFactor {ts : List Token} {e : Expr}
    (h : ∀ frames rest, Ends .factor rest → (factor frames (ts ++ rest)).Reads e rest)
    {q : Nonterminal} (le : q.rank ≤ Nonterminal.factor.rank) : ReadsInChain q ts e := by
  intro frames around least rest _ ends y left hgo
  exact (h (frames - around) rest (ends.tighten le)).andThen hgo

/-- A primary is read as a factor where no postfix operator follows. -/
theorem ReadsAlone.reads_factor {ts : List Token} {e : Expr} (h : ReadsAlone ts e) (frames : Nat)
    {rest : List Token} (ends : Ends .factor rest) : (factor frames (ts ++ rest)).Reads e rest := by
  rw [Reader.factor, factorWith_eq]
  refine (h (frames - 1) rest (ends.tighten (by decide))).andThen (Or.inl ?_)
  refine closeFactor_stops (fun t ht => ?_) e
  cases hunary : t.kind.isUnary with
  | false => rfl
  | true => simpa [continues, hunary] using ends t ht

/-- A primary and a factorial sign are read as a factor in front of anything. -/
theorem ReadsAlone.reads_factorial {op : Token} {ts : List Token} {e : Expr} (h : ReadsAlone ts e)
    (hop : op.kind = .factorial) (frames : Nat) (rest : List Token) :
    (Reader.factor frames ((ts ++ [op]) ++ rest)).Reads (.unary e op) rest := by
  have ends : Ends .primary (op :: rest) := by
    intro t ht
    cases ht
    rw [hop]
    rfl
  rw [Reader.factor, factorWith_eq, List.append_assoc, List.singleton_append]
  exact (h (frames - 1) (op :: rest) ends).andThen (Or.inl (closeFactor_factorial hop e rest))

theorem ReadsAlone.factor {ts : List Token} {e : Expr} (h : ReadsAlone ts e) :
    ReadsInChain .factor ts e :=
  .ofFactor (fun frames _ ends => h.reads_factor frames ends) (Nat.le_refl _)

theorem ReadsAlone.factorial {op : Token} {ts : List Token} {e : Expr} (h : ReadsAlone ts e)
    (hop : op.kind = .factorial) : ReadsInChain .factor (ts ++ [op]) (.unary e op) :=
  .ofFactor (fun frames rest _ => h.reads_factorial hop frames rest) (Nat.le_refl _)

/-- What is bound tightly is read where something looser may stand. -/
theorem ReadsInChain.loosen {p q : Nonterminal} {ts : List Token} {e : Expr}
    (h : ReadsInChain p ts e) (le : q.rank ≤ p.rank) : ReadsInChain q ts e :=
  fun frames around least rest hleast ends =>
    h frames around least rest (Nat.le_trans hleast le) (ends.tighten le)

/-- Two operands with a binary operator between them are read if both operands are: the climb
behind the left operand joins the operator, and the one behind the right operand stops. -/
theorem ReadsInChain.join {op : Token} {kind : Kind} {as bs : List Token} {a b : Expr}
    (hop : op.kind = kind) (hbinary : kind.isBinary = true) (lhs : ReadsInChain (leftOf kind) as a)
    (rhs : ReadsInChain (rightOf kind) bs b) :
    ReadsInChain (made kind) (as ++ op :: bs) (.binary a b op) := by
  intro frames around least rest hleast ends y left hgo
  have hjoins : joins least op = true := by
    rw [joins_iff, hop, ← made_rank hbinary]
    exact ⟨hbinary, hleast⟩
  rw [List.append_assoc, List.cons_append]
  refine lhs frames around least _ (Nat.le_trans hleast (rank_made_le_leftOf kind))
    (ends_leftOf hop hbinary _) y left ?_
  rw [climbAll_joins (advances_factors frames) hjoins, hop]
  refine Reply.Reads.andThen ?_ hgo
  have threshold : kind.rightThreshold ≤ (rightOf kind).rank := by
    rcases Kind.binary_cases hbinary with rfl | rfl | rfl | rfl | rfl <;> decide
  refine rhs frames _ _ rest threshold (ends.tighten (rank_made_le_rightOf kind)) b rest ?_
  exact Or.inl (climbAll_stops_of_head (ends.stops hbinary) _ b)

/-! ## Primaries -/

theorem reads_primary {ts rest : List Token} {e : Expr}
    (h : ∀ frames, (primaryWith (fun around => primary (frames - around)) ts).Reads e rest)
    (frames : Nat) : (primary frames ts).Reads e rest := by
  cases frames with
  | zero => exact Or.inr ⟨ts, primary_zero ts⟩
  | succ frames =>
      rw [primary_succ]
      exact h frames

theorem number_complete {token : Token} {spelling : String} (hkind : token.kind = .number)
    (hlexeme : token.lexeme = some spelling) (hliteral : (Double.ofLiteral? spelling).isSome)
    (rest : List Token) : number (token :: rest) = .ok (.number token) rest := by
  obtain ⟨x, hx⟩ := Option.isSome_iff_exists.1 hliteral
  rw [number_eq, expect_cons hkind, Reply.andThen_ok]
  simp only [closeNumber, hlexeme, hx]

theorem readsAlone_number {token : Token} {spelling : String} (hkind : token.kind = .number)
    (hlexeme : token.lexeme = some spelling) (hliteral : (Double.ofLiteral? spelling).isSome) :
    ReadsAlone [token] (.number token) := by
  intro frames rest _
  refine reads_primary (fun frames => Or.inl ?_) frames
  rw [List.singleton_append, primaryWith_number _ hkind]
  exact number_complete hkind hlexeme hliteral rest

/-- Behind a name, what is not a further member is read by `closeName`. -/
theorem reads_name {ts rest left : List Token} {name : Name} {e : Expr} (h : Identifier ts name)
    (noPeriod : ∀ t ∈ rest.head?, t.kind ≠ .period)
    (hclose : ∀ frames, (closeName (expression frames) name rest).Reads e left) (frames : Nat) :
    (primary frames (ts ++ rest)).Reads e left := by
  refine reads_primary (fun frames => ?_) frames
  have hname := identifier_complete h noPeriod
  obtain ⟨hfirst, further⟩ := h
  rw [List.cons_append] at hname ⊢
  rw [primaryWith_identifier _ hfirst, hname, expressionWith_inArguments]
  exact hclose (frames - 1)

theorem readsAlone_name {ts : List Token} {name : Name} (h : Identifier ts name) :
    ReadsAlone ts (.identifier name) := by
  intro frames rest ends
  refine reads_name h (fun t ht hk => ?_) (fun frames => Or.inl ?_) frames
  · simpa [continues, hk] using ends t ht
  · exact closeName_stops _ name fun t ht hk => by simpa [continues, hk] using ends t ht

/-- Behind a name and an opening parenthesis, the arguments of a call are read. -/
theorem reads_call {ts inner left : List Token} {name : Name} {e : Expr} {opening : Token}
    (h : Identifier ts name) (hopening : opening.kind = .openParen)
    (hcall : ∀ frames, (callWith (expression frames) name inner).Reads e left) (frames : Nat) :
    (primary frames (ts ++ opening :: inner)).Reads e left := by
  refine reads_name h (fun t ht => ?_) (fun frames => ?_) frames
  · cases ht
    rw [hopening]
    decide
  · rw [closeName_openParen _ name hopening]
    exact hcall frames

theorem readsAlone_emptyCall {opening closing : Token} {ts : List Token} {name : Name}
    (h : Identifier ts name) (hopening : opening.kind = .openParen)
    (hclosing : closing.kind = .closeParen) :
    ReadsAlone (ts ++ [opening, closing]) (.call name []) := by
  intro frames rest _
  rw [List.append_assoc, List.cons_append, List.singleton_append]
  refine reads_call h hopening (fun frames => Or.inl ?_) frames
  have hnext : isNext .closeParen (closing :: rest) = true := by rw [isNext, hclosing]; rfl
  rw [callWith_eq, if_pos hnext, Reply.andThen_ok, expect_cons hclosing]
  rfl

/-- The first token of a phrase may open a primary. -/
theorem exists_opening {q : Nonterminal} {ts : List Token} {e : Expr} :
    Phrase q ts e → ∃ t rest, ts = t :: rest ∧ opensPrimary t.kind = true
  | .addition lhs _ _ | .multiplication lhs _ _ | .exponentiation lhs _ _ | .factorial lhs _ => by
      obtain ⟨t, rest, rfl, hopens⟩ := exists_opening lhs
      exact ⟨t, _, rfl, hopens⟩
  | .ofProduct h | .ofPower h | .ofFactor h | .ofPrimary h => exists_opening h
  | .number hkind _ _ => ⟨_, _, rfl, by rw [hkind]; rfl⟩
  | .name h | .emptyCall h _ _ | .call h _ _ _ => by
      obtain ⟨hfirst, _⟩ := h
      exact ⟨_, _, rfl, by rw [hfirst]; rfl⟩
  | .group hopening _ _ => ⟨_, _, rfl, by rw [hopening]; rfl⟩
  | .minus hop _ | .negation hop _ => ⟨_, _, rfl, by rw [hop]; rfl⟩

/-- No closing parenthesis opens an argument. -/
theorem isNext_closeParen_arguments {ts : List Token} {es : List Expr} (h : Arguments ts es)
    (rest : List Token) : isNext .closeParen (ts ++ rest) = false := by
  have opens : ∃ t us, ts = t :: us ∧ opensPrimary t.kind = true := by
    cases h with
    | one argument => exact exists_opening argument
    | more argument _ _ =>
        obtain ⟨t, us, rfl, hopens⟩ := exists_opening argument
        exact ⟨t, _, rfl, hopens⟩
  obtain ⟨t, us, rfl, hopens⟩ := opens
  rw [List.cons_append, isNext]
  cases hk : t.kind <;> rw [hk] at hopens <;> first | rfl | cases hopens

theorem readsAlone_call {opening closing : Token} {ts us : List Token} {name : Name}
    {es : List Expr} (h : Identifier ts name) (hopening : opening.kind = .openParen)
    (arguments : Arguments us es) (reads : ReadsArguments us es)
    (hclosing : closing.kind = .closeParen) :
    ReadsAlone (ts ++ opening :: us ++ [closing]) (.call name es) := by
  intro frames rest _
  rw [List.append_assoc, List.append_assoc, List.cons_append]
  refine reads_call h hopening (fun frames => ?_) frames
  rw [callWith_eq, List.singleton_append, isNext_closeParen_arguments arguments]
  refine (reads frames closing rest hclosing).andThen (Or.inl ?_)
  rw [expect_cons hclosing]
  rfl

theorem readsAlone_group {opening closing : Token} {ts : List Token} {e : Expr}
    (hopening : opening.kind = .openParen) (h : ReadsInChain .sum ts e)
    (hclosing : closing.kind = .closeParen) : ReadsAlone (opening :: ts ++ [closing]) e := by
  intro frames rest _
  refine reads_primary (fun frames => ?_) frames
  rw [List.append_assoc, List.cons_append, List.singleton_append,
    primaryWith_openParen _ hopening]
  refine (h.expression frames (closes_closeParen hclosing rest)).andThen (Or.inl ?_)
  rw [expect_cons hclosing]
  rfl

theorem readsAlone_minus {op : Token} {ts : List Token} {e : Expr} (hop : op.kind = .minus)
    (h : ReadsAlone ts e) : ReadsAlone (op :: ts) (.unary e { kind := .negate, start := op.start }) := by
  intro frames rest ends
  refine reads_primary (fun frames => ?_) frames
  rw [List.cons_append, primaryWith_minus _ hop]
  exact (h (frames - 0) rest ends).map _

theorem readsAlone_negation {op : Token} {ts : List Token} {e : Expr} (hop : op.kind = .negate)
    (h : ReadsAlone ts e) : ReadsAlone (op :: ts) (.unary e op) := by
  intro frames rest ends
  refine reads_primary (fun frames => ?_) frames
  rw [List.cons_append, primaryWith_negate _ hop]
  exact (h (frames - 0) rest ends).map _

/-! ## Arguments -/

theorem readsArguments_one {ts : List Token} {e : Expr} (h : ReadsInChain .sum ts e) :
    ReadsArguments ts [e] := by
  intro frames closing rest hclosing
  rw [argumentsWith_eq]
  refine (h.expression frames (closes_closeParen hclosing rest)).andThen (Or.inl ?_)
  rw [furtherAll_stops _ (by rw [hclosing]; decide)]
  rfl

theorem readsArguments_more {comma : Token} {ts us : List Token} {e : Expr} {es : List Expr}
    (h : ReadsInChain .sum ts e) (hcomma : comma.kind = .comma) (others : ReadsArguments us es) :
    ReadsArguments (ts ++ comma :: us) (e :: es) := by
  intro frames closing rest hclosing
  rw [argumentsWith_eq, List.append_assoc, List.cons_append]
  refine (h.expression frames (closes_comma hcomma _)).andThen ?_
  rw [furtherAll_comma (advances_expression frames) hcomma, ← argumentsWith_eq]
  exact (others frames closing rest hclosing).map _

/-! ## All phrases -/

mutual

/-- Every phrase is read: by induction on how the grammar derives it. -/
theorem phrase_readable {q : Nonterminal} {ts : List Token} {e : Expr} :
    Phrase q ts e → Readable q ts e
  | .addition lhs hop rhs => by
      rcases hop with hop | hop
      · exact .join hop rfl (phrase_readable lhs) (phrase_readable rhs)
      · exact .join hop rfl (phrase_readable lhs) (phrase_readable rhs)
  | .multiplication lhs hop rhs => by
      rcases hop with hop | hop
      · exact .join hop rfl (phrase_readable lhs) (phrase_readable rhs)
      · exact .join hop rfl (phrase_readable lhs) (phrase_readable rhs)
  | .exponentiation lhs hop rhs => .join hop rfl (phrase_readable lhs) (phrase_readable rhs)
  | .ofProduct h => (phrase_readable h : ReadsInChain .product ts e).loosen (by decide)
  | .ofPower h => (phrase_readable h : ReadsInChain .power ts e).loosen (by decide)
  | .ofFactor h => (phrase_readable h : ReadsInChain .factor ts e).loosen (by decide)
  | .ofPrimary h => (phrase_readable h : ReadsAlone ts e).factor
  | .factorial h hop => (phrase_readable h : ReadsAlone _ _).factorial hop
  | .number hkind hlexeme hliteral => readsAlone_number hkind hlexeme hliteral
  | .name h => readsAlone_name h
  | .emptyCall h hopening hclosing => readsAlone_emptyCall h hopening hclosing
  | .call h hopening arguments hclosing =>
      readsAlone_call h hopening arguments (arguments_readable arguments) hclosing
  | .group hopening h hclosing => readsAlone_group hopening (phrase_readable h) hclosing
  | .minus hop h => readsAlone_minus hop (phrase_readable h)
  | .negation hop h => readsAlone_negation hop (phrase_readable h)

theorem arguments_readable {ts : List Token} {es : List Expr} :
    Arguments ts es → ReadsArguments ts es
  | .one h => readsArguments_one (phrase_readable h)
  | .more h hcomma others => readsArguments_more (phrase_readable h) hcomma (arguments_readable others)

end

/-! ## At the end of the tokens -/

theorem primary_complete {ts : List Token} {e : Expr} (h : Phrase .primary ts e) (frames : Nat) :
    (primary frames ts).Reads e [] := by
  have reads : ReadsAlone ts e := phrase_readable h
  have hread := reads frames [] (closes_nil.ends .primary)
  rw [List.append_nil] at hread
  exact hread

/-- A factor is read in front of what may follow it. -/
theorem factor_reads {ts rest : List Token} {e : Expr} (h : Phrase .factor ts e)
    (ends : Ends .factor rest) (frames : Nat) : (factor frames (ts ++ rest)).Reads e rest := by
  cases h with
  | ofPrimary h =>
      have reads : ReadsAlone ts e := phrase_readable h
      exact reads.reads_factor frames ends
  | factorial h hop =>
      have reads : ReadsAlone _ _ := phrase_readable h
      exact reads.reads_factorial hop frames rest

theorem factor_complete {ts : List Token} {e : Expr} (h : Phrase .factor ts e) (frames : Nat) :
    (factor frames ts).Reads e [] := by
  have hread := factor_reads h (closes_nil.ends .factor) frames
  rw [List.append_nil] at hread
  exact hread

theorem expression_complete {ts : List Token} {e : Expr} (h : Phrase .sum ts e) (frames : Nat) :
    (expression frames ts).Reads e [] := by
  have hread := ReadsInChain.expression (phrase_readable h) frames closes_nil
  rw [List.append_nil] at hread
  exact hread

theorem argumentsWith_complete {ts : List Token} {es : List Expr} (frames : Nat) :
    Arguments ts es → (argumentsWith (expression frames) ts).Reads es []
  | .one h => by
      rw [argumentsWith_eq]
      refine (expression_complete h frames).andThen (Or.inl ?_)
      rw [furtherAll_nil]
      rfl
  | @Arguments.more comma _ us _ _ h hcomma others => by
      have closes : Closes (comma :: us) := closes_comma hcomma us
      rw [argumentsWith_eq]
      refine (ReadsInChain.expression (phrase_readable h) frames closes).andThen ?_
      rw [furtherAll_comma (advances_expression frames) hcomma, ← argumentsWith_eq]
      exact (argumentsWith_complete frames others).map _

theorem argumentList_complete {ts : List Token} {es : List Expr} (frames : Nat)
    (h : Arguments ts es) : (argumentList frames ts).Reads es [] :=
  argumentsWith_complete (frames - 1) h

/-- A sum that makes up all the tokens is read, unless it is nested too deeply. -/
theorem whole_complete {ts : List Token} {e : Expr} (h : Phrase .sum ts e) (frames : Nat) :
    (whole frames ts).Reads e [] := by
  unfold whole
  rcases expression_complete h frames with hread | ⟨rest, hread⟩
  · rw [hread]
    exact Or.inl rfl
  · rw [hread]
    exact Or.inr ⟨rest, rfl⟩

end Reader

end Formula
