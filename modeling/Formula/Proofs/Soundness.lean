import Formula.Proofs.Grammar
import Formula.Proofs.Progress
set_option autoImplicit false

/-!
# Readers read phrases

What a reader takes from the front of a list of tokens is a phrase of the grammar that stands
for what it returns.  For a climb the invariant is `climbAll_sound`: the expression on its left
stands for a phrase that is bound tightly enough for the next operator the climb joins.
-/

namespace Formula

open Grammar

namespace Reader

/-- What `read` takes is of the form `G`. -/
def Sound {α : Type} (G : List Token → α → Prop) (read : Reader α) : Prop :=
  ∀ ts x rest, read ts = .ok x rest → ∃ used, ts = used ++ rest ∧ G used x

/-- If the tokens are some tokens in front of those that were left, then those are the phrase. -/
theorem Sound.taken {α : Type} {G : List Token → α → Prop} {read : Reader α} (h : Sound G read)
    {ts before mid : List Token} {x : α} (hsplit : ts = before ++ mid)
    (hread : read ts = .ok x mid) : G before x := by
  obtain ⟨used, hused, hphrase⟩ := h ts x mid hread
  rw [hsplit, List.append_cancel_right_eq] at hused
  rw [hused]
  exact hphrase

/-! ## Names and numbers -/

theorem furtherMembers_sound : Sound Members furtherMembers := by
  intro ts members rest h
  fun_induction furtherMembers ts generalizing members with
  | case1 => cases h; exact ⟨[], rfl, .none⟩
  | case3 period _ => cases h; exact ⟨[], rfl, .none⟩
  | case5 period member ts hperiod hmember others left hread ih =>
      cases h
      obtain ⟨used, rfl, further⟩ := ih others hread
      exact ⟨period :: member :: used, rfl, .more hperiod hmember further⟩
  | case7 period member ts _ => cases h; exact ⟨[], rfl, .none⟩
  | _ => cases h

theorem identifier_sound : Sound Identifier identifier := by
  intro ts name rest h
  rw [identifier_eq] at h
  obtain ⟨first, mid, hfirst, hmap⟩ := Reply.andThen_eq_ok h
  obtain ⟨others, hothers, rfl⟩ := Reply.map_eq_ok hmap
  obtain ⟨rfl, hkind⟩ := expect_ok hfirst
  obtain ⟨used, rfl, further⟩ := furtherMembers_sound mid others rest hothers
  exact ⟨first :: used, rfl, .members hkind further⟩

theorem number_sound : Sound (Phrase .primary) number := by
  intro ts e rest h
  rw [number_eq] at h
  obtain ⟨token, mid, htoken, hclose⟩ := Reply.andThen_eq_ok h
  obtain ⟨rfl, hkind⟩ := expect_ok htoken
  unfold closeNumber at hclose
  split at hclose
  · cases hclose
  · rename_i spelling hlexeme
    split at hclose
    · cases hclose
    · rename_i x hliteral
      cases hclose
      exact ⟨[token], rfl, .number hkind hlexeme (by rw [hliteral]; rfl)⟩

/-! ## Climbs -/

theorem rank_rightOf {kind : Kind} (h : kind.isBinary = true) :
    (rightOf kind).rank = kind.rightThreshold := by
  rcases Kind.binary_cases h with rfl | rfl | rfl | rfl | rfl <;> rfl

/-- An operator that does not take the right operand of another one is content with what the
other one makes as its left operand. -/
theorem rank_leftOf_le_made {next op : Kind} (hnext : next.isBinary = true)
    (hop : op.isBinary = true) (h : next.precedence < op.rightThreshold) :
    (leftOf next).rank ≤ (made op).rank := by
  revert h
  rcases Kind.binary_cases hnext with rfl | rfl | rfl | rfl | rfl <;>
    rcases Kind.binary_cases hop with rfl | rfl | rfl | rfl | rfl <;> decide

section Climbs

variable {operand : Nat → Reader Expr}

/-- A climb started behind a phrase `before` makes a longer one of it, and stops in front of no
operator that it could join. -/
theorem climbAll_sound (advances : ∀ around, Advances (operand around))
    (sound : ∀ around, Sound (Phrase .factor) (operand around)) {ts : List Token} :
    ∀ {around least : Nat} {left e : Expr} {p q : Nonterminal} {before rest : List Token},
      climbAll operand around left least ts = .ok e rest → p.rank = least → p.rank ≤ q.rank →
      Phrase q before left →
      (∀ op ∈ ts.head?, joins least op = true → (leftOf op.kind).rank ≤ q.rank) →
      ∃ used, ts = used ++ rest ∧ Phrase p (before ++ used) e ∧
        ∀ op ∈ rest.head?, joins least op = false := by
  -- on the number of tokens: the right operand and the rest of the climb are both shorter
  induction hn : ts.length using Nat.strongRecOn generalizing ts with
  | ind n ih =>
      intro around least left e p q before rest h hp hpq hleft tight
      cases ts with
      | nil =>
          rw [climbAll_nil] at h
          cases h
          refine ⟨[], rfl, ?_, fun op hop => nomatch hop⟩
          rw [List.append_nil]
          exact hleft.loosen hpq
      | cons op ts =>
          cases hjoins : joins least op with
          | false =>
              rw [climbAll_stops hjoins] at h
              cases h
              refine ⟨[], rfl, ?_, fun other hother => ?_⟩
              · rw [List.append_nil]
                exact hleft.loosen hpq
              · cases hother
                exact hjoins
          | true =>
              obtain ⟨hbinary, hleast⟩ := joins_iff.1 hjoins
              rw [climbAll_joins advances hjoins] at h
              obtain ⟨right, mid, hchain, hgo⟩ := Reply.andThen_eq_ok h
              have shorter := (advances_chain advances _ _ ts).2 right mid hchain
              obtain ⟨first, mid₁, hfirst, hclimb⟩ := Reply.andThen_eq_ok hchain
              have shorter₁ := (advances _ ts).2 first mid₁ hfirst
              simp only [List.length_cons] at hn
              -- the right operand: a factor, made a longer phrase by a climb of its own
              obtain ⟨us, rfl, hfactor⟩ := sound _ ts first mid₁ hfirst
              obtain ⟨vs, rfl, hright, stopped⟩ := ih mid₁.length (by omega) rfl hclimb
                (rank_rightOf hbinary) (rank_rightOf_le op.kind)
                hfactor fun next _ _ => rank_leftOf_le next.kind
              -- the operation is the left operand of the next operator
              have hjoined : Phrase (made op.kind) (before ++ op :: (us ++ vs))
                  (.binary left right op) :=
                .join rfl hbinary (hleft.loosen (tight op rfl hjoins)) hright
              obtain ⟨ws, rfl, hwhole, stopped'⟩ := ih mid.length (by omega) rfl hgo hp
                (by rw [hp, made_rank hbinary]; exact hleast) hjoined fun next hnext hjoinsNext =>
                  have hnextBinary := (joins_iff.1 hjoinsNext).1
                  rank_leftOf_le_made hnextBinary hbinary
                    (precedence_lt_of_not_joins (stopped next hnext) hnextBinary)
              refine ⟨op :: (us ++ vs) ++ ws, by simp, ?_, stopped'⟩
              rw [← List.append_assoc]
              exact hwhole

/-- A chain of factors is a phrase that is bound as its operators are, and it stops in front of no
operator that it could join. -/
theorem chain_phrase (advances : ∀ around, Advances (operand around))
    (sound : ∀ around, Sound (Phrase .factor) (operand around)) {around least : Nat} {e : Expr}
    {p : Nonterminal} {ts rest : List Token} (h : chain operand around least ts = .ok e rest)
    (hp : p.rank = least) (le : p.rank ≤ Nonterminal.factor.rank) :
    ∃ used, ts = used ++ rest ∧ Phrase p used e ∧ ∀ op ∈ rest.head?, joins least op = false := by
  obtain ⟨left, mid, hleft, hclimb⟩ := Reply.andThen_eq_ok h
  obtain ⟨us, rfl, hfactor⟩ := sound around ts left mid hleft
  obtain ⟨vs, rfl, hwhole, stopped⟩ := climbAll_sound advances sound hclimb hp le hfactor
    fun op _ _ => rank_leftOf_le op.kind
  exact ⟨us ++ vs, (List.append_assoc us vs rest).symm, hwhole, stopped⟩

theorem chain_sound (advances : ∀ around, Advances (operand around))
    (sound : ∀ around, Sound (Phrase .factor) (operand around)) (around : Nat) :
    Sound (Phrase .sum) (chain operand around 1) := by
  intro ts e rest h
  obtain ⟨used, hused, hwhole, _⟩ := chain_phrase advances sound h (p := .sum) rfl (by decide)
  exact ⟨used, hused, hwhole⟩

end Climbs

theorem factorWith_sound {primary : Reader Expr} (h : Sound (Phrase .primary) primary) :
    Sound (Phrase .factor) (factorWith primary) := by
  intro ts e rest hread
  rw [factorWith_eq] at hread
  obtain ⟨operand, mid, hoperand, hclose⟩ := Reply.andThen_eq_ok hread
  obtain ⟨used, rfl, hprimary⟩ := h ts operand mid hoperand
  cases mid with
  | nil =>
      cases hclose
      exact ⟨used, rfl, .ofPrimary hprimary⟩
  | cons op left =>
      rw [closeFactor] at hclose
      split at hclose
      · cases hclose
        exact ⟨used, rfl, .ofPrimary hprimary⟩
      · rename_i hunary
        split at hclose
        · rename_i hright
          cases hclose
          refine ⟨used ++ [op], by simp, .factorial hprimary ?_⟩
          cases hk : op.kind <;> rw [hk] at hunary hright <;>
            first | rfl | exact absurd hright (by decide) | exact absurd rfl hunary
        · cases hclose

section Nested

variable {nested : Nat → Reader Expr}

theorem expressionWith_sound (advances : ∀ around, Advances (nested around))
    (sound : ∀ around, Sound (Phrase .primary) (nested around)) :
    Sound (Phrase .sum) (expressionWith nested) := by
  intro ts e rest h
  rw [expressionWith_eq] at h
  exact chain_sound (advances_operand advances)
    (fun around => factorWith_sound (sound (around + 1))) 1 ts e rest h

/-! ## Arguments and primaries -/

theorem argumentsWith_sound {expression : Reader Expr} (advances : Advances expression)
    (sound : Sound (Phrase .sum) expression) : Sound Arguments (argumentsWith expression) := by
  intro ts es rest h
  induction hn : ts.length using Nat.strongRecOn generalizing ts es with
  | ind n ih =>
      rw [argumentsWith_eq] at h
      obtain ⟨argument, mid, hargument, hmap⟩ := Reply.andThen_eq_ok h
      obtain ⟨others, hothers, rfl⟩ := Reply.map_eq_ok hmap
      have shorter := (advances ts).2 argument mid hargument
      obtain ⟨used, rfl, hsum⟩ := sound ts argument mid hargument
      cases mid with
      | nil =>
          rw [furtherAll_nil] at hothers
          cases hothers
          exact ⟨used, rfl, .one hsum⟩
      | cons comma left =>
          by_cases hcomma : comma.kind = .comma
          · rw [furtherAll_comma advances hcomma, ← argumentsWith_eq] at hothers
            rw [List.length_cons] at shorter
            obtain ⟨us, rfl, hphrases⟩ := ih left.length (by omega) left others hothers rfl
            exact ⟨used ++ comma :: us, by simp, .more hsum hcomma hphrases⟩
          · rw [furtherAll_stops expression hcomma] at hothers
            cases hothers
            exact ⟨used, rfl, .one hsum⟩

theorem closeName_sound {expression : Reader Expr} (advances : Advances expression)
    (sound : Sound (Phrase .sum) expression) {before : List Token} {name : Name}
    (hname : Identifier before name) {ts rest : List Token} {e : Expr}
    (h : closeName expression name ts = .ok e rest) :
    ∃ used, ts = used ++ rest ∧ Phrase .primary (before ++ used) e := by
  cases ts with
  | nil =>
      cases h
      refine ⟨[], rfl, ?_⟩
      rw [List.append_nil]
      exact .name hname
  | cons opening ts =>
      rw [closeName] at h
      split at h
      · rename_i hopening
        rw [callWith_eq] at h
        obtain ⟨arguments, mid, harguments, hmap⟩ := Reply.andThen_eq_ok h
        obtain ⟨closing, hclosing, rfl⟩ := Reply.map_eq_ok hmap
        obtain ⟨rfl, hkind⟩ := expect_ok hclosing
        split at harguments
        · cases harguments
          exact ⟨[opening, closing], rfl, .emptyCall hname hopening hkind⟩
        · obtain ⟨us, rfl, hphrases⟩ :=
            argumentsWith_sound advances sound ts arguments _ harguments
          refine ⟨opening :: us ++ [closing], by simp, ?_⟩
          rw [← List.append_assoc]
          exact .call hname hopening hphrases hkind
      · cases h
        refine ⟨[], rfl, ?_⟩
        rw [List.append_nil]
        exact .name hname

theorem primaryWith_sound (advances : ∀ around, Advances (nested around))
    (sound : ∀ around, Sound (Phrase .primary) (nested around)) :
    Sound (Phrase .primary) (primaryWith nested) := by
  intro ts e rest h
  cases ts with
  | nil => cases h
  | cons t ts =>
      cases hopens : opensPrimary t.kind with
      | false =>
          rw [primaryWith_refuses nested hopens] at h
          cases h
      | true =>
          cases hk : t.kind <;> rw [hk] at hopens
          case number =>
            rw [primaryWith_number nested hk] at h
            exact number_sound _ e rest h
          case identifier =>
            rw [primaryWith_identifier nested hk] at h
            obtain ⟨name, mid, hread, hclose⟩ := Reply.andThen_eq_ok h
            obtain ⟨us, hus, hname⟩ := identifier_sound _ name mid hread
            have hsound := expressionWith_sound (fun around => advances (around + 1))
              fun around => sound (around + 1)
            obtain ⟨vs, rfl, hprimary⟩ :=
              closeName_sound (advances_argument advances) hsound hname hclose
            exact ⟨us ++ vs, by rw [hus, List.append_assoc], hprimary⟩
          case openParen =>
            rw [primaryWith_openParen nested hk] at h
            obtain ⟨inner, mid, hinner, hmap⟩ := Reply.andThen_eq_ok h
            obtain ⟨closing, hclosing, rfl⟩ := Reply.map_eq_ok hmap
            obtain ⟨rfl, hkind⟩ := expect_ok hclosing
            obtain ⟨us, rfl, hphrase⟩ := expressionWith_sound advances sound ts inner _ hinner
            exact ⟨t :: us ++ [closing], by simp, .group hk hphrase hkind⟩
          case minus =>
            rw [primaryWith_minus nested hk] at h
            obtain ⟨operand, hoperand, rfl⟩ := Reply.map_eq_ok h
            obtain ⟨us, rfl, hphrase⟩ := sound 0 ts operand rest hoperand
            exact ⟨t :: us, rfl, .minus hk hphrase⟩
          case negate =>
            rw [primaryWith_negate nested hk] at h
            obtain ⟨operand, hoperand, rfl⟩ := Reply.map_eq_ok h
            obtain ⟨us, rfl, hphrase⟩ := sound 0 ts operand rest hoperand
            exact ⟨t :: us, rfl, .negation hk hphrase⟩
          all_goals cases hopens

end Nested

/-! ## Within frames -/

/-- Within any number of frames, what is read as a primary is one. -/
theorem primary_sound (frames : Nat) : Sound (Phrase .primary) (primary frames) := by
  induction frames using Nat.strongRecOn with
  | ind frames ih =>
      cases frames with
      | zero => intro ts e rest h; rw [primary_zero] at h; cases h
      | succ frames =>
          intro ts e rest h
          rw [primary_succ] at h
          exact primaryWith_sound (fun around => advances_primary (frames - around))
            (fun around => ih (frames - around) (by omega)) ts e rest h

theorem expression_sound (frames : Nat) : Sound (Phrase .sum) (expression frames) :=
  expressionWith_sound (fun around => advances_primary (frames - around)) fun around =>
    primary_sound (frames - around)

/-- An expression that takes all the tokens leaves none, and they are a sum. -/
theorem whole_sound {frames : Nat} {ts rest : List Token} {e : Expr}
    (h : whole frames ts = .ok e rest) : rest = [] ∧ Phrase .sum ts e := by
  unfold whole at h
  split at h
  · cases h
  · rename_i e' hexpression
    cases h
    obtain ⟨used, rfl, hsum⟩ := expression_sound frames ts e [] hexpression
    rw [List.append_nil]
    exact ⟨rfl, hsum⟩
  · cases h

end Reader

end Formula
