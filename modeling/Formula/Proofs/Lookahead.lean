import Formula.Proofs.Prefixes
import Formula.Proofs.Soundness
set_option autoImplicit false

/-!
# One token ahead

A reader knows of the tokens behind the place where it halts no more than the next one, and of that
one no more than its kind.  So with other tokens from that place on it reads the same phrase, or
fails at the same place, as long as the next token is of the same kind; and it halts there at the
end of the tokens too.  What it took before it failed begins a phrase of the form that it reads.

The exception is a number without a literal: where a primary may start it is taken and then
refused, and there the token itself decides.

Both properties are one predicate on a reader and the tokens before it, `Reader.Glances`, which
passes through chains of replies.
-/

namespace Formula

open Grammar

/-! ## Where a reader halts -/

/-- `refusal.Met stuck rest`: what stands in front of `stuck` is refused, and `rest` is left. -/
inductive Refusal.Met : Refusal → List Token → List Token → Prop where
  | expected (what : Expectation) (stuck : List Token) : Met (.expected what) stuck stuck
  | unexpected {t : Token} (hkind : t.kind ≠ .number) (rest : List Token) :
      Met (.unexpected t) (t :: rest) (t :: rest)
  | noLiteral {t : Token} {spelling : String} (hkind : t.kind = .number)
      (hlexeme : t.lexeme = some spelling) (hliteral : Double.ofLiteral? spelling = none)
      (rest : List Token) : Met (.unexpected t) (t :: rest) rest
  | noSpelling {t : Token} (hkind : t.kind = .number) (hlexeme : t.lexeme = none)
      (rest : List Token) : Met .blankNumber (t :: rest) rest
  | tooDeep (stuck : List Token) : Met .tooDeep stuck stuck

/-- Is it a number that was refused? -/
def Refusal.isOfNumber : Refusal → Bool
  | .unexpected t => t.kind == .number
  | .blankNumber => true
  | _ => false

/-- A failure leaves the tokens that the reader halted in front of, without the number if it is one
that was refused. -/
theorem Refusal.Met.rest_eq {refusal : Refusal} {stuck rest : List Token}
    (met : refusal.Met stuck rest) :
    rest = if refusal.isOfNumber then stuck.tail else stuck := by
  cases met with
  | expected what => rfl
  | @unexpected t hkind rest =>
      have other : (Refusal.unexpected t).isOfNumber = false := beq_false_of_ne hkind
      rw [other, if_neg Bool.false_ne_true]
  | @noLiteral t spelling hkind hlexeme hliteral rest =>
      have number : (Refusal.unexpected t).isOfNumber = true := beq_iff_eq.2 hkind
      rw [number, if_pos rfl]
      rfl
  | noSpelling hkind hlexeme => rfl
  | tooDeep => rfl

/-- A number that was refused is no literal. -/
theorem Refusal.Met.no_literal {refusal : Refusal} {stuck rest : List Token}
    (met : refusal.Met stuck rest) (h : refusal.isOfNumber = true) :
    ∃ t ∈ stuck.head?, t.kind = .number ∧ t.lexeme.bind Double.ofLiteral? = none := by
  cases met with
  | expected what => cases h
  | unexpected hkind rest => exact absurd (beq_iff_eq.1 h) hkind
  | noLiteral hkind hlexeme hliteral rest =>
      exact ⟨_, rfl, hkind, by rw [hlexeme, Option.bind_some, hliteral]⟩
  | noSpelling hkind hlexeme rest => exact ⟨_, rfl, hkind, by rw [hlexeme, Option.bind_none]⟩
  | tooDeep => cases h

/-- `Resembles taken stuck other`: a reader that halted in front of `stuck` halts in front of `other`
as well.  It can see the next token only, and only the kind of it unless it has taken it.  At the end
it misses nothing but a prefix sign, which is refused where a phrase may end. -/
inductive Resembles (taken : Bool) : List Token → List Token → Prop where
  | sameToken {t : Token} {rest rest' : List Token} : Resembles taken (t :: rest) (t :: rest')
  | sameKind {t u : Token} {rest rest' : List Token} (untaken : taken = false)
      (hkind : u.kind = t.kind) : Resembles taken (t :: rest) (u :: rest')
  | atEnd {stuck : List Token} (h : ∀ t ∈ stuck.head?, t.kind ≠ .negate) : Resembles taken stuck []

theorem Resembles.kind {taken : Bool} {t u : Token} {rest rest' : List Token}
    (h : Resembles taken (t :: rest) (u :: rest')) : u.kind = t.kind := by
  cases h with
  | sameToken => rfl
  | sameKind _ hkind => exact hkind

/-- What is in front of both lists hides what they begin with. -/
theorem Resembles.behind {taken taken' : Bool} {stuck other : List Token}
    (h : Resembles taken stuck other) (untaken : taken' = false) (used : List Token) :
    Resembles taken' (used ++ stuck) (used ++ other) := by
  cases used with
  | cons t used => exact .sameToken
  | nil =>
      cases h with
      | sameToken => exact .sameToken
      | sameKind _ hkind => exact .sameKind untaken hkind
      | atEnd h => exact .atEnd h

namespace Reply

variable {α β : Type}

/-- Was a number refused? -/
def refusesNumber : Reply α → Bool
  | .ok _ _ => false
  | .fail refusal _ => refusal.isOfNumber

/-- The reader that replied halted in front of `stuck`. -/
def HaltsAt (stuck : List Token) : Reply α → Prop
  | .ok _ rest => rest = stuck
  | .fail refusal rest => refusal.Met stuck rest

/-- If the reader failed behind `used`, then that has the property `P`; and if it refused a number,
then it has the property with any primary behind it. -/
def Leads (P : List Token → Prop) (used : List Token) : Reply α → Prop
  | .ok _ _ => True
  | .fail refusal _ =>
      P used ∧ (refusal.isOfNumber = true → ∀ us e, Phrase .primary us e → P (used ++ us))

/-- What failed, but not for a number, has nothing more to show. -/
theorem leads_of_plain {P : List Token → Prop} {used rest : List Token} {refusal : Refusal}
    (h : P used) (plain : refusal.isOfNumber = false) :
    (Reply.fail refusal rest : Reply α).Leads P used :=
  ⟨h, fun number => absurd (plain.symm.trans number) Bool.false_ne_true⟩

/-- The same phrase in front of `other`, or a failure as well. -/
def Repeats (r : Reply α) (other : List Token) (again : Reply α) : Prop :=
  match r with
  | .ok x _ => again = .ok x other
  | .fail refusal _ =>
      ∃ refusal' rest, again = .fail refusal' rest ∧ (refusal' = .tooDeep → refusal = .tooDeep)

section Refused

variable {refusal : Refusal} {rest rest' other : List Token}

theorem repeats_expected (what : Expectation) :
    (Reply.fail refusal rest : Reply α).Repeats other (.fail (.expected what) rest') :=
  ⟨_, _, rfl, fun deep => by cases deep⟩

theorem repeats_unexpected (t : Token) :
    (Reply.fail refusal rest : Reply α).Repeats other (.fail (.unexpected t) rest') :=
  ⟨_, _, rfl, fun deep => by cases deep⟩

end Refused

end Reply

namespace Reader

variable {α β : Type} {P P' : List Token → Prop}

/-- The reader takes `used` and halts in front of `stuck`, and this is all it knows of that. -/
structure Glance (P : List Token → Prop) (read : Reader α) (used stuck : List Token) : Prop where
  halts : (read (used ++ stuck)).HaltsAt stuck
  leads : (read (used ++ stuck)).Leads P used
  again : ∀ other, Resembles (read (used ++ stuck)).refusesNumber stuck other →
    (read (used ++ stuck)).Repeats other (read (used ++ other))

/-- The reader looks at one token behind those it takes of the given ones. -/
def Glances (P : List Token → Prop) (read : Reader α) (ts : List Token) : Prop :=
  ∃ used stuck, ts = used ++ stuck ∧ Glance P read used stuck

/-! ## Readers that go on -/

theorem Glances.of_eq {read read' : Reader α} {ts : List Token} (h : ∀ ts, read ts = read' ts)
    (glances : Glances P read' ts) : Glances P read ts := by
  have heq : read = read' := funext h
  rw [heq]
  exact glances

theorem Glances.imp {read : Reader α} {ts : List Token} (h : Glances P read ts)
    (weaken : ∀ us, P us → P' us) : Glances P' read ts := by
  obtain ⟨used, stuck, rfl, halts, leads, again⟩ := h
  refine ⟨used, stuck, rfl, halts, ?_, again⟩
  cases hread : read (used ++ stuck) with
  | ok x rest => trivial
  | fail refusal rest =>
      rw [hread] at leads
      exact ⟨weaken used leads.1, fun hnumber us e hus => weaken _ (leads.2 hnumber us e hus)⟩

/-- A reader, and another one that goes on where it halted. -/
theorem Glances.andThen {first : Reader α} {next : α → Reader β} {ts : List Token}
    (h : Glances P first ts) (hnext : ∀ x before mid, ts = before ++ mid → first ts = .ok x mid →
      Glances (fun us => P (before ++ us)) (next x) mid) :
    Glances P (fun ts => (first ts).andThen next) ts := by
  obtain ⟨used, stuck, rfl, halts, leads, again⟩ := h
  cases hfirst : first (used ++ stuck) with
  | fail refusal rest =>
      rw [hfirst] at halts leads again
      refine ⟨used, stuck, rfl, ?_, ?_, fun other resembles => ?_⟩
      · simp only [hfirst, Reply.andThen_fail]
        exact halts
      · simp only [hfirst, Reply.andThen_fail]
        exact leads
      · simp only [hfirst, Reply.andThen_fail] at resembles ⊢
        obtain ⟨refusal', rest', hagain, deep⟩ := again other resembles
        exact ⟨refusal', rest', by rw [hagain, Reply.andThen_fail], deep⟩
  | ok x mid =>
      rw [hfirst] at halts again
      obtain rfl : mid = stuck := halts
      obtain ⟨used', stuck, rfl, halts', leads', again'⟩ := hnext x used mid rfl hfirst
      have hwhole : (first ((used ++ used') ++ stuck)).andThen next = next x (used' ++ stuck) := by
        rw [List.append_assoc, hfirst, Reply.andThen_ok]
      refine ⟨used ++ used', stuck, (List.append_assoc used used' stuck).symm, ?_, ?_, ?_⟩
      · simpa only [hwhole] using halts'
      · simp only [hwhole]
        cases hread : next x (used' ++ stuck) with
        | ok y rest => trivial
        | fail refusal rest =>
            rw [hread] at leads'
            refine ⟨leads'.1, fun hnumber us e hus => ?_⟩
            rw [List.append_assoc]
            exact leads'.2 hnumber us e hus
      · intro other resembles
        simp only [hwhole] at resembles ⊢
        -- the first reader has taken nothing of what the second one halts in front of
        have hfirst' : first (used ++ (used' ++ other)) = .ok x (used' ++ other) :=
          again (used' ++ other) (resembles.behind rfl used')
        rw [List.append_assoc, hfirst', Reply.andThen_ok]
        exact again' other resembles

theorem glances_ok (x : α) (ts : List Token) : Glances P (fun rest => .ok x rest) ts :=
  ⟨[], ts, rfl, rfl, trivial, fun _ _ => rfl⟩

theorem Glances.map {read : Reader α} {ts : List Token} (h : Glances P read ts) (f : α → β) :
    Glances P (fun ts => (read ts).map f) ts := by
  have hchain : Glances P (fun ts => (read ts).andThen fun x => .ok (f x)) ts :=
    h.andThen fun x _ mid _ _ => glances_ok (f x) mid
  exact hchain.of_eq fun ts => Reply.map_eq_andThen (read ts) f

/-- A reader that takes a token and leaves the rest to another one. -/
theorem Glances.behind {read inner : Reader α} {t : Token} {rest : List Token}
    (heq : ∀ rest, read (t :: rest) = inner rest)
    (h : Glances (fun us => P ([t] ++ us)) inner rest) : Glances P read (t :: rest) := by
  obtain ⟨used, stuck, rfl, halts, leads, again⟩ := h
  refine ⟨t :: used, stuck, rfl, ?_, ?_, fun other resembles => ?_⟩
  · rw [List.cons_append, heq]
    exact halts
  · rw [List.cons_append, heq]
    exact leads
  · rw [List.cons_append, heq] at resembles ⊢
    rw [List.cons_append, heq]
    exact again other resembles

/-- A reader that halts at once. -/
theorem Glances.stay {read : Reader α} {ts : List Token} (halts : (read ts).HaltsAt ts)
    (leads : (read ts).Leads P [])
    (again : ∀ other, Resembles (read ts).refusesNumber ts other →
      (read ts).Repeats other (read other)) : Glances P read ts :=
  ⟨[], ts, rfl, halts, leads, again⟩

/-! ## Names and numbers -/

theorem glances_expect (kind : Kind) (ts : List Token) : Glances (· = []) (expect kind) ts := by
  cases ts with
  | nil =>
      refine .stay (.expected _ _) (Reply.leads_of_plain rfl rfl) fun other resembles => ?_
      cases resembles
      exact ⟨_, _, rfl, id⟩
  | cons t rest =>
      by_cases hkind : t.kind = kind
      · have htaken (rest : List Token) : expect kind (t :: rest) = .ok t rest := by
          rw [expect, if_pos hkind]
        exact (glances_ok t rest).behind htaken
      · have hrefused : expect kind (t :: rest) = .fail (.expected (.kind kind)) (t :: rest) := by
          rw [expect, if_neg hkind]
        refine .stay ?_ ?_ fun other resembles => ?_
        · rw [hrefused]
          exact .expected _ _
        · rw [hrefused]
          exact Reply.leads_of_plain rfl rfl
        · rw [hrefused] at resembles ⊢
          cases other with
          | nil => exact Reply.repeats_expected _
          | cons u rest' =>
              rw [expect, resembles.kind, if_neg hkind]
              exact Reply.repeats_expected _

/-- A token that is taken if it is of the wanted kind, and then the rest. -/
theorem eq_singleton_of_expect {kind : Kind} {ts before mid : List Token} {t : Token}
    (h : expect kind ts = .ok t mid) (hsplit : ts = before ++ mid) :
    before = [t] ∧ t.kind = kind := by
  obtain ⟨rfl, hkind⟩ := expect_ok h
  rw [← List.singleton_append, List.append_cancel_right_eq] at hsplit
  exact ⟨hsplit.symm, hkind⟩

theorem furtherMembers_stops {ts : List Token} (h : ∀ t ∈ ts.head?, t.kind ≠ .period) :
    furtherMembers ts = .ok [] ts := by
  rcases ts with _ | ⟨t, _ | ⟨u, rest⟩⟩
  · rfl
  · rw [furtherMembers, if_neg (h t rfl)]
  · rw [furtherMembers, if_neg (h t rfl)]

theorem furtherMembers_period {period : Token} (h : period.kind = .period) (rest : List Token) :
    furtherMembers (period :: rest) = (expect .identifier rest).andThen fun member rest =>
      (furtherMembers rest).map (member :: ·) := by
  cases rest with
  | nil => rw [furtherMembers, if_pos h]; rfl
  | cons member rest =>
      rw [furtherMembers, if_pos h, expect]
      split
      · rw [Reply.andThen_ok]
        cases furtherMembers rest <;> rfl
      · rfl

/-- A reader that stops in front of everything but tokens of some kinds, without taking anything. -/
theorem Glances.stop {read : Reader α} (goesOn : Kind → Prop) (x : α) {ts : List Token}
    (stops : ∀ ts : List Token, (∀ t ∈ ts.head?, ¬ goesOn t.kind) → read ts = .ok x ts)
    (goes : ∀ t rest, ts = t :: rest → goesOn t.kind → Glances P read (t :: rest)) :
    Glances P read ts := by
  by_cases h : ∃ t ∈ ts.head?, goesOn t.kind
  · obtain ⟨t, ht, hkind⟩ := h
    obtain ⟨rest, rfl⟩ := List.head?_eq_some_iff.1 ht
    exact goes t rest rfl hkind
  · have none (t : Token) (ht : t ∈ ts.head?) : ¬ goesOn t.kind := fun hkind => h ⟨t, ht, hkind⟩
    refine .stay ?_ ?_ fun other resembles => ?_
    · rw [stops ts none]
      rfl
    · rw [stops ts none]
      trivial
    · rw [stops ts none] at resembles ⊢
      refine stops other fun u hu => ?_
      cases resembles with
      | sameToken => exact none u hu
      | sameKind _ hkind =>
          cases hu
          rw [hkind]
          exact none _ rfl
      | atEnd _ => cases hu

theorem glances_furtherMembers (ts : List Token) :
    Glances (Viable Members) furtherMembers ts := by
  -- on the number of tokens: a period and a member are taken at a time
  induction hn : ts.length using Nat.strongRecOn generalizing ts with
  | ind n ih =>
      refine .stop (· = .period) [] (fun _ => furtherMembers_stops) ?_
      rintro period rest rfl hperiod
      refine Glances.behind (furtherMembers_period hperiod) ?_
      have hmember : Glances (fun us => Viable Members ([period] ++ us))
          (expect .identifier) rest := by
        refine (glances_expect .identifier rest).imp fun us hus => ?_
        rw [hus, List.append_nil]
        exact viable_members_period hperiod
      refine hmember.andThen fun member before mid hsplit hread => ?_
      obtain ⟨rfl, hkind⟩ := eq_singleton_of_expect hread hsplit
      have shorter := (advances_expect _ rest).2 member mid hread
      rw [List.length_cons] at hn
      refine ((ih mid.length (by omega) mid rfl).map _).imp fun us hus => ?_
      exact hus.further hperiod hkind

theorem glances_identifier (ts : List Token) : Glances (Viable Identifier) identifier ts := by
  have hfirst : Glances (Viable Identifier) (expect .identifier) ts := by
    refine (glances_expect .identifier ts).imp fun us hus => ?_
    rw [hus]
    exact viable_identifier_nil
  refine (hfirst.andThen fun first before mid hsplit hread => ?_).of_eq identifier_eq
  obtain ⟨rfl, hkind⟩ := eq_singleton_of_expect hread hsplit
  exact ((glances_furtherMembers mid).map _).imp fun us hus => hus.identifier hkind

/-- A number is read if it is a literal, and refused for itself otherwise. -/
theorem closeNumber_cases {t : Token} (hkind : t.kind = .number) :
    (∀ rest, closeNumber t rest = .ok (.number t) rest) ∨
      ∃ refusal : Refusal, refusal.isOfNumber = true ∧
        ∀ rest, closeNumber t rest = .fail refusal rest ∧ refusal.Met (t :: rest) rest := by
  cases hlexeme : t.lexeme with
  | none =>
      refine Or.inr ⟨.blankNumber, rfl, fun rest => ⟨?_, .noSpelling hkind hlexeme rest⟩⟩
      rw [closeNumber, hlexeme]
  | some spelling =>
      cases hliteral : Double.ofLiteral? spelling with
      | none =>
          refine Or.inr ⟨.unexpected t, beq_iff_eq.2 hkind, fun rest => ⟨?_, ?_⟩⟩
          · rw [closeNumber, hlexeme]
            simp only [hliteral]
          · exact .noLiteral hkind hlexeme hliteral rest
      | some x =>
          refine Or.inl fun rest => ?_
          rw [closeNumber, hlexeme]
          simp only [hliteral]

/-! ## Factors and operators -/

/-- A prefix sign has no place behind a primary. -/
theorem glances_closeFactor_negate {operand : Expr} (h : P []) {op : Token} (hop : op.kind = .negate)
    (rest : List Token) : Glances P (closeFactor operand) (op :: rest) := by
  have hrefused {u : Token} (hu : u.kind = .negate) (rest : List Token) :
      closeFactor operand (u :: rest) = .fail (.unexpected u) (u :: rest) := by
    rw [closeFactor, hu]
    rfl
  have plain : (Refusal.unexpected op).isOfNumber = false := by
    rw [Refusal.isOfNumber, hop]
    rfl
  refine .stay ?_ ?_ fun other resembles => ?_
  · rw [hrefused hop]
    exact .unexpected (by rw [hop]; decide) rest
  · rw [hrefused hop]
    exact Reply.leads_of_plain h plain
  · rw [hrefused hop] at resembles ⊢
    cases other with
    | nil =>
        cases resembles with
        | atEnd hplain => exact absurd hop (hplain op rfl)
    | cons u rest' =>
        rw [hrefused (resembles.kind.trans hop)]
        exact Reply.repeats_unexpected u

/-- A postfix operator may follow any primary. -/
theorem glances_closeFactor {operand : Expr} (h : P []) (ts : List Token) :
    Glances P (closeFactor operand) ts := by
  refine .stop (·.isUnary = true) operand (fun us hus => ?_) ?_
  · exact closeFactor_stops (fun t ht => Bool.eq_false_iff.2 (hus t ht)) operand
  · rintro op rest rfl hunary
    rcases Kind.unary_cases hunary with hop | hop
    · exact glances_closeFactor_negate h hop rest
    · exact (glances_ok (Expr.unary operand op) rest).behind (closeFactor_factorial hop operand)

theorem glances_factorWith {primary : Reader Expr} (sound : Sound (Phrase .primary) primary)
    {ts : List Token} (h : Glances (Viable (Phrase .primary)) primary ts) :
    Glances (Viable (Phrase .factor)) (factorWith primary) ts := by
  have hfirst : Glances (Viable (Phrase .factor)) primary ts :=
    h.imp fun us hus => hus.loosen (by decide)
  refine (hfirst.andThen fun operand before mid hsplit hread => ?_).of_eq (factorWith_eq primary)
  refine glances_closeFactor ?_ mid
  rw [List.append_nil]
  exact .of_phrase (.ofPrimary (sound.taken hsplit hread))

section Operators

variable {operand : Nat → Reader Expr}

/-- A climb behind a phrase `before`: what it took before it failed continues that phrase. -/
theorem glances_climbAll (advances : ∀ around, Advances (operand around))
    (sound : ∀ around, Sound (Phrase .factor) (operand around))
    (glances : ∀ around ts, Glances (Viable (Phrase .factor)) (operand around) ts)
    {ts : List Token} : ∀ {around least : Nat} {left : Expr} {p q : Nonterminal}
      {before : List Token}, p.rank = least → p.rank ≤ q.rank → Phrase q before left →
      (∀ op ∈ ts.head?, joins least op = true → (leftOf op.kind).rank ≤ q.rank) →
      Glances (fun us => Viable (Phrase p) (before ++ us))
        (climbAll operand around left least) ts := by
  -- on the number of tokens: the right operand and the rest of the climb are both shorter
  induction hn : ts.length using Nat.strongRecOn generalizing ts with
  | ind n ih =>
      intro around least left p q before hp hpq hleft tight
      refine .stop (fun kind => kind.isBinary = true ∧ least ≤ kind.precedence) left
        (fun us hus => ?_) ?_
      · refine climbAll_stops_of_head (fun op hop => ?_) around left
        exact Bool.eq_false_iff.2 fun hjoins => hus op hop (joins_iff.1 hjoins)
      · rintro op ts rfl ⟨hbinary, hleast⟩
        have hjoins : joins least op = true := joins_iff.2 ⟨hbinary, hleast⟩
        rw [List.length_cons] at hn
        have hlhs : Phrase (leftOf op.kind) before left := hleft.loosen (tight op rfl hjoins)
        have hmade : p.rank ≤ (made op.kind).rank := by
          rw [hp, made_rank hbinary]
          exact hleast
        refine Glances.behind (climbAll_joins advances hjoins around left) ?_
        -- the right operand is a factor, and a climb of its own behind it
        have hchain : Glances (Viable (Phrase (rightOf op.kind)))
            (chain operand around op.kind.rightThreshold) ts := by
          have hfactor : Glances (Viable (Phrase (rightOf op.kind)))
              (operand around) ts :=
            (glances _ ts).imp fun us hus => hus.loosen (rank_rightOf_le op.kind)
          refine hfactor.andThen fun first us mid hsplit hread => ?_
          have shorter := (advances _ ts).2 first mid hread
          exact ih mid.length (by omega) rfl (rank_rightOf hbinary)
            (rank_rightOf_le op.kind) ((sound _).taken hsplit hread)
            fun next _ _ => rank_leftOf_le next.kind
        have hright : Glances (fun us => Viable (Phrase p) (before ++ ([op] ++ us)))
            (chain operand around op.kind.rightThreshold) ts :=
          hchain.imp fun us hus => (hus.rightOperand hbinary hlhs).loosen hmade
        refine hright.andThen fun right us mid hsplit hread => ?_
        have shorter := (advances_chain advances _ _ ts).2 right mid hread
        obtain ⟨used, hused, hphrase, stopped⟩ := chain_phrase advances sound hread
          (rank_rightOf hbinary) (rank_rightOf_le op.kind)
        rw [hsplit, List.append_cancel_right_eq] at hused
        rw [← hused] at hphrase
        -- the operation is the left operand of the next operator
        have hgo : Glances (fun vs => Viable (Phrase p) (before ++ op :: us ++ vs))
            (climbAll operand around (.binary left right op) least) mid := by
          refine ih mid.length (by omega) rfl hp hmade (.join rfl hbinary hlhs hphrase) ?_
          intro next hnext hjoinsNext
          have hnextBinary := (joins_iff.1 hjoinsNext).1
          exact rank_leftOf_le_made hnextBinary hbinary
            (precedence_lt_of_not_joins (stopped next hnext) hnextBinary)
        refine hgo.imp fun vs hvs => ?_
        simpa only [List.append_assoc, List.cons_append, List.nil_append] using hvs

end Operators

/-! ## Arguments and primaries -/

section Nested

variable {nested : Nat → Reader Expr}

theorem glances_expressionWith (advances : ∀ around, Advances (nested around))
    (sound : ∀ around, Sound (Phrase .primary) (nested around))
    (glances : ∀ around ts, Glances (Viable (Phrase .primary)) (nested around) ts)
    (ts : List Token) : Glances (Viable (Phrase .sum)) (expressionWith nested) ts := by
  have hadvances := advances_operand advances
  have hsound (around : Nat) := factorWith_sound (sound (around + 1))
  have hglances (around : Nat) (ts : List Token) :
      Glances (Viable (Phrase .factor)) (factorWith (nested (around + 1))) ts :=
    glances_factorWith (sound (around + 1)) (glances (around + 1) ts)
  have hfirst : Glances (Viable (Phrase .sum)) (factorWith (nested 2)) ts :=
    (hglances 1 ts).imp fun us hus => hus.loosen (by decide)
  refine Glances.of_eq (expressionWith_eq nested) (hfirst.andThen fun left us mid hsplit hread => ?_)
  exact glances_climbAll hadvances hsound hglances rfl (by decide) ((hsound 1).taken hsplit hread)
    fun op _ _ => rank_leftOf_le op.kind

section Arguments

variable {expression : Reader Expr}

theorem glances_furtherAll (advances : Advances expression)
    (sound : Sound (Phrase .sum) expression)
    (glances : ∀ ts, Glances (Viable (Phrase .sum)) expression ts) {before : List Token} {a : Expr}
    (hfirst : Phrase .sum before a) (ts : List Token) :
    Glances (fun us => Viable Arguments (before ++ us)) (furtherAll expression) ts := by
  induction hn : ts.length using Nat.strongRecOn generalizing ts before a with
  | ind n ih =>
      refine .stop (· = .comma) [] (fun us hus => ?_) ?_
      · cases us with
        | nil => exact furtherAll_nil expression
        | cons t us => exact furtherAll_stops expression (hus t rfl) us
      · rintro comma rest rfl hcomma
        rw [List.length_cons] at hn
        refine Glances.behind (furtherAll_comma advances hcomma) ?_
        have hargument : Glances (fun us => Viable Arguments (before ++ ([comma] ++ us)))
            expression rest := by
          refine (glances rest).imp fun us hus => ?_
          rw [← List.append_assoc]
          exact hus.argument.furtherArguments hfirst hcomma
        refine hargument.andThen fun argument us mid hsplit hread => ?_
        have shorter := (advances rest).2 argument mid hread
        have hphrase := sound.taken hsplit hread
        refine ((ih mid.length (by omega) hphrase mid rfl).map _).imp fun vs hvs => ?_
        have whole := hvs.furtherArguments hfirst hcomma
        rw [List.append_assoc] at whole
        exact whole

theorem glances_argumentsWith (advances : Advances expression)
    (sound : Sound (Phrase .sum) expression)
    (glances : ∀ ts, Glances (Viable (Phrase .sum)) expression ts) (ts : List Token) :
    Glances (Viable Arguments) (argumentsWith expression) ts := by
  have hfirst : Glances (Viable Arguments) expression ts :=
    (glances ts).imp fun us hus => hus.argument
  refine Glances.of_eq (argumentsWith_eq expression) (hfirst.andThen fun a us mid hsplit hread => ?_)
  exact (glances_furtherAll advances sound glances (sound.taken hsplit hread) mid).map _

theorem isNext_iff {kind : Kind} {ts : List Token} :
    isNext kind ts = true ↔ ∃ t ∈ ts.head?, t.kind = kind := by
  cases ts with
  | nil => simp [isNext]
  | cons t ts => simp [isNext]

/-- Whether the next token is of a kind is seen of a list that resembles another one, but for
its end. -/
theorem isNext_resembles {kind : Kind} {taken : Bool} {used stuck other : List Token}
    (h : isNext kind (used ++ stuck) = false) (resembles : Resembles taken stuck other) :
    isNext kind (used ++ other) = false := by
  cases used with
  | cons t used => exact h
  | nil =>
      cases resembles with
      | sameToken => exact h
      | sameKind _ hkind =>
          rw [List.nil_append, isNext] at h ⊢
          rw [hkind]
          exact h
      | atEnd _ => rfl

/-- A closing parenthesis behind the arguments, if there are any. -/
theorem glances_callWith (advances : Advances expression) (sound : Sound (Phrase .sum) expression)
    (glances : ∀ ts, Glances (Viable (Phrase .sum)) expression ts) {before : List Token}
    {name : Name} {opening : Token} (hname : Identifier before name)
    (hopening : opening.kind = .openParen) (ts : List Token) :
    Glances (fun us => Viable (Phrase .primary) (before ++ [opening] ++ us))
      (callWith expression name) ts := by
  cases hnext : isNext .closeParen ts with
  | true =>
      obtain ⟨closing, hclosing, hkind⟩ := isNext_iff.1 hnext
      obtain ⟨rest, rfl⟩ := List.head?_eq_some_iff.1 hclosing
      have htaken (rest : List Token) :
          callWith expression name (closing :: rest) = .ok (.call name []) rest := by
        have hnext : isNext .closeParen (closing :: rest) = true := hnext
        rw [callWith_eq, hnext, if_pos rfl, Reply.andThen_ok, expect, if_pos hkind]
        rfl
      exact (glances_ok (Expr.call name []) rest).behind htaken
  | false =>
      have hgiven {ts : List Token} (h : isNext .closeParen ts = false) :
          callWith expression name ts =
            (argumentsWith expression ts).andThen fun arguments rest =>
              (expect .closeParen rest).map fun _ => .call name arguments := by
        rw [callWith_eq, h, if_neg Bool.false_ne_true]
      have harguments : Glances (fun us => Viable (Phrase .primary) (before ++ [opening] ++ us))
          (argumentsWith expression) ts :=
        (glances_argumentsWith advances sound glances ts).imp fun us hus => hus.call hname hopening
      have hchain : Glances (fun us => Viable (Phrase .primary) (before ++ [opening] ++ us))
          (fun ts => (argumentsWith expression ts).andThen fun arguments rest =>
            (expect .closeParen rest).map fun _ => Expr.call name arguments) ts := by
        refine harguments.andThen fun arguments us mid hsplit hread => ?_
        have hphrases := (argumentsWith_sound advances sound).taken hsplit hread
        refine ((glances_expect .closeParen mid).map _).imp fun vs hvs => ?_
        rw [hvs, List.append_nil]
        exact (Viable.of_phrase hphrases).call hname hopening
      -- the arguments are read on other tokens as well, as long as no parenthesis closes them
      obtain ⟨used, stuck, rfl, halts, leads, again⟩ := hchain
      rw [← hgiven hnext] at halts leads again
      refine ⟨used, stuck, rfl, halts, leads, fun other resembles => ?_⟩
      rw [hgiven (isNext_resembles hnext resembles)]
      exact again other resembles

theorem glances_closeName (advances : Advances expression)
    (sound : Sound (Phrase .sum) expression)
    (glances : ∀ ts, Glances (Viable (Phrase .sum)) expression ts) {before : List Token}
    {name : Name} (hname : Identifier before name) (ts : List Token) :
    Glances (fun us => Viable (Phrase .primary) (before ++ us)) (closeName expression name) ts := by
  refine .stop (· = .openParen) (.identifier name) (fun _ => closeName_stops expression name) ?_
  rintro opening rest rfl hopening
  refine Glances.behind (closeName_openParen expression name hopening) ?_
  refine (glances_callWith advances sound glances hname hopening rest).imp fun us hus => ?_
  rw [← List.append_assoc]
  exact hus

theorem glances_closeGroup (sound : Sound (Phrase .sum) expression)
    (glances : ∀ ts, Glances (Viable (Phrase .sum)) expression ts) {opening : Token}
    (hopening : opening.kind = .openParen) (ts : List Token) :
    Glances (fun us => Viable (Phrase .primary) ([opening] ++ us)) (closeGroup expression) ts := by
  have hinner : Glances (fun us => Viable (Phrase .primary) ([opening] ++ us)) expression ts :=
    (glances ts).imp fun us hus => hus.group hopening
  refine hinner.andThen fun e us mid hsplit hread => ?_
  refine ((glances_expect .closeParen mid).map _).imp fun vs hvs => ?_
  rw [hvs, List.append_nil]
  exact (Viable.of_phrase (sound.taken hsplit hread)).group hopening

end Arguments

/-- At the end of the tokens a primary is missing. -/
theorem glances_primaryWith_nil : Glances (Viable (Phrase .primary)) (primaryWith nested) [] := by
  refine .stay (.expected _ _) (Reply.leads_of_plain (viable_nil _) rfl) fun other resembles => ?_
  cases resembles
  exact Reply.repeats_expected _

/-- A token that opens no primary. -/
theorem glances_primaryWith_refuses {t : Token} (hopens : opensPrimary t.kind = false)
    (rest : List Token) : Glances (Viable (Phrase .primary)) (primaryWith nested) (t :: rest) := by
  have hkind : t.kind ≠ .number := by
    intro hkind
    rw [hkind] at hopens
    cases hopens
  have plain : (Refusal.unexpected t).isOfNumber = false := beq_false_of_ne hkind
  have hrefused := primaryWith_refuses nested hopens rest
  refine .stay ?_ ?_ fun other resembles => ?_
  · rw [hrefused]
    exact .unexpected hkind rest
  · rw [hrefused]
    exact Reply.leads_of_plain (viable_nil _) plain
  · rw [hrefused] at resembles ⊢
    cases other with
    | nil => exact Reply.repeats_expected _
    | cons u rest' =>
        have hopens' : opensPrimary u.kind = false := by rw [resembles.kind, hopens]
        rw [primaryWith_refuses nested hopens']
        exact Reply.repeats_unexpected u

/-- A number: if it is refused it has been taken, but what counts is the place in front of it. -/
theorem glances_primaryWith_number {t : Token} (hk : t.kind = .number) (rest : List Token) :
    Glances (Viable (Phrase .primary)) (primaryWith nested) (t :: rest) := by
  have hclose (rest : List Token) : primaryWith nested (t :: rest) = closeNumber t rest := by
    rw [primaryWith_number nested hk, number_eq, expect, if_pos hk, Reply.andThen_ok]
  rcases closeNumber_cases hk with htaken | ⟨refusal, hnumber, hrefused⟩
  · exact (glances_ok (Expr.number t) rest).behind fun rest => by rw [hclose, htaken]
  · refine .stay ?_ ?_ fun other resembles => ?_
    · rw [hclose, (hrefused rest).1]
      exact (hrefused rest).2
    · rw [hclose, (hrefused rest).1]
      exact ⟨viable_nil _, fun _ us e hus => .of_phrase hus⟩
    · rw [hclose, (hrefused rest).1] at resembles ⊢
      cases resembles with
      | sameToken =>
          rw [hclose, (hrefused _).1]
          exact ⟨_, _, rfl, id⟩
      | sameKind untaken _ =>
          rw [Reply.refusesNumber, hnumber] at untaken
          cases untaken
      | atEnd _ => exact Reply.repeats_expected _

/-- A name, and the arguments of a call if there are any. -/
theorem glances_primaryWith_identifier (advances : ∀ around, Advances (nested around))
    (sound : ∀ around, Sound (Phrase .primary) (nested around))
    (glances : ∀ around ts, Glances (Viable (Phrase .primary)) (nested around) ts) {t : Token}
    (hk : t.kind = .identifier) (rest : List Token) :
    Glances (Viable (Phrase .primary)) (primaryWith nested) (t :: rest) := by
  have hadvances := advances_argument advances
  have hsound := expressionWith_sound (fun around => advances (around + 1)) fun around =>
    sound (around + 1)
  have hglances := glances_expressionWith (fun around => advances (around + 1))
    (fun around => sound (around + 1)) fun around => glances (around + 1)
  have hbehind (rest : List Token) : primaryWith nested (t :: rest) =
      ((furtherMembers rest).map fun others => (⟨t, others⟩ : Name)).andThen
        (closeName (expressionWith fun around => nested (around + 1))) := by
    rw [primaryWith_identifier nested hk, identifier_eq, expect, if_pos hk, Reply.andThen_ok]
  refine Glances.behind hbehind ?_
  have hname : Glances (fun us => Viable (Phrase .primary) ([t] ++ us))
      (fun rest => (furtherMembers rest).map fun others => (⟨t, others⟩ : Name)) rest :=
    ((glances_furtherMembers rest).map _).imp fun us hus => (hus.identifier hk).name
  refine hname.andThen fun name us mid hsplit hread => ?_
  obtain ⟨others, hothers, rfl⟩ := Reply.map_eq_ok hread
  have further := furtherMembers_sound.taken hsplit hothers
  exact glances_closeName hadvances hsound hglances (Identifier.members hk further) mid

theorem glances_primaryWith (advances : ∀ around, Advances (nested around))
    (sound : ∀ around, Sound (Phrase .primary) (nested around))
    (glances : ∀ around ts, Glances (Viable (Phrase .primary)) (nested around) ts)
    (ts : List Token) : Glances (Viable (Phrase .primary)) (primaryWith nested) ts := by
  have hsound := expressionWith_sound advances sound
  have hglances := glances_expressionWith advances sound glances
  cases ts with
  | nil => exact glances_primaryWith_nil
  | cons t rest =>
      cases hopens : opensPrimary t.kind with
      | false => exact glances_primaryWith_refuses hopens rest
      | true =>
          cases hk : t.kind <;> rw [hk] at hopens
          case number => exact glances_primaryWith_number hk rest
          case identifier =>
            exact glances_primaryWith_identifier advances sound glances hk rest
          case openParen =>
            exact (glances_closeGroup hsound hglances hk rest).behind (primaryWith_openParen nested hk)
          case minus =>
            refine Glances.behind (primaryWith_minus nested hk) ?_
            exact ((glances 0 rest).map _).imp fun us hus => hus.operand (Or.inl hk)
          case negate =>
            refine Glances.behind (primaryWith_negate nested hk) ?_
            exact ((glances 0 rest).map _).imp fun us hus => hus.operand (Or.inr hk)
          all_goals cases hopens

end Nested

/-! ## Within frames -/

theorem glances_primary (frames : Nat) (ts : List Token) :
    Glances (Viable (Phrase .primary)) (primary frames) ts := by
  induction frames using Nat.strongRecOn generalizing ts with
  | ind frames ih =>
      cases frames with
      | zero =>
          refine .stay ?_ ?_ fun other _ => ?_
          · rw [primary_zero]
            exact .tooDeep ts
          · rw [primary_zero]
            exact Reply.leads_of_plain (viable_nil _) rfl
          · rw [primary_zero, primary_zero]
            exact ⟨_, _, rfl, id⟩
      | succ frames =>
          have hglances := glances_primaryWith (fun around => advances_primary (frames - around))
            (fun around => primary_sound (frames - around))
            (fun around ts => ih (frames - around) (by omega) ts) ts
          exact hglances.of_eq (primary_succ frames)

theorem glances_factor (frames : Nat) (ts : List Token) :
    Glances (Viable (Phrase .factor)) (factor frames) ts :=
  glances_factorWith (primary_sound (frames - 1)) (glances_primary (frames - 1) ts)

theorem glances_expression (frames : Nat) (ts : List Token) :
    Glances (Viable (Phrase .sum)) (expression frames) ts :=
  glances_expressionWith (fun around => advances_primary (frames - around))
    (fun around => primary_sound (frames - around))
    (fun around => glances_primary (frames - around)) ts

theorem glances_argumentList (frames : Nat) (ts : List Token) :
    Glances (Viable Arguments) (argumentList frames) ts :=
  glances_argumentsWith (advances_expressionWith fun around => advances_primary (frames - 1 - around))
    (expression_sound (frames - 1)) (glances_expression (frames - 1)) ts

end Reader

end Formula
