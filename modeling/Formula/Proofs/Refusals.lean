import Formula.Proofs.Progress
set_option autoImplicit false

/-!
# What a refusal blames

A reader refuses a token only if that token is among those it was given, and complains of a
number without a spelling only if one of them is such a number.  So the tokens of a text, which
all have their spellings and stand at places in it, are refused with a place in that text.
-/

namespace Formula

/-- The refusal is about the given tokens. -/
def Refusal.Concerns (ts : List Token) : Refusal → Prop
  | .unexpected t => t ∈ ts
  | .blankNumber => ∃ t ∈ ts, t.kind = .number ∧ t.lexeme = none
  | .expected _ => True
  | .tooDeep => True

theorem Refusal.Concerns.mono {ts us : List Token} {refusal : Refusal}
    (h : refusal.Concerns ts) (sub : ∀ t ∈ ts, t ∈ us) : refusal.Concerns us := by
  cases refusal with
  | unexpected t => exact sub t h
  | blankNumber =>
      obtain ⟨t, ht, blank⟩ := h
      exact ⟨t, sub t ht, blank⟩
  | expected _ => trivial
  | tooDeep => trivial

namespace Reply

variable {α β : Type}

/-- If the phrase is refused, then with a refusal about the given tokens. -/
def Blames (ts : List Token) (r : Reply α) : Prop :=
  ∀ refusal rest, r = .fail refusal rest → refusal.Concerns ts

theorem blames_ok (ts : List Token) (x : α) (rest : List Token) : (Reply.ok x rest).Blames ts :=
  fun _ _ h => nomatch h

theorem blames_fail {ts : List Token} {refusal : Refusal} (h : refusal.Concerns ts)
    (rest : List Token) : (Reply.fail refusal rest : Reply α).Blames ts := by
  intro other rest' heq
  cases heq
  exact h

theorem Blames.mono {ts us : List Token} {r : Reply α} (h : r.Blames ts) (sub : ts <:+ us) :
    r.Blames us :=
  fun refusal rest heq => (h refusal rest heq).mono fun _ ht => sub.subset ht

theorem Blames.andThen {ts : List Token} {r : Reply α} {next : α → Reader β} (first : r.Blames ts)
    (second : ∀ x mid, r = .ok x mid → (next x mid).Blames ts) : (r.andThen next).Blames ts := by
  cases r with
  | ok x mid => exact second x mid rfl
  | fail refusal mid =>
      intro other rest heq
      cases heq
      exact first refusal mid rfl

theorem Blames.map {ts : List Token} {r : Reply α} (h : r.Blames ts) (f : α → β) :
    (r.map f).Blames ts := by
  rw [map_eq_andThen]
  exact h.andThen fun _ _ _ => blames_ok ts _ _

end Reply

namespace Reader

variable {α β : Type}

theorem Advances.suffix {read : Reader α} (h : Advances read) {ts mid : List Token} {x : α}
    (hread : read ts = .ok x mid) : mid <:+ ts := by
  have suffix := (h ts).1
  rw [hread] at suffix
  exact suffix

/-- The reader blames the tokens that it was given. -/
def Blames (read : Reader α) : Prop := ∀ ts, (read ts).Blames ts

/-- A reader and another one behind it, which starts from what the first one leaves. -/
theorem Blames.andThen {first : Reader α} {next : α → Reader β} (advances : Advances first)
    (blames : Blames first) (hnext : ∀ x, Blames (next x)) :
    Blames fun ts => (first ts).andThen next := by
  intro ts
  exact (blames ts).andThen fun x mid heq => (hnext x mid).mono (advances.suffix heq)

theorem Blames.of_eq {read read' : Reader α} (h : ∀ ts, read ts = read' ts)
    (blames : Blames read') : Blames read := by
  intro ts
  rw [h ts]
  exact blames ts

theorem Blames.map {read : Reader α} (blames : Blames read) (f : α → β) :
    Blames fun ts => (read ts).map f :=
  fun ts => (blames ts).map f

/-! ## Names, numbers and factors -/

theorem blames_expect (kind : Kind) : Blames (expect kind) := by
  intro ts
  cases ts with
  | nil => exact fun _ _ h => by cases h; trivial
  | cons t rest =>
      rw [expect]
      split
      · exact Reply.blames_ok _ t rest
      · exact fun _ _ h => by cases h; trivial

theorem blames_furtherMembers : Blames furtherMembers := by
  intro ts refusal rest h
  fun_induction furtherMembers ts generalizing refusal rest with
  | case2 | case6 => cases h; trivial
  | case4 period member ts _ _ refusal' rest' hread ih =>
      cases h
      exact (ih _ _ hread).mono fun t ht =>
        List.mem_cons_of_mem _ (List.mem_cons_of_mem _ ht)
  | _ => cases h

theorem blames_identifier : Blames identifier :=
  (Blames.andThen (advances_expect .identifier) (blames_expect .identifier) fun _ =>
    blames_furtherMembers.map _).of_eq identifier_eq

theorem blames_number : Blames number := by
  intro ts
  rw [number_eq]
  refine (blames_expect .number ts).andThen fun token rest h => ?_
  obtain ⟨rfl, hkind⟩ := expect_ok h
  rw [closeNumber]
  split
  · rename_i hlexeme
    have blank : Refusal.blankNumber.Concerns (token :: rest) :=
      ⟨token, List.mem_cons_self, hkind, hlexeme⟩
    exact Reply.blames_fail blank rest
  · split
    · exact Reply.blames_fail List.mem_cons_self rest
    · exact Reply.blames_ok _ _ rest

theorem blames_closeFactor (operand : Expr) : Blames (closeFactor operand) := by
  intro ts
  cases ts with
  | nil => exact Reply.blames_ok _ _ _
  | cons op rest =>
      rw [closeFactor]
      split
      · exact Reply.blames_ok _ _ _
      · split
        · exact Reply.blames_ok _ _ _
        · exact Reply.blames_fail List.mem_cons_self _

theorem blames_factorWith {primary : Reader Expr} (advances : Advances primary)
    (blames : Blames primary) : Blames (factorWith primary) :=
  (blames.andThen advances blames_closeFactor).of_eq (factorWith_eq primary)

/-! ## Operators -/

section Operators

variable {operand : Nat → Reader Expr}

theorem blames_climbAll (advances : ∀ around, Advances (operand around))
    (blames : ∀ around, Blames (operand around)) (around : Nat) (left : Expr) (least : Nat) :
    Blames (climbAll operand around left least) := by
  intro ts
  -- on the number of tokens, as the climbing equation takes them
  induction hn : ts.length using Nat.strongRecOn generalizing ts around left least with
  | ind n ih =>
      cases ts with
      | nil => rw [climbAll_nil]; exact Reply.blames_ok _ _ _
      | cons op rest =>
          cases h : joins least op with
          | false => rw [climbAll_stops h]; exact Reply.blames_ok _ _ _
          | true =>
              rw [List.length_cons] at hn
              rw [climbAll_joins advances h]
              refine Reply.Blames.mono ?_ (List.suffix_cons op rest)
              refine Reply.Blames.andThen ?_ fun right mid hchain => ?_
              · refine (blames _ rest).andThen fun first mid hfirst => ?_
                have shorter := (advances _ rest).2 first mid hfirst
                exact (ih mid.length (by omega) _ first _ mid rfl).mono ((advances _).suffix hfirst)
              · have shorter := (advances_chain advances _ _ rest).2 right mid hchain
                exact (ih mid.length (by omega) around _ least mid rfl).mono
                  ((advances_chain advances _ _).suffix hchain)

theorem blames_chain (advances : ∀ around, Advances (operand around))
    (blames : ∀ around, Blames (operand around)) (around least : Nat) :
    Blames (chain operand around least) :=
  (blames around).andThen (advances around) fun left =>
    blames_climbAll advances blames (around + 1) left least

end Operators

/-! ## Primaries -/

section Nested

variable {nested : Nat → Reader Expr}

theorem blames_expressionWith (advances : ∀ around, Advances (nested around))
    (blames : ∀ around, Blames (nested around)) : Blames (expressionWith nested) :=
  (blames_chain (advances_operand advances)
    (fun around => blames_factorWith (advances (around + 1)) (blames (around + 1))) 1 1).of_eq
      (expressionWith_eq nested)

theorem blames_furtherAll {expression : Reader Expr} (advances : Advances expression)
    (blames : Blames expression) : Blames (furtherAll expression) := by
  intro ts
  induction hn : ts.length using Nat.strongRecOn generalizing ts with
  | ind n ih =>
      cases ts with
      | nil => rw [furtherAll_nil]; exact Reply.blames_ok _ _ _
      | cons comma rest =>
          by_cases h : comma.kind = .comma
          · rw [List.length_cons] at hn
            rw [furtherAll_comma advances h]
            refine Reply.Blames.mono ?_ (List.suffix_cons comma rest)
            refine (blames rest).andThen fun argument mid hread => ?_
            have shorter := (advances rest).2 argument mid hread
            exact ((ih mid.length (by omega) mid rfl).mono (advances.suffix hread)).map _
          · rw [furtherAll_stops expression h]
            exact Reply.blames_ok _ _ _

theorem blames_argumentsWith {expression : Reader Expr} (advances : Advances expression)
    (blames : Blames expression) : Blames (argumentsWith expression) :=
  (blames.andThen advances fun _ => (blames_furtherAll advances blames).map _).of_eq
    (argumentsWith_eq expression)

theorem blames_closeName {expression : Reader Expr} (advances : Advances expression)
    (blames : Blames expression) (name : Name) : Blames (closeName expression name) := by
  intro ts
  cases ts with
  | nil => exact Reply.blames_ok _ _ _
  | cons next inner =>
      rw [closeName]
      split
      · refine Reply.Blames.mono ?_ (List.suffix_cons next inner)
        rw [callWith_eq]
        split
        · exact Reply.Blames.map (blames_expect .closeParen inner) _
        · exact Blames.andThen (advances_argumentsWith advances)
            (blames_argumentsWith advances blames) (fun _ => (blames_expect .closeParen).map _) inner
      · exact Reply.blames_ok _ _ _

theorem blames_closeGroup {expression : Reader Expr} (advances : Advances expression)
    (blames : Blames expression) : Blames (closeGroup expression) :=
  blames.andThen advances fun _ => (blames_expect .closeParen).map _

theorem blames_primaryWith (advances : ∀ around, Advances (nested around))
    (blames : ∀ around, Blames (nested around)) : Blames (primaryWith nested) := by
  intro ts
  cases ts with
  | nil => exact fun _ _ h => by cases h; trivial
  | cons t rest =>
      have behind : rest <:+ t :: rest := List.suffix_cons t rest
      cases hopens : opensPrimary t.kind with
      | false =>
          rw [primaryWith_refuses nested hopens]
          exact Reply.blames_fail List.mem_cons_self _
      | true =>
          cases hk : t.kind <;> rw [hk] at hopens
          case number =>
            rw [primaryWith_number nested hk]
            exact blames_number _
          case identifier =>
            rw [primaryWith_identifier nested hk]
            have hblames := blames_expressionWith (fun around => advances (around + 1))
              fun around => blames (around + 1)
            exact Blames.andThen advances_identifier blames_identifier
              (blames_closeName (advances_argument advances) hblames) (t :: rest)
          case openParen =>
            rw [primaryWith_openParen nested hk]
            exact (blames_closeGroup (advances_expressionWith advances)
              (blames_expressionWith advances blames) rest).mono behind
          case minus =>
            rw [primaryWith_minus nested hk]
            exact ((blames 0 rest).mono behind).map _
          case negate =>
            rw [primaryWith_negate nested hk]
            exact ((blames 0 rest).mono behind).map _
          all_goals cases hopens

end Nested

/-! ## Within frames -/

theorem blames_primary (frames : Nat) : Blames (primary frames) := by
  induction frames using Nat.strongRecOn with
  | ind frames ih =>
      cases frames with
      | zero =>
          intro ts
          rw [primary_zero]
          exact fun _ _ h => by cases h; trivial
      | succ frames =>
          exact (blames_primaryWith (fun around => advances_primary (frames - around)) fun around =>
            ih (frames - around) (by omega)).of_eq (primary_succ frames)

theorem blames_expression (frames : Nat) : Blames (expression frames) :=
  blames_expressionWith (fun around => advances_primary (frames - around)) fun around =>
    blames_primary (frames - around)

/-- What the reader of whole expressions refuses is among the tokens, and so is what it leaves. -/
theorem whole_refuses {frames : Nat} {ts rest : List Token} {refusal : Refusal}
    (h : whole frames ts = .fail refusal rest) : refusal.Concerns ts ∧ rest <:+ ts := by
  have suffix := ((advances_expressionWith fun around => advances_primary (frames - around)) ts).1
  unfold whole at h
  split at h
  · rename_i hread
    cases h
    have suffix : (expression frames ts).rest <:+ ts := suffix
    rw [hread] at suffix
    exact ⟨blames_expression frames ts _ _ hread, suffix⟩
  · cases h
  · rename_i hread
    cases h
    have suffix : (expression frames ts).rest <:+ ts := suffix
    rw [hread] at suffix
    exact ⟨suffix.subset List.mem_cons_self, suffix⟩

end Reader

end Formula
