import Formula.Proofs.Reply
import Formula.Reader.Operators
set_option autoImplicit false

/-!
# Climbing without a count

`climb` and `extend` call each other under a count that bounds their loops.  Here the count
is removed: with operands that advance it is never exhausted (`climb_count`), and the loop
of `extend` is itself a climb, at the least precedence that an operator leaves to its right
operand (`extendAll_eq_climbAll`).  What remains is one equation,

    climbAll left least (op :: rest) = read the right operand of op at its own threshold,
                                       join it to left, and go on,

from which everything else about the two loops is derived.
-/

namespace Formula

/-- The least precedence of the operators inside the right operand of `op`. -/
def Kind.rightThreshold (op : Kind) : Nat :=
  if op.isRightAssociative then op.precedence else op.precedence + 1

theorem Kind.precedence_le_rightThreshold (op : Kind) : op.precedence ≤ op.rightThreshold := by
  cases op <;> decide

theorem Kind.takesOperandOf_iff {next op : Kind} (hnext : next.isBinary = true)
    (hop : op.isBinary = true) :
    next.takesOperandOf op = true ↔ op.rightThreshold ≤ next.precedence := by
  rcases binary_cases hnext with rfl | rfl | rfl | rfl | rfl <;>
    rcases binary_cases hop with rfl | rfl | rfl | rfl | rfl <;> decide

namespace Reader

variable {operand : Nat → Reader Expr}

/-- Is the operator one that a climb from `least` joins to its left operand? -/
def joins (least : Nat) (op : Token) : Bool := op.kind.isBinary && least ≤ op.kind.precedence

theorem joins_iff {least : Nat} {op : Token} :
    joins least op = true ↔ op.kind.isBinary = true ∧ least ≤ op.kind.precedence := by
  simp [joins]

theorem precedence_lt_of_not_joins {least : Nat} {op : Token} (h : joins least op = false)
    (hop : op.kind.isBinary = true) : op.kind.precedence < least := by
  rw [← Bool.not_eq_true, joins_iff, not_and] at h
  exact Nat.lt_of_not_le (h hop)

/-! ## The two loops step by step -/

theorem climb_nil (count around : Nat) (left : Expr) (least : Nat) :
    climb operand count around left least [] = .ok left [] := by
  rw [climb]

theorem climb_stops {op : Token} {least : Nat} (h : joins least op = false) (count around : Nat)
    (left : Expr) (rest : List Token) :
    climb operand count around left least (op :: rest) = .ok left (op :: rest) := by
  cases count <;> rw [climb, ← joins, h] <;> rfl

theorem climb_joins {op : Token} {least : Nat} (h : joins least op = true) (count around : Nat)
    (left : Expr) (rest : List Token) :
    climb operand (count + 1) around left least (op :: rest) =
      (operand around rest).andThen fun right rest =>
        (extend operand count around op right rest).andThen fun right rest =>
          climb operand count around (.binary left right op) least rest := by
  rw [climb, ← joins, h, if_pos rfl]
  cases operand around rest with
  | fail refusal rest => rfl
  | ok right rest =>
      simp only [Reply.andThen_ok]
      cases extend operand count around op right rest <;> rfl

theorem extend_nil (count around : Nat) (op : Token) (right : Expr) :
    extend operand count around op right [] = .ok right [] := by
  rw [extend]

theorem extend_stops {op next : Token} (hop : op.kind.isBinary = true)
    (h : joins op.kind.rightThreshold next = false) (count around : Nat) (right : Expr)
    (rest : List Token) :
    extend operand count around op right (next :: rest) = .ok right (next :: rest) := by
  have refused : ¬ (next.kind.isBinary && next.kind.takesOperandOf op.kind) = true := by
    intro takes
    obtain ⟨hnext, takes⟩ := Bool.and_eq_true_iff.1 takes
    rw [Kind.takesOperandOf_iff hnext hop] at takes
    rw [joins_iff.2 ⟨hnext, takes⟩] at h
    cases h
  cases count <;> rw [extend, if_neg refused]

theorem extend_joins {op next : Token} (hop : op.kind.isBinary = true)
    (h : joins op.kind.rightThreshold next = true) (count around : Nat) (right : Expr)
    (rest : List Token) :
    extend operand (count + 1) around op right (next :: rest) =
      (climb operand count (around + 1) right next.kind.precedence (next :: rest)).andThen
        fun right rest => extend operand count around op right rest := by
  obtain ⟨hnext, threshold⟩ := joins_iff.1 h
  have takes := (Kind.takesOperandOf_iff hnext hop).2 threshold
  rw [extend, if_pos (by rw [hnext, takes]; rfl)]
  cases climb operand count (around + 1) right next.kind.precedence (next :: rest) <;> rfl

/-- An operator is joined at its own precedence. -/
theorem joins_precedence {least : Nat} {op : Token} (h : joins least op = true) :
    joins op.kind.precedence op = true :=
  joins_iff.2 ⟨(joins_iff.1 h).1, Nat.le_refl _⟩

/-! ## The loops move forward -/

/-- Neither loop moves backwards. -/
theorem climb_extend_rest (suffix : ∀ around ts, (operand around ts).rest <:+ ts) (count : Nat) :
    (∀ around left least ts, (climb operand count around left least ts).rest <:+ ts) ∧
      (∀ around op right ts, op.kind.isBinary = true →
        (extend operand count around op right ts).rest <:+ ts) := by
  induction count with
  | zero =>
      refine ⟨fun around left least ts => ?_, fun around op right ts _ => ?_⟩
      · cases ts with
        | nil => rw [climb_nil]; exact List.suffix_rfl
        | cons op rest => rw [climb]; split <;> exact List.suffix_rfl
      · cases ts with
        | nil => rw [extend_nil]; exact List.suffix_rfl
        | cons next rest => rw [extend]; split <;> exact List.suffix_rfl
  | succ count ih =>
      obtain ⟨ihClimb, ihExtend⟩ := ih
      refine ⟨fun around left least ts => ?_, fun around op right ts hop => ?_⟩
      · cases ts with
        | nil => rw [climb_nil]; exact List.suffix_rfl
        | cons op rest =>
            cases h : joins least op with
            | false => rw [climb_stops h]; exact List.suffix_rfl
            | true =>
                rw [climb_joins h]
                refine Reply.rest_andThen ((suffix _ rest).trans (List.suffix_cons op rest)) ?_
                intro right mid _
                refine Reply.rest_andThen (ihExtend _ op right mid (joins_iff.1 h).1) ?_
                intro right mid _
                exact ihClimb around _ least mid
      · cases ts with
        | nil => rw [extend_nil]; exact List.suffix_rfl
        | cons next rest =>
            cases h : joins op.kind.rightThreshold next with
            | false => rw [extend_stops hop h]; exact List.suffix_rfl
            | true =>
                rw [extend_joins hop h]
                exact Reply.rest_andThen (ihClimb _ right _ _) fun right mid _ =>
                  ihExtend around op right mid hop

theorem climb_rest (suffix : ∀ around ts, (operand around ts).rest <:+ ts) (count around : Nat)
    (left : Expr) (least : Nat) (ts : List Token) :
    (climb operand count around left least ts).rest <:+ ts :=
  (climb_extend_rest suffix count).1 around left least ts

theorem extend_rest (suffix : ∀ around ts, (operand around ts).rest <:+ ts) (count around : Nat)
    {op : Token} (hop : op.kind.isBinary = true) (right : Expr) (ts : List Token) :
    (extend operand count around op right ts).rest <:+ ts :=
  (climb_extend_rest suffix count).2 around op right ts hop

/-- A climb that starts in front of an operator, at its own precedence, takes the operator and an
operand behind it. -/
theorem operand_of_climb_joins (suffix : ∀ around ts, (operand around ts).rest <:+ ts)
    {op : Token} {least : Nat} (h : joins least op = true) {count around : Nat} {left e : Expr}
    {rest mid : List Token}
    (hread : climb operand count around left least (op :: rest) = .ok e mid) :
    ∃ right behind, operand around rest = .ok right behind ∧ mid <:+ behind := by
  cases count with
  | zero =>
      rw [climb, ← joins, h, if_pos rfl] at hread
      cases hread
  | succ count =>
      rw [climb_joins h] at hread
      obtain ⟨right, behind, hright, hread⟩ := Reply.andThen_eq_ok hread
      obtain ⟨right', mid', hextend, hread⟩ := Reply.andThen_eq_ok hread
      have h₁ := extend_rest suffix count around (joins_iff.1 h).1 right behind
      have h₂ := climb_rest suffix count around (.binary left right' op) least mid'
      rw [hextend] at h₁
      rw [hread] at h₂
      exact ⟨right, behind, hright, h₂.trans h₁⟩

/-- A climb that joins the first operator leaves fewer tokens. -/
theorem length_of_climb_joins (advances : ∀ around, Advances (operand around)) {least : Nat}
    {op : Token} (h : joins least op = true) {count around : Nat} {left e : Expr}
    {rest mid : List Token}
    (hread : climb operand count around left least (op :: rest) = .ok e mid) :
    mid.length ≤ rest.length := by
  have suffix : ∀ around ts, (operand around ts).rest <:+ ts := fun around ts =>
    (advances around ts).1
  obtain ⟨right, behind, hright, hmid⟩ := operand_of_climb_joins suffix h hread
  have shorter := (advances _ rest).2 right behind hright
  exact Nat.le_trans hmid.length_le (Nat.le_of_lt shorter)

/-! ## The count is never exhausted -/

/-- Any two counts that suffice give the same reply.  A climb needs as many as there are
tokens and `extend` one more, which it spends without taking a token. -/
theorem climb_extend_count (advances : ∀ around, Advances (operand around)) (n : Nat) :
    (∀ ts count count' around left least, ts.length ≤ n → ts.length ≤ count → ts.length ≤ count' →
        climb operand count around left least ts = climb operand count' around left least ts) ∧
      (∀ ts count count' around op right, op.kind.isBinary = true → ts.length ≤ n →
        ts.length < count → ts.length < count' →
        extend operand count around op right ts = extend operand count' around op right ts) := by
  have suffix : ∀ around ts, (operand around ts).rest <:+ ts := fun around ts =>
    (advances around ts).1
  induction n with
  | zero =>
      refine ⟨fun ts count count' around left least short _ _ => ?_,
        fun ts count count' around op right _ short _ _ => ?_⟩
      · rw [List.length_eq_zero_iff.1 (Nat.le_zero.1 short), climb_nil, climb_nil]
      · rw [List.length_eq_zero_iff.1 (Nat.le_zero.1 short), extend_nil, extend_nil]
  | succ n ih =>
      obtain ⟨ihClimb, ihExtend⟩ := ih
      have climbs : ∀ ts count count' around left least, ts.length ≤ n + 1 → ts.length ≤ count →
          ts.length ≤ count' →
          climb operand count around left least ts = climb operand count' around left least ts := by
        intro ts count count' around left least short enough enough'
        cases ts with
        | nil => rw [climb_nil, climb_nil]
        | cons op rest =>
            cases h : joins least op with
            | false => rw [climb_stops h, climb_stops h]
            | true =>
                simp only [List.length_cons] at short enough enough'
                obtain ⟨count, rfl⟩ := Nat.exists_eq_add_of_le' (Nat.le_of_add_left_le enough)
                obtain ⟨count', rfl⟩ := Nat.exists_eq_add_of_le' (Nat.le_of_add_left_le enough')
                rw [climb_joins h, climb_joins h]
                refine Reply.andThen_congr rfl fun right mid hright => ?_
                have shorter := (advances _ rest).2 right mid hright
                refine Reply.andThen_congr
                  (ihExtend mid count count' _ op right (joins_iff.1 h).1 (by omega) (by omega)
                    (by omega)) fun right' mid' hextend => ?_
                have least' := extend_rest suffix count around (joins_iff.1 h).1
                  right mid
                rw [hextend] at least'
                have shorter' : mid'.length ≤ mid.length := least'.length_le
                exact ihClimb mid' count count' around _ least (by omega) (by omega) (by omega)
      refine ⟨climbs, fun ts count count' around op right hop short enough enough' => ?_⟩
      cases ts with
      | nil => rw [extend_nil, extend_nil]
      | cons next rest =>
          cases h : joins op.kind.rightThreshold next with
          | false => rw [extend_stops hop h, extend_stops hop h]
          | true =>
              simp only [List.length_cons] at short enough enough'
              obtain ⟨count, rfl⟩ := Nat.exists_eq_add_of_le' (show 2 ≤ count by omega)
              obtain ⟨count', rfl⟩ := Nat.exists_eq_add_of_le' (show 2 ≤ count' by omega)
              rw [extend_joins hop h, extend_joins hop h]
              refine Reply.andThen_congr
                (climbs (next :: rest) (count + 1) (count' + 1) _ right _ (by simpa using short)
                  (by simp only [List.length_cons]; omega) (by simp only [List.length_cons]; omega))
                fun right' mid hclimb => ?_
              have shorter := length_of_climb_joins advances (joins_precedence h) hclimb
              exact ihExtend mid (count + 1) (count' + 1) around op right' hop (by omega) (by omega)
                (by omega)

theorem climb_count (advances : ∀ around, Advances (operand around)) {ts : List Token}
    {count : Nat} (enough : ts.length ≤ count) (around : Nat) (left : Expr) (least : Nat) :
    climb operand count around left least ts = climb operand ts.length around left least ts :=
  (climb_extend_count advances ts.length).1 ts _ _ around left least (Nat.le_refl _) enough
    (Nat.le_refl _)

theorem extend_count (advances : ∀ around, Advances (operand around)) {ts : List Token}
    {count : Nat} (enough : ts.length < count) (around : Nat) {op : Token}
    (hop : op.kind.isBinary = true) (right : Expr) :
    extend operand count around op right ts = extend operand (ts.length + 1) around op right ts :=
  (climb_extend_count advances ts.length).2 ts _ _ around op right hop (Nat.le_refl _) enough
    (Nat.lt_succ_self _)

/-! ## One equation -/

/-- A climb with as many counts as it can use. -/
def climbAll (operand : Nat → Reader Expr) (around : Nat) (left : Expr) (least : Nat) :
    Reader Expr := fun ts =>
  climb operand ts.length around left least ts

/-- An operand, and the operators of at least precedence `least` behind it with theirs, which are
read in a climb one call further in. -/
def chain (operand : Nat → Reader Expr) (around least : Nat) : Reader Expr := fun ts =>
  (operand around ts).andThen fun left rest => climbAll operand (around + 1) left least rest

theorem climbAll_nil (around : Nat) (left : Expr) (least : Nat) :
    climbAll operand around left least [] = .ok left [] :=
  climb_nil _ around left least

theorem climbAll_stops {op : Token} {least : Nat} (h : joins least op = false) (around : Nat)
    (left : Expr) (rest : List Token) :
    climbAll operand around left least (op :: rest) = .ok left (op :: rest) :=
  climb_stops h _ around left rest

theorem climbAll_stops_of_head {least : Nat} {rest : List Token}
    (h : ∀ next ∈ rest.head?, joins least next = false) (around : Nat) (left : Expr) :
    climbAll operand around left least rest = .ok left rest := by
  cases rest with
  | nil => exact climbAll_nil around left least
  | cons next rest => exact climbAll_stops (h next rfl) around left rest

theorem climbAll_rest (suffix : ∀ around ts, (operand around ts).rest <:+ ts) (around : Nat)
    (left : Expr) (least : Nat) (ts : List Token) :
    (climbAll operand around left least ts).rest <:+ ts :=
  climb_rest suffix _ around left least ts

/-- `extend` with as many counts as it can use. -/
def extendAll (operand : Nat → Reader Expr) (around : Nat) (op : Token) (right : Expr) :
    Reader Expr := fun ts =>
  extend operand (ts.length + 1) around op right ts

theorem climbAll_joins_extend (advances : ∀ around, Advances (operand around)) {op : Token}
    {least : Nat} (h : joins least op = true) (around : Nat) (left : Expr) (rest : List Token) :
    climbAll operand around left least (op :: rest) =
      (operand around rest).andThen fun right rest =>
        (extendAll operand around op right rest).andThen fun right rest =>
          climbAll operand around (.binary left right op) least rest := by
  have suffix : ∀ around ts, (operand around ts).rest <:+ ts := fun around ts =>
    (advances around ts).1
  unfold climbAll extendAll
  rw [List.length_cons, climb_joins h]
  refine Reply.andThen_congr rfl fun right mid hright => ?_
  have shorter := (advances _ rest).2 right mid hright
  refine Reply.andThen_congr (extend_count advances shorter _ (joins_iff.1 h).1 right)
    fun right' mid' hextend => ?_
  have least' := extend_rest suffix rest.length around (joins_iff.1 h).1 right mid
  rw [hextend] at least'
  have shorter' : mid'.length ≤ mid.length := least'.length_le
  exact climb_count advances (by omega) around _ least

/-- A climb may be interrupted: it first joins the operators that bind at least as tightly as
some greater precedence, and then goes on. -/
theorem climbAll_split (advances : ∀ around, Advances (operand around)) {least greater : Nat}
    (le : least ≤ greater) (around : Nat) (ts : List Token) (left : Expr) :
    climbAll operand around left least ts =
      (climbAll operand around left greater ts).andThen fun left rest =>
        climbAll operand around left least rest := by
  have suffix : ∀ around ts, (operand around ts).rest <:+ ts := fun around ts =>
    (advances around ts).1
  -- on the number of tokens: the rest of the climb starts behind an operator and its operand
  induction hn : ts.length using Nat.strongRecOn generalizing ts left with
  | ind n ih =>
      cases ts with
      | nil => rw [climbAll_nil, climbAll_nil, Reply.andThen_ok, climbAll_nil]
      | cons op rest =>
          cases h : joins greater op with
          | false => rw [climbAll_stops h, Reply.andThen_ok]
          | true =>
              have h' : joins least op = true :=
                joins_iff.2 ⟨(joins_iff.1 h).1, Nat.le_trans le (joins_iff.1 h).2⟩
              rw [climbAll_joins_extend advances h, climbAll_joins_extend advances h',
                Reply.andThen_assoc]
              refine Reply.andThen_congr rfl fun right mid hright => ?_
              have shorter := (advances _ rest).2 right mid hright
              rw [Reply.andThen_assoc]
              refine Reply.andThen_congr rfl fun right' mid' hextend => ?_
              have least' := extend_rest suffix (mid.length + 1) around
                (joins_iff.1 h).1 right mid
              rw [show extend operand (mid.length + 1) around op right mid
                = .ok right' mid' from hextend] at least'
              have shorter' : mid'.length ≤ mid.length := least'.length_le
              simp only [List.length_cons] at hn
              exact ih mid'.length (by omega) mid' _ rfl

/-- The loop of `extend` is a climb, one call further in. -/
theorem extendAll_eq_climbAll (advances : ∀ around, Advances (operand around)) (around : Nat)
    {op : Token} (hop : op.kind.isBinary = true) (ts : List Token) (right : Expr) :
    extendAll operand around op right ts =
      climbAll operand (around + 1) right op.kind.rightThreshold ts := by
  induction hn : ts.length using Nat.strongRecOn generalizing ts right with
  | ind n ih =>
      cases ts with
      | nil => rw [climbAll_nil]; exact extend_nil _ around op right
      | cons next rest =>
          cases h : joins op.kind.rightThreshold next with
          | false => rw [climbAll_stops h]; exact extend_stops hop h _ around right rest
          | true =>
              rw [climbAll_split advances (joins_iff.1 h).2 (around + 1) (next :: rest) right]
              unfold extendAll
              rw [extend_joins hop h]
              refine Reply.andThen_congr rfl fun right' mid hclimb => ?_
              have shorter := length_of_climb_joins advances (joins_precedence h)
                (show climb operand (rest.length + 1) (around + 1) right next.kind.precedence
                  (next :: rest) = .ok right' mid from hclimb)
              rw [extend_count advances (by simp only [List.length_cons]; omega) around hop right']
              simp only [List.length_cons] at hn
              exact ih mid.length (by omega) mid right' rfl

/-- **The climbing equation**: the right operand of an operator is a chain at the operator's
own threshold. -/
theorem climbAll_joins (advances : ∀ around, Advances (operand around)) {op : Token}
    {least : Nat} (h : joins least op = true) (around : Nat) (left : Expr) (rest : List Token) :
    climbAll operand around left least (op :: rest) =
      (chain operand around op.kind.rightThreshold rest).andThen
        fun right rest => climbAll operand around (.binary left right op) least rest := by
  rw [climbAll_joins_extend advances h, chain, Reply.andThen_assoc]
  refine Reply.andThen_congr rfl fun right mid _ => ?_
  rw [extendAll_eq_climbAll advances _ (joins_iff.1 h).1]

end Reader

end Formula
