import Formula.Proofs.Climbing
import Formula.Reader.Primary
set_option autoImplicit false

/-!
# Progress of the readers

The readers of primaries, names and arguments as chains of replies, and two consequences of
that form.  Every reader advances, so the recursion between them ends on any list of tokens
(`advances_primary`); and since a primary takes a token and no more than three frames for each
token, a list is not nested too deeply if there are more frames than that
(`not_tooDeep_primary`).
-/

namespace Formula

namespace Reader

variable {α β : Type}

/-! ## Readers as chains -/

/-- What may follow a primary inside a factor: a factorial sign, or nothing. -/
def closeFactor (operand : Expr) : Reader Expr
  | [] => .ok operand []
  | op :: rest =>
      if !op.kind.isUnary then .ok operand (op :: rest)
      else if op.kind.isRightAssociative then .ok (.unary operand op) rest
      else .fail (.unexpected op) (op :: rest)

theorem closeFactor_stops {ts : List Token} (h : ∀ t ∈ ts.head?, t.kind.isUnary = false)
    (operand : Expr) : closeFactor operand ts = .ok operand ts := by
  cases ts with
  | nil => rfl
  | cons t rest =>
      rw [closeFactor, h t rfl]
      rfl

theorem closeFactor_factorial {op : Token} (h : op.kind = .factorial) (operand : Expr)
    (rest : List Token) : closeFactor operand (op :: rest) = .ok (.unary operand op) rest := by
  rw [closeFactor, h]
  rfl

theorem factorWith_eq (primary : Reader Expr) (ts : List Token) :
    factorWith primary ts = (primary ts).andThen closeFactor := by
  unfold factorWith
  cases primary ts with
  | fail refusal rest => rfl
  | ok operand rest => cases rest <;> rfl

theorem expressionWith_eq (primary : Nat → Reader Expr) (ts : List Token) :
    expressionWith primary ts = chain (fun around => factorWith (primary (around + 1))) 1 1 ts := by
  unfold expressionWith chain climbAll
  dsimp only
  cases factorWith (primary 2) ts <;> rfl

/-- A number token whose spelling has to be a literal. -/
def closeNumber (token : Token) : Reader Expr := fun rest =>
  match token.lexeme with
  | none => .fail .blankNumber rest
  | some spelling =>
      match Double.ofLiteral? spelling with
      | none => .fail (.unexpected token) rest
      | some _ => .ok (.number token) rest

theorem number_eq (ts : List Token) : number ts = (expect .number ts).andThen closeNumber := by
  unfold number
  cases expect .number ts <;> rfl

theorem identifier_eq (ts : List Token) :
    identifier ts = (expect .identifier ts).andThen fun first rest =>
      (furtherMembers rest).map fun others => ⟨first, others⟩ := by
  unfold identifier
  cases expect .identifier ts <;> rfl

theorem callWith_eq (expression : Reader Expr) (name : Name) (ts : List Token) :
    callWith expression name ts =
      (if isNext .closeParen ts then .ok [] ts else argumentsWith expression ts).andThen
        fun arguments rest => (expect .closeParen rest).map fun _ => .call name arguments := by
  unfold callWith
  cases (if isNext .closeParen ts then Reply.ok [] ts else argumentsWith expression ts) with
  | fail refusal rest => rfl
  | ok arguments rest =>
      simp only [Reply.andThen_ok]
      cases expect .closeParen rest <;> rfl

/-- What may follow a name: the arguments of a call, or nothing. -/
def closeName (expression : Reader Expr) (name : Name) : Reader Expr
  | [] => .ok (.identifier name) []
  | next :: inner =>
      if next.kind = .openParen then callWith expression name inner
      else .ok (.identifier name) (next :: inner)

theorem closeName_stops (expression : Reader Expr) (name : Name) {ts : List Token}
    (h : ∀ t ∈ ts.head?, t.kind ≠ .openParen) :
    closeName expression name ts = .ok (.identifier name) ts := by
  cases ts with
  | nil => rfl
  | cons next inner => rw [closeName, if_neg (h next rfl)]

theorem closeName_openParen (expression : Reader Expr) (name : Name) {opening : Token}
    (h : opening.kind = .openParen) (inner : List Token) :
    closeName expression name (opening :: inner) = callWith expression name inner := by
  rw [closeName, if_pos h]

/-- An expression and the parenthesis behind it. -/
def closeGroup (expression : Reader Expr) : Reader Expr := fun ts =>
  (expression ts).andThen fun e rest => (expect .closeParen rest).map fun _ => e

theorem primaryWith_number (nested : Nat → Reader Expr) {t : Token} (h : t.kind = .number)
    (rest : List Token) : primaryWith nested (t :: rest) = number (t :: rest) := by
  rw [primaryWith, h]

theorem primaryWith_identifier (nested : Nat → Reader Expr) {t : Token}
    (h : t.kind = .identifier) (rest : List Token) :
    primaryWith nested (t :: rest) =
      (identifier (t :: rest)).andThen
        (closeName (expressionWith fun around => nested (around + 1))) := by
  rw [primaryWith, h]
  cases identifier (t :: rest) with
  | fail refusal rest => rfl
  | ok name rest => cases rest <;> rfl

theorem primaryWith_openParen (nested : Nat → Reader Expr) {t : Token} (h : t.kind = .openParen)
    (rest : List Token) :
    primaryWith nested (t :: rest) = closeGroup (expressionWith nested) rest := by
  rw [primaryWith, h, closeGroup]
  cases expressionWith nested rest with
  | fail refusal rest => rfl
  | ok e rest =>
      simp only [Reply.andThen_ok]
      cases expect .closeParen rest <;> rfl

theorem primaryWith_minus (nested : Nat → Reader Expr) {t : Token} (h : t.kind = .minus)
    (rest : List Token) :
    primaryWith nested (t :: rest) = (nested 0 rest).map fun operand =>
      .unary operand { kind := .negate, start := t.start } := by
  rw [primaryWith, h]

theorem primaryWith_negate (nested : Nat → Reader Expr) {t : Token} (h : t.kind = .negate)
    (rest : List Token) :
    primaryWith nested (t :: rest) = (nested 0 rest).map fun operand => .unary operand t := by
  rw [primaryWith, h]

/-- May a token of this kind open a primary? -/
def opensPrimary : Kind → Bool
  | .number | .identifier | .openParen | .minus | .negate => true
  | _ => false

theorem primaryWith_refuses (nested : Nat → Reader Expr) {t : Token}
    (h : opensPrimary t.kind = false) (rest : List Token) :
    primaryWith nested (t :: rest) = .fail (.unexpected t) (t :: rest) := by
  rw [primaryWith]
  cases hk : t.kind <;> rw [hk] at h <;> first | rfl | cases h

/-! ## Single tokens and names -/

theorem expect_ok {kind : Kind} {ts rest : List Token} {t : Token}
    (h : expect kind ts = .ok t rest) : ts = t :: rest ∧ t.kind = kind := by
  cases ts with
  | nil => cases h
  | cons u us =>
      rw [expect] at h
      split at h
      · rename_i hkind
        cases h
        exact ⟨rfl, hkind⟩
      · cases h

theorem advances_expect (kind : Kind) : Advances (expect kind) := by
  intro ts
  refine ⟨?_, fun t rest h => ?_⟩
  · cases ts with
    | nil => exact List.suffix_rfl
    | cons u us =>
        rw [expect]
        split
        · exact List.suffix_cons u us
        · exact List.suffix_rfl
  · obtain ⟨rfl, _⟩ := expect_ok h
    exact Nat.lt_succ_self _

theorem furtherMembers_rest (ts : List Token) : (furtherMembers ts).rest <:+ ts := by
  fun_induction furtherMembers ts with
  | case1 => exact List.suffix_rfl
  | case2 period _ => exact List.nil_suffix
  | case3 period _ => exact List.suffix_rfl
  | case4 period member rest _ _ refusal left h ih =>
      rw [h] at ih
      exact ih.trans ((List.suffix_cons member rest).trans (List.suffix_cons period _))
  | case5 period member rest _ _ members left h ih =>
      rw [h] at ih
      exact ih.trans ((List.suffix_cons member rest).trans (List.suffix_cons period _))
  | case6 period member rest _ _ => exact List.suffix_cons period _
  | case7 period member rest _ => exact List.suffix_rfl

/-! ## Chains advance -/

theorem Advances.andThen {first : Reader α} {next : α → Reader β} (h : Advances first)
    (hnext : ∀ x ts, (next x ts).rest <:+ ts) :
    Advances fun ts => (first ts).andThen next := by
  intro ts
  refine ⟨Reply.rest_andThen (h ts).1 fun x mid _ => hnext x mid, fun y rest hread => ?_⟩
  obtain ⟨x, mid, hx, hy⟩ := Reply.andThen_eq_ok hread
  have shorter := (h ts).2 x mid hx
  have suffix := hnext x mid
  rw [hy] at suffix
  exact Nat.lt_of_le_of_lt suffix.length_le shorter

theorem Advances.of_eq {read read' : Reader α} (h : ∀ ts, read ts = read' ts)
    (advances : Advances read') : Advances read := by
  intro ts
  rw [h ts]
  exact advances ts

theorem Advances.map {first : Reader α} (h : Advances first) (f : α → β) :
    Advances fun ts => (first ts).map f := by
  have next : ∀ x ts, (Reply.ok (f x) ts).rest <:+ ts := fun _ _ => List.suffix_rfl
  exact (h.andThen next).of_eq fun ts => Reply.map_eq_andThen (first ts) f

theorem closeNumber_rest (token : Token) (rest : List Token) :
    (closeNumber token rest).rest = rest := by
  unfold closeNumber
  split
  · rfl
  · split <;> rfl

theorem advances_number : Advances number :=
  ((advances_expect .number).andThen fun token rest => ⟨[], closeNumber_rest token rest⟩).of_eq
    number_eq

theorem advances_identifier : Advances identifier :=
  ((advances_expect .identifier).andThen fun first rest => by
    rw [Reply.rest_map]
    exact furtherMembers_rest rest).of_eq identifier_eq

/-! ## Arguments without a count -/

/-- The further arguments, with as many counts as the loop can use. -/
def furtherAll (expression : Reader Expr) : Reader (List Expr) := fun ts =>
  furtherArguments expression ts.length ts

theorem furtherArguments_stops (expression : Reader Expr) (count : Nat) {t : Token}
    (h : t.kind ≠ .comma) (rest : List Token) :
    furtherArguments expression count (t :: rest) = .ok [] (t :: rest) := by
  cases count <;> rw [furtherArguments, if_neg h]

theorem furtherArguments_comma (expression : Reader Expr) (count : Nat) {comma : Token}
    (h : comma.kind = .comma) (rest : List Token) :
    furtherArguments expression (count + 1) (comma :: rest) =
      (expression rest).andThen fun argument rest =>
        (furtherArguments expression count rest).map (argument :: ·) := by
  rw [furtherArguments, if_pos h]
  cases expression rest with
  | fail refusal rest => rfl
  | ok argument rest =>
      simp only [Reply.andThen_ok]
      cases furtherArguments expression count rest <;> rfl

theorem furtherArguments_count {expression : Reader Expr} (advances : Advances expression)
    (n : Nat) : ∀ ts count count', ts.length ≤ n → ts.length ≤ count → ts.length ≤ count' →
      furtherArguments expression count ts = furtherArguments expression count' ts := by
  induction n with
  | zero =>
      intro ts count count' short _ _
      rw [List.length_eq_zero_iff.1 (Nat.le_zero.1 short), furtherArguments, furtherArguments]
  | succ n ih =>
      intro ts count count' short enough enough'
      cases ts with
      | nil => rw [furtherArguments, furtherArguments]
      | cons comma rest =>
          by_cases h : comma.kind = .comma
          · simp only [List.length_cons] at short enough enough'
            obtain ⟨count, rfl⟩ := Nat.exists_eq_add_of_le' (Nat.le_of_add_left_le enough)
            obtain ⟨count', rfl⟩ := Nat.exists_eq_add_of_le' (Nat.le_of_add_left_le enough')
            rw [furtherArguments_comma _ _ h, furtherArguments_comma _ _ h]
            refine Reply.andThen_congr rfl fun argument mid hread => ?_
            have shorter := (advances rest).2 argument mid hread
            rw [ih mid count count' (by omega) (by omega) (by omega)]
          · rw [furtherArguments_stops _ _ h, furtherArguments_stops _ _ h]

theorem furtherAll_nil (expression : Reader Expr) : furtherAll expression [] = .ok [] [] := by
  rw [furtherAll, furtherArguments]

theorem furtherAll_stops (expression : Reader Expr) {t : Token} (h : t.kind ≠ .comma)
    (rest : List Token) : furtherAll expression (t :: rest) = .ok [] (t :: rest) :=
  furtherArguments_stops expression _ h rest

theorem furtherAll_comma {expression : Reader Expr} (advances : Advances expression)
    {comma : Token} (h : comma.kind = .comma) (rest : List Token) :
    furtherAll expression (comma :: rest) = (expression rest).andThen fun argument rest =>
      (furtherAll expression rest).map (argument :: ·) := by
  unfold furtherAll
  rw [List.length_cons, furtherArguments_comma _ _ h]
  refine Reply.andThen_congr rfl fun argument mid hread => ?_
  have shorter := (advances rest).2 argument mid hread
  rw [furtherArguments_count advances mid.length mid _ _ (Nat.le_refl _) (Nat.le_of_lt shorter)
    (Nat.le_refl _)]

theorem argumentsWith_eq (expression : Reader Expr) (ts : List Token) :
    argumentsWith expression ts = (expression ts).andThen fun argument rest =>
      (furtherAll expression rest).map (argument :: ·) := by
  unfold argumentsWith
  cases expression ts <;> rfl

/-- The loop does not move backwards, whatever its count is. -/
theorem furtherArguments_rest {expression : Reader Expr} (advances : Advances expression)
    (count : Nat) (ts : List Token) : (furtherArguments expression count ts).rest <:+ ts := by
  induction count generalizing ts with
  | zero =>
      cases ts with
      | nil => rw [furtherArguments]; exact List.suffix_rfl
      | cons comma rest => rw [furtherArguments]; split <;> exact List.suffix_rfl
  | succ count ih =>
      cases ts with
      | nil => rw [furtherArguments]; exact List.suffix_rfl
      | cons comma rest =>
          by_cases h : comma.kind = .comma
          · rw [furtherArguments_comma expression count h]
            refine Reply.rest_andThen ((advances rest).1.trans (List.suffix_cons comma rest)) ?_
            intro argument mid _
            rw [Reply.rest_map]
            exact ih mid
          · rw [furtherArguments_stops expression _ h]
            exact List.suffix_rfl

/-! ## All readers advance -/

theorem advances_factorWith {primary : Reader Expr} (h : Advances primary) :
    Advances (factorWith primary) := by
  refine (h.andThen fun operand ts => ?_).of_eq (factorWith_eq primary)
  cases ts with
  | nil => exact List.suffix_rfl
  | cons op rest =>
      rw [closeFactor]
      split
      · exact List.suffix_rfl
      · split
        · exact List.suffix_cons op rest
        · exact List.suffix_rfl

theorem advances_chain {operand : Nat → Reader Expr} (h : ∀ around, Advances (operand around))
    (around least : Nat) : Advances (chain operand around least) :=
  (h around).andThen fun left ts =>
    climbAll_rest (fun around ts => (h around ts).1) (around + 1) left least ts

section Nested

variable {nested : Nat → Reader Expr}

/-- The operands of an expression. -/
theorem advances_operand (h : ∀ around, Advances (nested around)) (around : Nat) :
    Advances (factorWith (nested (around + 1))) := advances_factorWith (h (around + 1))

theorem advances_expressionWith (h : ∀ around, Advances (nested around)) :
    Advances (expressionWith nested) :=
  (advances_chain (advances_operand h) 1 1).of_eq (expressionWith_eq nested)

/-- The expressions among the arguments of a call. -/
theorem advances_argument (h : ∀ around, Advances (nested around)) :
    Advances (expressionWith fun around => nested (around + 1)) :=
  advances_expressionWith fun around => h (around + 1)

end Nested

theorem advances_argumentsWith {expression : Reader Expr} (h : Advances expression) :
    Advances (argumentsWith expression) :=
  (h.andThen fun argument ts => by
    rw [Reply.rest_map]
    exact furtherArguments_rest h ts.length ts).of_eq (argumentsWith_eq expression)

theorem callWith_rest {expression : Reader Expr} (h : Advances expression) (name : Name)
    (ts : List Token) : (callWith expression name ts).rest <:+ ts := by
  rw [callWith_eq]
  refine Reply.rest_andThen ?_ fun arguments mid _ => ?_
  · split
    · exact List.suffix_rfl
    · exact (advances_argumentsWith h ts).1
  · rw [Reply.rest_map]
    exact (advances_expect .closeParen mid).1

theorem closeName_rest {expression : Reader Expr} (h : Advances expression) (name : Name)
    (ts : List Token) : (closeName expression name ts).rest <:+ ts := by
  cases ts with
  | nil => exact List.suffix_rfl
  | cons next inner =>
      rw [closeName]
      split
      · exact (callWith_rest h name inner).trans (List.suffix_cons next inner)
      · exact List.suffix_rfl

theorem advances_closeGroup {expression : Reader Expr} (h : Advances expression) :
    Advances (closeGroup expression) :=
  h.andThen fun e ts => by
    rw [Reply.rest_map]
    exact (advances_expect .closeParen ts).1

/-- A reader that advances still does so with one more token in front. -/
theorem Advances.behind {read inner : Reader α} (h : Advances inner) {t : Token}
    {rest : List Token} (heq : read (t :: rest) = inner rest) :
    (read (t :: rest)).rest <:+ t :: rest ∧
      ∀ x left, read (t :: rest) = .ok x left → left.length < (t :: rest).length := by
  rw [heq]
  exact ⟨(h rest).1.trans (List.suffix_cons t rest), fun x left hread =>
    Nat.lt_succ_of_lt ((h rest).2 x left hread)⟩

theorem advances_primaryWith {nested : Nat → Reader Expr}
    (h : ∀ around, Advances (nested around)) : Advances (primaryWith nested) := by
  have expression := advances_expressionWith h
  intro ts
  cases ts with
  | nil => exact ⟨List.suffix_rfl, fun e rest h => nomatch h⟩
  | cons t rest =>
      cases hopens : opensPrimary t.kind with
      | false =>
          rw [primaryWith_refuses nested hopens]
          exact ⟨List.suffix_rfl, fun e rest h => nomatch h⟩
      | true =>
          cases hk : t.kind <;> rw [hk] at hopens
          case number =>
            rw [primaryWith_number nested hk]
            exact advances_number (t :: rest)
          case identifier =>
            rw [primaryWith_identifier nested hk]
            exact advances_identifier.andThen (closeName_rest (advances_argument h)) (t :: rest)
          case openParen =>
            exact (advances_closeGroup expression).behind (primaryWith_openParen nested hk rest)
          case minus =>
            exact ((h 0).map _).behind (primaryWith_minus nested hk rest)
          case negate =>
            exact ((h 0).map _).behind (primaryWith_negate nested hk rest)
          all_goals cases hopens

/-- Within any number of frames, a primary takes a token. -/
theorem advances_primary (frames : Nat) : Advances (primary frames) := by
  induction frames using Nat.strongRecOn with
  | ind frames ih =>
      cases frames with
      | zero => exact fun ts => by rw [primary_zero]; exact ⟨List.suffix_rfl, fun e rest h => nomatch h⟩
      | succ frames =>
          refine (advances_primaryWith fun around => ?_).of_eq (primary_succ frames)
          exact ih (frames - around) (by omega)

/-! ## Frames

Between a primary and one that is nested in it there are the calls of an expression and a factor,
and besides them one for each climb and for a list of arguments, which take an operator or a name.
So no more than three frames are taken for each token. -/

/-- The readers refuse as too deeply nested no list of tokens that has three frames for each of
its tokens left besides the calls around it. -/
def NestsWithin (frames : Nat) (nested : Nat → Reader α) : Prop :=
  ∀ around ts, around + 3 * ts.length < frames → ¬ (nested around ts).TooDeep

theorem not_tooDeep_expect (kind : Kind) (ts : List Token) : ¬ (expect kind ts).TooDeep := by
  rintro ⟨left, h⟩
  cases ts with
  | nil => cases h
  | cons t rest =>
      rw [expect] at h
      split at h <;> cases h

theorem not_tooDeep_number (ts : List Token) : ¬ (number ts).TooDeep := by
  rw [number_eq]
  refine Reply.not_tooDeep_andThen (not_tooDeep_expect _ ts) fun token mid _ => ?_
  rintro ⟨left, h⟩
  unfold closeNumber at h
  split at h
  · cases h
  · split at h <;> cases h

theorem not_tooDeep_furtherMembers (ts : List Token) : ¬ (furtherMembers ts).TooDeep := by
  rintro ⟨left, hread⟩
  fun_induction furtherMembers ts generalizing left with
  | case4 period member rest _ _ refusal left' h ih =>
      cases hread
      exact ih left' h
  | _ => cases hread

theorem not_tooDeep_identifier (ts : List Token) : ¬ (identifier ts).TooDeep := by
  rw [identifier_eq]
  refine Reply.not_tooDeep_andThen (not_tooDeep_expect _ ts) fun first mid _ => ?_
  rw [Reply.map_eq_andThen]
  exact Reply.not_tooDeep_andThen (not_tooDeep_furtherMembers mid) fun _ _ _ =>
    Reply.not_tooDeep_ok _ _

theorem not_tooDeep_closeFactor (operand : Expr) (ts : List Token) :
    ¬ (closeFactor operand ts).TooDeep := by
  rintro ⟨left, hread⟩
  cases ts with
  | nil => cases hread
  | cons op rest =>
      rw [closeFactor] at hread
      split at hread
      · cases hread
      · split at hread <;> cases hread

theorem not_tooDeep_factorWith {primary : Reader Expr} {ts : List Token}
    (h : ¬ (primary ts).TooDeep) : ¬ (factorWith primary ts).TooDeep := by
  rw [factorWith_eq]
  exact Reply.not_tooDeep_andThen h fun operand mid _ => not_tooDeep_closeFactor operand mid

/-- The parenthesis that closes what was read. -/
theorem not_tooDeep_close (e : Expr) (ts : List Token) :
    ¬ ((expect .closeParen ts).map fun _ => e).TooDeep := by
  rw [Reply.map_eq_andThen]
  exact Reply.not_tooDeep_andThen (not_tooDeep_expect _ ts) fun _ _ _ => Reply.not_tooDeep_ok _ _

theorem not_tooDeep_climbAll {frames : Nat} {operand : Nat → Reader Expr}
    (advances : ∀ around, Advances (operand around)) (within : NestsWithin frames operand)
    (least around : Nat) (left : Expr) (ts : List Token) (h : around + 3 * ts.length ≤ frames) :
    ¬ (climbAll operand around left least ts).TooDeep := by
  -- on the number of tokens: a climb inside costs a frame, and the operator in front of it pays it
  induction hn : ts.length using Nat.strongRecOn generalizing ts left least around with
  | ind n ih =>
      cases ts with
      | nil => rw [climbAll_nil]; exact Reply.not_tooDeep_ok _ _
      | cons op rest =>
          cases hjoins : joins least op with
          | false => rw [climbAll_stops hjoins]; exact Reply.not_tooDeep_ok _ _
          | true =>
              simp only [List.length_cons] at h hn
              rw [climbAll_joins advances hjoins]
              refine Reply.not_tooDeep_andThen ?_ fun right mid hchain => ?_
              · refine Reply.not_tooDeep_andThen (within _ rest (by omega)) ?_
                intro right mid hright
                have shorter := (advances _ rest).2 right mid hright
                exact ih mid.length (by omega) _ _ right mid (by omega) rfl
              · have shorter := (advances_chain advances _ _ rest).2 right mid hchain
                exact ih mid.length (by omega) least around _ mid (by omega) rfl

theorem not_tooDeep_chain {frames : Nat} {operand : Nat → Reader Expr}
    (advances : ∀ around, Advances (operand around)) (within : NestsWithin frames operand)
    (least around : Nat) (ts : List Token) (h : around + 3 * ts.length < frames) :
    ¬ (chain operand around least ts).TooDeep := by
  refine Reply.not_tooDeep_andThen (within around ts h) fun left mid hread => ?_
  have shorter := (advances around ts).2 left mid hread
  exact not_tooDeep_climbAll advances within least (around + 1) left mid (by omega)

theorem not_tooDeep_expressionWith {frames : Nat} {nested : Nat → Reader Expr}
    (advances : ∀ around, Advances (nested around)) (within : NestsWithin frames nested)
    {ts : List Token} (h : 3 * ts.length + 2 < frames) : ¬ (expressionWith nested ts).TooDeep := by
  have factors : NestsWithin (frames - 1) fun around => factorWith (nested (around + 1)) :=
    fun around ts room => not_tooDeep_factorWith (within (around + 1) ts (by omega))
  rw [expressionWith_eq]
  exact not_tooDeep_chain (advances_operand advances) factors 1 1 ts (by omega)

section Arguments

variable {bound : Nat} {expression : Reader Expr}

theorem not_tooDeep_furtherAll (advances : Advances expression)
    (within : ∀ ts, ts.length < bound → ¬ (expression ts).TooDeep) (ts : List Token)
    (h : ts.length < bound) : ¬ (furtherAll expression ts).TooDeep := by
  induction hn : ts.length using Nat.strongRecOn generalizing ts with
  | ind n ih =>
      cases ts with
      | nil => rw [furtherAll_nil]; exact Reply.not_tooDeep_ok _ _
      | cons comma rest =>
          by_cases hcomma : comma.kind = .comma
          · simp only [List.length_cons] at h hn
            rw [furtherAll_comma advances hcomma]
            refine Reply.not_tooDeep_andThen (within rest (by omega)) fun argument mid hread => ?_
            have shorter := (advances rest).2 argument mid hread
            rw [Reply.map_eq_andThen]
            exact Reply.not_tooDeep_andThen (ih mid.length (by omega) mid (by omega) rfl)
              fun _ _ _ => Reply.not_tooDeep_ok _ _
          · rw [furtherAll_stops expression hcomma]
            exact Reply.not_tooDeep_ok _ _

theorem not_tooDeep_argumentsWith (advances : Advances expression)
    (within : ∀ ts, ts.length < bound → ¬ (expression ts).TooDeep) (ts : List Token)
    (h : ts.length < bound) : ¬ (argumentsWith expression ts).TooDeep := by
  rw [argumentsWith_eq]
  refine Reply.not_tooDeep_andThen (within ts h) fun argument mid hread => ?_
  have shorter := (advances ts).2 argument mid hread
  rw [Reply.map_eq_andThen]
  exact Reply.not_tooDeep_andThen (not_tooDeep_furtherAll advances within mid (by omega))
    fun _ _ _ => Reply.not_tooDeep_ok _ _

theorem not_tooDeep_closeName (advances : Advances expression)
    (within : ∀ ts, ts.length < bound → ¬ (expression ts).TooDeep) (name : Name)
    (ts : List Token) (h : ts.length ≤ bound) : ¬ (closeName expression name ts).TooDeep := by
  cases ts with
  | nil => exact Reply.not_tooDeep_ok _ _
  | cons next inner =>
      rw [closeName]
      split
      · rw [callWith_eq]
        refine Reply.not_tooDeep_andThen ?_ fun arguments mid _ => not_tooDeep_close _ mid
        split
        · exact Reply.not_tooDeep_ok _ _
        · exact not_tooDeep_argumentsWith advances within inner h
      · exact Reply.not_tooDeep_ok _ _

theorem not_tooDeep_closeGroup
    (within : ∀ ts, ts.length < bound → ¬ (expression ts).TooDeep) (ts : List Token)
    (h : ts.length < bound) : ¬ (closeGroup expression ts).TooDeep :=
  Reply.not_tooDeep_andThen (within ts h) fun e mid _ => not_tooDeep_close e mid

end Arguments

theorem not_tooDeep_primaryWith {frames : Nat} {nested : Nat → Reader Expr}
    (advances : ∀ around, Advances (nested around)) (within : NestsWithin frames nested)
    {ts : List Token} (h : 3 * ts.length < frames + 1) : ¬ (primaryWith nested ts).TooDeep := by
  cases ts with
  | nil => rintro ⟨left, h⟩; cases h
  | cons t rest =>
      rw [List.length_cons] at h
      cases hopens : opensPrimary t.kind with
      | false =>
          rw [primaryWith_refuses nested hopens]
          rintro ⟨left, h⟩
          cases h
      | true =>
          cases hk : t.kind <;> rw [hk] at hopens
          case number =>
            rw [primaryWith_number nested hk]
            exact not_tooDeep_number _
          case identifier =>
            -- the opening parenthesis of a call pays for the list of its arguments
            have arguments : NestsWithin (frames - 1) fun around => nested (around + 1) :=
              fun around ts room => within (around + 1) ts (by omega)
            have room : ∀ ts : List Token, ts.length < rest.length →
                ¬ (expressionWith (fun around => nested (around + 1)) ts).TooDeep := fun ts short =>
              not_tooDeep_expressionWith (fun around => advances (around + 1)) arguments (by omega)
            rw [primaryWith_identifier nested hk]
            refine Reply.not_tooDeep_andThen (not_tooDeep_identifier _) fun name mid hread => ?_
            have shorter := (advances_identifier (t :: rest)).2 name mid hread
            exact not_tooDeep_closeName (advances_argument advances) room name mid
              (Nat.le_of_lt_succ shorter)
          case openParen =>
            rw [primaryWith_openParen nested hk]
            refine not_tooDeep_closeGroup (fun ts short => ?_) rest (Nat.lt_succ_self _)
            exact not_tooDeep_expressionWith advances within (by omega)
          case minus =>
            rw [primaryWith_minus nested hk, Reply.map_eq_andThen]
            exact Reply.not_tooDeep_andThen (within 0 rest (by omega)) fun _ _ _ =>
              Reply.not_tooDeep_ok _ _
          case negate =>
            rw [primaryWith_negate nested hk, Reply.map_eq_andThen]
            exact Reply.not_tooDeep_andThen (within 0 rest (by omega)) fun _ _ _ =>
              Reply.not_tooDeep_ok _ _
          all_goals cases hopens

/-- Frames are not exhausted by tokens that have three of them each. -/
theorem not_tooDeep_primary (frames : Nat) (ts : List Token) (h : 3 * ts.length < frames) :
    ¬ (primary frames ts).TooDeep := by
  induction frames using Nat.strongRecOn generalizing ts with
  | ind frames ih =>
      cases frames with
      | zero => exact absurd h (Nat.not_lt_zero _)
      | succ frames =>
          rw [primary_succ]
          refine not_tooDeep_primaryWith (fun around => advances_primary _) ?_ h
          intro around ts room
          exact ih (frames - around) (by omega) ts (by omega)

theorem not_tooDeep_factor {frames : Nat} (ts : List Token) (h : 3 * ts.length + 1 < frames) :
    ¬ (factor frames ts).TooDeep :=
  not_tooDeep_factorWith (not_tooDeep_primary (frames - 1) ts (by omega))

theorem not_tooDeep_expression (frames : Nat) (ts : List Token) (h : 3 * ts.length + 2 < frames) :
    ¬ (expression frames ts).TooDeep :=
  not_tooDeep_expressionWith (fun around => advances_primary (frames - around))
    (fun around ts room => not_tooDeep_primary (frames - around) ts (by omega)) h

theorem not_tooDeep_whole (frames : Nat) (ts : List Token) (h : 3 * ts.length + 2 < frames) :
    ¬ (whole frames ts).TooDeep := by
  rintro ⟨left, hread⟩
  unfold whole at hread
  split at hread
  · rename_i refusal rest hexpression
    cases hread
    exact not_tooDeep_expression frames ts h ⟨_, hexpression⟩
  · cases hread
  · cases hread

end Reader

end Formula
