import Formula.Proofs.Comparison
import Formula.Proofs.Nesting
import Formula.Proofs.Parsing
set_option autoImplicit false

/-!
# Reading without a limit on frames

A reader within a number of frames gives the same reply as one with more of them, unless it gives up
because they do not suffice (`primary_agrees_of_le`).  A token takes three frames at most, so there
is a number of frames that suffices for any tokens, and the reader that has as many is the one that
counts no frames at all (`unlimited_iff`).

The main statement, `Expr.parse_limits_nesting`, compares the two on any tokens.  The limit shows
only in how deeply tokens are nested and not in how many they are.
-/

namespace Formula

open Grammar

/-! ## Replies that agree -/

namespace Reply

variable {α β : Type}

/-- The reply is the other one, unless it gives up because frames do not suffice. -/
def AgreesWith (r r' : Reply α) : Prop := r.TooDeep ∨ r = r'

theorem agreesWith_self (r : Reply α) : r.AgreesWith r := Or.inr rfl

theorem AgreesWith.eq {r r' : Reply α} (h : r.AgreesWith r') (room : ¬ r.TooDeep) : r = r' :=
  h.resolve_left room

theorem passes_agreesWith : Passes fun _ r r' => r.AgreesWith r' where
  self := agreesWith_self
  andThen {α β r r' next next'} h hnext := by
    rcases h with deep | rfl
    · exact Or.inl (deep.andThen next)
    · cases r with
      | ok x mid => exact hnext x mid rfl
      | fail refusal mid => exact agreesWith_self _

end Reply

namespace Reader

/-! ## Readers that agree -/

/-- The readers reply the same, except where the first one gives up. -/
def Agree {α : Type} (read read' : Reader α) : Prop := ∀ ts, (read ts).AgreesWith (read' ts)

section Operators

open Reply (passes_agreesWith)

variable {operand operand' : Nat → Reader Expr}

theorem climb_agree (advances : ∀ around, Advances (operand around))
    (h : ∀ around, Agree (operand around) (operand' around)) (count around : Nat) (left : Expr)
    (least : Nat) :
    Agree (climb operand count around left least) (climb operand' count around left least) :=
  fun ts => (climb_extend_compared passes_agreesWith advances (fun around ts _ => h around ts)
    count).1 around left least ts (Nat.le_refl _)

theorem factorWith_agree {primary primary' : Reader Expr} (h : Agree primary primary') :
    Agree (factorWith primary) (factorWith primary') := fun ts =>
  factorWith_compared passes_agreesWith (fun ts _ => h ts) ts (Nat.lt_succ_self _)

theorem expressionWith_agree (advances : ∀ around, Advances (operand around))
    (h : ∀ around, Agree (operand around) (operand' around)) :
    Agree (expressionWith operand) (expressionWith operand') := fun ts =>
  expressionWith_compared passes_agreesWith advances (fun around ts _ => h around ts) ts
    (Nat.lt_succ_self _)

/-- Primaries are read alike if what is nested in them is. -/
theorem primaryWith_agree (advances : ∀ around, Advances (operand around))
    (h : ∀ around, Agree (operand around) (operand' around)) :
    Agree (primaryWith operand) (primaryWith operand') := fun _ =>
  primaryWith_compared passes_agreesWith advances fun around ts _ => h around ts

end Operators

/-! ## More frames -/

/-- **More frames change nothing** but that they may suffice. -/
theorem primary_agrees_of_le {frames frames' : Nat} (h : frames ≤ frames') :
    Agree (primary frames) (primary frames') := by
  induction frames using Nat.strongRecOn generalizing frames' with
  | ind frames ih =>
      intro ts
      cases frames with
      | zero =>
          rw [primary_zero]
          exact Or.inl ⟨ts, rfl⟩
      | succ frames =>
          obtain ⟨more, rfl⟩ := Nat.exists_eq_add_of_le' (Nat.le_trans (Nat.succ_pos frames) h)
          rw [primary_succ, primary_succ]
          refine primaryWith_agree (fun around => advances_primary _) (fun around => ?_) ts
          exact ih (frames - around) (by omega) (by omega)

/-! ## No limit -/

/-- A primary within more frames than three for each token, which is as many as there can be use
for. -/
def unlimited : Reader Expr := fun ts => primary (3 * ts.length + 1) ts

theorem advances_unlimited : Advances unlimited := fun ts => advances_primary _ ts

theorem not_tooDeep_unlimited (ts : List Token) : ¬ (unlimited ts).TooDeep :=
  not_tooDeep_primary (3 * ts.length + 1) ts (Nat.lt_succ_self _)

/-- Any number of frames that suffices gives the reply that is given without a limit. -/
theorem primary_agrees_unlimited (frames : Nat) : Agree (primary frames) unlimited := by
  intro ts
  rcases Nat.le_total frames (3 * ts.length + 1) with h | h
  · exact primary_agrees_of_le h ts
  · exact Or.inr ((primary_agrees_of_le h ts).eq (not_tooDeep_unlimited ts)).symm

theorem unlimited_eq (ts : List Token) : unlimited ts = primaryWith (fun _ => unlimited) ts := by
  have hagree := primaryWith_agree (fun around => advances_primary _)
    (fun around => primary_agrees_unlimited (3 * ts.length - around)) ts
  rw [← primary_succ] at hagree
  exact hagree.eq (not_tooDeep_unlimited ts)

/-- **The reader that counts no frames** is nested in itself, whatever the calls around it, and there
is no other one that is. -/
theorem unlimited_iff {read : Reader Expr} :
    (∀ ts, read ts = primaryWith (fun _ => read) ts) ↔ read = unlimited := by
  constructor
  · intro h
    have hagree : ∀ frames, Agree (primary frames) read := by
      intro frames
      induction frames using Nat.strongRecOn with
      | ind frames ih =>
          intro ts
          cases frames with
          | zero =>
              rw [primary_zero]
              exact Or.inl ⟨ts, rfl⟩
          | succ frames =>
              rw [primary_succ, h]
              exact primaryWith_agree (fun around => advances_primary _)
                (fun around => ih (frames - around) (by omega)) ts
    funext ts
    exact ((hagree (3 * ts.length + 1) ts).eq (not_tooDeep_unlimited ts)).symm
  · rintro rfl
    exact unlimited_eq

/-- Behind a whole expression there is to be no token left. -/
def closeWhole (e : Expr) : Reader Expr
  | [] => .ok e []
  | t :: rest => .fail (.unexpected t) (t :: rest)

theorem whole_eq (frames : Nat) (ts : List Token) :
    whole frames ts = (expression frames ts).andThen closeWhole := by
  unfold whole
  cases expression frames ts with
  | ok e rest => cases rest <;> rfl
  | fail refusal rest => rfl

theorem not_tooDeep_closeWhole (e : Expr) (ts : List Token) : ¬ (closeWhole e ts).TooDeep := by
  rintro ⟨left, h⟩
  cases ts <;> cases h

/-- An expression that takes all the tokens, without a limit. -/
def wholeUnlimited : Reader Expr := fun ts =>
  (expressionWith (fun _ => unlimited) ts).andThen closeWhole

theorem whole_agrees_unlimited (frames : Nat) : Agree (whole frames) wholeUnlimited := by
  intro ts
  have hexpression := expressionWith_agree (fun around => advances_primary _)
    (fun around => primary_agrees_unlimited (frames - around)) ts
  rw [whole_eq]
  exact Reply.passes_agreesWith.andThen hexpression fun e mid _ => Reply.agreesWith_self _

/-! ## Too few frames -/

/-- Where a reader of expressions gives up, it has taken tokens that begin an expression, and the
levels that are open behind them use up its frames. -/
theorem opens_of_tooDeep {frames : Nat} {ts : List Token} (h : (whole frames ts).TooDeep) :
    ∃ front rest, ts = front ++ rest ∧ Viable (Phrase .sum) front ∧
      frames - 4 ≤ framesPerLevel * (Nesting.afterAll {} front).depth := by
  have hexpression : (expression frames ts).TooDeep := by
    refine Classical.byContradiction fun room => ?_
    rw [whole_eq] at h
    exact Reply.not_tooDeep_andThen room (fun e mid _ => not_tooDeep_closeWhole e mid) h
  obtain ⟨left, hread⟩ := hexpression
  obtain ⟨front, hfront, hlevels⟩ := exhausts_expression frames ts left hread
  obtain ⟨used, stuck, rfl, glance⟩ := glances_expression frames ts
  have met := glance.halts
  rw [hread] at met
  cases met with
  | tooDeep =>
      rw [List.append_cancel_right_eq] at hfront
      rw [← hfront] at hlevels
      exact ⟨used, left, rfl, (readsForm_expression frames).viable glance, hlevels⟩

/-- Does the token open a level and nothing else?  A minus does where an operand is missing. -/
def OpensLevel (t : Token) : Prop :=
  t.kind = .openParen ∨ t.kind = .minus ∨ t.kind = .negate

/-- What begins a factor is read by a primary in a chain. -/
theorem chain_tooDeep {operand : Nat → Reader Expr} {around least : Nat} {ts left : List Token}
    (h : operand around ts = .fail .tooDeep left) :
    chain operand around least ts = .fail .tooDeep left := by
  rw [chain, h]
  rfl

theorem expressionWith_tooDeep {nested : Nat → Reader Expr} {ts left : List Token}
    (h : nested 2 ts = .fail .tooDeep left) : expressionWith nested ts = .fail .tooDeep left := by
  rw [expressionWith_eq]
  refine chain_tooDeep ?_
  rw [factorWith_eq, h]
  rfl

/-- More tokens that open a level than there are frames are refused as nested too deeply, in front
of one of them. -/
theorem primary_tooDeep_of_opens {frames : Nat} {front : List Token}
    (opens : ∀ t ∈ front, OpensLevel t) (enough : frames < front.length) (rest : List Token) :
    ∃ t ∈ front, ∃ left, primary frames (front ++ rest) = .fail .tooDeep (t :: left) := by
  induction frames using Nat.strongRecOn generalizing front with
  | ind frames ih =>
      cases front with
      | nil => cases enough
      | cons t front =>
          cases frames with
          | zero => exact ⟨t, List.mem_cons_self, front ++ rest, primary_zero _⟩
          | succ frames =>
              have inner (around : Nat) := ih (frames - around) (by omega)
                (fun u hu => opens u (List.mem_cons_of_mem t hu))
                (Nat.lt_of_le_of_lt (Nat.sub_le frames around) (Nat.lt_of_succ_lt_succ enough))
              rw [List.cons_append, primary_succ]
              rcases opens t List.mem_cons_self with hk | hk | hk
              · obtain ⟨u, hu, left, hfail⟩ := inner 2
                refine ⟨u, List.mem_cons_of_mem t hu, left, ?_⟩
                rw [primaryWith_openParen _ hk, closeGroup, expressionWith_tooDeep hfail]
                rfl
              · obtain ⟨u, hu, left, hfail⟩ := inner 0
                exact ⟨u, List.mem_cons_of_mem t hu, left, by
                  rw [primaryWith_minus _ hk, hfail, Reply.map]⟩
              · obtain ⟨u, hu, left, hfail⟩ := inner 0
                exact ⟨u, List.mem_cons_of_mem t hu, left, by
                  rw [primaryWith_negate _ hk, hfail, Reply.map]⟩

theorem whole_tooDeep_of_opens {frames : Nat} {front : List Token}
    (opens : ∀ t ∈ front, OpensLevel t) (enough : frames < front.length) (rest : List Token) :
    ∃ t ∈ front, ∃ left, whole frames (front ++ rest) = .fail .tooDeep (t :: left) := by
  obtain ⟨t, ht, left, hfail⟩ := primary_tooDeep_of_opens opens
    (Nat.lt_of_le_of_lt (Nat.sub_le frames 2) enough) rest
  refine ⟨t, ht, left, ?_⟩
  rw [whole_eq, expression, expressionWith_tooDeep hfail]
  rfl

end Reader

/-! ## Parsing -/

open Text (Style)

namespace Expr

variable (style : Style) (source : String)

/-- What the reply to tokens, which are said to be those of `source`, comes to. -/
def ofReply : Reply Expr → Except Failure Expr
  | .ok e _ => .ok e
  | .fail refusal rest => .error (.ofWholeRefusal style source refusal rest)

/-- Reads tokens as an expression within so many frames. -/
def parseWithin (frames : Nat) (ts : List Token) : Except Failure Expr :=
  ofReply style source (Reader.whole frames ts)

theorem parse_eq (ts : List Token) :
    Expr.parse style source ts = parseWithin style source Reader.frameLimit ts := by
  rw [Expr.parse, ofTokens, parseWithin]
  cases Reader.whole Reader.frameLimit ts <;> rfl

/-- Reads tokens as an expression, however deeply they are nested. -/
def parseUnlimited (ts : List Token) : Except Failure Expr :=
  ofReply style source (Reader.wholeUnlimited ts)

/-- Only a reply that gave up says that an expression is nested too deeply. -/
theorem tooDeep_of_ofReply {r : Reply Expr} {what : String} {start : Int}
    (h : ofReply style source r = .error (.problem (.nestedTooDeeply style what source start))) :
    r.TooDeep := by
  cases r with
  | ok e rest => cases h
  | fail refusal rest =>
      have hfailure := Except.error.inj h
      cases refusal with
      | tooDeep => exact ⟨rest, rfl⟩
      | blankNumber => cases hfailure
      | expected what' =>
          have hcause := congrArg Problem.cause (Failure.problem.inj hfailure)
          cases hcause
      | unexpected t =>
          have hcause := congrArg Problem.cause (Failure.problem.inj hfailure)
          cases hcause

/-- The limit of a parser is one on nesting and not on length.  If no more than a hundred levels are
open behind any front of the tokens that begins an expression, then they are never said to be nested
too deeply, however many they are, and what they come to is what they come to without a limit.  Three
thousand tokens that each open a level are nested too deeply, whatever follows. -/
structure LimitsNesting (parse : List Token → Except Failure Expr) (ts : List Token) : Prop where
  shallow : (∀ front rest, ts = front ++ rest → Viable (Phrase .sum) front →
      (Nesting.afterAll {} front).depth ≤ 100) →
    parse ts = parseUnlimited style source ts ∧
      ∀ what start, parse ts ≠ .error (.problem (.nestedTooDeeply style what source start))
  deep : ∀ front rest, ts = front ++ rest → 3000 ≤ front.length →
    (∀ t ∈ front, t.kind = .openParen ∨ t.kind = .minus ∨ t.kind = .negate) →
      ∃ t ∈ front, parse ts =
        .error (.problem (.nestedTooDeeply style t.text source (max t.start 0)))

/-- Six frames for each of the hundred levels and four outside of them are enough. -/
theorem parseWithin_limitsNesting {frames : Nat} (enough : 604 < frames) (limited : frames < 3000)
    (ts : List Token) : LimitsNesting style source (parseWithin style source frames) ts where
  shallow shallow := by
    have room : ¬ (Reader.whole frames ts).TooDeep := by
      intro deep
      obtain ⟨front, rest, hsplit, viable, used⟩ := Reader.opens_of_tooDeep deep
      have few := shallow front rest hsplit viable
      unfold Reader.framesPerLevel at used
      omega
    refine ⟨?_, fun what start h => room (tooDeep_of_ofReply style source h)⟩
    rw [parseWithin, (Reader.whole_agrees_unlimited frames ts).eq room, parseUnlimited]
  deep := by
    rintro front rest rfl many opens
    obtain ⟨t, ht, left, hfail⟩ :=
      Reader.whole_tooDeep_of_opens opens (Nat.lt_of_lt_of_le limited many) rest
    refine ⟨t, ht, ?_⟩
    rw [parseWithin, hfail]
    rfl

/-- **The limit is one on nesting and not on length**, and so it is whatever number of frames is left
for reading, if it is no less than six for each of a hundred levels and five. -/
theorem parse_limits_nesting (ts : List Token) :
    LimitsNesting style source (Expr.parse style source) ts ∧
      ∀ frames, 604 < frames → frames ≤ Frames.limit →
        LimitsNesting style source (parseWithin style source frames) ts := by
  refine ⟨?_, fun frames enough limited => ?_⟩
  · have within := parseWithin_limitsNesting style source
      (show 604 < Reader.frameLimit by decide) (by decide) ts
    exact ⟨fun shallow => by rw [parse_eq]; exact within.shallow shallow,
      fun front rest hsplit many opens => by
        rw [parse_eq]; exact within.deep front rest hsplit many opens⟩
  · exact parseWithin_limitsNesting style source enough
      (Nat.lt_of_le_of_lt limited (by decide)) ts

/-- Exponents in an argument behind a sign, and a row of parentheses that nothing closes. -/
theorem parse_limits_nesting_rows :
    (∀ front rest, Token.ofText "-f(2^3^-x, 1) / 4^5" = front ++ rest →
      Viable (Phrase .sum) front → (Nesting.afterAll {} front).depth ≤ 100) ∧
    Expr.parse .plain "" (Token.ofText "-f(2^3^-x, 1) / 4^5") =
      parseUnlimited .plain "" (Token.ofText "-f(2^3^-x, 1) / 4^5") ∧
    Expr.parse .plain "" (List.replicate 3000 { kind := .openParen }) =
      .error (.problem (.nestedTooDeeply .plain "(" "" 0)) ∧
    parseWithin .plain "" 700 (List.replicate 3000 { kind := .openParen }) =
      .error (.problem (.nestedTooDeeply .plain "(" "" 0)) := by
  have shallow : ∀ front rest, Token.ofText "-f(2^3^-x, 1) / 4^5" = front ++ rest →
      Viable (Phrase .sum) front → (Nesting.afterAll {} front).depth ≤ 100 := by
    intro front rest hsplit _
    have all : ∀ k ≤ (Token.ofText "-f(2^3^-x, 1) / 4^5").length,
        (Nesting.afterAll {} ((Token.ofText "-f(2^3^-x, 1) / 4^5").take k)).depth ≤ 100 := by
      decide +kernel
    have hfront : (Token.ofText "-f(2^3^-x, 1) / 4^5").take front.length = front := by
      rw [hsplit, List.take_left]
    have hlength : front.length ≤ (Token.ofText "-f(2^3^-x, 1) / 4^5").length := by
      rw [hsplit, List.length_append]
      exact Nat.le_add_right _ _
    rw [← hfront]
    exact all front.length hlength
  have many : 3000 ≤ (List.replicate 3000 ({ kind := .openParen } : Token)).length :=
    Nat.le_of_eq List.length_replicate.symm
  have row : ∀ t ∈ List.replicate 3000 ({ kind := .openParen } : Token),
      t = { kind := .openParen } := fun t ht => (List.mem_replicate.1 ht).2
  have opens : ∀ t ∈ List.replicate 3000 ({ kind := .openParen } : Token),
      t.kind = .openParen ∨ t.kind = .minus ∨ t.kind = .negate :=
    fun t ht => Or.inl (by rw [row t ht])
  have rows := parse_limits_nesting .plain "" (List.replicate 3000 { kind := .openParen })
  obtain ⟨t, ht, refused⟩ := rows.1.deep _ [] (List.append_nil _).symm many opens
  obtain ⟨t', ht', refused'⟩ :=
    (rows.2 700 (by decide) (by decide)).deep _ [] (List.append_nil _).symm many opens
  rw [row t ht] at refused
  rw [row t' ht'] at refused'
  exact ⟨shallow, ((parse_limits_nesting .plain "" _).1.shallow shallow).1, refused, refused'⟩

end Expr

end Formula
