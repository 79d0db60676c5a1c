import Formula.Proofs.Soundness
set_option autoImplicit false

/-!
# How deeply tokens are nested

What is open behind some tokens can be said without reading them: the parentheses that are not yet
closed, and between each two of them the signs whose operand may still go on and the exponents
around what comes next.  A phrase leaves nothing open that was not open in front of it
(`Phrase.completes`), so a long list of operands is not nested more deeply than each of them.

A reader spends frames on what is open.  Between two parentheses there are the calls of an
expression, of a factor and of two climbs at most, for sums and for products; an exponent around
what comes next is one more climb, a sign one more primary, and a parenthesis a primary too and
perhaps a list of arguments.  So six frames are enough for each level, and where a reader gives up
there are as many levels open as use up the frames that it had (`Reader.exhausts_expression`), no
matter how many tokens it took.
-/

namespace Formula

open Grammar

/-! ## What is open -/

/-- What is open between two parentheses, or outside of all: the signs whose operand may still go
on, and the exponents that what comes next is a right operand of. -/
structure Ply where
  signs : Nat := 0
  exponents : Nat := 0
  deriving DecidableEq, Repr, Inhabited

/-- How many levels are open. -/
def Ply.depth (ply : Ply) : Nat := ply.signs + ply.exponents

/-- How many levels are open around parentheses inside one another, each of them one level more. -/
def Ply.depthOfAll : List Ply → Nat
  | [] => 0
  | ply :: outer => ply.depth + 1 + depthOfAll outer

/-- What is open behind some tokens. -/
structure Nesting where
  /-- What is open inside the innermost parentheses. -/
  ply : Ply := {}
  /-- What is open around each open parenthesis, from the innermost on. -/
  outer : List Ply := []
  /-- Has an operand ended, so that a minus is one of a difference? -/
  complete : Bool := false
  deriving DecidableEq, Repr, Inhabited

namespace Nesting

/-- How many levels are open outside of the innermost parentheses, these included. -/
def enclosing (n : Nesting) : Nat := Ply.depthOfAll n.outer

/-- How many levels are open. -/
def depth (n : Nesting) : Nat := n.enclosing + n.ply.depth

/-- A new operand begins, with the given number of exponents around it. -/
def operand (n : Nesting) (exponents : Nat) : Nesting :=
  { n with ply := { exponents }, complete := false }

/-- An operand goes on behind one more sign. -/
def sign (n : Nesting) : Nesting :=
  { n with ply := { n.ply with signs := n.ply.signs + 1 }, complete := false }

/-- An operand has ended, and so have those of the signs in front of it. -/
def ended (n : Nesting) : Nesting :=
  { n with ply := { n.ply with signs := 0 }, complete := true }

/-- What is open behind one more token.  Behind a name the operand may have ended or not, for it may
be the name of a call. -/
def after (n : Nesting) (t : Token) : Nesting :=
  match t.kind with
  | .number | .factorial => n.ended
  | .identifier => { n with complete := true }
  | .openParen => { ply := {}, outer := n.ply :: n.outer, complete := false }
  | .closeParen =>
      match n.outer with
      | [] => n.ended
      | ply :: outer => ended { ply, outer }
  | .negate => n.sign
  | .minus => if n.complete then n.operand 0 else n.sign
  | .plus | .multiply | .divide | .comma => n.operand 0
  | .exponent => n.operand (n.ply.exponents + 1)
  | .period | .invalid => n

/-- What is open behind more tokens. -/
def afterAll (n : Nesting) (ts : List Token) : Nesting := ts.foldl after n

@[simp] theorem afterAll_nil (n : Nesting) : n.afterAll [] = n := rfl

@[simp] theorem afterAll_cons (n : Nesting) (t : Token) (ts : List Token) :
    n.afterAll (t :: ts) = (n.after t).afterAll ts := rfl

@[simp] theorem afterAll_append (n : Nesting) (ts us : List Token) :
    n.afterAll (ts ++ us) = (n.afterAll ts).afterAll us := List.foldl_append

theorem enclosing_congr {n m : Nesting} (h : m.outer = n.outer) : m.enclosing = n.enclosing := by
  rw [enclosing, enclosing, h]

/-- How many exponents there are around the right operand of an operator, with so many around the
operator itself. -/
def exponentsInside (op : Token) (exponents : Nat) : Nat :=
  if op.kind = .exponent then exponents + 1 else 0

/-- Only for an exponent it matters how many there are around it. -/
theorem exponentsInside_congr {op : Token} {exponents exponents' : Nat}
    (h : op.kind = .exponent → exponents = exponents') :
    exponentsInside op exponents = exponentsInside op exponents' := by
  unfold exponentsInside
  split
  · next hop => rw [h hop]
  · rfl

/-! ## Single tokens -/

section Tokens

variable {n : Nesting} {t : Token}

theorem after_number (h : t.kind = .number) : n.after t = n.ended := by
  rw [after, h]

theorem after_identifier (h : t.kind = .identifier) : n.after t = { n with complete := true } := by
  rw [after, h]

theorem after_period (h : t.kind = .period) : n.after t = n := by
  rw [after, h]

theorem after_factorial (h : t.kind = .factorial) : n.after t = n.ended := by
  rw [after, h]

theorem after_comma (h : t.kind = .comma) : n.after t = n.operand 0 := by
  rw [after, h]

theorem after_openParen (h : t.kind = .openParen) :
    n.after t = { ply := {}, outer := n.ply :: n.outer, complete := false } := by
  rw [after, h]

theorem after_closeParen (h : t.kind = .closeParen) {ply : Ply} {outer : List Ply}
    (houter : n.outer = ply :: outer) : n.after t = ended { ply, outer } := by
  rw [after, h]
  simp only [houter]

/-- Where an operand is missing, a minus is a sign as well. -/
theorem after_sign (h : t.kind = .minus ∨ t.kind = .negate) (hn : n.complete = false) :
    n.after t = n.sign := by
  rcases h with h | h
  · rw [after, h]
    exact if_neg (by rw [hn]; decide)
  · rw [after, h]

/-- Behind an operand, an operator of two operands begins the second one. -/
theorem after_binary (h : t.kind.isBinary = true) (hn : n.complete = true) :
    n.after t = n.operand (exponentsInside t n.ply.exponents) := by
  rw [after, exponentsInside]
  rcases Kind.binary_cases h with h | h | h | h | h <;> rw [h]
  case inr.inl => exact if_pos hn
  all_goals rfl

/-- A parenthesis encloses what was open in front of it, and is a level itself. -/
theorem enclosing_openParen (h : t.kind = .openParen) : (n.after t).enclosing = n.depth + 1 := by
  rw [after_openParen h, enclosing, Ply.depthOfAll, depth, enclosing]
  omega

theorem depth_sign (n : Nesting) : n.sign.depth = n.depth + 1 := by
  have henclosing : n.sign.enclosing = n.enclosing := rfl
  rw [depth, depth, henclosing]
  simp only [Ply.depth, sign]
  omega

end Tokens

/-! ## Phrases -/

/-- One operand has ended in between; if it was no chain of operands, then the exponents around it
are still open. -/
structure Completes (q : Nonterminal) (n m : Nesting) : Prop where
  outer : m.outer = n.outer
  complete : m.complete = true
  exponents : Nonterminal.factor.rank ≤ q.rank → m.ply.exponents = n.ply.exponents

/-- A phrase of another kind says less if it is bound less tightly. -/
theorem Completes.loosen {p q : Nonterminal} {n m : Nesting} (h : Completes p n m)
    (le : q.rank ≤ p.rank) : Completes q n m :=
  ⟨h.outer, h.complete, fun hq => h.exponents (Nat.le_trans hq le)⟩

/-- It does not matter whether signs stood in front of the operand. -/
theorem Completes.behind {q : Nonterminal} {n n' m : Nesting} (h : Completes q n' m)
    (outer : n'.outer = n.outer) (exponents : n'.ply.exponents = n.ply.exponents) :
    Completes q n m :=
  ⟨h.outer.trans outer, h.complete, fun hq => (h.exponents hq).trans exponents⟩

theorem Completes.ended {q : Nonterminal} {n m : Nesting} (h : Completes q n m) :
    Completes q n m.ended :=
  ⟨h.outer, rfl, h.exponents⟩

theorem completes_complete (q : Nonterminal) (n : Nesting) :
    Completes q n { n with complete := true } :=
  ⟨rfl, rfl, fun _ => rfl⟩

end Nesting

namespace Grammar

open Nesting

theorem Members.nesting {ts members : List Token} (h : Members ts members) {n : Nesting}
    (hn : n.complete = true) : n.afterAll ts = n := by
  induction h with
  | none => rfl
  | more hperiod hmember _ ih =>
      rw [afterAll_cons, afterAll_cons, after_period hperiod, after_identifier hmember, ← hn]
      exact ih

theorem Identifier.nesting {ts : List Token} {name : Name} (h : Identifier ts name) (n : Nesting) :
    n.afterAll ts = { n with complete := true } := by
  obtain ⟨hfirst, further⟩ := h
  rw [afterAll_cons, after_identifier hfirst]
  exact further.nesting rfl

/-- What stands between parentheses leaves nothing open behind them. -/
theorem completes_group {opening closing : Token} {ts : List Token}
    (hopening : opening.kind = .openParen) (hclosing : closing.kind = .closeParen) {n : Nesting}
    (inner : ((n.after opening).afterAll ts).outer = (n.after opening).outer) :
    Completes .primary n (n.afterAll (opening :: ts ++ [closing])) := by
  have houter : ((n.after opening).afterAll ts).outer = n.ply :: n.outer := by
    rw [inner, after_openParen hopening]
  rw [List.cons_append, afterAll_cons, afterAll_append, afterAll_cons, afterAll_nil,
    after_closeParen hclosing houter]
  exact (completes_complete .primary n).ended

/-- The right operand of an operator ends what its left operand began. -/
theorem completes_binary {op : Token} {p q r : Nonterminal} {as bs : List Token} {n : Nesting}
    (hop : op.kind.isBinary = true) (lhs : Completes p n (n.afterAll as))
    (rhs : ∀ m : Nesting, m.complete = false → Completes q m (m.afterAll bs))
    (hr : r.rank < Nonterminal.factor.rank) : Completes r n (n.afterAll (as ++ op :: bs)) := by
  have hafter := after_binary hop lhs.complete
  have ended := rhs ((n.afterAll as).after op) (by rw [hafter]; rfl)
  rw [afterAll_append, afterAll_cons]
  refine ⟨?_, ended.complete, fun h => absurd h (Nat.not_le.2 hr)⟩
  rw [ended.outer, hafter]
  exact lhs.outer

mutual

/-- **A phrase leaves nothing open** that was not open in front of it. -/
theorem Phrase.completes {q : Nonterminal} {ts : List Token} {e : Expr} :
    Phrase q ts e → ∀ n : Nesting, n.complete = false → Completes q n (n.afterAll ts)
  | .addition lhs hop rhs, n, hn =>
      completes_binary (by rcases hop with hop | hop <;> rw [hop] <;> rfl) (lhs.completes n hn)
        rhs.completes (by decide)
  | .multiplication lhs hop rhs, n, hn =>
      completes_binary (by rcases hop with hop | hop <;> rw [hop] <;> rfl) (lhs.completes n hn)
        rhs.completes (by decide)
  | .exponentiation lhs hop rhs, n, hn =>
      completes_binary (by rw [hop]; rfl) (lhs.completes n hn) rhs.completes (by decide)
  | .ofProduct h, n, hn => (h.completes n hn).loosen (by decide)
  | .ofPower h, n, hn => (h.completes n hn).loosen (by decide)
  | .ofFactor h, n, hn => (h.completes n hn).loosen (by decide)
  | .ofPrimary h, n, hn => (h.completes n hn).loosen (by decide)
  | .factorial h hop, n, hn => by
      rw [afterAll_append, afterAll_cons, after_factorial hop]
      exact ((h.completes n hn).loosen (by decide)).ended
  | .number hkind _ _, n, _ => by
      rw [afterAll_cons, after_number hkind]
      exact (completes_complete _ n).ended
  | .name h, n, _ => by
      rw [h.nesting]
      exact completes_complete _ n
  | .emptyCall h hopening hclosing, n, _ => by
      rw [afterAll_append, h.nesting]
      exact (@completes_group _ _ [] hopening hclosing _ rfl).behind rfl rfl
  | .call h hopening inner hclosing, n, _ => by
      rw [List.append_assoc, afterAll_append, h.nesting]
      refine (completes_group hopening hclosing ?_).behind rfl rfl
      exact (inner.completes _ (by rw [after_openParen hopening])).1
  | .group hopening inner hclosing, n, _ => by
      refine completes_group hopening hclosing ?_
      exact (inner.completes _ (by rw [after_openParen hopening])).outer
  | .minus hop h, n, hn => by
      rw [afterAll_cons, after_sign (Or.inl hop) hn]
      exact (h.completes n.sign rfl).behind rfl rfl
  | .negation hop h, n, hn => by
      rw [afterAll_cons, after_sign (Or.inr hop) hn]
      exact (h.completes n.sign rfl).behind rfl rfl

theorem Arguments.completes {ts : List Token} {es : List Expr} :
    Arguments ts es → ∀ n : Nesting, n.complete = false →
      (n.afterAll ts).outer = n.outer ∧ (n.afterAll ts).complete = true
  | .one h, n, hn => ⟨(h.completes n hn).outer, (h.completes n hn).complete⟩
  | .more h hcomma others, n, hn => by
      rw [afterAll_append, afterAll_cons, after_comma hcomma]
      exact ⟨(others.completes _ rfl).1.trans (h.completes n hn).outer, (others.completes _ rfl).2⟩

end

/-- Behind `f(2^3^-(` five levels are open, and behind the whole call there is none. -/
example :
    let ts := ([.identifier, .openParen, .number, .exponent, .number, .exponent, .minus, .openParen,
      .number, .closeParen, .closeParen] : List Kind).map fun kind => ({ kind } : Token)
    (afterAll {} (ts.take 8)).depth = 5 ∧ (afterAll {} ts).depth = 0 := by
  decide

end Grammar

/-! ## Giving up -/

/-- How many frames a level takes at most: a primary, a list of arguments, an expression, a factor
and two climbs for a parenthesis, and one of them for a sign or an exponent. -/
def Reader.framesPerLevel : Nat := 6

/-- No operator binds tighter than the exponent. -/
theorem Kind.rightThreshold_le {kind : Kind} (h : kind.isBinary = true) :
    kind.rightThreshold ≤ Kind.exponent.precedence := by
  rcases Kind.binary_cases h with rfl | rfl | rfl | rfl | rfl <;> decide

/-- The other operators bind less tightly and leave their own precedence to the left. -/
theorem Kind.rightThreshold_of_ne_exponent {kind : Kind} (h : kind.isBinary = true)
    (hne : kind ≠ .exponent) :
    kind.precedence < 3 ∧ kind.rightThreshold = kind.precedence + 1 := by
  rcases Kind.binary_cases h with rfl | rfl | rfl | rfl | rfl
  case inr.inr.inr.inr => exact absurd rfl hne
  all_goals decide

namespace Reply

variable {α β : Type} {bound : Nat} {n : Nesting}

/-- If the reply to the tokens is that frames do not suffice, then the levels that are open behind
those of them that were taken use up at least `bound` frames. -/
def Exhausts (bound : Nat) (n : Nesting) (ts : List Token) (r : Reply α) : Prop :=
  ∀ left, r = .fail .tooDeep left →
    ∃ used, ts = used ++ left ∧ bound ≤ Reader.framesPerLevel * (n.afterAll used).depth

theorem exhausts_of_not_tooDeep {r : Reply α} {ts : List Token} (h : ¬ r.TooDeep) :
    r.Exhausts bound n ts :=
  fun left hread => absurd ⟨left, hread⟩ h

theorem exhausts_ok (x : α) (mid ts : List Token) : (Reply.ok x mid).Exhausts bound n ts :=
  exhausts_of_not_tooDeep (not_tooDeep_ok x mid)

theorem Exhausts.behind {r : Reply α} {t : Token} {ts : List Token}
    (h : r.Exhausts bound (n.after t) ts) : r.Exhausts bound n (t :: ts) := by
  intro left hread
  obtain ⟨used, rfl, hbound⟩ := h left hread
  exact ⟨t :: used, rfl, hbound⟩

/-- What the first reader took stands in front of what the second one takes. -/
theorem Exhausts.andThen {r : Reply α} {next : α → Reader β} {ts : List Token}
    (h : r.Exhausts bound n ts)
    (hnext : ∀ x mid, r = .ok x mid →
      ∃ used, ts = used ++ mid ∧ (next x mid).Exhausts bound (n.afterAll used) mid) :
    (r.andThen next).Exhausts bound n ts := by
  intro left hread
  cases r with
  | fail refusal rest =>
      cases hread
      exact h left rfl
  | ok x mid =>
      obtain ⟨used, rfl, hexhausts⟩ := hnext x mid rfl
      obtain ⟨more, rfl, hbound⟩ := hexhausts left hread
      refine ⟨used ++ more, (List.append_assoc used more left).symm, ?_⟩
      rw [Nesting.afterAll_append]
      exact hbound

/-- Nothing is left to give up where the second reader reads no expression. -/
theorem Exhausts.close {r : Reply α} {next : α → Reader β} {ts : List Token}
    (h : r.Exhausts bound n ts) (hnext : ∀ x mid, ¬ (next x mid).TooDeep) :
    (r.andThen next).Exhausts bound n ts := by
  intro left hread
  cases r with
  | fail refusal rest =>
      cases hread
      exact h left rfl
  | ok x mid => exact absurd ⟨left, hread⟩ (hnext x mid)

theorem Exhausts.map {r : Reply α} {ts : List Token} (h : r.Exhausts bound n ts) (f : α → β) :
    (r.map f).Exhausts bound n ts := by
  rw [map_eq_andThen]
  exact h.close fun _ _ => not_tooDeep_ok _ _

end Reply

namespace Reader

open Nesting

variable {frames bound : Nat}

/-- Where one of the readers gives up, the levels that have been opened use up the frames that it had
left besides those that were `spent` and those of the calls that it is told of. -/
def UsesUp (spent frames : Nat) (nested : Nat → Reader Expr) : Prop :=
  ∀ ⦃around bound : Nat⦄ ⦃n : Nesting⦄ ⦃ts : List Token⦄, n.complete = false →
    bound + (spent + around) ≤ frames + framesPerLevel * n.depth →
      (nested around ts).Exhausts bound n ts

/-- The same for a reader of expressions, in front of which nothing is open inside the innermost
parentheses. -/
def ExpressionUsesUp (spent frames : Nat) (expression : Reader Expr) : Prop :=
  ∀ ⦃bound : Nat⦄ ⦃n : Nesting⦄ ⦃ts : List Token⦄, n.complete = false → n.ply = {} →
    bound + spent ≤ frames + framesPerLevel * n.enclosing → (expression ts).Exhausts bound n ts

section Climbs

variable {spent : Nat} {operand : Nat → Reader Expr}

/-- Where a climb may be called: exponents are around it only if it joins nothing else, and the calls
up to it are an expression, a climb for each weaker precedence and one for each of the exponents. -/
structure MayClimb (exponents least around : Nat) : Prop where
  only : exponents = 0 ∨ 3 ≤ least
  calls : around ≤ least + 1 + exponents

/-- Around the operand behind an operator that is joined there are no more than two climbs besides
those for exponents, and the climb behind that operand may be called. -/
theorem MayClimb.inside {exponents least around : Nat} (h : MayClimb exponents least around)
    {op : Token} (hjoins : joins least op = true) :
    around ≤ 3 + exponentsInside op exponents ∧
      MayClimb (exponentsInside op exponents) op.kind.rightThreshold (around + 1) := by
  obtain ⟨only, calls⟩ := h
  obtain ⟨hbinary, hprecedence⟩ := joins_iff.1 hjoins
  rw [exponentsInside]
  by_cases hop : op.kind = .exponent
  · have threshold : op.kind.rightThreshold = 3 := by rw [hop]; rfl
    have precedence : op.kind.precedence = 3 := by rw [hop]; rfl
    rw [if_pos hop, threshold]
    exact ⟨by omega, Or.inr (Nat.le_refl 3), by omega⟩
  · -- other operators are joined only where no exponent is open
    obtain ⟨loose, threshold⟩ := Kind.rightThreshold_of_ne_exponent hbinary hop
    rw [if_neg hop, threshold]
    exact ⟨by omega, Or.inl rfl, by omega⟩

/-- A chain uses up frames as the climb behind its first operand does. -/
theorem exhausts_chain_of_climb (sound : ∀ around, Sound (Phrase .factor) (operand around))
    (advances : ∀ around, Advances (operand around)) (usesUp : UsesUp spent frames operand)
    {around least exponents : Nat} {ts : List Token} {n : Nesting} (hn : n.complete = false)
    (hply : n.ply = { exponents }) (few : around ≤ 3 + exponents)
    (room : bound + (spent + 3) ≤ frames + framesPerLevel * n.enclosing)
    (climb : ∀ left mid (m : Nesting), mid.length < ts.length → m.complete = true →
      m.enclosing = n.enclosing → m.ply.exponents = exponents →
      (climbAll operand (around + 1) left least mid).Exhausts bound m mid) :
    (chain operand around least ts).Exhausts bound n ts := by
  have hdepth : n.depth = n.enclosing + exponents := by rw [depth, hply, Ply.depth, Nat.zero_add]
  have enough : bound + (spent + around) ≤ frames + framesPerLevel * n.depth := by
    rw [hdepth]
    unfold framesPerLevel at room ⊢
    omega
  refine (usesUp hn enough).andThen fun left mid hread => ?_
  obtain ⟨used, rfl, hfactor⟩ := sound around ts left mid hread
  have ended := hfactor.completes n hn
  refine ⟨used, rfl, climb left mid (n.afterAll used) ((advances around _).2 left mid hread)
    ended.complete (enclosing_congr ended.outer) ?_⟩
  rw [ended.exponents (Nat.le_refl _), hply]

/-- A climb keeps no frames: each operand has as many as the one before it. -/
theorem exhausts_climbAll (sound : ∀ around, Sound (Phrase .factor) (operand around))
    (advances : ∀ around, Advances (operand around)) (usesUp : UsesUp spent frames operand)
    {least around exponents : Nat} {left : Expr} {ts : List Token} {n : Nesting}
    (hn : n.complete = true)
    (room : bound + (spent + 3) ≤ frames + framesPerLevel * n.enclosing)
    (may : MayClimb exponents least around)
    (hexponents : ∀ op ∈ ts.head?, op.kind = .exponent → n.ply.exponents = exponents) :
    (climbAll operand around left least ts).Exhausts bound n ts := by
  -- on the number of tokens: the right operand and the rest of the climb are both shorter
  induction hlength : ts.length using Nat.strongRecOn
    generalizing ts left least around exponents n with
  | ind length ih =>
      cases ts with
      | nil =>
          rw [climbAll_nil]
          exact Reply.exhausts_ok _ _ _
      | cons op ts =>
          cases hjoins : joins least op with
          | false =>
              rw [climbAll_stops hjoins]
              exact Reply.exhausts_ok _ _ _
          | true =>
              have hbinary := (joins_iff.1 hjoins).1
              obtain ⟨few, inside⟩ := may.inside hjoins
              have hafter : n.after op = n.operand (exponentsInside op exponents) := by
                rw [after_binary hbinary hn, exponentsInside_congr (hexponents op rfl)]
              rw [List.length_cons] at hlength
              rw [climbAll_joins advances hjoins]
              refine Reply.Exhausts.behind ?_
              rw [hafter]
              refine Reply.Exhausts.andThen ?_ fun right mid hchain => ?_
              · refine exhausts_chain_of_climb sound advances usesUp rfl rfl few room ?_
                intro right mid m shorter hm henclosing hply
                exact ih mid.length (by omega) hm (by rw [henclosing]; exact room) inside
                  (fun _ _ _ => hply) rfl
              · have shorter := (advances_chain advances _ _ ts).2 right mid hchain
                obtain ⟨used, rfl, hphrase, stopped⟩ := chain_phrase advances sound hchain
                  (rank_rightOf hbinary) (rank_rightOf_le op.kind)
                have ended := hphrase.completes (n.operand (exponentsInside op exponents)) rfl
                have henclosing := enclosing_congr ended.outer
                refine ⟨used, rfl, ih mid.length (by omega) ended.complete
                  (by rw [henclosing]; exact room) may (fun next hnext hexponent => ?_) rfl⟩
                -- an exponent would belong to the right operand
                have joined : joins op.kind.rightThreshold next = true := by
                  rw [joins_iff, hexponent]
                  exact ⟨rfl, Kind.rightThreshold_le hbinary⟩
                rw [stopped next hnext] at joined
                cases joined

end Climbs

section Nested

variable {spent : Nat} {nested : Nat → Reader Expr} {expression : Reader Expr}

/-- A call in between takes a frame. -/
theorem UsesUp.inside (usesUp : UsesUp spent frames nested) :
    UsesUp (spent + 1) frames fun around => nested (around + 1) :=
  fun _ _ _ _ hn room => usesUp hn (by omega)

theorem usesUp_factorWith (usesUp : UsesUp spent frames nested) :
    UsesUp spent frames fun around => factorWith (nested around) := by
  intro around bound n ts hn room
  dsimp only
  rw [factorWith_eq]
  exact (usesUp hn room).close not_tooDeep_closeFactor

/-- Four frames are spent on the expression itself, a factor and two climbs. -/
theorem usesUp_expressionWith (sound : ∀ around, Sound (Phrase .primary) (nested around))
    (advances : ∀ around, Advances (nested around)) (usesUp : UsesUp spent frames nested) :
    ExpressionUsesUp (spent + 4) frames (expressionWith nested) := by
  intro bound n ts hn hply room
  have factor_sound := fun around => factorWith_sound (sound (around + 1))
  have factor_advances := advances_operand advances
  have factor_usesUp := usesUp_factorWith usesUp.inside
  have room_climb : bound + (spent + 1 + 3) ≤ frames + framesPerLevel * n.enclosing := room
  rw [expressionWith_eq]
  refine exhausts_chain_of_climb factor_sound factor_advances factor_usesUp hn hply
    (by omega) room_climb fun left mid m _ hm henclosing hexponents => ?_
  exact exhausts_climbAll factor_sound factor_advances factor_usesUp hm
    (by rw [henclosing]; exact room_climb) ⟨Or.inl rfl, Nat.le_refl 2⟩ fun _ _ _ => hexponents

/-! ## Arguments and primaries -/

theorem exhausts_furtherAll (sound : Sound (Phrase .sum) expression)
    (advances : Advances expression) (usesUp : ExpressionUsesUp spent frames expression)
    {ts : List Token} {n : Nesting}
    (room : bound + spent ≤ frames + framesPerLevel * n.enclosing) :
    (furtherAll expression ts).Exhausts bound n ts := by
  induction hlength : ts.length using Nat.strongRecOn generalizing ts n with
  | ind length ih =>
      cases ts with
      | nil =>
          rw [furtherAll_nil]
          exact Reply.exhausts_ok _ _ _
      | cons comma ts =>
          by_cases hcomma : comma.kind = .comma
          · rw [furtherAll_comma advances hcomma]
            refine Reply.Exhausts.behind ?_
            rw [after_comma hcomma]
            have room_argument : bound + spent ≤ frames + framesPerLevel * (n.operand 0).enclosing :=
              room
            refine (usesUp rfl rfl room_argument).andThen fun argument mid hread => ?_
            have shorter := (advances ts).2 argument mid hread
            obtain ⟨used, rfl, hphrase⟩ := sound ts argument mid hread
            have henclosing := enclosing_congr (hphrase.completes (n.operand 0) rfl).outer
            rw [List.length_cons] at hlength
            exact ⟨used, rfl,
              (ih mid.length (by omega) (by rw [henclosing]; exact room) rfl).map _⟩
          · rw [furtherAll_stops expression hcomma]
            exact Reply.exhausts_ok _ _ _

theorem exhausts_argumentsWith (sound : Sound (Phrase .sum) expression)
    (advances : Advances expression) (usesUp : ExpressionUsesUp spent frames expression)
    {ts : List Token} {n : Nesting} (hn : n.complete = false) (hply : n.ply = {})
    (room : bound + spent ≤ frames + framesPerLevel * n.enclosing) :
    (argumentsWith expression ts).Exhausts bound n ts := by
  rw [argumentsWith_eq]
  refine (usesUp hn hply room).andThen fun argument mid hread => ?_
  obtain ⟨used, rfl, hphrase⟩ := sound ts argument mid hread
  have henclosing := enclosing_congr (hphrase.completes n hn).outer
  exact ⟨used, rfl,
    (exhausts_furtherAll sound advances usesUp (by rw [henclosing]; exact room)).map _⟩

/-- Behind an opening parenthesis a primary has taken a frame, and there is one level more for it and
for up to five calls. -/
theorem room_openParen {opening : Token} (h : opening.kind = .openParen) {n : Nesting}
    (few : spent ≤ 5) (room : bound ≤ frames + 1 + framesPerLevel * n.depth) :
    bound + spent ≤ frames + framesPerLevel * (n.after opening).enclosing := by
  rw [enclosing_openParen h]
  unfold framesPerLevel at room ⊢
  omega

theorem exhausts_closeName (sound : Sound (Phrase .sum) expression)
    (advances : Advances expression) (usesUp : ExpressionUsesUp spent frames expression)
    (few : spent ≤ 5) (name : Name) {ts : List Token} {n : Nesting}
    (room : bound ≤ frames + 1 + framesPerLevel * n.depth) :
    (closeName expression name ts).Exhausts bound n ts := by
  cases ts with
  | nil => exact Reply.exhausts_ok _ _ _
  | cons opening ts =>
      by_cases hopening : opening.kind = .openParen
      · rw [closeName_openParen expression name hopening, callWith_eq]
        refine Reply.Exhausts.close ?_ fun arguments mid => not_tooDeep_close _ mid
        split
        · exact Reply.exhausts_ok _ _ _
        · refine (exhausts_argumentsWith sound advances usesUp ?_ ?_
            (room_openParen hopening few room)).behind
          · rw [after_openParen hopening]
          · rw [after_openParen hopening]
      · rw [closeName, if_neg hopening]
        exact Reply.exhausts_ok _ _ _

theorem exhausts_closeGroup (usesUp : ExpressionUsesUp spent frames expression) (few : spent ≤ 5)
    {opening : Token} (hopening : opening.kind = .openParen) {ts : List Token} {n : Nesting}
    (room : bound ≤ frames + 1 + framesPerLevel * n.depth) :
    (closeGroup expression ts).Exhausts bound n (opening :: ts) := by
  refine Reply.Exhausts.behind
    (Reply.Exhausts.close (usesUp ?_ ?_ (room_openParen hopening few room)) not_tooDeep_close)
  · rw [after_openParen hopening]
  · rw [after_openParen hopening]

/-- Behind a sign there is one frame less, and one level more is open. -/
theorem exhausts_sign (usesUp : UsesUp 0 frames nested) {op : Token}
    (hop : op.kind = .minus ∨ op.kind = .negate) {ts : List Token} {n : Nesting}
    (hn : n.complete = false) (room : bound ≤ frames + 1 + framesPerLevel * n.depth)
    (f : Expr → Expr) : ((nested 0 ts).map f).Exhausts bound n (op :: ts) := by
  have room_sign : bound + (0 + 0) ≤ frames + framesPerLevel * n.sign.depth := by
    rw [depth_sign]
    unfold framesPerLevel at room ⊢
    omega
  refine Reply.Exhausts.behind (Reply.Exhausts.map ?_ f)
  rw [after_sign hop hn]
  exact usesUp rfl room_sign

theorem exhausts_primaryWith (sound : ∀ around, Sound (Phrase .primary) (nested around))
    (advances : ∀ around, Advances (nested around)) (usesUp : UsesUp 0 frames nested)
    {ts : List Token} {n : Nesting} (hn : n.complete = false)
    (room : bound ≤ frames + 1 + framesPerLevel * n.depth) :
    (primaryWith nested ts).Exhausts bound n ts := by
  cases ts with
  | nil => exact fun left h => nomatch h
  | cons t ts =>
      cases hopens : opensPrimary t.kind with
      | false =>
          rw [primaryWith_refuses nested hopens]
          exact fun left h => nomatch h
      | true =>
          cases hk : t.kind <;> rw [hk] at hopens
          case number =>
            rw [primaryWith_number nested hk]
            exact Reply.exhausts_of_not_tooDeep (not_tooDeep_number _)
          case identifier =>
            have hsound := expressionWith_sound (fun around => advances (around + 1)) fun around =>
              sound (around + 1)
            have hadvances := advances_argument advances
            have husesUp := usesUp_expressionWith (fun around => sound (around + 1))
              (fun around => advances (around + 1)) usesUp.inside
            rw [primaryWith_identifier nested hk]
            refine (Reply.exhausts_of_not_tooDeep (not_tooDeep_identifier _)).andThen ?_
            intro name mid hread
            obtain ⟨used, hused, hname⟩ := identifier_sound _ name mid hread
            refine ⟨used, hused,
              exhausts_closeName hsound hadvances husesUp (Nat.le_refl 5) name ?_⟩
            rw [hname.nesting]
            exact room
          case openParen =>
            rw [primaryWith_openParen nested hk]
            exact exhausts_closeGroup (usesUp_expressionWith sound advances usesUp) (by decide) hk
              room
          case minus =>
            rw [primaryWith_minus nested hk]
            exact exhausts_sign usesUp (Or.inl hk) hn room _
          case negate =>
            rw [primaryWith_negate nested hk]
            exact exhausts_sign usesUp (Or.inr hk) hn room _
          all_goals cases hopens

end Nested

/-! ## Within frames -/

/-- Where a reader of primaries gives up, the levels that are open use up its frames besides those
that were spent on the levels open before. -/
theorem exhausts_primary {ts : List Token} {n : Nesting} (hn : n.complete = false)
    (room : bound ≤ frames + framesPerLevel * n.depth) :
    (primary frames ts).Exhausts bound n ts := by
  induction frames using Nat.strongRecOn generalizing bound ts n with
  | ind frames ih =>
      cases frames with
      | zero =>
          rw [primary_zero]
          rintro left h
          cases h
          exact ⟨[], rfl, by rw [afterAll_nil]; omega⟩
      | succ frames =>
          rw [primary_succ]
          refine exhausts_primaryWith (fun around => primary_sound (frames - around))
            (fun around => advances_primary (frames - around)) ?_ hn room
          intro around bound m us hm room_us
          exact ih (frames - around) (by omega) hm (by omega)

/-- Where a reader of expressions gives up, the open levels use up its frames but for the four that
an expression takes where no level is open. -/
theorem exhausts_expression (frames : Nat) (ts : List Token) :
    (expression frames ts).Exhausts (frames - 4) {} ts := by
  intro left hread
  rcases Nat.lt_or_ge frames 4 with few | enough
  · obtain ⟨used, hused⟩ := (advances_expressionWith
      (fun around => advances_primary (frames - around)) ts).1
    have hrest : (expression frames ts).rest = left := by rw [hread, Reply.rest]
    refine ⟨used, ?_, by omega⟩
    rw [← hused, ← hrest, expression]
  · have usesUp : UsesUp 0 frames fun around => primary (frames - around) :=
      fun _ _ _ _ hn room => exhausts_primary hn (by omega)
    exact usesUp_expressionWith (fun around => primary_sound (frames - around))
      (fun around => advances_primary (frames - around)) usesUp rfl rfl (by omega) left hread

end Reader

end Formula
