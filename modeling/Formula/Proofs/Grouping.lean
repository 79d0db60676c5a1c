import Formula.Proofs.Canonical
set_option autoImplicit false

/-!
# What a canonical text has lost

An opening parenthesis is part of a call directly behind an identifier, and groups everywhere
else; a closing one belongs to the last parenthesis that is still open.  The canonical text of
what a source says has the tokens of the source without the grouping parentheses, and nothing
else is lost or added.
-/

namespace Formula

open Grammar

namespace Token

/-! ## Deleting grouping parentheses -/

/-- The tokens without the grouping parentheses.  `named` says whether they stand directly
behind an identifier, and `groups` says of each parenthesis that is open, from the innermost,
whether it is a grouping one. -/
def ungroup : Bool → List Bool → List Token → List Token
  | _, _, [] => []
  | named, groups, t :: ts =>
      match t.kind with
      | .openParen =>
          if named then t :: ungroup false (false :: groups) ts
          else ungroup false (true :: groups) ts
      | .closeParen =>
          if groups.head? = some true then ungroup false groups.tail ts
          else t :: ungroup false groups.tail ts
      | kind => t :: ungroup (kind == .identifier) groups ts

/-- The tokens of a whole text without the grouping parentheses. -/
def ungrouped (ts : List Token) : List Token := ungroup false [] ts

variable {t : Token} {named : Bool} {groups : List Bool} {ts : List Token}

theorem ungroup_open_call (h : t.kind = .openParen) :
    ungroup true groups (t :: ts) = t :: ungroup false (false :: groups) ts := by
  simp [ungroup, h]

theorem ungroup_open_group (h : t.kind = .openParen) :
    ungroup false groups (t :: ts) = ungroup false (true :: groups) ts := by
  simp [ungroup, h]

theorem ungroup_close (h : t.kind = .closeParen) :
    ungroup named groups (t :: ts) =
      if groups.head? = some true then ungroup false groups.tail ts
      else t :: ungroup false groups.tail ts := by
  simp [ungroup, h]

theorem ungroup_close_call (h : t.kind = .closeParen) :
    ungroup named (false :: groups) (t :: ts) = t :: ungroup false groups ts := by
  rw [ungroup_close h]
  rfl

theorem ungroup_close_group (h : t.kind = .closeParen) :
    ungroup named (true :: groups) (t :: ts) = ungroup false groups ts := by
  rw [ungroup_close h]
  rfl

/-- All other tokens are kept. -/
theorem ungroup_other (hopen : t.kind ≠ .openParen) (hclose : t.kind ≠ .closeParen) :
    ungroup named groups (t :: ts) = t :: ungroup (t.kind == .identifier) groups ts := by
  rw [ungroup]
  split
  · contradiction
  · contradiction
  · rfl

/-- The tokens do not begin with an opening parenthesis. -/
def Unopened (ts : List Token) : Prop := ∀ t ∈ ts.head?, t.kind ≠ .openParen

theorem unopened_nil : Unopened [] := fun _ h => nomatch h

theorem unopened_cons {t : Token} (h : t.kind ≠ .openParen) (ts : List Token) :
    Unopened (t :: ts) := by
  intro u hu
  cases hu
  exact h

/-- Only a parenthesis asks whether it stands behind an identifier. -/
theorem ungroup_named (h : Unopened ts) :
    ungroup named groups ts = ungroup false groups ts := by
  cases ts with
  | nil => rw [ungroup, ungroup]
  | cons t ts =>
      have hopen : t.kind ≠ .openParen := h t rfl
      rw [ungroup, ungroup]
      split
      · contradiction
      · rfl
      · rfl

end Token

open Token

namespace Grammar

/-! ## What is left of a phrase -/

/-- What is left of the tokens, without their columns. -/
def remains (named : Bool) (groups : List Bool) (ts : List Token) : List Token :=
  (ungroup named groups ts).map unplaced

theorem remains_other {t : Token} (hopen : t.kind ≠ .openParen) (hclose : t.kind ≠ .closeParen)
    (named : Bool) (groups : List Bool) (ts : List Token) :
    remains named groups (t :: ts) = t.unplaced :: remains (t.kind == .identifier) groups ts := by
  rw [remains, ungroup_other hopen hclose, List.map_cons, remains]

/-- Numbers, names and invalid characters are spelled; every other token is known by its kind. -/
theorem unplaced_sign {t : Token} (h : Spelled t) {kind : Kind} (hkind : t.kind = kind)
    (sign : kind ≠ .number ∧ kind ≠ .identifier ∧ kind ≠ .invalid) : t.unplaced = { kind } := by
  obtain ⟨number, identifier, invalid⟩ := sign
  subst hkind
  cases h with
  | punctuation _ => rfl
  | number _ => exact absurd rfl number
  | identifier _ _ _ => exact absurd rfl identifier
  | invalid => exact absurd rfl invalid

theorem remains_members {ts members : List Token} (h : Members ts members)
    (spelled : ∀ t ∈ ts, Spelled t) (groups : List Bool) (rest : List Token) :
    remains true groups (ts ++ rest) =
      (members.flatMap fun member => [{ kind := .period }, member.unplaced]) ++
        remains true groups rest := by
  induction h with
  | none => rfl
  | @more period member ts members hperiod hmember _ ih =>
      obtain ⟨hspelled, hrest⟩ := List.forall_mem_cons.1 spelled
      have htail := ih (List.forall_mem_cons.1 hrest).2
      rw [List.cons_append, List.cons_append,
        remains_other (by simp [hperiod]) (by simp [hperiod]),
        remains_other (by simp [hmember]) (by simp [hmember]), hmember, beq_self_eq_true, htail,
        unplaced_sign hspelled hperiod (by decide), List.flatMap_cons]
      rfl

/-- A name is kept, and what follows it stands behind an identifier. -/
theorem remains_identifier {ts : List Token} {name : Name} (h : Identifier ts name)
    (spelled : ∀ t ∈ ts, Spelled t) (named : Bool) (groups : List Bool) (rest : List Token) :
    remains named groups (ts ++ rest) = name.spelling ++ remains true groups rest := by
  obtain ⟨hfirst, further⟩ := h
  rw [List.cons_append, remains_other (by simp [hfirst]) (by simp [hfirst]), hfirst,
    beq_self_eq_true, remains_members further (List.forall_mem_cons.1 spelled).2]
  rfl

/-- Does a token of this kind stand between two phrases, or next to one? -/
def separates (kind : Kind) : Bool := kind.isOperator || kind == .comma

/-- An operator or a comma is kept. -/
theorem remains_separator {t : Token} (h : Spelled t) {kind : Kind} (hkind : t.kind = kind)
    (hseparates : separates kind = true) (named : Bool) (groups : List Bool) (ts : List Token) :
    remains named groups (t :: ts) = { kind } :: remains false groups ts := by
  have plain : kind ≠ .openParen ∧ kind ≠ .closeParen ∧
      kind ≠ .number ∧ kind ≠ .identifier ∧ kind ≠ .invalid := by
    revert hseparates
    cases kind <;> decide
  obtain ⟨hopen, hclose, sign⟩ := plain
  subst hkind
  rw [remains_other hopen hclose, unplaced_sign h rfl sign, beq_false_of_ne sign.2.1]

/-- The tokens leave these ones behind, whichever parentheses are open. -/
def Leaves (ts left : List Token) : Prop :=
  ∀ (groups : List Bool) (rest : List Token), Unopened rest →
    remains false groups (ts ++ rest) = left ++ remains false groups rest

theorem leaves_nil : Leaves [] [] := fun _ _ _ => rfl

/-- Two pieces of a text with an operator or a comma between them. -/
theorem Leaves.between {as bs s u : List Token} {op : Token} {kind : Kind} (left : Leaves as s)
    (h : Spelled op) (hkind : op.kind = kind) (hseparates : separates kind = true)
    (right : Leaves bs u) : Leaves (as ++ op :: bs) (s ++ { kind } :: u) := by
  intro groups rest unopened
  have hop : op.kind ≠ .openParen := by
    rw [hkind]
    rintro rfl
    cases hseparates
  rw [List.append_assoc, List.cons_append, left groups _ (unopened_cons hop _),
    remains_separator h hkind hseparates, right groups rest unopened, List.append_assoc,
    List.cons_append]

/-- A name leaves its members and periods, wherever it stands. -/
theorem Leaves.name {ts : List Token} {name : Name} (h : Identifier ts name)
    (spelled : ∀ t ∈ ts, Spelled t) : Leaves ts name.spelling := by
  intro groups rest unopened
  rw [remains_identifier h spelled, remains, ungroup_named unopened, remains]

/-- The parentheses of a call are kept around what is left between them. -/
theorem Leaves.call {opening closing : Token} {ts us left : List Token} {name : Name}
    (h : Identifier ts name) (hopening : opening.kind = .openParen) (inner : Leaves us left)
    (hclosing : closing.kind = .closeParen)
    (spelled : ∀ t ∈ ts ++ opening :: (us ++ [closing]), Spelled t) :
    Leaves (ts ++ opening :: (us ++ [closing]))
      (name.spelling ++ { kind := .openParen } :: (left ++ [{ kind := .closeParen }])) := by
  intro groups rest _
  obtain ⟨hname, hopened, hrest⟩ := forall_mem_around.1 spelled
  have hclosed : Spelled closing := hrest closing (by simp)
  have between := inner (false :: groups) (closing :: rest) (unopened_cons (by simp [hclosing]) rest)
  -- the closing parenthesis finds what the opening one has put on top, whatever `us` did in between
  have parens : remains true groups (opening :: (us ++ closing :: rest)) =
      { kind := .openParen } :: (left ++ { kind := .closeParen } :: remains false groups rest) := by
    rw [remains, ungroup_open_call hopening, List.map_cons, ← remains, between,
      unplaced_sign hopened hopening (by decide), remains, ungroup_close_call hclosing,
      List.map_cons, unplaced_sign hclosed hclosing (by decide), remains]
  simp only [List.append_assoc, List.cons_append, List.nil_append]
  rw [remains_identifier h hname, parens]

/-- The parentheses of a group are dropped. -/
theorem Leaves.group {opening closing : Token} {us left : List Token}
    (hopening : opening.kind = .openParen) (inner : Leaves us left)
    (hclosing : closing.kind = .closeParen) : Leaves (opening :: us ++ [closing]) left := by
  intro groups rest _
  have between := inner (true :: groups) (closing :: rest) (unopened_cons (by simp [hclosing]) rest)
  simp only [List.append_assoc, List.cons_append, List.nil_append]
  rw [remains, ungroup_open_group hopening, ← remains, between, remains,
    ungroup_close_group hclosing, remains]

mutual

/-- A phrase leaves the spelling of its tree. -/
theorem leaves_phrase {q : Nonterminal} {ts : List Token} {e : Expr} :
    Phrase q ts e → (∀ t ∈ ts, Spelled t) → Leaves ts e.spelling
  | .addition lhs (Or.inl hop) rhs, spelled | .addition lhs (Or.inr hop) rhs, spelled
  | .multiplication lhs (Or.inl hop) rhs, spelled | .multiplication lhs (Or.inr hop) rhs, spelled
  | .exponentiation lhs hop rhs, spelled => by
      obtain ⟨before, sign, behind⟩ := forall_mem_around.1 spelled
      have left := leaves_phrase lhs before
      have right := leaves_phrase rhs behind
      rw [Expr.spelling, hop]
      exact left.between sign hop rfl right
  | .ofProduct h, spelled | .ofPower h, spelled | .ofFactor h, spelled | .ofPrimary h, spelled =>
      leaves_phrase h spelled
  | .factorial h hop, spelled => by
      obtain ⟨before, sign, _⟩ := forall_mem_around.1 spelled
      rw [Expr.spelling_factorial hop]
      exact (leaves_phrase h before).between sign hop rfl leaves_nil
  | .number hkind _ _, _ => by
      intro groups rest _
      rw [List.singleton_append, remains_other (by simp [hkind]) (by simp [hkind]), hkind,
        Expr.spelling]
      rfl
  | .name h, spelled => by
      rw [Expr.spelling]
      exact .name h spelled
  | .emptyCall h hopening hclosing, spelled => by
      rw [Expr.spelling, Expr.spellingAll]
      exact .call h hopening leaves_nil hclosing spelled
  | .call h hopening arguments hclosing, spelled => by
      obtain ⟨before, _, _⟩ := forall_mem_around.1 spelled
      obtain ⟨_, _, inner⟩ := forall_mem_around.1 before
      have left := leaves_arguments arguments inner
      rw [List.append_assoc, List.cons_append] at spelled ⊢
      rw [Expr.spelling]
      exact .call h hopening left hclosing spelled
  | .group hopening h hclosing, spelled => by
      obtain ⟨before, _, _⟩ := forall_mem_around.1 spelled
      exact .group hopening (leaves_phrase h (List.forall_mem_cons.1 before).2) hclosing
  | .minus hop h, spelled => by
      obtain ⟨sign, behind⟩ := List.forall_mem_cons.1 spelled
      rw [Expr.spelling_negation rfl]
      exact leaves_nil.between sign hop rfl (leaves_phrase h behind)
  | .negation hop _, spelled => absurd hop (kind_ne_negate (spelled _ List.mem_cons_self))

theorem leaves_arguments {ts : List Token} {es : List Expr} :
    Arguments ts es → (∀ t ∈ ts, Spelled t) → Leaves ts (Expr.spellingAll es)
  | .one h, spelled => by
      rw [Expr.spellingAll]
      exact leaves_phrase h spelled
  | @Arguments.more _ _ _ _ es h hcomma others, spelled => by
      obtain ⟨before, sign, behind⟩ := forall_mem_around.1 spelled
      have left := leaves_phrase h before
      have right := leaves_arguments others behind
      cases es with
      | nil => cases others
      | cons e es =>
          rw [Expr.spellingAll_cons]
          exact left.between sign hcomma rfl right

end

/-- Without grouping parentheses a text that is a phrase has the spelling of its tree. -/
theorem ungrouped_phrase {q : Nonterminal} {source : String} {e : Expr}
    (h : Phrase q (Token.ofText source) e) :
    (ungrouped (Token.ofText source)).map Token.unplaced = e.spelling := by
  have spelled : ∀ t ∈ Token.ofText source, Spelled t := fun t ht => spelled_of_mem_scan ht
  have whole := leaves_phrase h spelled [] [] unopened_nil
  rw [List.append_nil] at whole
  exact whole.trans (List.append_nil _)

end Grammar

/-- **A canonical text has lost nothing but grouping parentheses and blanks.**  Its tokens are
those of the source that was read, without the grouping parentheses.  A printer with whatever
output appends to it exactly what a new printer writes, which is the canonical text unless the
expression is too deep. -/
theorem Expr.render_ungroups {frames : Nat} {source : String} {e : Expr} {rest : List Token}
    (reads : Reader.whole frames (Token.ofText source) = .ok e rest) :
    (Token.ofText e.render).map Token.unplaced = (ungrouped (Token.ofText source)).map Token.unplaced ∧
      e.render? = (if e.depth ≤ Printer.depthLimit then some e.render else none) ∧
      ∀ p : Printer, p.accept e =
        { output := p.output ++ (Printer.accept {} e).output
          stopped := (Printer.accept {} e).stopped } := by
  obtain ⟨_, hphrase⟩ := Reader.whole_sound reads
  refine ⟨?_, ?_, fun p => p.accept_eq e⟩
  · rw [unplaced_ofText_render (wellMade_of_ofText hphrase), ungrouped_phrase hphrase]
  · split
    · next shallow => exact (e.render?_eq_some_iff _).2 ⟨shallow, rfl⟩
    · next deep =>
        rw [Option.eq_none_iff_forall_not_mem]
        exact fun text htext => deep ((e.render?_eq_some_iff text).1 htext).1

/-- Of `-f.g((2.)!, ((x)))` only the parentheses of the call are left. -/
theorem Expr.render_ungroups_call :
    let ts := Token.ofText "-f.g((2.)!, ((x)))"
    ∃ e, Reader.whole Reader.frameLimit ts = .ok e [] ∧
      e.render? = some "-f.g(2.!, x)" ∧
      (Token.ofText "-f.g(2.!, x)").map Token.unplaced = (ungrouped ts).map Token.unplaced ∧
      Printer.accept { output := "y = " } e = { output := "y = -f.g(2.!, x)" } := by
  let argument : Expr := .unary (.number ⟨.number, some "2.", 6⟩) ⟨.factorial, none, 9⟩
  let name : Name := ⟨⟨.identifier, some "f", 1⟩, [⟨.identifier, some "g", 3⟩]⟩
  let x : Expr := .identifier ⟨⟨.identifier, some "x", 14⟩, []⟩
  have reads : Reader.whole Reader.frameLimit (Token.ofText "-f.g((2.)!, ((x)))") =
      .ok (.unary (.call name [argument, x]) ⟨.negate, none, 0⟩) [] := by
    decide +kernel
  obtain ⟨htokens, hrender, happend⟩ := Expr.render_ungroups reads
  have prints : (Expr.unary (.call name [argument, x]) ⟨.negate, none, 0⟩).render =
      "-f.g(2.!, x)" := by
    decide +kernel
  rw [prints] at htokens
  refine ⟨_, reads, ?_, htokens, ?_⟩
  · rw [hrender, prints]
    rfl
  · rw [happend]
    decide +kernel

end Formula
