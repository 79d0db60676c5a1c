import Formula.Proofs.Grouping
set_option autoImplicit false

/-!
# Trees that need no grouping parentheses

An expression is normal if each operand could stand where it stands without parentheses around
it.  Exactly the normal expressions are read again from their canonical text; the text of any
other expression is read as something else, or not at all.
-/

namespace Formula

open Grammar Token

/-! ## Normal expressions -/

namespace Expr

/-- A binary operation has an operator of at least this precedence. -/
def BindsAt (least : Nat) : Expr → Prop
  | .binary _ _ op => least ≤ op.kind.precedence
  | _ => True

/-- The expression is neither a binary operation nor a factorial. -/
def Simple : Expr → Prop
  | .binary _ _ _ => False
  | .unary _ op => op.kind ≠ .factorial
  | _ => True

mutual

/-- Operands bind as tightly as the operators next to them demand: on the side to which an
operator groups at least as tightly as the operator itself, on the other side more tightly.  The
operands of signs are simple. -/
def Normal : Expr → Prop
  | .number _ => True
  | .identifier _ => True
  | .binary lhs rhs op =>
      lhs.Normal ∧ rhs.Normal ∧
        if op.kind.isLeftAssociative then
          lhs.BindsAt op.kind.precedence ∧ rhs.BindsAt (op.kind.precedence + 1)
        else lhs.BindsAt (op.kind.precedence + 1) ∧ rhs.BindsAt op.kind.precedence
  | .unary operand _ => operand.Normal ∧ operand.Simple
  | .call _ arguments => AllNormal arguments

/-- All expressions of a list are normal. -/
def AllNormal : List Expr → Prop
  | [] => True
  | e :: rest => e.Normal ∧ AllNormal rest

end

/-! ## Where an expression fits -/

/-- The expression may stand without parentheses where a phrase of this kind is wanted. -/
def Fits (q : Nonterminal) : Expr → Prop
  | .binary _ _ op => q.rank ≤ op.kind.precedence
  | .unary _ op => op.kind = .factorial → q ≠ .primary
  | _ => True

theorem precedence_lt_primary (kind : Kind) : kind.precedence < Nonterminal.primary.rank := by
  cases kind <;> decide

theorem fits_iff_bindsAt {q : Nonterminal} (hq : q ≠ .primary) (e : Expr) :
    e.Fits q ↔ e.BindsAt q.rank := by
  cases e with
  | unary operand op => exact iff_of_true (fun _ => hq) trivial
  | _ => rfl

theorem fits_primary_iff (e : Expr) : e.Fits .primary ↔ e.Simple := by
  cases e with
  | binary lhs rhs op => exact iff_of_false (Nat.not_le.2 (precedence_lt_primary op.kind)) id
  | unary operand op => exact ⟨fun h hop => h hop rfl, fun h hop => absurd hop h⟩
  | _ => rfl

/-- What fits where a phrase is wanted also fits where one is wanted that is bound less
tightly. -/
theorem Fits.loosen {p q : Nonterminal} {e : Expr} (h : e.Fits p) (le : q.rank ≤ p.rank) :
    e.Fits q := by
  cases e with
  | binary lhs rhs op => exact Nat.le_trans le h
  | unary operand op =>
      rintro hop rfl
      refine h hop ?_
      revert le
      cases p <;> decide
  | _ => trivial

/-- A binary operation is normal if its operands are, and fit to the sides of its operator. -/
theorem normal_binary_iff {lhs rhs : Expr} {op : Token} (h : op.kind.isBinary = true) :
    (Expr.binary lhs rhs op).Normal ↔
      (lhs.Normal ∧ lhs.Fits (leftOf op.kind)) ∧ rhs.Normal ∧ rhs.Fits (rightOf op.kind) := by
  have hleft : leftOf op.kind ≠ .primary := by cases op.kind <;> decide
  have hright : rightOf op.kind ≠ .primary := by cases op.kind <;> decide
  rw [Normal, fits_iff_bindsAt hleft, fits_iff_bindsAt hright, and_and_and_comm, and_assoc]
  have ranks : (if op.kind.isLeftAssociative then
        lhs.BindsAt op.kind.precedence ∧ rhs.BindsAt (op.kind.precedence + 1)
      else lhs.BindsAt (op.kind.precedence + 1) ∧ rhs.BindsAt op.kind.precedence) ↔
      lhs.BindsAt (leftOf op.kind).rank ∧ rhs.BindsAt (rightOf op.kind).rank := by
    rcases Kind.binary_cases h with hop | hop | hop | hop | hop <;> rw [hop] <;> rfl
  rw [ranks]

theorem normal_unary_iff (operand : Expr) (op : Token) :
    (Expr.unary operand op).Normal ↔ operand.Normal ∧ operand.Fits .primary := by
  rw [Normal, fits_primary_iff]

/-! ## Columns do not matter -/

theorem fits_unplaced (q : Nonterminal) (e : Expr) : e.unplaced.Fits q ↔ e.Fits q := by
  cases e <;> rfl

theorem bindsAt_unplaced (least : Nat) (e : Expr) : e.unplaced.BindsAt least ↔ e.BindsAt least := by
  cases e <;> rfl

mutual

theorem normal_unplaced : ∀ (e : Expr), e.unplaced.Normal ↔ e.Normal
  | .number _ => Iff.rfl
  | .identifier _ => Iff.rfl
  | .binary lhs rhs op => by
      rw [unplaced, Normal, Normal, normal_unplaced lhs, normal_unplaced rhs, unplaced_kind]
      simp only [bindsAt_unplaced]
  | .unary operand op => by
      rw [unplaced, normal_unary_iff, normal_unary_iff, normal_unplaced operand, fits_unplaced]
  | .call _ arguments => by
      rw [unplaced, Normal, Normal, allNormal_unplaced arguments]

theorem allNormal_unplaced : ∀ (es : List Expr), AllNormal (unplacedAll es) ↔ AllNormal es
  | [] => Iff.rfl
  | e :: rest => by
      rw [unplacedAll, AllNormal, AllNormal, normal_unplaced e, allNormal_unplaced rest]

end

end Expr

theorem Name.spelling_unplaced (name : Name) : name.unplaced.spelling = name.spelling := by
  rw [Name.spelling, Name.spelling, Name.unplaced, List.flatMap_map]
  rfl

namespace Expr

mutual

theorem spelling_unplaced : ∀ (e : Expr), e.unplaced.spelling = e.spelling
  | .number _ => rfl
  | .identifier name => by
      rw [unplaced, spelling, spelling, name.spelling_unplaced]
  | .binary lhs rhs op => by
      rw [unplaced, spelling, spelling, spelling_unplaced lhs, spelling_unplaced rhs, unplaced_kind]
  | .unary operand op => by
      rw [unplaced, spelling, spelling, spelling_unplaced operand, unplaced_kind]
  | .call name arguments => by
      rw [unplaced, spelling, spelling, name.spelling_unplaced, spellingAll_unplacedAll arguments]

theorem spellingAll_unplacedAll : ∀ (es : List Expr), spellingAll (unplacedAll es) = spellingAll es
  | [] => rfl
  | [e] => by
      rw [unplacedAll, unplacedAll, spellingAll, spellingAll, spelling_unplaced e]
  | e :: e' :: es => by
      have htail := spellingAll_unplacedAll (e' :: es)
      rw [unplacedAll] at htail
      rw [unplacedAll, unplacedAll, spellingAll_cons, spellingAll_cons, htail, spelling_unplaced e]

end

end Expr

/-! ## Texts without grouping parentheses -/

namespace Token

/-- Behind the first token, every opening parenthesis stands directly behind an identifier. -/
def CallsOnly (ts : List Token) : Prop :=
  ts.IsChain fun t u => u.kind = .openParen → t.kind = .identifier

/-- Every opening parenthesis stands directly behind an identifier. -/
structure Groupless (ts : List Token) : Prop where
  head : Unopened ts
  behind : CallsOnly ts

/-- The tokens on both sides of one that is no identifier. -/
theorem Groupless.around {before behind : List Token} {t : Token}
    (h : Groupless (before ++ t :: behind)) (ht : t.kind ≠ .identifier) :
    Groupless before ∧ Groupless behind := by
  obtain ⟨hbefore, hbehind, _⟩ := List.isChain_append.1 h.behind
  obtain ⟨hnext, hrest⟩ := List.isChain_cons.1 hbehind
  refine ⟨⟨?_, hbefore⟩, ⟨fun u hu hopen => ht (hnext u hu hopen), hrest⟩⟩
  intro u hu
  refine h.head u ?_
  rw [Option.mem_def] at hu ⊢
  rw [List.head?_append, hu]
  rfl

theorem Groupless.tail {behind : List Token} {t : Token} (h : Groupless (t :: behind))
    (ht : t.kind ≠ .identifier) : Groupless behind := by
  have whole : Groupless ([] ++ t :: behind) := h
  exact (whole.around ht).2

theorem CallsOnly.cons {t : Token} {ts : List Token} (h : CallsOnly ts)
    (next : t.kind ≠ .identifier → Unopened ts) : CallsOnly (t :: ts) := by
  refine List.isChain_cons.2 ⟨fun u hu hopen => ?_, h⟩
  by_contra ht
  exact next ht u hu hopen

theorem length_ungroup_le (named : Bool) (groups : List Bool) (ts : List Token) :
    (ungroup named groups ts).length ≤ ts.length := by
  fun_induction ungroup named groups ts <;> grind

/-- If no token is dropped, none of them is a grouping parenthesis. -/
theorem callsOnly_of_length {named : Bool} {groups : List Bool} {ts : List Token}
    (h : (ungroup named groups ts).length = ts.length) :
    (named = false → Unopened ts) ∧ CallsOnly ts := by
  induction ts generalizing named groups with
  | nil => exact ⟨fun _ => unopened_nil, List.isChain_nil⟩
  | cons t ts ih =>
      -- a token that is dropped cannot be made up for, and one that is kept leaves it to the others
      have dropped {named : Bool} {groups : List Bool}
          (h : (ungroup named groups ts).length = (t :: ts).length) : False := by
        have := length_ungroup_le named groups ts
        rw [List.length_cons] at h
        omega
      have kept {named : Bool} {groups : List Bool}
          (h : (t :: ungroup named groups ts).length = (t :: ts).length) :
          (named = false → Unopened ts) ∧ CallsOnly ts :=
        ih (Nat.succ.inj h)
      by_cases hopen : t.kind = .openParen
      · cases named with
        | false => rw [ungroup_open_group hopen] at h; exact (dropped h).elim
        | true =>
            rw [ungroup_open_call hopen] at h
            obtain ⟨hnext, hbehind⟩ := kept h
            exact ⟨fun hnamed => Bool.noConfusion hnamed, hbehind.cons fun _ => hnext rfl⟩
      refine ⟨fun _ => unopened_cons hopen ts, ?_⟩
      by_cases hclose : t.kind = .closeParen
      · rw [ungroup_close hclose] at h
        split at h
        · exact (dropped h).elim
        · obtain ⟨hnext, hbehind⟩ := kept h
          exact hbehind.cons fun _ => hnext rfl
      · rw [ungroup_other hopen hclose] at h
        obtain ⟨hnext, hbehind⟩ := kept h
        exact hbehind.cons fun ht => hnext (beq_false_of_ne ht)

/-- Tokens of which none is dropped as a grouping parenthesis. -/
theorem groupless_of_length {ts : List Token} (h : (ungrouped ts).length = ts.length) :
    Groupless ts := by
  obtain ⟨hhead, hbehind⟩ := callsOnly_of_length h
  exact ⟨hhead rfl, hbehind⟩

end Token

namespace Grammar

/-! ## A text without grouping parentheses is read as a normal tree -/

/-- Two normal operands that fit to the sides of an operator. -/
theorem normal_operation {op : Token} {kind : Kind} {a b : Expr} (hop : op.kind = kind)
    (hbinary : kind.isBinary = true) (lhs : a.Normal ∧ a.Fits (leftOf kind))
    (rhs : b.Normal ∧ b.Fits (rightOf kind)) :
    (Expr.binary a b op).Normal ∧ (Expr.binary a b op).Fits (made kind) := by
  subst hop
  exact ⟨(Expr.normal_binary_iff hbinary).2 ⟨lhs, rhs⟩, (made_rank hbinary).le⟩

mutual

/-- A phrase without grouping parentheses stands for a normal tree that fits where it stands. -/
theorem normal_phrase {q : Nonterminal} {ts : List Token} {e : Expr} :
    Phrase q ts e → Groupless ts → e.Normal ∧ e.Fits q
  | .addition lhs (Or.inl hop) rhs, groupless | .addition lhs (Or.inr hop) rhs, groupless
  | .multiplication lhs (Or.inl hop) rhs, groupless
  | .multiplication lhs (Or.inr hop) rhs, groupless | .exponentiation lhs hop rhs, groupless => by
      obtain ⟨left, right⟩ := groupless.around (by simp [hop])
      exact normal_operation hop rfl (normal_phrase lhs left) (normal_phrase rhs right)
  | .ofProduct h, groupless | .ofPower h, groupless | .ofFactor h, groupless
  | .ofPrimary h, groupless => by
      obtain ⟨normal, fits⟩ := normal_phrase h groupless
      exact ⟨normal, fits.loosen (by decide)⟩
  | .factorial h hop, groupless => by
      obtain ⟨left, _⟩ := groupless.around (by simp [hop])
      exact ⟨(Expr.normal_unary_iff _ _).2 (normal_phrase h left), fun _ => by decide⟩
  | .number _ _ _, _ => ⟨trivial, trivial⟩
  | .name _, _ => ⟨trivial, trivial⟩
  | .emptyCall _ _ _, _ => ⟨trivial, trivial⟩
  | .call _ hopening arguments hclosing, groupless => by
      obtain ⟨left, _⟩ := groupless.around (by simp [hclosing])
      obtain ⟨_, inner⟩ := left.around (by simp [hopening])
      exact ⟨normal_arguments arguments inner, trivial⟩
  | .group hopening _ _, groupless => absurd hopening (groupless.head _ rfl)
  | .minus hop h, groupless => by
      have operand := normal_phrase h (groupless.tail (by simp [hop]))
      exact ⟨(Expr.normal_unary_iff _ _).2 operand, fun hnegate => nomatch hnegate⟩
  | .negation hop h, groupless => by
      have operand := normal_phrase h (groupless.tail (by simp [hop]))
      refine ⟨(Expr.normal_unary_iff _ _).2 operand, fun hmark => ?_⟩
      rw [hop] at hmark
      cases hmark

theorem normal_arguments {ts : List Token} {es : List Expr} :
    Arguments ts es → Groupless ts → Expr.AllNormal es
  | .one h, groupless => ⟨(normal_phrase h groupless).1, trivial⟩
  | .more h hcomma others, groupless => by
      obtain ⟨left, right⟩ := groupless.around (by simp [hcomma])
      exact ⟨(normal_phrase h left).1, normal_arguments others right⟩

end

/-! ## The text of a normal tree is a phrase that stands for it -/

theorem rank_le_primary (q : Nonterminal) : q.rank ≤ Nonterminal.primary.rank := by
  cases q <;> decide

theorem rank_le_factor {q : Nonterminal} (h : q ≠ .primary) : q.rank ≤ Nonterminal.factor.rank := by
  revert h
  cases q <;> decide

/-- Every well made tree fits where a sum is wanted. -/
theorem fits_sum {P : Token → Prop} (e : Expr) (h : e.WellMade P) : e.Fits .sum := by
  cases e with
  | binary lhs rhs op =>
      obtain ⟨_, _, hbinary, _⟩ := h
      rw [Expr.Fits, ← made_rank hbinary]
      cases op.kind <;> decide
  | unary operand op => exact fun _ => by decide
  | _ => trivial

theorem unplaced_operator {t : Token} (h : t.Legible) (hkind : t.kind.isOperator = true) :
    t.unplaced = { kind := t.kind } := by
  rw [Token.unplaced, h.lexeme_eq_none hkind]

mutual

/-- The spelling of a normal tree is a phrase, of each kind to which the tree fits, that stands
for the tree but for its columns. -/
theorem phrase_spelling : ∀ (e : Expr) {q : Nonterminal} {ts : List Token}, e.WellMade Legible →
    e.Normal → e.Fits q → ts.map Token.unplaced = e.spelling →
    ∃ e', Phrase q ts e' ∧ e'.unplaced = e.unplaced
  | .number t, q, ts, h, _, _, hts => by
      obtain ⟨u, hnumber, hu⟩ := number_spelling h hts
      refine ⟨.number u, hnumber.loosen (rank_le_primary q), ?_⟩
      rw [Expr.unplaced, Expr.unplaced, hu]
  | .identifier name, q, ts, h, _, _, hts => by
      rw [Expr.spelling] at hts
      obtain ⟨name', hname, hunplaced⟩ := identifier_spelling h hts
      refine ⟨.identifier name', (Phrase.name hname).loosen (rank_le_primary q), ?_⟩
      rw [Expr.unplaced, Expr.unplaced, hunplaced]
  | .binary lhs rhs op, q, ts, h, normal, fits, hts => by
      obtain ⟨hlhs, hrhs, hbinary, hlegible⟩ := h
      obtain ⟨⟨normalLeft, fitsLeft⟩, normalRight, fitsRight⟩ :=
        (Expr.normal_binary_iff hbinary).1 normal
      rw [Expr.spelling] at hts
      obtain ⟨as, op', bs, rfl, has, hop, hbs⟩ := map_around hts
      -- the operands are phrases of just the kinds that the operator wants on its sides
      obtain ⟨a, left, ha⟩ := phrase_spelling lhs hlhs normalLeft fitsLeft has
      obtain ⟨b, right, hb⟩ := phrase_spelling rhs hrhs normalRight fitsRight hbs
      have hkind : op'.kind = op.kind := kind_of_unplaced (t := { kind := op.kind }) hop
      have whole := Phrase.join hkind hbinary left right
      refine ⟨.binary a b op', whole.loosen (fits.trans (made_rank hbinary).ge), ?_⟩
      have hoperator : op.kind.isOperator = true := by rw [Kind.isOperator, hbinary, Bool.true_or]
      rw [Expr.unplaced, Expr.unplaced, ha, hb, hop, unplaced_operator hlegible hoperator]
  | .unary operand op, q, ts, h, normal, fits, hts => by
      obtain ⟨hoperand, hunary, hlegible⟩ := h
      obtain ⟨normalOperand, fitsOperand⟩ := (Expr.normal_unary_iff operand op).1 normal
      have hoperator : op.kind.isOperator = true := by rw [Kind.isOperator, hunary, Bool.or_true]
      have hunplaced := unplaced_operator hlegible hoperator
      rcases Kind.unary_cases hunary with hop | hop
      · rw [Expr.spelling_negation hop] at hts
        obtain ⟨sign, us, rfl, hsign, hus⟩ := List.map_eq_cons_iff.1 hts
        obtain ⟨e', inner, he'⟩ := phrase_spelling operand hoperand normalOperand fitsOperand hus
        have hkind : sign.kind = .minus := kind_of_unplaced (t := { kind := .minus }) hsign
        refine ⟨_, (Phrase.minus hkind inner).loosen (rank_le_primary q), ?_⟩
        rw [Expr.unplaced, Expr.unplaced, he', hunplaced, hop]
        rfl
      · rw [Expr.spelling_factorial hop] at hts
        obtain ⟨us, sign, rest, rfl, hus, hsign, hrest⟩ := map_around hts
        obtain rfl := List.map_eq_nil_iff.1 hrest
        obtain ⟨e', inner, he'⟩ := phrase_spelling operand hoperand normalOperand fitsOperand hus
        have hkind : sign.kind = .factorial := kind_of_unplaced (t := { kind := .factorial }) hsign
        refine ⟨_, (Phrase.factorial inner hkind).loosen (rank_le_factor (fits hop)), ?_⟩
        rw [Expr.unplaced, Expr.unplaced, he', hunplaced, hop, hsign]
  | .call name arguments, q, ts, h, normal, _, hts => by
      obtain ⟨hname, harguments⟩ := h
      obtain ⟨name', us, vs, opening, closing, rfl, hidentifier, hunplaced, hopening, hvs, hclosing⟩ :=
        call_spelling hname hts
      cases arguments with
      | nil =>
          obtain rfl := List.map_eq_nil_iff.1 hvs
          have whole := Phrase.emptyCall hidentifier hopening hclosing
          refine ⟨.call name' [], whole.loosen (rank_le_primary q), ?_⟩
          rw [Expr.unplaced, Expr.unplaced, hunplaced]
      | cons e es =>
          obtain ⟨es', inner, hes'⟩ :=
            arguments_spelling (e :: es) (List.cons_ne_nil e es) harguments normal hvs
          have whole := Phrase.call hidentifier hopening inner hclosing
          rw [List.append_assoc, List.cons_append] at whole
          refine ⟨.call name' es', whole.loosen (rank_le_primary q), ?_⟩
          rw [Expr.unplaced, Expr.unplaced, hunplaced, hes']

theorem arguments_spelling : ∀ (es : List Expr) {ts : List Token}, es ≠ [] →
    Expr.AllWellMade Legible es → Expr.AllNormal es →
    ts.map Token.unplaced = Expr.spellingAll es →
    ∃ es', Arguments ts es' ∧ Expr.unplacedAll es' = Expr.unplacedAll es
  | [], _, ne, _, _, _ => absurd rfl ne
  | [e], ts, _, h, normal, hts => by
      obtain ⟨e', hphrase, he'⟩ := phrase_spelling e h.1 normal.1 (fits_sum e h.1) hts
      exact ⟨[e'], .one hphrase, by rw [Expr.unplacedAll, he', Expr.unplacedAll]; rfl⟩
  | e :: e' :: es, ts, _, h, normal, hts => by
      rw [Expr.spellingAll_cons] at hts
      obtain ⟨us, comma, vs, rfl, hus, hcomma, hvs⟩ := map_around hts
      have hcomma := kind_of_unplaced (t := { kind := .comma }) hcomma
      obtain ⟨first, hfirst, he⟩ := phrase_spelling e h.1 normal.1 (fits_sum e h.1) hus
      obtain ⟨others, hothers, hes⟩ :=
        arguments_spelling (e' :: es) (List.cons_ne_nil e' es) h.2 normal.2 hvs
      refine ⟨first :: others, .more hfirst hcomma hothers, ?_⟩
      rw [Expr.unplacedAll, he, hes, ← Expr.unplacedAll]

end

end Grammar

/-! ## Literals -/

/-- An operator without a spelling of its own, or a token that is the only one of its text. -/
def Token.Literal (t : Token) : Prop :=
  if t.kind.isOperator then t.lexeme = none
  else (Token.ofText t.text).map Token.unplaced = [t.unplaced]

instance (t : Token) : Decidable t.Literal :=
  inferInstanceAs (Decidable (if t.kind.isOperator then t.lexeme = none
    else (Token.ofText t.text).map Token.unplaced = [t.unplaced]))

theorem Token.legible_of_unplaced {t u : Token} (h : u.Legible) (ht : u.unplaced = t.unplaced) :
    t.Legible := by
  have same : t = { u with start := t.start } := by
    have hkind := kind_of_unplaced ht
    have hlexeme : u.lexeme = t.lexeme := by rw [← unplaced_lexeme u, ht, unplaced_lexeme]
    rw [hkind, hlexeme]
  rw [same]
  rcases h with ⟨cuts, spelled⟩ | negation
  · refine Or.inl ⟨cuts, ?_⟩
    cases spelled with
    | number h => exact .number h
    | identifier hletter hdigit h => exact .identifier hletter hdigit h
    | punctuation h => exact .punctuation h
    | invalid => exact .invalid
  · exact Or.inr negation

theorem Token.legible_operator {kind : Kind} (h : kind.isOperator = true) (start : Int) :
    Token.Legible ⟨kind, none, start⟩ := by
  have sign {c : Char} (hc : Kind.ofChar? c = some kind) : Token.Legible ⟨kind, none, start⟩ :=
    Or.inl ⟨cuts_punctuation hc start, .punctuation hc⟩
  rw [Kind.isOperator, Bool.or_eq_true] at h
  rcases h with hbinary | hunary
  · obtain ⟨c, hc⟩ := exists_char_of_isBinary hbinary
    exact sign hc
  · rcases Kind.unary_cases hunary with rfl | rfl
    · exact Or.inr ⟨rfl, rfl⟩
    · exact sign (c := '!') rfl

/-- Literals can be cut from a text again. -/
theorem Token.Literal.legible {t : Token} (h : t.Literal) : t.Legible := by
  unfold Token.Literal at h
  split at h
  · next hoperator =>
      obtain ⟨kind, lexeme, start⟩ := t
      obtain rfl : lexeme = none := h
      exact legible_operator hoperator start
  · obtain ⟨u, hlexed, hu⟩ := List.map_eq_singleton_iff.1 h
    have hmem : u ∈ Token.ofText t.text := by rw [hlexed]; exact List.mem_singleton_self u
    exact legible_of_unplaced (legible_of_mem_scan hmem) hu

/-! ## Reading what was printed -/

/-- A text without grouping parentheses that can be read is read as a normal tree. -/
theorem normal_of_length {source : String} {e : Expr} (h : Phrase .sum (Token.ofText source) e)
    (kept : (ungrouped (Token.ofText source)).length = (Token.ofText source).length) : e.Normal :=
  (normal_phrase h (groupless_of_length kept)).1

/-- The canonical text of a legible tree is read as the tree if and only if it is normal. -/
theorem exists_phrase_render_iff {e : Expr} (h : e.WellMade Legible) :
    (∃ e', Phrase .sum (Token.ofText e.render) e' ∧ e'.alike e = true) ↔ e.Normal := by
  have hspelling : (Token.ofText e.render).map Token.unplaced = e.spelling :=
    unplaced_ofText_render h
  constructor
  · rintro ⟨e', hphrase, halike⟩
    have hunplaced := (Expr.alike_iff_unplaced e' e).1 halike
    -- the text and what it is read as have the same spelling, so no parenthesis was dropped
    have hkept : (ungrouped (Token.ofText e.render)).map Token.unplaced =
        (Token.ofText e.render).map Token.unplaced := by
      rw [ungrouped_phrase hphrase, hspelling, ← e'.spelling_unplaced, hunplaced,
        e.spelling_unplaced]
    have hlength := congrArg List.length hkept
    rw [List.length_map, List.length_map] at hlength
    rw [← e.normal_unplaced, ← hunplaced, e'.normal_unplaced]
    exact normal_of_length hphrase hlength
  · intro normal
    obtain ⟨e', hphrase, hunplaced⟩ := phrase_spelling e h normal (fits_sum e h) hspelling
    exact ⟨e', hphrase, (Expr.alike_iff_unplaced e' e).2 hunplaced⟩

/-- **Reading undoes printing exactly on the normal trees.**  The canonical text of a tree of
literals is read as the same tree, but for its columns, if and only if the tree is normal; this
is so at any number of frames at which it is not too deeply nested, and it is not if there are
three frames for each token and three more.  Every source without grouping parentheses that can be
read is read as a normal tree. -/
theorem Expr.reads_render_iff_normal :
    (∀ (e : Expr) (text : String), e.WellMade Literal → e.render? = some text →
      ∀ frames : Nat,
        (3 * (Token.ofText text).length + 2 < frames →
          ¬ (Reader.whole frames (Token.ofText text)).TooDeep) ∧
        (¬ (Reader.whole frames (Token.ofText text)).TooDeep →
          ((∃ e', Reader.whole frames (Token.ofText text) = .ok e' [] ∧
            e'.alike? e = some true) ↔ e.Normal))) ∧
      ∀ (source : String) (frames : Nat) (e : Expr) (rest : List Token),
        Reader.whole frames (Token.ofText source) = .ok e rest →
          ungrouped (Token.ofText source) = Token.ofText source → e.Normal := by
  constructor
  · intro e text literal prints frames
    obtain ⟨shallow, rfl⟩ := (render?_eq_some_iff e text).1 prints
    have comparable : e.depth ≤ depthLimit := Nat.le_trans shallow (by decide)
    refine ⟨Reader.not_tooDeep_whole frames _, fun room => ?_⟩
    rw [← exists_phrase_render_iff (literal.imp fun _ => Literal.legible)]
    refine exists_congr fun e' => ?_
    rw [Reader.whole_eq_ok_iff room, alike?_eq_some comparable, Option.some.injEq]
    simp
  · intro source frames e rest reads kept
    obtain ⟨_, hphrase⟩ := Reader.whole_sound reads
    exact normal_of_length hphrase (congrArg List.length kept)

/-- `1 - f(x)!` is normal, and so is what its text is read as. -/
theorem Expr.reads_render_difference :
    let x : Expr := .identifier ⟨{ kind := .identifier, lexeme := some "x" }, []⟩
    let call : Expr := .call ⟨{ kind := .identifier, lexeme := some "f" }, []⟩ [x]
    let e : Expr := .binary (.number { kind := .number, lexeme := some "1" })
      (.unary call { kind := .factorial }) { kind := .minus }
    e.render? = some "1 - f(x)!" ∧
      ∃ e', Reader.whole Reader.frameLimit (Token.ofText "1 - f(x)!") = .ok e' [] ∧
        e'.alike? e = some true ∧ e'.Normal := by
  intro x call e
  have literal : e.WellMade Literal := by
    have one : Token.Literal { kind := .number, lexeme := some "1" } := by decide +kernel
    have member (name : String) (h : Token.Literal { kind := .identifier, lexeme := some name }) :
        Name.WellMade Literal ⟨{ kind := .identifier, lexeme := some name }, []⟩ := by
      intro t ht
      obtain rfl := List.mem_singleton.1 ht
      exact ⟨rfl, h⟩
    have hcall : call.WellMade Literal :=
      ⟨member "f" (by decide +kernel), member "x" (by decide +kernel), trivial⟩
    exact ⟨⟨⟨rfl, one⟩, "1", rfl, by decide +kernel⟩, ⟨hcall, rfl, by decide +kernel⟩, rfl,
      by decide +kernel⟩
  have prints : e.render? = some "1 - f(x)!" := by decide +kernel
  have normal : e.Normal := by
    refine (normal_binary_iff rfl).2 ⟨⟨trivial, trivial⟩, ⟨⟨trivial, trivial⟩, trivial⟩, ?_⟩
    exact fun _ => by decide
  obtain ⟨undoes, keeps⟩ := Expr.reads_render_iff_normal
  obtain ⟨enough, readsIff⟩ := undoes e "1 - f(x)!" literal prints Reader.frameLimit
  obtain ⟨e', reads, alike⟩ := (readsIff (enough (by decide +kernel))).2 normal
  exact ⟨prints, e', reads, alike, keeps _ _ e' [] reads (by decide +kernel)⟩

end Formula
