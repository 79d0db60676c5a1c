import Formula.Proofs.Likeness
import Formula.Proofs.Spelling
import Mathlib.Data.List.Chain
set_option autoImplicit false

/-!
# Phrases without their parentheses

A canonical text has lost the parentheses of its tree, so its tokens are grouped anew.  Three
ways to build a tree survive that loss as ways to build a sum with the same text: two sums with
an operator between them, a minus in front of a sum, and a factorial sign behind a sum.  The
last needs care: a factor takes one factorial sign only, and no phrase has two in a row.
-/

namespace Formula

open Grammar Token

/-- The text of an operation. -/
def between (lhs : String) (op : Kind) (rhs : String) : String := lhs ++ (" " ++ op.text ++ " ") ++ rhs

theorem render_binary (lhs rhs : Expr) (op : Token) :
    (Expr.binary lhs rhs op).render = between lhs.render op.kind rhs.render := by
  rw [Expr.render, between]

theorem render_marked (e : Expr) {op : Token} (h : op.kind = .factorial) :
    (Expr.unary e op).render = e.render ++ op.text := by
  rw [Expr.render, h, if_neg (by decide)]

theorem append_between (a b : String) (op : Kind) (c : String) :
    a ++ between b op c = between (a ++ b) op c := by
  simp only [between, String.append_assoc]

theorem between_append (a : String) (op : Kind) (b c : String) :
    between a op b ++ c = between a op (b ++ c) := by
  simp only [between, String.append_assoc]

theorem between_between (a : String) (op : Kind) (b : String) (op' : Kind) (c : String) :
    between a op (between b op' c) = between (between a op b) op' c := by
  simp only [between, String.append_assoc]

namespace Grammar

/-- The tokens are a phrase that stands for an expression with the given text. -/
def Prints (q : Nonterminal) (ts : List Token) (text : String) : Prop :=
  ∃ e, Phrase q ts e ∧ e.render = text

theorem Prints.loosen {p q : Nonterminal} {ts : List Token} {text : String}
    (h : Prints p ts text) (le : q.rank ≤ p.rank) : Prints q ts text := by
  obtain ⟨e, hphrase, htext⟩ := h
  exact ⟨e, hphrase.loosen le, htext⟩

theorem Prints.join {op : Token} {kind : Kind} {as bs : List Token} {s u : String}
    (hop : op.kind = kind) (hbinary : kind.isBinary = true) (lhs : Prints (leftOf kind) as s)
    (rhs : Prints (rightOf kind) bs u) : Prints (made kind) (as ++ op :: bs) (between s kind u) := by
  obtain ⟨a, ha, rfl⟩ := lhs
  obtain ⟨b, hb, rfl⟩ := rhs
  exact ⟨.binary a b op, .join hop hbinary ha hb, by rw [render_binary, hop]⟩

/-! ## Operations -/

/-- An operator that does not take a finished operation for its left operand takes the right
operand of that operation. -/
theorem rank_rightOf_le_precedence {kind next : Kind} (hkind : kind.isBinary = true)
    (hnext : next.isBinary = true) (h : (made kind).rank < (leftOf next).rank) :
    (rightOf kind).rank ≤ next.precedence := by
  revert h
  rcases Kind.binary_cases hkind with rfl | rfl | rfl | rfl | rfl <;>
    rcases Kind.binary_cases hnext with rfl | rfl | rfl | rfl | rfl <;> decide

/-- A phrase, an operator and a factor: the factor goes to the operand that the operator takes
from the right end of the phrase. -/
theorem Phrase.append_operation {op : Token} {fs : List Token} {f : Expr}
    (hbinary : op.kind.isBinary = true) (hf : Phrase .factor fs f) {q : Nonterminal}
    {ts : List Token} {e : Expr} (h : Phrase q ts e) (hq : q ≠ .primary) {r : Nonterminal}
    (hr : r.rank ≤ q.rank) (hop : r.rank ≤ op.kind.precedence) :
    Prints r (ts ++ op :: fs) (between e.render op.kind f.render) := by
  have direct {p : Nonterminal} {as : List Token} {a : Expr} {r : Nonterminal} (ha : Phrase p as a)
      (le : (leftOf op.kind).rank ≤ p.rank) (hop : r.rank ≤ op.kind.precedence) :
      Prints r (as ++ op :: fs) (between a.render op.kind f.render) := by
    have lhs : Prints (leftOf op.kind) as a.render := ⟨a, ha.loosen le, rfl⟩
    have rhs : Prints (rightOf op.kind) fs f.render :=
      ⟨f, hf.loosen (rank_rightOf_le op.kind), rfl⟩
    exact (Prints.join rfl hbinary lhs rhs).loosen (by rw [made_rank hbinary]; exact hop)
  refine h.operator_induction (motive := fun q ts e => ∀ r : Nonterminal, r.rank ≤ q.rank →
    r.rank ≤ op.kind.precedence → Prints r (ts ++ op :: fs) (between e.render op.kind f.render))
    ?factor ?loosen ?join hq r hr hop
  case factor =>
    intro ts e hfactor r _ hop
    exact direct hfactor (rank_leftOf_le op.kind) hop
  case loosen =>
    intro p q ts e le ih r hr hop
    exact ih r (Nat.le_trans hr le) hop
  case join =>
    intro op' kind as bs a b hop' hkind lhs _ rhs ih r hr hop
    by_cases tight : (leftOf op.kind).rank ≤ (made kind).rank
    · exact direct (.join hop' hkind lhs rhs) tight hop
    · have right := ih (rightOf kind) (Nat.le_refl _)
        (rank_rightOf_le_precedence hkind hbinary (Nat.lt_of_not_le tight))
      have whole := Prints.join hop' hkind ⟨a, lhs, rfl⟩ right
      rw [between_between] at whole
      rw [render_binary, hop', List.append_assoc, List.cons_append]
      exact whole.loosen hr

/-- Two sums with an operator between them are a sum. -/
theorem Prints.operation {op : Token} (hbinary : op.kind.isBinary = true) {as bs : List Token}
    {s u : String} (lhs : Prints .sum as s) (rhs : Prints .sum bs u) :
    Prints .sum (as ++ op :: bs) (between s op.kind u) := by
  obtain ⟨b, hb, rfl⟩ := rhs
  -- over the operators of the right sum: each goes on where the one before it stopped
  refine hb.operator_induction (motive := fun _ bs b => ∀ (op : Token) as s,
    op.kind.isBinary = true → Prints .sum as s →
      Prints .sum (as ++ op :: bs) (between s op.kind b.render)) ?factor ?loosen ?join (by decide)
    op as s hbinary lhs
  case factor =>
    rintro bs b hfactor op as s hbinary ⟨a, ha, rfl⟩
    refine Phrase.append_operation hbinary hfactor ha (by decide) (Nat.le_refl _) ?_
    rw [← made_rank hbinary]
    cases op.kind <;> decide
  case loosen =>
    intro p q bs b _ ih
    exact ih
  case join =>
    intro op' kind bs cs b c hop' hkind _ ihl _ ihr op as s hbinary ha
    have whole := ihr op' _ _ (by rw [hop']; exact hkind) (ihl op as s hbinary ha)
    rw [List.append_assoc, List.cons_append, hop'] at whole
    rw [render_binary, hop', between_between]
    exact whole

/-! ## Signs -/

/-- A minus in front of a phrase negates its first primary. -/
theorem Prints.minus {op : Token} (hop : op.kind = .minus) {q : Nonterminal} {ts : List Token}
    {text : String} (h : Prints q ts text) (hq : q ≠ .primary) :
    Prints q (op :: ts) ("-" ++ text) := by
  obtain ⟨e, he, rfl⟩ := h
  have negated (e : Expr) :
      (Expr.unary e { kind := .negate, start := op.start }).render = "-" ++ e.render := by
    rw [Expr.render]
    rfl
  refine he.operator_induction (motive := fun q ts e => Prints q (op :: ts) ("-" ++ e.render))
    ?factor ?loosen ?join hq
  case factor =>
    intro ts e hfactor
    cases hfactor with
    | ofPrimary hprimary => exact ⟨_, .ofPrimary (.minus hop hprimary), negated e⟩
    | @factorial sign ts e hprimary hsign =>
        refine ⟨_, .factorial (.minus hop hprimary) hsign, ?_⟩
        rw [render_marked _ hsign, render_marked _ hsign, negated, String.append_assoc]
  case loosen =>
    intro p q ts e le ih
    exact ih.loosen le
  case join =>
    intro op' kind as bs a b hop' hkind _ ihl rhs _
    have whole := Prints.join hop' hkind ihl ⟨b, rhs, rfl⟩
    rw [render_binary, hop', append_between]
    exact whole

/-- A factorial sign behind a phrase belongs to its last primary, if that has none yet. -/
theorem Prints.factorial {op : Token} (hop : op.kind = .factorial) {q : Nonterminal}
    {ts : List Token} {text : String} (h : Prints q ts text) (hq : q ≠ .primary)
    (unmarked : ∀ t ∈ ts.getLast?, t.kind ≠ .factorial) :
    Prints q (ts ++ [op]) (text ++ op.text) := by
  obtain ⟨e, he, rfl⟩ := h
  refine he.operator_induction (motive := fun q ts e =>
    (∀ t ∈ ts.getLast?, t.kind ≠ .factorial) → Prints q (ts ++ [op]) (e.render ++ op.text))
    ?factor ?loosen ?join hq unmarked
  case factor =>
    intro ts e hfactor unmarked
    cases hfactor with
    | ofPrimary hprimary =>
        refine ⟨_, .factorial hprimary hop, ?_⟩
        rw [render_marked _ hop]
    | @factorial sign ts e hprimary hsign => exact absurd hsign (unmarked sign (by simp))
  case loosen =>
    intro p q ts e le ih unmarked
    exact (ih unmarked).loosen le
  case join =>
    intro op' kind as bs a b hop' hkind lhs _ rhs ih unmarked
    have right := ih fun t ht => unmarked t (by
      rw [Option.mem_def] at ht ⊢
      rw [List.getLast?_append, List.getLast?_cons, ht]
      rfl)
    have whole := Prints.join hop' hkind ⟨a, lhs, rfl⟩ right
    rw [render_binary, hop', between_append, List.append_assoc, List.cons_append]
    exact whole

/-! ## No phrase has two factorial signs in a row -/

/-- No two factorial signs follow each other. -/
def Unstacked (ts : List Token) : Prop :=
  ts.IsChain fun t u => ¬ (t.kind = .factorial ∧ u.kind = .factorial)

theorem Unstacked.cons {behind : List Token} {t : Token} (h : t.kind ≠ .factorial)
    (hbehind : Unstacked behind) : Unstacked (t :: behind) :=
  List.isChain_cons.2 ⟨fun _ _ both => h both.1, hbehind⟩

theorem Unstacked.around {before behind : List Token} {t : Token} (h : t.kind ≠ .factorial)
    (hbefore : Unstacked before) (hbehind : Unstacked behind) : Unstacked (before ++ t :: behind) := by
  refine List.isChain_append.2 ⟨hbefore, hbehind.cons h, fun u _ v hv both => ?_⟩
  cases hv
  exact h both.2

theorem unstacked_members {ts members : List Token} (h : Members ts members) : Unstacked ts := by
  induction h with
  | none => exact List.isChain_nil
  | more hperiod hmember _ ih =>
      exact .cons (by simp [hperiod]) (.cons (by simp [hmember]) ih)

theorem unstacked_identifier {ts : List Token} {name : Name} (h : Identifier ts name) :
    Unstacked ts := by
  obtain ⟨hfirst, further⟩ := h
  exact (unstacked_members further).cons (by simp [hfirst])

/-- The last token of a name is an identifier. -/
theorem getLast_identifier {ts : List Token} {name : Name} (h : Identifier ts name) :
    ∀ t ∈ ts.getLast?, t.kind = .identifier := by
  obtain ⟨hfirst, further⟩ := h
  rename_i first ts others
  induction further generalizing first with
  | none => intro t ht; cases ht; exact hfirst
  | more _ hmember _ ih => exact fun t ht => ih hmember t (by simpa using ht)

theorem unmarked_of_getLast {ts : List Token} {last : Token} (hlast : ts.getLast? = some last)
    (h : last.kind ≠ .factorial) : ∀ t ∈ ts.getLast?, t.kind ≠ .factorial := by
  intro t ht
  rw [hlast] at ht
  cases ht
  exact h

/-- A primary does not end with a factorial sign. -/
theorem unmarked_primary {q : Nonterminal} {ts : List Token} {e : Expr} :
    Phrase q ts e → q = .primary → ∀ t ∈ ts.getLast?, t.kind ≠ .factorial
  | .number hkind _ _, _ => unmarked_of_getLast List.getLast?_singleton (by simp [hkind])
  | .name h, _ => fun t ht => by simp [getLast_identifier h t ht]
  | .emptyCall _ _ hclosing, _ => by
      rw [List.append_cons]
      exact unmarked_of_getLast List.getLast?_concat (by simp [hclosing])
  | .call _ _ _ hclosing, _ => unmarked_of_getLast List.getLast?_concat (by simp [hclosing])
  | .group _ _ hclosing, _ => unmarked_of_getLast List.getLast?_concat (by simp [hclosing])
  | .minus hop h, _ | .negation hop h, _ => by
      intro t ht
      rw [List.getLast?_cons] at ht
      cases hlast : List.getLast? _ with
      | none =>
          rw [hlast] at ht
          cases ht
          simp [hop]
      | some u =>
          rw [hlast] at ht
          cases ht
          exact unmarked_primary h rfl _ hlast

mutual

theorem unstacked_phrase {q : Nonterminal} {ts : List Token} {e : Expr} :
    Phrase q ts e → Unstacked ts
  | .addition lhs hop rhs =>
      .around (by rcases hop with hop | hop <;> simp [hop]) (unstacked_phrase lhs)
        (unstacked_phrase rhs)
  | .multiplication lhs hop rhs =>
      .around (by rcases hop with hop | hop <;> simp [hop]) (unstacked_phrase lhs)
        (unstacked_phrase rhs)
  | .exponentiation lhs hop rhs =>
      .around (by simp [hop]) (unstacked_phrase lhs) (unstacked_phrase rhs)
  | .ofProduct h => unstacked_phrase h
  | .ofPower h => unstacked_phrase h
  | .ofFactor h => unstacked_phrase h
  | .ofPrimary h => unstacked_phrase h
  | .factorial h _ =>
      List.isChain_append.2 ⟨unstacked_phrase h, List.isChain_singleton _,
        fun t ht _ _ both => unmarked_primary h rfl t ht both.1⟩
  | .number _ _ _ => List.isChain_singleton _
  | .name h => unstacked_identifier h
  | .emptyCall h hopening _ =>
      .around (by simp [hopening]) (unstacked_identifier h) (List.isChain_singleton _)
  | .call h hopening arguments hclosing =>
      .around (by simp [hclosing])
        (.around (by simp [hopening]) (unstacked_identifier h) (unstacked_arguments arguments))
        List.isChain_nil
  | .group hopening h hclosing =>
      .around (by simp [hclosing])
        ((unstacked_phrase h).cons (by simp [hopening]))
        List.isChain_nil
  | .minus hop h => (unstacked_phrase h).cons (by simp [hop])
  | .negation hop h => (unstacked_phrase h).cons (by simp [hop])

theorem unstacked_arguments {ts : List Token} {es : List Expr} : Arguments ts es → Unstacked ts
  | .one h => unstacked_phrase h
  | .more h hcomma others =>
      .around (by simp [hcomma]) (unstacked_phrase h) (unstacked_arguments others)

end

/-! ## From a spelling back to a phrase -/

theorem members_spelling {others : List Token} (h : ∀ member ∈ others, member.kind = .identifier)
    {ts : List Token}
    (hts : ts.map unplaced =
      others.flatMap fun member => [{ kind := .period }, member.unplaced]) :
    ∃ others', Members ts others' ∧ others'.map Token.unplaced = others.map Token.unplaced := by
  induction others generalizing ts with
  | nil =>
      obtain rfl := List.map_eq_nil_iff.1 hts
      exact ⟨[], .none, rfl⟩
  | cons member others ih =>
      rw [List.flatMap_cons, List.cons_append, List.cons_append, List.nil_append] at hts
      obtain ⟨period, ts, rfl, hperiod, hrest⟩ := List.map_eq_cons_iff.1 hts
      obtain ⟨member', ts, rfl, hmember, hrest⟩ := List.map_eq_cons_iff.1 hrest
      obtain ⟨hkind, hothers⟩ := List.forall_mem_cons.1 h
      obtain ⟨others', further, htail⟩ := ih hothers hrest
      refine ⟨member' :: others', .more (kind_of_unplaced (t := { kind := .period }) hperiod)
        ((kind_of_unplaced hmember).trans hkind) further, ?_⟩
      rw [List.map_cons, List.map_cons, htail, hmember]

/-- The spelling of a name is the name, but for its columns. -/
theorem identifier_spelling {name : Name} (h : name.WellMade Legible) {ts : List Token}
    (hts : ts.map unplaced = name.spelling) :
    ∃ name', Identifier ts name' ∧ name'.unplaced = name.unplaced := by
  obtain ⟨hfirst, hothers⟩ := List.forall_mem_cons.1 h
  obtain ⟨first', ts, rfl, hunplaced, hrest⟩ := List.map_eq_cons_iff.1 hts
  obtain ⟨others', further, htail⟩ :=
    members_spelling (fun member hmember => (hothers member hmember).1) hrest
  refine ⟨⟨first', others'⟩, .members ((kind_of_unplaced hunplaced).trans hfirst.1) further, ?_⟩
  rw [Name.unplaced, Name.unplaced, htail, hunplaced]

theorem text_of_name_unplaced {a b : Name} (h : a.unplaced = b.unplaced) : a.text = b.text := by
  rw [← a.text_unplaced, h, b.text_unplaced]

theorem map_around {ts before behind : List Token} {t : Token}
    (h : ts.map unplaced = before ++ t :: behind) :
    ∃ as u bs, ts = as ++ u :: bs ∧ as.map unplaced = before ∧ u.unplaced = t ∧
      bs.map unplaced = behind := by
  obtain ⟨as, rest, rfl, has, hrest⟩ := List.map_eq_append_iff.1 h
  obtain ⟨u, bs, rfl, hu, hbs⟩ := List.map_eq_cons_iff.1 hrest
  exact ⟨as, u, bs, rfl, has, hu, hbs⟩

/-- The spelling of a number is the number, but for its column. -/
theorem number_spelling {t : Token} (h : (Expr.number t).WellMade Legible) {ts : List Token}
    (hts : ts.map unplaced = (Expr.number t).spelling) :
    ∃ u, Phrase .primary ts (.number u) ∧ u.unplaced = t.unplaced := by
  obtain ⟨⟨hkind, _⟩, spelling, hlexeme, hliteral⟩ := h
  rw [Expr.spelling] at hts
  obtain ⟨u, rfl, hu⟩ := List.map_eq_singleton_iff.1 hts
  have hlexeme' : u.lexeme = some spelling := by
    rw [← unplaced_lexeme u, hu]
    exact hlexeme
  exact ⟨u, .number ((kind_of_unplaced hu).trans hkind) hlexeme' hliteral, hu⟩

/-- The spelling of a call is the name, and between parentheses the spelling of the arguments. -/
theorem call_spelling {name : Name} {arguments : List Expr} (h : name.WellMade Legible)
    {ts : List Token} (hts : ts.map unplaced = (Expr.call name arguments).spelling) :
    ∃ name' us vs opening closing, ts = us ++ opening :: (vs ++ [closing]) ∧
      Identifier us name' ∧ name'.unplaced = name.unplaced ∧ opening.kind = .openParen ∧
      vs.map unplaced = Expr.spellingAll arguments ∧ closing.kind = .closeParen := by
  rw [Expr.spelling] at hts
  obtain ⟨us, opening, rest, rfl, hus, hopening, hrest⟩ := map_around hts
  obtain ⟨vs, closing, rest, rfl, hvs, hclosing, hrest⟩ := map_around hrest
  obtain rfl := List.map_eq_nil_iff.1 hrest
  obtain ⟨name', hidentifier, hunplaced⟩ := identifier_spelling h hus
  exact ⟨name', us, vs, opening, closing, rfl, hidentifier, hunplaced,
    kind_of_unplaced (t := { kind := .openParen }) hopening, hvs,
    kind_of_unplaced (t := { kind := .closeParen }) hclosing⟩

/-- The tokens of arguments with the given text. -/
def PrintsArguments (ts : List Token) (text : String) : Prop :=
  ∃ es, Arguments ts es ∧ Expr.renderAll es = text

theorem Prints.emptyCall {name : Name} {opening closing : Token} {us : List Token}
    (hname : Identifier us name) (hopening : opening.kind = .openParen)
    (hclosing : closing.kind = .closeParen) :
    Prints .sum (us ++ opening :: ([] ++ [closing])) (name.text ++ "(" ++ Expr.renderAll [] ++ ")") := by
  refine ⟨.call name [], ?_, by rw [Expr.render]⟩
  exact (Phrase.emptyCall hname hopening hclosing).loosen (by decide)

/-- A name and arguments between parentheses are a call. -/
theorem Prints.call {name : Name} {opening closing : Token} {us vs : List Token} {text : String}
    (hname : Identifier us name) (hopening : opening.kind = .openParen)
    (hclosing : closing.kind = .closeParen) (arguments : PrintsArguments vs text) :
    Prints .sum (us ++ opening :: (vs ++ [closing])) (name.text ++ "(" ++ text ++ ")") := by
  obtain ⟨es, hphrases, rfl⟩ := arguments
  have hcall := Phrase.call hname hopening hphrases hclosing
  rw [List.append_assoc, List.cons_append] at hcall
  exact ⟨.call name es, hcall.loosen (by decide), by rw [Expr.render]⟩

mutual

/-- The spelling of a tree is a sum with the same text, unless two factorial signs have come
together in it. -/
theorem prints_spelling : ∀ (e : Expr) {ts : List Token}, e.WellMade Legible →
    Unstacked ts → ts.map unplaced = e.spelling → Prints .sum ts e.render
  | .number t, ts, h, _, hts => by
      obtain ⟨u, hnumber, hu⟩ := number_spelling h hts
      refine ⟨.number u, hnumber.loosen (by decide), ?_⟩
      rw [Expr.render, Expr.render, text_of_unplaced hu]
  | .identifier name, ts, h, _, hts => by
      rw [Expr.spelling] at hts
      obtain ⟨name', hname, hunplaced⟩ := identifier_spelling h hts
      refine ⟨.identifier name', (Phrase.name hname).loosen (by decide), ?_⟩
      rw [Expr.render, Expr.render, text_of_name_unplaced hunplaced]
  | .binary lhs rhs op, ts, h, unstacked, hts => by
      obtain ⟨hlhs, hrhs, hbinary, _⟩ := h
      rw [Expr.spelling] at hts
      obtain ⟨as, op', bs, rfl, has, hop, hbs⟩ := map_around hts
      have hkind : op'.kind = op.kind := kind_of_unplaced (t := { kind := op.kind }) hop
      obtain ⟨left, right, _⟩ := List.isChain_append.1 unstacked
      have whole := Prints.operation (by rw [hkind]; exact hbinary)
        (prints_spelling lhs hlhs left has)
        (prints_spelling rhs hrhs (List.isChain_cons.1 right).2 hbs)
      rw [hkind] at whole
      rw [render_binary]
      exact whole
  | .unary operand op, ts, h, unstacked, hts => by
      obtain ⟨hoperand, hunary, hlegible⟩ := h
      rcases Kind.unary_cases hunary with hop | hop
      · rw [Expr.spelling_negation hop] at hts
        obtain ⟨sign, us, rfl, hsign, hus⟩ := List.map_eq_cons_iff.1 hts
        rw [Expr.render_negation hop hlegible]
        refine Prints.minus (kind_of_unplaced (t := { kind := .minus }) hsign) ?_ (by decide)
        exact prints_spelling operand hoperand (List.isChain_cons.1 unstacked).2 hus
      · rw [Expr.spelling_factorial hop] at hts
        obtain ⟨us, sign, rest, rfl, hus, hsign, hrest⟩ := map_around hts
        obtain rfl := List.map_eq_nil_iff.1 hrest
        obtain ⟨left, _, apart⟩ := List.isChain_append.1 unstacked
        have hkind : sign.kind = .factorial := kind_of_unplaced (t := { kind := .factorial }) hsign
        have whole := Prints.factorial hkind (prints_spelling operand hoperand left hus) (by decide)
          fun t ht hmark => apart t ht sign rfl ⟨hmark, hkind⟩
        rw [text_of_unplaced (t := { kind := .factorial }) hsign] at whole
        rw [Expr.render_factorial hop hlegible]
        exact whole
  | .call name arguments, ts, h, unstacked, hts => by
      obtain ⟨hname, harguments⟩ := h
      obtain ⟨name', us, vs, opening, closing, rfl, hidentifier, hunplaced, hopening, hvs, hclosing⟩ :=
        call_spelling hname hts
      rw [Expr.render, ← text_of_name_unplaced hunplaced]
      cases arguments with
      | nil =>
          obtain rfl := List.map_eq_nil_iff.1 hvs
          exact Prints.emptyCall hidentifier hopening hclosing
      | cons e es =>
          obtain ⟨_, right, _⟩ := List.isChain_append.1 unstacked
          obtain ⟨inner, _, _⟩ := List.isChain_append.1 (List.isChain_cons.1 right).2
          exact Prints.call hidentifier hopening hclosing
            (prints_spellingAll (e :: es) (List.cons_ne_nil e es) harguments inner hvs)

theorem prints_spellingAll : ∀ (es : List Expr) {ts : List Token}, es ≠ [] →
    Expr.AllWellMade Legible es → Unstacked ts → ts.map unplaced = Expr.spellingAll es →
    PrintsArguments ts (Expr.renderAll es)
  | [], _, ne, _, _, _ => absurd rfl ne
  | [e], ts, _, h, unstacked, hts => by
      obtain ⟨e', hphrase, htext⟩ := prints_spelling e h.1 unstacked hts
      exact ⟨[e'], .one hphrase, htext⟩
  | e :: e' :: es, ts, _, h, unstacked, hts => by
      rw [Expr.spellingAll_cons] at hts
      obtain ⟨us, comma, vs, rfl, hus, hcomma, hvs⟩ := map_around hts
      obtain ⟨left, right, _⟩ := List.isChain_append.1 unstacked
      obtain ⟨first, hfirst, hfirstText⟩ := prints_spelling e h.1 left hus
      obtain ⟨others, hothers, htexts⟩ := prints_spellingAll (e' :: es) (List.cons_ne_nil e' es) h.2
        (List.isChain_cons.1 right).2 hvs
      refine ⟨first :: others,
        .more hfirst (kind_of_unplaced (t := { kind := .comma }) hcomma) hothers, ?_⟩
      cases others with
      | nil => cases hothers
      | cons second others => rw [Expr.renderAll_cons, Expr.renderAll_cons, hfirstText, htexts]

end

end Grammar

end Formula
