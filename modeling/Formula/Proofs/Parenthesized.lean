import Formula.Proofs.Columns
import Formula.Proofs.Completeness
import Formula.Proofs.Normal
import Formula.Proofs.Spacing
set_option autoImplicit false

/-!
# Parentheses can express every tree

The canonical text of a tree shows its tokens and not its shape.  With parentheses around every
operand it shows both: it is read as the tree again, whatever the shape, also where the canonical
text is read as another tree or not at all.

The reading is followed through the tree.  Four frames for each level of nodes are enough, and more
do not change anything: an operand takes three for the expression, the factor and the primary that
it stands in, and one for the sign in front of it, the climb to its left or the list it belongs to.
-/

namespace Formula

open Token Grammar

/-! ## Parenthesized trees -/

/-- A text between parentheses. -/
def Text.enclosed (text : String) : String := "(" ++ text ++ ")"

/-- Tokens between parentheses. -/
def enclosed (ts : List Token) : List Token :=
  { kind := .openParen } :: (ts ++ [{ kind := .closeParen }])

namespace Expr

mutual

/-- The text with parentheses around every operand, and with a gap on both sides of a binary
operator and behind a comma. -/
def parenthesized (gap : String) : Expr → String
  | .number t => t.text
  | .identifier name => name.text
  | .binary lhs rhs op =>
      Text.enclosed (lhs.parenthesized gap) ++ (gap ++ op.text ++ gap)
        ++ Text.enclosed (rhs.parenthesized gap)
  | .unary operand op =>
      if op.kind.isLeftAssociative then op.text ++ Text.enclosed (operand.parenthesized gap)
      else Text.enclosed (operand.parenthesized gap) ++ op.text
  | .call name arguments => name.text ++ Text.enclosed (parenthesizedAll gap arguments)

/-- The texts of a list with commas between them. -/
def parenthesizedAll (gap : String) : List Expr → String
  | [] => ""
  | [e] => e.parenthesized gap
  | e :: rest => e.parenthesized gap ++ ("," ++ gap) ++ parenthesizedAll gap rest

end

mutual

/-- The tokens of the text with parentheses around every operand. -/
def parentheses : Expr → List Token
  | .number t => [t.unplaced]
  | .identifier name => name.spelling
  | .binary lhs rhs op =>
      enclosed lhs.parentheses ++ { kind := op.kind } :: enclosed rhs.parentheses
  | .unary operand op =>
      if op.kind.isLeftAssociative then { kind := .minus } :: enclosed operand.parentheses
      else enclosed operand.parentheses ++ [{ kind := .factorial }]
  | .call name arguments => name.spelling ++ enclosed (parenthesesAll arguments)

/-- The tokens of a list with commas between them. -/
def parenthesesAll : List Expr → List Token
  | [] => []
  | [e] => e.parentheses
  | e :: rest => e.parentheses ++ { kind := .comma } :: parenthesesAll rest

end

theorem parenthesizedAll_cons (gap : String) (e e' : Expr) (es : List Expr) :
    parenthesizedAll gap (e :: e' :: es) =
      e.parenthesized gap ++ ("," ++ gap) ++ parenthesizedAll gap (e' :: es) := by
  rw [parenthesizedAll]
  exact List.cons_ne_nil e' es

theorem parenthesesAll_cons (e e' : Expr) (es : List Expr) :
    parenthesesAll (e :: e' :: es) =
      e.parentheses ++ { kind := .comma } :: parenthesesAll (e' :: es) := by
  rw [parenthesesAll]
  exact List.cons_ne_nil e' es

end Expr

/-! ## The tokens of the text -/

theorem quiet_closing (rest : List Char) : Quiet (')' :: rest) :=
  quiet_sign (c := ')') rfl (by decide) rest

/-- A text between parentheses is cut into its tokens between parentheses, if it is cut into them
in front of a parenthesis. -/
theorem lexed_enclosed {text : String} {ts : List Token}
    (h : ∀ rest, Quiet rest → lexed (text.toList ++ rest) = ts ++ lexed rest) (rest : List Char) :
    lexed ((Text.enclosed text).toList ++ rest) = enclosed ts ++ lexed rest := by
  have hopening : "(".toList = ['('] := rfl
  have hclosing : ")".toList = [')'] := rfl
  rw [Text.enclosed, String.toList_append, String.toList_append, hopening, hclosing,
    List.append_assoc, List.append_assoc, List.singleton_append, List.singleton_append,
    lexed_sign rfl (by decide), h _ (quiet_closing rest), lexed_sign rfl (by decide)]
  rw [enclosed, List.cons_append, List.append_assoc, List.singleton_append]

/-- An operator that has no spelling of its own is cut off whatever follows it. -/
theorem lexed_operatorText {op : Token} {c : Char} {kind : Kind} (hlexeme : op.lexeme = none)
    (htext : op.kind.text = kind.text) (hc : Kind.ofChar? c = some kind) (hkind : kind ≠ .period)
    (rest : List Char) : lexed (op.text.toList ++ rest) = { kind } :: lexed rest := by
  have hchars : op.text.toList = [c] := by
    rw [Token.text, hlexeme, Option.getD_none, htext, Kind.text_of_ofChar? hc,
      String.toList_singleton]
  rw [hchars, List.singleton_append, lexed_sign hc hkind]

section Lexed

variable {gap : String}

mutual

/-- The parenthesized text of a legible tree, in front of anything quiet, is cut into the tokens of
the tree and the parentheses. -/
theorem lexed_parenthesized (hgap : ∀ c ∈ gap.toList, Text.isBlank c = true) :
    ∀ (e : Expr), e.WellMade Legible → ∀ rest, Quiet rest →
      lexed ((e.parenthesized gap).toList ++ rest) = e.parentheses ++ lexed rest
  | .number t, h, rest, quiet => by
      obtain ⟨⟨hkind, hlegible⟩, _⟩ := h
      have hcuts := hlegible.cuts (by rw [hkind]; decide)
      rw [Expr.parenthesized, lexed_cuts hcuts (quiet.apart (by rw [hkind]; decide))]
      rfl
  | .identifier name, h, rest, quiet => by
      rw [Expr.parenthesized, lexed_name h quiet]
      rfl
  | .binary lhs rhs op, h, rest, _ => by
      obtain ⟨hlhs, hrhs, hbinary, hlegible⟩ := h
      obtain ⟨c, hc⟩ := exists_char_of_isBinary hbinary
      have hlexeme := hlegible.lexeme_eq_none (by rw [Kind.isOperator, hbinary]; rfl)
      have hperiod : op.kind ≠ .period := by
        intro hkind
        rw [hkind] at hbinary
        cases hbinary
      rw [Expr.parenthesized, Expr.parentheses]
      simp only [String.toList_append, List.append_assoc]
      rw [lexed_enclosed (lexed_parenthesized hgap lhs hlhs), lexed_blanks hgap,
        lexed_operatorText hlexeme rfl hc hperiod, lexed_blanks hgap,
        lexed_enclosed (lexed_parenthesized hgap rhs hrhs), List.cons_append]
  | .unary operand op, h, rest, _ => by
      obtain ⟨hoperand, hunary, hlegible⟩ := h
      have hinner := lexed_enclosed (lexed_parenthesized hgap operand hoperand)
      have hlexeme := hlegible.lexeme_eq_none (by rw [Kind.isOperator, hunary, Bool.or_true])
      rw [Expr.parenthesized, Expr.parentheses]
      rcases Kind.unary_cases hunary with hop | hop
      · have htext : op.kind.text = Kind.minus.text := by rw [hop]; rfl
        rw [hop, if_pos (by decide), if_pos (by decide), String.toList_append, List.append_assoc,
          lexed_operatorText hlexeme htext (c := '-') rfl (by decide), hinner, List.cons_append]
      · have htext : op.kind.text = Kind.factorial.text := by rw [hop]
        rw [hop, if_neg (by decide), if_neg (by decide), String.toList_append, List.append_assoc,
          hinner, lexed_operatorText hlexeme htext (c := '!') rfl (by decide), List.append_assoc,
          List.singleton_append]
  | .call name arguments, h, rest, _ => by
      obtain ⟨hname, harguments⟩ := h
      have hquiet :
          Quiet ((Text.enclosed (Expr.parenthesizedAll gap arguments)).toList ++ rest) := by
        simp only [Text.enclosed, String.toList_append, List.append_assoc]
        exact quiet_sign (c := '(') rfl (by decide) _
      rw [Expr.parenthesized, Expr.parentheses, String.toList_append, List.append_assoc,
        lexed_name hname hquiet, lexed_enclosed (lexed_parenthesizedAll hgap arguments harguments),
        List.append_assoc]

theorem lexed_parenthesizedAll (hgap : ∀ c ∈ gap.toList, Text.isBlank c = true) :
    ∀ (es : List Expr), Expr.AllWellMade Legible es → ∀ rest, Quiet rest →
      lexed ((Expr.parenthesizedAll gap es).toList ++ rest) =
        Expr.parenthesesAll es ++ lexed rest
  | [], _, rest, _ => by
      rw [Expr.parenthesizedAll, Expr.parenthesesAll]
      rfl
  | [e], h, rest, quiet => by
      rw [Expr.parenthesizedAll, Expr.parenthesesAll]
      exact lexed_parenthesized hgap e h.1 rest quiet
  | e :: e' :: es, h, rest, quiet => by
      have hcomma : ",".toList = [','] := rfl
      rw [Expr.parenthesizedAll_cons, Expr.parenthesesAll_cons]
      simp only [String.toList_append, List.append_assoc]
      rw [hcomma, List.singleton_append,
        lexed_parenthesized hgap e h.1 _ (quiet_sign (c := ',') rfl (by decide) _),
        lexed_sign rfl (by decide), lexed_blanks hgap,
        lexed_parenthesizedAll hgap (e' :: es) h.2 rest quiet, List.cons_append]

end

/-- The tokens of the parenthesized text of a legible tree. -/
theorem unplaced_ofText_parenthesized {e : Expr} (h : e.WellMade Legible)
    (hgap : ∀ c ∈ gap.toList, Text.isBlank c = true) :
    (Token.ofText (e.parenthesized gap)).map Token.unplaced = e.parentheses := by
  have hlexed := lexed_parenthesized hgap e h [] quiet_nil
  rw [List.append_nil, lexed_nil, List.append_nil] at hlexed
  rw [Token.ofText, scan_unplaced, hlexed]

end Lexed

/-! ## Reading within frames -/

namespace Reader

/-- The tokens are read as an expression in front of whatever closes one, if there are four frames
for each of so many levels of nodes. -/
def ReadsWithin (depth : Nat) (ts : List Token) (e : Expr) : Prop :=
  ∀ frames rest, 4 * depth ≤ frames → Closes rest → expression frames (ts ++ rest) = .ok e rest

/-- The tokens are read as arguments in front of a closing parenthesis. -/
def ReadsAllWithin (depth : Nat) (ts : List Token) (es : List Expr) : Prop :=
  ∀ frames closing rest, 4 * depth ≤ frames → closing.kind = .closeParen →
    argumentsWith (expression frames) (ts ++ closing :: rest) = .ok es (closing :: rest)

theorem factor_of_primary {frames : Nat} {ts rest : List Token} {e : Expr}
    (h : primary (frames - 1) ts = .ok e rest) (plain : ∀ t ∈ rest.head?, t.kind.isUnary = false) :
    factor frames ts = .ok e rest := by
  rw [factor, factorWith_eq, h, Reply.andThen_ok, closeFactor_stops plain]

theorem factor_of_factorial {frames : Nat} {op : Token} {ts rest : List Token} {e : Expr}
    (h : primary (frames - 1) ts = .ok e (op :: rest)) (hop : op.kind = .factorial) :
    factor frames ts = .ok (.unary e op) rest := by
  rw [factor, factorWith_eq, h, Reply.andThen_ok, closeFactor_factorial hop]

theorem expression_of_factor {frames : Nat} {ts rest : List Token} {e : Expr}
    (h : factor (frames - 1) ts = .ok e rest) (closes : Closes rest) :
    expression frames ts = .ok e rest := by
  have hfirst : factors frames 1 ts = .ok e rest := h
  rw [expression_eq, chain, hfirst, Reply.andThen_ok, climbAll_stops_of_head (closes.not_joins 1)]

theorem Closes.plain {rest : List Token} (h : Closes rest) :
    ∀ t ∈ rest.head?, t.kind.isUnary = false := by
  intro t ht
  rcases h t ht with hk | hk <;> rw [hk] <;> rfl

theorem expression_of_primary {frames : Nat} {ts rest : List Token} {e : Expr}
    (h : primary (frames - 2) ts = .ok e rest) (closes : Closes rest) :
    expression frames ts = .ok e rest :=
  expression_of_factor (factor_of_primary h closes.plain) closes

/-- A primary that has a frame is read by the readers that are nested in it. -/
theorem primary_of_nested {frames : Nat} (room : 0 < frames) {ts rest : List Token} {e : Expr}
    (h : ∀ inner, frames = inner + 1 →
      primaryWith (fun around => primary (inner - around)) ts = .ok e rest) :
    primary frames ts = .ok e rest := by
  obtain ⟨inner, rfl⟩ := Nat.exists_eq_add_of_le' room
  rw [primary_succ, h inner rfl]

/-! ## Operands -/

section Operands

variable {depth depth' : Nat} {as bs ts : List Token} {a b e : Expr} {op : Token}

theorem ReadsWithin.primary_enclosed (h : ReadsWithin depth ts e) {frames : Nat}
    (room : 4 * depth < frames) (rest : List Token) :
    primary frames (enclosed ts ++ rest) = .ok e rest := by
  refine primary_of_nested (by omega) fun inner hinner => ?_
  have hread : expression inner (ts ++ { kind := .closeParen } :: rest) =
      .ok e ({ kind := .closeParen } :: rest) := h inner _ (by omega) (closes_closeParen rfl rest)
  rw [enclosed, List.cons_append, List.append_assoc, List.singleton_append,
    primaryWith_openParen _ rfl, closeGroup]
  rw [expression] at hread
  rw [hread, Reply.andThen_ok]
  rfl

/-- A binary operation: the climb in which the right operand is read is one frame more than the left
one takes. -/
theorem ReadsWithin.binary (hbinary : op.kind.isBinary = true) (lhs : ReadsWithin depth as a)
    (rhs : ReadsWithin depth' bs b) :
    ReadsWithin (max depth depth' + 1) (enclosed as ++ op :: enclosed bs) (.binary a b op) := by
  intro frames rest room closes
  have hjoins : joins 1 op = true := by
    refine joins_iff.2 ⟨hbinary, ?_⟩
    rcases Kind.binary_cases hbinary with hk | hk | hk | hk | hk <;> rw [hk] <;> decide
  have hplain : ∀ t ∈ (op :: (enclosed bs ++ rest)).head?, t.kind.isUnary = false := by
    intro t ht
    cases ht
    rcases Kind.binary_cases hbinary with hk | hk | hk | hk | hk <;> rw [hk] <;> rfl
  have hleft : factors frames 1 (enclosed as ++ op :: (enclosed bs ++ rest)) =
      .ok a (op :: (enclosed bs ++ rest)) :=
    factor_of_primary (lhs.primary_enclosed (by omega) _) hplain
  have hright : chain (factors frames) 2 op.kind.rightThreshold (enclosed bs ++ rest) =
      .ok b rest := by
    have hfactor : factors frames 2 (enclosed bs ++ rest) = .ok b rest :=
      factor_of_primary (rhs.primary_enclosed (by omega) rest) closes.plain
    rw [chain, hfactor, Reply.andThen_ok, climbAll_stops_of_head (closes.not_joins _)]
  rw [List.append_assoc, List.cons_append, expression_eq, chain, hleft, Reply.andThen_ok,
    climbAll_joins (advances_factors frames) hjoins, hright, Reply.andThen_ok,
    climbAll_stops_of_head (closes.not_joins 1)]

/-- A negation: the operand is a primary behind the primary that the sign opens. -/
theorem ReadsWithin.negation (hop : op.kind = .minus) (h : ReadsWithin depth ts e) :
    ReadsWithin (depth + 1) (op :: enclosed ts)
      (.unary e { kind := .negate, start := op.start }) := by
  intro frames rest room closes
  refine expression_of_primary (primary_of_nested (by omega) fun inner hinner => ?_) closes
  rw [List.cons_append, primaryWith_minus _ hop, h.primary_enclosed (by omega) rest]
  rfl

theorem ReadsWithin.factorial (hop : op.kind = .factorial) (h : ReadsWithin depth ts e) :
    ReadsWithin (depth + 1) (enclosed ts ++ [op]) (.unary e op) := by
  intro frames rest room closes
  rw [List.append_assoc, List.singleton_append]
  exact expression_of_factor (factor_of_factorial (h.primary_enclosed (by omega) _) hop) closes

end Operands

/-! ## Numbers, names and calls -/

section Number

variable {t : Token} {spelling : String}

theorem primary_number {frames : Nat} (room : 0 < frames) (hkind : t.kind = .number)
    (hlexeme : t.lexeme = some spelling) (hliteral : (Double.ofLiteral? spelling).isSome)
    (rest : List Token) : primary frames (t :: rest) = .ok (.number t) rest := by
  refine primary_of_nested room fun inner _ => ?_
  rw [primaryWith_number _ hkind]
  exact number_complete hkind hlexeme hliteral rest

theorem readsWithin_number (hkind : t.kind = .number) (hlexeme : t.lexeme = some spelling)
    (hliteral : (Double.ofLiteral? spelling).isSome) : ReadsWithin 1 [t] (.number t) :=
  fun _ rest _ closes =>
    expression_of_primary (primary_number (by omega) hkind hlexeme hliteral rest) closes

end Number

/-- Behind a name, what is not a further member is read by `closeName`. -/
theorem primaryWith_name (nested : Nat → Reader Expr) {ts rest : List Token} {name : Name}
    (h : Identifier ts name) (noPeriod : ∀ t ∈ rest.head?, t.kind ≠ .period) :
    primaryWith nested (ts ++ rest) =
        closeName (expressionWith fun around => nested (around + 1)) name rest := by
  have hname := identifier_complete h noPeriod
  obtain ⟨hfirst, further⟩ := h
  rw [List.cons_append] at hname ⊢
  rw [primaryWith_identifier _ hfirst, hname, Reply.andThen_ok]

theorem readsWithin_name {ts : List Token} {name : Name} (h : Identifier ts name) :
    ReadsWithin 1 ts (.identifier name) := by
  intro frames rest room closes
  have other {kind : Kind} (hparen : kind ≠ .closeParen) (hcomma : kind ≠ .comma) :
      ∀ t ∈ rest.head?, t.kind ≠ kind := by
    rintro t ht rfl
    rcases closes t ht with hk | hk
    · exact hparen hk
    · exact hcomma hk
  refine expression_of_primary (primary_of_nested (by omega) fun inner _ => ?_) closes
  rw [primaryWith_name _ h (other (by decide) (by decide)),
    closeName_stops _ name (other (by decide) (by decide))]

/-- A call: the list of its arguments is one frame more than its primary takes. -/
theorem readsWithin_call {depth : Nat} {ts us : List Token} {name : Name} {es : List Expr}
    (h : Identifier ts name) (arguments : es = [] ∧ us = [] ∨ ReadsAllWithin depth us es) :
    ReadsWithin (depth + 1) (ts ++ enclosed us) (.call name es) := by
  intro frames rest room closes
  refine expression_of_primary (primary_of_nested (by omega) fun inner hinner => ?_) closes
  have hread : (if isNext .closeParen (us ++ { kind := .closeParen } :: rest) then
        Reply.ok [] (us ++ { kind := .closeParen } :: rest)
      else argumentsWith (expression (inner - 1)) (us ++ { kind := .closeParen } :: rest)) =
        .ok es ({ kind := .closeParen } :: rest) := by
    rcases arguments with ⟨rfl, rfl⟩ | arguments
    · rfl
    · have hlist := arguments (inner - 1) { kind := .closeParen } rest (by omega) rfl
      obtain ⟨used, hused, hphrases⟩ :=
        argumentsWith_sound (advances_expression _) (expression_sound _) _ _ _ hlist
      obtain rfl := List.append_cancel_right hused
      rw [isNext_closeParen_arguments hphrases, if_neg Bool.false_ne_true, hlist]
  rw [List.append_assoc, enclosed, List.cons_append, List.append_assoc, List.singleton_append,
    primaryWith_name _ h fun t ht => by cases ht; decide, closeName_openParen _ name rfl,
    callWith_eq]
  rw [expressionWith_inArguments, hread, Reply.andThen_ok]
  rfl

theorem readsAllWithin_one {depth : Nat} {ts : List Token} {e : Expr}
    (h : ReadsWithin depth ts e) : ReadsAllWithin depth ts [e] := by
  intro frames closing rest room hclosing
  rw [argumentsWith_eq, h frames _ room (closes_closeParen hclosing rest),
    Reply.andThen_ok, furtherAll_stops _ (by rw [hclosing]; decide)]
  rfl

theorem readsAllWithin_more {depth depth' : Nat} {comma : Token} {ts us : List Token} {e : Expr}
    {es : List Expr} (hcomma : comma.kind = .comma) (h : ReadsWithin depth ts e)
    (others : ReadsAllWithin depth' us es) :
    ReadsAllWithin (max depth depth') (ts ++ comma :: us) (e :: es) := by
  intro frames closing rest room hclosing
  have hothers := others frames closing rest (by omega) hclosing
  rw [argumentsWith_eq] at hothers ⊢
  rw [List.append_assoc, List.cons_append, h frames _ (by omega) (closes_comma hcomma _),
    Reply.andThen_ok, furtherAll_comma (advances_expression frames) hcomma, hothers]
  rfl

end Reader

/-! ## Reading parenthesized trees -/

/-- The tokens of a name are read as the name, but for its columns. -/
theorem identifier_spelling_self {name : Name} (h : name.WellMade Legible) :
    Identifier name.spelling name.unplaced := by
  obtain ⟨hfirst, hothers⟩ := List.forall_mem_cons.1 h
  have further {others : List Token} (h : ∀ t ∈ others, t.kind = .identifier ∧ t.Legible) :
      Members (others.flatMap fun member => [{ kind := .period }, member.unplaced])
        (others.map Token.unplaced) := by
    induction others with
    | nil => exact .none
    | cons member others ih =>
        obtain ⟨hmember, hrest⟩ := List.forall_mem_cons.1 h
        exact .more rfl hmember.1 (ih hrest)
  exact .members hfirst.1 (further hothers)

mutual

/-- The tokens of a legible tree and the parentheses around its operands are read as the tree. -/
theorem readsWithin_parentheses : ∀ (e : Expr), e.WellMade Legible →
    Reader.ReadsWithin e.depth e.parentheses e.unplaced
  | .number t, h => by
      obtain ⟨⟨hkind, _⟩, spelling, hlexeme, hliteral⟩ := h
      exact Reader.readsWithin_number (t := t.unplaced) hkind hlexeme hliteral
  | .identifier name, h => Reader.readsWithin_name (identifier_spelling_self h)
  | .binary lhs rhs op, h => by
      obtain ⟨hlhs, hrhs, hbinary, hlegible⟩ := h
      have hop : op.unplaced = { kind := op.kind } :=
        unplaced_operator hlegible (by rw [Kind.isOperator, hbinary]; rfl)
      rw [Expr.parentheses, Expr.depth, Expr.unplaced, hop]
      exact .binary hbinary (readsWithin_parentheses lhs hlhs) (readsWithin_parentheses rhs hrhs)
  | .unary operand op, h => by
      obtain ⟨hoperand, hunary, hlegible⟩ := h
      have hop : op.unplaced = { kind := op.kind } :=
        unplaced_operator hlegible (by rw [Kind.isOperator, hunary, Bool.or_true])
      have inner := readsWithin_parentheses operand hoperand
      rw [Expr.parentheses, Expr.depth, Expr.unplaced, hop]
      rcases Kind.unary_cases hunary with hkind | hkind
      · rw [hkind, if_pos (by decide)]
        exact inner.negation rfl
      · rw [hkind, if_neg (by decide)]
        exact inner.factorial rfl
  | .call name arguments, h => by
      obtain ⟨hname, harguments⟩ := h
      have hidentifier := identifier_spelling_self hname
      rw [Expr.parentheses, Expr.depth, Expr.unplaced]
      cases arguments with
      | nil => exact Reader.readsWithin_call hidentifier (Or.inl ⟨rfl, rfl⟩)
      | cons e es =>
          exact Reader.readsWithin_call hidentifier
            (Or.inr (readsAllWithin_parentheses (e :: es) (List.cons_ne_nil e es) harguments))

theorem readsAllWithin_parentheses : ∀ (es : List Expr), es ≠ [] → Expr.AllWellMade Legible es →
    Reader.ReadsAllWithin (Expr.depthOfAll es) (Expr.parenthesesAll es) (Expr.unplacedAll es)
  | [], ne, _ => absurd rfl ne
  | [e], _, h => by
      rw [Expr.parenthesesAll, Expr.depthOfAll, Expr.depthOfAll, Nat.max_zero]
      exact Reader.readsAllWithin_one (readsWithin_parentheses e h.1)
  | e :: e' :: es, _, h => by
      rw [Expr.parenthesesAll_cons, Expr.depthOfAll]
      exact Reader.readsAllWithin_more rfl (readsWithin_parentheses e h.1)
        (readsAllWithin_parentheses (e' :: es) (List.cons_ne_nil e' es) h.2)

end

/-- Tokens that are read as a whole expression are read as the same one in any columns. -/
theorem Reader.whole_of_unplaced {frames : Nat} {ts : List Token} {e : Expr}
    (h : whole frames (ts.map Token.unplaced) = .ok e []) :
    ∃ e', whole frames ts = .ok e' [] ∧ e'.unplaced = e := by
  rw [ignoresColumns_whole frames] at h
  cases hplaced : whole frames ts with
  | fail refusal rest =>
      rw [hplaced] at h
      cases h
  | ok e' rest =>
      rw [hplaced] at h
      obtain ⟨hsame, hnil⟩ := Reply.ok.inj h
      obtain rfl := List.map_eq_nil_iff.1 hnil
      exact ⟨e', rfl, hsame⟩

/-- With four frames for each level of its nodes, the parenthesized text of a legible tree is read
as the tree, but for its columns. -/
theorem whole_parenthesized {e : Expr} (h : e.WellMade Legible) {gap : String}
    (blank : ∀ c ∈ gap.toList, Text.isBlank c = true) {frames : Nat} (room : 4 * e.depth ≤ frames) :
    ∃ e', Reader.whole frames (Token.ofText (e.parenthesized gap)) = .ok e' [] ∧
      e'.unplaced = e.unplaced := by
  have hread : Reader.expression frames e.parentheses = .ok e.unplaced [] := by
    have within := readsWithin_parentheses e h frames [] room Reader.closes_nil
    rw [List.append_nil] at within
    exact within
  have hwhole : Reader.whole frames e.parentheses = .ok e.unplaced [] := by
    rw [Reader.whole, hread]
  rw [← unplaced_ofText_parenthesized h blank] at hwhole
  exact Reader.whole_of_unplaced hwhole

/-- **Parentheses can express every tree.**  The text of a tree of literals with parentheses around
every operand is read as the same tree, but for its columns, at any number of frames at which it is
not nested too deeply, and it is not if there are four frames for each level of nodes.  The two
trees are found to be equal if comparing them is not too deep. -/
theorem Expr.reads_parenthesized (e : Expr) (literal : e.WellMade Literal) (gap : String)
    (blank : ∀ c ∈ gap.toList, Text.isBlank c = true) :
    ∃ e', e'.alike e = true ∧ (e.depth ≤ depthLimit → e'.alike? e = some true) ∧
      ∀ frames,
        (4 * e.depth ≤ frames →
          ¬ (Reader.whole frames (Token.ofText (e.parenthesized gap))).TooDeep) ∧
        (¬ (Reader.whole frames (Token.ofText (e.parenthesized gap))).TooDeep →
          Reader.whole frames (Token.ofText (e.parenthesized gap)) = .ok e' []) := by
  have legible : e.WellMade Legible := literal.imp fun _ => Literal.legible
  obtain ⟨e', hread, hunplaced⟩ := whole_parenthesized legible blank (Nat.le_refl _)
  have halike : e'.alike e = true := (alike_iff_unplaced e' e).2 hunplaced
  obtain ⟨_, hphrase⟩ := Reader.whole_sound hread
  refine ⟨e', halike, fun shallow => ?_, fun frames => ⟨fun room => ?_, fun room => ?_⟩⟩
  · rw [alike?_eq_some shallow, halike]
  · obtain ⟨_, hwhole, _⟩ := whole_parenthesized legible blank room
    rw [hwhole]
    exact Reply.not_tooDeep_ok _ _
  · exact (Reader.whole_eq_ok_iff room e' []).2 ⟨rfl, hphrase⟩

/-- The factorial of a factorial, which no text without parentheses stands for. -/
theorem Expr.reads_parenthesized_factorials :
    let three : Expr := .number { kind := .number, lexeme := some "3" }
    let e : Expr := .unary (.unary three { kind := .factorial }) { kind := .factorial }
    e.parenthesized "" = "((3)!)!" ∧
      ∃ e', e'.alike? e = some true ∧
        Reader.whole Reader.frameLimit (Token.ofText "((3)!)!") = .ok e' [] := by
  intro three e
  have literal : e.WellMade Literal :=
    ⟨⟨⟨⟨rfl, by decide +kernel⟩, "3", rfl, by decide +kernel⟩, rfl, by decide +kernel⟩, rfl,
      by decide +kernel⟩
  have blank : ∀ c ∈ "".toList, Text.isBlank c = true := by simp
  have text : e.parenthesized "" = "((3)!)!" := by decide +kernel
  obtain ⟨e', _, hequal, hread⟩ := Expr.reads_parenthesized e literal "" blank
  rw [text] at hread
  obtain ⟨enough, reads⟩ := hread Reader.frameLimit
  exact ⟨text, e', hequal (by decide), reads (enough (by decide))⟩

end Formula
