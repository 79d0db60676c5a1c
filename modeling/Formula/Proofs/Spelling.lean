import Formula.Proofs.Lexing
import Formula.Proofs.Printing
import Formula.Proofs.Trees
set_option autoImplicit false

/-!
# The tokens of a canonical text

The canonical text of a tree has no parentheses but those of calls.  Its tokens are known from
the tree (`Expr.spelling`): they are the tokens of the tree, a minus for each negation sign, and
the punctuation of names and calls.
-/

namespace Formula

open Token

/-! ## Spelling -/

/-- The members of a name with periods between them. -/
def Name.spelling (name : Name) : List Token :=
  name.first.unplaced :: name.others.flatMap fun member => [{ kind := .period }, member.unplaced]

namespace Expr

mutual

/-- The tokens of the canonical text. -/
def spelling : Expr → List Token
  | .number t => [t.unplaced]
  | .identifier name => name.spelling
  | .binary lhs rhs op => lhs.spelling ++ { kind := op.kind } :: rhs.spelling
  | .unary operand op =>
      if op.kind.isLeftAssociative then { kind := .minus } :: operand.spelling
      else operand.spelling ++ [{ kind := op.kind }]
  | .call name arguments =>
      name.spelling ++ { kind := .openParen } :: (spellingAll arguments ++ [{ kind := .closeParen }])

/-- The tokens of a list of expressions with commas between them. -/
def spellingAll : List Expr → List Token
  | [] => []
  | [e] => e.spelling
  | e :: rest => e.spelling ++ { kind := .comma } :: spellingAll rest

end

end Expr

/-! ## Legible trees -/

/-- The token was cut from a text, or is a negation sign. -/
def Token.Legible (t : Token) : Prop :=
  Cuts t ∧ Spelled t ∨ t.kind = .negate ∧ t.lexeme = none

theorem Token.legible_of_mem_scan {start : Nat} {cs : List Char} {t : Token}
    (h : t ∈ scan start cs) : t.Legible :=
  Or.inl ⟨cuts_of_mem_scan h, spelled_of_mem_scan h⟩

/-- The tree that a text is read as is legible. -/
theorem wellMade_of_ofText {source : String} {e : Expr}
    (h : Grammar.Phrase .sum (Token.ofText source) e) : e.WellMade Legible :=
  h.wellMade (fun _ => Or.inr ⟨rfl, rfl⟩) fun _ ht => legible_of_mem_scan ht

theorem Token.Legible.cuts {t : Token} (h : t.Legible) (hkind : t.kind ≠ .negate) : Cuts t :=
  (h.resolve_right fun negation => hkind negation.1).1

theorem Token.Legible.spelled {t : Token} (h : t.Legible) (hkind : t.kind ≠ .negate) :
    Spelled t :=
  (h.resolve_right fun negation => hkind negation.1).2

/-- A number is spelled with digits and points. -/
theorem Token.Legible.number {t : Token} (h : t.Legible) (hkind : t.kind = .number) :
    ∃ cs, t.lexeme = some (String.ofList cs) ∧ ∀ d ∈ cs, Text.isDigit d = true ∨ d = '.' := by
  cases h.spelled (by rw [hkind]; decide) with
  | @number cs start hdigits => exact ⟨cs, rfl, hdigits⟩
  | identifier _ _ _ => cases hkind
  | invalid => cases hkind
  | @punctuation c kind start hsign =>
      cases hkind
      exact absurd hsign (by unfold Kind.ofChar?; split <;> simp)

/-- A member of a name is spelled with a letter, and letters and digits after it. -/
theorem Token.Legible.identifier {t : Token} (h : t.Legible) (hkind : t.kind = .identifier) :
    ∃ c cs, t.text.toList = c :: cs ∧ Text.isLetter c = true ∧ Text.isDigit c = false ∧
      ∀ d ∈ cs, continuesName d = true := by
  cases h.spelled (by rw [hkind]; decide) with
  | @identifier c cs start hletter hdigit hothers =>
      exact ⟨c, cs, by simp [text], hletter, hdigit, hothers⟩
  | number _ => cases hkind
  | invalid => cases hkind
  | @punctuation c kind start hsign =>
      cases hkind
      exact absurd hsign (by unfold Kind.ofChar?; split <;> simp)

/-- Operators have no spelling of their own. -/
theorem Token.Legible.lexeme_eq_none {t : Token} (h : t.Legible)
    (hkind : t.kind.isOperator = true) : t.lexeme = none := by
  rcases h with ⟨_, spelled⟩ | ⟨_, hlexeme⟩
  · cases spelled with
    | punctuation _ => rfl
    | number _ => cases hkind
    | identifier _ _ _ => cases hkind
    | invalid => cases hkind
  · exact hlexeme

/-! ## Pieces of a text -/

/-- What may stand behind an expression in a canonical text: nothing that could belong to its
last number or name. -/
def Quiet (rest : List Char) : Prop := ∀ c ∈ rest.head?, continuesName c = false ∧ c ≠ '.'

theorem Quiet.apart {rest : List Char} (h : Quiet rest) {kind : Kind} (hkind : kind ≠ .period) :
    Apart kind rest := by
  intro c hc
  obtain ⟨hname, hpoint⟩ := h c hc
  have hdigit : Text.isDigit c = false := (Bool.or_eq_false_iff.1 hname).2
  cases kind with
  | number => simp [mayFollow, hdigit, hpoint]
  | identifier => simp [mayFollow, hname]
  | period => exact absurd rfl hkind
  | _ => rfl

theorem quiet_nil : Quiet [] := fun _ hc => nomatch hc

theorem quiet_sign {c : Char} {kind : Kind} (h : Kind.ofChar? c = some kind)
    (hkind : kind ≠ .period) (rest : List Char) : Quiet (c :: rest) := by
  intro d hd
  cases hd
  obtain ⟨_, hdigit, hletter⟩ := punctuation_plain h
  refine ⟨by rw [continuesName, hdigit, hletter]; rfl, ?_⟩
  rintro rfl
  cases h
  exact hkind rfl

theorem quiet_blank (rest : List Char) : Quiet (' ' :: rest) := by
  intro c hc
  cases hc
  exact ⟨by decide +kernel, by decide⟩

theorem lexed_punctuation {c : Char} {kind : Kind} (h : Kind.ofChar? c = some kind)
    {rest : List Char} (apart : Apart kind rest) :
    lexed (c :: rest) = { kind } :: lexed rest := by
  have htext : (⟨kind, none, -1⟩ : Token).text.toList = [c] := by
    simp [text, Kind.text_of_ofChar? h]
  have hcut := lexed_cuts (cuts_punctuation h (-1)) apart
  rw [htext] at hcut
  exact hcut

/-- A sign other than the period ends in front of every text. -/
theorem lexed_sign {c : Char} {kind : Kind} (h : Kind.ofChar? c = some kind)
    (hkind : kind ≠ .period) (rest : List Char) :
    lexed (c :: rest) = { kind } :: lexed rest := by
  refine lexed_punctuation h fun d _ => ?_
  unfold Kind.ofChar? at h
  split at h <;> cases h <;> first | rfl | exact absurd rfl hkind

theorem lexed_space (rest : List Char) : lexed (' ' :: rest) = lexed rest :=
  lexed_blank (by decide +kernel) rest

theorem exists_char_of_isBinary {kind : Kind} (h : kind.isBinary = true) :
    ∃ c, Kind.ofChar? c = some kind := by
  rcases Kind.binary_cases h with rfl | rfl | rfl | rfl | rfl
  · exact ⟨'+', rfl⟩
  · exact ⟨'-', rfl⟩
  · exact ⟨'*', rfl⟩
  · exact ⟨'/', rfl⟩
  · exact ⟨'^', rfl⟩

theorem lexed_operator {kind : Kind} (h : kind.isBinary = true) (rest : List Char) :
    lexed ((" " ++ kind.text ++ " ").toList ++ rest) = { kind } :: lexed rest := by
  obtain ⟨c, hc⟩ := exists_char_of_isBinary h
  have apart : Apart kind (' ' :: rest) := (quiet_blank rest).apart (by rintro rfl; cases h)
  simp only [Kind.text_of_ofChar? hc, String.toList_append, String.toList_singleton]
  rw [show " ".toList = [' '] from rfl, List.append_assoc, List.append_assoc, List.singleton_append,
    List.singleton_append, List.singleton_append, lexed_space, lexed_punctuation hc apart,
    lexed_space]

/-! ## Names -/

theorem Name.text_single (first : Token) : Name.text ⟨first, []⟩ = first.text := by
  simp [Name.text, Name.members]

theorem Name.text_cons (first member : Token) (others : List Token) :
    Name.text ⟨first, member :: others⟩ = first.text ++ "." ++ Name.text ⟨member, others⟩ := by
  simp [Name.text, Name.members]

theorem Name.text_eq_append (first : Token) (others : List Token) :
    ∃ tail, Name.text ⟨first, others⟩ = first.text ++ tail := by
  cases others with
  | nil => exact ⟨"", by rw [Name.text_single, String.append_empty]⟩
  | cons member others => exact ⟨_, by rw [Name.text_cons, String.append_assoc]⟩

/-- The period in front of a member does not begin a number. -/
theorem apart_period_name {member : Token} (h : member.kind = .identifier ∧ member.Legible)
    (others : List Token) (rest : List Char) :
    Apart .period ((Name.text ⟨member, others⟩).toList ++ rest) := by
  obtain ⟨tail, htext⟩ := Name.text_eq_append member others
  obtain ⟨c, cs, hmember, _, hdigit, _⟩ := h.2.identifier h.1
  intro d hd
  rw [htext, String.toList_append, hmember] at hd
  cases hd
  rw [mayFollow, hdigit]
  rfl

theorem lexed_name {name : Name} (h : name.WellMade Legible) {rest : List Char}
    (quiet : Quiet rest) : lexed (name.text.toList ++ rest) = name.spelling ++ lexed rest := by
  obtain ⟨first, others⟩ := name
  have cuts (member : Token) (hmember : member.kind = .identifier ∧ member.Legible) : Cuts member :=
    hmember.2.cuts (by rw [hmember.1]; decide)
  induction others generalizing first with
  | nil =>
      have hfirst := h first (by simp [Name.members])
      rw [Name.text_single, lexed_cuts (cuts first hfirst) (quiet.apart (by rw [hfirst.1]; decide))]
      rfl
  | cons member others ih =>
      have hfirst := h first (by simp [Name.members])
      have hmember := h member (by simp [Name.members])
      have hrest := ih member fun t ht => h t (List.mem_cons_of_mem _ ht)
      have apartFirst (rest : List Char) : Apart first.kind ('.' :: rest) := by
        intro c hc
        cases hc
        rw [hfirst.1]
        decide +kernel
      have apartPeriod := apart_period_name hmember others rest
      rw [Name.text_cons]
      simp only [String.toList_append, List.append_assoc]
      rw [show ".".toList = ['.'] from rfl, List.singleton_append,
        lexed_cuts (cuts first hfirst) (apartFirst _), lexed_punctuation rfl apartPeriod, hrest]
      rfl

/-! ## Expressions -/

namespace Expr

variable {operand : Expr} {op : Token}

theorem render_negation (hop : op.kind = .negate) (h : op.Legible) :
    (Expr.unary operand op).render = "-" ++ operand.render := by
  rw [render, hop, if_pos (by decide), Token.text, h.lexeme_eq_none (by rw [hop]; rfl), hop]
  rfl

theorem render_factorial (hop : op.kind = .factorial) (h : op.Legible) :
    (Expr.unary operand op).render = operand.render ++ "!" := by
  rw [render, hop, if_neg (by decide), Token.text, h.lexeme_eq_none (by rw [hop]; rfl), hop]
  rfl

theorem spelling_negation (hop : op.kind = .negate) :
    (Expr.unary operand op).spelling = { kind := .minus } :: operand.spelling := by
  rw [spelling, hop, if_pos (by decide)]

theorem spelling_factorial (hop : op.kind = .factorial) :
    (Expr.unary operand op).spelling = operand.spelling ++ [{ kind := .factorial }] := by
  rw [spelling, hop, if_neg (by decide)]

theorem spellingAll_cons (e e' : Expr) (es : List Expr) :
    spellingAll (e :: e' :: es) = e.spelling ++ { kind := .comma } :: spellingAll (e' :: es) := by
  rw [spellingAll]
  exact List.cons_ne_nil e' es

end Expr

mutual

/-- The canonical text of a legible tree, in front of anything quiet, is cut into its spelling. -/
theorem lexed_render : ∀ (e : Expr) {rest : List Char}, e.WellMade Legible → Quiet rest →
    lexed (e.render.toList ++ rest) = e.spelling ++ lexed rest
  | .number t, rest, h, quiet => by
      obtain ⟨⟨hkind, hlegible⟩, _⟩ := h
      have hcuts := hlegible.cuts (by rw [hkind]; decide)
      rw [Expr.render, lexed_cuts hcuts (quiet.apart (by rw [hkind]; decide))]
      rfl
  | .identifier name, rest, h, quiet => by
      rw [Expr.render, lexed_name h quiet]
      rfl
  | .binary lhs rhs op, rest, h, quiet => by
      obtain ⟨hlhs, hrhs, hbinary, _⟩ := h
      have hblank : Quiet ((" " ++ op.kind.text ++ " ").toList ++ (rhs.render.toList ++ rest)) := by
        simp only [String.toList_append, List.append_assoc]
        exact quiet_blank _
      rw [Expr.render, Expr.spelling, String.toList_append, String.toList_append, List.append_assoc,
        List.append_assoc, lexed_render lhs hlhs hblank, lexed_operator hbinary,
        lexed_render rhs hrhs quiet, List.append_assoc, List.cons_append]
  | .unary operand op, rest, h, quiet => by
      obtain ⟨hoperand, hunary, hlegible⟩ := h
      rcases Kind.unary_cases hunary with hop | hop
      · rw [Expr.render_negation hop hlegible, Expr.spelling_negation hop, String.toList_append,
          show "-".toList = ['-'] from rfl, List.append_assoc, List.singleton_append,
          lexed_sign rfl (by decide), lexed_render operand hoperand quiet, List.cons_append]
      · rw [Expr.render_factorial hop hlegible, Expr.spelling_factorial hop, String.toList_append,
          show "!".toList = ['!'] from rfl, List.append_assoc, List.append_assoc,
          List.singleton_append, lexed_render operand hoperand (quiet_sign (c := '!') rfl (by decide) rest),
          lexed_sign rfl (by decide)]
        rfl
  | .call name arguments, rest, h, quiet => by
      obtain ⟨hname, harguments⟩ := h
      rw [Expr.render, Expr.spelling]
      simp only [String.toList_append, List.append_assoc]
      rw [show "(".toList = ['('] from rfl, show ")".toList = [')'] from rfl, List.singleton_append,
        List.singleton_append, lexed_name hname (quiet_sign (c := '(') rfl (by decide) _),
        lexed_sign rfl (by decide),
        lexed_renderAll arguments harguments (quiet_sign (c := ')') rfl (by decide) rest),
        lexed_sign rfl (by decide)]
      simp only [List.cons_append, List.append_assoc, List.nil_append]

theorem lexed_renderAll : ∀ (es : List Expr) {rest : List Char}, Expr.AllWellMade Legible es →
    Quiet rest → lexed ((Expr.renderAll es).toList ++ rest) = Expr.spellingAll es ++ lexed rest
  | [], rest, _, _ => by simp [Expr.renderAll, Expr.spellingAll]
  | [e], rest, h, quiet => by
      rw [Expr.renderAll, Expr.spellingAll]
      exact lexed_render e h.1 quiet
  | e :: e' :: es, rest, h, quiet => by
      rw [Expr.renderAll_cons, Expr.spellingAll_cons]
      simp only [String.toList_append, List.append_assoc]
      rw [show ", ".toList = [',', ' '] from rfl, List.cons_append, List.singleton_append,
        lexed_render e h.1 (quiet_sign (c := ',') rfl (by decide) _), lexed_sign rfl (by decide),
        lexed_space, lexed_renderAll (e' :: es) h.2 quiet]
      rfl

end

/-- The tokens of the canonical text of a legible tree. -/
theorem lexed_render_self {e : Expr} (h : e.WellMade Legible) :
    lexed e.render.toList = e.spelling := by
  have hlexed := lexed_render e h quiet_nil
  rw [List.append_nil, lexed_nil, List.append_nil] at hlexed
  exact hlexed

end Formula
