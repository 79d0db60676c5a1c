import Formula.Proofs.Likeness
import Formula.Proofs.Names
set_option autoImplicit false

/-!
# An outline shows the whole tree

Two trees that were read from texts have the same outline only if they are alike.  The outline of
a tree says where it ends: the name of a sort ends in front of a parenthesis and a label in front
of a quote, neither of which is part of it, and behind a child there is either a comma or the end
of a line.  So an outline can be read off the front of a longer text, and the children of a node
one after the other.
-/

namespace Formula

open Token

/-! ## What the text of a token determines -/

theorem Token.unplaced_eq {t u : Token} (hkind : t.kind = u.kind) (hlexeme : t.lexeme = u.lexeme) :
    t.unplaced = u.unplaced := by
  rw [Token.unplaced, Token.unplaced, hkind, hlexeme]

/-- Members of names have a spelling, which is their text. -/
theorem Token.Legible.lexeme_eq_some {t : Token} (h : t.Legible) (hkind : t.kind = .identifier) :
    t.lexeme = some t.text := by
  cases h.spelled (by rw [hkind]; decide) with
  | identifier _ _ _ => rfl
  | number _ => cases hkind
  | invalid => cases hkind
  | @punctuation c kind start hsign =>
      cases hkind
      exact absurd hsign (by unfold Kind.ofChar?; split <;> simp)

theorem Kind.text_binary_injective {k k' : Kind} (h : k.isBinary = true) (h' : k'.isBinary = true)
    (htext : k.text = k'.text) : k = k' := by
  revert htext
  rcases Kind.binary_cases h with rfl | rfl | rfl | rfl | rfl <;>
    rcases Kind.binary_cases h' with rfl | rfl | rfl | rfl | rfl <;> decide

theorem Kind.text_unary_injective {k k' : Kind} (h : k.isUnary = true) (h' : k'.isUnary = true)
    (htext : k.text = k'.text) : k = k' := by
  revert htext
  rcases Kind.unary_cases h with rfl | rfl <;> rcases Kind.unary_cases h' with rfl | rfl <;> decide

/-- Operators that were cut from texts have the same text only if they are the same, among those of
two operands and among those of one. -/
theorem Token.operator_unplaced_eq {t u : Token} (ht : t.Legible) (hu : u.Legible)
    (hsort : t.kind.isBinary = true ∧ u.kind.isBinary = true ∨
      t.kind.isUnary = true ∧ u.kind.isUnary = true)
    (htext : t.text = u.text) : t.unplaced = u.unplaced := by
  have operators : t.kind.isOperator = true ∧ u.kind.isOperator = true := by
    rw [Kind.isOperator, Kind.isOperator]
    rcases hsort with ⟨h, h'⟩ | ⟨h, h'⟩ <;> simp [h, h']
  have hnone := ht.lexeme_eq_none operators.1
  have hnone' := hu.lexeme_eq_none operators.2
  rw [Token.text, Token.text, hnone, hnone', Option.getD_none, Option.getD_none] at htext
  refine Token.unplaced_eq ?_ (hnone.trans hnone'.symm)
  rcases hsort with ⟨h, h'⟩ | ⟨h, h'⟩
  · exact Kind.text_binary_injective h h' htext
  · exact Kind.text_unary_injective h h' htext

/-! ## What the text of a name determines -/

theorem Name.splitAt_text {name : Name} (h : name.WellMade Legible) :
    Definition.splitAt '.' name.text.toList = name.members.map fun t => t.text.toList := by
  obtain ⟨first, others⟩ := name
  have period {t : Token} (ht : t.kind = .identifier ∧ t.Legible) : '.' ∉ t.text.toList := by
    obtain ⟨c, cs, htext, hletter, _, hothers⟩ := ht.2.identifier ht.1
    rw [htext]
    exact period_not_mem hletter hothers
  induction others generalizing first with
  | nil =>
      rw [Name.text_single, Definition.splitAt_self (period (h first List.mem_cons_self))]
      rfl
  | cons second others ih =>
      have hrest := ih second fun t ht => h t (List.mem_cons_of_mem _ ht)
      have hperiod : ".".toList = ['.'] := rfl
      rw [Name.text_cons, String.toList_append, String.toList_append, hperiod, List.append_assoc,
        List.singleton_append, Definition.splitAt_append (period (h first List.mem_cons_self)),
        hrest]
      rfl

/-- Names in trees that were read from texts are told apart by their texts. -/
theorem Name.unplaced_eq {name name' : Name} (h : name.WellMade Legible)
    (h' : name'.WellMade Legible) (htext : name.text = name'.text) :
    name.unplaced = name'.unplaced := by
  have spelled {n : Name} (hn : n.WellMade Legible) : n.members.map Token.unplaced =
      (n.members.map fun t => t.text.toList).map fun cs =>
        { kind := .identifier, lexeme := some (String.ofList cs) } := by
    rw [List.map_map]
    refine List.map_congr_left fun t ht => ?_
    obtain ⟨hkind, hlegible⟩ := hn t ht
    rw [Token.unplaced, hkind, hlegible.lexeme_eq_some hkind]
    simp
  have hparts := splitAt_text h
  rw [htext, splitAt_text h'] at hparts
  rw [← Name.agree_alike_iff, Name.agree, isEqv_alike_iff, spelled h, spelled h', hparts]

namespace Expr

/-! ## What a label determines -/

theorem quote_not_mem_of_plain {cs : List Char} (h : Plain cs) : '\'' ∉ cs := by
  intro hmem
  have hquote := h '\'' hmem (by decide)
  revert hquote
  decide +kernel

theorem quote_not_mem_kind (kind : Kind) : '\'' ∉ kind.text.toList := by
  cases kind <;> decide

theorem quote_not_mem_operator {op : Token} (h : op.Legible)
    (hop : op.kind.isOperator = true) : '\'' ∉ op.text.toList := by
  rw [Token.text, h.lexeme_eq_none hop, Option.getD_none]
  exact quote_not_mem_kind op.kind

/-- No label has a quote in it. -/
theorem quote_not_mem_label {e : Expr} (h : e.WellMade Legible) : '\'' ∉ e.label.toList := by
  cases e with
  | number t =>
      obtain ⟨cs, hlexeme, hdigits⟩ := h.1.2.number h.1.1
      have htext : t.text.toList = cs := by rw [Token.text, hlexeme]; simp
      rw [label, htext]
      intro hmem
      have hquote := hdigits '\'' hmem
      revert hquote
      decide +kernel
  | identifier name => exact quote_not_mem_of_plain (isName_text h).2
  | binary lhs rhs op =>
      exact quote_not_mem_operator h.2.2.2 (by rw [Kind.isOperator, h.2.2.1]; rfl)
  | unary operand op =>
      exact quote_not_mem_operator h.2.2 (by rw [Kind.isOperator, h.2.1, Bool.or_true])
  | call name arguments =>
      rw [label, String.toList_append, List.mem_append]
      rintro (hmem | hmem)
      · exact quote_not_mem_of_plain (isName_text h.1).2 hmem
      · revert hmem
        decide

theorem paren_not_mem_sort (e : Expr) : '(' ∉ e.sort.toList := by
  cases e <;> rw [sort] <;> decide

/-- Two nodes of the same sort and label with the same children are the same. -/
theorem unplaced_eq_of_root {e e' : Expr} (h : e.WellMade Legible) (h' : e'.WellMade Legible)
    (hsort : e.sort = e'.sort) (hlabel : e.label = e'.label)
    (hchildren : unplacedAll e.children = unplacedAll e'.children) : e.unplaced = e'.unplaced := by
  cases e with
  | number t =>
      cases e' with
      | number u =>
          obtain ⟨⟨hkind, _⟩, spelling, hlexeme, _⟩ := h
          obtain ⟨⟨hkind', _⟩, spelling', hlexeme', _⟩ := h'
          rw [label, label, Token.text, Token.text, hlexeme, hlexeme', Option.getD_some,
            Option.getD_some] at hlabel
          rw [unplaced, unplaced, Token.unplaced_eq (hkind.trans hkind'.symm)
            (by rw [hlexeme, hlexeme', hlabel])]
      | _ => simp [sort] at hsort
  | identifier name =>
      cases e' with
      | identifier name' => rw [unplaced, unplaced, Name.unplaced_eq h h' hlabel]
      | _ => simp [sort] at hsort
  | binary lhs rhs op =>
      cases e' with
      | binary lhs' rhs' op' =>
          simp only [children, unplacedAll, List.cons.injEq, and_true] at hchildren
          rw [unplaced, unplaced, hchildren.1, hchildren.2,
            Token.operator_unplaced_eq h.2.2.2 h'.2.2.2 (Or.inl ⟨h.2.2.1, h'.2.2.1⟩) hlabel]
      | _ => simp [sort] at hsort
  | unary operand op =>
      cases e' with
      | unary operand' op' =>
          simp only [children, unplacedAll, List.cons.injEq, and_true] at hchildren
          rw [unplaced, unplaced, hchildren,
            Token.operator_unplaced_eq h.2.2 h'.2.2 (Or.inr ⟨h.2.1, h'.2.1⟩) hlabel]
      | _ => simp [sort] at hsort
  | call name arguments =>
      cases e' with
      | call name' arguments' =>
          rw [label, label, String.append_left_inj] at hlabel
          rw [children, children] at hchildren
          rw [unplaced, unplaced, Name.unplaced_eq h.1 h'.1 hlabel, hchildren]
      | _ => simp [sort] at hsort

/-! ## The parts of an outline -/

theorem outlines_cons (level : Int) (e e' : Expr) (es : List Expr) :
    outlines level (e :: e' :: es) =
      "\n" ++ e.outline level ++ "," ++ outlines level (e' :: es) := by
  rw [outlines]
  exact List.cons_ne_nil e' es

/-- A node is its opening, and between brackets the outlines of its children, if it has any. -/
theorem outline_eq (level : Int) (e : Expr) :
    e.outline level =
      enclose level (opening level e) (outlines (level + 1) e.children) e.children.isEmpty := by
  cases e with
  | binary lhs rhs op =>
      have hcomma : "," ++ "\n" = ",\n" := rfl
      rw [outline, children, outlines_cons, outlines, ← hcomma]
      simp only [String.append_assoc]
      rfl
  | _ => simp [outline, outlines, children]

/-- What stands in front of the first occurrence of a character is found in the text. -/
theorem cancel_front {c : Char} {front front' : List Char} (h : c ∉ front) (h' : c ∉ front')
    {rest rest' : List Char} (heq : front ++ c :: rest = front' ++ c :: rest') :
    front = front' ∧ rest = rest' := by
  induction front generalizing front' with
  | nil =>
      cases front' with
      | nil => exact ⟨rfl, (List.cons.inj heq).2⟩
      | cons d front' =>
          rw [(List.cons.inj heq).1] at h'
          exact absurd List.mem_cons_self h'
  | cons d front ih =>
      cases front' with
      | nil =>
          rw [← (List.cons.inj heq).1] at h
          exact absurd List.mem_cons_self h
      | cons d' front' =>
          obtain ⟨hfront, hrest⟩ := ih (List.not_mem_of_not_mem_cons h)
            (List.not_mem_of_not_mem_cons h') (List.cons.inj heq).2
          exact ⟨by rw [(List.cons.inj heq).1, hfront], hrest⟩

/-- The opening of a node shows its sort and its label, whatever follows. -/
theorem opening_inj {level : Int} {e e' : Expr} (h : e.WellMade Legible) (h' : e'.WellMade Legible)
    {rest rest' : List Char}
    (heq : (opening level e).toList ++ rest = (opening level e').toList ++ rest') :
    e.sort = e'.sort ∧ e.label = e'.label ∧ rest = rest' := by
  have hparen : "('".toList = ['(', '\''] := rfl
  have hquote : "'".toList = ['\''] := rfl
  simp only [opening, String.toList_append, hparen, hquote, List.append_assoc, List.cons_append,
    List.nil_append, List.append_cancel_left_eq] at heq
  obtain ⟨hsort, heq⟩ := cancel_front (paren_not_mem_sort e) (paren_not_mem_sort e') heq
  rw [List.cons_inj_right] at heq
  obtain ⟨hlabel, heq⟩ := cancel_front (quote_not_mem_label h) (quote_not_mem_label h') heq
  exact ⟨String.toList_inj.1 hsort, String.toList_inj.1 hlabel, heq⟩

/-! ## Reading an outline off the front of a text -/

/-- No other tree has an outline at the level that stands at the front of a text together with the
outline of this one, and the two outlines end at the same place. -/
def Determined (level : Int) (e : Expr) : Prop :=
  ∀ {e' : Expr}, e'.WellMade Legible → ∀ (rest rest' : List Char),
    (e.outline level).toList ++ rest = (e'.outline level).toList ++ rest' →
      e.unplaced = e'.unplaced ∧ rest = rest'

/-- Behind each outline of a list there is a comma, and behind the last one the end of the line. -/
theorem outlines_toList (level : Int) (e : Expr) (es : List Expr) (rest : List Char) :
    (outlines level (e :: es)).toList ++ '\n' :: rest =
      '\n' :: ((e.outline level).toList ++
        if es = [] then '\n' :: rest else ',' :: ((outlines level es).toList ++ '\n' :: rest)) := by
  have hline : "\n".toList = ['\n'] := rfl
  have hcomma : ",".toList = [','] := rfl
  cases es with
  | nil =>
      rw [if_pos rfl, outlines, String.toList_append, hline]
      rfl
  | cons e' es =>
      rw [if_neg (List.cons_ne_nil e' es), outlines_cons, String.toList_append,
        String.toList_append, String.toList_append, hline, hcomma]
      simp

/-- The children of a node are read off its outline if each of them can be. -/
theorem outlines_determined {level : Int} {e e' : Expr} {es es' : List Expr}
    (determined : ∀ child ∈ e :: es, Determined level child)
    (wellMade : ∀ child ∈ e' :: es', child.WellMade Legible) {rest rest' : List Char}
    (heq : (outlines level (e :: es)).toList ++ '\n' :: rest =
      (outlines level (e' :: es')).toList ++ '\n' :: rest') :
    unplacedAll (e :: es) = unplacedAll (e' :: es') ∧ rest = rest' := by
  induction es generalizing e e' es' with
  | nil =>
      rw [outlines_toList, outlines_toList, List.cons_inj_right] at heq
      obtain ⟨hfirst, hrest⟩ :=
        determined e List.mem_cons_self (wellMade e' List.mem_cons_self) _ _ heq
      cases es' with
      | nil => exact ⟨congrArg₂ List.cons hfirst rfl, by simpa using hrest⟩
      | cons e₂' es' => simp at hrest
  | cons e₂ es ih =>
      rw [outlines_toList, outlines_toList level e', List.cons_inj_right] at heq
      obtain ⟨hfirst, hrest⟩ :=
        determined e List.mem_cons_self (wellMade e' List.mem_cons_self) _ _ heq
      cases es' with
      | nil => simp at hrest
      | cons e₂' es' =>
          rw [if_neg (List.cons_ne_nil e₂ es), if_neg (List.cons_ne_nil e₂' es'),
            List.cons_inj_right] at hrest
          obtain ⟨hothers, hrest⟩ :=
            ih (fun child hchild => determined child (List.mem_cons_of_mem _ hchild))
              (fun child hchild => wellMade child (List.mem_cons_of_mem _ hchild)) hrest
          exact ⟨congrArg₂ List.cons hfirst hothers, hrest⟩

theorem AllWellMade.mem {P : Token → Prop} {es : List Expr} (h : AllWellMade P es) {e : Expr}
    (he : e ∈ es) : e.WellMade P := by
  induction es with
  | nil => cases he
  | cons first others ih =>
      rcases List.mem_cons.1 he with rfl | he
      · exact h.1
      · exact ih h.2 he

theorem WellMade.child {P : Token → Prop} {e child : Expr} (h : e.WellMade P)
    (hchild : child ∈ e.children) : child.WellMade P := by
  cases e with
  | number t => cases hchild
  | identifier name => cases hchild
  | binary lhs rhs op =>
      rcases List.mem_pair.1 hchild with rfl | rfl
      · exact h.1
      · exact h.2.1
  | unary operand op =>
      rw [List.mem_singleton.1 hchild]
      exact h.1
  | call name arguments => exact h.2.mem hchild

/-- Behind the opening of a node there is a parenthesis if it has no children, else a comma. -/
theorem outline_toList (level : Int) (e : Expr) (rest : List Char) :
    (e.outline level).toList ++ rest = (opening level e).toList ++
      match e.children with
      | [] => ')' :: rest
      | child :: others => ',' :: (" nodes=[".toList ++
          ((outlines (level + 1) (child :: others)).toList ++ '\n' ::
            ((indentation level).toList ++ ("])".toList ++ rest)))) := by
  have hclose : ")".toList = [')'] := rfl
  have hbracket : ", nodes=[".toList = ',' :: " nodes=[".toList := rfl
  have hline : "\n".toList = ['\n'] := rfl
  rw [outline_eq, enclose]
  cases e.children with
  | nil =>
      rw [List.isEmpty_nil, if_pos rfl, String.toList_append, hclose, List.append_assoc]
      rfl
  | cons child others =>
      rw [List.isEmpty_cons, if_neg Bool.false_ne_true]
      simp only [String.toList_append, hbracket, hline, List.append_assoc, List.cons_append,
        List.nil_append]

/-- A node is read off a text if its children can be. -/
theorem determined_of_children {level : Int} {e : Expr} (h : e.WellMade Legible)
    (determined : ∀ child ∈ e.children, Determined (level + 1) child) : Determined level e := by
  intro e' h' rest rest' heq
  rw [outline_toList, outline_toList level e'] at heq
  obtain ⟨hsort, hlabel, hbehind⟩ := opening_inj h h' heq
  have unplaced_eq := unplaced_eq_of_root h h' hsort hlabel
  have wellMade : ∀ child ∈ e'.children, child.WellMade Legible := fun _ hchild => h'.child hchild
  generalize e.children = es, e'.children = es' at *
  cases es with
  | nil =>
      cases es' with
      | nil => exact ⟨unplaced_eq rfl, (List.cons.inj hbehind).2⟩
      | cons child' others' => exact absurd (List.cons.inj hbehind).1 (by decide)
  | cons child others =>
      cases es' with
      | nil => exact absurd (List.cons.inj hbehind).1 (by decide)
      | cons child' others' =>
          obtain ⟨hchildren, hrest⟩ := outlines_determined determined wellMade
            (List.append_cancel_left (List.cons.inj hbehind).2)
          exact ⟨unplaced_eq hchildren, List.append_cancel_left (List.append_cancel_left hrest)⟩

mutual

/-- Every tree that is well made is read off its outline. -/
theorem determined (level : Int) : ∀ (e : Expr), e.WellMade Legible → Determined level e
  | .number _, h => determined_of_children h fun _ hchild => nomatch hchild
  | .identifier _, h => determined_of_children h fun _ hchild => nomatch hchild
  | .binary lhs rhs op, h => determined_of_children h fun child hchild => by
      rcases List.mem_pair.1 hchild with hlhs | hrhs
      · rw [hlhs]
        exact determined (level + 1) lhs h.1
      · rw [hrhs]
        exact determined (level + 1) rhs h.2.1
  | .unary operand op, h => determined_of_children h fun child hchild => by
      rw [List.mem_singleton.1 hchild]
      exact determined (level + 1) operand h.1
  | .call name arguments, h =>
      determined_of_children h (allDetermined (level + 1) arguments h.2)

theorem allDetermined (level : Int) : ∀ (es : List Expr), AllWellMade Legible es →
    ∀ e ∈ es, Determined level e
  | [], _, _, he => nomatch he
  | first :: others, h, e, he => by
      rcases List.mem_cons.1 he with hfirst | hothers
      · rw [hfirst]
        exact determined level first h.1
      · exact allDetermined level others h.2 e hothers

end

/-! ## An outline does not show columns -/

theorem sort_unplaced (e : Expr) : e.unplaced.sort = e.sort := by
  cases e <;> rfl

theorem label_unplaced (e : Expr) : e.unplaced.label = e.label := by
  cases e <;> simp only [unplaced, label, Name.text_unplaced] <;> rfl

theorem children_unplaced (e : Expr) : e.unplaced.children = unplacedAll e.children := by
  cases e <;> rfl

/-- The outline of a node without columns, if those of its children do not show them. -/
theorem outline_unplaced_of_children {level : Int} {e : Expr}
    (h : outlines (level + 1) (unplacedAll e.children) = outlines (level + 1) e.children) :
    e.unplaced.outline level = e.outline level := by
  rw [outline_eq, outline_eq level e, opening, opening, sort_unplaced, label_unplaced,
    children_unplaced, h]
  cases e.children <;> rfl

mutual

theorem outline_unplaced (level : Int) : ∀ (e : Expr), e.unplaced.outline level = e.outline level
  | .number t => outline_unplaced_of_children rfl
  | .identifier name => outline_unplaced_of_children rfl
  | .binary lhs rhs op => outline_unplaced_of_children <| by
      simp only [children, unplacedAll, outlines_cons, outlines,
        outline_unplaced (level + 1) lhs, outline_unplaced (level + 1) rhs]
  | .unary operand op => outline_unplaced_of_children <| by
      simp only [children, unplacedAll, outlines, outline_unplaced (level + 1) operand]
  | .call name arguments => outline_unplaced_of_children (outlines_unplaced (level + 1) arguments)

theorem outlines_unplaced (level : Int) : ∀ (es : List Expr),
    outlines level (unplacedAll es) = outlines level es
  | [] => rfl
  | [e] => by simp only [unplacedAll, outlines, outline_unplaced level e]
  | e :: e' :: es => by
      have hothers := outlines_unplaced level (e' :: es)
      rw [unplacedAll] at hothers
      rw [unplacedAll, unplacedAll, outlines_cons, outlines_cons, hothers, outline_unplaced level e]

end

/-- What is written up to the limit on depth is the outline. -/
theorem eq_outline_of_outline? {level : Int} {e : Expr} {text : String}
    (h : e.outline? level = .ok text) : e.depth ≤ depthLimit ∧ text = e.outline level := by
  unfold outline? at h
  split at h
  · exact nomatch h
  · split at h
    · next hdepth => exact ⟨hdepth, (Except.ok.inj h).symm⟩
    · exact nomatch h

/-- Trees that were read from texts have the same outline at a level exactly if they are alike, and
are found to be alike where the outline can be written. -/
theorem outline_faithful {style style' : Text.Style} {source source' : String} {e e' : Expr}
    (h : Expr.ofSource style source = .ok e) (h' : Expr.ofSource style' source' = .ok e')
    (level : Int) :
    (e.outline level = e'.outline level ↔ e.alike e' = true) ∧
      ∀ text, e.outline? level = .ok text → e'.outline? level = .ok text →
        e.alike? e' = some true := by
  have hiff : e.outline level = e'.outline level ↔ e.alike e' = true := by
    rw [alike_iff_unplaced]
    constructor
    · intro heq
      exact (determined level e (wellMade_ofSource h) (wellMade_ofSource h') [] [] (by rw [heq])).1
    · intro heq
      rw [← outline_unplaced, heq, outline_unplaced]
  refine ⟨hiff, fun text htext htext' => ?_⟩
  obtain ⟨_, hshown⟩ := eq_outline_of_outline? htext
  obtain ⟨hdepth, hshown'⟩ := eq_outline_of_outline? htext'
  rw [alike?_eq_some hdepth, hiff.1 (hshown.symm.trans hshown')]

/-- Blanks move the tokens and are not shown, and the sign of a difference is not the one of a
negation. -/
theorem outline_faithful_blanks :
    ∃ e e', Expr.ofSource .plain "f(a.b, -2)-3" = .ok e ∧
      Expr.ofSource .plain " f(a.b,-2) - 3" = .ok e' ∧ e ≠ e' ∧
      ((e.outline 1 = e'.outline 1 ↔ e.alike e' = true) ∧
        ∀ text, e.outline? 1 = .ok text → e'.outline? 1 = .ok text → e.alike? e' = some true) := by
  have h : Expr.ofTokens (Token.ofText "f(a.b, -2)-3") = .ok (.binary
      (.call ⟨⟨.identifier, some "f", 0⟩, []⟩ [
        .identifier ⟨⟨.identifier, some "a", 2⟩, [⟨.identifier, some "b", 4⟩]⟩,
        .unary (.number ⟨.number, some "2", 8⟩) ⟨.negate, none, 7⟩])
      (.number ⟨.number, some "3", 11⟩) ⟨.minus, none, 10⟩) [] := by decide +kernel
  have h' : Expr.ofTokens (Token.ofText " f(a.b,-2) - 3") = .ok (.binary
      (.call ⟨⟨.identifier, some "f", 1⟩, []⟩ [
        .identifier ⟨⟨.identifier, some "a", 3⟩, [⟨.identifier, some "b", 5⟩]⟩,
        .unary (.number ⟨.number, some "2", 8⟩) ⟨.negate, none, 7⟩])
      (.number ⟨.number, some "3", 13⟩) ⟨.minus, none, 11⟩) [] := by decide +kernel
  have reads {source : String} {e : Expr} (h : Expr.ofTokens (Token.ofText source) = .ok e []) :
      Expr.ofSource .plain source = .ok e := by rw [Expr.ofSource, h]
  exact ⟨_, _, reads h, reads h', by decide, outline_faithful (reads h) (reads h') 1⟩

end Expr

end Formula
