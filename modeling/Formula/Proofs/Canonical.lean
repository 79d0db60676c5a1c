import Formula.Proofs.Exactness
import Formula.Proofs.Regrouping
set_option autoImplicit false

/-!
# Reading a canonical text again

The canonical text of what a source says is itself a source that says something with the same
canonical text, except when it has lost the parentheses between two factorial signs: `(3!)!` is
written `3!!`, and `3!!` is no expression.
-/

namespace Formula

open Grammar Token

/-! ## Factorial signs in texts and in spellings -/

/-- Which characters are factorial signs? -/
def charMarks (cs : List Char) : List Bool := cs.map (· == '!')

/-- Which tokens are factorial signs? -/
def tokenMarks (ts : List Token) : List Bool := ts.map (·.kind == .factorial)

/-- No two marks follow each other. -/
def Sparse (marks : List Bool) : Prop := marks.IsChain fun a b => ¬ (a = true ∧ b = true)

/-- The marks are the same at both ends, and are together in both lists or in neither. -/
structure SameMarks (as bs : List Bool) : Prop where
  head : as.head? = bs.head?
  last : as.getLast? = bs.getLast?
  sparse : Sparse as ↔ Sparse bs

theorem SameMarks.rfl {as : List Bool} : SameMarks as as := ⟨Eq.refl _, Eq.refl _, Iff.rfl⟩

theorem SameMarks.append {as bs cs ds : List Bool} (h : SameMarks as bs) (h' : SameMarks cs ds) :
    SameMarks (as ++ cs) (bs ++ ds) := by
  refine ⟨?_, ?_, ?_⟩
  · rw [List.head?_append, List.head?_append, h.head, h'.head]
  · rw [List.getLast?_append, List.getLast?_append, h.last, h'.last]
  · unfold Sparse
    rw [List.isChain_append, List.isChain_append, h.last, h'.head]
    exact and_congr h.sparse (and_congr h'.sparse Iff.rfl)

/-- A text without factorial signs is marked like a single token that is none. -/
theorem SameMarks.plain {cs : List Char} (ne : cs ≠ []) (h : '!' ∉ cs) {t : Token}
    (ht : t.kind ≠ .factorial) : SameMarks (charMarks cs) (tokenMarks [t]) := by
  have unmarked : ∀ mark ∈ charMarks cs, mark = false := by
    intro mark hmark
    obtain ⟨c, hc, rfl⟩ := List.mem_map.1 hmark
    exact beq_false_of_ne fun heq => h (heq ▸ hc)
  have htoken : tokenMarks [t] = [false] := by
    rw [tokenMarks, List.map_singleton, beq_false_of_ne ht]
  have nonempty : charMarks cs ≠ [] := fun hnil => ne (List.map_eq_nil_iff.1 hnil)
  rw [htoken]
  refine ⟨?_, ?_, iff_of_true ?_ (List.isChain_singleton _)⟩
  · rw [List.head?_eq_some_head nonempty, unmarked _ (List.head_mem nonempty)]
    rfl
  · rw [List.getLast?_eq_some_getLast nonempty, unmarked _ (List.getLast_mem nonempty)]
    rfl
  · refine List.isChain_iff_forall_rel_of_append_cons_cons.2 ?_
    rintro a b before behind heq ⟨ha, _⟩
    rw [unmarked a (by rw [heq]; simp)] at ha
    cases ha

theorem sparse_tokenMarks (ts : List Token) : Sparse (tokenMarks ts) ↔ Unstacked ts := by
  unfold Sparse tokenMarks Unstacked
  rw [List.isChain_map]
  simp

/-- The marks of a text are apart if the text has no two factorial signs in a row. -/
theorem sparse_charMarks (cs : List Char) : Sparse (charMarks cs) ↔ ¬ ['!', '!'] <:+: cs := by
  unfold Sparse charMarks
  rw [List.isChain_map, List.isChain_iff_forall_rel_of_append_cons_cons]
  constructor
  · rintro h ⟨before, behind, rfl⟩
    exact h (List.append_assoc _ _ _) (by simp)
  · rintro h a b before behind rfl ⟨ha, hb⟩
    rw [beq_iff_eq] at ha hb
    exact h ⟨before, behind, by rw [ha, hb, List.append_assoc]; rfl⟩

theorem charMarks_append (cs ds : List Char) : charMarks (cs ++ ds) = charMarks cs ++ charMarks ds :=
  List.map_append

theorem tokenMarks_append (ts us : List Token) :
    tokenMarks (ts ++ us) = tokenMarks ts ++ tokenMarks us :=
  List.map_append

/-- Texts and tokens that are marked the same, one after the other. -/
theorem SameMarks.join {cs ds : List Char} {ts us : List Token}
    (h : SameMarks (charMarks cs) (tokenMarks ts)) (h' : SameMarks (charMarks ds) (tokenMarks us)) :
    SameMarks (charMarks (cs ++ ds)) (tokenMarks (ts ++ us)) := by
  rw [charMarks_append, tokenMarks_append]
  exact h.append h'

/-- Numbers and identifiers are spelled without factorial signs. -/
theorem sameMarks_legible {t : Token} (h : t.Legible)
    (hkind : t.kind = .number ∨ t.kind = .identifier) :
    SameMarks (charMarks t.text.toList) (tokenMarks [t.unplaced]) := by
  have hnegate : t.kind ≠ .negate := by rcases hkind with hkind | hkind <;> rw [hkind] <;> decide
  have hfactorial : t.kind ≠ .factorial := by
    rcases hkind with hkind | hkind <;> rw [hkind] <;> decide
  obtain ⟨c, cs, htext, _⟩ := h.cuts hnegate
  refine .plain (by rw [htext]; exact List.cons_ne_nil c cs) ?_ hfactorial
  obtain ⟨_, hdigit, hletter⟩ := punctuation_plain (c := '!') rfl
  intro hc
  rcases hkind with hkind | hkind
  · obtain ⟨cs, hlexeme, hdigits⟩ := h.number hkind
    rw [text, hlexeme, Option.getD_some, String.toList_ofList] at hc
    rcases hdigits '!' hc with hdigit' | hpoint
    · rw [hdigit] at hdigit'
      cases hdigit'
    · cases hpoint
  · obtain ⟨c, cs, hspelled, hfirst, _, hothers⟩ := h.identifier hkind
    rw [hspelled] at hc
    rcases List.mem_cons.1 hc with rfl | hc
    · rw [hletter] at hfirst
      cases hfirst
    · have := hothers '!' hc
      rw [continuesName, hletter, hdigit] at this
      cases this

theorem sameMarks_name {name : Name} (h : name.WellMade Legible) :
    SameMarks (charMarks name.text.toList) (tokenMarks name.spelling) := by
  obtain ⟨first, others⟩ := name
  induction others generalizing first with
  | nil =>
      obtain ⟨hkind, hlegible⟩ := h first (by simp [Name.members])
      rw [Name.text_single]
      exact sameMarks_legible hlegible (Or.inr hkind)
  | cons member others ih =>
      obtain ⟨hkind, hlegible⟩ := h first (by simp [Name.members])
      rw [Name.text_cons, String.toList_append, String.toList_append]
      have period : SameMarks (charMarks ".".toList) (tokenMarks [{ kind := .period }]) :=
        .plain (by decide) (by decide) (by decide)
      have hfirst := (sameMarks_legible hlegible (Or.inr hkind)).join period
      exact hfirst.join (ih member fun t ht => h t (List.mem_cons_of_mem _ ht))

theorem sameMarks_operator {kind : Kind} (h : kind.isBinary = true) :
    SameMarks (charMarks (" " ++ kind.text ++ " ").toList) (tokenMarks [{ kind }]) := by
  rcases Kind.binary_cases h with rfl | rfl | rfl | rfl | rfl <;>
    exact .plain (by decide) (by decide) (by decide)

mutual

/-- The canonical text is marked like its spelling. -/
theorem sameMarks_render : ∀ (e : Expr), e.WellMade Legible →
    SameMarks (charMarks e.render.toList) (tokenMarks e.spelling)
  | .number t, h => by
      rw [Expr.render, Expr.spelling]
      exact sameMarks_legible h.1.2 (Or.inl h.1.1)
  | .identifier name, h => by
      rw [Expr.render, Expr.spelling]
      exact sameMarks_name h
  | .binary lhs rhs op, h => by
      obtain ⟨hlhs, hrhs, hbinary, _⟩ := h
      rw [Expr.render, Expr.spelling, String.toList_append, String.toList_append, List.append_assoc]
      exact (sameMarks_render lhs hlhs).join
        ((sameMarks_operator hbinary).join (sameMarks_render rhs hrhs))
  | .unary operand op, h => by
      obtain ⟨hoperand, hunary, hlegible⟩ := h
      rcases Kind.unary_cases hunary with hop | hop
      · rw [Expr.render_negation hop hlegible, Expr.spelling_negation hop, String.toList_append]
        have minus : SameMarks (charMarks "-".toList) (tokenMarks [{ kind := .minus }]) :=
          .plain (by decide) (by decide) (by decide)
        exact minus.join (sameMarks_render operand hoperand)
      · rw [Expr.render_factorial hop hlegible, Expr.spelling_factorial hop, String.toList_append]
        have mark : SameMarks (charMarks "!".toList) (tokenMarks [{ kind := .factorial }]) := .rfl
        exact (sameMarks_render operand hoperand).join mark
  | .call name arguments, h => by
      obtain ⟨hname, harguments⟩ := h
      have opening : SameMarks (charMarks "(".toList) (tokenMarks [{ kind := .openParen }]) :=
        .plain (by decide) (by decide) (by decide)
      have closing : SameMarks (charMarks ")".toList) (tokenMarks [{ kind := .closeParen }]) :=
        .plain (by decide) (by decide) (by decide)
      rw [Expr.render, Expr.spelling]
      simp only [String.toList_append, List.append_assoc]
      exact (sameMarks_name hname).join
        (opening.join ((sameMarks_renderAll arguments harguments).join closing))

theorem sameMarks_renderAll : ∀ (es : List Expr), Expr.AllWellMade Legible es →
    SameMarks (charMarks (Expr.renderAll es).toList) (tokenMarks (Expr.spellingAll es))
  | [], _ => .rfl
  | [e], h => by
      rw [Expr.renderAll, Expr.spellingAll]
      exact sameMarks_render e h.1
  | e :: e' :: es, h => by
      have comma : SameMarks (charMarks ", ".toList) (tokenMarks [{ kind := .comma }]) :=
        .plain (by decide) (by decide) (by decide)
      rw [Expr.renderAll_cons, Expr.spellingAll_cons]
      simp only [String.toList_append, List.append_assoc]
      exact (sameMarks_render e h.1).join (comma.join (sameMarks_renderAll (e' :: es) h.2))

end

/-- Two factorial signs are next to each other in a canonical text if they are among its
tokens. -/
theorem unstacked_spelling_iff {e : Expr} (h : e.WellMade Legible) :
    Unstacked e.spelling ↔ ¬ ['!', '!'] <:+: e.render.toList := by
  rw [← sparse_tokenMarks, ← (sameMarks_render e h).sparse, sparse_charMarks]

/-! ## A canonical text is not longer -/

theorem length_identifier {ts : List Token} {name : Name} (h : Identifier ts name) :
    name.spelling.length = ts.length := by
  obtain ⟨_, further⟩ := h
  rw [Name.spelling, List.length_cons, List.length_cons]
  congr 1
  induction further with
  | none => rfl
  | more _ _ _ ih =>
      rw [List.flatMap_cons, List.length_append, ih]
      simp only [List.length_cons, List.length_nil]
      omega

theorem length_spelling_unary (operand : Expr) (op : Token) :
    (Expr.unary operand op).spelling.length = operand.spelling.length + 1 := by
  rw [Expr.spelling]
  split <;> simp

mutual

/-- The canonical text of a phrase has no more tokens than the phrase. -/
theorem length_spelling_le {q : Nonterminal} {ts : List Token} {e : Expr} :
    Phrase q ts e → e.spelling.length ≤ ts.length
  | .addition lhs _ rhs | .multiplication lhs _ rhs | .exponentiation lhs _ rhs => by
      have hlhs := length_spelling_le lhs
      have hrhs := length_spelling_le rhs
      rw [Expr.spelling, List.length_append, List.length_append, List.length_cons, List.length_cons]
      omega
  | .ofProduct h | .ofPower h | .ofFactor h | .ofPrimary h => length_spelling_le h
  | .factorial h _ => by
      have := length_spelling_le h
      rw [length_spelling_unary, List.length_append, List.length_singleton]
      omega
  | .number _ _ _ => by rw [Expr.spelling, List.length_singleton, List.length_singleton]
  | .name h => by rw [Expr.spelling, length_identifier h]
  | .emptyCall h _ _ => by
      rw [Expr.spelling, List.length_append, List.length_append, length_identifier h]
      rfl
  | .call h _ arguments _ => by
      have := length_spellingAll_le arguments
      simp only [Expr.spelling, List.length_append, List.length_cons, List.length_nil,
        length_identifier h]
      omega
  | .group _ h _ => by
      have := length_spelling_le h
      simp only [List.length_append, List.length_cons, List.length_nil]
      omega
  | .minus _ h | .negation _ h => by
      have := length_spelling_le h
      rw [length_spelling_unary, List.length_cons]
      omega

theorem length_spellingAll_le {ts : List Token} {es : List Expr} :
    Arguments ts es → (Expr.spellingAll es).length ≤ ts.length
  | .one h => by
      rw [Expr.spellingAll]
      exact length_spelling_le h
  | @Arguments.more _ _ _ _ es h _ others => by
      have hfirst := length_spelling_le h
      have hothers := length_spellingAll_le others
      cases es with
      | nil => cases others
      | cons e es =>
          rw [Expr.spellingAll_cons, List.length_append, List.length_append, List.length_cons,
            List.length_cons]
          omega

end

/-! ## Reading again -/

theorem unplaced_ofText_render {e : Expr} (h : e.WellMade Legible) :
    (Token.ofText e.render).map unplaced = e.spelling := by
  rw [Token.ofText, scan_unplaced, lexed_render_self h]

theorem unstacked_ofText_render {e : Expr} (h : e.WellMade Legible) :
    Unstacked (Token.ofText e.render) ↔ Unstacked e.spelling := by
  rw [← unplaced_ofText_render h, Unstacked, Unstacked, List.isChain_map]
  rfl

/-- **A canonical text is read again as an expression with the same canonical text**, at any
number of frames at which it is not too deeply nested, if and only if no two factorial signs
follow each other in it.  It is not too deeply nested if there are three frames for each token of
the source that it is the canonical text of, and three more. -/
theorem Expr.reads_canonical_iff {source text : String} {e : Expr}
    (reads : Expr.ofTokens (Token.ofText source) = .ok e []) (prints : e.render? = some text)
    (frames : Nat) :
    (3 * (Token.ofText source).length + 2 < frames →
        ¬ (Reader.whole frames (Token.ofText text)).TooDeep) ∧
      (¬ (Reader.whole frames (Token.ofText text)).TooDeep →
        ((∃ e', Reader.whole frames (Token.ofText text) = .ok e' [] ∧ e'.render = text ∧
            (e'.render? = some text ∨ Printer.depthLimit < e'.depth)) ↔
          ¬ ['!', '!'] <:+: text.toList)) := by
  obtain ⟨_, hphrase⟩ := Reader.whole_sound reads
  obtain ⟨_, rfl⟩ := (render?_eq_some_iff e text).1 prints
  have legible := wellMade_of_ofText hphrase
  refine ⟨fun enough => Reader.not_tooDeep_whole frames _ ?_, fun room => ⟨?_, fun apart => ?_⟩⟩
  · have := length_spelling_le hphrase
    rw [← unplaced_ofText_render legible, List.length_map] at this
    omega
  · rintro ⟨e', hread, _⟩
    obtain ⟨_, hphrase'⟩ := Reader.whole_sound hread
    rw [← unstacked_spelling_iff legible, ← unstacked_ofText_render legible]
    exact unstacked_phrase hphrase'
  · rw [← unstacked_spelling_iff legible, ← unstacked_ofText_render legible] at apart
    obtain ⟨e', hphrase', htext⟩ :=
      prints_spelling e legible apart (unplaced_ofText_render legible)
    refine ⟨e', (Reader.whole_eq_ok_iff room e' []).2 ⟨rfl, hphrase'⟩, htext, ?_⟩
    by_cases shallow : e'.depth ≤ Printer.depthLimit
    · exact Or.inl ((render?_eq_some_iff e' _).2 ⟨shallow, htext⟩)
    · exact Or.inr (Nat.lt_of_not_le shallow)

/-- The parentheses of `(2 + 3) * 4!` are lost, and what is left is read as another sum with the
same text. -/
theorem reads_canonical_product :
    ∃ e, Expr.ofTokens (Token.ofText "(2 + 3) * 4!") = .ok e [] ∧
      e.render? = some "2 + 3 * 4!" ∧ ∃ e', e' ≠ e ∧ e'.render = "2 + 3 * 4!" ∧
        Reader.whole Reader.frameLimit (Token.ofText "2 + 3 * 4!") = .ok e' [] := by
  have reads : Expr.ofTokens (Token.ofText "(2 + 3) * 4!") =
      .ok (.binary (.binary (.number ⟨.number, some "2", 1⟩) (.number ⟨.number, some "3", 5⟩)
        ⟨.plus, none, 3⟩) (.unary (.number ⟨.number, some "4", 10⟩) ⟨.factorial, none, 11⟩)
        ⟨.multiply, none, 8⟩) [] := by
    decide +kernel
  have prints : (Expr.binary (.binary (.number ⟨.number, some "2", 1⟩)
      (.number ⟨.number, some "3", 5⟩) ⟨.plus, none, 3⟩)
        (.unary (.number ⟨.number, some "4", 10⟩) ⟨.factorial, none, 11⟩)
        ⟨.multiply, none, 8⟩).render? = some "2 + 3 * 4!" := by
    decide +kernel
  obtain ⟨enough, again⟩ := Expr.reads_canonical_iff reads prints Reader.frameLimit
  obtain ⟨e', hread, htext, _⟩ := (again (enough (by decide +kernel))).2 (by decide +kernel)
  refine ⟨_, reads, prints, e', ?_, htext, hread⟩
  rintro rfl
  revert hread
  decide +kernel

/-- The canonical text of `(3!)!` is no expression. -/
theorem factorial_of_factorial_not_read : ∃ e, Expr.ofTokens (Token.ofText "(3!)!") = .ok e [] ∧
    e.render? = some "3!!" ∧ ∀ e' rest, Expr.ofTokens (Token.ofText "3!!") ≠ .ok e' rest := by
  refine ⟨.unary (.unary (.number ⟨.number, some "3", 1⟩) ⟨.factorial, none, 2⟩)
    ⟨.factorial, none, 4⟩, by decide +kernel, by decide +kernel, fun e' rest hread => ?_⟩
  have refused : Expr.ofTokens (Token.ofText "3!!") =
      .fail (.unexpected ⟨.factorial, none, 2⟩) [⟨.factorial, none, 2⟩] := by
    decide +kernel
  rw [refused] at hread
  cases hread

end Formula
