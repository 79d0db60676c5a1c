import Formula.Proofs.Columns
import Formula.Proofs.Failures
import Formula.Proofs.Walks
set_option autoImplicit false

/-!
# Blanks between tokens

The tokens of a source may be written with any blanks in front of them and behind them, as long as
there is one between any two of them at least: they are cut again, in other columns.  Nothing that
is made of them depends on the columns but the places that messages point at.
-/

namespace Formula

open Text (Style isBlank)

/-! ## Passes over trees -/

namespace Expr

mutual

theorem render_unplaced : ∀ (e : Expr), e.unplaced.render = e.render
  | .number _ => rfl
  | .identifier name => by rw [unplaced, render, render, name.text_unplaced]
  | .binary lhs rhs op => by
      rw [unplaced, render, render, render_unplaced lhs, render_unplaced rhs, Token.unplaced_kind]
  | .unary operand op => by
      rw [unplaced, render, render, render_unplaced operand, Token.unplaced_kind,
        Token.unplaced_text]
  | .call name arguments => by
      rw [unplaced, render, render, name.text_unplaced, renderAll_unplaced arguments]

theorem renderAll_unplaced : ∀ (es : List Expr), renderAll (unplacedAll es) = renderAll es
  | [] => rfl
  | [e] => render_unplaced e
  | e :: e' :: es => by
      have others := renderAll_unplaced (e' :: es)
      rw [unplacedAll] at others
      rw [unplacedAll, unplacedAll, renderAll_cons, renderAll_cons, others, render_unplaced e]

end

mutual

theorem depth_unplaced : ∀ (e : Expr), e.unplaced.depth = e.depth
  | .number _ => rfl
  | .identifier _ => rfl
  | .binary lhs rhs op => by
      rw [unplaced, depth, depth, depth_unplaced lhs, depth_unplaced rhs]
  | .unary operand op => by rw [unplaced, depth, depth, depth_unplaced operand]
  | .call name arguments => by rw [unplaced, depth, depth, depthOfAll_unplaced arguments]

theorem depthOfAll_unplaced : ∀ (es : List Expr), depthOfAll (unplacedAll es) = depthOfAll es
  | [] => rfl
  | e :: es => by
      rw [unplacedAll, depthOfAll, depthOfAll, depth_unplaced e, depthOfAll_unplaced es]

end

theorem render?_unplaced (e : Expr) : e.unplaced.render? = e.render? := by
  refine Option.ext fun text => ?_
  rw [render?_eq_some_iff, render?_eq_some_iff, depth_unplaced, render_unplaced]

theorem length_unplacedAll (es : List Expr) : (unplacedAll es).length = es.length := by
  induction es with
  | nil => rfl
  | cons e es ih => rw [unplacedAll, List.length_cons, List.length_cons, ih]

/-- A binary operator is applied by its kind; only a message about an operator of the wrong sort
would show more of it. -/
theorem applyBinary_unplaced {op : Token} (h : op.kind.isBinary = true) (x y : Double) :
    applyBinary op.unplaced x y = applyBinary op x y := by
  unfold applyBinary
  rcases Kind.binary_cases h with hk | hk | hk | hk | hk <;> rw [Token.unplaced_kind, hk]

theorem applyUnary_unplaced {op : Token} (h : op.kind.isUnary = true) (x : Double) :
    applyUnary op.unplaced x = applyUnary op x := by
  unfold applyUnary
  rcases Kind.unary_cases h with hk | hk <;> rw [Token.unplaced_kind, hk]

end Expr

namespace Calculator

open Formula.Expr

variable {P : Token → Prop} {table : SymbolTable}

mutual

/-- The calculator walks over a well made tree as if it had no columns. -/
theorem visit_unplaced : ∀ (room : Nat) (e : Expr) (shown : Double), e.WellMade P →
    visit table shown room e.unplaced = visit table shown room e
  | 0, e, _, _ => by rw [visit, visit]
  | _ + 1, .number _, _, _ => rfl
  | _ + 1, .identifier name, _, _ => by rw [unplaced, visit, visit, name.text_unplaced]
  | room + 1, .binary lhs rhs op, shown, ⟨hlhs, hrhs, hop, _⟩ => by
      rw [unplaced, visit_binary, visit_binary, visit_unplaced room lhs shown hlhs]
      simp only [visit_unplaced room rhs _ hrhs, applyBinary_unplaced hop]
  | room + 1, .unary operand op, shown, ⟨hoperand, hop, _⟩ => by
      rw [unplaced, visit_unary, visit_unary, visit_unplaced room operand shown hoperand]
      simp only [applyUnary_unplaced hop]
  | room + 1, .call name arguments, shown, ⟨_, harguments⟩ => by
      rw [unplaced, visit, visit, name.text_unplaced, length_unplacedAll,
        visitAll_unplaced room arguments shown harguments]

theorem visitAll_unplaced : ∀ (room : Nat) (es : List Expr) (shown : Double), AllWellMade P es →
    visitAll table shown room (unplacedAll es) = visitAll table shown room es
  | _, [], _, _ => rfl
  | room, e :: es, shown, ⟨he, hes⟩ => by
      rw [unplacedAll, visitAll_cons, visitAll_cons, visit_unplaced room e shown he]
      simp only [visitAll_unplaced room es _ hes]

end

end Calculator

theorem Expr.evaluate_unplaced {P : Token → Prop} {e : Expr} (h : e.WellMade P)
    (table : SymbolTable) : e.unplaced.evaluate table = e.evaluate table := by
  rw [evaluate, evaluate, Calculator.accept, Calculator.accept, Calculator.visit_unplaced _ e _ h]

/-! ## Tokens with blanks around them -/

namespace Token

/-- The texts of tokens, with a gap in front of each and one behind the last; the gaps are
numbered from the front. -/
def spaced (gap : Nat → String) : List Token → String
  | [] => gap 0
  | t :: ts => gap 0 ++ (t.text ++ spaced (fun i => gap (i + 1)) ts)

/-- The gaps around so many tokens are blank, and those between two tokens are not empty. -/
structure Spacing (count : Nat) (gap : Nat → String) : Prop where
  blank : ∀ i, i ≤ count → ∀ c ∈ (gap i).toList, isBlank c = true
  apart : ∀ i, 0 < i → i < count → gap i ≠ ""

theorem Spacing.tail {count : Nat} {gap : Nat → String} (h : Spacing (count + 1) gap) :
    Spacing count fun i => gap (i + 1) where
  blank i hi := h.blank (i + 1) (by omega)
  apart i _ hi := h.apart (i + 1) (by omega) (by omega)

theorem lexed_blanks {blanks : List Char} (h : ∀ c ∈ blanks, isBlank c = true) (rest : List Char) :
    lexed (blanks ++ rest) = lexed rest := by
  induction blanks with
  | nil => rfl
  | cons c blanks ih =>
      obtain ⟨hc, hblanks⟩ := List.forall_mem_cons.1 h
      rw [List.cons_append, lexed_blank hc, ih hblanks]

theorem mayFollow_blank (kind : Kind) {c : Char} (h : isBlank c = true) :
    mayFollow kind c = true := by
  have hdigit : Text.isDigit c = false := by
    refine Bool.eq_false_iff.2 fun hdigit => ?_
    rw [Text.isBlank_false_of_isDigit hdigit] at h
    cases h
  have hletter : Text.isLetter c = false := by
    refine Bool.eq_false_iff.2 fun hletter => ?_
    rw [Text.isBlank_false_of_isLetter hletter] at h
    cases h
  have hpoint : c ≠ '.' := by
    rintro rfl
    rw [(punctuation_plain (c := '.') rfl).1] at h
    cases h
  cases kind <;> simp [mayFollow, continuesName, hdigit, hletter, hpoint]

/-- Every token ends in front of a gap, which only the end of the text may leave empty. -/
theorem apart_gap (kind : Kind) {blanks rest : List Char} (h : ∀ c ∈ blanks, isBlank c = true)
    (hempty : blanks = [] → rest = []) : Apart kind (blanks ++ rest) := by
  intro c hc
  cases blanks with
  | nil =>
      rw [hempty rfl] at hc
      cases hc
  | cons b blanks =>
      cases hc
      exact mayFollow_blank kind (h c List.mem_cons_self)

/-- Tokens that are spaced are cut again. -/
theorem lexed_spaced {ts : List Token} {gap : Nat → String} (spacing : Spacing ts.length gap)
    (cuts : ∀ t ∈ ts, Cuts t) : lexed (spaced gap ts).toList = ts.map unplaced := by
  induction ts generalizing gap with
  | nil =>
      have hblanks := lexed_blanks (spacing.blank 0 (Nat.le_refl 0)) []
      rw [List.append_nil] at hblanks
      rw [spaced, hblanks, lexed_nil, List.map_nil]
  | cons t ts ih =>
      obtain ⟨ht, hts⟩ := List.forall_mem_cons.1 cuts
      have apart : Apart t.kind (spaced (fun i => gap (i + 1)) ts).toList := by
        have hgap := spacing.blank 1 (by rw [List.length_cons]; omega)
        cases ts with
        | nil =>
            have happart : Apart t.kind ((gap 1).toList ++ []) := apart_gap t.kind hgap fun _ => rfl
            rwa [List.append_nil] at happart
        | cons u us =>
            have hne := spacing.apart 1 (by omega) (by simp only [List.length_cons]; omega)
            rw [spaced, String.toList_append]
            refine apart_gap t.kind hgap fun hempty => absurd ?_ hne
            exact String.toList_injective hempty
      rw [spaced, String.toList_append, String.toList_append,
        lexed_blanks (spacing.blank 0 (Nat.zero_le _)), lexed_cuts ht apart, ih spacing.tail hts,
        List.map_cons]

/-- The tokens of a source, spaced anew, are the same but for their columns. -/
theorem ofText_spaced {source : String} {gap : Nat → String}
    (spacing : Spacing (ofText source).length gap) :
    (ofText (spaced gap (ofText source))).map unplaced = (ofText source).map unplaced := by
  rw [ofText, scan_unplaced]
  exact lexed_spaced spacing fun t ht => cuts_of_mem_scan ht

end Token

/-! ## Reading spaced tokens -/

/-- Two sources are read alike: as trees that cannot be told apart but by their columns, or with
problems of the same cause and the same message. -/
inductive ReadAlike : Except Failure Expr → Except Failure Expr → Prop where
  | tree {e e' : Expr} (alike : e'.alike e = true) (prints : e'.render? = e.render?)
      (values : ∀ table, e'.evaluate table = e.evaluate table) : ReadAlike (.ok e) (.ok e')
  | problem {p p' : Problem} (cause : p'.cause = p.cause) (message : p'.message = p.message) :
      ReadAlike (.error (.problem p)) (.error (.problem p'))

theorem ReadAlike.of_unplaced {P : Token → Prop} {e e' : Expr} (h : e'.unplaced = e.unplaced)
    (he : e.WellMade P) (he' : e'.WellMade P) : ReadAlike (.ok e) (.ok e') := by
  refine .tree ((e'.alike_iff_unplaced e).2 h) ?_ fun table => ?_
  · rw [← e'.render?_unplaced, h, e.render?_unplaced]
  · rw [← Expr.evaluate_unplaced he', h, Expr.evaluate_unplaced he]

/-- Refusals that differ in columns only are reported with the same words. -/
theorem ReadAlike.of_refusals (style : Style) (source source' : String) {refusal refusal' : Refusal}
    {rest rest' : List Token} (hrefusal : refusal'.unplaced = refusal.unplaced)
    (hrest : rest'.map Token.unplaced = rest.map Token.unplaced) (spelled : refusal ≠ .blankNumber) :
    ReadAlike (.error (.ofWholeRefusal style source refusal rest))
      (.error (.ofWholeRefusal style source' refusal' rest')) := by
  cases refusal with
  | expected what =>
      cases refusal' <;> cases hrefusal
      exact .problem rfl rfl
  | unexpected t =>
      cases refusal' with
      | unexpected t' =>
          injection hrefusal with hunplaced
          rw [Failure.ofWholeRefusal, Failure.ofWholeRefusal, Failure.ofRefusal, Failure.ofRefusal,
            Token.text_of_unplaced hunplaced]
          · exact .problem rfl rfl
          · intro heq
            cases heq
          · intro heq
            cases heq
      | _ => cases hrefusal
  | blankNumber => exact absurd rfl spelled
  | tooDeep =>
      cases refusal' <;> cases hrefusal
      cases rest with
      | nil =>
          rw [List.map_eq_nil_iff.1 hrest]
          exact .problem rfl rfl
      | cons t rest =>
          obtain ⟨t', rest', rfl, hunplaced, _⟩ := List.map_eq_cons_iff.1 hrest
          rw [Failure.ofWholeRefusal, Failure.ofWholeRefusal, Token.text_of_unplaced hunplaced]
          exact .problem rfl rfl

/-- **Blanks between tokens do not matter.**  Spaced anew in any way, a source has the same tokens
but for their columns, and is read as the same tree, with the same canonical text and the same
value or error against every table, or is refused for the same reason. -/
theorem ofSource_spaced (source : String) (gap : Nat → String)
    (spacing : Token.Spacing (Token.ofText source).length gap) :
    (Token.ofText (Token.spaced gap (Token.ofText source))).map Token.unplaced =
        (Token.ofText source).map Token.unplaced ∧
      ∀ style, ReadAlike (Expr.ofSource style source)
        (Expr.ofSource style (Token.spaced gap (Token.ofText source))) := by
  have tokens := Token.ofText_spaced spacing
  refine ⟨tokens, fun style => ?_⟩
  generalize Token.spaced gap (Token.ofText source) = source' at *
  have replies : (Expr.ofTokens (Token.ofText source')).unplaced Expr.unplaced =
      (Expr.ofTokens (Token.ofText source)).unplaced Expr.unplaced := by
    rw [Expr.ofTokens, Expr.ofTokens, ← Reader.ignoresColumns_whole, tokens,
      Reader.ignoresColumns_whole]
  cases hread : Expr.ofTokens (Token.ofText source) with
  | ok e rest =>
      cases hread' : Expr.ofTokens (Token.ofText source') with
      | ok e' rest' =>
          rw [hread, hread'] at replies
          obtain ⟨hunplaced, _⟩ := Reply.ok.inj replies
          have hsource : Expr.ofSource style source = .ok e := by rw [Expr.ofSource, hread]
          have hsource' : Expr.ofSource style source' = .ok e' := by rw [Expr.ofSource, hread']
          rw [hsource, hsource']
          exact .of_unplaced hunplaced (Expr.wellMade_ofSource hsource)
            (Expr.wellMade_ofSource hsource')
      | fail refusal' rest' => rw [hread, hread'] at replies; cases replies
  | fail refusal rest =>
      cases hread' : Expr.ofTokens (Token.ofText source') with
      | ok e' rest' => rw [hread, hread'] at replies; cases replies
      | fail refusal' rest' =>
          rw [hread, hread'] at replies
          obtain ⟨hrefusal, hrest⟩ := Reply.fail.inj replies
          rw [Expr.ofSource, Expr.ofSource, hread, hread']
          refine .of_refusals style source source' hrefusal hrest ?_
          exact Failure.spelled_of_concerns (Reader.whole_refuses hread).1

/-- One blank in every gap. -/
theorem ofSource_spaced_blanks :
    Token.spaced (fun _ => " ") (Token.ofText "f(2.!,a.b") = " f ( 2. ! , a . b " ∧
      ∀ style, ReadAlike (Expr.ofSource style "f(2.!,a.b")
        (Expr.ofSource style " f ( 2. ! , a . b ") := by
  have spacing : Token.Spacing (Token.ofText "f(2.!,a.b").length fun _ => " " := by
    refine ⟨fun i _ c hc => ?_, fun i _ _ => by decide⟩
    obtain rfl : c = ' ' := List.mem_singleton.1 hc
    decide +kernel
  have spaces : Token.spaced (fun _ => " ") (Token.ofText "f(2.!,a.b") = " f ( 2. ! , a . b " := by
    decide +kernel
  have reads := (ofSource_spaced "f(2.!,a.b" (fun _ => " ") spacing).2
  rw [spaces] at reads
  exact ⟨spaces, reads⟩

end Formula
