import Formula.Double.Printer
import Formula.Proofs.Names
set_option autoImplicit false

/-!
# The answer is one line

Neither the canonical text of an expression that was read from a text nor the text of a value has
a line end in it: line ends are blanks, which no number and no name contains.
-/

namespace Formula

/-- No line end among the characters. -/
def OneLine (cs : List Char) : Prop := '\n' ∉ cs

instance (cs : List Char) : Decidable (OneLine cs) := inferInstanceAs (Decidable (¬ _))

theorem OneLine.append {cs ds : List Char} (h : OneLine cs) (h' : OneLine ds) : OneLine (cs ++ ds) :=
  fun mem => (List.mem_append.1 mem).elim h h'

theorem OneLine.of_subset {cs ds : List Char} (h : OneLine ds) (sub : cs ⊆ ds) : OneLine cs :=
  fun mem => h (sub mem)

theorem oneLine_replicate {c : Char} (h : c ≠ '\n') (n : Nat) : OneLine (List.replicate n c) :=
  fun mem => h (List.eq_of_mem_replicate mem).symm

theorem oneLine_cons {c : Char} {cs : List Char} (h : c ≠ '\n') (h' : OneLine cs) :
    OneLine (c :: cs) :=
  fun mem => (List.mem_cons.1 mem).elim (fun heq => h heq.symm) h'

/-! ## Numbers -/

namespace Double

theorem oneLine_toDigits (n : Nat) : OneLine (Nat.toDigits 10 n) := by
  intro mem
  have hdigit := Nat.isDigit_of_mem_toDigits (by decide) (by decide) mem
  exact absurd hdigit (by decide)

theorem oneLine_signedText (negative : Bool) {cs : List Char} (h : OneLine cs) :
    OneLine (signedText negative cs).toList := by
  rw [signedText, String.toList_ofList]
  split
  · exact oneLine_cons (by decide) h
  · exact h

theorem oneLine_positional (keepsPoint : Bool) {digits : List Char} (h : OneLine digits)
    (places : Int) : OneLine (positional keepsPoint digits places) := by
  have hzeros : ∀ n, OneLine (List.replicate n '0') := oneLine_replicate (by decide)
  have hwhole : ∀ n, OneLine (digits.take places.toNat ++ List.replicate n '0') := fun n =>
    (h.of_subset (List.take_subset _ _)).append (hzeros n)
  unfold positional
  split
  · exact (oneLine_cons (by decide) (oneLine_cons (by decide) (hzeros _))).append h
  · dsimp only
    split
    · split
      · exact (hwhole _).append (by decide)
      · exact hwhole _
    · exact (hwhole _).append (oneLine_cons (by decide) (h.of_subset (List.drop_subset _ _)))

theorem oneLine_scientific {digits : List Char} (h : OneLine digits) (exponent : Int) :
    OneLine (scientific digits exponent) := by
  have hexponent : OneLine (exponentDigits exponent.natAbs) := by
    unfold exponentDigits
    split
    · exact oneLine_cons (by decide) (oneLine_toDigits _)
    · exact oneLine_toDigits _
  have hsign : OneLine ('e' :: (if exponent < 0 then '-' else '+') :: exponentDigits exponent.natAbs) := by
    refine oneLine_cons (by decide) (oneLine_cons ?_ hexponent)
    split <;> decide
  unfold scientific
  dsimp only
  split
  · rename_i first second rest
    have hsub : second :: rest ⊆ first :: second :: rest := List.subset_cons_self _ _
    have hfirst : first ≠ '\n' := fun heq => h (heq ▸ List.mem_cons_self)
    exact (oneLine_cons hfirst (oneLine_cons (by decide) (h.of_subset hsub))).append hsign
  · exact h.append hsign

theorem oneLine_write (style : NumberStyle) (d : Decimal) : OneLine (style.write d) := by
  have hdigits : OneLine (significantDigits d).1 := by
    intro mem
    refine oneLine_toDigits d.coefficient ?_
    exact List.mem_reverse.1 (List.dropWhile_subset _ (List.mem_reverse.1 mem))
  unfold NumberStyle.write
  dsimp only
  split
  · exact oneLine_positional _ hdigits _
  · exact oneLine_scientific hdigits _

theorem oneLine_toText (x : Double) : OneLine x.toText.toList := by
  unfold toText textWith
  split
  · decide
  · exact oneLine_signedText _ (by decide)
  · split
    · exact oneLine_signedText _ (oneLine_positional _ (by decide) _)
    · exact oneLine_signedText _ (oneLine_write _ _)

theorem oneLine_answerText (x : Double) : OneLine x.answerText.toList := by
  unfold answerText
  split
  · exact oneLine_signedText _ (oneLine_toDigits _)
  · exact oneLine_toText x

end Double

/-! ## Expressions -/

open Token

theorem oneLine_of_plain {cs : List Char} (h : Plain cs) : OneLine cs := by
  intro mem
  have hblank := isBlank_false_of_plain h '\n' mem
  revert hblank
  decide +kernel

theorem Token.oneLine_number {t : Token} (h : t.kind = .number ∧ t.Legible) :
    OneLine t.text.toList := by
  obtain ⟨cs, hlexeme, hdigits⟩ := h.2.number h.1
  have htext : t.text.toList = cs := by simp [text, hlexeme]
  rw [htext]
  refine oneLine_of_plain fun d hd hperiod => ?_
  rw [continuesName, (hdigits d hd).resolve_right hperiod, Bool.or_true]

theorem Kind.oneLine_text (kind : Kind) : OneLine kind.text.toList := by
  cases kind <;> decide

namespace Expr

mutual

/-- The canonical text of a legible expression is one line. -/
theorem oneLine_render : ∀ {e : Expr}, e.WellMade Legible → OneLine e.render.toList
  | .number t, h => by
      rw [render]
      exact oneLine_number h.1
  | .identifier name, h => by
      rw [render]
      exact oneLine_of_plain (isName_text h).2
  | .binary lhs rhs op, h => by
      obtain ⟨hlhs, hrhs, _, _⟩ := h
      rw [render]
      simp only [String.toList_append]
      have hsign : OneLine (" ".toList ++ op.kind.text.toList ++ " ".toList) :=
        (OneLine.append (by decide) op.kind.oneLine_text).append (by decide)
      exact ((oneLine_render hlhs).append hsign).append (oneLine_render hrhs)
  | .unary operand op, h => by
      obtain ⟨hoperand, hunary, hop⟩ := h
      rcases Kind.unary_cases hunary with hkind | hkind
      · rw [render_negation hkind hop, String.toList_append]
        exact OneLine.append (by decide) (oneLine_render hoperand)
      · rw [render_factorial hkind hop, String.toList_append]
        exact (oneLine_render hoperand).append (by decide)
  | .call name arguments, h => by
      obtain ⟨hname, harguments⟩ := h
      rw [render]
      simp only [String.toList_append]
      exact (((oneLine_of_plain (isName_text hname).2).append (by decide)).append
        (oneLine_renderAll harguments)).append (by decide)

theorem oneLine_renderAll : ∀ {es : List Expr}, AllWellMade Legible es →
    OneLine (renderAll es).toList
  | [], _ => by
      rw [renderAll]
      decide
  | [e], h => by
      rw [renderAll]
      exact oneLine_render h.1
  | e :: e' :: es, h => by
      rw [renderAll_cons]
      simp only [String.toList_append]
      exact ((oneLine_render h.1).append (by decide)).append (oneLine_renderAll h.2)

end

end Expr

end Formula
