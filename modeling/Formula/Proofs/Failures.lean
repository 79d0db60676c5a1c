import Formula.CommandLine
import Formula.Proofs.Evaluation
import Formula.Proofs.Names
import Formula.Proofs.Refusals
import Formula.Proofs.Reports
set_option autoImplicit false

/-!
# Only foreseen failures

Whatever a run does, definitions, the outline, reading and evaluation, it fails in a foreseen way
only.  Texts have no number without a spelling and every token at a place in the text, so what a
reader refuses can be pointed at.  The table of a run holds total functions and constants, and the
trees it works on are well made.
-/

namespace Formula

open Text (Style)
open Token

/-! ## Reading -/

namespace Failure

theorem columnOf_eq {source : String} {rest : List Token}
    (h : ∀ t ∈ rest, t ∈ Token.ofText source) :
    ∃ start : Nat, columnOf source rest = start ∧ start ≤ source.length := by
  cases rest with
  | nil => exact ⟨source.length, rfl, Nat.le_refl _⟩
  | cons t rest =>
      have hplace := place_of_mem_scan (h t List.mem_cons_self)
      rw [String.length_toList] at hplace
      exact ⟨t.start.toNat, by rw [columnOf]; omega, by omega⟩

theorem spelled_of_concerns {source : String} {refusal : Refusal}
    (h : refusal.Concerns (Token.ofText source)) : refusal ≠ .blankNumber := by
  rintro rfl
  obtain ⟨t, ht, hkind, hlexeme⟩ := h
  obtain ⟨cs, hspelled, _⟩ := (legible_of_mem_scan ht).number hkind
  rw [hlexeme] at hspelled
  cases hspelled

/-- A refusal of the tokens of a text is a foreseen failure. -/
theorem foreseen_ofWholeRefusal (style : Style) {source : String} {refusal : Refusal}
    {rest : List Token} (h : refusal.Concerns (Token.ofText source))
    (hrest : rest <:+ Token.ofText source) :
    (ofWholeRefusal style source refusal rest).Foreseen style := by
  obtain ⟨start, hcolumn, hstart⟩ := columnOf_eq fun t ht => hrest.subset ht
  cases refusal with
  | expected what =>
      rw [ofWholeRefusal, ofRefusal, hcolumn]
      · exact .expected _ _ hstart
      · exact fun heq => nomatch heq
  | unexpected t =>
      have hplace := place_of_mem_scan h
      rw [String.length_toList] at hplace
      have hat : max t.start 0 = (t.start.toNat : Int) := by omega
      rw [ofWholeRefusal, ofRefusal, hat]
      · exact .unexpected _ _ (by omega)
      · exact fun heq => nomatch heq
  | blankNumber => exact absurd rfl (spelled_of_concerns h)
  | tooDeep =>
      unfold ofWholeRefusal
      rw [hcolumn]
      exact .nestedTooDeeply _ _ hstart

end Failure

/-- A source that is no expression is refused in a foreseen way. -/
theorem Expr.foreseen_ofSource {style : Style} {source : String} {failure : Failure}
    (h : Expr.ofSource style source = .error failure) : failure.Foreseen style := by
  unfold Expr.ofSource at h
  split at h
  · cases h
  · rename_i refusal rest hread
    cases h
    obtain ⟨hconcerns, hrest⟩ := Reader.whole_refuses hread
    exact Failure.foreseen_ofWholeRefusal style hconcerns hrest

/-! ## Definitions -/

namespace CommandLine

theorem foreseen_defineAll {style : Style} {failure : Failure} : ∀ {definitions : List String}
    {table : SymbolTable}, defineAll style table (definitions.map some) = .error failure →
      failure.Foreseen style
  | [], _, h => nomatch h
  | text :: rest, table, h => by
      rw [List.map_cons, defineAll] at h
      split at h
      · cases h
        exact .definition _
      · split at h
        · rename_i error hdefine
          cases h
          unfold SymbolTable.define at hdefine
          split at hdefine
          · cases hdefine
            exact .redeclared _
          · cases hdefine
        · exact foreseen_defineAll h

/-- Definitions leave a total table total. -/
theorem total_defineAll {style : Style} {extended : SymbolTable} : ∀ {definitions : List String}
    {table : SymbolTable}, table.Total →
      defineAll style table (definitions.map some) = .ok extended → extended.Total
  | [], _, total, h => by
      rw [List.map_nil, defineAll] at h
      cases h
      exact total
  | text :: rest, table, total, h => by
      rw [List.map_cons, defineAll] at h
      split at h
      · cases h
      · split at h
        · cases h
        · rename_i hdefine
          exact total_defineAll (total.define_constant hdefine) h

end CommandLine

/-! ## Outlines and values -/

namespace Session

/-- An outline starts at level zero, where there is no blank to be written. -/
theorem outline?_zero (e : Expr) :
    e.outline? 0 = if e.depth ≤ Expr.depthLimit then .ok (e.outline 0) else .error .tooDeep := by
  have hlevel : Fault.ofRepetition? 0 4 0 = none := by decide
  rw [Expr.outline?, hlevel]

theorem foreseen_outline {style : Style} {source : String} {failure : Failure}
    (h : outline style source = .error failure) : failure.Foreseen style := by
  unfold outline at h
  split at h
  · rename_i hread
    cases h
    exact Expr.foreseen_ofSource hread
  · rw [outline?_zero] at h
    split at h
    · cases h
    · rename_i houtline
      cases h
      split at houtline
      · cases houtline
      · cases houtline
        exact .tooDeep

theorem outline_eq_ok {style : Style} {source text : String}
    (h : outline style source = .ok text) :
    ∃ e, Expr.ofSource style source = .ok e ∧ text = e.outline 0 := by
  unfold outline at h
  split at h
  · cases h
  · rename_i e hread
    rw [outline?_zero] at h
    split at h
    · rename_i houtline
      cases h
      split at houtline
      · cases houtline
        exact ⟨e, hread, rfl⟩
      · cases houtline
    · cases h

end Session

/-- An error of an expression is a foreseen failure. -/
theorem Failure.foreseen_ofEvaluation (style : Style) {error : EvalError}
    (h : error.IsOfExpression) : (ofEvaluation style error).Foreseen style := by
  cases error with
  | undefined sought name bound => exact .undefined _ _
  | argumentCount name arity variadic given => exact .argumentCount _
  | factorial error => exact .logic _
  | tooDeep => exact .logic _
  | notBinary _ => exact h.elim
  | notUnary _ => exact h.elim
  | fault _ => exact h.elim

namespace Session

/-- A source without a value is refused in a foreseen way, or for a fault of a function. -/
theorem evaluate_error {style : Style} {table : SymbolTable} {source : String} {failure : Failure}
    (h : evaluate style table source = .error failure) :
    failure.Foreseen style ∨ ∃ fault, failure = .fault fault ∧
      EvalError.IsOfFunction table (.fault fault) := by
  unfold evaluate at h
  split at h
  · rename_i hread
    cases h
    exact .inl (Expr.foreseen_ofSource hread)
  · rename_i e hread
    split at h
    · rename_i error hevaluate
      cases h
      rcases Expr.evaluate_error (Expr.wellMade_ofSource hread) hevaluate with hexpression | hfunction
      · exact .inl (Failure.foreseen_ofEvaluation style hexpression)
      · obtain ⟨name, f, args, fault, hget, htakes, hfault, rfl⟩ := hfunction
        exact .inr ⟨fault, rfl, name, f, args, fault, hget, htakes, hfault, rfl⟩
    · cases h

theorem foreseen_evaluate {style : Style} {table : SymbolTable} (total : table.Total)
    {source : String} {failure : Failure} (h : evaluate style table source = .error failure) :
    failure.Foreseen style := by
  rcases evaluate_error h with foreseen | ⟨fault, _, hfunction⟩
  · exact foreseen
  · exact absurd hfunction (EvalError.not_isOfFunction total _)

end Session

end Formula
