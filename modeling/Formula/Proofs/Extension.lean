import Formula.Proofs.Runs
import Formula.Proofs.Walks
set_option autoImplicit false

/-!
# Evaluation against a table that has grown

A table extends another one if every name that is bound in the other keeps its symbol.  A walk of
the calculator looks names up and does nothing else with a table, so against an extended table it
goes as before, unless it met a name that was not bound.  That failure is the only one that a
later definition can undo (`Failure.Misses`).
-/

namespace Formula

open Text (Style)

namespace SymbolTable

/-- Every name that is bound in the table has the same symbol in the extended one. -/
def Extends (table extended : SymbolTable) : Prop :=
  ∀ name symbol, table.get? name = some symbol → extended.get? name = some symbol

end SymbolTable

open SymbolTable (Extends)

/-! ## Lookups -/

namespace Expr

variable {table extended : SymbolTable}

theorem constantValue_extends (h : Extends table extended) (name : String) :
    constantValue extended name = constantValue table name ∨
      constantValue table name = .error (.undefined .constant name false) ∧
        table.get? name = none := by
  cases hget : table.get? name with
  | none => exact .inr ⟨by rw [constantValue, SymbolTable.lookup, hget], rfl⟩
  | some symbol =>
      refine .inl ?_
      rw [constantValue, constantValue, SymbolTable.lookup, SymbolTable.lookup, hget,
        h name symbol hget]

theorem callee_extends (h : Extends table extended) (name : String) (given : Nat) :
    callee extended name given = callee table name given ∨
      callee table name given = .error (.undefined .function name false) ∧
        table.get? name = none := by
  cases hget : table.get? name with
  | none => exact .inr ⟨by rw [callee, functionOf, SymbolTable.lookup, hget], rfl⟩
  | some symbol =>
      refine .inl ?_
      rw [callee, callee, functionOf, functionOf, SymbolTable.lookup, SymbolTable.lookup, hget,
        h name symbol hget]

end Expr

/-! ## Walks -/

namespace Calculation

variable {α β : Type}

/-- The second walk goes as the first one does, unless that one met a name that the table does not
bind. -/
def Repeats (table : SymbolTable) (c again : Calculation α) : Prop :=
  again = c ∨ ∃ sought name output,
    c = .failed (.undefined sought name false) output ∧ table.get? name = none

variable {table : SymbolTable}

theorem Repeats.refl (c : Calculation α) : Repeats table c c := .inl rfl

theorem Repeats.andThen {c again : Calculation α} {next next' : α → Double → Calculation β}
    (first : Repeats table c again)
    (second : ∀ x output, Repeats table (next x output) (next' x output)) :
    Repeats table (c.andThen next) (again.andThen next') := by
  rcases first with rfl | ⟨sought, name, output, rfl, unbound⟩
  · cases again with
    | done x output => exact second x output
    | failed error output => exact .inl rfl
  · exact .inr ⟨sought, name, output, rfl, unbound⟩

end Calculation

namespace Calculator

open Calculation Formula.Expr

variable {table extended : SymbolTable}

mutual

theorem visit_extends (h : Extends table extended) : ∀ (room : Nat) (e : Expr) (shown : Double),
    Repeats table (visit table shown room e) (visit extended shown room e)
  | 0, e, shown => by
      rw [visit, visit]
      exact .refl _
  | _ + 1, .number t, shown => by
      rw [visit, visit]
      exact .refl _
  | _ + 1, .identifier name, shown => by
      rw [visit, visit]
      rcases constantValue_extends h name.text with heq | ⟨herror, unbound⟩
      · exact .inl (by rw [heq])
      · exact .inr ⟨_, _, shown, by rw [herror, complete], unbound⟩
  | room + 1, .binary lhs rhs op, shown => by
      rw [visit_binary, visit_binary]
      exact (visit_extends h room lhs shown).andThen fun _ x =>
        (visit_extends h room rhs x).andThen fun _ _ => .refl _
  | room + 1, .unary operand op, shown => by
      rw [visit_unary, visit_unary]
      exact (visit_extends h room operand shown).andThen fun _ _ => .refl _
  | room + 1, .call name arguments, shown => by
      rcases callee_extends h name.text arguments.length with heq | ⟨herror, unbound⟩
      · cases hcallee : callee table name.text arguments.length with
        | error error =>
            rw [hcallee] at heq
            rw [visit, visit, heq, hcallee]
            exact .refl _
        | ok f =>
            rw [hcallee] at heq
            rw [visit_call shown room heq, visit_call shown room hcallee]
            exact (visitAll_extends h room arguments shown).andThen fun _ _ => .refl _
      · exact .inr ⟨_, _, shown, by rw [visit, herror], unbound⟩

theorem visitAll_extends (h : Extends table extended) :
    ∀ (room : Nat) (es : List Expr) (shown : Double),
      Repeats table (visitAll table shown room es) (visitAll extended shown room es)
  | _, [], shown => by
      rw [visitAll, visitAll]
      exact .refl _
  | room, e :: rest, shown => by
      rw [visitAll_cons, visitAll_cons]
      exact (visit_extends h room e shown).andThen fun _ x =>
        (visitAll_extends h room rest x).andThen fun _ _ => .refl _

end

end Calculator

namespace Session

end Session

end Formula
