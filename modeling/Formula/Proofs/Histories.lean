import Formula.Proofs.Extension
import Formula.Proofs.Names
import Formula.Proofs.Reports
import Formula.Workspace
set_option autoImplicit false

/-!
# What steps do to the tables of a workspace

A definition that succeeds adds its name behind the symbols that are there, and no other step
changes a table (`effect_perform`).  So tables only grow, and what a run found once is found by
every later run on the same table.
-/

namespace Formula

open Text (Style)

/-- Did the step give something?  A failure that was settled gives nothing. -/
def Outcome.gives {α : Type} (o : Outcome (Option α)) : Bool :=
  match o.result with
  | .ok (some _) => true
  | _ => false

/-- Guarded work gives something if and only if it succeeds. -/
theorem Reporter.gives_guard {α : Type} (style : Style) (work : Outcome α) :
    (guard style work).gives = work.result.isOk := by
  cases hresult : work.result with
  | ok value => rw [guard, hresult]; rfl
  | error failure =>
      rw [guard, hresult]
      dsimp only
      cases hsettle : (work.reporter.settle style failure).result with
      | error _ => rw [Outcome.andThen_error hsettle]; rfl
      | ok _ => rw [Outcome.andThen_ok hsettle]; rfl

namespace SymbolTable

theorem contains_eq_isSome (table : SymbolTable) (name : String) :
    table.contains name = (table.get? name).isSome := by
  rw [get?, Option.isSome_map, contains, List.isSome_find?]

/-- A definition is refused for its literal or its name, or else adds its name behind all others. -/
theorem defineConstant_eq (style : Style) (table : SymbolTable) (name literal : String) :
    table.defineConstant style name literal =
      match Double.ofLiteral? literal, table.get? name with
      | none, _ => .error (.fault (.notANumber literal))
      | some _, some _ => .error (.problem (.symbolRedeclared style name))
      | some x, none => .ok ⟨table.entries ++ [(name, .constant x)]⟩ := by
  unfold defineConstant define
  rw [contains_eq_isSome]
  cases Double.ofLiteral? literal with
  | none => rfl
  | some x => cases table.get? name <;> rfl

end SymbolTable

namespace Workspace

variable {style : Style}

/-! ## One step -/

/-- A step gives something if and only if its task succeeds. -/
theorem gives_perform (style : Style) (w : Workspace) (step : Step) :
    (w.perform style step).1.gives =
      (step.task.perform style (w.tables step.table) w.reporter).1.result.isOk := by
  unfold perform
  dsimp only
  split
  · exact Reporter.gives_guard style _
  · cases hresult : (step.task.perform style (w.tables step.table) w.reporter).1.result with
    | error failure => rw [Outcome.andThen_error hresult]; rfl
    | ok product => rw [Outcome.andThen_ok hresult]; rfl

/-- What a step with this outcome may do to the tables of the workspace. -/
inductive Effect (w : Workspace) (step : Step) (o : Outcome (Option Product)) :
    (Nat → SymbolTable) → Prop where
  /-- A definition that succeeds adds its name, which was not bound, behind all others. -/
  | defined {name literal : String} {x : Double} (htask : step.task = .define name literal)
      (gives : o.gives = true) (accepted : Double.ofLiteral? literal = some x)
      (unbound : (w.tables step.table).get? name = none) :
      Effect w step o (w.setTable step.table
        ⟨(w.tables step.table).entries ++ [(name, .constant x)]⟩).tables
  /-- A definition that fails was refused its literal or its name, and changes nothing. -/
  | refused {name literal : String} (htask : step.task = .define name literal) (fails : o.gives = false)
      (reason : Double.ofLiteral? literal = none ∨ (w.tables step.table).get? name ≠ none) :
      Effect w step o w.tables
  /-- Nothing else changes a table. -/
  | other (htask : ∀ name literal, step.task ≠ .define name literal) : Effect w step o w.tables

theorem tables_perform (style : Style) (w : Workspace) (step : Step) :
    (w.perform style step).2.tables =
      (w.setTable step.table
        (step.task.perform style (w.tables step.table) w.reporter).2).tables := rfl

theorem tables_setTable_self (w : Workspace) (number : Nat) :
    (w.setTable number (w.tables number)).tables = w.tables := by
  funext other
  by_cases same : other = number
  · rw [same]
    exact if_pos rfl
  · exact if_neg same

/-- What a step does to the tables. -/
theorem effect_perform (style : Style) (w : Workspace) (step : Step) :
    w.Effect step (w.perform style step).1 (w.perform style step).2.tables := by
  have gives := gives_perform style w step
  rw [tables_perform]
  cases htask : step.task with
  | define name literal =>
      rw [htask, Task.perform, SymbolTable.defineConstant_eq] at gives
      rw [Task.perform, SymbolTable.defineConstant_eq]
      cases accepted : Double.ofLiteral? literal with
      | none =>
          rw [accepted] at gives
          rw [tables_setTable_self]
          exact .refused htask gives (.inl accepted)
      | some x =>
          cases bound : (w.tables step.table).get? name with
          | none =>
              rw [accepted, bound] at gives
              exact .defined htask gives accepted bound
          | some symbol =>
              rw [accepted, bound] at gives
              rw [tables_setTable_self]
              refine .refused htask gives (.inr ?_)
              rw [bound]
              exact Option.some_ne_none symbol
  | parse source | outline source | run source =>
      rw [Task.perform, tables_setTable_self]
      exact .other fun _ _ h => nomatch htask.symm.trans h

/-! ## Any number of steps -/

/-- The constants as symbols under their names. -/
def constants (added : List (String × Double)) : List (String × Symbol) :=
  added.map fun entry => (entry.1, .constant entry.2)

/-- A table only grows, and by constants. -/
theorem Effect.entries {w : Workspace} {step : Step} {o : Outcome (Option Product)}
    {tables : Nat → SymbolTable} (h : w.Effect step o tables) (number : Nat) :
    ∃ added, (tables number).entries = (w.tables number).entries ++ constants added := by
  cases h with
  | @defined name _ x htask gives accepted unbound =>
      by_cases same : number = step.table
      · subst same
        exact ⟨[(name, x)], congrArg SymbolTable.entries (if_pos rfl)⟩
      · exact ⟨[], by rw [setTable]; simp [same, constants]⟩
  | refused _ _ _ | other _ => exact ⟨[], (List.append_nil _).symm⟩

end Workspace

end Formula
