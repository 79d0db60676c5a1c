import Formula.Session
set_option autoImplicit false

/-!
# Workspaces

A workspace is a reporter with any number of symbol tables.  A session in it works on one
of the tables; sessions on the same table share their symbols, and all sessions share the
reporter.  A step is a task for a session, and may be guarded by the reporter.
-/

namespace Formula

open Text (Style)

/-- What a session can be asked to do. -/
inductive Task where
  /-- Define a constant by a literal. -/
  | define (name literal : String)
  /-- Read a source as an expression. -/
  | parse (source : String)
  /-- Show the outline of a source. -/
  | outline (source : String)
  /-- Run a source. -/
  | run (source : String)
  deriving DecidableEq, Repr, Inhabited

/-- What a task gives. -/
inductive Product where
  | nothing
  | tree (e : Expr)
  | outline (text : String)
  | answer (answer : Answer)
  deriving DecidableEq, Repr

/-- Performs a task against a table, which a definition extends. -/
def Task.perform (style : Style) (table : SymbolTable) (r : Reporter) :
    Task → Outcome Product × SymbolTable
  | .define name literal =>
      match table.defineConstant style name literal with
      | .error failure => ({ reporter := r, result := .error failure }, table)
      | .ok extended => ({ reporter := r, result := .ok .nothing }, extended)
  | .parse source => ({ reporter := r, result := (Expr.ofSource style source).map .tree }, table)
  | .outline source =>
      ({ reporter := r, result := (Session.outline style source).map .outline }, table)
  | .run source =>
      ((Session.run style table r source).andThen fun r answer =>
        { reporter := r, result := .ok (.answer answer) }, table)

/-- The tables by number, and the reporter of all sessions. -/
structure Workspace where
  tables : Nat → SymbolTable := fun _ => {}
  reporter : Reporter

/-- A task for a session on the given table. -/
structure Step where
  table : Nat := 0
  task : Task
  isGuarded : Bool := false
  deriving DecidableEq, Repr, Inhabited

namespace Workspace

/-- The workspace with another table under a number. -/
def setTable (w : Workspace) (number : Nat) (table : SymbolTable) : Workspace :=
  { w with tables := fun other => if other = number then table else w.tables other }

/-- Performs a step.  A guarded step whose failure is settled gives nothing. -/
def perform (style : Style) (w : Workspace) (step : Step) : Outcome (Option Product) × Workspace :=
  let work := step.task.perform style (w.tables step.table) w.reporter
  let outcome :=
    if step.isGuarded then Reporter.guard style work.1
    else work.1.andThen fun r product => { reporter := r, result := .ok (some product) }
  (outcome, { w.setTable step.table work.2 with reporter := outcome.reporter })

/-- Performs the steps one after the other, whether they succeed or fail. -/
def performAll (style : Style) (w : Workspace) :
    List Step → List (Outcome (Option Product)) × Workspace
  | [] => ([], w)
  | step :: rest =>
      let first := w.perform style step
      let others := performAll style first.2 rest
      (first.1 :: others.1, others.2)

/-! ## Which table a step can change -/

end Workspace

end Formula
