import Formula.Proofs.Failures
import Formula.Proofs.Guards
import Formula.Proofs.Histories
import Formula.Proofs.Unwritten
set_option autoImplicit false

/-!
# Which source stays registered

A run registers its source, and forgets it when it has found a value.  A run that fails before
leaves it behind.  It stays until the next run takes its place, or until a guard reports an error, of
whichever step.  A run that fails afterwards, for a text that is too deep, leaves nothing.

The reporter follows a small rule, `Step.leaves`, from step to step (`reporter_perform`).  What is
left after a history is read off that rule, without the workspace.
-/

namespace Formula

open Text (Style)

/-! ## The rule -/

/-- The source that the task runs. -/
def Task.running? : Task → Option String
  | .run source => some source
  | _ => none

/-- Has a run with this outcome forgotten its source?  It has if there is an answer, and if only the
text of one could not be written. -/
def Outcome.forgets {α : Type} (o : Outcome α) : Bool :=
  match o.result with
  | .ok _ | .error .tooDeep => true
  | .error _ => false

theorem Outcome.forgets_of_error {α : Type} {o : Outcome α} {failure : Failure}
    (h : o.result = .error failure) : o.forgets = decide (failure = .tooDeep) := by
  rw [forgets, h]
  cases failure <;> rfl

section Mapped

variable {α β : Type} (o : Outcome α) (f : α → β)

theorem Outcome.forgets_andThen :
    (o.andThen fun r value => { reporter := r, result := .ok (f value) }).forgets = o.forgets := by
  cases hresult : o.result with
  | ok value =>
      rw [andThen_ok hresult, forgets, forgets, hresult]
      rfl
  | error failure => rw [andThen_error hresult, forgets_of_error hresult, forgets_of_error rfl]

theorem Outcome.reporter_andThen :
    (o.andThen fun r value => { reporter := r, result := .ok (f value) }).reporter = o.reporter := by
  cases hresult : o.result with
  | ok value =>
      rw [andThen_ok hresult]
      rfl
  | error failure => rw [andThen_error hresult]

end Mapped

/-- The sources that are registered behind a step with this outcome, by those before it.  A run that
has not forgotten its source leaves it, and a failure that is settled leaves none. -/
def Step.leaves (step : Step) (o : Outcome (Option Product)) (sources : List (String × String)) :
    List (String × String) :=
  match step.task.running? with
  | some source => if step.isGuarded || o.forgets then [] else [(Reporter.mainSource, source)]
  | none => if o.gives || !step.isGuarded then sources else []

/-! ## Failures of steps -/

/-- The functions of the table have no faults with braces, which could not be reported; functions
that give a number for any arguments have none at all. -/
def SymbolTable.Harmless (table : SymbolTable) : Prop :=
  ∀ fault, EvalError.IsOfFunction table (.fault fault) → (Failure.fault fault).Harmless

theorem SymbolTable.Total.harmless {table : SymbolTable} (total : table.Total) : table.Harmless :=
  fun fault h => absurd h (EvalError.not_isOfFunction total (.fault fault))

/-- The failure is foreseen, or a fault of a function that can be reported. -/
def Failure.Reported (style : Style) (failure : Failure) : Prop :=
  failure.Foreseen style ∨ ∃ fault, failure = .fault fault ∧ failure.Harmless

namespace Reporter

variable {style : Style} {r : Reporter}

/-- The reporter has no source but that of a run. -/
def OnlyMain (r : Reporter) : Prop :=
  r.sources = [] ∨ ∃ source, r.sources = [(mainSource, source)]

theorem register_onlyMain (h : r.OnlyMain) (source : String) :
    r.register mainSource source = { r with sources := [(mainSource, source)] } := by
  rcases h with hnone | ⟨other, hother⟩
  · rw [register, hnone, setSource]
  · rw [register, hother, setSource, if_pos rfl]

theorem remove_register_onlyMain (h : r.OnlyMain) (source : String) :
    (r.register mainSource source).remove mainSource = { r with sources := [] } := by
  rw [register_onlyMain h, remove]
  simp

/-- When a guard settles a failure, the reporter forgets its sources. -/
theorem reporter_guard {α : Type} {work : Outcome α} {failure : Failure}
    (failed : work.result = .error failure) (h : failure.Reported style) :
    (guard style work).reporter = work.reporter.afterError := by
  rcases h with foreseen | ⟨fault, rfl, harmless⟩
  · obtain ⟨p, reportable, _, hsettle⟩ := foreseen.problem
    rw [guard, failed]
    dsimp only
    rw [hsettle, thrown_andThen _ reportable.diagnosable]
  · rw [guard_writable failed (harmless.writable style), promised_eq rfl]

end Reporter

/-- A literal that is a number can only be refused for its name. -/
theorem SymbolTable.foreseen_defineConstant {style : Style} {table : SymbolTable}
    {name literal : String} (accepted : (Double.ofLiteral? literal).isSome) {failure : Failure}
    (h : table.defineConstant style name literal = .error failure) : failure.Foreseen style := by
  obtain ⟨x, hx⟩ := Option.isSome_iff_exists.1 accepted
  rw [defineConstant_eq, hx] at h
  cases hget : table.get? name with
  | some symbol =>
      rw [hget] at h
      cases h
      exact .redeclared name
  | none =>
      rw [hget] at h
      cases h

namespace Task

variable {style : Style} {table : SymbolTable} {r : Reporter}

/-- The literals of definitions are numbers. -/
def Accepted (task : Task) : Prop :=
  ∀ name literal, task = .define name literal → (Double.ofLiteral? literal).isSome

theorem perform_run_of_failure {source : String} {failure : Failure}
    (h : Session.evaluate style table source = .error failure) :
    ((Task.run source).perform style table r).1 =
      { reporter := r.register Reporter.mainSource source, result := .error failure } := by
  rw [perform, Session.run_of_failure h]
  rfl

/-- A task that fails is refused in a foreseen way, or for a fault of a function. -/
theorem reported_perform (harmless : table.Harmless) {task : Task} (accepted : task.Accepted)
    {failure : Failure} (failed : (task.perform style table r).1.result = .error failure) :
    failure.Reported style := by
  cases task with
  | define name literal =>
      rw [perform] at failed
      cases hdefine : table.defineConstant style name literal with
      | ok extended =>
          rw [hdefine] at failed
          cases failed
      | error other =>
          rw [hdefine] at failed
          cases failed
          exact .inl (SymbolTable.foreseen_defineConstant (accepted _ _ rfl) hdefine)
  | parse source =>
      rw [perform] at failed
      cases hread : Expr.ofSource style source with
      | ok e =>
          rw [hread] at failed
          cases failed
      | error other =>
          rw [hread] at failed
          cases failed
          exact .inl (Expr.foreseen_ofSource hread)
  | outline source =>
      rw [perform] at failed
      cases houtline : Session.outline style source with
      | ok text =>
          rw [houtline] at failed
          cases failed
      | error other =>
          rw [houtline] at failed
          cases failed
          exact .inl (Session.foreseen_outline houtline)
  | run source =>
      cases hevaluate : Session.evaluate style table source with
      | ok found =>
          obtain ⟨hread, hvalue⟩ := Session.evaluate_eq_ok hevaluate
          rw [perform, Session.run_of_value hread hvalue] at failed
          cases hanswer : Session.answer found.1 found.2 with
          | ok answer =>
              rw [hanswer, Outcome.andThen_ok rfl] at failed
              cases failed
          | error other =>
              rw [hanswer, Outcome.andThen_error rfl] at failed
              cases failed
              rw [Session.answer_error hanswer]
              exact .inl .tooDeep
      | error other =>
          rw [perform_run_of_failure hevaluate] at failed
          cases failed
          refine (Session.evaluate_error hevaluate).imp_right ?_
          rintro ⟨fault, rfl, hfunction⟩
          exact ⟨fault, rfl, harmless fault hfunction⟩

/-- What a task makes of the reporter. -/
theorem reporter_perform (style : Style) (table : SymbolTable) (h : r.OnlyMain) (task : Task) :
    (task.perform style table r).1.reporter = { r with
      sources := match task.running? with
        | some source =>
            if (task.perform style table r).1.forgets then [] else [(Reporter.mainSource, source)]
        | none => r.sources } := by
  cases task with
  | define name literal =>
      rw [perform]
      cases table.defineConstant style name literal <;> rfl
  | parse source | outline source => rfl
  | run source =>
      rw [perform, Outcome.forgets_andThen]
      cases hevaluate : Session.evaluate style table source with
      | error failure =>
          have hne : failure ≠ .tooDeep := fun heq => Session.evaluate_ne_tooDeep (heq ▸ hevaluate)
          rw [Session.run_of_failure hevaluate, Outcome.andThen_error rfl,
            Outcome.forgets_of_error rfl, decide_eq_false hne]
          exact Reporter.register_onlyMain h source
      | ok found =>
          obtain ⟨hread, hvalue⟩ := Session.evaluate_eq_ok hevaluate
          rw [Session.run_of_value hread hvalue]
          cases hanswer : Session.answer found.1 found.2 with
          | ok answer =>
              rw [Outcome.andThen_ok rfl]
              exact Reporter.remove_register_onlyMain h source
          | error failure =>
              rw [Session.answer_error hanswer, Outcome.andThen_error rfl]
              exact Reporter.remove_register_onlyMain h source

end Task

/-! ## One step -/

namespace Workspace

variable {style : Style} {w : Workspace} {step : Step}

/-- The workspace can go on after errors, nothing but the source of a run is registered, and no
function has a fault that cannot be reported. -/
structure Tidy (w : Workspace) : Prop where
  lenient : w.reporter.isFatal = false
  onlyMain : w.reporter.OnlyMain
  harmless : ∀ number, (w.tables number).Harmless

/-- The reporter follows the rule. -/
theorem reporter_perform (style : Style) (tidy : w.Tidy) (accepted : step.task.Accepted) :
    (w.perform style step).2.reporter = { w.reporter with
      sources := step.leaves (w.perform style step).1 w.reporter.sources } := by
  have gives := gives_perform style w step
  have hreporter := Task.reporter_perform style (w.tables step.table) tidy.onlyMain step.task
  have hreported : ∀ failure, (step.task.perform style (w.tables step.table) w.reporter).1.result =
      .error failure → failure.Reported style :=
    fun failure => Task.reported_perform (tidy.harmless step.table) accepted
  have hafter : (w.perform style step).2.reporter = (w.perform style step).1.reporter := rfl
  have houtcome : (w.perform style step).1 =
      if step.isGuarded then
        Reporter.guard style (step.task.perform style (w.tables step.table) w.reporter).1
      else (step.task.perform style (w.tables step.table) w.reporter).1.andThen
        fun r product => { reporter := r, result := .ok (some product) } := rfl
  rw [hafter, Step.leaves]
  generalize (w.perform style step).1 = o at *
  generalize (step.task.perform style (w.tables step.table) w.reporter).1 = work at *
  cases hguarded : step.isGuarded with
  | false =>
      -- what the task gives is handed on, and its failure as well
      rw [hguarded, if_neg Bool.false_ne_true] at houtcome
      have hkept : o.reporter = work.reporter := by rw [houtcome, Outcome.reporter_andThen]
      have hforgets : o.forgets = work.forgets := by rw [houtcome, Outcome.forgets_andThen]
      rw [hkept, hreporter, hforgets]
      cases step.task.running? <;> simp
  | true =>
      rw [hguarded, if_pos rfl] at houtcome
      cases hresult : work.result with
      | ok product =>
          have hforgets : work.forgets = true := by rw [Outcome.forgets, hresult]
          have hkept : o.reporter = work.reporter := by rw [houtcome, Reporter.guard, hresult]
          rw [hresult] at gives
          rw [hkept, hreporter, hforgets, gives]
          cases step.task.running? <;> rfl
      | error failure =>
          rw [hresult] at gives
          rw [houtcome, Reporter.reporter_guard hresult (hreported failure hresult),
            Reporter.afterError, hreporter, if_neg (by rw [tidy.lenient]; exact Bool.false_ne_true),
            ← houtcome, gives]
          cases step.task.running? <;> rfl

/-- Functions of a table that has grown by constants are those that were there. -/
theorem harmless_constants {table : SymbolTable} (h : table.Harmless)
    (added : List (String × Double)) :
    (⟨table.entries ++ constants added⟩ : SymbolTable).Harmless := by
  rintro fault ⟨name, f, args, fault', hget, htakes, hfault, heq⟩
  refine h fault ⟨name, f, args, fault', ?_, htakes, hfault, heq⟩
  obtain ⟨entry, hfind, hsymbol⟩ := Option.map_eq_some_iff.1 hget
  rw [List.find?_append, Option.or_eq_some_iff] at hfind
  rcases hfind with hold | ⟨_, hnew⟩
  · rw [SymbolTable.get?, hold, ← hsymbol]
    rfl
  · obtain ⟨constant, _, rfl⟩ := List.mem_map.1 (List.mem_of_find?_eq_some hnew)
    cases hsymbol

theorem Tidy.perform (tidy : w.Tidy) (accepted : step.task.Accepted) :
    (w.perform style step).2.Tidy := by
  have hreporter := reporter_perform style tidy accepted
  refine ⟨by rw [hreporter]; exact tidy.lenient, ?_, fun number => ?_⟩
  · rw [hreporter]
    unfold Reporter.OnlyMain Step.leaves
    dsimp only
    have before := tidy.onlyMain
    split
    · split
      · exact .inl rfl
      · exact .inr ⟨_, rfl⟩
    · split
      · exact before
      · exact .inl rfl
  · obtain ⟨added, hadded⟩ := (effect_perform style w step).entries number
    have grown := harmless_constants (tidy.harmless number) added
    rw [← hadded] at grown
    exact grown

/-! ## Histories -/

/-- Steps, with what became of them. -/
abbrev History : Type := List (Step × Outcome (Option Product))

/-- The sources that are registered behind a history, by those before it. -/
def leavesAll (history : History) (sources : List (String × String)) : List (String × String) :=
  history.foldl (fun sources event => event.1.leaves event.2 sources) sources

/-- The step was no run, and no failure that a guard settled. -/
def Calm (event : Step × Outcome (Option Product)) : Prop :=
  event.1.task.running? = none ∧ (event.1.isGuarded = true → event.2.gives = true)

/-- The latest run of the history was one of the given source, it failed in the given way without a
guard, and no later step failed under one. -/
def Unsettled (source : String) (failure : Failure) (history : History) : Prop :=
  ∃ before step o later, history = before ++ (step, o) :: later ∧
    step.task = .run source ∧ step.isGuarded = false ∧ o.result = .error failure ∧
    ∀ event ∈ later, Calm event

theorem leaves_calm {event : Step × Outcome (Option Product)} (h : Calm event)
    (sources : List (String × String)) : event.1.leaves event.2 sources = sources := by
  obtain ⟨hrunning, hgives⟩ := h
  rw [Step.leaves, hrunning]
  cases hguarded : event.1.isGuarded with
  | false => simp
  | true => simp [hgives hguarded]

/-- What is left by a run that failed without a guard. -/
theorem leaves_failed {step : Step} {o : Outcome (Option Product)} {source : String}
    {failure : Failure} (htask : step.task = .run source) (hguarded : step.isGuarded = false)
    (hresult : o.result = .error failure) (sources : List (String × String)) :
    step.leaves o sources = if failure = .tooDeep then [] else [(Reporter.mainSource, source)] := by
  rw [Step.leaves, htask, hguarded, Outcome.forgets_of_error hresult, Bool.false_or]
  simp [Task.running?]

theorem leavesAll_calm {history : History} (h : ∀ event ∈ history, Calm event)
    (sources : List (String × String)) : leavesAll history sources = sources := by
  induction history with
  | nil => rfl
  | cons event rest ih =>
      obtain ⟨hevent, hrest⟩ := List.forall_mem_cons.1 h
      rw [leavesAll, List.foldl_cons, leaves_calm hevent]
      exact ih hrest

/-- An unsettled run has left its source, or nothing if only its text was too deep. -/
theorem Unsettled.leavesAll {source : String} {failure : Failure} {history : History}
    (h : Unsettled source failure history) (sources : List (String × String)) :
    leavesAll history sources =
      if failure = .tooDeep then [] else [(Reporter.mainSource, source)] := by
  obtain ⟨before, step, o, later, rfl, htask, hguarded, hresult, calm⟩ := h
  rw [Workspace.leavesAll, List.foldl_append, List.foldl_cons,
    leaves_failed htask hguarded hresult]
  exact leavesAll_calm calm _

end Workspace

end Formula
