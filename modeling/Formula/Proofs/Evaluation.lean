import Formula.Calculator
import Formula.Proofs.Arithmetic
import Formula.Proofs.Trees
set_option autoImplicit false

/-!
# What can go wrong in an evaluation

The functions of a table that starts with the built-in ones and gains only constants have a
value for every number of arguments that they take.  Against such a table an expression that was
read from a text has a value, or one of the errors that a user can make: a name that is not bound
to what is needed, a wrong number of arguments, a factorial that does not exist, or too many
levels.
-/

namespace Formula

/-- The function has a value for any arguments of a number that it takes. -/
def Function.Total (f : Function) : Prop :=
  ∀ args : List Double, Expr.takes f args.length = true → ∃ x, f.handler args = .ok x

/-- All functions of the table are total. -/
def SymbolTable.Total (table : SymbolTable) : Prop :=
  ∀ name f, table.get? name = some (.function f) → f.Total

namespace Handler

theorem first_total {f : Double → Except Fault Double} (hf : ∀ x, ∃ y, f x = .ok y) :
    Function.Total { arity := 1, handler := first f } := by
  intro args h
  have length : args.length = 1 := by
    have : (args.length : Int) = 1 := by simpa [Expr.takes] using h
    omega
  obtain ⟨x, rfl⟩ := List.length_eq_one_iff.1 length
  exact hf x

theorem firstTwo_total {f : Double → Double → Except Fault Double}
    (hf : ∀ x y, ∃ z, f x y = .ok z) :
    Function.Total { arity := 2, handler := firstTwo f } := by
  intro args h
  have length : args.length = 2 := by
    have : (args.length : Int) = 2 := by simpa [Expr.takes] using h
    omega
  cases args with
  | nil => cases length
  | cons x rest =>
      obtain ⟨y, rfl⟩ := List.length_eq_one_iff.1 (Nat.succ.inj length)
      exact hf x y

theorem fold_total (f : Double → Double → Double) :
    Function.Total { arity := 2, handler := fold f, variadic := true } := by
  intro args h
  have length : 2 ≤ args.length := by
    have : (2 : Int) ≤ args.length := by simpa [Expr.takes] using h
    omega
  cases args with
  | nil => exact absurd length (by decide)
  | cons x rest => exact ⟨rest.foldl f x, rfl⟩

end Handler

namespace SymbolTable

/-- The built-in functions are total. -/
theorem total_builtins : Total {} := by
  have total : ∀ entry ∈ builtins, ∀ f, entry.2 = .function f → f.Total := by
    intro entry hentry f hf
    simp only [builtins, List.mem_cons, List.not_mem_nil, or_false] at hentry
    rcases hentry with rfl | rfl | rfl | rfl | rfl | rfl | rfl | rfl
    · cases hf
    all_goals cases hf
    · exact Handler.first_total fun x => ⟨_, Arithmetic.roundHalfAway_eq x⟩
    · exact Handler.first_total fun x => ⟨_, Arithmetic.ceil_eq x⟩
    · exact Handler.first_total fun x => ⟨_, Arithmetic.floor_eq x⟩
    · exact Handler.first_total fun x => ⟨_, Arithmetic.sqrt_eq x⟩
    · exact Handler.firstTwo_total fun x y => ⟨_, Arithmetic.power_eq x y⟩
    · exact Handler.fold_total _
    · exact Handler.fold_total _
  intro name f h
  obtain ⟨entry, hentry, hsymbol⟩ := Option.map_eq_some_iff.1 h
  exact total entry (List.mem_of_find?_eq_some hentry) f hsymbol

theorem lookup_eq_ok_iff {table : SymbolTable} {name : String} {symbol : Symbol} :
    table.lookup name = .ok symbol ↔ table.get? name = some symbol := by
  unfold lookup
  cases table.get? name <;> simp

/-- A constant more leaves them so. -/
theorem Total.define_constant {table extended : SymbolTable} (h : table.Total) {name : String}
    {x : Double} (hdefine : table.define name (.constant x) = .ok extended) : extended.Total := by
  intro other f hf
  by_cases same : other = name
  · rw [same, get?_define_self hdefine] at hf
    cases hf
  · rw [get?_define_of_ne hdefine same] at hf
    exact h other f hf

end SymbolTable

/-! ## Errors that a user can make -/

/-- The error is due to the expression and not to the program. -/
def EvalError.IsOfExpression : EvalError → Prop
  | .undefined _ _ _ => True
  | .argumentCount _ _ _ _ => True
  | .factorial _ => True
  | .tooDeep => True
  | .notBinary _ => False
  | .notUnary _ => False
  | .fault _ => False

/-- The error is a fault of a function of the table, with arguments of a number that it takes. -/
def EvalError.IsOfFunction (table : SymbolTable) (error : EvalError) : Prop :=
  ∃ name f args fault, table.get? name = some (.function f) ∧
    Expr.takes f args.length = true ∧ f.handler args = .error fault ∧ error = .fault fault

/-- Total functions have no faults. -/
theorem EvalError.not_isOfFunction {table : SymbolTable} (total : table.Total) (error : EvalError) :
    ¬ error.IsOfFunction table := by
  rintro ⟨name, f, args, fault, hget, htakes, hfault, _⟩
  obtain ⟨x, hx⟩ := total name f hget args htakes
  rw [hx] at hfault
  cases hfault

namespace Expr

variable {P : Token → Prop} {table : SymbolTable}

theorem numberValue_ok {t : Token} {spelling : String} (hlexeme : t.lexeme = some spelling)
    (hliteral : (Double.ofLiteral? spelling).isSome) : ∃ x, numberValue t = .ok x := by
  obtain ⟨x, hx⟩ := Option.isSome_iff_exists.1 hliteral
  refine ⟨x, ?_⟩
  simp only [numberValue, hlexeme, hx]

theorem constantValue_error {name : String} {error : EvalError}
    (h : constantValue table name = .error error) : error.IsOfExpression := by
  unfold constantValue at h
  split at h <;> cases h <;> trivial

theorem callee_error {name : String} {given : Nat} {error : EvalError}
    (h : callee table name given = .error error) : error.IsOfExpression := by
  unfold callee functionOf at h
  split at h
  · rename_i hf
    cases h
    split at hf <;> cases hf <;> trivial
  · split at h
    · cases h
    · cases h
      trivial

theorem callee_ok {name : String} {given : Nat} {f : Function}
    (h : callee table name given = .ok f) :
    table.get? name = some (.function f) ∧ takes f given = true := by
  unfold callee functionOf at h
  split at h
  · cases h
  · rename_i g hg
    split at h
    · rename_i htakes
      cases h
      refine ⟨?_, htakes⟩
      split at hg
      · cases hg
      · cases hg
      · rename_i hlookup
        cases hg
        exact SymbolTable.lookup_eq_ok_iff.1 hlookup
    · cases h

theorem applyBinary_ok {op : Token} (h : op.kind.isBinary = true) (x y : Double) :
    ∃ z, applyBinary op x y = .ok z := by
  unfold applyBinary
  rcases Kind.binary_cases h with hop | hop | hop | hop | hop <;> rw [hop]
  case inl | inr.inl | inr.inr.inl => exact ⟨_, rfl⟩
  case inr.inr.inr.inl => exact ⟨_, by rw [Arithmetic.divide_eq]; rfl⟩
  case inr.inr.inr.inr => exact ⟨_, by rw [Arithmetic.power_eq]; rfl⟩

theorem applyUnary_error {op : Token} (h : op.kind.isUnary = true) {x : Double} {error : EvalError}
    (herror : applyUnary op x = .error error) : error.IsOfExpression := by
  unfold applyUnary at herror
  rcases Kind.unary_cases h with hop | hop <;> rw [hop] at herror
  · cases herror
  · dsimp only at herror
    split at herror
    · cases herror
      trivial
    · rename_i hnone
      obtain ⟨y, hy, _⟩ := Arithmetic.factorial_eq hnone
      rw [hy] at herror
      cases herror

end Expr

namespace Calculator

variable {P : Token → Prop} {table : SymbolTable}

theorem complete_failed {shown output : Double} {result : Except EvalError Double}
    {error : EvalError} (h : complete shown result = .failed error output) :
    result = .error error := by
  unfold complete at h
  split at h
  · cases h
  · cases h
    rfl

theorem length_visitAll {shown : Double} {room : Nat} {es : List Expr} {args : List Double}
    {output : Double} (h : visitAll table shown room es = .done args output) :
    args.length = es.length := by
  induction es generalizing shown args output with
  | nil =>
      rw [visitAll] at h
      cases h
      rfl
  | cons e rest ih =>
      rw [visitAll] at h
      split at h
      · cases h
      · split at h
        · cases h
        · rename_i hrest
          cases h
          rw [List.length_cons, List.length_cons, ih hrest]

mutual

/-- A walk over a well made expression fails only with an error of that expression or of a
function. -/
theorem visit_failed : ∀ (room : Nat) (e : Expr) {shown output : Double} {error : EvalError},
    e.WellMade P → visit table shown room e = .failed error output →
      error.IsOfExpression ∨ error.IsOfFunction table
  | 0, e, _, _, _, _, hvisit => by
      rw [visit] at hvisit
      cases hvisit
      exact .inl trivial
  | room + 1, .number t, _, _, _, h, hvisit => by
      obtain ⟨_, spelling, hlexeme, hliteral⟩ := h
      obtain ⟨x, hx⟩ := Expr.numberValue_ok hlexeme hliteral
      rw [visit, hx] at hvisit
      cases hvisit
  | room + 1, .identifier name, _, _, _, _, hvisit => by
      rw [visit] at hvisit
      exact .inl (Expr.constantValue_error (complete_failed hvisit))
  | room + 1, .binary lhs rhs op, _, _, _, h, hvisit => by
      obtain ⟨hlhs, hrhs, hbinary, _⟩ := h
      rw [visit] at hvisit
      split at hvisit
      · rename_i hleft
        cases hvisit
        exact visit_failed room lhs hlhs hleft
      · rename_i x _
        split at hvisit
        · rename_i hright
          cases hvisit
          exact visit_failed room rhs hrhs hright
        · rename_i y _
          obtain ⟨z, hz⟩ := Expr.applyBinary_ok hbinary x y
          rw [hz] at hvisit
          cases hvisit
  | room + 1, .unary operand op, _, _, _, h, hvisit => by
      obtain ⟨hoperand, hunary, _⟩ := h
      rw [visit] at hvisit
      split at hvisit
      · rename_i hinner
        cases hvisit
        exact visit_failed room operand hoperand hinner
      · exact .inl (Expr.applyUnary_error hunary (complete_failed hvisit))
  | room + 1, .call name arguments, _, _, _, h, hvisit => by
      obtain ⟨_, harguments⟩ := h
      rw [visit] at hvisit
      split at hvisit
      · rename_i hcallee
        cases hvisit
        exact .inl (Expr.callee_error hcallee)
      · rename_i f hcallee
        obtain ⟨hget, htakes⟩ := Expr.callee_ok hcallee
        split at hvisit
        · rename_i hargs
          cases hvisit
          exact visitAll_failed room arguments harguments hargs
        · rename_i args _ hargs
          rw [← length_visitAll hargs] at htakes
          have hresult := complete_failed hvisit
          rw [Expr.applyFunction] at hresult
          cases hhandler : f.handler args with
          | ok x =>
              rw [hhandler, Expr.ofArithmetic] at hresult
              cases hresult
          | error fault =>
              rw [hhandler, Expr.ofArithmetic] at hresult
              cases hresult
              exact .inr ⟨_, f, args, fault, hget, htakes, hhandler, rfl⟩

theorem visitAll_failed : ∀ (room : Nat) (es : List Expr) {shown output : Double}
    {error : EvalError}, Expr.AllWellMade P es →
      visitAll table shown room es = .failed error output →
      error.IsOfExpression ∨ error.IsOfFunction table
  | _, [], _, _, _, _, hvisit => by
      rw [visitAll] at hvisit
      cases hvisit
  | room, e :: rest, _, _, _, h, hvisit => by
      rw [visitAll] at hvisit
      split at hvisit
      · rename_i hfirst
        cases hvisit
        exact visit_failed room e h.1 hfirst
      · split at hvisit
        · rename_i hrest
          cases hvisit
          exact visitAll_failed room rest h.2 hrest
        · cases hvisit

end

mutual

/-- A walk that is done entered all levels of the expression. -/
theorem depth_le_of_visit : ∀ (room : Nat) (e : Expr) {shown output : Double},
    visit table shown room e = .done () output → e.depth ≤ room
  | 0, e, _, _, hvisit => by
      rw [visit] at hvisit
      cases hvisit
  | room + 1, .number _, _, _, _ => by rw [Expr.depth]; omega
  | room + 1, .identifier _, _, _, _ => by rw [Expr.depth]; omega
  | room + 1, .binary lhs rhs op, _, _, hvisit => by
      rw [visit] at hvisit
      split at hvisit
      · cases hvisit
      · rename_i hleft
        split at hvisit
        · cases hvisit
        · rename_i hright
          have := depth_le_of_visit room lhs hleft
          have := depth_le_of_visit room rhs hright
          rw [Expr.depth]
          omega
  | room + 1, .unary operand op, _, _, hvisit => by
      rw [visit] at hvisit
      split at hvisit
      · cases hvisit
      · rename_i hinner
        have := depth_le_of_visit room operand hinner
        rw [Expr.depth]
        omega
  | room + 1, .call name arguments, _, _, hvisit => by
      rw [visit] at hvisit
      split at hvisit
      · cases hvisit
      · split at hvisit
        · cases hvisit
        · rename_i hargs
          have := depthOfAll_le_of_visitAll room arguments hargs
          rw [Expr.depth]
          omega

theorem depthOfAll_le_of_visitAll : ∀ (room : Nat) (es : List Expr) {shown output : Double}
    {args : List Double}, visitAll table shown room es = .done args output →
      Expr.depthOfAll es ≤ room
  | _, [], _, _, _, _ => by rw [Expr.depthOfAll]; omega
  | room, e :: rest, _, _, _, hvisit => by
      rw [visitAll] at hvisit
      split at hvisit
      · cases hvisit
      · rename_i hfirst
        split at hvisit
        · cases hvisit
        · rename_i hrest
          have := depth_le_of_visit room e hfirst
          have := depthOfAll_le_of_visitAll room rest hrest
          rw [Expr.depthOfAll]
          omega

end

end Calculator

namespace Expr

variable {P : Token → Prop} {table : SymbolTable} {e : Expr}

/-- A well made expression has a value, or an error of its own or of a function. -/
theorem evaluate_error (h : e.WellMade P) {error : EvalError}
    (herror : e.evaluate table = .error error) :
    error.IsOfExpression ∨ error.IsOfFunction table := by
  unfold evaluate Calculator.accept at herror
  split at herror
  · cases herror
  · rename_i hvisit
    cases herror
    exact Calculator.visit_failed _ e h hvisit

end Expr

end Formula
