import Formula.Proofs.Semantics
set_option autoImplicit false

/-!
# The calculator follows the rules

The calculator keeps one number, which every node of an expression overwrites when it is
completed.  Nothing is lost by that: whatever the number was at the start, a walk ends with the
result that the rules of evaluation give, and behind an error the number is the value of the node
that was completed last.  The only other end of a walk is the limit on levels.

The proof has one lemma for each sequence of steps that a walk can take, about walks that may run
into the limit (`Reaches`).
-/

namespace Formula

namespace Calculation

variable {α β : Type}

/-- Goes on with the result and the number that is shown. -/
def andThen (c : Calculation α) (next : α → Double → Calculation β) : Calculation β :=
  match c with
  | .done result output => next result output
  | .failed error output => .failed error output

/-- Did the walk run into the limit on levels? -/
def TooDeep (c : Calculation α) : Prop := ∃ output, c = .failed .tooDeep output

/-- The walk ends as expected, or runs into the limit, which it does only if `deep`. -/
def Reaches (deep : Prop) (c expected : Calculation α) : Prop := c = expected ∨ deep ∧ c.TooDeep

theorem Reaches.of_eq {deep : Prop} {c expected : Calculation α} (h : c = expected) :
    Reaches deep c expected :=
  Or.inl h

theorem Reaches.mono {deep deeper : Prop} {c expected : Calculation α} (h : Reaches deep c expected)
    (implies : deep → deeper) : Reaches deeper c expected :=
  h.imp_right (And.imp_left implies)

theorem Reaches.andThen {deep : Prop} {c : Calculation α} {x : α} {output : Double}
    {next : α → Double → Calculation β} {expected : Calculation β}
    (first : Reaches deep c (.done x output)) (second : Reaches deep (next x output) expected) :
    Reaches deep (c.andThen next) expected := by
  rcases first with rfl | ⟨hdeep, shown, rfl⟩
  · exact second
  · exact Or.inr ⟨hdeep, shown, rfl⟩

theorem Reaches.andThen_failed {deep : Prop} {c : Calculation α} {error : EvalError}
    {output : Double} (first : Reaches deep c (.failed error output))
    (next : α → Double → Calculation β) : Reaches deep (c.andThen next) (.failed error output) := by
  rcases first with rfl | ⟨hdeep, shown, rfl⟩
  · exact Or.inl rfl
  · exact Or.inr ⟨hdeep, shown, rfl⟩

end Calculation

namespace Calculator

open Calculation Formula.Expr

variable {table : SymbolTable}

/-! ## The walk, one node after the other -/

theorem visit_binary (start : Double) (room : Nat) (lhs rhs : Expr) (op : Token) :
    visit table start (room + 1) (.binary lhs rhs op) =
      (visit table start room lhs).andThen fun _ x =>
        (visit table x room rhs).andThen fun _ y => complete y (applyBinary op x y) := by
  rw [visit]
  cases visit table start room lhs with
  | failed error output => rfl
  | done result x => cases h : visit table x room rhs <;> simp only [Calculation.andThen, h]

theorem visit_unary (start : Double) (room : Nat) (operand : Expr) (op : Token) :
    visit table start (room + 1) (.unary operand op) =
      (visit table start room operand).andThen fun _ x => complete x (applyUnary op x) := by
  rw [visit]
  cases visit table start room operand <;> rfl

theorem visit_call (start : Double) (room : Nat) {name : Name} {arguments : List Expr} {f : Function}
    (h : callee table name.text arguments.length = .ok f) :
    visit table start (room + 1) (.call name arguments) =
      (visitAll table start room arguments).andThen fun xs shown =>
        complete shown (applyFunction f xs) := by
  rw [visit, h]
  dsimp only
  cases visitAll table start room arguments <;> rfl

theorem visitAll_cons (start : Double) (room : Nat) (e : Expr) (rest : List Expr) :
    visitAll table start room (e :: rest) =
      (visit table start room e).andThen fun _ x =>
        (visitAll table x room rest).andThen fun xs shown => .done (x :: xs) shown := by
  rw [visitAll]
  cases visit table start room e with
  | failed error output => rfl
  | done result x => cases h : visitAll table x room rest <;> simp only [Calculation.andThen, h]

/-! ## What a walk is expected to end with -/

/-- The value of the node that was completed last, or the number at the start. -/
def lastShown (start : Double) (shown : List Double) : Double := shown.getLast?.getD start

theorem lastShown_append {start x : Double} {shown : List Double} (h : shown.getLast? = some x)
    (shown' : List Double) : lastShown start (shown ++ shown') = lastShown x shown' := by
  rw [lastShown, lastShown, List.getLast?_append, h]
  cases shown'.getLast? <;> rfl

theorem lastShown_of_getLast {start x : Double} {shown : List Double}
    (h : shown.getLast? = some x) : lastShown start shown = x := by
  rw [lastShown, h]
  rfl

/-- The end of a walk that completed nodes with these values. -/
def walked (start : Double) (shown : List Double) : Except EvalError Double → Calculation Unit
  | .ok x => .done () x
  | .error error => .failed error (lastShown start shown)

/-- The end of a walk over a list. -/
def walkedAll (start : Double) (shown : List Double) :
    Except EvalError (List Double) → Calculation (List Double)
  | .ok xs => .done xs (lastShown start shown)
  | .error error => .failed error (lastShown start shown)

/-- The walk over an expression ends as expected, unless it is too deep. -/
def Walks (table : SymbolTable) (e : Expr) (shown : List Double)
    (result : Except EvalError Double) : Prop :=
  ∀ start room, Reaches (room < e.depth) (visit table start room e) (walked start shown result)

/-- The walk over a list ends as expected, unless the list is too deep. -/
def WalksAll (table : SymbolTable) (es : List Expr) (shown : List Double)
    (result : Except EvalError (List Double)) : Prop :=
  ∀ start room,
    Reaches (room < depthOfAll es) (visitAll table start room es) (walkedAll start shown result)

theorem depth_pos (e : Expr) : 0 < e.depth := by
  cases e <;> rw [depth] <;> omega

/-- A walk without levels ends at once, so only the others need to be looked at. -/
theorem Walks.of_succ {e : Expr} {shown : List Double} {result : Except EvalError Double}
    (h : ∀ start room, Reaches (room + 1 < e.depth) (visit table start (room + 1) e)
      (walked start shown result)) : Walks table e shown result := by
  intro start room
  cases room with
  | zero => exact Or.inr ⟨depth_pos e, start, by rw [visit]⟩
  | succ room => exact h start room

/-! ## Leaves and operations -/

theorem Walks.leaf {e : Expr} {shown : List Double} {result : Except EvalError Double}
    (h : ∀ start room, visit table start (room + 1) e = walked start shown result) :
    Walks table e shown result :=
  .of_succ fun start room => .of_eq (h start room)

section Binary

variable {lhs rhs : Expr} {op : Token} {shown shown' : List Double} {x y : Double}
  {error : EvalError}

theorem Walks.leftError (left : Walks table lhs shown (.error error)) :
    Walks table (.binary lhs rhs op) shown (.error error) := by
  refine .of_succ fun start room => ?_
  rw [visit_binary]
  exact ((left start room).mono (by rw [depth]; omega)).andThen_failed _

theorem Walks.rightError (left : Walks table lhs shown (.ok x))
    (right : Walks table rhs shown' (.error error)) (hlast : shown.getLast? = some x) :
    Walks table (.binary lhs rhs op) (shown ++ shown') (.error error) := by
  refine .of_succ fun start room => ?_
  rw [visit_binary, walked, lastShown_append hlast]
  refine ((left start room).mono (by rw [depth]; omega)).andThen ?_
  exact ((right x room).mono (by rw [depth]; omega)).andThen_failed _

/-- Behind both operands only the operation is left. -/
theorem Walks.operation (left : Walks table lhs shown (.ok x))
    (right : Walks table rhs shown' (.ok y)) {all : List Double} {result : Except EvalError Double}
    (h : ∀ start, complete y (applyBinary op x y) = walked start all result) :
    Walks table (.binary lhs rhs op) all result := by
  refine .of_succ fun start room => ?_
  rw [visit_binary]
  refine ((left start room).mono (by rw [depth]; omega)).andThen ?_
  exact ((right x room).mono (by rw [depth]; omega)).andThen (.of_eq (h start))

end Binary

section Unary

variable {operand : Expr} {op : Token} {shown : List Double} {x : Double}

theorem Walks.operandError {error : EvalError} (inner : Walks table operand shown (.error error)) :
    Walks table (.unary operand op) shown (.error error) := by
  refine .of_succ fun start room => ?_
  rw [visit_unary]
  exact ((inner start room).mono (by rw [depth]; omega)).andThen_failed _

/-- Behind the operand only the operator is left. -/
theorem Walks.sign (inner : Walks table operand shown (.ok x)) {all : List Double}
    {result : Except EvalError Double}
    (h : ∀ start, complete x (applyUnary op x) = walked start all result) :
    Walks table (.unary operand op) all result := by
  refine .of_succ fun start room => ?_
  rw [visit_unary]
  exact ((inner start room).mono (by rw [depth]; omega)).andThen (.of_eq (h start))

end Unary

section Call

variable {name : Name} {arguments : List Expr} {f : Function} {shown xs : List Double}

theorem Walks.argumentError {error : EvalError}
    (hcallee : callee table name.text arguments.length = .ok f)
    (inner : WalksAll table arguments shown (.error error)) :
    Walks table (.call name arguments) shown (.error error) := by
  refine .of_succ fun start room => ?_
  rw [visit_call start room hcallee]
  exact ((inner start room).mono (by rw [depth]; omega)).andThen_failed _

/-- Behind the arguments only the function is left. -/
theorem Walks.application (hcallee : callee table name.text arguments.length = .ok f)
    (inner : WalksAll table arguments shown (.ok xs)) {all : List Double}
    {result : Except EvalError Double}
    (h : ∀ start, complete (lastShown start shown) (applyFunction f xs) = walked start all result) :
    Walks table (.call name arguments) all result := by
  refine .of_succ fun start room => ?_
  rw [visit_call start room hcallee]
  exact ((inner start room).mono (by rw [depth]; omega)).andThen (.of_eq (h start))

end Call

/-! ## Lists -/

section Lists

variable {e : Expr} {rest : List Expr} {shown shown' : List Double} {x : Double}

theorem WalksAll.nil : WalksAll table [] [] (.ok []) := fun start room =>
  .of_eq (by rw [visitAll]; rfl)

theorem WalksAll.firstError {error : EvalError} (first : Walks table e shown (.error error)) :
    WalksAll table (e :: rest) shown (.error error) := by
  intro start room
  rw [visitAll_cons]
  exact ((first start room).mono (by rw [depthOfAll]; omega)).andThen_failed _

theorem WalksAll.othersError {error : EvalError} (first : Walks table e shown (.ok x))
    (others : WalksAll table rest shown' (.error error)) (hlast : shown.getLast? = some x) :
    WalksAll table (e :: rest) (shown ++ shown') (.error error) := by
  intro start room
  rw [visitAll_cons, walkedAll, lastShown_append hlast]
  refine ((first start room).mono (by rw [depthOfAll]; omega)).andThen ?_
  exact ((others x room).mono (by rw [depthOfAll]; omega)).andThen_failed _

theorem WalksAll.cons {xs : List Double} (first : Walks table e shown (.ok x))
    (others : WalksAll table rest shown' (.ok xs)) (hlast : shown.getLast? = some x) :
    WalksAll table (e :: rest) (shown ++ shown') (.ok (x :: xs)) := by
  intro start room
  rw [visitAll_cons, walkedAll, lastShown_append hlast]
  refine ((first start room).mono (by rw [depthOfAll]; omega)).andThen ?_
  exact ((others x room).mono (by rw [depthOfAll]; omega)).andThen (.of_eq rfl)

end Lists

/-! ## All rules -/

mutual

/-- A walk over an expression ends as the rules of evaluation say. -/
theorem walks_of_evaluates : ∀ {e : Expr} {shown : List Double} {result : Except EvalError Double},
    Evaluates table e shown result → Walks table e shown result
  | _, _, _, .number hlexeme hliteral =>
      .leaf fun start room => by simp only [visit, numberValue, hlexeme, hliteral, complete, walked]
  | _, _, _, .noSpelling hlexeme =>
      .leaf fun start room => by simp only [visit, numberValue, hlexeme]; rfl
  | _, _, _, .noLiteral hlexeme hliteral =>
      .leaf fun start room => by simp only [visit, numberValue, hlexeme, hliteral]; rfl
  | _, _, _, .constant hget =>
      .leaf fun start room => by rw [visit, constantValue_of_constant hget]; rfl
  | _, _, _, .noConstant hget =>
      .leaf fun start room => by rw [visit, constantValue_of_none hget]; rfl
  | _, _, _, .leftError left => (walks_of_evaluates left).leftError
  | _, _, _, .rightError left right =>
      (walks_of_evaluates left).rightError (walks_of_evaluates right) left.getLast
  | _, _, _, .binary left right hop =>
      (walks_of_evaluates left).operation (walks_of_evaluates right) fun start => by
        rw [applyBinary_of_operation hop]; rfl
  | _, _, _, .notBinary left right hop =>
      (walks_of_evaluates left).operation (walks_of_evaluates right) fun start => by
        rw [applyBinary_of_none hop, walked, lastShown_append left.getLast,
          lastShown_of_getLast right.getLast]; rfl
  | _, _, _, .operandError inner => (walks_of_evaluates inner).operandError
  | _, _, _, .negation inner hop =>
      (walks_of_evaluates inner).sign fun start => by rw [applyUnary_negation hop]; rfl
  | _, _, _, .factorial inner hop hvalue =>
      (walks_of_evaluates inner).sign fun start => by rw [applyUnary_factorial hop, hvalue]; rfl
  | _, _, _, .noFactorial inner hop hvalue =>
      (walks_of_evaluates inner).sign fun start => by
        rw [applyUnary_factorial hop, hvalue, walked, lastShown_of_getLast inner.getLast]; rfl
  | _, _, _, .notUnary inner hop =>
      (walks_of_evaluates inner).sign fun start => by
        rw [applyUnary_of_not_unary hop, walked, lastShown_of_getLast inner.getLast]; rfl
  | _, _, _, .noFunction hget =>
      .leaf fun start room => by rw [visit, callee_of_none hget]; rfl
  | _, _, _, .argumentCount hget hcount =>
      .leaf fun start room => by rw [visit, callee_of_refuses hget hcount]; rfl
  | _, _, _, .argumentError hget hcount inner =>
      .argumentError (callee_of_not_refuses hget hcount) (walksAll_of_evaluates inner)
  | _, _, _, .call hget hcount inner hvalue | _, _, _, .callFault hget hcount inner hvalue =>
      .application (callee_of_not_refuses hget hcount) (walksAll_of_evaluates inner) fun start => by
        rw [applyFunction, hvalue]; rfl

theorem walksAll_of_evaluates : ∀ {es : List Expr} {shown : List Double}
    {result : Except EvalError (List Double)}, EvaluatesAll table es shown result →
      WalksAll table es shown result
  | _, _, _, .nil => .nil
  | _, _, _, .firstError first => .firstError (walks_of_evaluates first)
  | _, _, _, .othersError first others =>
      .othersError (walks_of_evaluates first) (walksAll_of_evaluates others) first.getLast
  | _, _, _, .cons first others =>
      .cons (walks_of_evaluates first) (walksAll_of_evaluates others) first.getLast

end

/-! ## The calculator -/

/-- **A walk of the calculator is an evaluation.**  The rules of evaluation give every expression
one result, its value, and a name in it is reported as bound if and only if it is.  Whatever
number the calculator shows at the start, and however many levels it may enter, it ends with the
value as the number that it shows; or it fails with the error and shows the value of the node that
was completed last, or what it showed at the start if none was.  Only an expression with more
levels than may be entered can run into the limit instead. -/
theorem walk_evaluates (table : SymbolTable) (e : Expr) :
    (∃ shown, Evaluates table e shown (e.value table)) ∧
      ∀ shown result, Evaluates table e shown result →
        result = e.value table ∧
        (∀ sought name bound, result = .error (.undefined sought name bound) →
          bound = (table.get? name).isSome) ∧
        ∀ (start : Double) (room : Nat),
          (visit table start room e = match result with
            | .ok x => .done () x
            | .error error => .failed error (shown.getLast?.getD start)) ∨
          room < e.depth ∧ ∃ output, visit table start room e = .failed .tooDeep output := by
  refine ⟨?_, fun shown result h => ⟨h.result_eq.symm, fun _ _ _ => h.bound_eq, ?_⟩⟩
  · obtain ⟨shown, result, h⟩ : ∃ shown result, Evaluates table e shown result := exists_evaluates e
    rw [h.result_eq]
    exact ⟨shown, h⟩
  · intro start room
    cases result <;> exact walks_of_evaluates h start room

/-- The built-in symbols, and a function that always fails. -/
def failingTable : SymbolTable :=
  ⟨builtins ++ [("fail", .function { arity := 1, handler := fun _ => .error .divisionByZero })]⟩

/-- The expression `max(2, fail(3), 1)`. -/
def failingCall : Expr :=
  .call ⟨⟨.identifier, some "max", 0⟩, []⟩ [.number ⟨.number, some "2", 4⟩,
    .call ⟨⟨.identifier, some "fail", 7⟩, []⟩ [.number ⟨.number, some "3", 12⟩],
    .number ⟨.number, some "1", 16⟩]

/-- In `max(2, fail(3), 1)` the numbers 2 and 3 are completed before the function fails; the
number 1 is not looked at, and the calculator goes on showing 3. -/
theorem walk_failingCall :
    Evaluates failingTable failingCall [Double.ofNat 2, Double.ofNat 3]
        (.error (.fault .divisionByZero)) ∧
      visit failingTable (Double.zero false) 3 failingCall
        = .failed (.fault .divisionByZero) (Double.ofNat 3) := by
  have two : Double.ofLiteral? "2" = some (Double.ofNat 2) := by decide +kernel
  have three : Double.ofLiteral? "3" = some (Double.ofNat 3) := by decide +kernel
  have evaluates : Evaluates failingTable failingCall [Double.ofNat 2, Double.ofNat 3]
      (.error (.fault .divisionByZero)) := by
    refine .argumentError (f := ⟨2, Handler.fold Handler.greater, true⟩) rfl
      (by simp [Function.Refuses]) (.othersError (.number rfl two) (.firstError ?_))
    exact .callFault rfl (by simp [Function.Refuses]) (.cons (.number rfl three) .nil) rfl
  obtain ⟨_, _, walk⟩ := (walk_evaluates failingTable failingCall).2 _ _ evaluates
  rcases walk (Double.zero false) 3 with h | ⟨short, _⟩
  · exact ⟨evaluates, h⟩
  · exact absurd short (by decide)

end Calculator

end Formula
