import Formula.Expr.Printer
set_option autoImplicit false

/-!
# The printer writes the canonical text

A printer that may enter enough levels appends the canonical text of an expression; one that may
not stops.  So the text that `Expr.render?` gives, if it gives one, is the canonical text.
-/

namespace Formula

theorem Expr.renderAll_cons (e e' : Expr) (es : List Expr) :
    renderAll (e :: e' :: es) = e.render ++ ", " ++ renderAll (e' :: es) := by
  rw [renderAll]
  exact List.cons_ne_nil e' es

namespace Printer

theorem visitAll_cons (p : Printer) (room : Nat) (e e' : Expr) (es : List Expr) :
    p.visitAll room (e :: e' :: es) = ((p.visit room e).write ", ").visitAll room (e' :: es) := by
  rw [visitAll]
  exact List.cons_ne_nil e' es

@[simp] theorem write_stopped (text : String) (p : Printer) : (p.write text).stopped = p.stopped := by
  unfold write
  split <;> simp_all

theorem write_write (s u : String) (p : Printer) : (p.write s).write u = p.write (s ++ u) := by
  unfold write
  by_cases h : p.stopped = true
  · simp [h]
  · simp [h, String.append_assoc]

mutual

/-- A printer that has stopped does not start again. -/
theorem visit_stays_stopped {p : Printer} (h : p.stopped = true) :
    ∀ (room : Nat) (e : Expr), (p.visit room e).stopped = true
  | 0, _ => by rw [visit]; rfl
  | room + 1, .number t => by rw [visit, write_stopped, h]
  | room + 1, .identifier name => by rw [visit, write_stopped, h]
  | room + 1, .binary lhs rhs op => by
      rw [visit]
      refine visit_stays_stopped ?_ room rhs
      rw [write_stopped]
      exact visit_stays_stopped h room lhs
  | room + 1, .unary operand op => by
      rw [visit]
      split
      · exact visit_stays_stopped (by rw [write_stopped, h]) room operand
      · rw [write_stopped]
        exact visit_stays_stopped h room operand
  | room + 1, .call name arguments => by
      rw [visit, write_stopped]
      exact visitAll_stays_stopped (by rw [write_stopped, h]) room arguments

theorem visitAll_stays_stopped {p : Printer} (h : p.stopped = true) :
    ∀ (room : Nat) (es : List Expr), (p.visitAll room es).stopped = true
  | _, [] => by rw [visitAll, h]
  | room, [e] => by rw [visitAll]; exact visit_stays_stopped h room e
  | room, e :: e' :: es => by
      rw [visitAll_cons]
      refine visitAll_stays_stopped ?_ room (e' :: es)
      rw [write_stopped]
      exact visit_stays_stopped h room e

end

mutual

/-- With room enough the printer appends the canonical text. -/
theorem visit_eq_write (p : Printer) : ∀ (room : Nat) (e : Expr), e.depth ≤ room →
    p.visit room e = p.write e.render
  | 0, e, h => by cases e <;> simp [Expr.depth] at h
  | room + 1, .number t, _ => by rw [visit, Expr.render]
  | room + 1, .identifier name, _ => by rw [visit, Expr.render]
  | room + 1, .binary lhs rhs op, h => by
      rw [Expr.depth] at h
      rw [visit, visit_eq_write p room lhs (by omega), visit_eq_write _ room rhs (by omega),
        write_write, write_write, Expr.render]
      simp only [String.append_assoc]
  | room + 1, .unary operand op, h => by
      rw [Expr.depth] at h
      rw [visit, Expr.render]
      split
      · rw [visit_eq_write _ room operand (by omega), write_write]
      · rw [visit_eq_write _ room operand (by omega), write_write]
  | room + 1, .call name arguments, h => by
      rw [Expr.depth] at h
      rw [visit, visitAll_eq_write _ room arguments (by omega), write_write, write_write,
        Expr.render]
      simp only [String.append_assoc]

theorem visitAll_eq_write (p : Printer) : ∀ (room : Nat) (es : List Expr),
    Expr.depthOfAll es ≤ room → p.visitAll room es = p.write (Expr.renderAll es)
  | _, [], _ => by
      rw [visitAll, Expr.renderAll, write]
      split
      · rfl
      · rw [String.append_empty]
  | room, [e], h => by
      rw [Expr.depthOfAll] at h
      rw [visitAll, Expr.renderAll]
      exact visit_eq_write p room e (by omega)
  | room, e :: e' :: es, h => by
      rw [Expr.depthOfAll] at h
      rw [visitAll_cons, visit_eq_write p room e (by omega),
        visitAll_eq_write _ room (e' :: es) (by omega), write_write, write_write,
        Expr.renderAll_cons, String.append_assoc]

end

/-- The printer with an earlier output in front of its own. -/
def behind (text : String) (p : Printer) : Printer := { p with output := text ++ p.output }

theorem write_behind (text earlier : String) (p : Printer) :
    (p.behind earlier).write text = (p.write text).behind earlier := by
  unfold write behind
  by_cases h : p.stopped = true
  · simp [h]
  · simp [h, String.append_assoc]

mutual

/-- What the printer writes does not depend on what it wrote before. -/
theorem visit_behind (earlier : String) : ∀ (p : Printer) (room : Nat) (e : Expr),
    (p.behind earlier).visit room e = (p.visit room e).behind earlier
  | p, 0, _ => by rw [visit, visit]; rfl
  | p, room + 1, .number t => by rw [visit, visit, write_behind]
  | p, room + 1, .identifier name => by rw [visit, visit, write_behind]
  | p, room + 1, .binary lhs rhs op => by
      rw [visit, visit, visit_behind earlier p room lhs, write_behind,
        visit_behind earlier _ room rhs]
  | p, room + 1, .unary operand op => by
      rw [visit, visit]
      split
      · rw [write_behind, visit_behind earlier _ room operand]
      · rw [visit_behind earlier p room operand, write_behind]
  | p, room + 1, .call name arguments => by
      rw [visit, visit, write_behind, visitAll_behind earlier _ room arguments, write_behind]

theorem visitAll_behind (earlier : String) : ∀ (p : Printer) (room : Nat) (es : List Expr),
    (p.behind earlier).visitAll room es = (p.visitAll room es).behind earlier
  | p, _, [] => by rw [visitAll, visitAll]
  | p, room, [e] => by rw [visitAll, visitAll, visit_behind earlier p room e]
  | p, room, e :: e' :: es => by
      rw [visitAll_cons, visitAll_cons, visit_behind earlier p room e, write_behind,
        visitAll_behind earlier _ room (e' :: es)]

end

/-- A printer adds to its output what a new one writes, and stops where that one stops. -/
theorem accept_eq (p : Printer) (e : Expr) :
    p.accept e = (Printer.accept {} e).behind p.output := by
  unfold accept
  rw [← visit_behind, behind, String.append_empty]

mutual

/-- Without room enough the printer stops. -/
theorem visit_stops (p : Printer) : ∀ (room : Nat) (e : Expr), room < e.depth →
    (p.visit room e).stopped = true
  | 0, e, _ => by rw [visit]; rfl
  | room + 1, .number t, h => by simp [Expr.depth] at h
  | room + 1, .identifier name, h => by simp [Expr.depth] at h
  | room + 1, .binary lhs rhs op, h => by
      rw [Expr.depth] at h
      rw [visit]
      by_cases hlhs : room < lhs.depth
      · refine visit_stays_stopped ?_ room rhs
        rw [write_stopped]
        exact visit_stops p room lhs hlhs
      · exact visit_stops _ room rhs (by omega)
  | room + 1, .unary operand op, h => by
      rw [Expr.depth] at h
      rw [visit]
      split
      · exact visit_stops _ room operand (by omega)
      · rw [write_stopped]
        exact visit_stops p room operand (by omega)
  | room + 1, .call name arguments, h => by
      rw [Expr.depth] at h
      rw [visit, write_stopped]
      exact visitAll_stops _ room arguments (by omega)

theorem visitAll_stops (p : Printer) : ∀ (room : Nat) (es : List Expr),
    room < Expr.depthOfAll es → (p.visitAll room es).stopped = true
  | _, [], h => by simp [Expr.depthOfAll] at h
  | room, [e], h => by
      simp only [Expr.depthOfAll] at h
      rw [visitAll]
      exact visit_stops p room e (by omega)
  | room, e :: e' :: es, h => by
      rw [Expr.depthOfAll] at h
      rw [visitAll_cons]
      by_cases first : room < e.depth
      · refine visitAll_stays_stopped ?_ room (e' :: es)
        rw [write_stopped]
        exact visit_stops p room e first
      · exact visitAll_stops _ room (e' :: es) (by omega)

end

end Printer

/-- The text that is given is the canonical one, and it is given up to the limit on depth. -/
theorem Expr.render?_eq_some_iff (e : Expr) (text : String) :
    e.render? = some text ↔ e.depth ≤ Printer.depthLimit ∧ e.render = text := by
  unfold render? Printer.accept
  by_cases h : e.depth ≤ Printer.depthLimit
  · rw [Printer.visit_eq_write _ _ e h]
    simp [Printer.write, h]
  · rw [if_pos (Printer.visit_stops _ _ e (Nat.lt_of_not_le h))]
    simp [h]

end Formula
