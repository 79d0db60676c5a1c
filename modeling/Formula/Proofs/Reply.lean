import Formula.Reader.Reply
set_option autoImplicit false

/-!
# Replies one after the other

A reader that goes on where another one stopped is a chain of replies.  `Reply.andThen` is
that chain, and the properties of readers that the following modules need are stated so
that they pass through it:

* `Reader.Advances`: a reader never moves backwards, and a phrase takes a token at least;
* `Reply.Reads`: a phrase is read, unless it is nested too deeply.
-/

namespace Formula

namespace Reply

variable {α β γ : Type}

/-- Goes on behind the phrase, if it was read. -/
def andThen (r : Reply α) (next : α → Reader β) : Reply β :=
  match r with
  | .ok value rest => next value rest
  | .fail refusal rest => .fail refusal rest

@[simp] theorem andThen_ok (value : α) (rest : List Token) (next : α → Reader β) :
    (Reply.ok value rest).andThen next = next value rest := rfl

@[simp] theorem andThen_fail (refusal : Refusal) (rest : List Token) (next : α → Reader β) :
    (Reply.fail refusal rest : Reply α).andThen next = .fail refusal rest := rfl

theorem andThen_assoc (r : Reply α) (next : α → Reader β) (last : β → Reader γ) :
    (r.andThen next).andThen last = r.andThen fun x rest => (next x rest).andThen last := by
  cases r <;> rfl

theorem map_eq_andThen (r : Reply α) (f : α → β) : r.map f = r.andThen fun x => .ok (f x) := by
  cases r <;> rfl

theorem rest_map (r : Reply α) (f : α → β) : (r.map f).rest = r.rest := by
  cases r <;> rfl

theorem andThen_eq_ok {r : Reply α} {next : α → Reader β} {y : β} {rest : List Token}
    (h : r.andThen next = .ok y rest) : ∃ x mid, r = .ok x mid ∧ next x mid = .ok y rest := by
  cases r with
  | ok x mid => exact ⟨x, mid, rfl, h⟩
  | fail refusal mid => exact absurd h (by simp)

theorem map_eq_ok {r : Reply α} {f : α → β} {y : β} {rest : List Token}
    (h : r.map f = .ok y rest) : ∃ x, r = .ok x rest ∧ f x = y := by
  cases r with
  | ok x mid => cases h; exact ⟨x, rfl, rfl⟩
  | fail refusal mid => cases h

theorem andThen_congr {r r' : Reply α} {next next' : α → Reader β} (hr : r = r')
    (h : ∀ x mid, r = .ok x mid → next x mid = next' x mid) :
    r.andThen next = r'.andThen next' := by
  subst hr
  cases r with
  | ok x mid => exact h x mid rfl
  | fail refusal mid => rfl

/-! ## Moving forward -/

/-- What is left after a chain is a suffix, if each of its readers leaves one. -/
theorem rest_andThen {r : Reply α} {next : α → Reader β} {ts : List Token} (first : r.rest <:+ ts)
    (second : ∀ x mid, r = .ok x mid → (next x mid).rest <:+ mid) :
    (r.andThen next).rest <:+ ts := by
  cases r with
  | ok x mid => exact (second x mid rfl).trans first
  | fail refusal mid => exact first

/-! ## Nesting -/

/-- Was the phrase refused because it is nested too deeply? -/
def TooDeep (r : Reply α) : Prop := ∃ rest, r = .fail .tooDeep rest

/-- The phrase `x` was read in front of `rest`, unless it is nested too deeply. -/
def Reads (r : Reply α) (x : α) (rest : List Token) : Prop := r = .ok x rest ∨ r.TooDeep

theorem TooDeep.andThen {r : Reply α} (h : r.TooDeep) (next : α → Reader β) :
    (r.andThen next).TooDeep := by
  obtain ⟨rest, rfl⟩ := h
  exact ⟨rest, rfl⟩

theorem Reads.andThen {r : Reply α} {x : α} {mid : List Token} {next : α → Reader β} {y : β}
    {rest : List Token} (first : r.Reads x mid) (second : (next x mid).Reads y rest) :
    (r.andThen next).Reads y rest := by
  rcases first with rfl | deep
  · exact second
  · exact Or.inr (deep.andThen next)

theorem Reads.map {r : Reply α} {x : α} {rest : List Token} (h : r.Reads x rest) (f : α → β) :
    (r.map f).Reads (f x) rest := by
  rw [map_eq_andThen]
  exact h.andThen (Or.inl rfl)

/-- A chain is not nested too deeply if none of its readers finds it so. -/
theorem not_tooDeep_andThen {r : Reply α} {next : α → Reader β} (first : ¬ r.TooDeep)
    (second : ∀ x mid, r = .ok x mid → ¬ (next x mid).TooDeep) : ¬ (r.andThen next).TooDeep := by
  cases r with
  | ok x mid => exact second x mid rfl
  | fail refusal mid =>
      rintro ⟨left, h⟩
      cases h
      exact first ⟨mid, rfl⟩

theorem not_tooDeep_ok (x : α) (rest : List Token) : ¬ (Reply.ok x rest).TooDeep := by
  rintro ⟨_, h⟩
  cases h

end Reply

namespace Reader

/-- The reader never moves backwards, and takes at least one token for a phrase. -/
def Advances {α : Type} (read : Reader α) : Prop :=
  ∀ ts, (read ts).rest <:+ ts ∧ ∀ x rest, read ts = .ok x rest → rest.length < ts.length

end Reader

end Formula
