import Formula.Proofs.Guards
set_option autoImplicit false

/-!
# Which registered sources a report discloses

A report lists the registered sources above the message, except for one that is the snippet of the
problem: the diagnosis under the message is to show that one.  Whether a source is left out and
whether the diagnosis is printed are two decisions, and they do not always agree.  The program's
own problems have no diagnosis, nor has an empty snippet, nor a problem whose diagnosis is too long
to be written; but a source that is their snippet is left out all the same.
-/

namespace Formula

open Text (Style)

namespace Reporter

variable {style : Style} {r : Reporter} {p : Problem}

/-! ## Disclosure -/

/-- Those of the sources that are listed, each as it is shown above a message. -/
def listing (listed : String × String → Bool) (entries : List (String × String)) : String :=
  String.join ((entries.filter listed).map sourceText)

/-- The printed report shows every registered source: those that it lists are listed in the order
of registration above the message, and every other one is the snippet whose diagnosis is printed
below the message. -/
def Discloses (style : Style) (r : Reporter) (p : Problem) (printed : String) : Prop :=
  ∃ (listed : String × String → Bool) (diagnosed : Bool),
    printed = listing listed r.sources ++ errorLine style p
      ++ (if diagnosed then p.diagnose style false ++ "\n" else "") ∧
    ∀ entry ∈ r.sources, listed entry = true ∨ diagnosed = true ∧ entry.2 = p.snippet

/-- Is the source listed above the message?  The snippet of a problem with a diagnosis is not. -/
def lists (p : Problem) (entry : String × String) : Bool := !(p.diagnosis && p.snippet == entry.2)

theorem lists_eq_false_iff {entry : String × String} :
    lists p entry = false ↔ p.diagnosis = true ∧ entry.2 = p.snippet := by
  rw [lists, Bool.not_eq_false', Bool.and_eq_true, beq_iff_eq, eq_comm (a := entry.2)]

/-! ## What is printed -/

/-- Is a diagnosis printed?  It is if it is to be shown and can be written. -/
def diagnoses (p : Problem) : Bool := p.showsSnippet && p.diagnosisFault?.isNone

theorem diagnoses_iff : diagnoses p = true ↔ p.showsSnippet = true ∧ p.diagnosisFault? = none := by
  rw [diagnoses, Bool.and_eq_true, Option.isNone_iff_eq_none]

theorem printed_throw (style : Style) (r : Reporter) (p : Problem) :
    (r.throw style p).printed = listing (lists p) r.sources ++ errorLine style p
      ++ (if diagnoses p then p.diagnose style false ++ "\n" else "") := by
  have hhead : errorHead style r p = listing (lists p) r.sources ++ errorLine style p := by
    simp only [errorHead, errorLine, String.append_assoc]
    rfl
  rw [throw, report, ← hhead]
  cases hshows : p.showsSnippet with
  | false => simp [Outcome.after, diagnosisText, diagnoses, hshows]
  | true =>
      cases hfault : p.diagnosisFault? with
      | none => simp [Outcome.after, diagnosisText, diagnoses, hshows, hfault]
      | some fault => simp [diagnoses, hshows, hfault]

/-! ## The length of a listing -/

theorem length_listing_cons (listed : String × String → Bool) (entry : String × String)
    (entries : List (String × String)) :
    (listing listed (entry :: entries)).length =
      (if listed entry then (sourceText entry).length else 0)
        + (listing listed entries).length := by
  unfold listing
  rw [List.filter_cons]
  split
  · rw [List.map_cons, String.join_cons, String.length_append]
  · rw [Nat.zero_add]

theorem length_sourceText_pos (entry : String × String) : 0 < (sourceText entry).length := by
  have hclosing : "\n".length = 1 := by decide
  rw [sourceText, String.length_append, hclosing]
  exact Nat.succ_pos _

section Listings

variable {fewer more : String × String → Bool} {entries : List (String × String)}

theorem length_listed_le {entry : String × String}
    (h : fewer entry = true → more entry = true) :
    (if fewer entry then (sourceText entry).length else 0) ≤
      if more entry then (sourceText entry).length else 0 := by
  cases hfewer : fewer entry with
  | false => exact Nat.zero_le _
  | true => exact Nat.le_of_eq (by rw [h hfewer])

theorem length_listing_le (h : ∀ entry ∈ entries, fewer entry = true → more entry = true) :
    (listing fewer entries).length ≤ (listing more entries).length := by
  induction entries with
  | nil => exact Nat.le_refl _
  | cons entry entries ih =>
      rw [List.forall_mem_cons] at h
      rw [length_listing_cons, length_listing_cons]
      exact Nat.add_le_add (length_listed_le h.1) (ih h.2)

/-- A listing with one more source is longer. -/
theorem length_listing_lt (h : ∀ entry ∈ entries, fewer entry = true → more entry = true)
    {hidden : String × String} (mem : hidden ∈ entries) (hfewer : fewer hidden = false)
    (hmore : more hidden = true) :
    (listing fewer entries).length < (listing more entries).length := by
  induction entries with
  | nil => cases mem
  | cons entry entries ih =>
      rw [List.forall_mem_cons] at h
      rw [length_listing_cons, length_listing_cons]
      rcases List.mem_cons.1 mem with rfl | mem
      · rw [hfewer, hmore]
        exact Nat.add_lt_add_of_lt_of_le (length_sourceText_pos hidden) (length_listing_le h.2)
      · exact Nat.add_lt_add_of_le_of_lt (length_listed_le h.1) (ih h.2 mem)

end Listings

/-! ## When every source is disclosed -/

/-- A source that is left out is not made up for, unless its diagnosis is printed. -/
theorem diagnoses_of_discloses (h : r.Discloses style p (r.throw style p).printed)
    {hidden : String × String} (mem : hidden ∈ r.sources) (hlists : lists p hidden = false) :
    diagnoses p = true := by
  obtain ⟨listed, diagnosed, hprinted, hall⟩ := h
  obtain ⟨hdiagnosis, _⟩ := lists_eq_false_iff.1 hlists
  rw [printed_throw] at hprinted
  refine eq_true_of_ne_false fun hnone => ?_
  rw [hnone, if_neg Bool.false_ne_true, String.append_empty] at hprinted
  have hlength := congrArg String.length hprinted
  simp only [String.length_append] at hlength
  -- every source that the report lists has to be listed, so there is room for nothing else
  have more : ∀ entry ∈ r.sources, lists p entry = true → listed entry = true := by
    intro entry hentry hlisted
    refine (hall entry hentry).resolve_right fun ⟨_, hsnippet⟩ => ?_
    rw [lists_eq_false_iff.2 ⟨hdiagnosis, hsnippet⟩] at hlisted
    cases hlisted
  have room := length_listing_le more
  have undiagnosed : diagnosed = false := by
    cases diagnosed with
    | false => rfl
    | true =>
        rw [if_pos rfl, String.length_append] at hlength
        have hclosing : "\n".length = 1 := by decide
        omega
  have hidden_listed : listed hidden = true := by
    refine (hall hidden mem).resolve_right fun ⟨hdiagnosed, _⟩ => ?_
    rw [undiagnosed] at hdiagnosed
    cases hdiagnosed
  have longer := length_listing_lt more mem hlists hidden_listed
  omega

/-- **A report shows every registered source exactly if it diagnoses what it leaves out.**  A
problem with a diagnosis leaves out the source that is its snippet; the source is shown after all
if the problem is not the program's own, the snippet is not empty and the diagnosis can be
written. -/
theorem throw_discloses_iff (style : Style) (r : Reporter) (p : Problem) :
    r.Discloses style p (r.throw style p).printed ↔
      (p.diagnosis = true → (∃ entry ∈ r.sources, entry.2 = p.snippet) →
        p.isInternal = false ∧ p.snippet ≠ "" ∧ p.diagnosisFault? = none) := by
  have hshows : p.diagnosis = true →
      (diagnoses p = true ↔ p.isInternal = false ∧ p.snippet ≠ "" ∧ p.diagnosisFault? = none) := by
    intro hdiagnosis
    rw [diagnoses_iff, Problem.showsSnippet, hdiagnosis]
    simp [and_assoc]
  constructor
  · rintro h hdiagnosis ⟨hidden, mem, hsnippet⟩
    exact (hshows hdiagnosis).1
      (diagnoses_of_discloses h mem (lists_eq_false_iff.2 ⟨hdiagnosis, hsnippet⟩))
  · intro h
    refine ⟨lists p, diagnoses p, printed_throw style r p, fun entry mem => ?_⟩
    cases hlists : lists p entry with
    | true => exact Or.inl rfl
    | false =>
        obtain ⟨hdiagnosis, hsnippet⟩ := lists_eq_false_iff.1 hlists
        exact Or.inr ⟨(hshows hdiagnosis).2 (h hdiagnosis ⟨entry, mem, hsnippet⟩), hsnippet⟩

/-- The program's own problem with the registered source: the report shows nothing of the source. -/
theorem throw_internal_hides :
    let r : Reporter := { isFatal := false, sources := [("<expr>", "1+1")] }
    ∃ p, Problem.ofTemplate .plain "oops" ["1+1"] 0 (-1) true true = .ok p ∧
      (r.throw .plain p).printed = "[internal] error: oops\n" ∧
      ¬ r.Discloses .plain p (r.throw .plain p).printed := by
  intro r
  let p : Problem :=
    { cause := .general, message := "oops", snippet := "1+1", stop := 3, isInternal := true }
  refine ⟨p, by cbv, by decide +kernel, fun h => ?_⟩
  have shown := (throw_discloses_iff .plain r p).1 h rfl ⟨_, List.mem_cons_self, rfl⟩
  exact absurd shown.1 (by decide)

end Reporter

end Formula
