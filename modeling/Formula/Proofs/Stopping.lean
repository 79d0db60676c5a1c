import Formula.Problem
import Formula.Proofs.Completeness
import Formula.Proofs.Lookahead
import Formula.Proofs.Spelling
import Formula.Proofs.Wording
set_option autoImplicit false

/-!
# Where readers stop

Every reader stops behind the longest prefix of its tokens that begins a phrase of its form.  If
that prefix is a phrase, the reader returns what it stands for, and otherwise it fails; a number
without a literal, where a primary may start, has been taken when it is refused.

All readers share the argument.  They are sound and complete for their forms, and look at one
token behind those they take (`Reader.ReadsForm`); so if the tokens taken could be continued to a
phrase with other tokens from the next one on, the reader would have gone on.
-/

namespace Formula

open Grammar
open Text (Style)

/-! ## Problems of reading -/

namespace Failure

variable {style : Style} {source : String}

theorem ofWholeRefusal_eq {refusal : Refusal} (room : refusal ≠ .tooDeep) (rest : List Token) :
    ofWholeRefusal style source refusal rest = ofRefusal style source refusal rest := by
  cases refusal with
  | tooDeep => exact absurd rfl room
  | _ => rfl

/-- What is to be reported is a problem with a source that is no expression: something is wrong at
`what`, and the message is a template filled with the source and that. -/
inductive IsParseError (style : Style) (source : String) : Failure → Prop where
  | problem {p : Problem} {template what : String}
      (cause : p.cause = .notAnExpression what ∨ p.cause = .expected what ∨
        p.cause = .unexpected what)
      (fills : p.Fills style template [source, what]) : IsParseError style source (.problem p)

theorem isParseError_ofRefusal {refusal : Refusal} (spelled : refusal ≠ .blankNumber)
    (room : refusal ≠ .tooDeep) (rest : List Token) :
    (ofRefusal style source refusal rest).IsParseError style source := by
  cases refusal with
  | expected what =>
      exact .problem (Or.inr (Or.inl rfl)) (Problem.expected_fills style what.text source _ 1)
  | unexpected t =>
      exact .problem (Or.inr (Or.inr rfl)) (Problem.unexpected_fills style t.text source _ _)
  | blankNumber => exact absurd rfl spelled
  | tooDeep => exact absurd rfl room

end Failure

namespace Reader

variable {α : Type} {G : List Token → α → Prop} {read : Reader α}

/-! ## Readers of a form -/

/-- The reader reads phrases of the form `G`, and looks at one token behind them. -/
structure ReadsForm (G : List Token → α → Prop) (read : Reader α) : Prop where
  sound : Sound G read
  complete : ∀ ts x, G ts x → (read ts).Reads x []
  glances : ∀ ts, Glances (Viable G) read ts

section Halting

variable {used stuck : List Token}

/-- If tokens that resemble those in front of which the reader halted complete a phrase, then they
are none at all, and the reader has read that phrase. -/
theorem ReadsForm.read_of_completed (form : ReadsForm G read)
    (glance : Glance (Viable G) read used stuck) (room : ¬ (read (used ++ stuck)).TooDeep)
    {other : List Token} {x : α}
    (resembles : Resembles (read (used ++ stuck)).refusesNumber stuck other)
    (h : G (used ++ other) x) : other = [] ∧ read (used ++ stuck) = .ok x stuck := by
  have halts := glance.halts
  have repeats := glance.again other resembles
  have reads := form.complete _ x h
  cases hread : read (used ++ stuck) with
  | ok y rest =>
      rw [hread] at halts repeats
      have hrest : rest = stuck := halts
      have hagain : read (used ++ other) = .ok y other := repeats
      rw [hagain] at reads
      rcases reads with hsame | deep
      · cases hsame
        exact ⟨rfl, by rw [hrest]⟩
      · exact absurd deep (Reply.not_tooDeep_ok y other)
  | fail refusal rest =>
      rw [hread] at repeats room
      obtain ⟨refusal', rest', hagain, deep⟩ := repeats
      rw [hagain] at reads
      rcases reads with hsame | ⟨left, hdeep⟩
      · cases hsame
      · cases hdeep
        exact absurd ⟨rest, by rw [deep rfl]⟩ room

/-- What the reader took is the phrase that it returned. -/
theorem ReadsForm.taken (form : ReadsForm G read) (glance : Glance (Viable G) read used stuck)
    {x : α} {left : List Token} (hread : read (used ++ stuck) = .ok x left) :
    G used x ∧ left = stuck := by
  have halts := glance.halts
  rw [hread] at halts
  obtain rfl : left = stuck := halts
  exact ⟨form.sound.taken rfl hread, rfl⟩

/-- What the reader took begins a phrase. -/
theorem ReadsForm.viable (form : ReadsForm G read) (glance : Glance (Viable G) read used stuck) :
    Viable G used := by
  have leads := glance.leads
  cases hread : read (used ++ stuck) with
  | ok x rest => exact .of_phrase (form.taken glance hread).1
  | fail refusal rest =>
      rw [hread] at leads
      exact leads.1

/-- What the reader took is the longest prefix that begins a phrase. -/
theorem ReadsForm.longest (form : ReadsForm G read) (glance : Glance (Viable G) read used stuck)
    (room : ¬ (read (used ++ stuck)).TooDeep) : LongestViable G (used ++ stuck) used stuck := by
  refine .of_next rfl (form.viable glance) fun t ht continued => ?_
  obtain ⟨more, x, hphrase⟩ := continued
  obtain ⟨rest, rfl⟩ := List.head?_eq_some_iff.1 ht
  rw [List.append_assoc, List.singleton_append] at hphrase
  have none := (form.read_of_completed glance room .sameToken hphrase).1
  cases none

/-- In front of what cannot go on behind a phrase, the phrase is read.  A prefix sign cannot go on
there, but it is refused. -/
theorem ReadsForm.reads_apart (form : ReadsForm G read) {front rest : List Token} {x : α}
    (h : G front x)
    (apart : ∀ next ∈ rest.head?, next.kind ≠ .negate ∧ ¬ Viable G (front ++ [next])) :
    (read (front ++ rest)).Reads x rest := by
  by_cases room : (read (front ++ rest)).TooDeep
  · exact Or.inr room
  · obtain ⟨used, stuck, hsplit, glance⟩ := form.glances (front ++ rest)
    rw [hsplit] at room
    have hlongest := form.longest glance room
    rw [← hsplit] at hlongest
    obtain ⟨rfl, rfl⟩ : used = front ∧ stuck = rest :=
      hlongest.unique (.of_next rfl (.of_phrase h) fun next hnext => (apart next hnext).2)
    refine Or.inl (form.read_of_completed glance room (.atEnd fun t ht => (apart t ht).1) ?_).2
    rw [List.append_nil]
    exact h

/-! ## Numbers that are refused -/

/-- A number that is no literal comes next, where a primary may start. -/
def RefusesNumber (G : List Token → α → Prop) (front rest : List Token) : Prop :=
  AwaitsPrimary G front ∧
    ∃ t ∈ rest.head?, t.kind = .number ∧ t.lexeme.bind Double.ofLiteral? = none

/-- A number is refused if it is no literal and a primary may start there, and only then. -/
theorem ReadsForm.refusesNumber_iff (form : ReadsForm G read)
    (glance : Glance (Viable G) read used stuck) (room : ¬ (read (used ++ stuck)).TooDeep) :
    (read (used ++ stuck)).refusesNumber = true ↔ RefusesNumber G used stuck := by
  constructor
  · intro hrefuses
    have halts := glance.halts
    have leads := glance.leads
    cases hread : read (used ++ stuck) with
    | ok x rest =>
        rw [hread] at hrefuses
        cases hrefuses
    | fail refusal rest =>
        rw [hread] at hrefuses halts leads
        have hnumber : refusal.isOfNumber = true := hrefuses
        exact ⟨leads.2 hnumber, halts.no_literal hnumber⟩
  · rintro ⟨awaits, t, ht, hkind, _⟩
    obtain ⟨rest, rfl⟩ := List.head?_eq_some_iff.1 ht
    -- a reader that had not taken the number could not tell it from one that completes a phrase
    refine Classical.byContradiction fun untaken => ?_
    rw [Bool.not_eq_true] at untaken
    obtain ⟨more, x, hphrase⟩ := awaits _ _ phrase_someNumber
    rw [List.append_assoc, List.singleton_append] at hphrase
    have resembles : Resembles (read (used ++ t :: rest)).refusesNumber (t :: rest)
        (someNumber :: more) := .sameKind untaken hkind.symm
    have none := (form.read_of_completed glance room resembles hphrase).1
    cases none

end Halting

/-! ## Stopping behind the longest prefix -/

/-- A reader whose longest viable prefix is `front`, with `rest` behind it, has stopped there: it
returns what `front` stands for, and fails if that is no phrase. -/
structure StopsBehind (G : List Token → α → Prop) (front rest : List Token) (r : Reply α) :
    Prop where
  returns : ∀ x left, r = .ok x left ↔ G front x ∧ left = rest
  fails : (∀ x, ¬ G front x) → ∃ refusal left, r = .fail refusal left ∧
    (∀ style source, (Failure.ofRefusal style source refusal left).IsParseError style source) ∧
    (RefusesNumber G front rest → left = rest.tail) ∧ (¬ RefusesNumber G front rest → left = rest)

/-- Where no negation sign and no number without a spelling can come, a reader of a form stops
behind the longest prefix. -/
theorem ReadsForm.stopsBehind (form : ReadsForm G read) {ts : List Token}
    (plain : ∀ t ∈ ts, t.kind ≠ .negate) (spelled : ∀ t ∈ ts, t.kind = .number → t.lexeme ≠ none)
    (room : ¬ (read ts).TooDeep) :
    ∃ front rest, LongestViable G ts front rest ∧ StopsBehind G front rest (read ts) := by
  obtain ⟨used, stuck, rfl, glance⟩ := form.glances ts
  have atEnd : Resembles (read (used ++ stuck)).refusesNumber stuck [] :=
    .atEnd fun t ht => plain t (List.mem_append_right used (List.mem_of_mem_head? ht))
  have returned {x : α} (h : G used x) : read (used ++ stuck) = .ok x stuck := by
    rw [← List.append_nil used] at h
    exact (form.read_of_completed glance room atEnd h).2
  refine ⟨used, stuck, form.longest glance room, ?_, fun none => ?_⟩
  · exact fun x left => ⟨form.taken glance, fun h => by rw [h.2, returned h.1]⟩
  · have hnumber := form.refusesNumber_iff glance room
    have halts := glance.halts
    cases hread : read (used ++ stuck) with
    | ok x left => exact absurd (form.taken glance hread).1 (none x)
    | fail refusal left =>
        rw [hread] at halts hnumber room
        have met : refusal.Met stuck left := halts
        have hrefuses : refusal.isOfNumber = true ↔ RefusesNumber G used stuck := hnumber
        refine ⟨refusal, left, rfl, fun style source => ?_, fun h => ?_, fun h => ?_⟩
        · refine Failure.isParseError_ofRefusal ?_ ?_ left
          · rintro rfl
            cases met with
            | noSpelling hkind hlexeme =>
                exact spelled _ (List.mem_append_right used List.mem_cons_self) hkind hlexeme
          · rintro rfl
            exact room ⟨left, rfl⟩
        · rw [met.rest_eq, if_pos (hrefuses.2 h)]
        · rw [met.rest_eq, if_neg fun refuses => h (hrefuses.1 refuses)]

/-! ## The readers of a text -/

theorem readsForm_primary (frames : Nat) : ReadsForm (Phrase .primary) (primary frames) where
  sound := primary_sound frames
  complete _ _ h := primary_complete h frames
  glances := glances_primary frames

theorem readsForm_factor (frames : Nat) : ReadsForm (Phrase .factor) (factor frames) where
  sound := factorWith_sound (primary_sound (frames - 1))
  complete _ _ h := factor_complete h frames
  glances := glances_factor frames

theorem readsForm_expression (frames : Nat) : ReadsForm (Phrase .sum) (expression frames) where
  sound := expression_sound frames
  complete _ _ h := expression_complete h frames
  glances := glances_expression frames

theorem readsForm_identifier : ReadsForm Identifier identifier where
  sound := identifier_sound
  complete ts name h := by
    have hread : identifier (ts ++ []) = .ok name [] :=
      identifier_complete h fun t ht => nomatch ht
    rw [List.append_nil] at hread
    exact Or.inl hread
  glances := glances_identifier

theorem readsForm_argumentList (frames : Nat) : ReadsForm Arguments (argumentList frames) where
  sound := argumentsWith_sound (advances_expression (frames - 1)) (expression_sound (frames - 1))
  complete _ _ h := argumentList_complete frames h
  glances := glances_argumentList frames

/-! ## Whole expressions -/

/-- How the tokens behind the longest prefix `front` that begins an expression are refused: where
its reader halted, or because they are left over. -/
inductive RefusesAt (front : List Token) : List Token → Refusal → List Token → Prop where
  | inside {stuck rest : List Token} {refusal : Refusal} (met : refusal.Met stuck rest)
      (number : refusal.isOfNumber = true ↔ RefusesNumber (Phrase .sum) front stuck) :
      RefusesAt front stuck refusal rest
  | behind {t : Token} {rest : List Token}
      (number : ¬ RefusesNumber (Phrase .sum) front (t :: rest)) :
      RefusesAt front (t :: rest) (.unexpected t) (t :: rest)

/-- Where something is missing, nothing that stands there has been taken. -/
theorem RefusesAt.rest_of_expected {front stuck rest : List Token} {what : Expectation}
    (h : RefusesAt front stuck (.expected what) rest) : rest = stuck := by
  cases h with
  | inside met _ =>
      cases met with
      | expected what => rfl

/-- A token that has no place is the one that the reader halted in front of. -/
theorem RefusesAt.head_of_unexpected {front stuck rest : List Token} {t : Token}
    (h : RefusesAt front stuck (.unexpected t) rest) : stuck.head? = some t := by
  cases h with
  | inside met _ =>
      cases met with
      | unexpected _ _ => rfl
      | noLiteral _ _ _ _ => rfl
  | behind _ => rfl

theorem whole_refusesAt {frames : Nat} {ts rest : List Token} {refusal : Refusal}
    (h : whole frames ts = .fail refusal rest) (room : refusal ≠ .tooDeep) :
    ∃ front stuck, LongestViable (Phrase .sum) ts front stuck ∧
      RefusesAt front stuck refusal rest := by
  have form := readsForm_expression frames
  obtain ⟨used, stuck, rfl, glance⟩ := form.glances ts
  have halts := glance.halts
  unfold whole at h
  split at h
  · rename_i refusal' rest' hread
    cases h
    have inner : ¬ (expression frames (used ++ stuck)).TooDeep := by
      rintro ⟨left, hdeep⟩
      rw [hread] at hdeep
      cases hdeep
      exact room rfl
    have hnumber := form.refusesNumber_iff glance inner
    rw [hread] at halts hnumber
    exact ⟨used, stuck, form.longest glance inner, .inside halts hnumber⟩
  · cases h
  · rename_i e t rest' hread
    cases h
    have inner : ¬ (expression frames (used ++ stuck)).TooDeep := by
      rw [hread]
      exact Reply.not_tooDeep_ok _ _
    have hnumber := form.refusesNumber_iff glance inner
    rw [hread] at halts hnumber
    obtain rfl : t :: rest' = stuck := halts
    have plain : ¬ RefusesNumber (Phrase .sum) used (t :: rest') := fun refuses =>
      Bool.false_ne_true (hnumber.2 refuses)
    exact ⟨used, t :: rest', form.longest glance inner, .behind plain⟩

/-! ## All readers -/

/-- Within any number of frames, the readers of the form `G` stop behind the longest prefix unless
the tokens are nested too deeply; and they are not if there are three frames for each of them, and
four more. -/
structure ReadsLongest (G : List Token → α → Prop) (read : Nat → Reader α) (ts : List Token) :
    Prop where
  stops : ∀ frames, ¬ (read frames ts).TooDeep →
    ∃ front rest, LongestViable G ts front rest ∧ StopsBehind G front rest (read frames ts)
  room : ∀ frames, 3 * ts.length + 3 < frames → ¬ (read frames ts).TooDeep

/-- The readers of expressions, factors, primaries, names and arguments, on the tokens of a text
from any place on: each takes the longest prefix that begins a phrase of its form. -/
theorem readsLongest_drop_ofText (source : String) (position : Nat) :
    ReadsLongest (Phrase .sum) expression ((Token.ofText source).drop position) ∧
    ReadsLongest (Phrase .factor) factor ((Token.ofText source).drop position) ∧
    ReadsLongest (Phrase .primary) primary ((Token.ofText source).drop position) ∧
    ReadsLongest Identifier (fun _ => identifier) ((Token.ofText source).drop position) ∧
    ReadsLongest Arguments argumentList ((Token.ofText source).drop position) := by
  generalize hts : (Token.ofText source).drop position = ts
  have plain (t : Token) (ht : t ∈ ts) : t.kind ≠ .negate := by
    rw [← hts] at ht
    exact Token.kind_ne_negate (Token.spelled_of_mem_scan (List.mem_of_mem_drop ht))
  have spelled (t : Token) (ht : t ∈ ts) (hkind : t.kind = .number) : t.lexeme ≠ none := by
    rw [← hts] at ht
    obtain ⟨cs, hlexeme, _⟩ :=
      (Token.legible_of_mem_scan (List.mem_of_mem_drop ht)).number hkind
    rw [hlexeme]
    exact Option.some_ne_none _
  refine ⟨⟨?_, ?_⟩, ⟨?_, ?_⟩, ⟨?_, ?_⟩, ⟨?_, ?_⟩, ⟨?_, ?_⟩⟩
  · exact fun frames => (readsForm_expression frames).stopsBehind plain spelled
  · exact fun frames enough => not_tooDeep_expression frames ts (by omega)
  · exact fun frames => (readsForm_factor frames).stopsBehind plain spelled
  · exact fun frames enough =>
      not_tooDeep_factorWith (not_tooDeep_primary (frames - 1) ts (by omega))
  · exact fun frames => (readsForm_primary frames).stopsBehind plain spelled
  · exact fun frames enough => not_tooDeep_primary frames ts (by omega)
  · exact fun _ => readsForm_identifier.stopsBehind plain spelled
  · exact fun _ _ => not_tooDeep_identifier ts
  · exact fun frames => (readsForm_argumentList frames).stopsBehind plain spelled
  · intro frames enough
    refine not_tooDeep_argumentsWith (advances_expression (frames - 1)) (fun us short => ?_) ts
      (Nat.lt_succ_self _)
    exact not_tooDeep_expression (frames - 1) us (by omega)

end Reader

end Formula
