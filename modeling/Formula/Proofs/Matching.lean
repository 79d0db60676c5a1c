import Formula.Proofs.Lexing
set_option autoImplicit false

/-!
# Tokens as longest matches

What a number and what a name look like, as predicates on texts that mention no scanner, and the
rules that make a token of what stands at the front of a text: the longest number there, or else
the longest name, or else the first character by itself.  The lexer follows these rules, and they
leave it no choice (`munched_iff`).
-/

namespace Formula

namespace Token

open Text

/-! ## The forms of numbers and names -/

/-- All characters are digits. -/
def Digits (ds : List Char) : Prop := ∀ d ∈ ds, isDigit d = true

/-- The texts of numbers. -/
inductive NumberText : List Char → Prop where
  | integer {d : Char} {ds : List Char} (digits : Digits (d :: ds)) : NumberText (d :: ds)
  /-- A point behind the digits, and perhaps more digits behind it. -/
  | decimal {d : Char} {ds fs : List Char} (digits : Digits (d :: ds)) (further : Digits fs) :
      NumberText (d :: (ds ++ '.' :: fs))
  | fraction {d : Char} {ds : List Char} (digits : Digits (d :: ds)) : NumberText ('.' :: d :: ds)

/-- The texts of names: a letter, and letters and digits after it. -/
inductive NameText : List Char → Prop where
  | letter {c : Char} {cs : List Char} (hletter : isLetter c = true)
      (further : ∀ d ∈ cs, isLetter d = true ∨ isDigit d = true) : NameText (c :: cs)

/-! ## The rules -/

/-- `m` is the longest of all texts of the given form at the front of `cs`. -/
structure Longest (form : List Char → Prop) (m cs : List Char) : Prop where
  front : m <+: cs
  fits : form m
  greatest : ∀ m', m' <+: cs → form m' → m'.length ≤ m.length

/-- No text of the given form stands at the front of `cs`. -/
def Absent (form : List Char → Prop) (cs : List Char) : Prop := ∀ m, m <+: cs → ¬ form m

/-- The token that the rules make of what stands at the front of a text, which is not to be a
blank.  A rule applies only where those before it do not. -/
inductive Munched : List Char → Token → Prop where
  | number {c : Char} {rest m : List Char} {start : Int} (hblank : isBlank c = false)
      (longest : Longest NumberText m (c :: rest)) :
      Munched (c :: rest) ⟨.number, some (String.ofList m), start⟩
  | identifier {c : Char} {rest m : List Char} {start : Int} (hblank : isBlank c = false)
      (noNumber : Absent NumberText (c :: rest)) (longest : Longest NameText m (c :: rest)) :
      Munched (c :: rest) ⟨.identifier, some (String.ofList m), start⟩
  | punctuation {c : Char} {rest : List Char} {kind : Kind} {start : Int}
      (hblank : isBlank c = false) (noNumber : Absent NumberText (c :: rest))
      (noName : Absent NameText (c :: rest)) (hkind : Kind.ofChar? c = some kind) :
      Munched (c :: rest) ⟨kind, none, start⟩
  | invalid {c : Char} {rest : List Char} {start : Int} (hblank : isBlank c = false)
      (noNumber : Absent NumberText (c :: rest)) (noName : Absent NameText (c :: rest))
      (hkind : Kind.ofChar? c = none) :
      Munched (c :: rest) ⟨.invalid, some (String.singleton c), start⟩

/-- There is one longest text of a form at most. -/
theorem Longest.unique {form : List Char → Prop} {m m' cs : List Char} (h : Longest form m cs)
    (h' : Longest form m' cs) : m = m' := by
  have hle : m.length ≤ m'.length := h'.greatest m h.front h.fits
  have hge : m'.length ≤ m.length := h.greatest m' h'.front h'.fits
  exact (List.prefix_of_prefix_length_le h.front h'.front hle).eq_of_length (by omega)

/-! ## Numbers -/

theorem digits_nil : Digits [] := fun _ hd => nomatch hd

theorem digits_cons_iff {d : Char} {ds : List Char} :
    Digits (d :: ds) ↔ isDigit d = true ∧ Digits ds :=
  List.forall_mem_cons

theorem begins_of_digit {c : Char} (h : isDigit c = true) (rest : List Char) :
    beginsNumber (c :: rest) = true := by
  rw [beginsNumber, h, Bool.true_or]

theorem digit_ne_point {c : Char} (h : isDigit c = true) : c ≠ '.' := by
  rintro rfl
  rw [(punctuation_plain (c := '.') rfl).2.1] at h
  cases h

/-- What may stand behind the first character of a number: digits, and one point among them unless
there was one already. -/
inductive NumberTail : Bool → List Char → Prop where
  | nil {pointSeen : Bool} : NumberTail pointSeen []
  | digit {pointSeen : Bool} {d : Char} {cs : List Char} (hdigit : isDigit d = true)
      (tail : NumberTail pointSeen cs) : NumberTail pointSeen (d :: cs)
  | point {cs : List Char} (tail : NumberTail true cs) : NumberTail false ('.' :: cs)

theorem NumberTail.of_digits {pointSeen : Bool} {cs : List Char} (h : Digits cs) :
    NumberTail pointSeen cs := by
  induction cs with
  | nil => exact .nil
  | cons c cs ih =>
      obtain ⟨hdigit, hcs⟩ := digits_cons_iff.1 h
      exact .digit hdigit (ih hcs)

/-- Digits, a point, and digits again. -/
theorem NumberTail.of_point {ds fs : List Char} (hds : Digits ds) (hfs : Digits fs) :
    NumberTail false (ds ++ '.' :: fs) := by
  induction ds with
  | nil => exact .point (.of_digits hfs)
  | cons d ds ih =>
      obtain ⟨hdigit, hds⟩ := digits_cons_iff.1 hds
      exact .digit hdigit (ih hds)

/-- Digits only, or digits around a point if there was none before. -/
theorem NumberTail.cases_on_point {pointSeen : Bool} {cs : List Char} (h : NumberTail pointSeen cs) :
    Digits cs ∨ pointSeen = false ∧ ∃ ds fs, cs = ds ++ '.' :: fs ∧ Digits ds ∧ Digits fs := by
  induction h with
  | nil => exact .inl digits_nil
  | @digit _ d _ hdigit _ ih =>
      rcases ih with hds | ⟨hseen, ds, fs, rfl, hds, hfs⟩
      · exact .inl (digits_cons_iff.2 ⟨hdigit, hds⟩)
      · exact .inr ⟨hseen, d :: ds, fs, rfl, digits_cons_iff.2 ⟨hdigit, hds⟩, hfs⟩
  | @point fs _ ih =>
      rcases ih with hfs | ⟨hseen, _⟩
      · exact .inr ⟨rfl, [], fs, rfl, digits_nil, hfs⟩
      · cases hseen

/-- A number is the beginning of one with a tail that belongs to it. -/
theorem numberText_cons_iff {c : Char} {cs : List Char} :
    NumberText (c :: cs) ↔ beginsNumber (c :: cs) = true ∧ NumberTail (c == '.') cs := by
  constructor
  · intro h
    cases h with
    | integer digits =>
        obtain ⟨hdigit, hds⟩ := digits_cons_iff.1 digits
        exact ⟨begins_of_digit hdigit _, .of_digits hds⟩
    | decimal digits further =>
        obtain ⟨hdigit, hds⟩ := digits_cons_iff.1 digits
        rw [beq_false_of_ne (digit_ne_point hdigit)]
        exact ⟨begins_of_digit hdigit _, .of_point hds further⟩
    | fraction digits =>
        obtain ⟨hdigit, _⟩ := digits_cons_iff.1 digits
        exact ⟨by simp [beginsNumber, hdigit], .of_digits digits⟩
  · rintro ⟨begins, tail⟩
    rw [beginsNumber, Bool.or_eq_true, Bool.and_eq_true, beq_iff_eq] at begins
    rcases begins with hdigit | ⟨rfl, hnext⟩
    · rcases tail.cases_on_point with hds | ⟨_, ds, fs, rfl, hds, hfs⟩
      · exact .integer (digits_cons_iff.2 ⟨hdigit, hds⟩)
      · exact .decimal (digits_cons_iff.2 ⟨hdigit, hds⟩) hfs
    · rcases tail.cases_on_point with hds | ⟨hseen, _⟩
      · cases cs with
        | nil => cases hnext
        | cons d ds => exact .fraction hds
      · cases hseen

theorem numberTail_cutNumber (pointSeen : Bool) (cs : List Char) :
    NumberTail pointSeen (cutNumber pointSeen cs).1 := by
  fun_induction cutNumber pointSeen cs with
  | case1 => exact .nil
  | case2 pointSeen c rest hdigit _ ih => exact .digit hdigit ih
  | case3 pointSeen c rest _ hpoint _ ih =>
      obtain ⟨rfl, rfl⟩ := hpoint
      exact .point ih
  | case4 => exact .nil

/-- Whatever could be taken for more of a number is taken. -/
theorem NumberTail.front {pointSeen : Bool} {m cs : List Char} (h : NumberTail pointSeen m)
    (front : m <+: cs) : m <+: (cutNumber pointSeen cs).1 := by
  induction h generalizing cs with
  | nil => exact List.nil_prefix
  | digit hdigit _ ih =>
      obtain ⟨rest, rfl⟩ := front
      rw [List.cons_append, cutNumber, if_pos hdigit]
      exact List.cons_prefix_cons.2 ⟨rfl, ih (List.prefix_append _ rest)⟩
  | point _ ih =>
      obtain ⟨rest, rfl⟩ := front
      have hdigit : ¬ isDigit '.' = true := fun h => digit_ne_point h rfl
      rw [List.cons_append, cutNumber, if_neg hdigit, if_pos ⟨rfl, rfl⟩]
      exact List.cons_prefix_cons.2 ⟨rfl, ih (List.prefix_append _ rest)⟩

/-- A number that begins somewhere is cut to its full length. -/
theorem longest_number {c : Char} {rest : List Char} (begins : beginsNumber (c :: rest) = true) :
    Longest NumberText (c :: (cutNumber (c == '.') rest).1) (c :: rest) where
  front := List.cons_prefix_cons.2 ⟨rfl, _, cutNumber_append (c == '.') rest⟩
  fits := by
    have again := beginsNumber_again begins []
    rw [List.append_nil] at again
    exact numberText_cons_iff.2 ⟨again, numberTail_cutNumber _ rest⟩
  greatest m' front hnumber := by
    cases m' with
    | nil => exact Nat.zero_le _
    | cons c' cs =>
        obtain ⟨rfl, hcs⟩ := List.cons_prefix_cons.1 front
        have hlength := ((numberText_cons_iff.1 hnumber).2.front hcs).length_le
        rw [List.length_cons, List.length_cons]
        omega

/-- A number stands only where one begins. -/
theorem NumberText.begins {c : Char} {m rest : List Char} (h : NumberText m)
    (front : m <+: c :: rest) : beginsNumber (c :: rest) = true := by
  cases m with
  | nil => cases h
  | cons c' cs =>
      obtain ⟨rfl, others, rfl⟩ := List.cons_prefix_cons.1 front
      have begins := (numberText_cons_iff.1 h).1
      rw [beginsNumber, Bool.or_eq_true] at begins ⊢
      refine begins.imp_right fun hpoint => ?_
      cases cs with
      | nil => simp at hpoint
      | cons d cs => exact hpoint

theorem absent_number_iff {c : Char} {rest : List Char} :
    Absent NumberText (c :: rest) ↔ ¬ beginsNumber (c :: rest) = true := by
  constructor
  · intro absent begins
    have longest := longest_number begins
    exact absent _ longest.front longest.fits
  · exact fun none m front hnumber => none (hnumber.begins front)

/-! ## Names -/

theorem continuesName_iff (c : Char) :
    continuesName c = true ↔ isLetter c = true ∨ isDigit c = true := by
  rw [continuesName, Bool.or_eq_true]

/-- A name that begins somewhere is cut to its full length. -/
theorem longest_name {c : Char} {rest : List Char} (hletter : isLetter c = true) :
    Longest NameText (c :: rest.takeWhile continuesName) (c :: rest) where
  front := List.cons_prefix_cons.2 ⟨rfl, List.takeWhile_prefix continuesName⟩
  fits := .letter hletter fun d hd =>
    (continuesName_iff d).1 (List.all_eq_true.1 List.all_takeWhile d hd)
  greatest m' front hname := by
    cases hname with
    | @letter c' cs _ further =>
        obtain ⟨rfl, rest, rfl⟩ := List.cons_prefix_cons.1 front
        have all : ∀ d ∈ cs, continuesName d = true := fun d hd =>
          (continuesName_iff d).2 (further d hd)
        rw [List.takeWhile_append_of_pos all, List.length_cons, List.length_cons, List.length_append]
        omega

/-- A name stands only behind its letter. -/
theorem NameText.begins {c : Char} {m rest : List Char} (h : NameText m) (front : m <+: c :: rest) :
    isLetter c = true := by
  cases h with
  | letter hletter _ =>
      obtain ⟨rfl, _⟩ := List.cons_prefix_cons.1 front
      exact hletter

theorem absent_name_iff {c : Char} {rest : List Char} :
    Absent NameText (c :: rest) ↔ ¬ isLetter c = true := by
  constructor
  · intro absent hletter
    have longest : Longest NameText _ (c :: rest) := longest_name hletter
    exact absent _ longest.front longest.fits
  · exact fun none m front hname => none (hname.begins front)

/-! ## The cut of the lexer -/

/-- The lexer follows the rules. -/
theorem munched_cutToken {c : Char} (hblank : isBlank c = false) (start : Int) (rest : List Char) :
    Munched (c :: rest) (cutToken start c rest).1 := by
  rw [cutToken]
  split
  · rename_i begins
    exact .number hblank (longest_number begins)
  · rename_i hnumber
    have noNumber := absent_number_iff.2 hnumber
    split
    · rename_i hletter
      exact .identifier hblank noNumber (longest_name hletter)
    · rename_i hname
      have noName : Absent NameText (c :: rest) := absent_name_iff.2 hname
      split
      · rename_i kind hkind
        exact .punctuation hblank noNumber noName hkind
      · rename_i hkind
        exact .invalid hblank noNumber noName hkind

/-- The rules leave the lexer no choice. -/
theorem eq_cutToken_of_munched {c : Char} {rest : List Char} {t : Token}
    (h : Munched (c :: rest) t) : t = (cutToken t.start c rest).1 := by
  cases h with
  | number hblank longest =>
      have begins := longest.fits.begins longest.front
      rw [cutToken, if_pos begins, longest.unique (longest_number begins)]
  | identifier hblank noNumber longest =>
      have hletter := longest.fits.begins longest.front
      rw [cutToken, if_neg (absent_number_iff.1 noNumber), if_pos hletter,
        longest.unique (longest_name hletter)]
  | punctuation hblank noNumber noName hkind | invalid hblank noNumber noName hkind =>
      rw [cutToken, if_neg (absent_number_iff.1 noNumber), if_neg (absent_name_iff.1 noName), hkind]

/-- The rules make of a text that does not begin with a blank what the lexer cuts from it. -/
theorem munched_iff {c : Char} {rest : List Char} {t : Token} :
    Munched (c :: rest) t ↔ isBlank c = false ∧ t = (cutToken t.start c rest).1 := by
  constructor
  · intro h
    refine ⟨?_, eq_cutToken_of_munched h⟩
    cases h <;> assumption
  · rintro ⟨hblank, heq⟩
    rw [heq]
    exact munched_cutToken hblank t.start rest

end Token

end Formula
