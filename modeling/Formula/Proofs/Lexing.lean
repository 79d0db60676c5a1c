import Formula.Token.Lexer
set_option autoImplicit false

/-!
# Cutting a text again

A token that the lexer cut from one text is cut from any other text in which it stands in front
of something that cannot be taken for more of it.  What the lexer gives for a text composed of
such tokens is therefore known without running it: `lexed_cuts` takes the tokens off one by
one.  Columns are left out, since they are the only thing about a token that depends on what
stands in front of it.
-/

namespace Formula

namespace Token

open Text

/-- The token as if it was not cut from a text. -/
def unplaced (t : Token) : Token := { t with start := -1 }

@[simp] theorem unplaced_kind (t : Token) : t.unplaced.kind = t.kind := rfl

@[simp] theorem unplaced_lexeme (t : Token) : t.unplaced.lexeme = t.lexeme := rfl

@[simp] theorem unplaced_text (t : Token) : t.unplaced.text = t.text := rfl

theorem kind_of_unplaced {t u : Token} (h : u.unplaced = t.unplaced) : u.kind = t.kind := by
  rw [← unplaced_kind u, h, unplaced_kind]

theorem text_of_unplaced {t u : Token} (h : u.unplaced = t.unplaced) : u.text = t.text := by
  rw [← unplaced_text u, h, unplaced_text]

/-! ## The lexer without columns -/

/-- The tokens of a text, without their columns. -/
def lexed (cs : List Char) : List Token := (scan 0 cs).map unplaced

/-- The column in which a text begins has no other effect on a cut. -/
theorem cutToken_start (start start' : Int) (c : Char) (rest : List Char) :
    (cutToken start c rest).1.unplaced = (cutToken start' c rest).1.unplaced ∧
      (cutToken start c rest).2 = (cutToken start' c rest).2 := by
  unfold cutToken
  split
  · exact ⟨rfl, rfl⟩
  · split
    · exact ⟨rfl, rfl⟩
    · split <;> exact ⟨rfl, rfl⟩

/-- Nor has it on the tokens of the text. -/
theorem scan_unplaced (start : Nat) (cs : List Char) : (scan start cs).map unplaced = lexed cs := by
  unfold lexed
  generalize 0 = start'
  induction hn : cs.length using Nat.strongRecOn generalizing cs start start' with
  | ind n ih =>
      cases cs with
      | nil => rw [scan, scan]
      | cons c rest =>
          rw [scan, scan]
          split
          · exact ih rest.length (by rw [← hn, List.length_cons]; omega) _ rest _ rfl
          · obtain ⟨htoken, hrest⟩ := cutToken_start start start' c rest
            have shorter := length_of_cutToken (start' : Int) c rest
            rw [List.map_cons, List.map_cons, htoken, hrest]
            rw [ih _ (by rw [← hn]; exact shorter) _ _ _ rfl]

@[simp] theorem lexed_nil : lexed [] = [] := by
  rw [lexed, scan, List.map_nil]

theorem lexed_blank {c : Char} (h : isBlank c = true) (rest : List Char) :
    lexed (c :: rest) = lexed rest := by
  rw [lexed, scan, if_pos h]
  exact scan_unplaced _ rest

theorem lexed_cut {c : Char} (h : isBlank c = false) (rest : List Char) :
    lexed (c :: rest) = (cutToken 0 c rest).1.unplaced :: lexed (cutToken 0 c rest).2 := by
  rw [lexed, scan, h, if_neg Bool.false_ne_true]
  dsimp only
  rw [List.map_cons, scan_unplaced]
  rfl

/-! ## Tokens that are cut again -/

/-- Does a token of this kind end in front of the character? -/
def mayFollow (kind : Kind) (c : Char) : Bool :=
  match kind with
  | .number => !isDigit c && c != '.'
  | .identifier => !continuesName c
  | .period => !isDigit c
  | _ => true

/-- Does a token of this kind end in front of the text? -/
def Apart (kind : Kind) (rest : List Char) : Prop := ∀ c ∈ rest.head?, mayFollow kind c = true

/-- The token is cut from its own text, whatever follows as long as the token ends there. -/
def Cuts (t : Token) : Prop :=
  ∃ c cs, t.text.toList = c :: cs ∧ isBlank c = false ∧
    ∀ rest, Apart t.kind rest → cutToken 0 c (cs ++ rest) = ({ t with start := 0 }, rest)

/-- The lexer takes off such a token. -/
theorem lexed_cuts {t : Token} (h : Cuts t) {rest : List Char} (apart : Apart t.kind rest) :
    lexed (t.text.toList ++ rest) = t.unplaced :: lexed rest := by
  obtain ⟨c, cs, htext, hblank, hcut⟩ := h
  rw [htext, List.cons_append, lexed_cut hblank, hcut rest apart]
  rfl

/-- The digits and the point of a number are cut again in front of what ends the number. -/
theorem cutNumber_again (pointSeen : Bool) (cs : List Char) {rest : List Char}
    (apart : Apart .number rest) :
    cutNumber pointSeen ((cutNumber pointSeen cs).1 ++ rest) =
      ((cutNumber pointSeen cs).1, rest) := by
  have stops (pointSeen : Bool) : cutNumber pointSeen rest = ([], rest) := by
    cases rest with
    | nil => rfl
    | cons c rest =>
        have hc := apart c rfl
        simp only [mayFollow, Bool.and_eq_true, Bool.not_eq_true', bne_iff_ne] at hc
        rw [cutNumber, hc.1, if_neg Bool.false_ne_true, if_neg fun h => hc.2 h.1]
  fun_induction cutNumber pointSeen cs with
  | case1 pointSeen => exact stops pointSeen
  | case2 pointSeen c cs hdigit cut ih => rw [List.cons_append, cutNumber, if_pos hdigit, ih]
  | case3 pointSeen c cs hdigit hpoint cut ih =>
      rw [List.cons_append, cutNumber, if_neg hdigit, if_pos hpoint, ih]
  | case4 pointSeen c cs hdigit hpoint => exact stops pointSeen

/-- A number that begins with a point has a digit behind it. -/
theorem beginsNumber_again {c : Char} {cs : List Char} (h : beginsNumber (c :: cs) = true)
    (rest : List Char) :
    beginsNumber (c :: ((cutNumber (c == '.') cs).1 ++ rest)) = true := by
  rw [beginsNumber, Bool.or_eq_true] at h ⊢
  rcases h with hdigit | hpoint
  · exact Or.inl hdigit
  · refine Or.inr ?_
    cases cs with
    | nil => exact absurd hpoint (by simp)
    | cons d cs =>
        simp only [List.head?_cons, Option.map_some, Option.getD_some, Bool.and_eq_true] at hpoint
        rw [cutNumber, if_pos hpoint.2]
        simp [hpoint.1, hpoint.2]

/-- Punctuation characters are neither blanks, digits nor letters. -/
theorem punctuation_plain {c : Char} {kind : Kind} (h : Kind.ofChar? c = some kind) :
    isBlank c = false ∧ isDigit c = false ∧ isLetter c = false := by
  unfold Kind.ofChar? at h
  split at h <;> first | decide +kernel | cases h

theorem begins_false {c : Char} (hdigit : isDigit c = false) (hpoint : c ≠ '.')
    (rest : List Char) : beginsNumber (c :: rest) = false := by
  rw [beginsNumber, hdigit, beq_false_of_ne hpoint]
  rfl

theorem digit_false_of_begins_false {c : Char} {rest : List Char}
    (h : ¬ beginsNumber (c :: rest) = true) : isDigit c = false := by
  cases hdigit : isDigit c with
  | false => rfl
  | true => rw [beginsNumber, hdigit] at h; exact absurd rfl h

theorem cuts_punctuation {c : Char} {kind : Kind} (h : Kind.ofChar? c = some kind) (start : Int) :
    Cuts ⟨kind, none, start⟩ := by
  obtain ⟨hblank, hdigit, hletter⟩ := punctuation_plain h
  refine ⟨c, [], by simp [text, Kind.text_of_ofChar? h], hblank, fun rest apart => ?_⟩
  have begins : beginsNumber (c :: rest) = false := by
    by_cases hpoint : c = '.'
    · subst hpoint
      cases h
      rw [beginsNumber, hdigit]
      cases rest with
      | nil => rfl
      | cons d rest =>
          have hd := apart d rfl
          simp only [mayFollow, Bool.not_eq_true'] at hd
          simp [hd]
    · exact begins_false hdigit hpoint rest
  rw [List.nil_append, cutToken, begins, if_neg Bool.false_ne_true, hletter,
    if_neg Bool.false_ne_true, h]

theorem ne_point_of_isLetter {c : Char} (h : isLetter c = true) : c ≠ '.' := by
  rintro rfl
  rw [(punctuation_plain (c := '.') rfl).2.2] at h
  cases h

/-- The letters and digits of a name are taken again in front of what ends the name. -/
theorem continuesName_again (cs : List Char) {rest : List Char} (apart : Apart .identifier rest) :
    (cs.takeWhile continuesName ++ rest).takeWhile continuesName = cs.takeWhile continuesName ∧
      (cs.takeWhile continuesName ++ rest).dropWhile continuesName = rest := by
  have stops : rest.takeWhile continuesName = [] ∧ rest.dropWhile continuesName = rest := by
    cases rest with
    | nil => exact ⟨rfl, rfl⟩
    | cons c rest =>
        have hc := apart c rfl
        simp only [mayFollow, Bool.not_eq_true'] at hc
        simp [hc]
  have all : ∀ c ∈ cs.takeWhile continuesName, continuesName c = true := fun c hc =>
    List.all_eq_true.1 List.all_takeWhile c hc
  rw [List.takeWhile_append_of_pos all, List.dropWhile_append_of_pos all, stops.1, stops.2]
  exact ⟨List.append_nil _, rfl⟩

/-- Every token that is cut from a text is cut again from another one. -/
theorem cutToken_cuts {c : Char} (hblank : isBlank c = false) (start : Int) (cs : List Char) :
    Cuts (cutToken start c cs).1 := by
  rw [cutToken]
  split
  · rename_i hnumber
    refine ⟨c, (cutNumber (c == '.') cs).1, by simp [text], hblank, fun rest apart => ?_⟩
    rw [cutToken, if_pos (beginsNumber_again hnumber rest)]
    simp only [cutNumber_again (c == '.') cs apart]
  · rename_i hnumber
    have hdigit := digit_false_of_begins_false hnumber
    split
    · rename_i hletter
      refine ⟨c, cs.takeWhile continuesName, by simp [text], hblank, fun rest apart => ?_⟩
      obtain ⟨htake, hdrop⟩ := continuesName_again cs apart
      rw [cutToken, begins_false hdigit (ne_point_of_isLetter hletter), if_neg Bool.false_ne_true,
        if_pos hletter]
      simp only [htake, hdrop]
    · split
      · rename_i kind hkind
        exact cuts_punctuation hkind start
      · rename_i hletter _ hkind
        refine ⟨c, [], by simp [text], hblank, fun rest apart => ?_⟩
        have hpoint : c ≠ '.' := by
          rintro rfl
          cases hkind
        rw [List.nil_append, cutToken, begins_false hdigit hpoint, if_neg Bool.false_ne_true,
          if_neg hletter, hkind]

/-! ## All tokens of a text -/

/-- What holds of every token that can be cut holds of all tokens of a text. -/
theorem forall_mem_scan {P : Token → Prop}
    (cut : ∀ (start : Int) c rest, isBlank c = false → P (cutToken start c rest).1) {start : Nat}
    {cs : List Char} : ∀ t ∈ scan start cs, P t := by
  intro t h
  fun_induction scan start cs with
  | case1 => cases h
  | case2 start c rest hblank ih => exact ih h
  | case3 start c rest hblank _ ih =>
      rcases List.mem_cons.1 h with rfl | hrest
      · exact cut start c rest (Bool.not_eq_true _ ▸ hblank)
      · exact ih hrest

theorem cuts_of_mem_scan {start : Nat} {cs : List Char} {t : Token} (h : t ∈ scan start cs) :
    Cuts t :=
  forall_mem_scan (fun start _ rest hblank => cutToken_cuts hblank start rest) t h

/-- How the tokens of a text are spelled. -/
inductive Spelled : Token → Prop where
  | number {cs : List Char} {start : Int} (h : ∀ d ∈ cs, isDigit d = true ∨ d = '.') :
      Spelled ⟨.number, some (String.ofList cs), start⟩
  | identifier {c : Char} {cs : List Char} {start : Int} (hletter : isLetter c = true)
      (hdigit : isDigit c = false) (h : ∀ d ∈ cs, continuesName d = true) :
      Spelled ⟨.identifier, some (String.ofList (c :: cs)), start⟩
  | punctuation {c : Char} {kind : Kind} {start : Int} (h : Kind.ofChar? c = some kind) :
      Spelled ⟨kind, none, start⟩
  | invalid {c : Char} {start : Int} : Spelled ⟨.invalid, some (String.singleton c), start⟩

/-- No text has a negation sign. -/
theorem kind_ne_negate {t : Token} (h : Spelled t) : t.kind ≠ .negate := by
  intro hkind
  cases h with
  | @punctuation c kind start hsign =>
      cases hkind
      unfold Kind.ofChar? at hsign
      split at hsign <;> cases hsign
  | number _ => cases hkind
  | identifier _ _ _ => cases hkind
  | invalid => cases hkind

theorem digit_or_point_of_cutNumber {pointSeen : Bool} {cs : List Char} :
    ∀ d ∈ (cutNumber pointSeen cs).1, isDigit d = true ∨ d = '.' := by
  fun_induction cutNumber pointSeen cs with
  | case1 => exact fun d hd => by cases hd
  | case2 pointSeen c rest hdigit cut ih =>
      intro d hd
      rcases List.mem_cons.1 hd with rfl | hd
      · exact Or.inl hdigit
      · exact ih d hd
  | case3 pointSeen c rest _ hpoint cut ih =>
      intro d hd
      rcases List.mem_cons.1 hd with rfl | hd
      · exact Or.inr hpoint.1
      · exact ih d hd
  | case4 => exact fun d hd => by cases hd

theorem cutToken_spelled (start : Int) (c : Char) (rest : List Char) :
    Spelled (cutToken start c rest).1 := by
  rw [cutToken]
  split
  · rename_i hnumber
    refine .number fun d hd => ?_
    rcases List.mem_cons.1 hd with rfl | hd
    · rw [beginsNumber, Bool.or_eq_true, Bool.and_eq_true, beq_iff_eq] at hnumber
      exact hnumber.imp id And.left
    · exact digit_or_point_of_cutNumber d hd
  · rename_i hnumber
    split
    · rename_i hletter
      refine .identifier hletter (digit_false_of_begins_false hnumber) fun d hd => ?_
      exact List.all_eq_true.1 List.all_takeWhile d hd
    · split
      · rename_i kind hkind
        exact .punctuation hkind
      · exact .invalid

theorem start_cutToken (start : Int) (c : Char) (rest : List Char) :
    (cutToken start c rest).1.start = start := by
  unfold cutToken
  split
  · rfl
  · split
    · rfl
    · split <;> rfl

/-- Every token of a text stands in it with all its characters. -/
theorem place_of_mem_scan {start : Nat} {cs : List Char} {t : Token} (h : t ∈ scan start cs) :
    start ≤ t.start ∧ t.start + t.text.length ≤ start + cs.length := by
  fun_induction scan start cs with
  | case1 => cases h
  | case2 start c rest hblank ih =>
      have place := ih h
      rw [List.length_cons]
      omega
  | case3 start c rest hblank cut ih =>
      have whole := congrArg List.length (cutToken_append start c rest)
      rw [List.length_append, String.length_toList] at whole
      rcases List.mem_cons.1 h with rfl | hrest
      · dsimp only [cut]
        rw [start_cutToken]
        omega
      · have place := ih hrest
        simp only [cut] at place
        omega

theorem spelled_of_mem_scan {start : Nat} {cs : List Char} {t : Token} (h : t ∈ scan start cs) :
    Spelled t :=
  forall_mem_scan (fun start c rest _ => cutToken_spelled start c rest) t h

end Token

end Formula
