import Formula.Definition
import Formula.Proofs.Characters
import Formula.Proofs.Completeness
import Formula.Proofs.Regrouping
import Formula.Proofs.Runs
import Formula.Proofs.Soundness
import Mathlib.Data.List.TakeWhile
set_option autoImplicit false

/-!
# Names that can be defined and names that can be used

Definitions and expressions recognise names apart from each other.  Every name that an
expression uses can be defined.  The converse fails for names with a numeral that is neither a
letter nor a digit: `a½` can be defined, but no expression can use it.
-/

namespace Formula

open Text Token Grammar

namespace Definition

/-! ## Splitting at periods -/

theorem splitAt_self {part : List Char} (h : '.' ∉ part) : splitAt '.' part = [part] := by
  induction part with
  | nil => rfl
  | cons c rest ih =>
      rw [List.mem_cons, not_or] at h
      rw [splitAt, if_neg (Ne.symm h.1), ih h.2]

theorem splitAt_append {part : List Char} (h : '.' ∉ part) (rest : List Char) :
    splitAt '.' (part ++ '.' :: rest) = part :: splitAt '.' rest := by
  induction part with
  | nil => rw [List.nil_append, splitAt, if_pos rfl]
  | cons c part ih =>
      rw [List.mem_cons, not_or] at h
      rw [List.cons_append, splitAt, if_neg (Ne.symm h.1), ih h.2]

/-- A name is one part without a period, or a part, a period and another name. -/
theorem isName_cases {name : List Char} (h : isName name = true) :
    ('.' ∉ name ∧ isMember name = true) ∨
      ∃ part rest, name = part ++ '.' :: rest ∧ '.' ∉ part ∧ isMember part = true ∧
        isName rest = true := by
  by_cases hperiod : '.' ∈ name
  · obtain ⟨part, rest, rfl, hpart⟩ := List.eq_append_cons_of_mem hperiod
    rw [isName, splitAt_append hpart, List.all_cons, Bool.and_eq_true] at h
    exact Or.inr ⟨part, rest, rfl, hpart, h⟩
  · rw [isName, splitAt_self hperiod, List.all_cons, Bool.and_eq_true] at h
    exact Or.inl ⟨hperiod, h.1⟩

theorem isName_part {part : List Char} (hperiod : '.' ∉ part) (h : isMember part = true) :
    isName part = true := by
  rw [isName, splitAt_self hperiod, List.all_cons, h]
  rfl

theorem isName_append {part rest : List Char} (hperiod : '.' ∉ part) (h : isMember part = true)
    (hrest : isName rest = true) : isName (part ++ '.' :: rest) = true := by
  rw [isName, splitAt_append hperiod, List.all_cons, h]
  exact hrest

/-! ## Reading a definition -/

theorem cutAtEquals_append {name : List Char} (h : '=' ∉ name) (rest : List Char) :
    cutAtEquals (name ++ '=' :: rest) = (name, some rest) := by
  induction name with
  | nil => rw [List.nil_append, cutAtEquals, if_pos rfl]
  | cons c name ih =>
      rw [List.mem_cons, not_or] at h
      rw [List.cons_append, cutAtEquals, if_neg (Ne.symm h.1), ih h.2]

theorem dropWhile_eq_self {p : Char → Bool} {cs : List Char} (h : ∀ c ∈ cs, p c = false) :
    cs.dropWhile p = cs := by
  cases cs with
  | nil => rfl
  | cons c rest => rw [List.dropWhile_cons, h c List.mem_cons_self, if_neg Bool.false_ne_true]

theorem trimBlank_eq_self {cs : List Char} (h : ∀ c ∈ cs, isBlank c = false) :
    trimBlank cs = cs := by
  have backwards : ∀ c ∈ cs.reverse, isBlank c = false := fun c hc => h c (List.mem_reverse.1 hc)
  rw [trimBlank, dropWhile_eq_self h, dropWhile_eq_self backwards, List.reverse_reverse]

/-- What an accepted definition says of its name. -/
theorem isName_of_ofText {text : String} {d : Definition} (h : ofText text = .ok d) :
    isName d.name.toList = true := by
  unfold ofText at h
  dsimp only at h
  split at h
  · cases h
  · split at h
    · rename_i hname
      split at h
      · cases h
        rw [String.toList_ofList]
        exact hname
      · cases h
    · cases h

end Definition

/-! ## Characters of names -/

/-- Is every character a period, a letter or a digit? -/
def Plain (cs : List Char) : Prop := ∀ c ∈ cs, c ≠ '.' → continuesName c = true

instance (cs : List Char) : Decidable (Plain cs) :=
  List.decidableBAll (fun c => c ≠ '.' → continuesName c = true) cs

theorem isBlank_false_of_plain {cs : List Char} (h : Plain cs) : ∀ c ∈ cs, isBlank c = false := by
  intro c hc
  by_cases hperiod : c = '.'
  · rw [hperiod]
    exact (punctuation_plain (c := '.') rfl).1
  · have := h c hc hperiod
    rw [continuesName, Bool.or_eq_true] at this
    exact this.elim isBlank_false_of_isLetter isBlank_false_of_isDigit

theorem equals_not_mem_of_plain {cs : List Char} (h : Plain cs) : '=' ∉ cs := by
  intro hmem
  have := h '=' hmem (by decide)
  revert this
  decide +kernel

theorem period_not_mem {c : Char} {cs : List Char} (hletter : isLetter c = true)
    (h : ∀ d ∈ cs, continuesName d = true) : '.' ∉ c :: cs := by
  intro hmem
  obtain ⟨_, hdigit, hnoletter⟩ := punctuation_plain (c := '.') rfl
  rcases List.mem_cons.1 hmem with hc | hc
  · rw [← hc, hnoletter] at hletter
    cases hletter
  · have := h '.' hc
    rw [continuesName, hnoletter, hdigit] at this
    cases this

/-- The text of a name from an expression is one that can be defined, of plain characters. -/
theorem isName_text {name : Name} (h : name.WellMade Legible) :
    Definition.isName name.text.toList = true ∧ Plain name.text.toList := by
  obtain ⟨first, others⟩ := name
  have member {t : Token} (ht : t.kind = .identifier ∧ t.Legible) :
      '.' ∉ t.text.toList ∧ Definition.isMember t.text.toList = true ∧ Plain t.text.toList := by
    obtain ⟨c, cs, htext, hletter, _, hothers⟩ := ht.2.identifier ht.1
    rw [htext]
    refine ⟨period_not_mem hletter hothers, ?_, fun d hd _ => ?_⟩
    · rw [Definition.isMember, hletter, Bool.true_and, List.all_eq_true]
      intro d hd
      have := hothers d hd
      rw [continuesName] at this
      rw [isLetterOrNumeral, this, Bool.true_or]
    · rcases List.mem_cons.1 hd with rfl | hd
      · rw [continuesName, hletter, Bool.true_or]
      · exact hothers d hd
  induction others generalizing first with
  | nil =>
      obtain ⟨hperiod, hmember, hplain⟩ := member (h first (by simp [Name.members]))
      rw [Name.text_single]
      exact ⟨Definition.isName_part hperiod hmember, hplain⟩
  | cons second others ih =>
      obtain ⟨hperiod, hmember, hplain⟩ := member (h first (by simp [Name.members]))
      obtain ⟨hrest, hplainRest⟩ := ih second fun t ht => h t (List.mem_cons_of_mem _ ht)
      rw [Name.text_cons, String.toList_append, String.toList_append, List.append_assoc]
      refine ⟨Definition.isName_append hperiod hmember hrest, fun c hc hne => ?_⟩
      rcases List.mem_append.1 hc with hc | hc
      · exact hplain c hc hne
      · rcases List.mem_append.1 hc with hc | hc
        · exact absurd (List.mem_singleton.1 hc) hne
        · exact hplainRest c hc hne

/-! ## From a definable name to an expression -/

/-- A letter, and letters and digits behind it, are an identifier of any text. -/
theorem legible_identifier {c : Char} {cs : List Char} (hletter : isLetter c = true)
    (h : ∀ d ∈ cs, continuesName d = true) :
    Token.Legible { kind := .identifier, lexeme := some (String.ofList (c :: cs)) } := by
  have hdigit := isDigit_false_of_isLetter hletter
  have hcuts := cutToken_cuts (isBlank_false_of_isLetter hletter) (-1) cs
  have hcut : (cutToken (-1) c cs).1 =
      { kind := .identifier, lexeme := some (String.ofList (c :: cs)) } := by
    rw [cutToken, begins_false hdigit (ne_point_of_isLetter hletter), if_neg Bool.false_ne_true,
      if_pos hletter, List.takeWhile_eq_self_iff.2 h]
  rw [hcut] at hcuts
  exact Or.inl ⟨hcuts, .identifier hletter hdigit h⟩

/-- The identifier of a member of plain characters. -/
theorem exists_member {part : List Char} (h : Definition.isMember part = true)
    (hperiod : '.' ∉ part) (plain : Plain part) :
    ∃ t : Token, (t.kind = .identifier ∧ t.Legible) ∧ t.text = String.ofList part := by
  cases part with
  | nil => cases h
  | cons c cs =>
      rw [Definition.isMember, Bool.and_eq_true] at h
      refine ⟨_, ⟨rfl, legible_identifier h.1 fun d hd => ?_⟩, rfl⟩
      refine plain d (List.mem_cons_of_mem c hd) ?_
      rintro rfl
      exact hperiod (List.mem_cons_of_mem c hd)

/-- A definable name of plain characters is the text of a name in an expression. -/
theorem exists_name {cs : List Char} (h : Definition.isName cs = true) (plain : Plain cs) :
    ∃ name : Name, name.WellMade Legible ∧ name.text = String.ofList cs := by
  induction hn : cs.length using Nat.strongRecOn generalizing cs with
  | ind n ih =>
      rcases Definition.isName_cases h with ⟨hperiod, hmember⟩ |
        ⟨part, rest, rfl, hperiod, hmember, hrest⟩
      · obtain ⟨t, ht, htext⟩ := exists_member hmember hperiod plain
        refine ⟨⟨t, []⟩, ?_, by rw [Name.text_single, htext]⟩
        intro member hmem
        rw [List.mem_singleton.1 hmem]
        exact ht
      · have plainPart : Plain part := fun c hc => plain c (List.mem_append_left _ hc)
        have plainRest : Plain rest := fun c hc =>
          plain c (List.mem_append_right _ (List.mem_cons_of_mem _ hc))
        obtain ⟨t, ht, htext⟩ := exists_member hmember hperiod plainPart
        rw [List.length_append, List.length_cons] at hn
        obtain ⟨⟨first, others⟩, hwell, hrestText⟩ := ih rest.length (by omega) hrest plainRest rfl
        refine ⟨⟨t, first :: others⟩, ?_, ?_⟩
        · intro member hmem
          rcases List.mem_cons.1 hmem with rfl | hmem
          · exact ht
          · exact hwell member hmem
        · rw [Name.text_cons, htext, hrestText, ← String.toList_inj]
          simp

/-! ## Expressions that are a name -/

namespace Reader

/-- A name is read as an expression, which takes a frame, and so do the factor and the primary. -/
theorem whole_identifier {ts : List Token} {name : Name} (h : Identifier ts name) {frames : Nat}
    (enough : 2 < frames) : whole frames ts = .ok (.identifier name) [] := by
  obtain ⟨frames, rfl⟩ := Nat.exists_eq_add_of_le' enough
  have hname : identifier (ts ++ []) = .ok name [] := identifier_complete h fun t ht => nomatch ht
  rw [List.append_nil] at hname
  have hprimary : primary (frames + 1) ts = .ok (.identifier name) [] := by
    obtain ⟨hfirst, further⟩ := h
    rw [primary_succ, primaryWith_identifier _ hfirst, hname]
    rfl
  have hexpression : expression (frames + 3) ts = .ok (.identifier name) [] := by
    have hfactor : factors (frames + 3) 1 ts = .ok (.identifier name) [] := by
      rw [factors, factor, factorWith_eq]
      exact congrArg (Reply.andThen · closeFactor) hprimary
    rw [expression_eq, chain, hfactor]
    exact climbAll_nil 2 _ 1
  rw [whole, hexpression]

end Reader

/-- A definable name of plain characters is read as that name. -/
theorem ofSource_name {name : String} (h : Definition.isName name.toList = true)
    (plain : Plain name.toList) (style : Style) :
    ∃ n : Name, Expr.ofSource style name = .ok (.identifier n) ∧ n.text = name := by
  obtain ⟨n, hwell, htext⟩ := exists_name h plain
  rw [String.ofList_toList] at htext
  have hlexed : (Token.ofText name).map unplaced = n.spelling := by
    have := lexed_name hwell quiet_nil
    rw [htext, List.append_nil, lexed_nil, List.append_nil] at this
    rw [Token.ofText, scan_unplaced, this]
  obtain ⟨n', hidentifier, hunplaced⟩ := identifier_spelling hwell hlexed
  refine ⟨n', ?_, (text_of_name_unplaced hunplaced).trans htext⟩
  rw [Expr.ofSource, Expr.ofTokens, Reader.whole_identifier hidentifier (by decide)]

/-! ## Running a name -/

theorem visit_identifier (table : SymbolTable) (name : Name) :
    (Expr.identifier name).evaluate table = Expr.constantValue table name.text := by
  have enough : Calculator.depthLimit = 494 + 1 := rfl
  unfold Expr.evaluate Calculator.accept
  rw [enough, Calculator.visit]
  cases Expr.constantValue table name.text <;> rfl

/-- A name that is bound to a constant and read as itself runs to its value. -/
theorem run_name {style : Style} {table : SymbolTable} {name : String} {n : Name} {x : Double}
    (hread : Expr.ofSource style name = .ok (.identifier n)) (htext : n.text = name)
    (hbound : table.get? name = some (.constant x)) (r : Reporter) :
    (Session.run style table r name).result = .ok ⟨name, x⟩ := by
  have hvalue : (Expr.identifier n).evaluate table = .ok x := by
    rw [visit_identifier, Expr.constantValue, SymbolTable.lookup, htext, hbound]
  have shallow : (Expr.identifier n).depth ≤ Printer.depthLimit := by
    rw [Expr.depth]
    decide
  rw [Session.run_of_value hread hvalue, Session.answer_eq, if_pos shallow, Expr.render, htext]

/-- A source that is an expression is read as a legible tree. -/
theorem Expr.wellMade_ofSource {style : Style} {source : String} {e : Expr}
    (h : Expr.ofSource style source = .ok e) : e.WellMade Legible := by
  unfold Expr.ofSource at h
  split at h
  · rename_i hread
    cases h
    exact wellMade_of_ofText (Reader.whole_sound hread).2
  · cases h

/-- Every name in an expression that was read from a source is well made. -/
theorem wellMade_name {style : Style} {source : String} {e : Expr}
    (hread : Expr.ofSource style source = .ok e) {n : Name}
    (h : .identifier n ∈ e.subexpressions ∨ ∃ arguments, .call n arguments ∈ e.subexpressions) :
    n.WellMade Legible := by
  have legible := Expr.wellMade_ofSource hread
  rcases h with h | ⟨arguments, h⟩
  · exact legible.subexpression h
  · exact (legible.subexpression h).1

/-- The text of a well made name is accepted as the name of a definition. -/
theorem ofText_name {n : Name} (h : n.WellMade Legible) :
    (Definition.ofText (n.text ++ "=1")).map Definition.name = .ok n.text := by
  obtain ⟨hname, plain⟩ := isName_text h
  have hcut : Definition.cutAtEquals (n.text ++ "=1").toList = (n.text.toList, some ['1']) := by
    rw [String.toList_append]
    exact Definition.cutAtEquals_append (equals_not_mem_of_plain plain) ['1']
  have htrim := Definition.trimBlank_eq_self (isBlank_false_of_plain plain)
  obtain ⟨one, hone⟩ : ∃ one, Double.ofLiteral? (String.ofList ['1']) = some one :=
    Option.isSome_iff_exists.1 (by decide +kernel)
  unfold Definition.ofText
  rw [hcut]
  dsimp only
  rw [htrim, hname, if_pos rfl, hone]
  dsimp only [Except.map]
  rw [String.ofList_toList]

/-- **Names that can be defined and names that can be used.**  The name of an accepted definition
is read as that name if and only if its characters are periods, letters and digits; once it is
defined, running it gives its value.  And every name in an expression, of a value or of a called
function, can be defined. -/
theorem definable_iff_usable (style : Style) :
    (∀ text d, Definition.ofText text = .ok d →
      ((∃ n : Name, Expr.ofSource style d.name = .ok (.identifier n) ∧ n.text = d.name) ↔
        Plain d.name.toList) ∧
      (Plain d.name.toList → ∀ (table extended : SymbolTable) (r : Reporter),
        table.define d.name (.constant d.value) = .ok extended →
          (Session.run style extended r d.name).result = .ok ⟨d.name, d.value⟩)) ∧
      ∀ (source : String) (e : Expr) (n : Name), Expr.ofSource style source = .ok e →
        (.identifier n ∈ e.subexpressions ∨ ∃ arguments, .call n arguments ∈ e.subexpressions) →
          (Definition.ofText (n.text ++ "=1")).map Definition.name = .ok n.text := by
  refine ⟨fun text d hd => ⟨⟨?_, fun plain => ?_⟩, ?_⟩, fun source e n hread hn => ?_⟩
  · rintro ⟨n, hread, htext⟩
    rw [← htext]
    exact (isName_text (wellMade_name hread (Or.inl (by simp [Expr.subexpressions])))).2
  · exact ofSource_name (Definition.isName_of_ofText hd) plain style
  · intro plain table extended r hdefine
    obtain ⟨n, hread, htext⟩ := ofSource_name (Definition.isName_of_ofText hd) plain style
    exact run_name hread htext (SymbolTable.get?_define_self hdefine) r
  · exact ofText_name (wellMade_name hread hn)

/-- `unit.km` can be defined and used, and then stands for its value. -/
theorem definable_usable :
    ∃ d extended, Definition.ofText " unit.km = 1e3" = .ok d ∧ d.name = "unit.km" ∧
      SymbolTable.define {} d.name (.constant d.value) = .ok extended ∧
      (∃ n : Name, Expr.ofSource .plain d.name = .ok (.identifier n) ∧ n.text = d.name ∧
        (Definition.ofText (n.text ++ "=1")).map Definition.name = .ok n.text) ∧
      (Session.run .plain extended {} d.name).result = .ok ⟨d.name, d.value⟩ := by
  obtain ⟨d, hd, hname⟩ : ∃ d, Definition.ofText " unit.km = 1e3" = .ok d ∧ d.name = "unit.km" :=
    ⟨⟨"unit.km", Double.ofDyadic false 1000 0⟩, by decide +kernel, rfl⟩
  have plain : Plain d.name.toList := by
    rw [hname]
    decide +kernel
  obtain ⟨extended, hdefine⟩ :
      ∃ extended, SymbolTable.define {} d.name (.constant d.value) = .ok extended := by
    rw [hname]
    exact ⟨_, rfl⟩
  obtain ⟨definable, usable⟩ := definable_iff_usable .plain
  obtain ⟨hread, hrun⟩ := definable _ d hd
  obtain ⟨n, hsource, htext⟩ := hread.2 plain
  have hself : Expr.identifier n ∈ (Expr.identifier n).subexpressions := by
    simp [Expr.subexpressions]
  exact ⟨d, extended, hd, hname, hdefine, ⟨n, hsource, htext, usable _ _ n hsource (.inl hself)⟩,
    hrun plain _ extended {} hdefine⟩

/-- `a½` can be defined, but it is not read as a name. -/
theorem definable_not_usable :
    (Definition.ofText "a½=1").map Definition.name = .ok "a½" ∧
      ∀ (style : Style) (n : Name), Expr.ofSource style "a½" ≠ .ok (.identifier n) := by
  refine ⟨by decide +kernel, fun style n hread => ?_⟩
  have refused : Expr.ofTokens (Token.ofText "a½") =
      .fail (.unexpected ⟨.invalid, some "½", 1⟩) [⟨.invalid, some "½", 1⟩] := by
    decide +kernel
  rw [Expr.ofSource, refused] at hread
  cases hread

end Formula
