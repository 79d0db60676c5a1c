import Formula.Definition
set_option autoImplicit false

/-!
# Wordings and templates

A message of fixed wording is what its template is filled to.  A template with one field gives
the text before the field, the argument, and the text behind the field; the argument is not read
again, so braces in it stand for themselves.
-/

namespace Formula

namespace Text.Template

/-! ## Templates with one field -/

/-- No brace among the characters. -/
def Plain (cs : List Char) : Prop := ∀ c ∈ cs, c ≠ '\x7b' ∧ c ≠ '\x7d'

instance (cs : List Char) : Decidable (Plain cs) :=
  List.decidableBAll (fun c => c ≠ '\x7b' ∧ c ≠ '\x7d') cs

theorem Plain.append {cs ds : List Char} (h : Plain cs) (h' : Plain ds) : Plain (cs ++ ds) :=
  List.forall_mem_append.2 ⟨h, h'⟩

theorem readFrom_plain {before : List Char} (h : Plain before) (rest : List Char) :
    readFrom .text (before ++ rest)
      = ⟨before.map Piece.char ++ (readFrom .text rest).pieces, (readFrom .text rest).flaw⟩ := by
  induction before with
  | nil => rfl
  | cons c before ih =>
      have hc := h c List.mem_cons_self
      have hread : readFrom .text (c :: (before ++ rest))
          = cons (.char c) (readFrom .text (before ++ rest)) := by
        rw [readFrom]
        · exact fun heq => hc.1 heq
        · exact fun heq => hc.2 heq
      rw [List.cons_append, hread, ih fun d hd => h d (List.mem_cons_of_mem c hd)]
      rfl

theorem fillPieces_chars (args : List String) (depth : Nat) (numbering : Numbering)
    (before : List Char) (rest : List Piece) (flaw : Option Flaw) :
    fillPieces args depth numbering (before.map Piece.char ++ rest) flaw
      = match fillPieces args depth numbering rest flaw with
        | .error flaw => .error flaw
        | .ok (text, numbering) => .ok (before ++ text, numbering) := by
  induction before with
  | nil =>
      rw [List.map_nil, List.nil_append]
      split
      · rename_i h
        exact h
      · rename_i h
        exact h
  | cons c before ih =>
      rw [List.map_cons, List.cons_append, fillPieces, ih]
      cases fillPieces args depth numbering rest flaw <;> rfl

theorem fillPieces_text {args : List String} {depth : Nat} {numbering : Numbering}
    (after : List Char) :
    fillPieces args depth numbering (after.map Piece.char) none = .ok (after, numbering) := by
  rw [← List.append_nil (after.map Piece.char), fillPieces_chars, fillPieces]
  simp

theorem fillPieces_field {args : List String} {depth : Nat} {numbering next : Numbering}
    {name : List Char} {text : String}
    (hargument : argument args numbering name = .ok (.ofString text, next)) (after : List Char) :
    fillPieces args depth numbering (.field { name } :: after.map Piece.char) none
      = .ok (text.toList ++ after, next) := by
  rw [fillPieces, hargument]
  dsimp only [convert]
  rw [if_neg (by decide)]
  dsimp only [Layout.apply]
  rw [if_pos (by decide), fillPieces_text]
  rfl

/-- A template with one field is filled to the argument of the field between the two texts. -/
theorem fill_field {template : String} {before after : List Char} (name : List Char)
    {args : List String} {text : String} {next : Numbering}
    (htemplate : template.toList = before ++ '\x7b' :: (name ++ '\x7d' :: after))
    (hbefore : Plain before) (hafter : Plain after)
    (hname : ∀ rest, readFrom .text ('\x7b' :: (name ++ '\x7d' :: rest))
      = cons (.field { name }) (readFrom .text rest))
    (hargument : argument args .unused name = .ok (.ofString text, next)) :
    fill template args = .ok (String.ofList before ++ text ++ String.ofList after) := by
  have hrest : readFrom .text after = ⟨after.map Piece.char, none⟩ := by
    simpa [readFrom, Place.ending] using readFrom_plain hafter []
  have hread : read template.toList
      = ⟨before.map Piece.char ++ .field { name } :: after.map Piece.char, none⟩ := by
    rw [htemplate, read, readFrom_plain hbefore, hname, hrest]
    rfl
  rw [fill, hread]
  dsimp only
  rw [fillPieces_chars, fillPieces_field hargument]
  simp [String.ofList_append, String.append_assoc]

/-- A template without braces is filled to itself. -/
theorem fill_plain {template : String} (h : Plain template.toList) (args : List String) :
    fill template args = .ok template := by
  have hread := readFrom_plain h []
  rw [List.append_nil] at hread
  rw [fill, read, hread]
  dsimp only
  rw [fillPieces_chars]
  simp [readFrom, Place.ending, fillPieces]

/-- The field of the argument that comes next. -/
theorem fill_next {template : String} {before after : List Char} (first : String)
    (others : List String)
    (htemplate : template.toList = before ++ '\x7b' :: '\x7d' :: after)
    (hbefore : Plain before) (hafter : Plain after) :
    fill template (first :: others) = .ok (String.ofList before ++ first ++ String.ofList after) :=
  fill_field [] htemplate hbefore hafter (fun _ => rfl) rfl

/-- The field of the argument at position one. -/
theorem fill_second {template : String} {before after : List Char} (first second : String)
    (htemplate : template.toList = before ++ '\x7b' :: '1' :: '\x7d' :: after)
    (hbefore : Plain before) (hafter : Plain after) :
    fill template [first, second] = .ok (String.ofList before ++ second ++ String.ofList after) :=
  fill_field ['1'] htemplate hbefore hafter (fun _ => rfl) rfl

end Text.Template

/-! ## Problems -/

namespace Problem

open Text (Style)
open Text.Template (Plain fill_next fill_second fill_plain)

/-- The problem is what the template makes of the snippets, but for its cause. -/
def Fills (style : Style) (template : String) (snippets : List String) (p : Problem) : Prop :=
  ofTemplate style template snippets p.start p.stop p.diagnosis p.isInternal
    = .ok (p.withCause .general)

section Fields

variable {template before after : String}

theorem about_fills (htemplate : template.toList
      = before.toList ++ '\x7b' :: '\x7d' :: after.toList)
    (hbefore : Plain before.toList) (hafter : Plain after.toList) (style : Style) (cause : Cause)
    (detail : String) :
    (about cause (before ++ style.bold detail ++ after) detail).Fills style template [detail] := by
  have hstop : ¬ ((detail.length : Int) = -1) := by omega
  rw [Fills, ofTemplate, List.map_cons, fill_next _ _ htemplate hbefore hafter]
  simp [about, withCause, stopOr, hstop]

/-- So is a message that ends with what it names. -/
theorem about_fills_last (htemplate : template.toList = before.toList ++ ['\x7b', '\x7d'])
    (hbefore : Plain before.toList) (style : Style) (cause : Cause) (detail : String) :
    (about cause (before ++ style.bold detail) detail).Fills style template [detail] := by
  have h := @about_fills template before "" htemplate hbefore (by decide) style cause detail
  rwa [String.append_empty] at h

theorem stopOr_stopOr (snippet : String) (stop : Int) :
    stopOr snippet (stopOr snippet stop) = stopOr snippet stop := by
  unfold stopOr
  split
  · split <;> rfl
  · rfl

theorem inSource_fills (htemplate : template.toList
      = before.toList ++ '\x7b' :: '1' :: '\x7d' :: after.toList)
    (hbefore : Plain before.toList) (hafter : Plain after.toList) (style : Style) (cause : Cause)
    (what source : String) (start length : Int) :
    (inSource cause (before ++ style.bold what ++ after) source start length).Fills style template
      [source, what] := by
  rw [Fills, ofTemplate, List.map_cons, List.map_cons, List.map_nil,
    fill_second _ _ htemplate hbefore hafter]
  simp [inSource, withCause, stopOr_stopOr]

end Fields

theorem plain_fills {message : String} (h : Plain message.toList) (style : Style) :
    (plain message).Fills style message [""] := by
  rw [Fills, ofTemplate, fill_plain h]
  rfl

variable (style : Style)

theorem expected_fills (what source : String) (start length : Int) :
    (expected style what source start length).Fills style "expected '\x7b1\x7d'" [source, what] :=
  inSource_fills (by decide) (by decide) (by decide) style _ what source start length

theorem unexpected_fills (what source : String) (start length : Int) :
    (unexpected style what source start length).Fills style "unexpected '\x7b1\x7d'"
      [source, what] :=
  inSource_fills (by decide) (by decide) (by decide) style _ what source start length

theorem nestedTooDeeply_fills (what source : String) (start : Int) :
    (nestedTooDeeply style what source start).Fills style
      "expression nested too deeply at '\x7b1\x7d'" [source, what] :=
  inSource_fills (by decide) (by decide) (by decide) style _ what source start 1

theorem symbolRedeclared_fills (name : String) :
    (symbolRedeclared style name).Fills style "redeclaration of symbol '\x7b\x7d'" [name] :=
  about_fills (by decide) (by decide) (by decide) style _ name

theorem undefined_fills (what : String) (missing : Option String) :
    (undefined style what missing).Fills style "undefined \x7b\x7d" [what] :=
  about_fills_last (by decide) (by decide) style _ what

theorem argumentCount_fills (detail : String) :
    (argumentCount style detail).Fills style "invalid argument count: \x7b\x7d" [detail] :=
  about_fills_last (by decide) (by decide) style _ detail

theorem logic_fills (detail : String) :
    (logic style detail).Fills style "logic error: \x7b\x7d" [detail] :=
  about_fills_last (by decide) (by decide) style _ detail

theorem noName_fills (text : String) :
    (DefinitionError.problem style (.noName text)).Fills style
      "'\x7b\x7d' is not a valid definition, expected NAME=VALUE" [text] :=
  @about_fills _ "'" "' is not a valid definition, expected NAME=VALUE" (by decide) (by decide)
    (by decide) style .general text

theorem noValue_fills (text : String) :
    (DefinitionError.problem style (.noValue text)).Fills style
      "'\x7b\x7d' does not define a number" [text] :=
  @about_fills _ "'" "' does not define a number" (by decide) (by decide) (by decide) style
    .general text

/-- The templates of the errors that a run can end with. -/
def templates : List String := [
  "'\x7b\x7d' is not a valid definition, expected NAME=VALUE",
  "'\x7b\x7d' does not define a number",
  "redeclaration of symbol '\x7b\x7d'",
  "expected '\x7b1\x7d'",
  "unexpected '\x7b1\x7d'",
  "expression nested too deeply at '\x7b1\x7d'",
  "undefined \x7b\x7d",
  "invalid argument count: \x7b\x7d",
  "logic error: \x7b\x7d",
  "expression nested too deeply, maximum recursion depth exceeded"]

/-- The message of the problem is one of these templates, filled. -/
def Worded (style : Style) (p : Problem) : Prop :=
  ∃ template ∈ templates, ∃ snippets, p.Fills style template snippets

end Problem

end Formula
