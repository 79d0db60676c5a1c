import Formula.Token.Basic
import Formula.Text.Blank
import Formula.Text.Numeral
set_option autoImplicit false

/-!
# From text to tokens

Blank characters are skipped.  At any other character the first rule that applies cuts a
token:

* a number is a run of digits with at most one point in it, and begins with a digit or
  with a point before a digit;
* an identifier is a letter and the letters and digits after it;
* a punctuation character is a token by itself;
* any other character is an invalid token by itself.

The lexer never fails; what it cannot classify is left for the reader of expressions to
refuse.
-/

namespace Formula

namespace Token

open Text

/-- May the character continue an identifier? -/
def continuesName (c : Char) : Bool := isLetter c || isDigit c

/-- Does a number begin here? -/
def beginsNumber : List Char → Bool
  | c :: rest => isDigit c || (c == '.' && (rest.head?.map isDigit).getD false)
  | [] => false

/-- The characters of the number that begins here, and what follows them.  A second point
ends the number. -/
def cutNumber (pointSeen : Bool) : List Char → List Char × List Char
  | [] => ([], [])
  | c :: rest =>
      if isDigit c then
        let cut := cutNumber pointSeen rest
        (c :: cut.1, cut.2)
      else if c = '.' ∧ pointSeen = false then
        let cut := cutNumber true rest
        (c :: cut.1, cut.2)
      else ([], c :: rest)

/-- Cuts the token that begins with `c` at column `start`, and gives what follows it. -/
def cutToken (start : Int) (c : Char) (rest : List Char) : Token × List Char :=
  if beginsNumber (c :: rest) then
    let cut := cutNumber (c == '.') rest
    (⟨.number, some (String.ofList (c :: cut.1)), start⟩, cut.2)
  else if isLetter c then
    (⟨.identifier, some (String.ofList (c :: rest.takeWhile continuesName)), start⟩,
      rest.dropWhile continuesName)
  else
    match Kind.ofChar? c with
    | some kind => (⟨kind, none, start⟩, rest)
    | none => (⟨.invalid, some (String.singleton c), start⟩, rest)

/-! ## What a cut loses and keeps -/

theorem cutNumber_append (pointSeen : Bool) (cs : List Char) :
    (cutNumber pointSeen cs).1 ++ (cutNumber pointSeen cs).2 = cs := by
  fun_induction cutNumber pointSeen cs with
  | case1 => rfl
  | case2 pointSeen c rest _ _ ih => exact congrArg (c :: ·) ih
  | case3 pointSeen c rest _ _ _ ih => exact congrArg (c :: ·) ih
  | case4 => rfl

/-- The text of a cut token and what follows it make up the characters it was cut from. -/
theorem cutToken_append (start : Int) (c : Char) (rest : List Char) :
    (cutToken start c rest).1.text.toList ++ (cutToken start c rest).2 = c :: rest := by
  unfold cutToken
  split
  · simp [text, cutNumber_append]
  · split
    · simp [text, List.takeWhile_append_dropWhile]
    · split
      · next kind h => simp [text, Kind.text_of_ofChar? h]
      · simp [text]

theorem text_ne_nil_of_cutToken (start : Int) (c : Char) (rest : List Char) :
    (cutToken start c rest).1.text.toList ≠ [] := by
  unfold cutToken
  split
  · simp [text]
  · split
    · simp [text]
    · split
      · next kind h => simp [text, Kind.text_of_ofChar? h]
      · simp [text]

theorem length_of_cutToken (start : Int) (c : Char) (rest : List Char) :
    (cutToken start c rest).2.length < (c :: rest).length := by
  have h := congrArg List.length (cutToken_append start c rest)
  have ne := List.length_pos_iff.2 (text_ne_nil_of_cutToken start c rest)
  rw [List.length_append] at h
  omega

/-! ## The lexer -/

/-- The tokens of a text whose first character stands in column `start`. -/
def scan (start : Nat) (cs : List Char) : List Token :=
  match cs with
  | [] => []
  | c :: rest =>
      if isBlank c then scan (start + 1) rest
      else
        let cut := cutToken start c rest
        cut.1 :: scan (start + cut.1.text.length) cut.2
termination_by cs.length
decreasing_by
  · exact Nat.lt_succ_self _
  · exact length_of_cutToken start c rest

/-- The tokens of a text. -/
def ofText (source : String) : List Token := scan 0 source.toList

end Token

end Formula
