import Formula.Text.Template.Value
set_option autoImplicit false

/-!
# Layouts

The layout of a field says how its text is padded and cut: a fill character and an
alignment, a least width, and a greatest number of characters.  The marks that only
numbers have (signs, thousands, the alternate form) are read and refused.
-/

namespace Formula.Text.Template

/-- Where the text stands in its field. -/
inductive Alignment where
  | left
  | right
  | centre
  /-- Between sign and digits, which a text does not have. -/
  | afterSign
  deriving DecidableEq, Repr, Inhabited

/-- The alignment that a character announces. -/
def Alignment.ofChar? : Char → Option Alignment
  | '<' => some .left
  | '>' => some .right
  | '^' => some .centre
  | '=' => some .afterSign
  | _ => none

/-- A layout as it is written. -/
structure Layout where
  fill : Char := ' '
  alignment : Alignment := .left
  sign : Option Char := none
  zeroSign : Bool := false
  alternate : Bool := false
  width : Nat := 0
  thousands : Option Char := none
  precision : Option Nat := none
  code : Char := 's'
  deriving DecidableEq, Repr, Inhabited

namespace Layout

/-- Takes a mark if it comes next. -/
def takeMark (mark : Char) : List Char → Bool × List Char
  | [] => (false, [])
  | c :: rest => if c = mark then (true, rest) else (false, c :: rest)

/-- The fill character and the alignment, if any. -/
def readAlignment : List Char → Option Char × Option Alignment × List Char
  | c :: d :: rest =>
      match Alignment.ofChar? d with
      | some alignment => (some c, some alignment, rest)
      | none =>
          match Alignment.ofChar? c with
          | some alignment => (none, some alignment, d :: rest)
          | none => (none, none, c :: d :: rest)
  | [c] =>
      match Alignment.ofChar? c with
      | some alignment => (none, some alignment, [])
      | none => (none, none, [c])
  | [] => (none, none, [])

/-- A sign or a space in its place, if any. -/
def readSign : List Char → Option Char × List Char
  | [] => (none, [])
  | c :: rest => if c = '+' ∨ c = '-' ∨ c = ' ' then (some c, rest) else (none, c :: rest)

/-- The leading decimal digits as a number, and what follows them. -/
def readNumber (cs : List Char) : Except Flaw (Option Nat × List Char) :=
  let digits := cs.takeWhile fun c => (decimalValue? c).isSome
  match readPosition digits none with
  | .error flaw => .error flaw
  | .ok number => .ok (number, cs.drop digits.length)

/-- The mark for thousands, of which there is at most one. -/
def readThousands (cs : List Char) : Except Flaw (Option Char × List Char) :=
  match cs with
  | ',' :: '_' :: _ => .error .bothThousands
  | '_' :: ',' :: _ => .error .bothThousands
  | ',' :: rest => .ok (some ',', rest)
  | '_' :: rest => .ok (some '_', rest)
  | _ => .ok (none, cs)

/-- The precision after a point, if there is a point. -/
def readPrecision (cs : List Char) : Except Flaw (Option Nat × List Char) :=
  match cs with
  | '.' :: rest =>
      match readNumber rest with
      | .error flaw => .error flaw
      | .ok (none, _) => .error .missingPrecision
      | .ok (some precision, rest) => .ok (some precision, rest)
  | _ => .ok (none, cs)

/-- Does a number in this form take the given mark for thousands?  The null character is the
code of a number without a form of its own. -/
def takesThousands (mark code : Char) : Bool :=
  "defgEG%F\x00".toList.contains code || (mark == '_' && "boxX".toList.contains code)

/-- Reads a layout; `standard` is the alignment if none is written. -/
def read? (standard : Alignment) (cs : List Char) : Except Flaw Layout :=
  let (fill, alignment, rest) := readAlignment cs
  let (sign, rest) := readSign rest
  let (zeroSign, rest) := takeMark 'z' rest
  let (alternate, rest) := takeMark '#' rest
  let (zero, rest) := if fill.isNone then takeMark '0' rest else (false, rest)
  match readNumber rest with
  | .error flaw => .error flaw
  | .ok (width, rest) =>
  match readThousands rest with
  | .error flaw => .error flaw
  | .ok (thousands, rest) =>
  match readPrecision rest with
  | .error flaw => .error flaw
  | .ok (precision, rest) =>
  match rest with
  | _ :: _ :: _ => .error (.unreadableLayout (String.ofList cs))
  | _ =>
      let code := rest.headD 's'
      match thousands.filter fun mark => !takesThousands mark code with
      | some mark => .error (.thousands mark code)
      | none => .ok {
          fill := fill.getD (if zero then '0' else ' ')
          alignment := alignment.getD standard
          sign, zeroSign, alternate, width := width.getD 0, thousands, precision, code }

/-- The first mark of the layout that a text refuses. -/
def refusal (layout : Layout) : Option Flaw :=
  if layout.code ≠ 's' then some (.foreignLayout layout.code)
  else if layout.sign = some ' ' then some .spaceSign
  else if layout.sign.isSome then some .sign
  else if layout.zeroSign then some .zeroSign
  else if layout.alternate then some .alternate
  else if layout.alignment = .afterSign then some .signPadding
  else none

/-- The text cut to the precision and padded to the width. -/
def pad (layout : Layout) (text : List Char) : List Char :=
  let kept := match layout.precision with
    | none => text
    | some precision => text.take precision
  let missing := layout.width - kept.length
  match layout.alignment with
  | .left => kept ++ List.replicate missing layout.fill
  | .right => List.replicate missing layout.fill ++ kept
  | _ => List.replicate (missing / 2) layout.fill ++ kept
      ++ List.replicate (missing - missing / 2) layout.fill

/-- A text laid out as written. -/
def lay (standard : Alignment) (written text : List Char) : Except Flaw (List Char) :=
  match read? standard written with
  | .error flaw => .error flaw
  | .ok layout =>
      match layout.refusal with
      | some flaw => .error flaw
      | none => if Fault.textLimit < layout.width then .error .tooWide else .ok (layout.pad text)

/-- A value laid out as written; the empty layout shows it as it is.  Texts stand left in
their field and numbers right; other values take no layout. -/
def apply (written : List Char) (v : Value) : Except Flaw (List Char) :=
  if written.isEmpty then .ok v.shown
  else
    match v with
    | .text s => lay .left written s
    | .number _ => lay .right written v.shown
    | v => .error (.noLayout v.familyOf.name)

end Layout

end Formula.Text.Template
