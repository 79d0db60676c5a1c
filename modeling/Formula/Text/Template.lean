import Formula.Text.Template.Layout
set_option autoImplicit false

/-!
# Message templates

A template is a text with fields between braces.  A field names the argument that takes
its place: by position, by nothing at all for the next one in turn, or by a name, which
no argument has.  After the name may stand parts and items of the argument, a conversion
after an exclamation mark, and a layout after a colon, which may itself hold fields.  A
doubled brace stands for itself.

Reading a template (`Template.read`) never fails: it gives the pieces before the first
flaw, and the flaw.  Filling (`Template.fill`) gives the text, or the first flaw met from
left to right.
-/

namespace Formula.Text

namespace Template

/-- A field of a template. -/
structure Field where
  name : List Char
  conversion : Option Char := none
  layout : List Char := []
  deriving DecidableEq, Repr, Inhabited

/-- A piece of a template: a character that stands for itself, or a field. -/
inductive Piece where
  | char (c : Char)
  | field (f : Field)
  deriving DecidableEq, Repr, Inhabited

end Template

/-- A template that has been read: its pieces up to the first flaw, and that flaw. -/
structure Template where
  pieces : List Template.Piece
  flaw : Option Template.Flaw
  deriving DecidableEq, Repr, Inhabited

namespace Template

/-- What the reader is in the middle of. -/
inductive Place where
  /-- Outside all fields. -/
  | text
  /-- In the name of a field; what has been read of it. -/
  | name (read : List Char)
  /-- In brackets within the name of a field. -/
  | bracket (read : List Char)
  /-- Behind the exclamation mark that announces a conversion. -/
  | conversion (name : List Char)
  /-- Behind a conversion. -/
  | converted (name : List Char) (conversion : Char)
  /-- In the layout of a field, inside `depth` further braces. -/
  | layout (field : Field) (depth : Nat)
  deriving DecidableEq, Repr, Inhabited

/-- The flaw of a template that ends at this place. -/
def Place.ending : Place → Option Flaw
  | .text => none
  | .name _ => some .unclosedName
  | .bracket _ => some .unclosedName
  | .conversion _ => some .missingConversion
  | .converted _ _ => some .unclosedLayout
  | .layout _ _ => some .unclosedLayout

/-- Puts a piece in front. -/
def cons (piece : Piece) (t : Template) : Template := { t with pieces := piece :: t.pieces }

/-- A template that is flawed from its start. -/
def flawed (flaw : Flaw) : Template := ⟨[], some flaw⟩

/-- Reads on from the given place. -/
def readFrom : Place → List Char → Template
  | place, [] => ⟨[], place.ending⟩
  | .text, '\x7b' :: rest =>
      match rest with
      | [] => flawed .loneOpen
      | '\x7b' :: rest => cons (.char '\x7b') (readFrom .text rest)
      | rest => readFrom (.name []) rest
  | .text, '\x7d' :: rest =>
      match rest with
      | '\x7d' :: rest => cons (.char '\x7d') (readFrom .text rest)
      | _ => flawed .loneClose
  | .text, c :: rest => cons (.char c) (readFrom .text rest)
  | .name _, '\x7b' :: _ => flawed .nestedOpen
  | .name read, '\x7d' :: rest =>
      cons (.field { name := read }) (readFrom .text rest)
  | .name read, '!' :: rest => readFrom (.conversion read) rest
  | .name read, ':' :: rest => readFrom (.layout { name := read } 0) rest
  | .name read, '[' :: rest => readFrom (.bracket (read ++ ['['])) rest
  | .name read, c :: rest => readFrom (.name (read ++ [c])) rest
  | .bracket read, ']' :: rest => readFrom (.name (read ++ [']'])) rest
  | .bracket read, c :: rest => readFrom (.bracket (read ++ [c])) rest
  | .conversion name, c :: rest => readFrom (.converted name c) rest
  | .converted name conversion, '\x7d' :: rest =>
      cons (.field { name, conversion := some conversion }) (readFrom .text rest)
  | .converted name conversion, ':' :: rest =>
      readFrom (.layout { name, conversion := some conversion } 0) rest
  | .converted _ _, _ :: _ => flawed .trailingConversion
  | .layout field depth, '\x7b' :: rest =>
      readFrom (.layout { field with layout := field.layout ++ ['\x7b'] } (depth + 1)) rest
  | .layout field 0, '\x7d' :: rest => cons (.field field) (readFrom .text rest)
  | .layout field (depth + 1), '\x7d' :: rest =>
      readFrom (.layout { field with layout := field.layout ++ ['\x7d'] } depth) rest
  | .layout field depth, c :: rest =>
      readFrom (.layout { field with layout := field.layout ++ [c] } depth) rest

/-- Reads a template. -/
def read (cs : List Char) : Template := readFrom .text cs

/-! ## Filling -/

/-- How the fields met so far were numbered. -/
inductive Numbering where
  /-- No numbered field and none in turn so far. -/
  | unused
  /-- By position. -/
  | given
  /-- In turn; the position of the next one. -/
  | inTurn (next : Nat)
  deriving DecidableEq, Repr, Inhabited

/-- The position of a field in turn, and the numbering after it. -/
def Numbering.turn : Numbering → Except Flaw (Nat × Numbering)
  | .unused => .ok (0, .inTurn 1)
  | .given => .error .numberedFirst
  | .inTurn next => .ok (next, .inTurn (next + 1))

/-- The numbering after a field with a position of its own. -/
def Numbering.fixed : Numbering → Except Flaw Numbering
  | .unused => .ok .given
  | .given => .ok .given
  | .inTurn _ => .error .numberedLater

/-- The parts and items asked for after the argument, taken one after the other.  The count
bounds their number and is never reached if it is the length of their text. -/
def parts : Nat → List Char → Value → Except Flaw Value
  | _, [], v => .ok v
  | 0, _ :: _, v => .ok v
  | count + 1, '.' :: rest, v =>
      let name := rest.takeWhile fun c => c != '.' && c != '['
      if name.isEmpty then .error .emptyPart
      else
        match v.part (String.ofList name) with
        | .error flaw => .error flaw
        | .ok w => parts count (rest.drop name.length) w
  | count + 1, '[' :: rest, v =>
      let key := rest.takeWhile (· != ']')
      match readPosition key none with
      | .error flaw => .error flaw
      | .ok position =>
          if key.isEmpty then .error .emptyPart
          else
            match v.item (String.ofList key) position with
            | .error flaw => .error flaw
            | .ok w => parts count (rest.drop (key.length + 1)) w
  | _ + 1, _ :: _, _ => .error .afterBracket

/-- The argument that a field names, with its parts, and the numbering after it. -/
def argument (args : List String) (numbering : Numbering) (name : List Char) :
    Except Flaw (Value × Numbering) :=
  let first := name.takeWhile fun c => c != '.' && c != '['
  let rest := name.drop first.length
  let look (position : Nat) (numbering : Numbering) : Except Flaw (Value × Numbering) :=
    match args[position]? with
    | none => .error (.noArgument position)
    | some text =>
        match parts rest.length rest (.ofString text) with
        | .error flaw => .error flaw
        | .ok v => .ok (v, numbering)
  match readPosition first none with
  | .error flaw => .error flaw
  | .ok (some position) =>
      match numbering.fixed with
      | .error flaw => .error flaw
      | .ok numbering => look position numbering
  | .ok none =>
      if first.isEmpty then
        match numbering.turn with
        | .error flaw => .error flaw
        | .ok (position, numbering) => look position numbering
      else .error (.noName (String.ofList first))

/-- A value after a conversion: as it is, as a text, as a text where texts are quoted, or as
that with every character beyond code point 127 written by its code point.  The null
character asks for no conversion. -/
def convert : Option Char → Value → Except Flaw Value
  | none, v => .ok v
  | some '\x00', v => .ok v
  | some 's', v => .ok (.text v.shown)
  | some 'r', v => .ok (.text v.shownQuoted)
  | some 'a', v => .ok (.text (v.shownQuoted.flatMap fun c =>
      if c.toNat < 128 then [c] else codePointEscape c))
  | some c, _ => .error (.unknownConversion c)

/-- Fills the pieces one after the other.  `depth` levels of fields may be inside each
other: a field, and a field in its layout. -/
def fillPieces (args : List String) : Nat → Numbering → List Piece → Option Flaw →
    Except Flaw (List Char × Numbering)
  | _, numbering, [], flaw =>
      match flaw with
      | some flaw => .error flaw
      | none => .ok ([], numbering)
  | depth, numbering, .char c :: rest, flaw =>
      match fillPieces args depth numbering rest flaw with
      | .error flaw => .error flaw
      | .ok (text, numbering) => .ok (c :: text, numbering)
  | depth, numbering, .field field :: rest, flaw =>
      match argument args numbering field.name with
      | .error flaw => .error flaw
      | .ok (value, numbering) =>
      match convert field.conversion value with
      | .error flaw => .error flaw
      | .ok value =>
      let layout : Except Flaw (List Char × Numbering) :=
        if field.layout.contains '\x7b' then
          match depth with
          | 0 => .error .layoutTooDeep
          | depth + 1 =>
              let inner := read field.layout
              fillPieces args depth numbering inner.pieces inner.flaw
        else .ok (field.layout, numbering)
      match layout with
      | .error flaw => .error flaw
      | .ok (layout, numbering) =>
      match Layout.apply layout value with
      | .error flaw => .error flaw
      | .ok value =>
      match fillPieces args depth numbering rest flaw with
      | .error flaw => .error flaw
      | .ok (text, numbering) => .ok (value ++ text, numbering)
termination_by depth _ pieces => (depth, pieces.length)

/-- The text of the template with the arguments in their places. -/
def fill (template : String) (args : List String) : Except Flaw String :=
  let t := read template.toList
  match fillPieces args 1 .unused t.pieces t.flaw with
  | .error flaw => .error flaw
  | .ok (text, _) => .ok (String.ofList text)

end Template

end Formula.Text
