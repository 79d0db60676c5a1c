import Formula.Text.Numeral
import Formula.Text.Quoted
set_option autoImplicit false

/-!
# Arguments

The command line is a list of arguments.  An argument that begins with a minus is an
option, by its full name or, if it begins with two, by any unambiguous beginning of one;
a value may be attached to it behind an equals sign, or directly to an option of one
letter.  A negative number, a lone minus and an argument with a space in it are values
all the same, and so is every argument behind a double minus.  The double minus itself is
no value: attached to an option, it leaves the option without one.

One value is the expression.  Options and values that have no use are left over.
-/

namespace Formula

namespace CommandLine

/-! ## Options -/

/-- What can be asked for. -/
inductive Choice where
  | help
  | define
  | tree
  deriving DecidableEq, Repr, Inhabited

/-- Does it come with a value? -/
def Choice.takesValue : Choice → Bool
  | .define => true
  | _ => false

/-- All its names, as a message shows them. -/
def Choice.text : Choice → String
  | .help => "-h/--help"
  | .define => "-D/--define"
  | .tree => "--tree"

/-- The names of the options in their order. -/
def optionNames : List (String × Choice) :=
  [("-h", .help), ("--help", .help), ("-D", .define), ("--define", .define), ("--tree", .tree)]

/-- The option of this very name. -/
def optionNamed? (name : String) : Option Choice :=
  (optionNames.find? fun entry => entry.1 == name).map Prod.snd

/-- Why the arguments cannot be used. -/
inductive UsageError where
  /-- A beginning that several options share. -/
  | ambiguous (argument : String) (names : List String)
  /-- An option without the value it needs. -/
  | missingValue (choice : Choice)
  /-- An option with a value that it does not take. -/
  | needlessValue (choice : Choice) (value : String)
  /-- Arguments that have no use. -/
  | leftOver (arguments : List String)
  deriving DecidableEq, Repr, Inhabited

/-- The message of a usage error. -/
def UsageError.message : UsageError → String
  | .ambiguous argument names =>
      "ambiguous option: " ++ argument ++ " could match " ++ ", ".intercalate names
  | .missingValue choice => "argument " ++ choice.text ++ ": expected one argument"
  | .needlessValue choice value =>
      "argument " ++ choice.text ++ ": ignored explicit argument " ++ Text.quoted value
  | .leftOver arguments => "unrecognized arguments: " ++ " ".intercalate arguments

/-! ## The role of an argument -/

/-- What an argument is by itself. -/
inductive Role where
  /-- A value. -/
  | value
  /-- The double minus that makes all arguments behind it values. -/
  | separator
  /-- An option that does not exist. -/
  | unknown
  /-- An option, with what is attached to it; `isShort` if it was found by a name of one
  letter. -/
  | option (choice : Choice) (isShort : Bool) (attached : Option (List Char))
  deriving DecidableEq, Repr, Inhabited

/-- Is it a minus with digits after it, and perhaps a point before the last of them?  A line
feed at the end does not count. -/
def isNegativeNumber (cs : List Char) : Bool :=
  let isDecimal (c : Char) : Bool := (Text.decimalValue? c).isSome
  match cs with
  | '-' :: rest =>
      let rest := if rest.getLast? = some '\n' then rest.dropLast else rest
      match rest.dropWhile isDecimal with
      | [] => !rest.isEmpty
      | '.' :: fraction => !fraction.isEmpty && fraction.all isDecimal
      | _ => false
  | _ => false

/-- The text before the first equals sign, and the value attached by it. -/
def cutAttached : List Char → List Char × Option (List Char)
  | [] => ([], none)
  | c :: rest =>
      if c = '=' then ([], some rest)
      else
        let cut := cutAttached rest
        (c :: cut.1, cut.2)

/-- Is the option's name one letter behind a single minus? -/
def isShortName (name : String) : Bool :=
  match name.toList with
  | '-' :: '-' :: _ => false
  | _ => true

/-- The options that an argument with one minus or two can mean, with their names. -/
def candidates (cs : List Char) : List (String × Role) :=
  match cs with
  | '-' :: '-' :: _ =>
      let cut := cutAttached cs
      (optionNames.filter fun entry => cut.1.isPrefixOf entry.1.toList).map fun entry =>
        (entry.1, .option entry.2 (isShortName entry.1) cut.2)
  | '-' :: letter :: rest =>
      optionNames.filterMap fun entry =>
        if entry.1.toList = ['-', letter] then
          some (entry.1, .option entry.2 true (some rest))
        else if cs.isPrefixOf entry.1.toList then
          some (entry.1, .option entry.2 (isShortName entry.1) none)
        else none
  | _ => []

/-- The role of an argument in front of a double minus. -/
def roleOf (argument : String) : Except UsageError Role :=
  let cs := argument.toList
  match cs with
  | '-' :: _ :: _ =>
      match optionNamed? argument with
      | some choice => .ok (.option choice (isShortName argument) none)
      | none =>
          let cut := cutAttached cs
          let name := String.ofList cut.1
          match optionNamed? name, cut.2 with
          | some choice, some attached => .ok (.option choice (isShortName name) (some attached))
          | _, _ =>
              match candidates cs with
              | [candidate] => .ok candidate.2
              | [] =>
                  if isNegativeNumber cs || cs.contains ' ' then .ok .value else .ok .unknown
              | several => .error (.ambiguous argument (several.map Prod.fst))
  | _ => .ok .value

/-- The roles of all arguments. -/
def roles : List String → Except UsageError (List (String × Role))
  | [] => .ok []
  | argument :: rest =>
      if argument = "--" then
        .ok ((argument, .separator) :: rest.map fun other => (other, .value))
      else
        match roleOf argument with
        | .error error => .error error
        | .ok role =>
            match roles rest with
            | .error error => .error error
            | .ok others => .ok ((argument, role) :: others)

/-! ## What is asked for -/

/-- What the arguments ask for. -/
structure Request where
  /-- The expression, if one was given. -/
  expression : Option String := none
  /-- The definitions, in their order; none for one whose text is missing. -/
  definitions : List (Option String) := []
  /-- Is the outline of the expression to be shown? -/
  showsTree : Bool := false
  /-- Is help asked for?  Then nothing behind it counts. -/
  wantsHelp : Bool := false
  /-- Arguments that have no use. -/
  leftOver : List String := []
  deriving DecidableEq, Repr, Inhabited

/-- What an option changes in the request; `value` is none for an option without one. -/
def Request.apply (request : Request) (choice : Choice) (value : Option String) : Request :=
  match choice with
  | .help => { request with wantsHelp := true }
  | .define => { request with definitions := request.definitions ++ [value] }
  | .tree => { request with showsTree := true }

/-- An option whose value, if it takes one, is the next argument.  Gives the request and
the number of arguments used for the value. -/
def useNext (request : Request) (choice : Choice) (next : List (String × Role)) :
    Except UsageError (Request × Nat) :=
  if choice.takesValue then
    match next with
    | (value, .value) :: _ => .ok (request.apply choice (some value), 1)
    | _ => .error (.missingValue choice)
  else .ok (request.apply choice none, 0)

/-- The value that is attached to an option, unless it is the double minus. -/
def attachedValue (cs : List Char) : Option String :=
  if cs = ['-', '-'] then none else some (String.ofList cs)

/-- An option with something attached to it: its value, or, behind an option of one letter
that takes none, the letters of further options.  The first letter that is none makes all
of the attached text needless. -/
def useAttached (request : Request) (next : List (String × Role)) :
    Choice → Bool → List Char → Except UsageError (Request × Nat)
  | choice, isShort, cs =>
      if choice.takesValue then .ok (request.apply choice (attachedValue cs), 0)
      else
        match cs with
        | [] => .error (.needlessValue choice "")
        | letter :: rest =>
            match if isShort then optionNamed? (String.ofList ['-', letter]) else none with
            | none => .error (.needlessValue choice (String.ofList (letter :: rest)))
            | some other =>
                let request := request.apply choice none
                if rest.isEmpty then useNext request other next
                else useAttached request next other true rest

/-- Collects the request from the arguments.  `settled` says that the expression is known;
`justSettled` that it was the argument before. -/
def collect (request : Request) (settled justSettled : Bool) :
    List (String × Role) → Except UsageError Request
  | [] => .ok request
  | (argument, role) :: rest =>
      if request.wantsHelp then .ok request
      else
        let leave (request : Request) : Request :=
          { request with leftOver := request.leftOver ++ [argument] }
        match role with
        | .value =>
            if settled then collect (leave request) settled false rest
            else collect { request with expression := some argument } true true rest
        | .separator =>
            if settled && !justSettled then collect (leave request) settled false rest
            else collect request settled false rest
        | .unknown => collect (leave request) settled false rest
        | .option choice isShort attached =>
            let used := match attached with
              | none => useNext request choice rest
              | some attached => useAttached request rest choice isShort attached
            match used with
            | .error error => .error error
            | .ok (request, 0) => collect request settled false rest
            | .ok (request, _ + 1) => collect request settled false (rest.drop 1)
termination_by arguments => arguments.length

/-- Reads the arguments.  Arguments without use are an error, unless help was asked for
first. -/
def Request.ofArguments (arguments : List String) : Except UsageError Request :=
  match roles arguments with
  | .error error => .error error
  | .ok roles =>
      match collect {} false false roles with
      | .error error => .error error
      | .ok request =>
          if request.wantsHelp || request.leftOver.isEmpty then .ok request
          else .error (.leftOver request.leftOver)

end CommandLine

end Formula
