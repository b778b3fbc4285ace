/-!
# Arguments of the command line

An argument that begins with a hyphen gives options: a long one by its name, or short ones by their
letters. An option with a value takes it from the rest of the argument or from the next one. After
two hyphens alone, no argument gives options.
-/

namespace QueryShape.CommandLine

/-- An option. -/
inductive Choice
  | schema
  | queries
  | output
  | split
  | scalar
  | header
  | templateDir
  | noValidate
  | verbose
  | help
  deriving DecidableEq, Repr

namespace Choice

/-- The options, in the order in which they are listed. -/
def all : List Choice :=
  [.schema, .queries, .output, .split, .scalar, .header, .templateDir, .noValidate, .verbose, .help]

/-- The long name of an option. -/
def longName : Choice → String
  | .schema => "--schema"
  | .queries => "--queries"
  | .output => "--output"
  | .split => "--split"
  | .scalar => "--scalar"
  | .header => "--header"
  | .templateDir => "--template-dir"
  | .noValidate => "--no-validate"
  | .verbose => "--verbose"
  | .help => "--help"

/-- The letter of an option. -/
def letter? : Choice → Option Char
  | .schema => some 's'
  | .queries => some 'q'
  | .output => some 'o'
  | .verbose => some 'v'
  | _ => none

/-- The option has a value. -/
def hasValue : Choice → Bool
  | .split | .noValidate | .verbose | .help => false
  | _ => true

/-- The option has to be given. -/
def isRequired : Choice → Bool
  | .schema | .queries => true
  | _ => false

end Choice

/-- What is wrong with the arguments. -/
inductive UsageFault
  | noCommand
  | unknownCommand (name : String)
  | unknownOption (name : String)
  | missingValue (name : String)
  | unexpectedValue (name : String)
  | unexpectedArgument (argument : String)
  | missingOption (choice : Choice)
  | badValue (choice : Choice) (words : String)
  | splitWithoutOutput
  deriving DecidableEq, Repr

/-- A usage fault in words. -/
def UsageFault.words : UsageFault → String
  | .noCommand => "Missing command."
  | .unknownCommand name => "No such command '" ++ name ++ "'."
  | .unknownOption name => "No such option: " ++ name
  | .missingValue name => "Option '" ++ name ++ "' requires an argument."
  | .unexpectedValue name => "Option '" ++ name ++ "' does not take a value."
  | .unexpectedArgument argument => "Got unexpected extra argument (" ++ argument ++ ")"
  | .missingOption choice => "Missing option '" ++ choice.longName ++ "'."
  | .badValue choice words => "Invalid value for '" ++ choice.longName ++ "': " ++ words
  | .splitWithoutOutput => "--split requires --output"

/-- Options as they are given, each with its value, and the arguments that are none. -/
structure Given where
  choices : List (Choice × String) := []
  others : List String := []

/-- The options that one argument gives: those that are complete, and one whose value follows. -/
structure Piece where
  complete : List (Choice × String) := []
  open? : Option Choice := none

/-- The short options that letters give. The first with a value takes what is left of them. -/
def shortOptions : List Char → Except UsageFault Piece
  | [] => .ok {}
  | c :: rest =>
    match Choice.all.find? (·.letter? == some c) with
    | none => .error (.unknownOption ("-" ++ .singleton c))
    | some choice =>
      if !choice.hasValue then do
        let piece ← shortOptions rest
        return { piece with complete := (choice, "") :: piece.complete }
      else if rest.isEmpty then .ok { open? := some choice }
      else .ok { complete := [(choice, .ofList rest)] }

/-- A long option, which may have its value after an equals sign. -/
def longOption (choice : Choice) (attached? : Option String) : Except UsageFault Piece :=
  match choice.hasValue, attached? with
  | true, some value => .ok { complete := [(choice, value)] }
  | true, none => .ok { open? := some choice }
  | false, some _ => .error (.unexpectedValue choice.longName)
  | false, none => .ok { complete := [(choice, "")] }

/-- What stands before the first equals sign, and what stands after it. -/
def splitAtEquals (argument : String) : String × Option String :=
  let cs := argument.toList
  let name := cs.takeWhile (· ≠ '=')
  (.ofList name,
    if name.length < cs.length then some (.ofList (cs.drop (name.length + 1))) else none)

/-- The options that an argument gives, if it gives any. -/
def pieceOf (argument : String) : Except UsageFault (Option Piece) :=
  let cs := argument.toList
  if cs.head? ≠ some '-' ∨ cs.length = 1 then .ok none
  else
    let (name, attached?) := splitAtEquals argument
    match Choice.all.find? (·.longName == name) with
    | some choice => some <$> longOption choice attached?
    | none =>
      if argument.startsWith "--" then .error (.unknownOption name)
      else some <$> shortOptions (cs.drop 1)

/-- Read arguments. -/
def readArguments : List String → Except UsageFault Given
  | [] => .ok {}
  | argument :: rest => do
    if argument = "--" then return { others := rest }
    match ← pieceOf argument with
    | none =>
      let g ← readArguments rest
      return { g with others := argument :: g.others }
    | some { complete, open? := none } =>
      let g ← readArguments rest
      return { g with choices := complete ++ g.choices }
    | some { complete, open? := some choice } =>
      match rest with
      | [] => throw (.missingValue choice.longName)
      | value :: rest =>
        let g ← readArguments rest
        return { g with choices := complete ++ (choice, value) :: g.choices }
termination_by arguments => arguments.length
decreasing_by all_goals simp +arith

/-- The values that an option is given, in order. -/
def Given.values (g : Given) (choice : Choice) : List String :=
  (g.choices.filter (·.1 == choice)).map (·.2)

/-- The options in the order in which they are first given, then those that are not. -/
def Given.order (g : Given) : List Choice :=
  let given := g.choices.map (·.1)
  (Choice.all.filter given.contains).mergeSort (fun a b => given.idxOf a ≤ given.idxOf b) ++
    Choice.all.filter (!given.contains ·)

/-! ## Commands -/

/-- What the arguments ask for. -/
inductive Command
  /-- Show what commands there are. -/
  | help
  /-- Show the version. -/
  | version
  /-- Generate code. -/
  | generate (given : Given)

/-- The command that follows the options of the program. -/
def commandNamed : List String → Except UsageFault Command
  | "generate" :: rest => .generate <$> readArguments rest
  | name :: _ => .error (.unknownCommand name)
  | [] => .error .noCommand

/-- The command that arguments ask for. -/
def commandOf : List String → Except UsageFault Command
  | "--help" :: _ => .ok .help
  | "--version" :: _ => .ok .version
  | "--" :: rest => commandNamed rest
  | name :: rest =>
    if name.startsWith "-" && name != "-" then .error (.unknownOption name)
    else commandNamed (name :: rest)
  | [] => .error .noCommand

end QueryShape.CommandLine
