import QueryShape.CommandLine.Arguments
import QueryShape.Converter.Load
import QueryShape.Files.Load

/-!
# Options of a run

The options that are given are looked at in their order. A path that is read has to be there, and
every converter has to be found.
-/

namespace QueryShape.CommandLine

open Files

/-- What a run is asked for. -/
structure Options where
  schema : String := ""
  queries : List String := []
  output? : Option String := none
  split : Bool := false
  converters : Converters := .initial
  header? : Option String := none
  templateDir? : Option String := none
  validates : Bool := true
  verbose : Bool := false
  deriving Inhabited

/-- Why there are no options to run with. -/
inductive OptionFault
  | usage (fault : UsageFault)
  /-- The help is asked for. -/
  | help
  /-- A converter is named relative to nothing. -/
  | relativeConverter

/-- A usage fault of a value. -/
def badValue (choice : Choice) (words : String) : Except OptionFault α :=
  .error (.usage (.badValue choice words))

/-- A path, if it fits. -/
def checkPath (choice : Choice) (fits : String → Bool) (path : String) :
    Except OptionFault String :=
  if fits path then .ok path else badValue choice ("Path '" ++ path ++ "' does not exist.")

/-- Converters with one more, given by the name of its scalar, an equals sign and a reference. -/
def addConverter (modules : Converter.Modules) (converters : Converters) (given : String) :
    Except OptionFault Converters :=
  match splitAtEquals given with
  | (name, some reference) =>
    if name.isEmpty then malformed
    else match Converter.load modules reference with
      | .ok c => .ok (converters.register name c)
      | .error .relative => .error .relativeConverter
      | .error _ => badValue .scalar ("cannot load handler for " ++ name)
  | _ => malformed
where
  /-- The fault of a value that is not of the form. -/
  malformed : Except OptionFault Converters := badValue .scalar "expected NAME=module:Class"

/-- The options with the values that one of them is given. -/
def Options.take (t : Tree) (modules : Converter.Modules) (o : Options) (choice : Choice)
    (values : List String) : Except OptionFault Options :=
  match choice, values.getLast? with
  | .schema, some path => do return { o with schema := ← checkPath .schema t.has path }
  | .queries, some _ => do return { o with queries := ← values.mapM (checkPath .queries t.has) }
  | .templateDir, some path => do
    return { o with templateDir? := some (← checkPath .templateDir t.hasFolder path) }
  | .scalar, some _ => do
    return { o with converters := ← values.foldlM (addConverter modules) o.converters }
  | .output, path? => .ok { o with output? := path? }
  | .header, header? => .ok { o with header? }
  | .split, given? => .ok { o with split := given?.isSome }
  | .noValidate, given? => .ok { o with validates := given?.isNone }
  | .verbose, given? => .ok { o with verbose := given?.isSome }
  | _, none =>
    if choice.isRequired then .error (.usage (.missingOption choice)) else .ok o
  | .help, some _ => .error .help

/-- The options that are given. -/
def Options.ofGiven (t : Tree) (modules : Converter.Modules) (g : Given) :
    Except OptionFault Options := do
  if !(g.values .help).isEmpty then throw .help
  let o ← g.order.foldlM (fun o choice => o.take t modules choice (g.values choice)) {}
  match g.others with
  | [] =>
    if o.split && o.output?.all (·.isEmpty) then throw (.usage .splitWithoutOutput)
    return o
  | other :: _ => throw (.usage (.unexpectedArgument other))

end QueryShape.CommandLine
