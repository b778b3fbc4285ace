import QueryShape.Schema.Rules
import QueryShape.Validation.Context
import QueryShape.Validation.Suggestion

/-!
# Rules of directives and arguments

Directives are known, stand where they may and as often as they may. Arguments are known, given
once, and given where they are required.
-/

namespace QueryShape.Validation

open Document

/-! ## Directives -/

/-- The directives that a document can use: the schema's and its own. -/
def directivesOf (c : Context) : List DirectiveDefinition :=
  (Schema.directiveDefinitions c.document).reverse ++ c.schema.directives

/-- How complaints name a directive place. -/
def placeWords (place : String) : String :=
  .ofList (place.toList.map fun c => if c = '_' then ' ' else c.toLower)

/-- Directives are known and stand where they may. -/
def knownDirectives : Rule := fun c v =>
  match v.site with
  | .directive d place =>
    match (directivesOf c).find? (·.name == d.name) with
    | some definition =>
      if definition.locations.isEmpty then ["Unknown directive '@" ++ d.name ++ "'."]
      else if definition.locations.contains place then []
      else ["Directive '@" ++ d.name ++ "' may not be used on " ++ placeWords place ++ "."]
    | none => ["Unknown directive '@" ++ d.name ++ "'."]
  | _ => []

/-- The complaints about directives used again on a place, after the names used there before. -/
def usedAgain (c : Context) (seen : List String) : List Directive → List String
  | [] => []
  | d :: rest =>
    let single := ((directivesOf c).find? (·.name == d.name)).any (!·.repeatable)
    if single && seen.contains d.name then
      ("The directive '@" ++ d.name ++ "' can only be used once at this location.") ::
        usedAgain c seen rest
    else usedAgain c (d.name :: seen) rest

/-- Directives that cannot be repeated are not. -/
def uniqueDirectivesPerLocation : Rule := fun c v =>
  usedAgain c (Schema.directivesAt v.site).2 (Schema.directivesAt v.site).1

/-! ## Arguments -/

/-- Arguments are known to their fields and directives. -/
def knownArgumentNames : Rule := fun c v =>
  match v.site with
  | .argument a =>
    match v.scope.inDirective, v.scope.argument?, v.scope.field?, v.scope.parent? with
    | false, none, some f, some parent =>
      ["Unknown argument '" ++ a.name ++ "' on field '" ++ parent.name ++ "." ++ f.name ++ "'." ++
        didYouMean (suggestions a.name (f.arguments.map (·.name)))]
    | _, _, _, _ => []
  | .directive d _ =>
    match (directivesOf c).find? (·.name == d.name) with
    | some definition =>
      let known := definition.arguments.map (·.name)
      d.arguments.filterMap fun a =>
        if known.contains a.name then none
        else some ("Unknown argument '" ++ a.name ++ "' on directive '@" ++ d.name ++ "'." ++
          didYouMean (suggestions a.name known))
    | none => []
  | _ => []

/-- Arguments are given once. -/
def uniqueArgumentNames : Rule := fun _ v =>
  let complaints (arguments : List Argument) : List String :=
    (repeated (arguments.map (·.name))).map fun n =>
      "There can be only one argument named '" ++ n ++ "'."
  match v.site with
  | .field f _ => complaints f.arguments
  | .directive d _ => complaints d.arguments
  | _ => []

/-- Arguments that are required are given. -/
def providedRequiredArguments : Rule := fun c v =>
  match v.site with
  | .fieldEnd f =>
    ((v.scope.field?.map (·.arguments)).getD []).filterMap fun d =>
      if c.schema.isRequired d && !f.arguments.any (·.name == d.name) then
        some ("Field '" ++ f.name ++ "' argument '" ++ d.name ++ "' of type '" ++ d.type.text ++
          "' is required, but it was not provided.")
      else none
  | .directiveEnd u =>
    match (directivesOf c).find? (·.name == u.name) with
    | some definition =>
      definition.arguments.filterMap fun d =>
        if c.schema.isRequired d && !u.arguments.any (·.name == d.name) then
          some ("Directive '@" ++ u.name ++ "' argument '" ++ d.name ++ "' of type '" ++
            d.type.text ++ "' is required, but it was not provided.")
        else none
    | none => []
  | _ => []

end QueryShape.Validation
