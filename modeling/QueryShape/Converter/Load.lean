import QueryShape.Converter.Basic

/-!
# Finding converters

A reference `module:Class` names a converter by the module that has it and its path there.
-/

namespace QueryShape.Converter

/-- The converters that modules have, by the names they have there. -/
abbrev Modules := List (String × List (String × Converter))

/-- The module of the standard converters. -/
def standardEntry : String × List (String × Converter) :=
  (standardModule, standard.map fun c => (c.path, c))

/-- Why a reference names no converter. -/
inductive LoadFault
  /-- It is not of the form that references have. -/
  | malformed
  /-- Its module is given relative to another. -/
  | relative
  | noModule
  | noAttribute
  deriving DecidableEq, Repr

/-- The converter that a reference names. -/
def load (modules : Modules) (reference : String) : Except LoadFault Converter :=
  let cs := reference.toList
  let module := cs.takeWhile (· ≠ ':')
  let path := (cs.dropWhile (· ≠ ':')).drop 1
  if module.isEmpty || path.isEmpty then .error .malformed
  else if module.head? = some '.' then .error .relative
  else
    match modules.lookup (.ofList module) with
    | none => .error .noModule
    | some converters =>
      match converters.lookup (.ofList path) with
      | some c => .ok c
      | none => .error .noAttribute

end QueryShape.Converter
