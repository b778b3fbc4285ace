import QueryShape.Module.Class
import QueryShape.Text.LineEnds

/-!
# The text of a module

A module holds classes after the lines that import what they need. The module of a package imports
every class from the module that holds it.
-/

namespace QueryShape.Module

/-- The line that every module begins with. -/
def banner : String :=
  "\"\"\"Generated by gql-typegen from GraphQL query documents. Do not edit.\"\"\""

/-- The lines that import what every module needs. -/
def headerLines : List String :=
  [banner,
   "",
   "from __future__ import annotations",
   "",
   "from typing import Any, Dict, List, Optional, Union, cast",
   "",
   "from gql_typegen.core.executor import GraphQLExecutor",
   "from gql_typegen.core.result import (",
   "    GraphQLEnum,",
   "    InputObject,",
   "    OperationResult,",
   "    QueryResult,",
   "    ScalarValue,",
   "    UnexpectedTypenameError,",
   ")"]

/-- Lines in order, after an empty line if there are any. -/
def importLines (imports : List String) : List String :=
  if imports.isEmpty then [] else "" :: imports.mergeSort (· ≤ ·)

/-- Lines with an end after each. -/
def endLines (lines : List String) : String :=
  .join (lines.map (· ++ "\n"))

/-- The text of a module that holds classes. -/
def moduleText (t : Templates) (classes : List Record) (imports localImports : List String) :
    String :=
  t.module?.getD <| endLines <|
    headerLines ++ importLines imports ++ importLines localImports ++
      classes.flatMap fun r => ["", "", classText t r]

/-- The line that imports a class from the module that holds it. -/
def classImport (className : String) : String :=
  "from ." ++ Naming.moduleName className ++ " import " ++ className

/-- The text of the module of a package, which has no end after its last line. -/
def packageText (t : Templates) (classNames : List String) : String :=
  t.package?.getD <| endLines
    ([banner, ""] ++ classNames.map classImport ++ ["", "__all__ = ["] ++
      classNames.map fun name => "    " ++ Literal.text name ++ ",") ++ "]"

/-- The text of a file as a template: line ends of every kind are the same, and the last one does
not count. -/
def ofTemplateFile (text : String) : String :=
  let cs := Text.unifyLineEnds text.toList
  .ofList (if cs.getLast? = some '\n' then cs.dropLast else cs)

end QueryShape.Module
