import QueryShape.Text.Stretch

/-!
# Hooks

Hooks change documents before code is generated from them, and files before they are written. They
run in the order in which they were added, each on what the one before it left.
-/

namespace QueryShape

/-- A document and where it comes from. -/
structure Declaration where
  text : String
  source : String := "<string>"
  deriving DecidableEq, Repr, Inhabited

/-- The hooks of a run. -/
structure Hooks where
  /-- The hooks on documents. -/
  before : List (Declaration → Declaration) := []
  /-- The hooks on files, each given the name and the content. -/
  after : List (String → String → String) := []
  deriving Inhabited

namespace Hooks

/-- A document as the hooks leave it. -/
def runBefore (hooks : Hooks) (d : Declaration) : Declaration :=
  hooks.before.foldl (fun d hook => hook d) d

/-- The content of a file as the hooks leave it. -/
def runAfter (hooks : Hooks) (file content : String) : String :=
  hooks.after.foldl (fun content hook => hook file content) content

/-- Hooks with one more on documents. -/
def addBefore (hooks : Hooks) (hook : Declaration → Declaration) : Hooks :=
  { hooks with before := hooks.before ++ [hook] }

/-- Hooks with one more on files. -/
def addAfter (hooks : Hooks) (hook : String → String → String) : Hooks :=
  { hooks with after := hooks.after ++ [hook] }

/-! ## Standard hooks -/

/-- Put a text in front of a file, with an empty line after it. -/
def header (text : String) (_file content : String) : String :=
  text ++ (if text.endsWith "\n" then "\n" else "\n\n") ++ content

/-- Replace a text in a document, wherever it stands. -/
def replaceInDocument (old new : String) (d : Declaration) : Declaration :=
  { d with text := Text.replace old new d.text }

end Hooks

end QueryShape
