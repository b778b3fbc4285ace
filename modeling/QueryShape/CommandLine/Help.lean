/-!
# Help texts

What the command line shows when it is asked for help.
-/

namespace QueryShape.CommandLine

/-- Lines with an end after each. -/
def withEnds (lines : List String) : String := .join (lines.map (· ++ "\n"))

/-- The help on the program. -/
def programHelp : String := withEnds
  ["Usage: main [OPTIONS] COMMAND [ARGS]...",
   "",
   "  Typed Python result classes from GraphQL queries.",
   "",
   "  Generate accessor classes for the operations in GraphQL query documents.",
   "",
   "Options:",
   "  --version  Show the version and exit.",
   "  --help     Show this message and exit.",
   "",
   "Commands:",
   "  generate  Generate typed result classes from GraphQL query documents."]

/-- The help on the command that generates code. -/
def generateHelp : String := withEnds
  ["Usage: main generate [OPTIONS]",
   "",
   "  Generate typed result classes from GraphQL query documents.",
   "",
   "  Examples:",
   "",
   "      gql-typegen generate --schema ./schema --queries ./queries --output",
   "      ./queries.py",
   "",
   "      gql-typegen generate -s ./schema.graphql -q ./queries -o ./generated",
   "      --split",
   "",
   "      gql-typegen generate -s ./schema.json -q ./get_user.graphql --scalar",
   "      Money=myapp.scalars:MoneyHandler",
   "",
   "Options:",
   "  -s, --schema PATH           Path to GraphQL schema file, directory,",
   "                              introspection JSON or archive (.zip, .tar.gz,",
   "                              .tgz).  [required]",
   "  -q, --queries PATH          Query document file or directory (repeatable).",
   "                              [required]",
   "  -o, --output PATH           Output module, or package directory with",
   "                              --split. Prints to stdout if omitted.",
   "  --split                     Write one module per class plus an __init__.py.",
   "  --scalar NAME=module:Class  Handler class for a custom scalar (repeatable).",
   "  --header TEXT               Header text added to the top of every generated",
   "                              file.",
   "  --template-dir DIRECTORY    Directory with Jinja2 templates overriding the",
   "                              built-in ones.",
   "  --no-validate               Skip validating query documents against the",
   "                              schema.",
   "  -v, --verbose               Enable verbose output.",
   "  --help                      Show this message and exit."]

/-- The version of the program. -/
def versionText : String := "main, version 0.1.0\n"

end QueryShape.CommandLine
