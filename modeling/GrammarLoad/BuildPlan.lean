import GrammarLoad.FileTree

/-!
What a build of the bindings is told. Without the generated parser the build goes on with the linked
grammar disabled, and a grammar has to come from a library.
-/
namespace GrammarLoad

/-- One line to the build tool, a key and its value. -/
structure Directive where
  key : String
  value : String
  deriving DecidableEq, Repr

def Directive.text (d : Directive) : String := "cargo:" ++ d.key ++ "=" ++ d.value

namespace BuildPlan

def parserFile : String := "src/parser.c"
def scannerFile : String := "src/scanner.c"

/-- A variable of the build; one that is unset or no text counts as empty. -/
def variableText (value : Option (List UInt8)) : String := (value.bind text?).getD ""

def directives (files : FileTree) (target host : Option (List UInt8)) : List Directive :=
  [⟨"rustc-check-cfg", "cfg(gloss_parser)"⟩,
    ⟨"rustc-env", "GLOSS_BUILD_TARGET=" ++ variableText target⟩,
    ⟨"rustc-env", "GLOSS_BUILD_HOST=" ++ variableText host⟩,
    ⟨"rerun-if-changed", parserFile⟩,
    ⟨"rerun-if-changed", scannerFile⟩] ++
  if files.pathExists (.ofText parserFile) then
    [⟨"rustc-link-lib", "static=tree-sitter-gloss"⟩, ⟨"rustc-cfg", "gloss_parser"⟩]
  else
    [⟨"warning", "tree-sitter-gloss: " ++ parserFile ++ " not found, linked grammar disabled"⟩]

/-- The lines that are printed. A value that holds line feeds spans several of them. -/
def lines (files : FileTree) (target host : Option (List UInt8)) : List String :=
  (directives files target host).flatMap fun d =>
    (d.text.toList.splitOn '\n').map String.ofList

end BuildPlan

end GrammarLoad
