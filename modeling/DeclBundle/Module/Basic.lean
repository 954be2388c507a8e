import DeclBundle.Path.Basic
import DeclBundle.Text.Search

namespace DeclBundle

inductive ModuleKind where
  | source
  | scriptBlock
deriving DecidableEq, Repr

def ModuleKind.label : ModuleKind → String
  | source => "source"
  | scriptBlock => "script-block"

inductive ScriptLang where
  | typeScript
  | javaScript
deriving DecidableEq, Repr

def ScriptLang.label : ScriptLang → String
  | typeScript => "TypeScript"
  | javaScript => "JavaScript"

def ScriptLang.extension : ScriptLang → String
  | typeScript => "ts"
  | javaScript => "js"

/-- The place of a source in the order in which a compiler first heard of it. -/
structure SourceId where
  index : Nat
deriving DecidableEq, Repr

def SourceId.label (i : SourceId) : String := "source#" ++ toString i.index

namespace ModuleId

def normalizeSlashes (id : List Char) : List Char := Text.replaceChar '\\' '/' id

def stripQuery (id : List Char) : List Char := id.takeWhile (· != '?')

end ModuleId

end DeclBundle
