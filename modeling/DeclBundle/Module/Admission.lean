import DeclBundle.Module.Basic
import DeclBundle.Path.Location

namespace DeclBundle

inductive Admission where
  | script (component : Path) (lang : ScriptLang)
  | standalone (path : Path)
deriving DecidableEq, Repr

namespace Admission

def kind : Admission → ModuleKind
  | script _ _ => .scriptBlock
  | standalone _ => .source

def logicalPath : Admission → Path
  | script component lang => ⟨component.text ++ "." ++ lang.extension⟩
  | standalone path => path

end Admission

namespace ModuleId

/-- Asks for a component's script: after `.vue?`, the same line goes on to say `type=script`. -/
def isScript : List Char → Bool
  | [] => false
  | c :: s =>
    (match Text.dropHead? ".vue?".toList (c :: s) with
    | some query => Text.contains "type=script".toList (query.takeWhile (· != '\n'))
    | none => false) || isScript s

def saysTyped (id : List Char) : Bool :=
  Text.contains "lang.ts".toList id || Text.contains "lang=ts".toList id

def isTypeScript (id : List Char) : Bool :=
  ".ts".toList.isSuffixOf id || ".tsx".toList.isSuffixOf id

end ModuleId

def classify (id : String) (root : Path) : Option Admission :=
  let id := ModuleId.normalizeSlashes id.toList
  if ModuleId.isScript id then
    some (.script (root.resolve ⟨String.ofList (ModuleId.stripQuery id)⟩)
      (if ModuleId.saysTyped id then .typeScript else .javaScript))
  else if ModuleId.isTypeScript id then some (.standalone (root.resolve ⟨String.ofList id⟩))
  else none

end DeclBundle
