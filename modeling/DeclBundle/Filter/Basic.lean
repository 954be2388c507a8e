import DeclBundle.Error
import DeclBundle.Filter.Spec
import DeclBundle.Glob.Parser
import DeclBundle.Log
import DeclBundle.Regex.Limits

namespace DeclBundle

structure Matchers where
  globs : List (List Glob.Token)
  regexes : List Regex.Expr

/-- A glob as it is matched: below the root, unless it starts with a slash or with `**`. -/
def anchorGlob (root : Path) (glob : List Char) : List Char :=
  let glob := ModuleId.normalizeSlashes glob
  if "**".toList.isPrefixOf glob || glob.head? = some '/' then glob
  else
    let root := ModuleId.normalizeSlashes root.text.toList
    Glob.escape (root.reverse.dropWhile (· = '/')).reverse ++ '/' :: Text.dropLeading "./".toList glob

namespace Matchers

def add (root : Path) (m : Matchers) : FilterPattern → Except Error Matchers
  | .glob text =>
    match Glob.parse? (anchorGlob root text.toList) with
    | some tokens => .ok { m with globs := m.globs ++ [tokens] }
    | none => .error (.invalidGlob text)
  | .regex text =>
    match Regex.parse? text.toList with
    | some e => .ok { m with regexes := m.regexes ++ [e] }
    | none => .error (.invalidRegex text)

def ofSpec (root : Path) (spec : FilterSpec) : Except Error Matchers :=
  spec.patterns.foldlM (add root) ⟨[], []⟩

def isEmpty (m : Matchers) : Bool := m.globs.isEmpty && m.regexes.isEmpty

def accepts (m : Matchers) (path id : List Char) : Bool :=
  m.globs.any (Glob.isMatch · path) || m.regexes.any (·.isMatch id)

end Matchers

structure PathFilter where
  includes : Matchers
  excludes : Matchers

inductive Verdict where
  | virtualModule
  | excluded
  | notIncluded
  | accepted
deriving DecidableEq, Repr

namespace PathFilter

def ofSpecs (includes excludes : FilterSpec) (root : Path) : Except Error PathFilter := do
  return ⟨← Matchers.ofSpec root includes, ← Matchers.ofSpec root excludes⟩

/-- Without include patterns, all that is not excluded is accepted. -/
def judge (f : PathFilter) (id : String) : Verdict :=
  if id.toList.contains '\x00' then .virtualModule
  else
    let id := ModuleId.normalizeSlashes id.toList
    let path := ModuleId.stripQuery id
    if f.excludes.accepts path id then .excluded
    else if f.includes.isEmpty || f.includes.accepts path id then .accepted
    else .notIncluded

def accepts (f : PathFilter) (id : String) : Bool := f.judge id = .accepted

def notes (f : PathFilter) (id : String) : List Record :=
  let shown := String.ofList (ModuleId.normalizeSlashes id.toList)
  match f.judge id with
  | .excluded => [⟨.trace, .filter, "Excluded module " ++ shown⟩]
  | .notIncluded => [⟨.trace, .filter, "Module " ++ shown ++ " matches no include pattern"⟩]
  | _ => []

end PathFilter

end DeclBundle
