import DeclBundle.Act
import DeclBundle.Config.Layer
import DeclBundle.Filter.Basic
import DeclBundle.Text.Blank

namespace DeclBundle

structure Config where
  includes : FilterSpec
  excludes : FilterSpec
  root : Path
  project : Option ProjectOverrides
  cleanNames : Bool

namespace Config

def initial (root : Path) : Config where
  includes := .defaultInclude
  excludes := .defaultExclude
  root := root
  project := none
  cleanNames := false

def mergeProject (lower upper : Option ProjectOverrides) : Option ProjectOverrides :=
  match lower, upper with
  | some lower, some upper => some (lower.merge upper)
  | lower, upper => upper.or lower

/-- Puts a layer on; its root is seen from `base`. -/
def apply (c : Config) (layer : ConfigLayer) (base : Path) : Config where
  includes := layer.includes.getD c.includes
  excludes := layer.excludes.getD c.excludes
  root := (layer.root.map base.resolve).getD c.root
  project := mergeProject c.project layer.project
  cleanNames := layer.cleanNames.getD c.cleanNames

def rootVariable : String := "DTSEMIT_ROOT"
def cleanVariable : String := "DTSEMIT_CLEAN_VUE_FILE_NAME"

def readBoolean (text : String) : Except String Bool :=
  let word := String.ofList ((Text.trim text.toList).map Char.toLower)
  if word ∈ ["1", "true", "yes", "on"] then .ok true
  else if word ∈ ["0", "false", "no", "off", ""] then .ok false
  else .error word

def applyRootVariable (value : Option String) (directory : Path) (c : Config) : Config :=
  match value with
  | none => c
  | some "" => c
  | some root => { c with root := directory.resolve ⟨root⟩ }

/-- Puts environment variables on. The root is set even if the other variable cannot be read. -/
def applyEnvironment (lookup : String → Option String) (directory : Path) : Act Config Unit := fun c =>
  let c := c.applyRootVariable (lookup rootVariable) directory
  match lookup cleanVariable with
  | none => .ok () c
  | some text =>
    match readBoolean text with
    | .ok clean => .ok () { c with cleanNames := clean }
    | .error word => .error (.invalidBoolean cleanVariable word) c

def filter (c : Config) : Except Error PathFilter :=
  PathFilter.ofSpecs c.includes c.excludes c.root

def projectOptions (c : Config) : ProjectOptions :=
  ProjectOptions.ofOverrides c.root (c.project.getD {})

end Config

end DeclBundle
