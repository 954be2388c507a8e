import DeclBundle.Json.Parser
import DeclBundle.Trial.Compiler
import DeclBundle.Value.Basic

namespace DeclBundle.Trial

def fieldsOf : Option Value → List (String × Value)
  | some (.table fields) => fields
  | _ => []

def itemsOf : Option Value → List Value
  | some (.list items) => items
  | _ => []

def textOf : Option Value → Option String
  | some (.text s) => some s
  | _ => none

def bytesOf (digits : List Char) : List UInt8 :=
  match digits with
  | a :: b :: rest =>
    let value (c : Char) := (Text.hexDigit? c).getD 0
    UInt8.ofNat (16 * value a + value b) :: bytesOf rest
  | _ => []

def contentOf (v : Value) : Content :=
  match v with
  | .text s => .text s
  | v => .bytes ⟨(bytesOf ((textOf (v.field? "hex")).getD "").toList).toArray⟩

def placeOf (text : String) : Place := (Path.mk text).location.names

def entryOf (v : Value) : Entry :=
  match v with
  | .text s => .file s.toUTF8 false
  | v =>
    if (v.field? "dir").isSome then .directory
    else match textOf (v.field? "symlink") with
      | some target => .link ⟨target⟩
      | none =>
        if (v.field? "tsc").isSome then .file "tsc".toUTF8 true
        else .file ⟨(bytesOf ((textOf (v.field? "hex")).getD "").toList).toArray⟩ false

def standing : List Place := [["tmp"], ["home"], ["proj"]]

def placeIn (t : FileTree) (text : String) : Place :=
  let place := placeOf text
  match t.find [] (Place.path place.dropLast), place.getLast? with
  | .ok (directory, .directory), some name => directory ++ [name]
  | _, _ => place

/-- Puts an entry where a path leads; a directory that is there stays as it is. -/
def addEntry (t : FileTree) (path : String) (e : Entry) : FileTree :=
  let place := placeIn t path
  match e with
  | .directory => if (t.entry? place).isSome then t else t.plant place .directory
  | e => t.plant place e

def treeOf (files : List (String × Value)) : FileTree :=
  files.foldl (fun t (path, v) => addEntry t path (entryOf v))
    (standing.foldl (fun t place => t.put place .directory) .empty)

def turnOf (v : Value) : CompilerTurn where
  writes := (itemsOf (v.field? "write")).filterMap fun
    | .list [.text path, content] => some (path, contentOf content)
    | _ => none
  stdout := ((v.field? "stdout").map contentOf).getD (.text "")
  stderr := ((v.field? "stderr").map contentOf).getD (.text "")
  status := match v.field? "exit" with
    | some (.number (.integer n)) => (n % 256).toNat
    | _ => 0

def standingVariables : List (String × String) :=
  [("HOME", "/home"), ("TMPDIR", "/tmp"), ("PATH", "/bin")]

def worldOf (v : Value) : World :=
  let directory := (textOf (v.field? "cwd")).getD "/proj"
  let tree := addEntry (treeOf (fieldsOf (v.field? "files"))) directory .directory
  let settings := (fieldsOf (v.field? "env")).filterMap fun
    | (name, .text s) => some (name, s)
    | _ => none
  { tree := tree
    directory := match tree.find [] (placeOf directory).path with
      | .ok (place, _) => place
      | .error _ => placeOf directory
    environment := settings ++ standingVariables
    compiler := CompilerTurn.compiler ((itemsOf (v.field? "runs")).map turnOf) }

end DeclBundle.Trial
