import DeclBundle.Engine.Basic
import DeclBundle.Json.Printer
import DeclBundle.Module.Sources
import DeclBundle.Path.Location
import DeclBundle.Text.Search

namespace DeclBundle

inductive SourceText where
  | onDisk
  | inMemory (text : String)
deriving DecidableEq, Repr

structure Layout where
  overlay : Path
  output : Path
  base : Path

namespace Staging

def externalDirectory : Path := "__external__"

def relative (root p : Path) : Path :=
  match root.below? p with
  | some rest => rest
  | none => p.steps.foldl (fun place step =>
      match step with
      | .name n => place.join ⟨n⟩
      | _ => place) externalDirectory

def compiledPath (root overlay : Path) : Path × SourceText → Path
  | (p, .onDisk) => p
  | (p, .inMemory _) => overlay.join (relative root p)

def stagedPaths (root overlay : Path) (sources : List (Path × SourceText)) : List (Path × Path) :=
  sources.filterMap fun (p, text) =>
    match text with
    | .onDisk => none
    | .inMemory _ => some (overlay.join (relative root p), p)

def baseDirectory (root : Path) (compiled : List Path) : Path :=
  (Path.commonAncestor? (root :: compiled.filterMap Path.parent?)).getD root

def isJavaScript (p : Path) : Bool := p.extension? = some "js" || p.extension? = some "jsx"

def compilerOptions (o : ProjectOptions) (sources : List Path) (l : Layout) : CompilerOptions :=
  let options := if sources.any isJavaScript then o.options.insertIfNew "allowJs" (.boolean true)
    else o.options
  ((((options.insert "outDir" (.text l.output.text)).insert
    "declarationDir" (.text l.output.text)).insert
    "rootDir" (.text l.base.text)).insert
    "rootDirs" (.list [.text o.root.text, .text l.overlay.text])).insert
    "noEmit" (.boolean false)

/-- The configuration that the compiler is run with. Its empty list of inclusions keeps that of the
project's own configuration out. -/
def tsconfig (o : ProjectOptions) (extending : Bool) (sources : List Path) (l : Layout)
    (compiled : List Path) : Value :=
  .table ([("compilerOptions", .table (compilerOptions o sources l).toList)] ++
    (if extending then [("extends", .text o.tsconfigPath.text)] else []) ++
    [("files", .list (compiled.map fun p => .text p.text)), ("include", .list [])])

def declarationName? (name : String) : Option String :=
  if [".d.ts", ".d.mts", ".d.cts"].any fun ending => ending.toList.isSuffixOf name.toList then none
  else
    [(".mts", ".d.mts"), (".mjs", ".d.mts"), (".cts", ".d.cts"), (".cjs", ".d.cts"), (".tsx", ".d.ts"),
      (".ts", ".d.ts"), (".jsx", ".d.ts"), (".js", ".d.ts")].findSome? fun (ending, declared) =>
      (Text.dropTail? ending.toList name.toList).map fun stem => String.ofList stem ++ declared

end Staging

end DeclBundle
