import DeclBundle.CommandLine.Program
import DeclBundle.Json.Printer
import DeclBundle.Trial.World

open DeclBundle

def writtenFiles (before after : World) : Value :=
  .table ((FileTree.changes before.tree after.tree).map fun
    | .file place bytes => (place.path.text, .text (String.ofList (Text.decodeLossy bytes.toList)))
    | .emptyDirectory place => (place.path.text ++ "/", .null))

def main (arguments : List String) : IO UInt32 := do
  let line ← (← IO.getStdin).getLine
  let world := Trial.worldOf ((Json.parse? line).getD (.table []))
  let exit := Program.run arguments world
  for shown in exit.shown do
    IO.eprintln shown
  IO.println (Json.indented 0 (writtenFiles world exit.world))
  return UInt32.ofNat exit.code
