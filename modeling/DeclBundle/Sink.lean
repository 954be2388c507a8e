import DeclBundle.World

namespace DeclBundle

structure Sink (κ : Type) where
  write : Path → String → Act (κ × World) Unit

/-- What a sink in memory has taken, and the number of the write that it refuses. -/
structure MemorySink where
  written : List (Path × String) := []
  refuses : Option Nat := none

namespace Sink

def disk : Sink Unit where
  write p text := Act.second (do
    match p.parent? with
    | some directory => World.makePath (.makeDirectory directory) directory
    | none => pure ()
    World.writeText (.writeDeclaration p) p text)

def memory : Sink MemorySink where
  write p text := do
    let (s, w) ← get
    if s.refuses = some s.written.length then throw (.sinkRefused p)
    set ({ s with written := s.written ++ [(p, text)] }, w)

def dryRun : Sink (List (Path × Nat)) where
  write p text := do
    (World.note .info .sink
      ("Would write " ++ p.text ++ " (" ++ toString text.utf8ByteSize ++ " bytes)")).second
    modify fun (written, w) => (written ++ [(p, text.utf8ByteSize)], w)

end Sink

end DeclBundle
