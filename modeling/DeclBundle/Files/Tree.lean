import DeclBundle.Files.Error
import DeclBundle.Path.Basic

namespace DeclBundle

abbrev Place := List String

inductive Entry where
  | file (bytes : ByteArray) (executable : Bool)
  | directory
  | link (target : Path)

structure FileTree where
  entries : List (Place × Entry)

namespace FileTree

def empty : FileTree := ⟨[]⟩

def entry? (t : FileTree) (place : Place) : Option Entry :=
  if place = [] then some .directory else t.entries.lookup place

def put (place : Place) (e : Entry) (t : FileTree) : FileTree :=
  ⟨go t.entries⟩
where
  go : List (Place × Entry) → List (Place × Entry)
    | [] => [(place, e)]
    | (p, old) :: rest => if p = place then (place, e) :: rest else (p, old) :: go rest

def remove (place : Place) (t : FileTree) : FileTree :=
  ⟨t.entries.filter fun (p, _) => !place.isPrefixOf p⟩

/-- Where a path ends: at an entry, or at a name that a directory does not have, with a slash after it
or not. -/
inductive Target where
  | found (place : Place) (entry : Entry)
  | missing (directory : Place) (name : String) (slash : Bool)

def linkLimit : Nat := 40

def pieces (p : Path) : List String := (p.text.toList.splitOn '/').map String.ofList

/-- Follows pieces of a path from a directory. A link at the end is followed if asked for, or if a slash
comes after it. -/
def walk (t : FileTree) (follow : Bool) (links : Nat) (here : Place) :
    List String → Except FileError Target
  | [] => .ok (.found here .directory)
  | piece :: rest =>
    if piece = "" || piece = "." then walk t follow links here rest
    else if piece = ".." then walk t follow links here.dropLast rest
    else if piece.utf8ByteSize > 255 then .error .nameTooLong
    else match t.entry? (here ++ [piece]) with
      | none =>
        -- empty pieces at the end are slashes after the name
        if rest.all (· = "") then .ok (.missing here piece (!rest.isEmpty)) else .error .notFound
      | some .directory => walk t follow links (here ++ [piece]) rest
      | some (.file bytes executable) =>
        if rest.isEmpty then .ok (.found (here ++ [piece]) (.file bytes executable))
        else .error .notADirectory
      | some (.link target) =>
        if rest.isEmpty && !follow then .ok (.found (here ++ [piece]) (.link target))
        else match links with
          | 0 => .error .tooManyLinks
          | links + 1 => walk t follow links (if target.isRooted then [] else here)
            (pieces target ++ rest)
termination_by rest => (links, rest.length)

def resolve (t : FileTree) (here : Place) (p : Path) (follow : Bool) : Except FileError Target :=
  if p.text.isEmpty then .error .notFound
  else if p.text.toList.contains '\x00' then .error .invalidName
  else t.walk follow linkLimit (if p.isRooted then [] else here) (pieces p)

def find (t : FileTree) (here : Place) (p : Path) : Except FileError (Place × Entry) :=
  match t.resolve here p true with
  | .ok (.found place e) => .ok (place, e)
  | .ok (.missing _ _ _) => .error .notFound
  | .error e => .error e

def isFile (t : FileTree) (here : Place) (p : Path) : Bool :=
  match t.find here p with
  | .ok (_, .file _ _) => true
  | _ => false

def isDirectory (t : FileTree) (here : Place) (p : Path) : Bool :=
  match t.find here p with
  | .ok (_, .directory) => true
  | _ => false

def readText (t : FileTree) (here : Place) (p : Path) : Except FileError String :=
  match t.find here p with
  | .error e => .error e
  | .ok (_, .file bytes _) =>
    match String.fromUTF8? bytes with
    | some text => .ok text
    | none => .error .invalidData
  | .ok _ => .error .isADirectory

def write (t : FileTree) (here : Place) (p : Path) (bytes : ByteArray) : Except FileError FileTree :=
  match t.resolve here p true with
  | .error e => .error e
  | .ok (.found place (.file _ executable)) => .ok (t.put place (.file bytes executable))
  | .ok (.found _ _) => .error .isADirectory
  | .ok (.missing directory name slash) =>
    if slash then .error .isADirectory else .ok (t.put (directory ++ [name]) (.file bytes false))

def makeDirectory (t : FileTree) (here : Place) (p : Path) : Except FileError FileTree :=
  match t.resolve here p false with
  | .error e => .error e
  | .ok (.found _ _) => .error .alreadyExists
  | .ok (.missing directory name _) => .ok (t.put (directory ++ [name]) .directory)

/-- Makes a directory after the directories above it that are missing; what was made stays when a later
step fails. The fuel bounds how many there are above. -/
def makeDirectories (here : Place) : Nat → Path → FileTree → Except FileError Unit × FileTree
  | 0, _, t => (.error .nameTooLong, t)
  | fuel + 1, p, t =>
    match p.parent? with
    | none => (.ok (), t)
    | some above =>
      let settle (made : Except FileError FileTree) (t : FileTree) : Except FileError Unit × FileTree :=
        match made with
        | .ok t => (.ok (), t)
        | .error .alreadyExists =>
          if t.isDirectory here p then (.ok (), t) else (.error .alreadyExists, t)
        | .error e => (.error e, t)
      match t.makeDirectory here p with
      | .error .notFound =>
        if above.text.isEmpty then (.error .notFound, t)
        else match makeDirectories here fuel above t with
          | (.ok (), t) => settle (t.makeDirectory here p) t
          | failed => failed
      | made => settle made t

def makePath (t : FileTree) (here : Place) (p : Path) : Except FileError Unit × FileTree :=
  if p.text.isEmpty then (.ok (), t) else makeDirectories here (p.text.length + 1) p t

def freshName (taken : String → Bool) : Nat → String → String
  | 0, name => name
  | fuel + 1, name => if taken name then freshName taken fuel (name ++ "-") else name

def makeFresh (t : FileTree) (here : Place) (directory : Path) (start : String) :
    Path × Except FileError FileTree :=
  let taken (name : String) : Bool :=
    match t.resolve here (directory.join ⟨name⟩) false with
    | .ok (.found _ _) => true
    | _ => false
  let p := directory.join ⟨freshName taken (t.entries.length + 1) (start ++ "STAGE")⟩
  (p, t.makeDirectory here p)

def names (t : FileTree) (place : Place) : List String :=
  let below := t.entries.filterMap fun (p, _) =>
    if p.dropLast = place then p.getLast? else none
  below.mergeSort fun a b => !(b < a)

def removePath (t : FileTree) (here : Place) (p : Path) : FileTree :=
  match t.resolve here p false with
  | .ok (.found place _) => t.remove place
  | _ => t

def plant (place : Place) (e : Entry) (t : FileTree) : FileTree :=
  let above := (List.range place.length).map place.take
  (above.foldl (fun t p => if (t.entry? p).isSome then t else t.put p .directory) t).put place e

inductive Change where
  | file (place : Place) (bytes : ByteArray)
  | emptyDirectory (place : Place)

def changes (before after : FileTree) : List Change :=
  after.entries.filterMap fun (place, e) =>
    match e with
    | .file bytes _ =>
      match before.entry? place with
      | some (.file old _) => if old == bytes then none else some (.file place bytes)
      | _ => some (.file place bytes)
    | .directory =>
      if (before.entry? place).isNone && (after.names place).isEmpty then some (.emptyDirectory place)
      else none
    | .link _ => none

end FileTree

def Place.path (place : Place) : Path := ⟨"/" ++ "/".intercalate place⟩

end DeclBundle
