import DeclBundle.Log
import DeclBundle.Regex.Limits
import DeclBundle.Text.Blank

namespace DeclBundle

/-- Records whose target begins with a name, or all of them, are shown up to some detail. -/
structure Directive where
  name : Option String
  detail : Nat
deriving DecidableEq, Repr

structure LogFilter where
  directives : List Directive
  expression : Option Regex.Expr

namespace LogFilter

def mostDetail : Nat := Level.trace.detail

def detail? (word : List Char) : Option Nat :=
  let word := String.ofList (word.map Char.toUpper)
  if word = "OFF" then some 0
  else ([Level.error, .warn, .info, .debug, .trace].find? (·.label = word)).map Level.detail

def directive? (text : List Char) : Option Directive :=
  match text.splitOn '=' with
  | [word] =>
    match detail? word with
    | some n => some ⟨none, n⟩
    | none => some ⟨some (String.ofList word), mostDetail⟩
  | [name, word] =>
    let word := Text.trim word
    if word.isEmpty then some ⟨some (String.ofList name), mostDetail⟩
    else (detail? word).map (⟨some (String.ofList name), ·⟩)
  | _ => none

def add (d : Directive) (f : LogFilter) : LogFilter :=
  if f.directives.any (·.name = d.name) then
    { f with directives := f.directives.map fun e => if e.name = d.name then d else e }
  else { f with directives := f.directives ++ [d] }

/-- Adds the directives of a text, separated by commas, and the expression behind a slash. A text with
more slashes adds nothing. -/
def addText (text : List Char) (f : LogFilter) : LogFilter :=
  let addAll (part : List Char) : LogFilter :=
    (((part.splitOn ',').map Text.trim).filter (!·.isEmpty)).foldl (fun f s =>
      match directive? s with
      | some d => f.add d
      | none => f) f
  match text.splitOn '/' with
  | [part] => addAll part
  | [part, expression] => { addAll part with expression := Regex.parse? expression }
  | _ => f

def ofSettings (detail : Nat) (environment : Option String) : LogFilter :=
  let f : LogFilter := ⟨[⟨none, detail⟩], none⟩
  match environment with
  | some text => f.addText text.toList
  | none => f

def Directive.concerns (d : Directive) (target : String) : Bool :=
  d.name.all fun name => name.toList.isPrefixOf target.toList

def weight (d : Directive) : Nat := (d.name.getD "").utf8ByteSize

/-- Of the directives that concern a target, the last one with the longest name. -/
def directiveFor? (f : LogFilter) (target : String) : Option Directive :=
  f.directives.foldl (fun best d =>
    if !Directive.concerns d target then best
    else match best with
      | some b => if weight b ≤ weight d then some d else best
      | none => some d) none

def shows (f : LogFilter) (r : Record) : Bool :=
  (f.directiveFor? r.area.target).any (fun d => r.level.detail ≤ d.detail) &&
    f.expression.all (·.isMatch r.text.toList)

end LogFilter

def Record.line (r : Record) : String := r.level.label ++ " " ++ r.area.target ++ ": " ++ r.text

end DeclBundle
