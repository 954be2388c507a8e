import DeclBundle.Path.Basic

namespace DeclBundle

inductive Category where
  | error
  | warning
  | suggestion
  | message
deriving DecidableEq, Repr

namespace Category

def all : List Category := [error, warning, suggestion, message]

def label : Category → String
  | error => "error"
  | warning => "warning"
  | suggestion => "suggestion"
  | message => "message"

end Category

structure Position where
  file : Path
  line : Nat
  column : Nat
deriving DecidableEq, Repr

structure Diagnostic where
  category : Category
  code : Nat
  message : String
  position : Option Position
deriving DecidableEq, Repr

namespace Diagnostic

def positionText : Option Position → String
  | none => ""
  | some p => p.file.text ++ "(" ++ toString p.line ++ "," ++ toString p.column ++ "): "

def text (d : Diagnostic) : String :=
  positionText d.position ++ d.category.label ++ " TS" ++ toString d.code ++ ": " ++ d.message

def format (ds : List Diagnostic) : String := "\n".intercalate (ds.map text)

end Diagnostic

end DeclBundle
