import DeclBundle.Error

namespace DeclBundle

abbrev Act (σ α : Type) := EStateM Error σ α

namespace Act

def outcome (a : Act σ α) (s : σ) : Except Error α × σ :=
  match a s with
  | .ok x s => (.ok x, s)
  | .error e s => (.error e, s)

def ofExcept : Except Error α → Act σ α
  | .ok x => fun s => .ok x s
  | .error e => fun s => .error e s

def focus (get : σ → τ) (set : σ → τ → σ) (a : Act τ α) : Act σ α := fun s =>
  match a (get s) with
  | .ok x t => .ok x (set s t)
  | .error e t => .error e (set s t)

def second (a : Act τ α) : Act (σ × τ) α := focus Prod.snd (fun s t => (s.1, t)) a

def mapError (f : Error → Error) (a : Act σ α) : Act σ α := fun s =>
  match a s with
  | .ok x s => .ok x s
  | .error e s => .error (f e) s

def andFinally (a : Act σ α) (cleanup : σ → σ) : Act σ α := fun s =>
  match a s with
  | .ok x s => .ok x (cleanup s)
  | .error e s => .error e (cleanup s)

end Act

end DeclBundle
