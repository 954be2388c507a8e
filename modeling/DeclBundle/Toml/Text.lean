import DeclBundle.Text.Digits

namespace DeclBundle.Toml

def isBlank (c : Char) : Bool := c = ' ' || c = '\t'

def isControl (c : Char) : Bool := (c.toNat < 32 && c != '\t') || c.toNat = 127

def escape? : List Char → Option (Char × List Char)
  | [] => none
  | c :: s =>
    match c with
    | '"' => some ('"', s)
    | '\\' => some ('\\', s)
    | 'b' => some ('\x08', s)
    | 'e' => some ('\x1b', s)
    | 'f' => some ('\x0c', s)
    | 'n' => some ('\n', s)
    | 'r' => some ('\r', s)
    | 't' => some ('\t', s)
    | 'x' => Text.codePoint? 2 s
    | 'u' => Text.codePoint? 4 s
    | 'U' => Text.codePoint? 8 s
    | _ => none

def shortText? (quote : Char) : Nat → List Char → List Char → Option (String × List Char)
  | 0, _, _ => none
  | fuel + 1, acc, s =>
    match s with
    | [] => none
    | c :: s =>
      if c = quote then some (String.ofList acc.reverse, s)
      else if c = '\\' && quote = '"' then
        match escape? s with
        | some (c, s) => shortText? quote fuel (c :: acc) s
        | none => none
      else if isControl c then none
      else shortText? quote fuel (c :: acc) s

/-- What follows a backslash at the end of a line: the next text that is not blank. -/
def joinLine? (s : List Char) : Option (List Char) :=
  let rest := s.dropWhile isBlank
  let skip (c : Char) : Bool := isBlank c || c = '\n' || c = '\r'
  match rest with
  | '\n' :: _ => some (rest.dropWhile skip)
  | '\r' :: '\n' :: _ => some (rest.dropWhile skip)
  | _ => none

/-- The rest of a text on several lines, after its three quotes. Up to two quotes may come before the
three that close it. -/
def longText? (quote : Char) : Nat → List Char → List Char → Option (String × List Char)
  | 0, _, _ => none
  | fuel + 1, acc, s =>
    match s with
    | [] => none
    | c :: s =>
      if c = quote then
        let run := (s.takeWhile (· = quote)).length + 1
        -- the last three quotes of a run close the text, and those before them belong to it
        if run < 3 then longText? quote fuel (c :: acc) s
        else if run > 5 then none
        else some (String.ofList (List.replicate (run - 3) quote ++ acc).reverse, s.drop (run - 1))
      else if c = '\\' && quote = '"' then
        match joinLine? s with
        | some s => longText? quote fuel acc s
        | none =>
          match escape? s with
          | some (c, s) => longText? quote fuel (c :: acc) s
          | none => none
      else if c = '\n' then longText? quote fuel ('\n' :: acc) s
      else if c = '\r' && s.head? = some '\n' then longText? quote fuel acc s
      else if isControl c then none
      else longText? quote fuel (c :: acc) s

def text? (s : List Char) : Option (String × List Char) :=
  let long (quote : Char) (s : List Char) :=
    let s := match s with
      | '\n' :: s => s
      | '\r' :: '\n' :: s => s
      | s => s
    longText? quote (s.length + 1) [] s
  match s with
  | '"' :: '"' :: '"' :: s => long '"' s
  | '\'' :: '\'' :: '\'' :: s => long '\'' s
  | '"' :: s => shortText? '"' (s.length + 1) [] s
  | '\'' :: s => shortText? '\'' (s.length + 1) [] s
  | _ => none

def isBareKey (c : Char) : Bool := c.isAlphanum || c = '_' || c = '-'

def keyPart? (s : List Char) : Option (String × List Char) :=
  match s with
  | '"' :: s => shortText? '"' (s.length + 1) [] s
  | '\'' :: s => shortText? '\'' (s.length + 1) [] s
  | s =>
    let name := s.takeWhile isBareKey
    if name.isEmpty then none else some (String.ofList name, s.dropWhile isBareKey)

def key? : Nat → List Char → Option (List String × List Char)
  | 0, _ => none
  | fuel + 1, s => do
    let (part, s) ← keyPart? (s.dropWhile isBlank)
    match s.dropWhile isBlank with
    | '.' :: s => (key? fuel s).map fun (parts, s) => (part :: parts, s)
    | s => some ([part], s)

end DeclBundle.Toml
