import DeclBundle.Regex.Basic
import DeclBundle.Text.Digits
import DeclBundle.Text.Search

namespace DeclBundle.Regex

structure Flags where
  ignoreCase : Bool := false
  multiLine : Bool := false
  dotAll : Bool := false
  unicode : Bool := true
  crlf : Bool := false
  extended : Bool := false

structure State where
  flags : Flags := {}
  names : List (List Char) := []

def skipBlanks (flags : Flags) (s : List Char) : List Char :=
  if flags.extended then go s false else s
where
  go : List Char → Bool → List Char
    | [], _ => []
    | c :: s, true => go s (c != '\n')
    | c :: s, false => if Text.isBlank c then go s false else if c = '#' then go s true else c :: s

def codePoint? (flags : Flags) (count : Nat) (s : List Char) : Option (Char × List Char) :=
  match skipBlanks flags s with
  | '\x7b' :: s =>
    let digits := (s.takeWhile (· != '\x7d')).filter fun c => !(flags.extended && Text.isBlank c)
    match s.dropWhile (· != '\x7d') with
    | _ :: rest =>
      if digits.isEmpty || digits.length > 8 then none
      else do return (← Text.charOf? (← Text.hexadecimal? digits), rest)
    | [] => none
  | s => Text.codePoint? count s

def isMeta (c : Char) : Bool := c ∈ "\\.+*?()|[]\x7b\x7d^$#&-~".toList

inductive Escaped where
  | literal (c : Char)
  | set (s : CharSet)
  | look (l : Look)

def cutAt? (separator : List Char) : List Char → Option (List Char × List Char)
  | [] => none
  | c :: s =>
    match Text.dropHead? separator (c :: s) with
    | some rest => some ([], rest)
    | none => (cutAt? separator s).map fun (before, after) => (c :: before, after)

def propertySet? (body : List Char) : Option CharSet :=
  match cutAt? "!=".toList body with
  | some (property, value) => (CharSet.valued? property value).map CharSet.negate
  | none =>
    match (cutAt? [':'] body).or (cutAt? ['='] body) with
    | some (property, value) => CharSet.valued? property value
    | none => CharSet.named? body

def property? (flags : Flags) (s : List Char) : Option (CharSet × List Char) :=
  match skipBlanks flags s with
  | '\x7b' :: s =>
    let body := (s.takeWhile (· != '\x7d')).filter fun c => !(flags.extended && Text.isBlank c)
    match s.dropWhile (· != '\x7d') with
    | _ :: rest => (propertySet? body).map (·, rest)
    | [] => none
  | c :: s => (CharSet.ofCategory? (CharSet.plainName [c])).map (·, s)
  | [] => none

def boundary? (flags : Flags) (s : List Char) : Option (Look × List Char) :=
  let plain := (Look.boundary flags.unicode false, s)
  match s with
  | '\x7b' :: body =>
    match skipBlanks flags body with
    | [] => none
    | c :: body =>
      if !(c.isAlpha || c = '-') then some plain
      else
        let nameChar (c : Char) : Bool := c.isAlpha || c = '-'
        let name := (c :: body).takeWhile nameChar
        match skipBlanks flags ((c :: body).dropWhile nameChar) with
        | '\x7d' :: rest =>
          let sides (left right : Option Bool) := some (Look.sides flags.unicode left right, rest)
          match String.ofList name with
          | "start" => sides (some false) (some true)
          | "end" => sides (some true) (some false)
          | "start-half" => sides (some false) none
          | "end-half" => sides none (some false)
          | _ => none
        | _ => none
  | _ => some plain

def refuses (flags : Flags) (s : CharSet) : Bool := !flags.unicode && s.has 'é'

def foldIf (flags : Flags) (s : CharSet) : CharSet :=
  if flags.ignoreCase then s.foldCase flags.unicode else s

def escape? (flags : Flags) : List Char → Option (Escaped × List Char)
  | [] => none
  | c :: s =>
    let literal (c : Char) := some (Escaped.literal c, s)
    let look (l : Look) := some (Escaped.look l, s)
    if isMeta c then literal c
    else if c.toNat ≥ 128 then none
    else if !(c.isAlphanum || c = '<' || c = '>') then literal c
    else match c with
      | 'x' => (codePoint? flags 2 s).bind fun (c, rest) =>
        if !flags.unicode && !CharSet.isAscii c && (skipBlanks flags s).head? != some '\x7b' then none
        else some (.literal c, rest)
      | 'u' => (codePoint? flags 4 s).map fun (c, s) => (.literal c, s)
      | 'U' => (codePoint? flags 8 s).map fun (c, s) => (.literal c, s)
      | 'p' | 'P' =>
        if !flags.unicode then none
        else (property? flags s).map fun (found, s) =>
          let found := foldIf flags found
          (.set (if c = 'P' then found.negate else found), s)
      | 'd' | 's' | 'w' => some (.set (CharSet.perl flags.unicode c), s)
      | 'D' | 'S' | 'W' => some (.set (CharSet.perl flags.unicode c.toLower).negate, s)
      | 'a' => literal '\x07'
      | 'f' => literal '\x0c'
      | 't' => literal '\t'
      | 'n' => literal '\n'
      | 'r' => literal '\r'
      | 'v' => literal '\x0b'
      | 'A' => look .textStart
      | 'z' => look .textEnd
      | 'b' => (boundary? flags s).map fun (l, s) => (.look l, s)
      | 'B' => look (.boundary flags.unicode true)
      | '<' => look (.sides flags.unicode (some false) (some true))
      | '>' => look (.sides flags.unicode (some true) (some false))
      | _ => none

def member? (flags : Flags) (s : List Char) : Option (Escaped × List Char) :=
  let fits (c : Char) : Bool := flags.unicode || CharSet.isAscii c
  match s with
  | '\\' :: s =>
    match escape? flags s with
    | some (.look _, _) => none
    | some (.literal c, s) => if fits c then some (.literal c, s) else none
    | found => found
  | c :: s => if fits c then some (.literal c, s) else none
  | [] => none

def asciiSet? (flags : Flags) (s : List Char) : Option (CharSet × List Char) :=
  match s with
  | ':' :: s =>
    let (negated, s) := match s with
      | '^' :: s => (true, s)
      | s => (false, s)
    let name := s.takeWhile (· != ':')
    match s.dropWhile (· != ':') with
    | ':' :: ']' :: rest =>
      (CharSet.ascii? (String.ofList name)).map fun found =>
        let found := foldIf flags found
        (if negated then found.negate else found, rest)
    | _ => none
  | _ => none

inductive SetOperator where
  | inter
  | diff
  | symmDiff

def SetOperator.apply : SetOperator → CharSet → CharSet → CharSet
  | inter => CharSet.inter
  | diff => CharSet.diff
  | symmDiff => CharSet.symmDiff

/-- A set that is being read: what was combined so far and with which operator it goes on, and the union
of the members after the operator. -/
structure OpenSet where
  negated : Bool
  left : Option (CharSet × SetOperator)
  members : CharSet

def OpenSet.value (flags : Flags) (o : OpenSet) : CharSet :=
  match o.left with
  | none => o.members
  | some (left, operator) => operator.apply (foldIf flags left) (foldIf flags o.members)

def OpenSet.add (o : OpenSet) (s : CharSet) : OpenSet := { o with members := o.members.union s }

def OpenSet.close (flags : Flags) (o : OpenSet) : CharSet :=
  let s := foldIf flags (o.value flags)
  if o.negated then s.negate else s

def range? (flags : Flags) (s : List Char) : Option (CharSet × List Char) := do
  let (first, rest) ← member? flags s
  let alone := match first with
    | .literal c => some (CharSet.range c c, rest)
    | .set found => some (found, rest)
    | .look _ => none
  match skipBlanks flags rest with
  | [] => none
  | '-' :: rest =>
    match skipBlanks flags rest with
    | [] => none
    | ']' :: _ => alone
    | '-' :: _ => alone
    | rest =>
      let (second, rest) ← member? flags rest
      match first, second with
      | .literal low, .literal high => if high < low then none else some (CharSet.range low high, rest)
      | _, _ => none
  | _ => alone

def openSet (flags : Flags) (s : List Char) : OpenSet × List Char :=
  let s := skipBlanks flags s
  let (negated, s) := match s with
    | '^' :: s => (true, skipBlanks flags s)
    | s => (false, s)
  let dashes := s.takeWhile (· = '-')
  let s := skipBlanks flags (s.dropWhile (· = '-'))
  let members := if dashes.isEmpty then CharSet.none else CharSet.range '-' '-'
  match dashes, s with
  | [], ']' :: s => (⟨negated, none, CharSet.range ']' ']'⟩, s)
  | _, s => (⟨negated, none, members⟩, s)

/-- Reads a set on, with the sets around it that are open. -/
def setFrom? (flags : Flags) : Nat → OpenSet → List OpenSet → List Char → Option (CharSet × List Char)
  | 0, _, _, _ => none
  | fuel + 1, o, outer, s =>
    let combine (operator : SetOperator) (s : List Char) :=
      setFrom? flags fuel ⟨o.negated, some (o.value flags, operator), CharSet.none⟩ outer s
    match skipBlanks flags s with
    | [] => none
    | '[' :: s =>
      match asciiSet? flags s with
      | some (found, s) => setFrom? flags fuel (o.add found) outer s
      | none =>
        let opened := openSet flags s
        setFrom? flags fuel opened.1 (o :: outer) opened.2
    | ']' :: s =>
      let found := o.close flags
      match outer with
      | [] => some (found, s)
      | around :: outer => setFrom? flags fuel (around.add found) outer s
    | '&' :: '&' :: s => combine .inter s
    | '-' :: '-' :: s => combine .diff s
    | '~' :: '~' :: s => combine .symmDiff s
    | s =>
      match range? flags s with
      | some (found, s) => setFrom? flags fuel (o.add found) outer s
      | none => none

def count? (s : List Char) : Option (Nat × List Char) :=
  let s := s.dropWhile Text.isBlank
  let digits := s.takeWhile Char.isDigit
  let n := Text.decimal digits
  if digits.isEmpty || n ≥ Nat.pow 2 32 then none
  else some (n, (s.dropWhile Char.isDigit).dropWhile Text.isBlank)

def counts? (flags : Flags) (s : List Char) : Option (Nat × Option Nat × List Char) := do
  let (least, s) ← count? (skipBlanks flags s)
  let close (most : Option Nat) (s : List Char) : Option (Nat × Option Nat × List Char) :=
    match s with
    | '\x7d' :: s => some (least, most, s)
    | _ => none
  match s with
  | ',' :: s =>
    match skipBlanks flags s with
    | '\x7d' :: s => close none ('\x7d' :: s)
    | s =>
      let (most, s) ← count? s
      if most < least then none
      close (some most) s
  | s => close (some least) s

def setFlags? : Flags → Bool → List Char → List Char → Option (Flags × List Char)
  | _, _, _, [] => none
  | flags, on, seen, c :: s =>
    if c = ':' || c = ')' then if seen.head? = some '-' then none else some (flags, c :: s)
    else if c ∈ seen then none
    else
      let go (flags : Flags) := setFlags? flags on (c :: seen) s
      match c with
      | '-' => setFlags? flags false (c :: seen) s
      | 'i' => go { flags with ignoreCase := on }
      | 'm' => go { flags with multiLine := on }
      | 's' => go { flags with dotAll := on }
      | 'U' => go flags
      | 'u' => go { flags with unicode := on }
      | 'R' => go { flags with crlf := on }
      | 'x' => go { flags with extended := on }
      | _ => none

def groupName? (s : List Char) : Option (List Char × List Char) :=
  let name := s.takeWhile (· != '>')
  let fits (c : Char) : Bool := Unicode.isWord c || c = '.' || c = '[' || c = ']'
  match name, s.dropWhile (· != '>') with
  | c :: rest, _ :: s =>
    if (c = '_' || (Unicode.isWord c && !Unicode.isDigit c)) && rest.all fits then some (name, s)
    else none
  | _, _ => none

def sequenceOf (items : List (Option Expr)) : Expr :=
  match items.filterMap id with
  | [] => .empty
  | last :: earlier => earlier.foldl (fun e item => .sequence item e) last

def alternativesOf (branches : List Expr) (last : Expr) : Expr :=
  branches.foldl (fun e branch => .either branch e) last

def literalExpr (flags : Flags) (c : Char) : Expr := .set (foldIf flags (CharSet.range c c))

def dot (flags : Flags) : CharSet :=
  ⟨fun c => flags.dotAll || (c != '\n' && !(flags.crlf && c = '\r'))⟩

mutual

/-- Reads on after some branches and items (the last ones first), up to the end of the text or, inside of
a group, of the group. -/
def itemsFrom? : Nat → Bool → State → List Expr → List (Option Expr) → List Char →
    Option (Expr × State × List Char)
  | 0, _, _, _, _, _ => none
  | fuel + 1, inside, st, branches, items, s =>
    let flags := st.flags
    let item (e : Expr) (s : List Char) := itemsFrom? fuel inside st branches (some e :: items) s
    let setItem (found : CharSet) (s : List Char) :=
      if refuses flags found then none else item (.set found) s
    -- whether a repetition is greedy does not matter to what is matched
    let repeated (least : Nat) (most : Option Nat) (s : List Char) :=
      match items with
      | some e :: earlier =>
        let s := match s with
          | '?' :: s => s
          | s => s
        itemsFrom? fuel inside st branches (some (.times e least most) :: earlier) s
      | _ => none
    match skipBlanks flags s with
    | [] => if inside then none else some (alternativesOf branches (sequenceOf items), st, [])
    | '|' :: s => itemsFrom? fuel inside st (sequenceOf items :: branches) [] s
    | ')' :: s => if inside then some (alternativesOf branches (sequenceOf items), st, s) else none
    | '(' :: s =>
      match group? fuel st s with
      | some (found, st, s) => itemsFrom? fuel inside st branches (found :: items) s
      | none => none
    | '[' :: s =>
      let opened := openSet flags s
      match setFrom? flags (s.length + 1) opened.1 [] opened.2 with
      | some (found, s) => setItem found s
      | none => none
    | '*' :: s => repeated 0 none s
    | '+' :: s => repeated 1 none s
    | '?' :: s => repeated 0 (some 1) s
    | '\x7b' :: s =>
      match counts? flags s with
      | some (least, most, s) => repeated least most (skipBlanks flags s)
      | none => none
    | '.' :: s => setItem (dot flags) s
    | '^' :: s => item (.look (if flags.multiLine then .lineStart flags.crlf else .textStart)) s
    | '$' :: s => item (.look (if flags.multiLine then .lineEnd flags.crlf else .textEnd)) s
    | '\\' :: s =>
      match escape? flags s with
      | some (.literal c, s) => item (literalExpr flags c) s
      | some (.set found, s) => setItem found s
      | some (.look l, s) => item (.look l) s
      | none => none
    | c :: s => item (literalExpr flags c) s

def group? : Nat → State → List Char → Option (Option Expr × State × List Char)
  | 0, _, _ => none
  | fuel + 1, st, s =>
    let body (flags : Flags) (names : List (List Char)) (s : List Char) :=
      (itemsFrom? fuel true ⟨flags, names⟩ [] [] s).map fun (e, inner, s) =>
        (some (.group e), { st with names := inner.names }, s)
    let named (s : List Char) := (groupName? s).bind fun (name, s) =>
      if name ∈ st.names then none else body st.flags (name :: st.names) s
    match skipBlanks st.flags s with
    | '?' :: 'P' :: '<' :: s => named s
    | '?' :: '<' :: s =>
      if s.head? = some '=' || s.head? = some '!' then none else named s
    | '?' :: s =>
      match setFlags? st.flags true [] s with
      | some (flags, ':' :: rest) => body flags st.names rest
      | some (flags, ')' :: rest) =>
        if s.head? = some ')' then none else some (none, { st with flags := flags }, rest)
      | _ => none
    | s => body st.flags st.names s

end

def expression? (s : List Char) : Option Expr :=
  (itemsFrom? (2 * s.length + 2) false {} [] [] s).map (·.1)

end DeclBundle.Regex
