import LoginGateway.Text.Utf8
import LoginGateway.Toml.Node
import LoginGateway.Toml.Scalar

namespace LoginGateway.Toml

def isBlank (c : Char) : Bool := c == ' ' || c == '\t'

def skipBlanks (text : List Char) : List Char := text.dropWhile isBlank

def isBareKeyChar (c : Char) : Bool := c.isAlphanum || c == '_' || c == '-'

def isScalarChar (c : Char) : Bool := c.isAlphanum || c == '+' || c == '-' || c == '_' || c == '.' || c == ':'

def depthLimit : Nat := 80

def key? (text : List Char) : Option (String × List Char) :=
  match text with
  | '\x22' :: _ | '\x27' :: _ => quoted? false text
  | _ =>
    let key := text.takeWhile isBareKeyChar
    if key.isEmpty then none else some (String.ofList key, text.drop key.length)

def path? : Nat → List Char → Option (List String × List Char)
  | 0, _ => none
  | bound + 1, text => do
    let (key, rest) ← key? (skipBlanks text)
    match skipBlanks rest with
    | '.' :: rest => do
      let (path, rest) ← path? bound rest
      return (key :: path, rest)
    | rest => return ([key], rest)

def skipComment? : List Char → Option (List Char)
  | '#' :: rest =>
    match rest.dropWhile isTextChar with
    | [] => some []
    | '\n' :: rest => some ('\n' :: rest)
    | '\r' :: '\n' :: rest => some ('\n' :: rest)
    | _ => none
  | text => some text

def skipLines? (inComment : Bool) : List Char → Option (List Char)
  | [] => some []
  | '\n' :: rest => skipLines? false rest
  | '\r' :: '\n' :: rest => skipLines? false rest
  | c :: rest =>
    if inComment then (if isTextChar c then skipLines? true rest else none)
    else if c == '#' then skipLines? true rest
    else if isBlank c then skipLines? false rest
    else some (c :: rest)

def scalar? (text : List Char) : Option (Node × List Char) :=
  let word := text.takeWhile isScalarChar
  let rest := text.drop word.length
  if word = ['t', 'r', 'u', 'e'] then some (.boolean true, rest)
  else if word = ['f', 'a', 'l', 's', 'e'] then some (.boolean false, rest)
  else if isDate word ∧ (rest.take 2).length = 2 ∧ rest.head? = some ' ' ∧ (rest.drop 1).head?.any Char.isDigit then
    let time := (rest.drop 1).takeWhile isScalarChar
    if isTimeWithOffset time then some (.other, rest.drop (1 + time.length)) else none
  else if isDateTime word then some (.other, rest)
  else match integer? word with
    | some n => some (.integer n, rest)
    | none => if isFloat word then some (.other, rest) else none

mutual
def value? (depth : Nat) : Nat → List Char → Option (Node × List Char)
  | 0, _ => none
  | bound + 1, text =>
    match text with
    | '\x22' :: _ | '\x27' :: _ => (quoted? true text).map fun (content, rest) => (.text content, rest)
    | '[' :: rest =>
      if depth ≤ 1 then none
      else (items? (depth - 1) bound rest).map fun (items, rest) => (.list items, rest)
    | '\x7b' :: rest =>
      if depth ≤ 1 then none
      else match skipBlanks rest with
        | '\x7d' :: rest => some (.inline [] false, rest)
        | rest => (members? (depth - 1) bound [] rest).map fun (members, rest) => (.inline members false, rest)
    | _ => scalar? text
def items? (depth : Nat) : Nat → List Char → Option (List Node × List Char)
  | 0, _ => none
  | bound + 1, text => do
    let text ← skipLines? false text
    match text with
    | ']' :: rest => return ([], rest)
    | _ => do
      let (item, rest) ← value? depth bound text
      let rest ← skipLines? false rest
      match rest with
      | ',' :: rest => do
        let (items, rest) ← items? depth bound rest
        return (item :: items, rest)
      | ']' :: rest => return ([item], rest)
      | _ => none
def members? (depth : Nat) : Nat → Members → List Char → Option (Members × List Char)
  | 0, _, _ => none
  | bound + 1, members, text => do
    let (path, rest) ← path? depthLimit text
    match rest with
    | '=' :: rest => do
      let (value, rest) ← value? depth bound (skipBlanks rest)
      let members ← addInline members path value
      match skipBlanks rest with
      | ',' :: rest => members? depth bound members rest
      | '\x7d' :: rest => return (members, rest)
      | _ => none
    | _ => none
end

def endLine? (text : List Char) : Option (List Char) := do
  match ← skipComment? (skipBlanks text) with
  | [] => some []
  | '\n' :: rest => some rest
  | '\r' :: '\n' :: rest => some rest
  | _ => none

def expression? (draft : Draft) (text : List Char) : Option (Draft × List Char) :=
  match text with
  | '[' :: '[' :: rest => do
    let (path, rest) ← path? depthLimit rest
    match rest with
    | ']' :: ']' :: rest => return (← draft.takeHeader path true, rest)
    | _ => none
  | '[' :: rest => do
    let (path, rest) ← path? depthLimit rest
    match rest with
    | ']' :: rest => return (← draft.takeHeader path false, rest)
    | _ => none
  | [] | '\n' :: _ | '\r' :: '\n' :: _ | '#' :: _ => some (draft, text)
  | _ => do
    let (path, rest) ← path? depthLimit text
    match rest with
    | '=' :: rest => do
      let (value, rest) ← value? depthLimit rest.length.succ (skipBlanks rest)
      return (← draft.takeValue path value, rest)
    | _ => none

def lines? : Nat → Draft → List Char → Option Draft
  | 0, draft, text => if text.isEmpty then some draft else none
  | bound + 1, draft, text =>
    if text.isEmpty then some draft
    else do
      let (draft, rest) ← expression? draft (skipBlanks text)
      lines? bound draft (← endLine? rest)

def parse? (text : String) : Option Members :=
  let lines := match text.toList with
    | '\uFEFF' :: rest => rest
    | chars => chars
  (lines? lines.length ⟨[], []⟩ lines).map Draft.root

end LoginGateway.Toml
