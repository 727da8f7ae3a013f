namespace LoginGateway.Toml

inductive Node where
  | text (content : String)
  | integer (n : Int)
  | boolean (value : Bool)
  | other
  | list (items : List Node)
  | inline (members : List (String × Node)) (isOpen : Bool)
  | table (members : List (String × Node)) (implicit dotted : Bool)
  | tables (items : List Node)
  deriving Repr

abbrev Members := List (String × Node)

def setMember (key : String) (node : Node) : Members → Members
  | [] => [(key, node)]
  | (other, old) :: rest => if other = key then (key, node) :: rest else (other, old) :: setMember key node rest

def addInline (members : Members) : List String → Node → Option Members
  | [], _ => none
  | [key], node => if (members.lookup key).isSome then none else some (setMember key node members)
  | key :: path, node =>
    match members.lookup key with
    | none => (addInline [] path node).map fun inner => setMember key (.inline inner true) members
    | some (.inline inner true) =>
      (addInline inner path node).map fun inner => setMember key (.inline inner true) members
    | some _ => none

def changeLast (change : Node → Option Node) : List Node → Option (List Node)
  | [] => none
  | [item] => (change item).map ([·])
  | item :: rest => (changeLast change rest).map (item :: ·)

def addDotted (members : Members) : List String → Node → Option Members
  | [], _ => none
  | [key], node => if (members.lookup key).isSome then none else some (setMember key node members)
  | key :: path, node =>
    match members.lookup key with
    | none => (addDotted [] path node).map fun inner => setMember key (.table inner true true) members
    | some (.table inner true dotted) =>
      if path.length = 1 ∧ !dotted then none
      else (addDotted inner path node).map fun inner => setMember key (.table inner true dotted) members
    | some (.tables items) =>
      if path.length = 1 then none
      else (changeLast (fun item => match item with
        | .table inner implicit dotted =>
          (addDotted inner path node).map fun inner => .table inner implicit dotted
        | _ => none) items).map fun items => setMember key (.tables items) members
    | some _ => none

def changeAt (change : Members → Option Members) : List String → Members → Option Members
  | [], members => change members
  | key :: path, members =>
    match members.lookup key with
    | none => (changeAt change path []).map fun inner => setMember key (.table inner true false) members
    | some (.table inner implicit dotted) =>
      (changeAt change path inner).map fun inner => setMember key (.table inner implicit dotted) members
    | some (.tables items) =>
      (changeLast (fun item => match item with
        | .table inner implicit dotted =>
          (changeAt change path inner).map fun inner => .table inner implicit dotted
        | _ => none) items).map fun items => setMember key (.tables items) members
    | some _ => none

def openTable (key : String) (members : Members) : Option Members :=
  match members.lookup key with
  | none => some (setMember key (.table [] false false) members)
  | some (.table inner true false) => some (setMember key (.table inner false false) members)
  | some _ => none

def openElement (key : String) (members : Members) : Option Members :=
  match members.lookup key with
  | none => some (setMember key (.tables [.table [] false false]) members)
  | some (.tables items) => some (setMember key (.tables (items ++ [.table [] false false])) members)
  | some _ => none

structure Draft where
  root : Members
  header : List String

def Draft.takeHeader (draft : Draft) (path : List String) (element : Bool) : Option Draft := do
  let key ← path.getLast?
  let root ← changeAt (if element then openElement key else openTable key) path.dropLast draft.root
  return ⟨root, path⟩

def Draft.takeValue (draft : Draft) (path : List String) (value : Node) : Option Draft := do
  let root ← changeAt (addDotted · path value) draft.header draft.root
  return { draft with root := root }

end LoginGateway.Toml
