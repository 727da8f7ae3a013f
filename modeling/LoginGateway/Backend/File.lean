import LoginGateway.Backend.Basic
import LoginGateway.Text.Split

namespace LoginGateway

abbrev Place := List String

abbrev Path := List String

namespace Files

inductive Entry where
  | directory
  | file (data : Octets)
  deriving DecidableEq, Repr

abbrev Tree := List (Place × Entry)

def entryAt? (tree : Tree) (place : Place) : Option Entry :=
  if place = [] then some .directory else tree.lookup place

def put (tree : Tree) (place : Place) (entry : Entry) : Tree := (place, entry) :: tree.filter (·.1 != place)

def drop (tree : Tree) (place : Place) : Tree := tree.filter (·.1 != place)

inductive Obstacle where
  | missing
  | notDirectory
  | isDirectory
  | badName
  deriving DecidableEq, Repr

def Obstacle.message : Obstacle → String
  | .missing => "no such file or directory"
  | .notDirectory => "not a directory"
  | .isDirectory => "is a directory"
  | .badName => "not a file name"

def nameLimit : Nat := 255

def isName (name : String) : Bool := name.utf8ByteSize ≤ nameLimit

def enter (place : Place) (step : String) : Place :=
  if step = "." then place else if step = ".." then place.dropLast else place ++ [step]

/-- Where a path leads from a place. Steps are taken in directories only, and the last may lead to nothing yet. -/
def follow (tree : Tree) (place : Place) : Path → Except Obstacle Place
  | [] => .ok place
  | step :: rest =>
    match entryAt? tree place with
    | none => .error .missing
    | some (.file _) => .error .notDirectory
    | some .directory => if isName step then follow tree (enter place step) rest else .error .badName

def isSpelled (path : Path) : Bool := path.all (!·.toList.contains '\x00')

def locate (tree : Tree) (path : Path) : Except Obstacle Place :=
  if isSpelled path then follow tree [] path else .error .badName

inductive Operation where
  | makeDirectory (path : Path)
  | create (path : Path)
  | append (path : Path) (data : Octets)
  | sync (path : Path)
  | rename (source target : Path)
  deriving DecidableEq, Repr

def perform (tree : Tree) : Operation → Except Obstacle Tree
  | .makeDirectory path => do
    let place ← locate tree path
    match entryAt? tree place with
    | some .directory => .ok tree
    | some (.file _) => .error .notDirectory
    | none => .ok (put tree place .directory)
  | .create path => do
    let place ← locate tree path
    match entryAt? tree place with
    | some .directory => .error .isDirectory
    | _ => .ok (put tree place (.file []))
  | .append path data => do
    let place ← locate tree path
    match entryAt? tree place with
    | some (.file written) => .ok (put tree place (.file (written ++ data)))
    | some .directory => .error .isDirectory
    | none => .error .missing
  | .sync path => do
    let place ← locate tree path
    match entryAt? tree place with
    | some _ => .ok tree
    | none => .error .missing
  | .rename source target => do
    let source ← locate tree source
    let target ← locate tree target
    match entryAt? tree source, entryAt? tree target with
    | some (.file _), some .directory => .error .isDirectory
    | some (.file data), _ => .ok (put (drop tree source) target (.file data))
    | some .directory, _ => .error .isDirectory
    | none, _ => .error .missing

def performAll (tree : Tree) : List Operation → Except Obstacle Unit × Tree
  | [] => (.ok (), tree)
  | operation :: rest =>
    match perform tree operation with
    | .ok next => performAll next rest
    | .error obstacle => (.error obstacle, tree)

def read (tree : Tree) (path : Path) : Except Obstacle (Option Octets) :=
  match locate tree path with
  | .error .missing => .ok none
  | .error obstacle => .error obstacle
  | .ok place => match entryAt? tree place with
    | some (.file data) => .ok (some data)
    | some .directory => .error .isDirectory
    | none => .ok none

def pathOf (text : String) : Path :=
  (Text.split (· == '/') text.toList).map fun step => if step.isEmpty then "." else String.ofList step

def moves (path : Path) : Path := path.filter (· != ".")

def ancestors (path : Path) : List Path := (List.range path.length).map (path.take ·)

def ofList (entries : List (String × Entry)) : Tree :=
  entries.foldl (fun tree (text, entry) =>
    let place := moves (pathOf text)
    let directories := (ancestors place).filter (!·.isEmpty)
    put (directories.foldl (put · · .directory) tree) place entry) []

def stem (name : String) : String :=
  match Text.cutLast (· == '.') name.toList with
  | (_, some (c :: before)) => String.ofList (c :: before)
  | _ => name

/-- The path of the temporary file beside a file. A path that ends by going up names no file, and stays. -/
def temporary (path : Path) : Path :=
  match (moves path).getLast? with
  | none | some ".." => path
  | some name => (moves path).dropLast ++ [stem name ++ ".tmp"]

def saveOperations (path : Path) (data : Octets) : List Operation :=
  (ancestors (moves path)).map .makeDirectory
    ++ [.create (temporary path), .append (temporary path) data, .sync (temporary path),
        .rename (temporary path) path]

end Files

structure FileBackend where
  path : String
  tree : Files.Tree
  deriving DecidableEq, Repr

namespace FileBackend

def below (directory path : String) (files : List (String × Octets)) : FileBackend :=
  let inside name := directory ++ "/" ++ name
  ⟨inside path, Files.ofList ((directory, .directory) :: files.map fun (name, data) => (inside name, .file data))⟩

instance : Backend FileBackend where
  load backend := ((Files.read backend.tree (Files.pathOf backend.path)).mapError (.io ·.message), backend)
  save backend data :=
    let (result, tree) := Files.performAll backend.tree (Files.saveOperations (Files.pathOf backend.path) data)
    (result.mapError (.io ·.message), { backend with tree := tree })
  describe backend := "file " ++ backend.path

end FileBackend

end LoginGateway
