import LoginGateway.Dict
import LoginGateway.Json.Decode
import LoginGateway.Json.Printer

namespace LoginGateway

structure TokenIndex where
  names : Dict String
  tokens : Dict String
  deriving DecidableEq

namespace TokenIndex

def empty : TokenIndex := ⟨.empty, .empty⟩

def displace (tokens : Dict String) (previous : Option String) (token : String) : Dict String :=
  match previous with
  | some old => if old = token then tokens else tokens.erase old
  | none => tokens

/-- Gives a name a token of a user. The token that the name held is gone, and no other name holds the new
one. -/
def insert (index : TokenIndex) (name token user : String) : TokenIndex where
  names := (index.names.insert name token).filter fun other held => other == name || held != token
  tokens := (displace index.tokens (index.names.find? name) token).insert token user

def removal (index : TokenIndex) (name : String) : TokenIndex × Bool :=
  match index.names.find? name with
  | some token => (⟨index.names.erase name, index.tokens.erase token⟩, true)
  | none => (index, false)

def remove (index : TokenIndex) (name : String) : TokenIndex := (index.removal name).1

def containsName (index : TokenIndex) (name : String) : Bool := index.names.contains name

def containsToken (index : TokenIndex) (token : String) : Bool := index.tokens.contains token

def userOf? (index : TokenIndex) (token : String) : Option String := index.tokens.find? token

def nameList (index : TokenIndex) : List String := index.names.keys

open Json

def mapJson (dict : Dict String) : Octets := Json.object (dict.entries.map fun (key, value) => (key, quote value))

def members (index : TokenIndex) : List (String × Octets) :=
  [("names", mapJson index.names), ("tokens", mapJson index.tokens)]

def mapDecoder {α : Type} (decoder : Decoder α) : Decoder (Dict α) := fun node =>
  (nullable (membersOf decoder) node).map fun members => .ofList (members.getD [])

structure Draft where
  names : Option (Dict String) := none
  tokens : Option (Dict String) := none

def fields : List (RecordField Draft) :=
  [field "names" true (mapDecoder text) (·.names) fun draft value => { draft with names := some value },
   field "tokens" true (mapDecoder text) (·.tokens) fun draft value => { draft with tokens := some value }]

def Draft.index (draft : Draft) : TokenIndex := ⟨draft.names.getD .empty, draft.tokens.getD .empty⟩

def decoder : Decoder TokenIndex := record fields {} fun draft => .ok draft.index

end TokenIndex

end LoginGateway
