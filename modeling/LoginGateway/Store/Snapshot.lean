import LoginGateway.Credential
import LoginGateway.Json.Value
import LoginGateway.Store.Index

namespace LoginGateway

structure Snapshot where
  index : TokenIndex
  users : Dict Credential
  deriving DecidableEq

namespace Snapshot

open Json

def empty : Snapshot := ⟨.empty, .empty⟩

def sizeLimit : Nat := 1024 * 1024

def usersJson (users : Dict Credential) : Octets :=
  Json.object (users.entries.map fun (user, credential) => (user, credential.json))

def json (snapshot : Snapshot) : Octets :=
  Json.object (snapshot.index.members ++ [("users", usersJson snapshot.users)])

structure Draft where
  index : TokenIndex.Draft := {}
  users : Option (Dict Credential) := none

def indexField (inner : RecordField TokenIndex.Draft) : RecordField Draft where
  name := inner.name
  seen draft := inner.seen draft.index
  optional := inner.optional
  read node draft := (inner.read node draft.index).map fun index => { draft with index := index }

def fields : List (RecordField Draft) :=
  TokenIndex.fields.map indexField
    ++ [field "users" true (TokenIndex.mapDecoder Credential.decoder) (·.users) fun draft value =>
      { draft with users := some value }]

def otherMember : Decoder Unit := fun node => (Node.value (depthLimit - 1) node).map fun _ => ()

def decoder : Decoder Snapshot :=
  objectRecord otherMember fields {} fun draft => .ok ⟨draft.index.index, draft.users.getD .empty⟩

def ofJson? (data : Octets) : Option Snapshot := (decode decoder data).toOption

def unreadable : String := "Failed to deserialize token snapshot"

def tokenCount (snapshot : Snapshot) : Nat := snapshot.index.tokens.size

def userCount (snapshot : Snapshot) : Nat := snapshot.users.size

end Snapshot

end LoginGateway
