import LoginGateway.Store.Basic
import LoginGateway.Store.Snapshot

namespace LoginGateway

namespace Snapshot

def generate (snapshot : Snapshot) (signer : Signer) (kind : TokenKind) (user email : String) :
    Except StoreError String × Nat :=
  firstFresh snapshot.index.containsToken 0 (signer user email kind.lifetime)

def userOf (snapshot : Snapshot) (token : String) : Except StoreError String :=
  match snapshot.index.userOf? token with
  | some user => .ok user
  | none => .error .tokenNotFound

def storeToken (snapshot : Snapshot) (name token user : String) : Snapshot :=
  { snapshot with index := snapshot.index.insert name token user }

def deleteToken (snapshot : Snapshot) (name : String) : Snapshot :=
  { snapshot with index := snapshot.index.remove name }

def hasCredential (snapshot : Snapshot) (user : String) : Bool := snapshot.users.contains user

def invalidate (snapshot : Snapshot) (user : String) : Snapshot :=
  { snapshot with users := snapshot.users.erase user }

def storeCredential (snapshot : Snapshot) (user : String) (credential : Credential) : Snapshot :=
  { snapshot with users := snapshot.users.insert user credential }

def credentialOf (snapshot : Snapshot) (user : String) : Except StoreError (Option Credential) :=
  match snapshot.users.find? user with
  | some credential => .ok (some credential)
  | none => .error (.userNotFound user)

end Snapshot

structure MemoryStore where
  state : Snapshot
  deriving DecidableEq

namespace MemoryStore

def empty : MemoryStore := ⟨.empty⟩

instance : TokenStore MemoryStore where
  generate store := store.state.generate
  nameList store := store.state.index.nameList
  containsName store := store.state.index.containsName
  userOf store := store.state.userOf
  storeToken store name token user := (.ok (), ⟨store.state.storeToken name token user⟩)
  deleteToken store name := (.ok (), ⟨store.state.deleteToken name⟩)
  hasCredential store := store.state.hasCredential
  invalidate store user := (.ok (), ⟨store.state.invalidate user⟩)
  storeCredential store user credential := (.ok (), ⟨store.state.storeCredential user credential⟩)
  credentialOf store := store.state.credentialOf

end MemoryStore

end LoginGateway
