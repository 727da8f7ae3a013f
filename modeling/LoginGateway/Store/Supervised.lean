import LoginGateway.Store.Basic

namespace LoginGateway

structure StoreFaults where
  generate : Bool := false
  storeToken : Bool := false
  storeCredential : Bool := false
  invalidate : Bool := false
  deleteToken : Bool := false
  fetchError : Bool := false
  fetchEmpty : Bool := false
  deriving DecidableEq, Repr

inductive StoreChange where
  | storeToken (name token user : String)
  | deleteToken (name : String)
  | invalidate (user : String)
  | storeCredential (user : String)
  deriving DecidableEq, Repr

structure SupervisedStore (σ : Type) where
  inner : σ
  faults : StoreFaults
  changes : List StoreChange

namespace SupervisedStore

variable {σ : Type} [TokenStore σ]

def record (store : SupervisedStore σ) (change : StoreChange) : SupervisedStore σ :=
  { store with changes := change :: store.changes }

def after (store : SupervisedStore σ) (done : Except StoreError Unit × σ) :
    Except StoreError Unit × SupervisedStore σ :=
  (done.1, { store with inner := done.2 })

instance : TokenStore (SupervisedStore σ) where
  generate store signer kind user email :=
    if store.faults.generate then (.error (.signing Signer.noKey), 0)
    else TokenStore.generate store.inner signer kind user email
  nameList store := TokenStore.nameList store.inner
  containsName store := TokenStore.containsName store.inner
  userOf store := TokenStore.userOf store.inner
  storeToken store name token user :=
    if store.faults.storeToken then (.error (.userNotFound user), store)
    else (store.record (.storeToken name token user)).after (TokenStore.storeToken store.inner name token user)
  deleteToken store name :=
    let store := store.record (.deleteToken name)
    if store.faults.deleteToken then (.error .tokenNotFound, store)
    else store.after (TokenStore.deleteToken store.inner name)
  hasCredential store := TokenStore.hasCredential store.inner
  invalidate store user :=
    let store := store.record (.invalidate user)
    if store.faults.invalidate then (.error (.userNotFound user), store)
    else store.after (TokenStore.invalidate store.inner user)
  storeCredential store user credential :=
    if store.faults.storeCredential then (.error (.userNotFound user), store)
    else (store.record (.storeCredential user)).after (TokenStore.storeCredential store.inner user credential)
  credentialOf store user :=
    if store.faults.fetchEmpty then .ok none
    else if store.faults.fetchError then .error (.userNotFound user)
    else TokenStore.credentialOf store.inner user

end SupervisedStore

end LoginGateway
