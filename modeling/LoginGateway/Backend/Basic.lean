import LoginGateway.Http.Status
import LoginGateway.Json.Decode

namespace LoginGateway

inductive BackendError where
  | unreachable
  | status (code : Nat) (body : String)
  | io (reason : String)
  | json (fault : Json.Fault)
  | notBase64
  | missingKey (key : String)
  | tooLarge (size limit : Nat)
  | misconfigured (reason : String)
  deriving DecidableEq, Repr

def BackendError.message (wording : Json.Wording) : BackendError → String
  | .unreachable => "request to backing store failed: no complete answer"
  | .status code body => "backing store returned " ++ Http.statusText code ++ ": " ++ body
  | .io reason => "I/O error: " ++ reason
  | .json fault => "invalid response from backing store: " ++ fault.message wording
  | .notBase64 => "stored data is not valid base64: not the base64 text of any data"
  | .missingKey key => "key " ++ key ++ " not found in stored object"
  | .tooLarge size limit => "blob of " ++ toString size ++ " bytes exceeds the " ++ toString limit ++ " byte limit"
  | .misconfigured reason => "backend misconfigured: " ++ reason

class Backend (β : Type) where
  load : β → Except BackendError (Option Octets) × β
  save : β → Octets → Except BackendError Unit × β
  describe : β → String

structure MemoryBackend where
  blob : Option Octets
  saves : Nat
  deriving DecidableEq, Repr

instance : Backend MemoryBackend where
  load backend := (.ok backend.blob, backend)
  save backend data := (.ok (), ⟨some data, backend.saves + 1⟩)
  describe _ := "memory"

/-- A backend that fails by a script: on every load or none, and on those saves, counted from the first, that
the script says. -/
structure UnreliableBackend (β : Type) where
  inner : β
  loadFails : Bool
  saveFails : List Bool

instance {β : Type} [Backend β] : Backend (UnreliableBackend β) where
  load backend :=
    if backend.loadFails then (.error (.misconfigured "unreachable"), backend)
    else
      let (result, inner) := Backend.load backend.inner
      (result, { backend with inner := inner })
  save backend data :=
    if backend.saveFails.head?.getD false then
      (.error (.misconfigured "unreachable"), { backend with saveFails := backend.saveFails.tail })
    else
      let (result, inner) := Backend.save backend.inner data
      (result, { backend with inner := inner, saveFails := backend.saveFails.tail })
  describe backend := Backend.describe backend.inner

end LoginGateway
