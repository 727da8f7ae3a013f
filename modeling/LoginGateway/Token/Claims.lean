import LoginGateway.Json.Decode
import LoginGateway.Json.Printer
import LoginGateway.Time.Instant

namespace LoginGateway

structure ApiClaims where
  subject : String
  email : String
  salt : UInt64
  expiry : Option Int64
  deriving DecidableEq, Repr

structure StateClaims where
  destination : String
  expiry : Option Int64
  deriving DecidableEq, Repr

structure IdClaims where
  subject : Option String
  email : Option String
  deriving DecidableEq, Repr

def expiredAt (expiry : Option Int64) (now : Instant) : Bool :=
  match expiry with
  | some second => second.toInt < now.seconds
  | none => false

namespace Claims

def stateLifetime : Int := 300

def expiryAfter? (now : Instant) (lifetime : Int) : Option Int64 :=
  (now.after? lifetime).map fun instant => Int64.ofInt instant.seconds

def expiryMember : Option Int64 → List (String × Octets)
  | some second => [("exp", Json.integer second.toInt)]
  | none => []

def textMember (key text : String) : List (String × Octets) := if text.isEmpty then [] else [(key, Json.quote text)]

end Claims

open Claims Json

/-- Claims for a user; there are none if the lifetime leads out of the calendar. -/
def ApiClaims.issue? (user email : String) (salt : UInt64) (now : Instant) (lifetime : Int) : Option ApiClaims :=
  (expiryAfter? now lifetime).map fun second => ⟨user, email, salt, some second⟩

def StateClaims.issue? (destination : String) (now : Instant) : Option StateClaims :=
  (expiryAfter? now stateLifetime).map fun second => ⟨destination, some second⟩

def ApiClaims.json (claims : ApiClaims) : Octets :=
  Json.object ([("sub", quote claims.subject)] ++ textMember "email" claims.email
    ++ [("randomizer", Json.natural claims.salt.toNat)] ++ expiryMember claims.expiry)

def StateClaims.json (claims : StateClaims) : Octets :=
  Json.object (textMember "rd" claims.destination ++ expiryMember claims.expiry)

structure ApiDraft where
  subject : Option String := none
  email : Option String := none
  salt : Option UInt64 := none
  expiry : Option (Option Int64) := none

def ApiClaims.fields : List (RecordField ApiDraft) :=
  [field "sub" true text (·.subject) fun draft value => { draft with subject := some value },
   field "email" true text (·.email) fun draft value => { draft with email := some value },
   field "randomizer" true natural64 (·.salt) fun draft value => { draft with salt := some value },
   field "exp" true (nullable integer64) (·.expiry) fun draft value => { draft with expiry := some value }]

def ApiClaims.decoder : Decoder ApiClaims :=
  record ApiClaims.fields {} fun draft => .ok
    ⟨draft.subject.getD "", draft.email.getD "", draft.salt.getD 0, draft.expiry.getD none⟩

structure StateDraft where
  destination : Option String := none
  expiry : Option (Option Int64) := none

def StateClaims.fields : List (RecordField StateDraft) :=
  [field "rd" true text (·.destination) fun draft value => { draft with destination := some value },
   field "exp" true (nullable integer64) (·.expiry) fun draft value => { draft with expiry := some value }]

def StateClaims.decoder : Decoder StateClaims :=
  record StateClaims.fields {} fun draft => .ok ⟨draft.destination.getD "", draft.expiry.getD none⟩

structure IdDraft where
  subject : Option (Option String) := none
  email : Option (Option String) := none

def IdClaims.fields : List (RecordField IdDraft) :=
  [field "sub" false (nullable text) (·.subject) fun draft value => { draft with subject := some value },
   field "email" false (nullable text) (·.email) fun draft value => { draft with email := some value }]

def IdClaims.decoder : Decoder IdClaims :=
  record IdClaims.fields {} fun draft => .ok ⟨draft.subject.getD none, draft.email.getD none⟩

end LoginGateway
