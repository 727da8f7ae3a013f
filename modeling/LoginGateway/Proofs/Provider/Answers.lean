import LoginGateway.Proofs.Results
import LoginGateway.Provider.Client
import Mathlib.Control.Monad.Basic

namespace LoginGateway

open Http Json

def Http.Reaction.read {α : Type} (useless : AnswerError → ProviderError) (decoder : Decoder α) :
    Reaction → Except ProviderError α
  | .dropped => .error .unreachable
  | .answered response =>
    if !isSuccess response.status then .error (.status response.status response.complaint)
    else match response.body with
      | none => .error (useless .incomplete)
      | some body => (decode decoder body).mapError fun error => useless (.unreadable ⟨body, error⟩)

theorem Http.fetch_send {α : Type} (wire : Wire) (request : Request) (useless : AnswerError → ProviderError)
    (decoder : Decoder α) :
    fetch wire (some request) useless decoder =
      ((wire.send request).1.read useless decoder, (wire.send request).2) := by
  unfold fetch
  dsimp only
  split
  · rename_i after sent
    rw [sent]
    rfl
  · rename_i response after sent
    rw [sent]
    simp only [Reaction.read]
    split
    · rfl
    · cases response.body <;> rfl

namespace Http.Reaction

variable {α : Type} {useless : AnswerError → ProviderError} {decoder : Decoder α} {reaction : Reaction}

theorem isSuccess_iff {status : Nat} : isSuccess status = true ↔ 200 ≤ status ∧ status < 300 := by
  simp [isSuccess]

def Bears (decoder : Decoder α) (reaction : Reaction) (value : α) : Prop :=
  ∃ response body, reaction = .answered response ∧ (200 ≤ response.status ∧ response.status < 300) ∧
    response.body = some body ∧ decode decoder body = .ok value

def Bare (decoder : Decoder α) (reaction : Reaction) : Prop :=
  ∃ response, reaction = .answered response ∧ (200 ≤ response.status ∧ response.status < 300) ∧
    ∀ body value, response.body = some body → decode decoder body ≠ .ok value

inductive Told (useless : AnswerError → ProviderError) (decoder : Decoder α) :
    Reaction → Except ProviderError α → Prop where
  | dropped : Told useless decoder .dropped (.error .unreachable)
  | refused {response : Response} (undone : ¬(200 ≤ response.status ∧ response.status < 300)) :
      Told useless decoder (.answered response)
        (.error (.status response.status (response.text?.getD "Unknown error")))
  | bare {reaction : Reaction} {error : AnswerError} (bare : reaction.Bare decoder) :
      Told useless decoder reaction (.error (useless error))
  | borne {reaction : Reaction} {value : α} (bears : reaction.Bears decoder value) :
      Told useless decoder reaction (.ok value)

theorem told_read (useless : AnswerError → ProviderError) (decoder : Decoder α) (reaction : Reaction) :
    Told useless decoder reaction (reaction.read useless decoder) := by
  cases reaction with
  | dropped => exact .dropped
  | answered response =>
    simp only [read]
    split
    · rename_i undone
      rw [Bool.not_eq_true', ← Bool.not_eq_true, isSuccess_iff] at undone
      exact .refused undone
    · rename_i done
      rw [Bool.not_eq_true', Bool.not_eq_false, isSuccess_iff] at done
      cases arrived : response.body with
      | none => exact .bare ⟨response, rfl, done, fun body value there => by cases arrived.symm.trans there⟩
      | some body =>
        dsimp only
        cases found : decode decoder body with
        | error error =>
          refine .bare ⟨response, rfl, done, fun other value there right => ?_⟩
          cases arrived.symm.trans there
          cases found.symm.trans right
        | ok value => exact .borne ⟨response, body, rfl, done, arrived, found⟩

theorem Bears.unique {value other : α} (bears : reaction.Bears decoder value) (bears' : reaction.Bears decoder other) :
    value = other := by
  obtain ⟨response, body, rfl, -, arrived, right⟩ := bears
  obtain ⟨_, _, ⟨⟩, -, arrived', right'⟩ := bears'
  cases arrived.symm.trans arrived'
  exact Except.ok.inj (right.symm.trans right')

theorem Bears.eq_iff {value : α} (bears : reaction.Bears decoder value) (other : α) :
    reaction.Bears decoder other ↔ other = value :=
  ⟨fun bears' => bears'.unique bears, fun same => same ▸ bears⟩

theorem Bears.not_bare {value : α} (bears : reaction.Bears decoder value) : ¬reaction.Bare decoder := by
  rintro ⟨_, rfl, -, wrong⟩
  obtain ⟨_, body, ⟨⟩, -, arrived, right⟩ := bears
  exact wrong body value arrived right

theorem read_ok_iff {value : α} : reaction.read useless decoder = .ok value ↔ reaction.Bears decoder value := by
  have told := told_read useless decoder reaction
  generalize reaction.read useless decoder = outcome at told
  cases told with
  | dropped => simp [Bears]
  | refused undone => simp [Bears, undone]
  | bare bare => simpa using fun bears => bears.not_bare bare
  | borne bears => rw [bears.eq_iff, Except.ok.injEq, eq_comm]

end Http.Reaction

namespace ProviderClient

theorem requestToken_send {client : ProviderClient} {form : List (String × String)} {request : Request}
    (asked : client.request? form = some request) (now : Instant) (wire : Wire) :
    client.requestToken now form wire =
      (((wire.send request).1.read .tokenResponse TokenResponse.decoder).mapError .error >>= (·.exchanged now),
        (wire.send request).2) := by
  unfold requestToken
  rw [asked, fetch_send]
  cases (wire.send request).1.read .tokenResponse TokenResponse.decoder <;> rfl

theorem refresh_requested {credential : Credential} {token : String}
    (usable : credential.usableRefreshToken = some token) (client : ProviderClient) (now : Instant) (wire : Wire) :
    client.refresh now credential wire =
      ((client.requestToken now (client.refreshForm token) wire).1.map fun answer =>
          { answer.credential with refreshToken := some (answer.credential.refreshToken.getD token) },
        (client.requestToken now (client.refreshForm token) wire).2) := by
  simp only [refresh, usable]
  split <;> rename_i requested <;> rw [requested] <;> rfl

end ProviderClient

end LoginGateway
