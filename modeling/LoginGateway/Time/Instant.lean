import LoginGateway.Time.Calendar

namespace LoginGateway

/-- Seconds since 1970-01-01T00:00:00Z and nanoseconds after that second. A billion nanoseconds and more stand
for the time within a leap second that follows the second. -/
structure Instant where
  seconds : Int
  nanos : Nat
  deriving DecidableEq, Repr

namespace Instant

def billion : Nat := 1000000000

def leastSecond : Int := Date.toDays ⟨Date.leastYear, 1, 1⟩ * 86400
def greatestSecond : Int := Date.toDays ⟨Date.greatestYear, 12, 31⟩ * 86400 + 86399

def InRange (seconds : Int) : Prop := leastSecond ≤ seconds ∧ seconds ≤ greatestSecond

instance (seconds : Int) : Decidable (InRange seconds) := by unfold InRange; infer_instance

/-- The instants that can be kept. A leap second may follow any second, whether there ever was one or not. -/
def Valid (instant : Instant) : Prop := InRange instant.seconds ∧ instant.nanos < 2 * billion

instance (instant : Instant) : Decidable instant.Valid := by unfold Valid; infer_instance

def OnMinute (instant : Instant) : Prop := billion ≤ instant.nanos → instant.seconds % 60 = 59

instance (instant : Instant) : Decidable instant.OnMinute := by unfold OnMinute; infer_instance

/-- A leap second within a minute has no text of its own: it is written as the second after it. -/
def asWritten (instant : Instant) : Instant :=
  if instant.OnMinute then instant else ⟨instant.seconds + 1, instant.nanos - billion⟩

@[simp] theorem asWritten_of_onMinute {instant : Instant} (whole : instant.OnMinute) : instant.asWritten = instant :=
  if_pos whole

def Before (earlier later : Instant) : Prop :=
  earlier.seconds < later.seconds ∨ (earlier.seconds = later.seconds ∧ earlier.nanos < later.nanos)

instance (earlier later : Instant) : Decidable (earlier.Before later) := by unfold Before; infer_instance

def greatestSpan : Int := 0x7FFFFFFFFFFFFFFF / 1000

def after? (instant : Instant) (span : Int) : Option Instant :=
  if -greatestSpan ≤ span ∧ span ≤ greatestSpan ∧ InRange (instant.seconds + span) then
    some ⟨instant.seconds + span, instant.nanos⟩
  else none

end Instant

end LoginGateway
