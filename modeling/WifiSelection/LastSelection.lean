import WifiSelection.Numbers

/-!
The weight of the network that the user picked last. It starts at one, goes down in proportion to
the time passed and reaches zero when the decay time is over.
-/

namespace WifiSelection

/-- A span of time, in nanoseconds; it may be negative. -/
structure Duration where
  nanoseconds : Int
deriving DecidableEq, Repr, Inhabited

namespace Duration

def ofMilliseconds (milliseconds : Int) : Duration :=
  ⟨milliseconds * 1000000⟩

def milliseconds (duration : Duration) : Int :=
  duration.nanoseconds.tdiv 1000000

def maxSeconds : Int := Width.maxSigned64 / 1000

def ofMinutes? (minutes : Int) : Option Duration :=
  let seconds := minutes * 60
  if -maxSeconds ≤ seconds ∧ seconds ≤ maxSeconds then
    some ⟨seconds * 1000000000⟩
  else
    none

end Duration

/-- A moment, in nanoseconds from the start of 1970 in UTC. -/
structure Timestamp where
  nanoseconds : Int
deriving DecidableEq, Repr, Inhabited

namespace Timestamp

/-- Within the years -262143 to 262142. -/
def IsRepresentable (moment : Timestamp) : Prop :=
  -8334601228800000000000 ≤ moment.nanoseconds ∧ moment.nanoseconds ≤ 8210266876799999999999

instance (moment : Timestamp) : Decidable moment.IsRepresentable :=
  inferInstanceAs (Decidable (_ ∧ _))

def ofMilliseconds? (milliseconds : Int) : Option Timestamp :=
  let moment : Timestamp := ⟨milliseconds * 1000000⟩
  if moment.IsRepresentable then some moment else none

def since (later earlier : Timestamp) : Duration :=
  ⟨later.nanoseconds - earlier.nanoseconds⟩

end Timestamp

structure LastSelection where
  networkId : Int32
  selectedAt : Timestamp
deriving DecidableEq, Repr, Inhabited

namespace LastSelection

/-- The weight left after some time. Time before the selection counts as none. -/
def decayedWeight (elapsed decay : Duration) : Binary64 :=
  if decay.nanoseconds ≤ 0 then
    .zero
  else
    let passed := Binary64.ofInt (max elapsed.milliseconds 0)
    let share := Binary64.one - passed / Binary64.ofInt decay.milliseconds
    share.clamp .zero .one

def weightOf (selection : LastSelection) (networkId : Int32) (now : Timestamp)
    (decay : Duration) : Binary64 :=
  if networkId = selection.networkId then
    decayedWeight (now.since selection.selectedAt) decay
  else
    .zero

end LastSelection

end WifiSelection
