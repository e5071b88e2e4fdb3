import Repeater.Client.Fault
import Repeater.Http.Message
import Repeater.Text.Quoted

/-!
# Outcomes and the verdict

What became of a request at each backend, and the one verdict that its caller is told. A backend that
answered counts as reached whatever its status. One that was not reached makes the verdict a failure
(`Verdict.isFailure_iff`); which one it was is not told.
-/

namespace Repeater.Relay

/-- Why a request was not relayed. -/
inductive Fault where
  /-- The body is longer than the limit, or could not be read. -/
  | bodyTooLarge (limit : Nat)
  /-- The backend is no URL with a host. -/
  | badBackend (backend reason : String)
  /-- No request for the backend could be made. -/
  | badRequest (reason : String)
  /-- The exchange with the backend failed. -/
  | transport (fault : Client.Fault)
  deriving DecidableEq, Repr

/-- The text shown for a fault. -/
def Fault.message : Fault → String
  | .bodyTooLarge limit => "request body exceeds " ++ toString limit ++ " bytes"
  | .badBackend backend reason => "invalid backend url " ++ Text.quote backend ++ ": " ++ reason
  | .badRequest reason => "failed to create request: " ++ reason
  | .transport fault => "proxy error (" ++ fault.kind.label ++ "): " ++ fault.message

/-- What became of a request at one backend. -/
inductive Outcome where
  /-- The backend answered with this status. -/
  | relayed (backend : String) (status : Nat)
  /-- It was not reached; `timed` says that an exchange was begun and its time taken. -/
  | failed (backend : String) (fault : Fault) (timed : Bool)
  deriving DecidableEq, Repr

/-- The backend of an outcome, as the roster has it. -/
def Outcome.backend : Outcome → String
  | .relayed b _ | .failed b _ _ => b

/-- Whether the backend was not reached. -/
def Outcome.isFailure : Outcome → Bool
  | .relayed .. => false
  | .failed .. => true

/-- Whether the time of an exchange was taken. -/
def Outcome.isTimed : Outcome → Bool
  | .relayed .. => true
  | .failed _ _ timed => timed

/-- The outcomes at all backends, in roster order. -/
structure Verdict where
  outcomes : List Outcome
  deriving DecidableEq, Repr

namespace Verdict

/-- Some backend was not reached. -/
def isFailure (v : Verdict) : Bool :=
  v.outcomes.any Outcome.isFailure

/-- The outcomes at the backends that were not reached. -/
def failures (v : Verdict) : List Outcome :=
  v.outcomes.filter Outcome.isFailure

/-- The status that the caller is given. -/
def status (v : Verdict) : Nat :=
  if v.isFailure then 502 else 200

/-- The text that the caller is given. -/
def message (v : Verdict) : String :=
  if v.isFailure then "failed to proxy" else "proxied"

/-- The response that the caller is given. -/
def response (v : Verdict) : Http.Response :=
  .ofText v.status v.message

theorem isFailure_iff (v : Verdict) : v.isFailure = true ↔ ∃ o ∈ v.outcomes, o.isFailure = true := by
  simp [isFailure]

end Verdict

end Repeater.Relay
