import Repeater.Settings
import Repeater.Net.Address
import Repeater.Text.Quoted

/-!
# Checking settings

Every problem of the settings is reported, in a fixed order: the address to listen on, the metrics
address if metrics are enabled, then the backends by position. The time limit is never a problem.
-/

namespace Repeater

/-- A problem of the settings. -/
inductive Problem where
  | bindAddress (text : String)
  | metricsAddress (text : String)
  | emptyBackend (position : Nat)
  | duplicateBackend (backend : String)
  deriving DecidableEq, Repr

/-- The text shown for a problem. -/
def Problem.message : Problem → String
  | .bindAddress a => "listener.bind_address " ++ Text.quote a ++ " is not a socket address"
  | .metricsAddress a => "observability.metrics_address " ++ Text.quote a ++ " is not a socket address"
  | .emptyBackend i => "backends[" ++ toString i ++ "] is empty"
  | .duplicateBackend b => "backend " ++ Text.quote b ++ " is listed more than once"

namespace Settings

/-- Whether a text is a socket address. -/
def isAddress (text : String) : Bool :=
  (Net.SocketAddress.parse? text.toList).isSome

/-- The problems of backends that follow `seen`, the first of them at position `i`. -/
def backendProblems (seen : List String) (i : Nat) : List String → List Problem
  | [] => []
  | b :: bs =>
    if b = "" then .emptyBackend i :: backendProblems seen (i + 1) bs
    else if b ∈ seen then .duplicateBackend b :: backendProblems seen (i + 1) bs
    else backendProblems (b :: seen) (i + 1) bs

/-- All problems of the settings. -/
def problems (s : Settings) : List Problem :=
  let o := s.observability
  (if isAddress s.bindAddress then [] else [.bindAddress s.bindAddress]) ++
    (if o.metricsEnabled && !isAddress o.metricsAddress then [.metricsAddress o.metricsAddress]
      else []) ++
    backendProblems [] 0 s.backends

end Settings

end Repeater
