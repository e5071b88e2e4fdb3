import Repeater.Relay.Fanout
import Repeater.Roster
import Repeater.Server.Route

/-!
# The server

What a server is made of, and what one request to it leaves behind beside its response. Of the parts
of a server only the roster changes.
-/

namespace Repeater

/-- A server. -/
structure Server where
  admin : Admin := {}
  policy : Client.Policy := {}
  roster : Roster := .empty

namespace Server

/-- The server that settings ask for, and what the journal says of its making. -/
def ofSettings (s : Settings) : Except Duration.Fault (Server × List Journal.Event) :=
  match Relay.policy s.forwarding with
  | .error e => .error e
  | .ok policy =>
    let (roster, skipped) := Roster.seed s.backends
    .ok ({ admin := s.admin, policy, roster },
      Roster.skipEvents skipped ++ [Relay.policyEvent policy])

theorem ofSettings_spec {settings : Settings} {server : Server} {events : List Journal.Event}
    (h : ofSettings settings = .ok (server, events)) :
    server.admin = settings.admin ∧ server.roster = (Roster.seed settings.backends).1 := by
  rw [ofSettings] at h
  split at h
  · cases h
  · cases h
    exact ⟨rfl, rfl⟩

/-- No server is made of settings exactly if they have no time limit. -/
theorem ofSettings_eq_error_iff {settings : Settings} {e : Duration.Fault} :
    ofSettings settings = .error e ↔ settings.forwarding.timeout = .error e := by
  rw [ofSettings, Relay.policy]
  cases settings.forwarding.timeout <;> simp

/-- A response with what was recorded on the way. -/
structure Served where
  response : Http.Response
  events : List Journal.Event := []
  marks : Tally := []
  deriving DecidableEq

end Server

end Repeater
