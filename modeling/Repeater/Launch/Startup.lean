import Repeater.Net.Ports
import Repeater.Server.Basic
import Repeater.StopSignal

/-!
# Starting and stopping the relay

What happens between the loading of settings and the first request, and after the last one. The
metrics page comes first, and the relay does without it if need be; then the server is made, and only
then its address is taken.
-/

namespace Repeater.Launch

open Journal

/-- Why the relay does not start. -/
inductive StartFault where
  /-- The time limit of forwarding cannot be computed. -/
  | limit (fault : Duration.Fault)
  /-- Nobody can listen at the address of the settings. -/
  | listen (address : String) (fault : Net.ListenFault)
  deriving DecidableEq, Repr

/-- The text shown for a fault. -/
def StartFault.message : StartFault → String
  | .limit _ => "overflow when adding durations"
  | .listen address fault => "failed to bind " ++ address ++ ": " ++ fault.message

/-- The parts of a fault by name. -/
def StartFault.details : StartFault → String
  | .limit _ => "Limit"
  | .listen address fault =>
    "Bind \x7b address: " ++ Text.quote address ++ ", source: " ++ fault.details ++ " \x7d"

/-- A relay that takes requests. -/
structure Started where
  server : Server
  address : Net.SocketAddress
  /-- Where the metrics page is. -/
  metrics : Option Net.SocketAddress := none

-- ---------------------------------------------------------------------------
-- The metrics page
-- ---------------------------------------------------------------------------

/-- Takes the address of the metrics page, and says what came of it. -/
def openMetrics (o : Observability) (ports : Net.Ports) :
    Option Net.SocketAddress × Net.Ports × List Event :=
  if !o.metricsEnabled then (none, ports, [])
  else match Net.SocketAddress.parse? o.metricsAddress.toList with
    | none =>
      (none, ports, [{
        level := .error, origin := .startup, message := "Failed to parse metrics address"
        fields := [("metrics_address", o.metricsAddress),
          ("error", "invalid socket address syntax")] }])
    | some a =>
      match ports.listen a with
      | .ok ports =>
        (some a, ports, [{
          level := .info, origin := .metrics, message := "Metrics endpoint listening"
          fields := [("address", a.text)] }])
      | .error e =>
        (none, ports, [{
          level := .error, origin := .metrics, message := "Failed to install metrics exporter"
          fields := [("address", a.text),
            ("error", "failed to create HTTP listener: " ++ e.message)] }])

-- ---------------------------------------------------------------------------
-- The server
-- ---------------------------------------------------------------------------

/-- The first event of a run. -/
def startingEvent (version : String) (s : Settings) : Event where
  level := .info
  origin := .program
  message := "spray-proxy v" ++ version ++ " starting"
  fields := [("bind_address", s.bindAddress), ("backends", toString s.backends.length),
    ("insecure_skip_tls_verify", Relay.boolText s.forwarding.insecureTls),
    ("dynamic_backends", Relay.boolText s.admin.dynamicBackends)]

/-- What the journal says of a server that begins to listen. -/
def listeningEvent (server : Server) (a : Net.SocketAddress) : Event where
  level := .info
  origin := .server
  message := "HTTP server starting"
  fields := [("address", a.text), ("backends", server.roster.line),
    ("dynamic_backends", Relay.boolText server.admin.dynamicBackends)]

/-- Starts a relay on a machine where some addresses are taken. -/
def start (s : Settings) (ports : Net.Ports) : List Event × Except StartFault Started :=
  let (metrics, ports, events) := openMetrics s.observability ports
  match Server.ofSettings s with
  | .error e => (events, .error (.limit e))
  | .ok (server, more) =>
    match ports.listenAt s.bindAddress with
    | .error e => (events ++ more, .error (.listen s.bindAddress e))
    | .ok (address, _) =>
      (events ++ more ++ [listeningEvent server address], .ok { server, address, metrics })

-- ---------------------------------------------------------------------------
-- The end
-- ---------------------------------------------------------------------------

/-- The signals that end a relay. -/
inductive Signal where
  | interrupt
  | terminate
  deriving DecidableEq, Repr

/-- The name of a signal. -/
def Signal.name : Signal → String
  | .interrupt => "SIGINT"
  | .terminate => "SIGTERM"

/-- The stop signal of a running relay, which its server waits for. -/
def stopSignal : StopSignal .ring :=
  StopSignal.new.subscribe "server"

/-- The events of a relay that is ended. -/
def stopEvents (signal : Signal) : List Event :=
  let (_, reached) := stopSignal.fire
  [{ level := .info, origin := .signals, message := signal.name ++ " received" },
    { level := .info, origin := .stop, message := "Shutdown triggered"
      fields := [("receivers", toString reached)] },
    { level := .info, origin := .server, message := "HTTP server stopped" },
    { level := .info, origin := .program, message := "Shutdown complete" }]

end Repeater.Launch
