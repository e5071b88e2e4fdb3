import Repeater.Settings

/-!
# Overrides

Values from the command line and the environment, laid over the settings of the file. An absent value
leaves what is there; backends are added to the file's list.
-/

namespace Repeater

/-- The values that are laid over the settings. -/
structure Overrides where
  host : Option String := none
  port : Option UInt16 := none
  /-- Texts of backends with blanks between them. -/
  backends : List String := []
  insecureTls : Option Bool := none
  requestTimeout : Option String := none
  dynamicBackends : Option Bool := none
  apiKey : Option String := none
  logLevel : Option String := none
  logFormat : Option LogFormat := none
  metricsEnabled : Option Bool := none
  metricsAddress : Option String := none
  deriving DecidableEq, Repr

namespace Overrides

/-- The host and the port of an address text, cut at the last colon, the host without its brackets;
without a colon the port is 8080. -/
def splitAddress (address : String) : String × String :=
  match Text.cutLast (· == ':') address.toList with
  | some (host, port) =>
    (String.ofList (Text.dropRight (· == ']') (host.dropWhile (· == '['))), String.ofList port)
  | none => (address, "8080")

/-- A host and a port as an address text; a host with a colon is put in brackets. -/
def joinAddress (host port : String) : String :=
  if host.toList.contains ':' && host.toList.head? != some '[' then "[" ++ host ++ "]:" ++ port
  else host ++ ":" ++ port

/-- The address with a new host, a new port, or both. -/
def address (host : Option String) (port : Option UInt16) (current : String) : String :=
  if host.isNone && port.isNone then current
  else
    let (oldHost, oldPort) := splitAddress current
    joinAddress (host.getD oldHost) ((port.map toString).getD oldPort)

/-- The list with every backend of the texts that is not yet in it, in order. -/
def extend (backends : List String) (texts : List String) : List String :=
  (texts.flatMap Text.words).foldl (fun bs b => if b ∈ bs then bs else bs ++ [b]) backends

/-- Lays the values over settings. An empty key counts as absent. -/
def apply (o : Overrides) (s : Settings) : Settings where
  bindAddress := address o.host o.port s.bindAddress
  backends := extend s.backends o.backends
  forwarding := {
    insecureTls := o.insecureTls.getD s.forwarding.insecureTls
    requestTimeout := o.requestTimeout <|> s.forwarding.requestTimeout }
  admin := {
    dynamicBackends := o.dynamicBackends.getD s.admin.dynamicBackends
    apiKey := o.apiKey.filter (· != "") <|> s.admin.apiKey }
  observability := {
    logLevel := o.logLevel.getD s.observability.logLevel
    logFormat := o.logFormat.getD s.observability.logFormat
    metricsEnabled := o.metricsEnabled.getD s.observability.metricsEnabled
    metricsAddress := o.metricsAddress.getD s.observability.metricsAddress }

end Overrides

end Repeater
