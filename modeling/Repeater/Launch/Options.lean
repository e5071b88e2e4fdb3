import Repeater.CommandLine.Parse
import Repeater.Settings.Overrides

/-!
# The relay's command line

The options of the relay, each with its variable in the environment, and the overrides that they
amount to.
-/

namespace Repeater.Launch

open CommandLine

/-- The version of the relay. -/
def version : String := "0.1.0"

/-- What the relay takes on its command line. -/
def program : Program where
  command := {
    name := "spray-proxy"
    about := "Relay every inbound request to all registered backends"
    version := some version
    options := [
      { long := "config", short := some 'c', valueName := "CONFIG", kind := .path
        fromEnv := some "SPRAYPROXY_CONFIG", help := "Optional TOML configuration file" },
      { long := "host", valueName := "HOST"
        fromEnv := some "SPRAYPROXY_SERVER_HOST", help := "Host to listen on" },
      { long := "port", valueName := "PORT", kind := .port
        fromEnv := some "SPRAYPROXY_SERVER_PORT", help := "Port to listen on" },
      { long := "backend", valueName := "BACKENDS", repeats := true
        fromEnv := some "SPRAYPROXY_SERVER_BACKEND"
        help := "Backend base URL. Repeatable; the environment form is space separated" },
      { long := "insecure-skip-tls-verify", valueName := "INSECURE_SKIP_TLS_VERIFY"
        kind := .boolean, fromEnv := some "SPRAYPROXY_SERVER_INSECURE_SKIP_TLS_VERIFY"
        help := "Skip TLS verification on outbound requests. Insecure" },
      { long := "forwarding-request-timeout", valueName := "FORWARDING_REQUEST_TIMEOUT"
        fromEnv := some "SPRAYPROXY_FORWARDING_REQUEST_TIMEOUT"
        help := "Per-backend forwarding timeout, e.g. \"15s\"" },
      { long := "enable-dynamic-backends", valueName := "ENABLE_DYNAMIC_BACKENDS"
        kind := .boolean, fromEnv := some "SPRAYPROXY_SERVER_ENABLE_DYNAMIC_BACKENDS"
        help := "Expose the /backends register, unregister and list endpoints" },
      { long := "admin-api-key", valueName := "ADMIN_API_KEY"
        fromEnv := some "SPRAYPROXY_ADMIN_API_KEY", isSecret := true
        help := "Bearer key required by the admin endpoints" },
      { long := "log-level", valueName := "LOG_LEVEL"
        fromEnv := some "SPRAYPROXY_LOG_LEVEL" },
      { long := "log-format", valueName := "LOG_FORMAT", kind := .readBy LogFormat.parse
        fromEnv := some "SPRAYPROXY_LOG_FORMAT", help := "pretty or json" },
      { long := "metrics-enabled", valueName := "METRICS_ENABLED", kind := .boolean
        fromEnv := some "SPRAYPROXY_METRICS_ENABLED" },
      { long := "metrics-address", valueName := "METRICS_ADDRESS"
        fromEnv := some "SPRAYPROXY_METRICS_ADDRESS" }] }

/-- The path of the settings file. -/
def configPath (m : Matches) : Option String :=
  m.get? "config"

/-- The overrides of a command line. -/
def overrides (m : Matches) : Overrides where
  host := m.get? "host"
  port := (m.get? "port").bind fun s => (integer s).toOption.map fun n => n.toNat.toUInt16
  backends := m.all "backend"
  insecureTls := (m.get? "insecure-skip-tls-verify").map (· == "true")
  requestTimeout := m.get? "forwarding-request-timeout"
  dynamicBackends := (m.get? "enable-dynamic-backends").map (· == "true")
  apiKey := m.get? "admin-api-key"
  logLevel := m.get? "log-level"
  logFormat := (m.get? "log-format").bind fun s => (LogFormat.parse s).toOption
  metricsEnabled := (m.get? "metrics-enabled").map (· == "true")
  metricsAddress := m.get? "metrics-address"

end Repeater.Launch
