import Repeater.Settings
import Repeater.Toml.Document

/-!
# Settings documents

Reads settings from the entries of a TOML document. A key that is absent leaves its default, an
unknown key is passed over, and a value of another type than the setting's makes the whole document
unreadable. A group of settings may also be written as an array, which gives them in order.
-/

namespace Repeater.Settings

open Repeater.Toml (Value Entries)

/-- Reads the value of a setting. -/
abbrev Decoder (α : Type) := Value → Option α

/-- A text. -/
def string : Decoder String
  | .string s => some s
  | _ => none

/-- A truth value. -/
def boolean : Decoder Bool
  | .boolean b => some b
  | _ => none

/-- A text that may be absent; when present it is a text. -/
def optional : Decoder (Option String) := fun v =>
  (string v).map some

/-- A list of texts. -/
def strings : Decoder (List String)
  | .array items => items.mapM string
  | .tables [] => some []
  | _ => none

/-- A journal format by its name in lower case, alone or as the only key of an empty table. -/
def logFormat : Decoder LogFormat
  | .string s => ofName s
  | .table _ [(name, .table _ [])] => ofName name
  | _ => none
where
  ofName : String → Option LogFormat
    | "pretty" => some .pretty
    | "json" => some .json
    | _ => none

/-- A group of settings: how to read one by its key or, in an array, by its position. A date is a
group of unknown keys. -/
def group (byKey : Entries → Option α) (byPosition : List Value → Option α) : Decoder α
  | .table _ es => byKey es
  | .array items => byPosition items
  | .tables items => byPosition (items.map (Value.table .header))
  | .datetime _ => byKey []
  | _ => none

/-- The setting of a key, or its default. -/
def field (es : Entries) (key : String) (decode : Decoder α) (default : α) : Option α :=
  match es.get? key with
  | some v => decode v
  | none => some default

/-- The setting at a position, or its default. -/
def item (items : List Value) (i : Nat) (decode : Decoder α) (default : α) : Option α :=
  match items[i]? with
  | some v => decode v
  | none => some default

/-- Where to listen. -/
def listener : Decoder String :=
  let d : Settings := {}
  group (fun es => field es "bind_address" string d.bindAddress)
    (fun items => item items 0 string d.bindAddress)

/-- How requests are passed on. -/
def forwardingGroup : Decoder Forwarding :=
  group
    (fun es => do
      let requestTimeout ← field es "request_timeout" optional none
      let insecureTls ← field es "insecure_skip_tls_verify" boolean false
      some { requestTimeout, insecureTls })
    (fun items => do
      let requestTimeout ← item items 0 optional none
      let insecureTls ← item items 1 boolean false
      some { requestTimeout, insecureTls })

/-- The administration over HTTP. -/
def adminGroup : Decoder Admin :=
  group
    (fun es => do
      let dynamicBackends ← field es "dynamic_backends" boolean false
      let apiKey ← field es "api_key" optional none
      some { dynamicBackends, apiKey })
    (fun items => do
      let dynamicBackends ← item items 0 boolean false
      let apiKey ← item items 1 optional none
      some { dynamicBackends, apiKey })

/-- Journal and metrics. -/
def observabilityGroup : Decoder Observability :=
  let d : Observability := {}
  group
    (fun es => do
      let logLevel ← field es "log_level" string d.logLevel
      let logFormat ← field es "log_format" logFormat d.logFormat
      let metricsEnabled ← field es "metrics_enabled" boolean d.metricsEnabled
      let metricsAddress ← field es "metrics_address" string d.metricsAddress
      some { logLevel, logFormat, metricsEnabled, metricsAddress })
    (fun items => do
      let logLevel ← item items 0 string d.logLevel
      let logFormat ← item items 1 logFormat d.logFormat
      let metricsEnabled ← item items 2 boolean d.metricsEnabled
      let metricsAddress ← item items 3 string d.metricsAddress
      some { logLevel, logFormat, metricsEnabled, metricsAddress })

/-- The settings of a document's root table. -/
def ofEntries (es : Entries) : Option Settings := do
  let d : Settings := {}
  let bindAddress ← field es "listener" listener d.bindAddress
  let forwarding ← field es "forwarding" forwardingGroup d.forwarding
  let backends ← field es "backends" strings d.backends
  let admin ← field es "admin" adminGroup d.admin
  let observability ← field es "observability" observabilityGroup d.observability
  some { bindAddress, forwarding, backends, admin, observability }

/-- The settings of a TOML text. -/
def ofToml? (text : String) : Option Settings :=
  (Toml.parse? text).bind ofEntries

end Repeater.Settings
