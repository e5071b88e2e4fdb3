import Repeater.AdminClient
import Repeater.CommandLine.Parse

/-!
# The administration tool

The client as a program: one call for each run, the answer printed a backend a line.

* `Tool.program` is what it takes on its command line;
* `Tool.ofMatches` is the client and the call that a command line asks for;
* `Tool.report` prints what the call comes to.
-/

namespace Repeater

/-- What a program leaves behind when it ends. -/
structure Ended where
  code : Nat
  output : String := ""
  errors : String := ""
  deriving DecidableEq, Repr

/-- The end of a program that only tells something. -/
def Ended.ofHalt (h : CommandLine.Halt) : Ended :=
  if h.isShown then { code := 0, output := h.text } else { code := 2, errors := h.text ++ "\n" }

namespace AdminClient.Tool

open CommandLine

/-- What the tool takes on its command line. -/
def program : Program where
  command := {
    name := "spray-cli"
    about := "Manage the backends of a running spray proxy"
    options := [
      { long := "url", short := some 'u', valueName := "URL"
        fromEnv := some "SPRAYPROXY_URL", default := some "http://localhost:8080" },
      { long := "key", short := some 'k', valueName := "KEY"
        fromEnv := some "SPRAYPROXY_ADMIN_API_KEY", isSecret := true
        help := "Admin bearer key, when the proxy requires one" }] }
  subcommands := [
    { name := "register", about := "Add a backend base URL", words := ["SERVER"] },
    { name := "unregister", about := "Remove a backend base URL", words := ["SERVER"] },
    { name := "list", about := "Show the registered backends" },
    { name := "health", about := "Check that the proxy is up" }]

/-- The client and the call that a command line asks for. -/
def ofMatches (m : Matches) : AdminClient × Call :=
  let client : AdminClient := { base := (m.get? "url").getD "", key := m.get? "key" }
  let word (words : List String) : String := words.head?.getD ""
  (client, match m.subcommand with
    | some ("register", words) => .register (word words)
    | some ("unregister", words) => .unregister (word words)
    | some ("health", _) => .health
    | _ => .list)

/-- A text with a line end. -/
def line (s : String) : String := s ++ "\n"

/-- Prints what a call comes to. -/
def report : Except Fault Answer → Ended
  | .ok (.backends []) => { code := 0, output := line "(no backends)" }
  | .ok (.backends names) => { code := 0, output := String.join (names.map line) }
  | .ok (.up healthy) => { code := 0, output := line (if healthy then "ok" else "unhealthy") }
  | .error (.status code body) =>
    { code := 1
      errors := line ("Error: proxy returned status " ++ Http.statusText code) ++
        line ("Response: " ++ String.ofList (Text.trim body.toList)) }
  | .error (.exchange fault) => { code := 1, errors := line ("Error: Http: " ++ fault.message) }

/-- Runs the tool. -/
def run (env : String → Option String) (arguments : List String) (net : Network σ) (st : σ) :
    Ended × σ :=
  match program.parse env arguments with
  | .error h => (.ofHalt h, st)
  | .ok m =>
    let (client, which) := ofMatches m
    let (result, st) := client.call net which st
    (report result, st)

end AdminClient.Tool

end Repeater
