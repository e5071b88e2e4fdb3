import Repeater.Journal.Line
import Repeater.Launch
import Repeater.Relay.Flight
import Repeater.Server.Connection
import Repeater.Server.FreshId
import Repeater.Tally.Page
import Std.Async.DNS
import Std.Async.Signal
import Std.Async.TCP
import Std.Async.Timer
import Std.Time

/-!
# The programs

The relay and the tool that administers it. All that is done here is to listen and to connect, to wait
for bytes and to write them: what they mean and what follows is decided elsewhere. The program is the
tool when its file has the name of the tool.

Only open connections are spoken; a backend that wants a protected one cannot be reached.
-/

namespace Repeater.Run

open Std.Async

-- ---------------------------------------------------------------------------
-- The system
-- ---------------------------------------------------------------------------

/-- What the system said. -/
def systemError : IO.Error → SystemError
  | .noFileOrDirectory .. | .noSuchThing .. => .notFound
  | .permissionDenied .. => .denied
  | .inappropriateType .. => .isDirectory
  | .resourceBusy .. | .alreadyExists .. => .inUse
  | e => ⟨0, "Other", toString e⟩

/-- An address in the system's form. -/
def systemAddress (a : Net.SocketAddress) : Std.Net.SocketAddress :=
  match a.host with
  | .v4 ip => .v4 { addr := .ofParts ip.a ip.b ip.c ip.d, port := a.port }
  | .v6 ip _ => .v6 { addr := ⟨ip.groups⟩, port := a.port }

/-- The variables of the environment that the programs look at. -/
def environment : IO (String → Option String) := do
  let options := Launch.program.command.options ++ AdminClient.Tool.program.command.options
  let names := Launch.directivesVariable :: options.filterMap CommandLine.OptionSpec.fromEnv
  let values ← names.filterMapM fun n => do pure ((← IO.getEnv n).map fun v => (n, v))
  pure fun n => values.lookup n

/-- Writes what a program leaves behind, and gives its exit code. -/
def finish (e : Ended) : IO UInt32 := do
  (← IO.getStdout).putStr e.output
  (← IO.getStderr).putStr e.errors
  pure e.code.toUInt32

-- ---------------------------------------------------------------------------
-- Outgoing connections
-- ---------------------------------------------------------------------------

/-- Gives up at a time in milliseconds. -/
def within (deadline : Option Nat) (x : Async α) : Async (Option α) := do
  match deadline with
  | none => some <$> x
  | some t =>
    let left := t - (← IO.monoMsNow)
    if left = 0 then pure none
    else Async.race (some <$> x) (do sleep (.ofNat left); pure none)

/-- The time at which a policy gives up on what begins now. -/
def deadlineOf (p : Client.Policy) : IO (Option Nat) := do
  let now ← IO.monoMsNow
  pure (p.timeout.map fun d => now + (d.total + 999999) / 1000000)

/-- Where the server at an endpoint may be. -/
def addressesOf (e : Endpoint) : Async (List Std.Net.SocketAddress) := do
  match e.host with
  | .v4 ip => pure [systemAddress ⟨.v4 ip, e.port⟩]
  | .v6 ip => pure [systemAddress ⟨.v6 ip 0, e.port⟩]
  | .domain name =>
    let found ← DNS.getAddrInfo (String.ofList name) (toString e.port)
    pure (found.toList.map fun
      | .v4 addr => .v4 { addr, port := e.port }
      | .v6 addr => .v6 { addr, port := e.port })

/-- Connects to the first address that lets us. -/
def connect : List Std.Net.SocketAddress → Async (Option TCP.Socket.Client)
  | [] => pure none
  | a :: r => do
    try
      let c ← TCP.Socket.Client.mk
      c.connect a
      pure (some c)
    catch _ => connect r

/-- How many bytes are read at once. -/
def readSize : UInt64 := 65536

/-- The next bytes of a connection; none at its end. -/
def receive (c : TCP.Socket.Client) : Async (Option ByteArray) := do
  try c.recv? readSize catch _ => pure none

/-- Reads the answer to a request, as far as it comes. -/
partial def readReply (c : TCP.Socket.Client) (deadline : Option Nat) (method : String)
    (bytes : ByteArray) : Async Reply := do
  match ← within deadline (receive c) with
  | none => pure { bytes, ending := .silent }
  | some none => pure { bytes, ending := .closed }
  | some (some more) =>
    let bytes := bytes ++ more
    if Client.Answer.isWhole method bytes then pure { bytes, ending := .silent }
    else readReply c deadline method bytes

/-- Makes one request. -/
def contact (deadline : Option Nat) (h : Client.Hop) (target : Http.Target) (e : Endpoint) :
    Async Client.Contact := do
  if h.request.url.scheme == "https".toList then return .refused
  try
    match ← within deadline (do connect (← addressesOf e)) with
    | none => pure (.replied { ending := .silent })
    | some none => pure .refused
    | some (some c) =>
      match h.written target with
      | .short => pure .dropped
      | .waiting => .replied <$> readReply c deadline h.request.method .empty
      | .whole d => do
        c.send d.bytes
        .replied <$> readReply c deadline h.request.method .empty
  catch _ => pure .refused

/-- Takes an exchange to its end. -/
partial def exchange (p : Client.Policy) (deadline : Option Nat) :
    Client.Exchange → Async (Except Client.Fault Client.Answer)
  | .ended r => pure r
  | .asking h target e => do
    exchange p deadline (.resume p h (← contact deadline h target e))

/-- Takes an attempt of a relay to its end. -/
partial def attempt (s : Relay.Setting) (deadline : Option Nat) : Relay.Progress → Async Relay.Attempt
  | .finished a => pure a
  | .sending b d h target e => do
    let c ← contact deadline h target e
    attempt s deadline ((Relay.Progress.sending b d h target e).resume s c)

-- ---------------------------------------------------------------------------
-- The tool
-- ---------------------------------------------------------------------------

/-- Runs the tool. -/
def tool (arguments : List String) : IO UInt32 := do
  match AdminClient.Tool.program.parse (← environment) arguments with
  | .error h => finish (.ofHalt h)
  | .ok m =>
    let (client, call) := AdminClient.Tool.ofMatches m
    let answer ← match client.request call with
      | .error e => pure (.error (.exchange e))
      | .ok r => do
        match ← (exchange {} none (.start { request := r })).block with
        | .error e => pure (.error (.exchange e))
        | .ok a => pure (AdminClient.read call a)
    finish (AdminClient.Tool.report answer)

-- ---------------------------------------------------------------------------
-- Incoming connections
-- ---------------------------------------------------------------------------

/-- A relay at work. -/
structure World where
  server : IO.Ref Server
  totals : IO.Ref (List (Series × Nat))
  book : Launch.Book
  /-- How many requests are being answered. -/
  busy : IO.Ref Nat
  stopping : IO.Ref Bool

/-- Writes events to the journal. -/
def World.write (book : Launch.Book) (events : List Journal.Event) : IO Unit := do
  let now := Std.Time.DateTime.ofTimestampWithZone (← Std.Time.Timestamp.now) .UTC
  let time := now.format "uuuu-MM-dd'T'HH:mm:ss.SSSSSS'Z'"
  let out ← IO.getStdout
  for e in book.kept events do
    out.putStr ((match book.format with
      | .pretty => e.prettyLine time
      | .json => e.jsonLine time) ++ "\n")
  out.flush

/-- Reads the body of a request as far as it matters; none where the connection ends before it. -/
partial def readBody (c : TCP.Socket.Client) (framing : Http.Framing) (bytes : ByteArray) :
    Async (Except Http.Stop (ByteArray × ByteArray)) := do
  match framing.split false bytes with
  | .error .early =>
    if Relay.bodyLimit < bytes.size then pure (.ok (bytes, .empty))
    else match ← receive c with
      | none => pure (.error .malformed)
      | some more => readBody c framing (bytes ++ more)
  | r => pure r

/-- Answers a request on a connection; whether more may follow is given with the bytes that are left. -/
def World.answer (w : World) (c : TCP.Socket.Client) (head : Http.RequestHead) (rest : ByteArray) :
    Async (Option ByteArray) := do
  let awaited := (← w.server.get).awaitsBody head
  if awaited && Http.hasOption "100-continue" ((head.headers.get? "expect").getD .empty) then
    if (head.framing.split false rest).toOption.isNone then
      c.send (Text.utf8 "HTTP/1.1 100 Continue\r\n\r\n")
  let body ← if awaited then readBody c head.framing rest else pure (head.framing.split false rest)
  let pieces := (Server.pieces? awaited (body.map Prod.fst)).getD []
  let random ← IO.getRandomBytes 16
  let reception ← w.server.modifyGet fun s =>
    let r := s.receive (Server.freshId random.toList) (Server.arrivalOf head pieces)
    (r, match r.plan with
      | .told _ roster => { s with roster }
      | .relay .. => s)
  let served ← match reception.plan with
    | .told served _ => pure served
    | .relay setting backends => do
      let deadline ← deadlineOf setting.policy
      let attempts ← Async.concurrentlyAll
        (backends.toArray.map fun b => attempt setting deadline (.start setting b))
      pure (Server.relayed setting backends (.ofAttempts setting.request.requestId attempts.toList))
  let served := reception.respond served
  w.totals.modify fun t => Tally.addTo t served.marks
  World.write w.book served.events
  let keep := head.keepAlive && body.isOk && !(← w.stopping.get)
  c.send ({ head with keepAlive := keep }.answer served.response).bytes
  pure (if keep then body.toOption.map Prod.snd else none)

/-- Answers the requests of a connection. -/
partial def World.serve (w : World) (c : TCP.Socket.Client) (bytes : ByteArray) : Async Unit := do
  match Http.RequestHead.read bytes.toList with
  | .error e =>
    match e.status? with
    | some status => c.send (Http.Sent.refusal status).bytes
    | none =>
      match ← receive c with
      | none => pure ()
      | some more => w.serve c (bytes ++ more)
  | .ok (head, rest) =>
    w.busy.modify (· + 1)
    let left ← try w.answer c head ⟨rest.toArray⟩ catch _ => pure none
    w.busy.modify (· - 1)
    match left with
    | some bytes => w.serve c bytes
    | none => pure ()

/-- Answers a request for the metrics page. -/
partial def World.servePage (w : World) (c : TCP.Socket.Client) (bytes : ByteArray) : Async Unit := do
  match Tally.converse (Tally.pageOf (← w.totals.get)) bytes with
  | some sent => c.send sent.bytes
  | none =>
    match ← receive c with
    | none => pure ()
    | some more => w.servePage c (bytes ++ more)

/-- Listens at an address. -/
def listen (a : Net.SocketAddress) : IO TCP.Socket.Server := do
  let s ← TCP.Socket.Server.mk
  s.bind (systemAddress a)
  s.listen 1024
  pure s

/-- Lets each connection to a listener be served by itself. -/
partial def acceptAll (s : TCP.Socket.Server) (serve : TCP.Socket.Client → Async Unit) : Async Unit := do
  let c ← s.accept
  background (do
    try serve c catch _ => pure ()
    try c.shutdown catch _ => pure ())
  acceptAll s serve

-- ---------------------------------------------------------------------------
-- The relay
-- ---------------------------------------------------------------------------

/-- Listens at an address, or says why nobody can. -/
def tryListen (a : Net.SocketAddress) : IO (Except Net.Ports TCP.Socket.Server) := do
  try .ok <$> listen a catch e => pure (.error [(a, systemError e)])

/-- Waits for the signal that ends the relay. -/
def awaitSignal : IO Launch.Signal := do
  let interrupt ← Signal.Waiter.mk .sigint false
  let terminate ← Signal.Waiter.mk .sigterm false
  (Selectable.one #[
    .case interrupt.selector fun _ => pure Launch.Signal.interrupt,
    .case terminate.selector fun _ => pure Launch.Signal.terminate]).block

/-- Waits until no request is being answered. -/
partial def awaitIdle (busy : IO.Ref Nat) : IO Unit := do
  if (← busy.get) != 0 then
    IO.sleep 10
    awaitIdle busy

/-- Runs a relay that has started, until a signal ends it. -/
def work (book : Launch.Book) (started : Launch.Started) (listener : TCP.Socket.Server)
    (page : Option TCP.Socket.Server) : IO UInt32 := do
  let w : World := {
    server := ← IO.mkRef started.server, totals := ← IO.mkRef [], book, busy := ← IO.mkRef 0
    stopping := ← IO.mkRef false }
  discard <| (acceptAll listener fun c => w.serve c .empty).toIO
  if let some page := page then
    discard <| (acceptAll page fun c => w.servePage c .empty).toIO
  let signal ← awaitSignal
  w.stopping.set true
  awaitIdle w.busy
  World.write book (Launch.stopEvents signal)
  pure 0

/-- Runs the relay. What it finds is not known before its command line is read, and which addresses
are free only when it has tried them, so it begins anew once that is known. -/
def relay (arguments : List String) : IO UInt32 := do
  let env ← environment
  let path? := (Launch.program.parse env arguments).toOption.bind Launch.configPath
  let file : Settings.File ← match path? with
    | none => pure (.error .notFound)
    | some path => try .ok <$> IO.FS.readBinFile path catch e => pure (.error (systemError e))
  let begin (ports : Net.Ports) : Launch.Begun :=
    Launch.begin { environment := env, file := fun _ => file, ports } arguments
  match begin [] with
  | .ended e => finish e
  | .opened _ _ _ hoped =>
    let pageAt ← hoped.toOption.bind Launch.Started.metrics |>.mapM tryListen
    let serverAt ← hoped.toOption.mapM fun started => tryListen started.address
    let taken := [pageAt, serverAt].filterMap fun
      | some (.error taken) => some taken
      | _ => none
    match begin taken.flatten with
    | .ended e => finish e
    | .opened book events complaints result =>
      (← IO.getStderr).putStr (Launch.complaintText complaints)
      World.write book events
      match result, serverAt with
      | .ok started, some (.ok listener) =>
        work book started listener (pageAt.bind Except.toOption)
      | .error fault, _ => finish (Launch.Failure.start fault).ended
      | _, _ => pure 1

end Repeater.Run

/-- Runs the program that the name of its file says. -/
def main (arguments : List String) : IO UInt32 := do
  let name := toString (← IO.appPath)
  if name.endsWith Repeater.AdminClient.Tool.program.command.name then Repeater.Run.tool arguments
  else Repeater.Run.relay arguments
