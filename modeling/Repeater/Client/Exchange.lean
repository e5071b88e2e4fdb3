import Repeater.Client.Redirect

/-!
# Exchanges

Sends a request and follows redirects until there is an answer or a fault. An exchange is a chain of
steps, each one request on the network, so that exchanges that go on at the same time can be
interleaved; `send` runs one to its end.

* `Exchange.start` is the exchange of a request before anything is sent;
* `Exchange.step` makes one request, and `contact` is what it meets;
* `send` ends after at most `maxRedirects + 1` requests.
-/

namespace Repeater.Client

/-- How far an exchange is. -/
inductive Exchange where
  /-- A request is to be made. -/
  | asking (h : Hop) (target : Http.Target) (endpoint : Endpoint)
  | ended (result : Except Fault Answer)

/-- What a request meets. -/
inductive Contact where
  /-- There is no connection. -/
  | refused
  /-- The connection ends before there is an answer. -/
  | dropped
  | replied (r : Reply)

/-- The schemes that can be spoken. -/
def isSpoken (scheme : List Char) : Bool :=
  scheme == "http".toList || scheme == "https".toList

/-- Where the server of a URL listens. -/
def endpoint? (url : Url) : Option Endpoint := do
  let host ← url.namedHost?
  let port ← url.effectivePort?
  pure ⟨host, port⟩

/-- Makes one request on a network. -/
def contact (net : Network σ) (p : Policy) (h : Hop) (target : Http.Target) (e : Endpoint)
    (s : σ) : Contact × σ :=
  let secure := h.request.url.scheme == "https".toList
  match net.listener e with
  | none => (.refused, s)
  | some .plain => if secure then (.refused, s) else deliver s
  | some (.tls trusted) =>
    if !secure then (.dropped, s)
    else if trusted || p.insecureTls then deliver s
    else (.refused, s)
where
  deliver (s : σ) : Contact × σ :=
    match h.written target with
    | .short => (.dropped, s)
    | .waiting => (.replied { ending := .silent }, s)
    | .whole d => let (r, s) := net.serve e d s; (.replied r, s)

namespace Exchange

/-- The exchange that a request begins. -/
def start (h : Hop) : Exchange :=
  let url := h.request.url
  match Http.Target.parse? url.text, endpoint? url with
  | some target, some e =>
    if isSpoken url.scheme then .asking h target e
    else .ended (.error (.unsendable (some url.text)))
  | _, _ => .ended (.error (.unsendable (some url.text)))

/-- How an exchange goes on after what its request met. One that meets a server that falls silent waits: until the
time limit is over, or, without a limit, until the connection is finally lost, and then it goes on like this. -/
def resume (p : Policy) (h : Hop) : Contact → Exchange
  | .refused => .ended (.error (.connect h.origin.text))
  | .dropped => .ended (.error (.broken h.origin.text))
  | .replied r =>
    match Answer.read h.request.method r with
    | .error e =>
      .ended (.error (if e = .early ∧ r.ending = .silent ∧ p.timeout.isSome
        then .timeout h.origin.text else .broken h.origin.text))
    | .ok a =>
      match h.next a with
      | .stands => .ended (.ok a)
      | .fault e => .ended (.error e)
      | .follow k => start k

/-- Makes the next request of an exchange. -/
def step (net : Network σ) (p : Policy) (x : Exchange) (s : σ) : Exchange × σ :=
  match x with
  | .ended r => (.ended r, s)
  | .asking h target e =>
    let (c, s) := contact net p h target e s
    (resume p h c, s)

/-- Makes requests until the exchange has ended, `n` at most. -/
def run (net : Network σ) (p : Policy) : Nat → Exchange → σ → Except Fault Answer × σ
  | _, .ended r, s => (r, s)
  | 0, .asking h _ _, s => (.error (.broken h.origin.text), s)
  | n + 1, x, s => let (x, s) := step net p x s; run net p n x s

end Exchange

/-- Sends a request and waits for the answer. -/
def send (net : Network σ) (p : Policy) (r : Request) (s : σ) : Except Fault Answer × σ :=
  Exchange.run net p (maxRedirects + 1) (.start { request := r }) s

end Repeater.Client
