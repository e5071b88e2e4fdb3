import Repeater.Http.Header
import Repeater.Url.Host

/-!
# Networks

What servers do, as values. A server reads one request from a connection, sends some bytes, and then
closes the connection or falls silent.

* A `Network σ` says where servers listen and what they do; whatever they do it with is a state `σ`
  that every request passes on.
* `Traffic` is the state of servers that answer by script: what each has read so far. What one server
  has read is `Traffic.at`, and it answers by nothing else (`Network.scripted`).
-/

namespace Repeater

/-- A request as a server reads it, with its body put together. -/
structure Delivery where
  method : String
  target : String
  headers : Http.Headers := []
  body : ByteArray := .empty
  deriving DecidableEq

/-- What follows the last byte that a server sends. -/
inductive Ending where
  /-- It closes the connection. -/
  | closed
  /-- It sends nothing more and keeps the connection open. A client waits until its time limit is over, and without a
  limit for as long as the connection lasts; what comes of a silent server without a limit is what comes when the
  connection is finally lost. -/
  | silent
  deriving DecidableEq, Repr

/-- What a server sends. -/
structure Reply where
  bytes : ByteArray := .empty
  ending : Ending := .closed
  deriving DecidableEq

/-- How a server is spoken to; a certificate may be one that clients trust. -/
inductive Security where
  | plain
  | tls (trusted : Bool)
  deriving DecidableEq, Repr

/-- A host and a port. -/
structure Endpoint where
  host : Url.Host
  port : UInt16
  deriving DecidableEq, Repr

/-- Servers with a state. -/
structure Network (σ : Type) where
  /-- How to speak to the server at an endpoint, if one listens. -/
  listener : Endpoint → Option Security
  /-- What the server at an endpoint does with a request that it has read. -/
  serve : Endpoint → Delivery → σ → Reply × σ

/-- What servers have read, oldest first, each server with its number. -/
abbrev Traffic := List (Nat × Delivery)

/-- What one server has read. -/
def Traffic.at (t : Traffic) (server : Nat) : List Delivery :=
  (t.filter fun d => d.1 == server).map Prod.snd

/-- A server that answers by script. -/
structure Script where
  security : Security := .plain
  /-- The answer to a request, given how many the server has read before. -/
  reply : Nat → Delivery → Reply

namespace Network

/-- No servers at all. -/
def empty : Network σ where
  listener _ := none
  serve _ _ s := ({}, s)

/-- Servers that answer by script: `locate` numbers the server at an endpoint. -/
def scripted (locate : Endpoint → Option Nat) (script : Nat → Script) : Network Traffic where
  listener e := (locate e).map fun n => (script n).security
  serve e d t :=
    match locate e with
    | none => ({}, t)
    | some n => ((script n).reply (t.at n).length d, t ++ [(n, d)])

end Network

theorem Traffic.at_append (t u : Traffic) (n : Nat) : (t ++ u).at n = t.at n ++ u.at n := by
  simp [Traffic.at]

theorem Traffic.at_singleton (n m : Nat) (d : Delivery) :
    Traffic.at [(m, d)] n = if m = n then [d] else [] := by
  by_cases h : m = n <;> simp [Traffic.at, h]

end Repeater
