import Repeater.Client.Answer
import Repeater.Client.Wire

/-!
# Redirects

An answer may name another place to ask. What is asked there, and with which fields, depends on the
status, on the method, and on whether the place is at another server.

* `Hop.next` is the request that follows an answer, if any;
* `Hop.fields` are the fields that go with a request: what is secret stays with its server.
-/

namespace Repeater.Client

/-- The most redirects that are followed. -/
def maxRedirects : Nat := 10

/-- One of the requests that an exchange consists of. -/
structure Hop where
  request : Request
  /-- The URLs asked before, the latest first. -/
  visited : List Url := []

/-- Fields that describe a body. -/
def bodyFields : List String :=
  ["content-type", "content-length", "content-encoding", "transfer-encoding"]

/-- Fields that are for one server only. -/
def secretFields : List String :=
  ["authorization", "cookie", "cookie2", "proxy-authorization", "www-authenticate"]

/-- The fields without those of the given names. -/
def without (names : List String) (hs : Http.Headers) : Http.Headers :=
  hs.filter fun h => !names.contains h.name

/-- Whether two URLs are at the same server. -/
def sameServer (a b : Url) : Bool :=
  a.host == b.host && a.effectivePort? == b.effectivePort?

/-- Where the caller comes from; not told when it comes from a protected page to an open one. -/
def refererField (previous next : Url) : Option Http.Header :=
  if previous.scheme = "https".toList ∧ next.scheme = "http".toList then none
  else
    let url := { previous.withoutUserinfo with fragment := none }
    some ⟨"referer", Text.utf8 url.text⟩

namespace Hop

/-- The fields that go with the request. -/
def fields (h : Hop) : Http.Headers :=
  match h.visited.head? with
  | none => h.request.headers
  | some previous =>
    let hs := if sameServer previous h.request.url then h.request.headers
      else without secretFields h.request.headers
    match refererField previous h.request.url with
    | none => hs
    | some field => hs.set field.name field.value

/-- What becomes of the request on a connection. -/
def written (h : Hop) (target : Http.Target) : Written :=
  { h.request with headers := h.fields }.written target

/-- The URL of the first request. -/
def origin (h : Hop) : Url :=
  h.visited.getLast?.getD h.request.url

/-- The request that a status asks for, at the same place still; none if the answer stands. -/
def restated (status : Nat) (r : Request) : Option Request :=
  let emptied (method : String) : Request :=
    { r with method, headers := without bodyFields r.headers, body := .empty }
  match status with
  | 301 | 302 => some (if r.method = "POST" then emptied "GET" else r)
  | 303 => some (emptied (if r.method = "HEAD" then "HEAD" else "GET"))
  | 307 | 308 => some r
  | _ => none

/-- The place that an answer names: a reference relative to the URL asked, without its fragment, that
is a request target too. -/
def location? (current : Url) (headers : Http.Headers) : Option Url := do
  let value ← headers.get? "location"
  let reference ← Text.utf8? value
  let url ← (Url.resolve current reference.toList).toOption
  let target ← Http.Target.parse? { url with fragment := none }.text
  (Url.parse target.text.toList).toOption

/-- What follows an answer. -/
inductive Next where
  /-- The answer stands. -/
  | stands
  | follow (h : Hop)
  | fault (e : Fault)

/-- What follows an answer. -/
def next (h : Hop) (a : Answer) : Next :=
  match restated a.status h.request, location? h.request.url a.headers with
  | some r, some url =>
    let visited := h.request.url :: h.visited
    if maxRedirects < visited.length then .fault (.redirects h.request.url.text)
    else if url.scheme ≠ "http".toList ∧ url.scheme ≠ "https".toList then
      .fault (.unsendable (some url.text))
    else .follow { request := { r with url }, visited }
  | _, _ => .stands

theorem length_visited_of_follow {h k : Hop} {a : Answer} (hk : h.next a = .follow k) :
    k.visited.length = h.visited.length + 1 ∧ k.visited.length ≤ maxRedirects := by
  unfold next at hk
  split at hk
  · dsimp only at hk
    split at hk
    · cases hk
    · split at hk
      · cases hk
      · cases hk
        simp_all
  · cases hk

end Hop

end Repeater.Client
