import Repeater.Client.Exchange
import Repeater.Proofs.Client.Answer
import Repeater.Proofs.Client.Wire

/-!
# Which requests an exchange makes

What one step of an exchange puts on the wire does not depend on the state of the servers: a request is
read if a server takes requests where its URL points and the fields fit the body. After an answer there is
another request exactly if the answer is a redirect to a place of that kind (`Redirects`).

## Results

* `contact_of_request?`, `contact_of_none` — what a request meets;
* `request?_start`                         — what is read of a request that is to be made;
* `redirects_iff`                          — when an answer makes the client ask again;
* `send_of_stands`, `fault_of_stands`      — an answer that stands ends the exchange.
-/

namespace Repeater.Client

open Http

variable {σ : Type}

/-- Whether the server at an endpoint takes requests of a scheme. -/
def accepts (net : Network σ) (p : Policy) (scheme : List Char) (e : Endpoint) : Bool :=
  match net.listener e with
  | none => false
  | some .plain => !(scheme == "https".toList)
  | some (.tls trusted) => scheme == "https".toList && (trusted || p.insecureTls)

/-- Where a server takes requests for a URL, if one does. -/
def server? (net : Network σ) (p : Policy) (url : Url) : Option Endpoint :=
  if isSpoken url.scheme then (endpoint? url).filter (accepts net p url.scheme) else none

/-- The text of a URL can stand in a request. -/
def IsAskable (url : Url) : Prop :=
  (Target.parse? url.text).isSome = true

/-- An answer that makes the client ask at another place, where a server takes the request. -/
def Redirects (net : Network σ) (p : Policy) (r : Request) (reply : Reply) : Prop :=
  ∃ a url, Answer.read r.method reply = .ok a ∧ a.status ∈ [301, 302, 303, 307, 308] ∧
    Hop.location? r.url a.headers = some url ∧ (server? net p url).isSome = true ∧ IsAskable url

-- ---------------------------------------------------------------------------
-- One step
-- ---------------------------------------------------------------------------

/-- The request that a server reads next, and where it listens. -/
def Exchange.request? (net : Network σ) (p : Policy) : Exchange → Option (Endpoint × Delivery)
  | .ended _ => none
  | .asking h target e =>
    if accepts net p h.request.url.scheme e then
      match h.written target with
      | .whole d => some (e, d)
      | _ => none
    else none

theorem request?_asking {net : Network σ} {p : Policy} {h : Hop} {target : Target} {e e' : Endpoint}
    {d : Delivery} : (Exchange.asking h target e).request? net p = some (e', d) ↔
      e' = e ∧ accepts net p h.request.url.scheme e = true ∧ h.written target = .whole d := by
  rw [Exchange.request?]
  split
  · rename_i haccepts
    split
    · rename_i hwritten
      simp [haccepts, hwritten, eq_comm]
    · rename_i hwritten
      simpa using fun _ _ => hwritten d
  · rename_i haccepts
    simp [haccepts]

variable {net : Network σ} {p : Policy}

/-- What a request meets at an endpoint where no server takes it. -/
def unmet (net : Network σ) (scheme : List Char) (e : Endpoint) : Contact :=
  match net.listener e with
  | some (.tls _) => if scheme == "https".toList then .refused else .dropped
  | _ => .refused

/-- Where a server takes the request, the connection brings it there. -/
theorem contact_eq (h : Hop) (target : Target) (e : Endpoint) (s : σ) :
    contact net p h target e s = if accepts net p h.request.url.scheme e = true
      then contact.deliver net h target e s else (unmet net h.request.url.scheme e, s) := by
  rw [contact, accepts, unmet]
  generalize (h.request.url.scheme == "https".toList) = secure
  cases net.listener e with
  | none => rfl
  | some security =>
    cases security with
    | plain => cases secure <;> rfl
    | tls trusted =>
      cases secure
      · rfl
      · cases htrust : trusted || p.insecureTls <;> simp [htrust]

/-- A request that is read is answered by its server. -/
theorem contact_of_request? {h : Hop} {target : Target} {e e' : Endpoint} {d : Delivery}
    (hreq : (Exchange.asking h target e).request? net p = some (e', d)) (s : σ) :
    contact net p h target e s = (.replied (net.serve e' d s).1, (net.serve e' d s).2) := by
  obtain ⟨rfl, haccepts, hwritten⟩ := request?_asking.1 hreq
  rw [contact_eq, if_pos haccepts, contact.deliver, hwritten]

/-- An exchange that gets no answer is at its end. -/
theorem resume_nothing (h : Hop) (ending : Ending) :
    ∃ r, Exchange.resume p h (.replied { ending }) = .ended r := by
  simp only [Exchange.resume, Answer.read_nothing]
  exact ⟨_, rfl⟩

/-- A request that no server reads changes nothing, and the exchange ends. -/
theorem contact_of_none {h : Hop} {target : Target} {e : Endpoint}
    (hreq : (Exchange.asking h target e).request? net p = none) (s : σ) :
    (contact net p h target e s).2 = s ∧
      ∃ r, Exchange.resume p h (contact net p h target e s).1 = .ended r := by
  rw [contact_eq]
  by_cases haccepts : accepts net p h.request.url.scheme e = true
  · rw [if_pos haccepts, contact.deliver]
    cases hwritten : h.written target with
    | whole d => rw [request?_asking.2 ⟨rfl, haccepts, hwritten⟩] at hreq; cases hreq
    | short => exact ⟨rfl, _, rfl⟩
    | waiting => exact ⟨rfl, resume_nothing h .silent⟩
  · rw [if_neg haccepts, unmet]
    refine ⟨rfl, ?_⟩
    split
    · split <;> exact ⟨_, rfl⟩
    · exact ⟨_, rfl⟩

-- ---------------------------------------------------------------------------
-- Requests to be made
-- ---------------------------------------------------------------------------

theorem hop_of_start {h k : Hop} {t : Target} {e : Endpoint} (hx : Exchange.start h = .asking k t e) :
    k = h := by
  unfold Exchange.start at hx
  dsimp only at hx
  split at hx
  · split at hx <;> cases hx
    rfl
  · cases hx

/-- **What is read of a request that is to be made.** -/
theorem request?_start {h : Hop} {e : Endpoint} {d : Delivery} :
    (Exchange.start h).request? net p = some (e, d) ↔
      server? net p h.request.url = some e ∧
        ∃ t, Target.parse? h.request.url.text = some t ∧ h.written t = .whole d := by
  rw [Exchange.start, server?]
  split
  · rename_i t e' ht he
    by_cases hspoken : isSpoken h.request.url.scheme = true
    · rw [if_pos hspoken, if_pos hspoken, request?_asking, he, ht, Option.filter_eq_some_iff]
      simp only [Option.some.injEq, exists_eq_left']
      constructor
      · rintro ⟨rfl, haccepts, hwritten⟩
        exact ⟨⟨rfl, haccepts⟩, hwritten⟩
      · rintro ⟨⟨rfl, haccepts⟩, hwritten⟩
        exact ⟨rfl, haccepts, hwritten⟩
    · rw [if_neg hspoken, if_neg hspoken]
      simp [Exchange.request?]
  · rename_i hnone
    refine iff_of_false (by simp [Exchange.request?]) ?_
    rintro ⟨hserver, t, ht, -⟩
    split at hserver
    · exact hnone t e ht (Option.filter_eq_some_iff.1 hserver).1
    · cases hserver

/-- A request whose fields fit its body is read with its body, where a server takes it. -/
theorem exists_request?_start {h : Hop} {e : Endpoint} (hserver : server? net p h.request.url = some e)
    (haskable : IsAskable h.request.url) (hframed : IsFramed h.request.headers h.request.body) :
    ∃ d, (Exchange.start h).request? net p = some (e, d) ∧ d.body = h.request.body := by
  obtain ⟨t, ht⟩ := Option.isSome_iff_exists.1 haskable
  rw [← isFramed_congr h.framing_fields] at hframed
  obtain ⟨d, hwritten, hbody⟩ := (written_iff (r := { h.request with headers := h.fields }) (t := t)).2 hframed
  exact ⟨d, request?_start.2 ⟨hserver, t, ht, hwritten⟩, hbody⟩

-- ---------------------------------------------------------------------------
-- Requests after an answer
-- ---------------------------------------------------------------------------

theorem restated_isSome {status : Nat} {r : Request} :
    (Hop.restated status r).isSome = true ↔ status ∈ [301, 302, 303, 307, 308] := by
  unfold Hop.restated
  dsimp only
  split
  · simp
  · simp
  · simp
  · simp
  · simp
  · simp_all

/-- A request that is made again still has fields that fit its body. -/
theorem isFramed_restated {status : Nat} {r r' : Request} (h : Hop.restated status r = some r')
    (hframed : IsFramed r.headers r.body) : IsFramed r'.headers r'.body := by
  have hemptied : IsFramed (without bodyFields r.headers) .empty := by
    refine isFramed_of_no_length (Headers.values_eq_nil fun x hx hname => ?_) _
    have hkept := (List.mem_filter.1 hx).2
    rw [hname] at hkept
    exact absurd hkept (by decide)
  unfold Hop.restated at h
  dsimp only at h
  split at h
  · split at h <;> cases h
    · exact hemptied
    · exact hframed
  · split at h <;> cases h
    · exact hemptied
    · exact hframed
  · cases h
    exact hemptied
  · cases h
    exact hframed
  · cases h
    exact hframed
  · cases h

/-- **An answer makes the client ask again exactly if it is a redirect** to a place where a server takes
requests. -/
theorem redirects_iff {r : Request} {reply : Reply} (hframed : IsFramed r.headers r.body) :
    ((Exchange.resume p { request := r } (.replied reply)).request? net p).isSome = true ↔
      Redirects net p r reply := by
  have hended (x : Except Fault Answer) : ¬((Exchange.ended x).request? net p).isSome = true := by
    simp [Exchange.request?]
  rw [Exchange.resume, Redirects]
  cases hread : Answer.read r.method reply with
  | error e => exact iff_of_false (hended _) (by simp)
  | ok a =>
    simp only [Except.ok.injEq, exists_and_left, exists_eq_left', Hop.next, ← restated_isSome (r := r)]
    cases hrestated : Hop.restated a.status r with
    | none => exact iff_of_false (hended _) (by simp)
    | some r' =>
      cases hplace : Hop.location? r.url a.headers with
      | none => exact iff_of_false (hended _) (by simp)
      | some url =>
        have hfirst : ¬maxRedirects < [r.url].length := by simp [maxRedirects]
        simp only [if_neg hfirst, Option.isSome_some, true_and, Option.some.injEq, exists_eq_left']
        by_cases hscheme : url.scheme ≠ "http".toList ∧ url.scheme ≠ "https".toList
        · have hspoken : isSpoken url.scheme = false := by simpa [isSpoken] using hscheme
          rw [if_pos hscheme]
          exact iff_of_false (hended _) (by simp [server?, hspoken])
        · rw [if_neg hscheme]
          have hkept : IsFramed r'.headers r'.body := isFramed_restated hrestated hframed
          constructor
          · intro hsome
            obtain ⟨⟨e, d⟩, hrequest⟩ := Option.isSome_iff_exists.1 hsome
            obtain ⟨hserver, t, ht, -⟩ := request?_start.1 hrequest
            exact ⟨Option.isSome_iff_exists.2 ⟨e, hserver⟩, Option.isSome_iff_exists.2 ⟨t, ht⟩⟩
          · rintro ⟨hserver, haskable⟩
            obtain ⟨e, hserver⟩ := Option.isSome_iff_exists.1 hserver
            obtain ⟨d, hrequest, -⟩ :=
              exists_request?_start (h := ⟨{ r' with url }, [r.url]⟩) hserver haskable hkept
            exact Option.isSome_iff_exists.2 ⟨_, hrequest⟩

/-- There is no answer without a request. -/
theorem isAskable_of_send {r : Request} {a : Answer} {s : σ} (h : (send net p r s).1 = .ok a) : IsAskable r.url := by
  by_contra hnone
  rw [IsAskable, Option.not_isSome_iff_eq_none] at hnone
  have hstart : Exchange.start { request := r } = .ended (.error (.unsendable (some r.url.text))) := by
    rw [Exchange.start]
    simp only [hnone]
  rw [send, hstart, Exchange.run] at h
  cases h

theorem Exchange.run_ended (n : Nat) (x : Except Fault Answer) (s : σ) :
    Exchange.run net p n (.ended x) s = (x, s) := by
  cases n <;> rfl

section

variable {r : Request} {t : Target} {e : Endpoint} {reply : Reply} {s s' : σ}
  (hstart : Exchange.start { request := r } = .asking { request := r } t e)
  (hcontact : contact net p { request := r } t e s = (.replied reply, s'))

include hstart hcontact

theorem send_of_replied : send net p r s =
    Exchange.run net p maxRedirects (Exchange.resume p { request := r } (.replied reply)) s' := by
  rw [send, hstart, Exchange.run, Exchange.step, hcontact]
  exact nofun

variable (hstands : ∀ a, Answer.read r.method reply = .ok a → Hop.next { request := r } a = .stands)

include hstands

/-- An exchange whose first answer stands ends with it. -/
theorem send_of_stands :
    (send net p r s).2 = s' ∧ ∀ a, (send net p r s).1 = .ok a ↔ Answer.read r.method reply = .ok a := by
  rw [send_of_replied hstart hcontact, Exchange.resume]
  cases hread : Answer.read r.method reply with
  | error fault =>
    rw [Exchange.run_ended]
    exact ⟨rfl, fun a => iff_of_false nofun nofun⟩
  | ok a =>
    simp only [hstands a hread]
    rw [Exchange.run_ended]
    exact ⟨rfl, fun a' => by rw [Except.ok.injEq, Except.ok.injEq]⟩

/-- If it has no answer, that is because the one it met cannot be read. -/
theorem fault_of_stands {fault : Fault} (h : (send net p r s).1 = .error fault) :
    ∃ url, fault = .timeout url ∨ fault = .broken url := by
  rw [send_of_replied hstart hcontact, Exchange.resume] at h
  cases hread : Answer.read r.method reply with
  | error unread =>
    simp only [hread, Exchange.run_ended, Except.error.injEq] at h
    rw [← h]
    split
    · exact ⟨_, .inl rfl⟩
    · exact ⟨_, .inr rfl⟩
  | ok a =>
    simp only [hread, hstands a hread, Exchange.run_ended] at h
    cases h

end

end Repeater.Client
