import Repeater.Proofs.Client.Answer
import Repeater.Proofs.Client.Exchange

/-!
# Answers by their heads

What a server sends behind a head, and how it ends, makes no difference to an exchange: the status and the fields
that are read are the same, and so is the fault if the head cannot be used. So an exchange goes the same way on two
networks whose servers answer with the same heads.

* `IsHead`              — the head of an answer, with the provisional ones before it;
* `Reply.SameHead`      — two replies with one head;
* `Network.SharesHeads` — two networks that answer with the same heads.

## Results

* `Answer.read_alike`           — two replies with one head are read alike;
* `Contact.Alike.resume`        — an exchange goes on alike after them;
* `Network.SharesHeads.contact` — what a request meets on two such networks.
-/

namespace Repeater

-- ---------------------------------------------------------------------------
-- Two answers with one head
-- ---------------------------------------------------------------------------

/-- Bytes that are the head of an answer, with the provisional ones that come before it. -/
inductive IsHead : List UInt8 → Prop
  | final {bytes : List UInt8} {head : Http.ResponseHead} (hread : Http.ResponseHead.read bytes = .ok (head, []))
      (hfinal : ¬head.IsProvisional) : IsHead bytes
  | provisional {bytes rest : List UInt8} {head : Http.ResponseHead}
      (hread : Http.ResponseHead.read bytes = .ok (head, [])) (hprovisional : head.IsProvisional)
      (hrest : IsHead rest) : IsHead (bytes ++ rest)

/-- What two servers send has one head. What comes after it may differ in every byte, may stop at any place, and
may end in any way. -/
inductive Reply.SameHead : Reply → Reply → Prop
  | refl (r : Reply) : SameHead r r
  | head {bytes : List UInt8} (hhead : IsHead bytes) (rest rest' : List UInt8) (ending ending' : Ending) :
      SameHead (.ofList (bytes ++ rest) ending) (.ofList (bytes ++ rest') ending')

namespace Client.Answer

variable {method : String} {bytes rest : List UInt8} {ending : Ending} {limit : Nat}

/-- Two answers that are read are alike if they have one status and the same fields; two that are not, if they are
at the same fault, and not for want of more bytes. -/
inductive Alike : Except Http.Stop Answer → Except Http.Stop Answer → Prop
  | fault {e : Http.Stop} (h : e ≠ .early) : Alike (.error e) (.error e)
  | answer {a a' : Answer} (hstatus : a'.status = a.status) (hheaders : a'.headers = a.headers) :
      Alike (.ok a) (.ok a')

/-- What follows a head makes no difference, nor do the bounds on the heads that are read. -/
theorem readFrom_alike (hhead : IsHead bytes) {limit' : Nat} (hlimit : bytes.length < limit)
    (hlimit' : bytes.length < limit') (rest' : List UInt8) (ending' : Ending) :
    Alike (readFrom method ending limit ⟨(bytes ++ rest).toArray⟩)
      (readFrom method ending' limit' ⟨(bytes ++ rest').toArray⟩) := by
  -- on the provisional heads
  induction hhead generalizing limit limit' with
  | @final bytes head hread hfinal =>
    obtain ⟨limit, rfl⟩ : ∃ n, limit = n + 1 := Nat.exists_eq_add_one.2 (by omega)
    obtain ⟨limit', rfl⟩ : ∃ n, limit' = n + 1 := Nat.exists_eq_add_one.2 (by omega)
    rcases Nat.lt_or_ge headLimit bytes.length with hlong | hfits
    · obtain ⟨e, hearly, herror⟩ := exists_readFrom_of_long method hread hlong
      rw [herror, herror]
      exact .fault hearly
    · rw [readFrom_of_fits hread hfits, readFrom_of_fits hread hfits, if_neg hfinal, if_neg hfinal]
      cases Http.Framing.ofResponse method head with
      | none => exact .fault nofun
      | some framing => exact .answer rfl rfl
  | @provisional bytes later head hread hprovisional hlater ih =>
    obtain ⟨limit, rfl⟩ : ∃ n, limit = n + 1 := Nat.exists_eq_add_one.2 (by omega)
    obtain ⟨limit', rfl⟩ : ∃ n, limit' = n + 1 := Nat.exists_eq_add_one.2 (by omega)
    rw [List.append_assoc, List.append_assoc]
    rcases Nat.lt_or_ge headLimit bytes.length with hlong | hfits
    · obtain ⟨e, hearly, herror⟩ := exists_readFrom_of_long method hread hlong
      rw [herror, herror]
      exact .fault hearly
    · have hne : bytes ≠ [] := by
        rintro rfl
        cases hread
      have hpos : 0 < bytes.length := List.length_pos_iff.2 hne
      rw [List.length_append] at hlimit hlimit'
      rw [readFrom_of_fits hread hfits, readFrom_of_fits hread hfits, if_pos hprovisional, if_pos hprovisional]
      exact ih (by omega) (by omega)

/-- **Two answers with one head are read alike**, or they are one. -/
theorem read_alike {r r' : Reply} (h : r.SameHead r') (method : String) :
    r' = r ∨ Alike (read method r) (read method r') := by
  cases h with
  | refl => exact .inl rfl
  | head hhead rest rest' ending ending' =>
    right
    have hlimit (rest : List UInt8) : ∀ bytes : List UInt8, bytes.length < (bytes ++ rest).length + 1 := by
      intro bytes
      rw [List.length_append]
      omega
    exact readFrom_alike hhead (hlimit rest _) (hlimit rest' _) rest' ending'

end Client.Answer

-- ---------------------------------------------------------------------------
-- Two networks with the same heads
-- ---------------------------------------------------------------------------

/-- Two networks that answer with the same heads, as long as their servers are in states that go together: the same
servers listen, what they send to a request has one head, and they go on to states that go together again. -/
structure Network.SharesHeads {σ σ' : Type} (net : Network σ) (net' : Network σ') (Together : σ → σ' → Prop) :
    Prop where
  listener_eq : net'.listener = net.listener
  head : ∀ {st st'}, Together st st' → ∀ e d, (net.serve e d st).1.SameHead (net'.serve e d st').1
  next : ∀ {st st'}, Together st st' → ∀ e d, Together (net.serve e d st).2 (net'.serve e d st').2

theorem Reply.SameHead.symm {r r' : Reply} (h : r.SameHead r') : r'.SameHead r := by
  cases h with
  | refl => exact .refl r
  | head hhead rest rest' ending ending' => exact .head hhead rest' rest ending' ending

namespace Client

/-- Two requests that met the same, or replies with one head. -/
inductive Contact.Alike : Contact → Contact → Prop
  | refl (c : Contact) : Alike c c
  | replied {r r' : Reply} (h : r.SameHead r') : Alike (.replied r) (.replied r')

/-- Two exchanges that are equally far, or have come to answers with one status. -/
inductive Exchange.Alike : Exchange → Exchange → Prop
  | refl (x : Exchange) : Alike x x
  | answered {a a' : Answer} (hstatus : a'.status = a.status) : Alike (.ended (.ok a)) (.ended (.ok a'))

theorem Hop.next_congr {h : Hop} {a a' : Answer} (hstatus : a'.status = a.status) (hheaders : a'.headers = a.headers) :
    h.next a' = h.next a := by
  rw [next, next, hstatus, hheaders]

/-- **An exchange goes on alike** after two replies with one head. -/
theorem Contact.Alike.resume {c c' : Contact} (h : c.Alike c') (p : Policy) (hop : Hop) :
    (Exchange.resume p hop c).Alike (Exchange.resume p hop c') := by
  cases h with
  | refl => exact .refl _
  | @replied r r' hsame =>
    rcases Answer.read_alike hsame hop.request.method with rfl | halike
    · exact .refl _
    · simp only [Exchange.resume]
      generalize Answer.read hop.request.method r = read at halike
      generalize Answer.read hop.request.method r' = read' at halike
      cases halike with
      | fault hearly =>
        simp only [hearly, false_and, if_false]
        exact .refl _
      | answer hstatus hheaders =>
        simp only [Hop.next_congr hstatus hheaders]
        split
        · exact .answered hstatus
        · exact .refl _
        · exact .refl _

end Client

namespace Network.SharesHeads

variable {σ σ' : Type} {net : Network σ} {net' : Network σ'} {Together : σ → σ' → Prop}

/-- A network shares its heads with itself. -/
theorem refl (net : Network σ) : net.SharesHeads net Eq where
  listener_eq := rfl
  head := by
    rintro st _ rfl e d
    exact .refl _
  next := by
    rintro st _ rfl e d
    rfl

theorem symm (h : net.SharesHeads net' Together) : net'.SharesHeads net fun st' st => Together st st' where
  listener_eq := h.listener_eq.symm
  head hst e d := (h.head hst e d).symm
  next hst e d := h.next hst e d

/-- **What a request meets on two networks with the same heads.** -/
theorem contact (h : net.SharesHeads net' Together) {st : σ} {st' : σ'} (hst : Together st st') (p : Client.Policy)
    (hop : Client.Hop) (target : Http.Target) (e : Endpoint) :
    (Client.contact net p hop target e st).1.Alike (Client.contact net' p hop target e st').1 ∧
      Together (Client.contact net p hop target e st).2 (Client.contact net' p hop target e st').2 := by
  have haccepts : Client.accepts net' p hop.request.url.scheme e = Client.accepts net p hop.request.url.scheme e := by
    rw [Client.accepts, Client.accepts, h.listener_eq]
  have hunmet : Client.unmet net' hop.request.url.scheme e = Client.unmet net hop.request.url.scheme e := by
    rw [Client.unmet, Client.unmet, h.listener_eq]
  rw [Client.contact_eq, Client.contact_eq, haccepts, hunmet]
  split
  · rw [Client.contact.deliver, Client.contact.deliver]
    cases hop.written target with
    | short => exact ⟨.refl _, hst⟩
    | waiting => exact ⟨.refl _, hst⟩
    | whole d => exact ⟨.replied (h.head hst e d), h.next hst e d⟩
  · exact ⟨.refl _, hst⟩

end Network.SharesHeads

end Repeater
