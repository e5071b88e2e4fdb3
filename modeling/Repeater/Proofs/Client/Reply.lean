import Repeater.Proofs.Client.Answer
import Repeater.Proofs.Client.Wire
import Repeater.Proofs.Http.Message

/-!
# What a client reads of a response

A response that tells its own length is read as it was written, if its head fits into what a client reads at
once and its length is one that a body may have; otherwise there is no answer at all. Its text is the body in
UTF-8, but for a byte order mark.

Main results:

* `Answer.read_eq_ok_iff` — what a client reads of a response;
* `Answer.text?_ofTold`   — the text of it.
-/

namespace Repeater

namespace Http

/-- A response that ends an exchange and tells how long it is. -/
structure Response.IsTold (r : Response) : Prop where
  status : 200 ≤ r.status ∧ r.status ≤ 999
  /-- It has a body, and is no redirect. -/
  final : r.status ∉ [204, 301, 302, 303, 304, 307, 308]
  writable : ∀ h ∈ r.headers, h.IsWritable
  count : r.headers.length ≤ maxFields
  length : r.headers.values "content-length" = [Text.utf8 (toString r.body.size)]
  plain : r.headers.values "transfer-encoding" = []
  /-- Its text, if it has a type, is plain and in UTF-8. -/
  type : r.headers.get? "content-type" = none ∨ r.headers.get? "content-type" = some (Text.utf8 plainText)

theorem Response.IsTold.isStatus_status {r : Response} (h : r.IsTold) : isStatus r.status = true := by
  have hrange := h.status
  simp only [isStatus, Bool.and_eq_true, decide_eq_true_eq]
  omega

/-- The head of a response as it is read. -/
def Response.head (r : Response) : ResponseHead :=
  { version := .http11, status := r.status, headers := r.headers }

theorem Framing.ofResponse_told {r : Response} (h : r.IsTold) {method : String} (hhead : method ≠ "HEAD")
    (hconnect : method ≠ "CONNECT") : Framing.ofResponse method r.head =
      if r.body.size ≤ maxLength then some (.length r.body.size) else none := by
  have hstatus := h.status
  have hfinal := h.final
  simp only [List.mem_cons, List.not_mem_nil, or_false, not_or] at hfinal
  have hbody : ¬(r.head.status = 101 ∨ r.head.status = 204 ∨ r.head.status = 304 ∨ method = "HEAD" ∨
      (method = "CONNECT" ∧ isSuccess r.head.status = true)) := by
    show ¬(r.status = 101 ∨ r.status = 204 ∨ r.status = 304 ∨ method = "HEAD" ∨ _)
    rintro (h | h | h | h | h)
    · omega
    · omega
    · omega
    · exact hhead h
    · exact hconnect h.1
  have hplain : ¬r.head.headers.has "transfer-encoding" = true := by
    rw [Headers.has_eq, show r.head.headers.values "transfer-encoding" = [] from h.plain]
    decide
  have hlength : r.head.headers.has "content-length" = true := by
    rw [Headers.has_eq, show r.head.headers.values "content-length" = _ from h.length]
    rfl
  have hread : contentLength? r.head.headers = _ := contentLength?_number h.length
  rw [Framing.ofResponse, if_neg hbody, if_neg hplain, hread]
  have hmax : maxLength < UInt64.size := by decide
  by_cases hsize : r.body.size < UInt64.size
  · rw [if_pos hsize]
  · have hlarge : ¬r.body.size ≤ maxLength := by omega
    rw [if_neg hsize, if_neg hlarge, hlength]
    rfl

/-- A body of the length that was announced is read whole. -/
theorem Framing.read_size (b : ByteArray) (ended : Bool) : (Framing.length b.size).read ended b = .ok b := by
  unfold Framing.read Framing.split
  dsimp only
  rw [if_pos (Nat.le_refl _), ByteArray.extract_zero_size]
  rfl

end Http

namespace Client.Answer

open Http

/-- What a client has of a response. -/
def ofTold (r : Response) : Answer where
  status := r.status
  headers := r.headers
  framing := .length r.body.size
  rest := r.body
  ending := .closed

/-- **What a client reads of a response.** -/
theorem read_eq_ok_iff {r : Response} (h : r.IsTold) {method : String} (hhead : method ≠ "HEAD")
    (hconnect : method ≠ "CONNECT") {a : Answer} :
    read method { bytes := r.bytes .http11 } = .ok a ↔
      r.headOctets.length ≤ headLimit ∧ r.body.size ≤ maxLength ∧ a = ofTold r := by
  have hread : ResponseHead.read r.headOctets = .ok (r.head, []) := by
    have hwhole := ResponseHead.read_headOctets h.isStatus_status h.writable h.count []
    rwa [List.append_nil] at hwhole
  have hreply : ({ bytes := r.bytes .http11 } : Reply) = .ofList (r.headOctets ++ r.body.data.toList) .closed := by
    rw [Reply.eq_ofList, octets_bytes]
  rw [hreply]
  by_cases hfits : r.headOctets.length ≤ headLimit
  · have hfinal : ¬r.head.IsProvisional := fun hlow => absurd hlow.1 (Nat.not_lt.2 h.status.1)
    rw [read_of_head hread hfits hfinal, Framing.ofResponse_told h hhead hconnect]
    by_cases hmax : r.body.size ≤ maxLength
    · rw [if_pos hmax]
      simp only [hfits, hmax, true_and, Option.elim_some, Except.ok.injEq]
      exact eq_comm
    · rw [if_neg hmax]
      simp [hmax]
  · obtain ⟨e, -, herror⟩ := exists_readFrom_of_long method hread (Nat.lt_of_not_le hfits)
    rw [read, Reply.ofList, herror]
    refine iff_of_false ?_ fun hboth => hfits hboth.1
    intro hok
    cases hok

/-- The text of a response is its body. -/
theorem text?_ofTold {r : Response} (h : r.IsTold) : (ofTold r).text? = .ok (Text.decodeAs .utf8 r.body) := by
  have hbody : (ofTold r).body? = .ok r.body := by
    have hread : (ofTold r).framing.read ((ofTold r).ending == .closed) (ofTold r).rest = .ok r.body :=
      Framing.read_size r.body true
    rw [body?, hread]
  have hplain : visible? (Text.utf8 plainText) = some plainText :=
    visible?_eq_some_iff.2 ⟨Text.forall_mem_of_all (by decide), rfl⟩
  have hcharset : Text.Charset.ofMediaType plainText = .utf8 := rfl
  rw [text?, hbody]
  rcases h.type with htype | htype
  · rw [show (ofTold r).headers.get? "content-type" = _ from htype]
    rfl
  · rw [show (ofTold r).headers.get? "content-type" = _ from htype, Option.bind_some, hplain, Option.map_some,
      hcharset]
    rfl

end Client.Answer

end Repeater
