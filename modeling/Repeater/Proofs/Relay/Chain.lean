import Repeater.Proofs.Http.Target
import Repeater.Proofs.Relay.Destination
import Repeater.Proofs.Url.Settled

/-!
# One relay behind another

A relay may rewrite the target of a request, but only once: the target that it sends is one that it would send as it
is, to the same destination. So does every other relay, which reads it as the target of a request and has backends of
its own. So in a row of relays a request keeps the target that the first of them sent.

## Results

* `IsSettled.parse?_target` — a target that has been rewritten is that of a request;
* `isSettled_of_resolve`    — a target that is sent has been rewritten;
* `resolve_target_again`    — a target that has been sent is sent again as it is.
-/

namespace Repeater

-- ---------------------------------------------------------------------------
-- The target of a request
-- ---------------------------------------------------------------------------

namespace Url

open Http

/-- What is not encoded in a path may stand in that of a request. -/
theorem IsPathChar.isPathChar_target {c : Char} (h : IsPathChar c) : Target.isPathChar c = true := by
  have hpath := h.1
  simp only [inPath, inFragment, isControl, Bool.or_eq_false_iff, decide_eq_false_iff_not, List.contains_eq_mem,
    List.mem_cons, List.not_mem_nil, or_false, not_or] at hpath
  obtain ⟨⟨⟨hlow, -⟩, hspace, -, hless, hgreater, htick⟩, hhash, hmark, -⟩ := hpath
  have hne : c.toNat ≠ 0x20 := fun heq => hspace (Char.toNat_inj.1 heq)
  have hvisible : 0x21 ≤ c.toNat := by omega
  simp [Target.isPathChar, hvisible, hless, hgreater, htick, hhash, hmark]

/-- What is not encoded in a query may stand in that of a request. -/
theorem isQueryChar_target {c : Char} (h : inSpecialQuery c = false) : Target.isQueryChar c = true := by
  simp only [inSpecialQuery, inQuery, isControl, Bool.or_eq_false_iff, decide_eq_false_iff_not, List.contains_eq_mem,
    List.mem_cons, List.not_mem_nil, or_false, not_or] at h
  obtain ⟨⟨⟨hlow, -⟩, hspace, hquote, hhash, hless, hgreater⟩, -⟩ := h
  have hne : c.toNat ≠ 0x20 := fun heq => hspace (Char.toNat_inj.1 heq)
  have hvisible : 0x21 ≤ c.toNat := by omega
  simp [Target.isQueryChar, hvisible, hquote, hhash, hless, hgreater]

variable {u : Url}

/-- A settled path with its query is read to its end. -/
theorem IsSettled.pathAndQueryOf?_target (h : IsSettled u) : Target.pathAndQueryOf? u.target = some u.target := by
  obtain ⟨p, htarget, hchars, -⟩ := h.exists_target
  have hpath : ∀ c ∈ '/' :: p, Target.isPathChar c = true := by
    intro c hc
    rcases List.mem_cons.1 hc with rfl | hc
    · decide
    · exact (hchars c hc).isPathChar_target
  rw [htarget, ← List.cons_append]
  exact Target.pathAndQueryOf?_eq_self hpath (fun c hc => isQueryChar_target (h.mem_queryText hc))
    (head?_queryText u)

/-- **A target that has been rewritten is that of a request**, unless it is too long. -/
theorem IsSettled.parse?_target (h : IsSettled u) (hsize : (String.ofList u.target).utf8ByteSize ≤ Target.maxLength) :
    Target.parse? (String.ofList u.target) = some { rest := u.target } := by
  obtain ⟨p, htarget, -, -⟩ := h.exists_target
  exact Target.parse?_of_slash (htarget ▸ rfl) h.pathAndQueryOf?_target hsize

end Url

namespace Relay

open Url

/-- A target that a relay takes in and sends as it is, whatever backends it has. -/
structure PassesUnchanged (target : String) : Prop where
  /-- It can be read, unless it is too long. -/
  read : target.utf8ByteSize ≤ Http.Target.maxLength → (Http.Target.parse? target).isSome = true
  /-- A request for it is taken in as one. -/
  taken : ∀ (a : Arrival) (limit : Nat) (r : Intake), Http.Target.parse? target = some a.target →
    Intake.capture limit a = .ok r → r.target = target
  /-- Every backend for the web is sent it. -/
  sent : ∀ (backend : String) (base : Url) (d : Destination), Url.parse backend.toList = .ok base →
    IsWebScheme base.scheme → Destination.resolve backend target = .ok d → d.url.target = target.toList

namespace Destination

variable {backend target : String} {base : Url} {d : Destination}

/-- A target that is sent has been rewritten. -/
theorem isSettled_of_resolve (hbase : Url.parse backend.toList = .ok base) (hscheme : IsWebScheme base.scheme)
    (ht : target.toList.head? = some '/') (hhash : '#' ∉ target.toList) (hd : resolve backend target = .ok d) :
    d.url.IsSettled := by
  obtain ⟨host, -, heq⟩ := resolve_eq hbase hscheme ht
  obtain ⟨r, hr⟩ := List.head?_eq_some_iff.1 ht
  rw [heq] at hd
  split at hd
  · cases hd
    rw [hr, clean_slash]
    refine isSettled_withTarget fun hmem => hhash ?_
    rw [hr]
    exact List.mem_cons_of_mem '/' (Text.dropRight_subset _ _ (List.mem_of_mem_filter hmem))
  · cases hd

/-- Where a target that has been rewritten is sent, in closed form. -/
theorem resolve_of_isSettled {u : Url} (h : u.IsSettled) (hbase : Url.parse backend.toList = .ok base)
    (hscheme : IsWebScheme base.scheme) :
    ∃ host, IsWeb base host ∧
      resolve backend (String.ofList u.target) =
        if host.IsReadable then
          .ok { authority := String.ofList (host.text ++ portText base.port)
                url := { scheme := base.scheme, host := some host, port := base.port
                         path := u.path, query := u.query } }
        else .error (.badRequest Url.Fault.invalidDomain.message) := by
  obtain ⟨p, htarget, -, -⟩ := h.exists_target
  have hslash : (String.ofList u.target).toList.head? = some '/' := by
    rw [String.toList_ofList, htarget]
    rfl
  have hclean : clean u.target = u.target := clean_of_visible fun c hc =>
    (Http.Target.visible_of_pathAndQueryOf? h.pathAndQueryOf?_target c hc).1
  obtain ⟨host, hweb, heq⟩ := resolve_eq hbase hscheme hslash
  rw [String.toList_ofList, hclean, h.withTarget_target] at heq
  exact ⟨host, hweb, heq⟩

/-- A target that has been rewritten is passed on as it is. -/
theorem passesUnchanged_of_isSettled {u : Url} (h : u.IsSettled) : PassesUnchanged (String.ofList u.target) where
  read hsize := by
    rw [h.parse?_target hsize]
    rfl
  taken a limit r haccepted hcapture := by
    have hsize : (String.ofList u.target).utf8ByteSize ≤ Http.Target.maxLength := by
      by_contra hlong
      rw [Http.Target.parse?, if_pos (Nat.not_le.1 hlong)] at haccepted
      cases haccepted
    rw [h.parse?_target hsize] at haccepted
    obtain ⟨p, htarget, -, -⟩ := h.exists_target
    have hpath : a.target.pathAndQuery? = some u.target := by
      rw [← Option.some.inj haccepted, htarget]
      rfl
    rw [Intake.capture] at hcapture
    split at hcapture
    · cases hcapture
    · cases hcapture
      rw [hpath, Option.getD_some]
  sent backend base d hbase hscheme hd := by
    obtain ⟨host, -, heq⟩ := resolve_of_isSettled h hbase hscheme
    rw [heq] at hd
    split at hd
    · cases hd
      rw [String.toList_ofList]
      rfl
    · cases hd

/-- **A target that has been sent is sent again as it is**: to the same destination for the same backend, and by every
relay that it is sent to. -/
theorem resolve_target_again (hbase : Url.parse backend.toList = .ok base) (hscheme : IsWebScheme base.scheme)
    (ht : target.toList.head? = some '/') (hhash : '#' ∉ target.toList) (hd : resolve backend target = .ok d) :
    resolve backend (String.ofList d.url.target) = .ok d ∧ PassesUnchanged (String.ofList d.url.target) := by
  have hsettled := isSettled_of_resolve hbase hscheme ht hhash hd
  refine ⟨?_, passesUnchanged_of_isSettled hsettled⟩
  obtain ⟨host, hweb, heq⟩ := resolve_eq hbase hscheme ht
  obtain ⟨host', hweb', heq'⟩ := resolve_of_isSettled hsettled hbase hscheme
  cases hweb.host_eq.symm.trans hweb'.host_eq
  rw [heq] at hd
  rw [heq']
  split at hd
  · rename_i hreadable
    cases hd
    -- but for the fragment, of which there is none, all parts are taken over
    rw [if_pos hreadable, ← hsettled.fragment]
    rfl
  · cases hd

/-- Dots are carried out, slashes turned and blanks encoded once. -/
theorem resolve_target_again_local :
    ∃ d, resolve "http://127.0.0.1:18401/" "/a/%2e%2E/./b\\c d?x='y' z" = .ok d ∧
      d.url.target = "/b/c%20d?x=%27y%27%20z".toList ∧
      resolve "http://127.0.0.1:18401/" "/b/c%20d?x=%27y%27%20z" = .ok d := by
  have hhash : '#' ∉ "/a/%2e%2E/./b\\c d?x='y' z".toList := by
    decide
  have hfirst : resolve "http://127.0.0.1:18401/" "/a/%2e%2E/./b\\c d?x='y' z" =
      .ok ⟨"127.0.0.1:18401", withTarget "http".toList (some 18401) "/b/c%20d?x=%27y%27%20z".toList
        (.v4 ⟨127, 0, 0, 1⟩)⟩ := by
    decide +kernel
  have htarget : (withTarget "http".toList (some 18401) "/b/c%20d?x=%27y%27%20z".toList (.v4 ⟨127, 0, 0, 1⟩)).target =
      "/b/c%20d?x=%27y%27%20z".toList := by
    decide +kernel
  obtain ⟨hagain, -⟩ := resolve_target_again parse_local (.inl rfl) rfl hhash hfirst
  dsimp only at hagain
  rw [htarget, String.ofList_toList] at hagain
  exact ⟨_, hfirst, htarget, hagain⟩

end Destination

end Relay

end Repeater
