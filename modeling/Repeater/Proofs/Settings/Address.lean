import Repeater.Proofs.Net.Readers
import Repeater.Proofs.Settings.Backends

/-!
# The address of settings

A host and a port of the command line are laid over an address half by half: the text is cut at its last colon,
a half is replaced, and the halves are put together again. Whatever the address was spelled like, the other half
stays what it was.

## Results

* `Overrides.splitAddress_of_isSpelled`  — an address falls into a literal of its host and the digits of its port;
* `Overrides.joinAddress_of_isLiteral`   — a literal and a port are put together to an address;
* `Overrides.parse?_address`             — what the address is with a host, a port, or both laid over it;
* `Settings.listens_as_given`            — so settings with an address have one afterwards.
-/

namespace Repeater

open Net

-- ---------------------------------------------------------------------------
-- Literals
-- ---------------------------------------------------------------------------

/-- How a host may be given: an IPv4 address, or an IPv6 address, bare or in brackets, with its scope or
without. -/
inductive Net.Host.IsLiteral : Host → List Char → Prop
  | v4 {ip : Ipv4} {t : List Char} (h : Ipv4.parse? t = some ip) : IsLiteral (.v4 ip) t
  | bare {ip : Ipv6} {id : UInt32} {t : List Char} (h : Ipv6.scoped? t = some ((ip, id), [])) :
    IsLiteral (.v6 ip id) t
  | bracketed {ip : Ipv6} {id : UInt32} {t : List Char} (h : Ipv6.scoped? t = some ((ip, id), [])) :
    IsLiteral (.v6 ip id) ('[' :: (t ++ [']']))

namespace Overrides

-- ---------------------------------------------------------------------------
-- Taken apart
-- ---------------------------------------------------------------------------

/-- In a text without brackets there is none to drop, whatever follows it. -/
theorem drop_brackets {t : List Char} (hne : t ≠ []) (ht : ∀ c ∈ t, c ≠ '[' ∧ c ≠ ']') (r : List Char) :
    Text.dropRight (· == ']') ((t ++ r).dropWhile (· == '[')) = t ++ Text.dropRight (· == ']') r := by
  have hfront : (t ++ r).dropWhile (· == '[') = t ++ r := by
    obtain ⟨c, t, rfl⟩ := List.exists_cons_of_ne_nil hne
    exact List.dropWhile_cons_of_neg (by simp [(ht c List.mem_cons_self).1])
  rw [hfront]
  exact Text.dropRight_append (fun c hc => beq_eq_false_iff_ne.2 (ht c hc).2) hne r

/-- An address falls into a literal of its host and what stands for its port. -/
theorem splitAddress_of_isSpelled {host : Host} {t port : List Char} (hhost : host.IsSpelled t)
    (hport : ':' ∉ port) :
    ∃ text, splitAddress (String.ofList (t ++ ':' :: port)) = (text, String.ofList port) ∧
      host.IsLiteral text.toList := by
  have hcut : Text.cutLast (· == ':') (t ++ ':' :: port) = some (t, port) := by
    refine Text.cutLast_append (fun c hc => beq_eq_false_iff_ne.2 ?_) rfl
    rintro rfl
    exact hport hc
  refine ⟨String.ofList (Text.dropRight (· == ']') (t.dropWhile (· == '['))), ?_, ?_⟩
  · rw [splitAddress, String.toList_ofList, hcut]
  · rw [String.toList_ofList]
    cases hhost with
    | v4 h =>
      have hne : t ≠ [] := by
        rintro rfl
        cases h
      have hdrop := drop_brackets hne (fun c hc => (Ipv4.ne_of_parse? h c hc).2) []
      rw [List.append_nil] at hdrop
      rw [hdrop]
      simpa [Text.dropRight] using Host.IsLiteral.v4 h
    | @v6 ip id t h =>
      obtain ⟨hcolon, hbrackets⟩ := Ipv6.mem_of_scoped? h
      have hdrop := drop_brackets (List.ne_nil_of_mem hcolon) hbrackets [']']
      rw [List.dropWhile_cons_of_pos rfl, hdrop]
      simpa [Text.dropRight] using Host.IsLiteral.bare h

-- ---------------------------------------------------------------------------
-- Put together
-- ---------------------------------------------------------------------------

/-- A literal and what stands for a port are put together to the text of an address. -/
theorem joinAddress_of_isLiteral {host : Host} {text : String} (h : host.IsLiteral text.toList) (port : String) :
    ∃ t, host.IsSpelled t ∧ (joinAddress text port).toList = t ++ ':' :: port.toList := by
  have hjoin : (joinAddress text port).toList =
      if ':' ∈ text.toList ∧ text.toList.head? ≠ some '[' then
        '[' :: (text.toList ++ [']']) ++ ':' :: port.toList
      else text.toList ++ ':' :: port.toList := by
    have hcond : (text.toList.contains ':' && text.toList.head? != some '[') = true ↔
        ':' ∈ text.toList ∧ text.toList.head? ≠ some '[' := by
      rw [Bool.and_eq_true, List.contains_iff_mem, bne_iff_ne]
    rw [joinAddress]
    by_cases hbare : ':' ∈ text.toList ∧ text.toList.head? ≠ some '['
    · rw [if_pos (hcond.2 hbare), if_pos hbare]
      simp
    · rw [if_neg (mt hcond.1 hbare), if_neg hbare]
      simp
  generalize text.toList = t at h hjoin
  cases h with
  | v4 h =>
    refine ⟨t, .v4 h, ?_⟩
    rw [hjoin, if_neg]
    exact fun hboth => (Ipv4.ne_of_parse? h ':' hboth.1).1 rfl
  | bare h =>
    obtain ⟨hcolon, hbrackets⟩ := Ipv6.mem_of_scoped? h
    refine ⟨'[' :: (t ++ [']']), .v6 h, ?_⟩
    rw [hjoin, if_pos]
    exact ⟨hcolon, fun hhead => (hbrackets '[' (List.mem_of_head? hhead)).1 rfl⟩
  | bracketed h =>
    refine ⟨_, .v6 h, ?_⟩
    rw [hjoin, if_neg]
    exact fun hboth => hboth.2 rfl

/-- **An address with a host, a port, or both laid over it.** -/
theorem parse?_address {a : SocketAddress} {current : String} (ha : SocketAddress.parse? current.toList = some a)
    {host : Option String} {given : Option Host}
    (hgiven : Option.Rel (fun text host => Host.IsLiteral host text.toList) host given) (port : Option UInt16) :
    SocketAddress.parse? (address host port current).toList = some ⟨given.getD a.host, port.getD a.port⟩ := by
  by_cases hnone : host.isNone && port.isNone
  · obtain ⟨rfl, rfl⟩ : host = none ∧ port = none := by simpa using hnone
    cases hgiven
    rw [address, if_pos hnone]
    exact ha
  · obtain ⟨t, digits, hcurrent, hspelled, hport⟩ := SocketAddress.parse?_eq_some_iff.1 ha
    have hdigits : ':' ∉ digits := fun hmem => absurd (isDigitOf_of_port? hport ':' hmem) (by decide)
    obtain ⟨old, hsplit, hold⟩ := splitAddress_of_isSpelled hspelled hdigits
    have htext : String.ofList (t ++ ':' :: digits) = current := by rw [← hcurrent, String.ofList_toList]
    -- both halves are what they should be, whether they are old or new
    have hnew : (given.getD a.host).IsLiteral (host.getD old).toList := by
      cases hgiven with
      | none => exact hold
      | some h => exact h
    have hnewPort : port? (':' :: ((port.map toString).getD (String.ofList digits)).toList) =
        some (port.getD a.port) := by
      cases port with
      | none => simpa using hport
      | some port => exact port?_toString port
    obtain ⟨new, hspelledNew, hjoin⟩ :=
      joinAddress_of_isLiteral hnew ((port.map toString).getD (String.ofList digits))
    rw [htext] at hsplit
    simp only [address, if_neg hnone, hsplit, hjoin]
    exact SocketAddress.parse?_eq_some_iff.2 ⟨new, _, rfl, hspelledNew, hnewPort⟩

end Overrides

namespace Settings

/-- A problem of the address is that it is none. -/
theorem isAddress_of_mem_problems {s : Settings} {text : String} (h : .bindAddress text ∈ s.problems) :
    isAddress s.bindAddress = false := by
  rw [problems, backendProblems_eq_review, List.mem_append, List.mem_append] at h
  rcases h with (h | h) | h
  · split at h
    · cases h
    · rename_i hnot
      exact Bool.eq_false_iff.2 hnot
  · split at h
    · cases List.mem_singleton.1 h
    · cases h
  · cases isOfBackend_of_mem_review h

/-- **Settings listen as they are given.** Where the address of settings is one, a host that is laid over it takes
the place of the host, a port that of the port, and the other half stays. So no problem of the address arises. -/
theorem listens_as_given {s : Settings} {a : SocketAddress}
    (ha : SocketAddress.parse? s.bindAddress.toList = some a) (o : Overrides) {given : Option Host}
    (hgiven : Option.Rel (fun text host => Host.IsLiteral host text.toList) o.host given) :
    SocketAddress.parse? (o.apply s).bindAddress.toList = some ⟨given.getD a.host, o.port.getD a.port⟩ ∧
      ∀ text, Problem.bindAddress text ∉ (o.apply s).problems := by
  have haddress : SocketAddress.parse? (o.apply s).bindAddress.toList =
      some ⟨given.getD a.host, o.port.getD a.port⟩ := Overrides.parse?_address ha hgiven o.port
  refine ⟨haddress, fun text htext => ?_⟩
  have hnone := isAddress_of_mem_problems htext
  rw [isAddress, haddress] at hnone
  cases hnone

/-- A port laid over an address with a scope, and a host laid over it. -/
theorem listens_as_given_linkLocal :
    let s : Settings := { bindAddress := "[fe80::1%3]:080" }
    let ported : Overrides := { port := some 81 }
    let hosted : Overrides := { host := some "2001:db8::7" }
    let old : Ipv6 := ⟨#v[0xfe80, 0, 0, 0, 0, 0, 0, 1]⟩
    let new : Ipv6 := ⟨#v[0x2001, 0xdb8, 0, 0, 0, 0, 0, 7]⟩
    SocketAddress.parse? (ported.apply s).bindAddress.toList = some ⟨.v6 old 3, 81⟩ ∧
      SocketAddress.parse? (hosted.apply s).bindAddress.toList = some ⟨.v6 new 0, 80⟩ ∧
        ∀ text, Problem.bindAddress text ∉ (hosted.apply s).problems := by
  intro s ported hosted old new
  have hold : SocketAddress.parse? s.bindAddress.toList = some ⟨.v6 old 3, 80⟩ := by decide +kernel
  have hnew : Ipv6.parse? "2001:db8::7".toList = some new := by decide +kernel
  have hported := listens_as_given hold ported .none
  have hhosted := listens_as_given hold hosted (.some (.bare (Ipv6.scoped?_of_parse? hnew)))
  exact ⟨hported.1, hhosted⟩

end Settings

end Repeater
