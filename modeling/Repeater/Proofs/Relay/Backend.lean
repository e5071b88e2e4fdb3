import Repeater.Proofs.Url.Suffix
import Repeater.Relay.Destination

/-!
# What counts of a backend

Of a backend for the web nothing counts but its scheme and its authority. What stands behind them may look like user
information, another authority or a whole URL: requests go where they would go without it.

## Results

* `resolve_append_iff` — a destination does not depend on what stands behind the authority of the backend.
-/

namespace Repeater.Relay.Destination

open Url

/-- Two backends that are read alike, but for path, query and fragment, lead to the same destinations. -/
theorem resolve_eq_ok_iff_of_followedBy {backend backend' target : String} {d : Destination} {t : List Char}
    (h : Url.parse backend'.toList = (Url.parse backend.toList).map (·.followedBy t)) :
    resolve backend' target = .ok d ↔ resolve backend target = .ok d := by
  rw [resolve, resolve, h]
  cases Url.parse backend.toList with
  | error e => exact iff_of_false nofun nofun
  | ok base =>
    have hauthority : authorityOf (base.followedBy t) = authorityOf base := rfl
    simp only [Except.map, hauthority]
    cases authorityOf base with
    | none => exact iff_of_false nofun nofun
    | some authority => exact Iff.rfl

/-- **What stands behind the authority of a backend is ignored**, from the first slash, backslash, question mark or
hash on: there is a destination with it exactly if there is one without it, and it is the same. Only slashes in the
place of an authority are passed over, so an authority that is missing is looked for behind them. -/
theorem resolve_append_iff {scheme authority suffix target : String} {d : Destination}
    (hscheme : scheme = "http" ∨ scheme = "https")
    (hauthority : ∀ c ∈ authority.toList, 0x20 < c.toNat ∧ c ∉ ['/', '\\', '?', '#'])
    (hsuffix : ∃ c ∈ ['/', '\\', '?', '#'], suffix.toList.head? = some c) :
    resolve (scheme ++ "://" ++ authority) target = .ok d ↔
      authority ≠ "" ∧ resolve (scheme ++ "://" ++ authority ++ suffix) target = .ok d := by
  by_cases hempty : authority = ""
  · have hfault : Url.parse (scheme ++ "://" ++ authority).toList = .error .emptyHost := by
      rw [hempty]
      rcases hscheme with rfl | rfl <;> decide
    refine iff_of_false (fun h => ?_) fun h => h.1 hempty
    rw [resolve, hfault] at h
    cases h
  · obtain ⟨c, hc, hhead⟩ := hsuffix
    obtain ⟨t, ht⟩ := List.head?_eq_some_iff.1 hhead
    have hweb : IsWebScheme scheme.toList := by
      rcases hscheme with rfl | rfl
      · exact .inl rfl
      · exact .inr rfl
    have hchars : ∀ d ∈ authority.toList, IsAuthorityChar d := fun d hd =>
      ⟨(hauthority d hd).1, Bool.eq_false_iff.2 (mt endsAuthority_special_iff.1 (hauthority d hd).2)⟩
    have hne : authority.toList ≠ [] := by simpa using hempty
    have hparse := parse_append (t := t) hweb hne hchars (endsAuthority_special_iff.2 hc)
    rw [and_iff_right hempty]
    refine (resolve_eq_ok_iff_of_followedBy (t := c :: trimmed t) ?_).symm
    simpa [ht] using hparse

/-- Behind an authority with user information and a port there may stand what looks like other ones. -/
theorem resolve_append_iff_local :
    ∃ d, (∀ c ∈ "u:p@127.0.0.1:18401".toList, 0x20 < c.toNat ∧ c ∉ ['/', '\\', '?', '#']) ∧
      resolve "http://u:p@127.0.0.1:18401" "/t" = .ok d ∧
      resolve "http://u:p@127.0.0.1:18401\\@evil:80/../ https://x?y#z" "/t" = .ok d := by
  have hchars : ∀ c ∈ "u:p@127.0.0.1:18401".toList, 0x20 < c.toNat ∧ c ∉ ['/', '\\', '?', '#'] :=
    Text.forall_mem_of_all (by decide)
  have hmark : "\\@evil:80/../ https://x?y#z".toList.head? = some '\\' := rfl
  have halone : resolve "http://u:p@127.0.0.1:18401" "/t" =
      .ok ⟨"127.0.0.1:18401", withTarget "http".toList (some 18401) "/t".toList (.v4 ⟨127, 0, 0, 1⟩)⟩ := by
    decide +kernel
  exact ⟨_, hchars, halone, ((resolve_append_iff (.inl rfl) hchars ⟨'\\', by decide, hmark⟩).1 halone).2⟩

end Repeater.Relay.Destination
