import Repeater.Proofs.Http.Target
import Repeater.Proofs.Relay.Destination
import Repeater.Proofs.Url.Path

/-!
# Which targets are passed on as they came

A target is put behind the authority of the backend and the whole is read again, so it comes out as it
went in only if reading leaves it alone: dot segments, also with encoded dots, are carried out,
backslashes become slashes, and some characters that a request may hold are encoded.

## Results

* `Intake.target_chars`     — a request that is taken in has a target without blanks and hashes;
* `Destination.target_verbatim_iff` — the exact condition under which the target is passed on as it came.
-/

namespace Repeater.Relay

open Url

/-- The target of a request that is taken in has no blanks and no hash. -/
theorem Intake.target_chars {text : String} {a : Arrival} {limit : Nat} {r : Intake}
    (haccepted : Http.Target.parse? text = some a.target) (hcapture : Intake.capture limit a = .ok r) :
    ∀ c ∈ r.target.toList, Http.Target.IsTargetChar c := by
  have htarget : r.target.toList = a.target.pathAndQuery?.getD ['/'] := by
    unfold Intake.capture at hcapture
    split at hcapture
    · cases hcapture
    · cases hcapture
      exact String.toList_ofList
  intro c hc
  rw [htarget, Http.Target.pathAndQuery?] at hc
  split at hc
  · rw [Option.getD_some] at hc
    split at hc
    · rw [List.mem_singleton.1 hc]
      decide
    · exact Http.Target.visible_of_parse? haccepted c hc
  · rw [Option.getD_none, List.mem_singleton] at hc
    rw [hc]
    decide

/-- A request whose target is left alone when it is read as part of a URL. -/
structure Intake.IsVerbatim (r : Intake) : Prop where
  /-- It starts with its path. -/
  slash : r.path.toList.head? = some '/'
  /-- Nothing in the path is encoded, and no backslash becomes a slash. -/
  path : ∀ c ∈ r.path.toList, inPath c = false ∧ c ≠ '\\'
  /-- No segment of the path is carried out. -/
  segments : ∀ seg ∈ r.path.toList.splitOnP (· == '/'), isDots 1 seg = false ∧ isDots 2 seg = false
  /-- Nothing in the query is encoded. -/
  query : ∀ c ∈ r.query.toList, inSpecialQuery c = false

/-- The condition on the text behind the first slash. -/
theorem Intake.isVerbatim_iff {r : Intake} {s : List Char} (hs : r.target.toList = '/' :: s) :
    r.IsVerbatim ↔ IsPlainTarget s := by
  have hpath : r.path.toList = '/' :: beforeMark s := by
    rw [Intake.path, String.toList_ofList, hs, beforeMark, List.takeWhile_cons_of_pos (by decide)]
  have hquery : r.query.toList = afterMark s := by
    rw [Intake.query, String.toList_ofList, hs, afterMark, List.dropWhile_cons_of_pos (by decide)]
  have hsplit : ('/' :: beforeMark s).splitOnP (· == '/') = [] :: (beforeMark s).splitOnP (· == '/') :=
    List.splitOnP_cons_eq_if_modifyHead _ _
  have hdots (seg : List Char) :
      (isDots 1 seg = false ∧ isDots 2 seg = false) ↔ ¬IsDotSegment seg := by
    simp [IsDotSegment]
  constructor
  · rintro ⟨-, hchars, hsegments, hencoded⟩
    rw [hpath] at hchars hsegments
    rw [hsplit] at hsegments
    rw [hquery] at hencoded
    exact ⟨⟨fun c hc => hchars c (List.mem_cons_of_mem _ hc), fun seg hseg =>
      (hdots seg).1 (hsegments seg (List.mem_cons_of_mem _ hseg))⟩, hencoded⟩
  · rintro ⟨⟨hchars, hsegments⟩, hencoded⟩
    refine ⟨by rw [hpath]; rfl, ?_, ?_, by rwa [hquery]⟩
    · rw [hpath]
      intro c hc
      rcases List.mem_cons.1 hc with rfl | hc
      · decide
      · exact hchars c hc
    · rw [hpath, hsplit]
      intro seg hseg
      rcases List.mem_cons.1 hseg with rfl | hseg
      · decide
      · exact (hdots seg).2 (hsegments seg hseg)

namespace Destination

/-- Every destination for the web has a path that starts with a slash, whatever the target. -/
theorem head?_target {backend target : String} {base : Url} {d : Destination}
    (hbase : Url.parse backend.toList = .ok base) (hscheme : IsWebScheme base.scheme)
    (hd : resolve backend target = .ok d) : d.url.target.head? = some '/' := by
  simp only [resolve, hbase] at hd
  split at hd
  · cases hd
  · split at hd
    · cases hd
    · rename_i hparse
      cases hd
      rw [List.append_assoc] at hparse
      exact head?_target_of_parse hscheme hparse

/-- **A target is passed on as it came exactly if reading leaves it alone**, for every request that is
taken in and every backend for the web that there is a destination for. -/
theorem target_verbatim_iff {text backend : String} {a : Arrival} {limit : Nat} {r : Intake} {base : Url}
    {d : Destination} (haccepted : Http.Target.parse? text = some a.target)
    (hcapture : Intake.capture limit a = .ok r) (hbase : Url.parse backend.toList = .ok base)
    (hscheme : IsWebScheme base.scheme) (hd : resolve backend r.target = .ok d) :
    d.url.target = r.target.toList ↔ r.IsVerbatim := by
  have hchars := Intake.target_chars haccepted hcapture
  by_cases hslash : r.target.toList.head? = some '/'
  · obtain ⟨host, hweb, heq⟩ := resolve_eq hbase hscheme hslash
    rw [heq] at hd
    split at hd
    · obtain ⟨s, hs⟩ := List.head?_eq_some_iff.1 hslash
      cases hd
      have hhash : '#' ∉ s := fun hmem => (hchars '#' (hs ▸ List.mem_cons_of_mem _ hmem)).2 rfl
      rw [Intake.isVerbatim_iff hs, clean_of_visible fun c hc => (hchars c hc).1, hs]
      exact Url.target_eq_iff hhash
    · cases hd
  · refine iff_of_false (fun h => hslash ?_) fun h => hslash ?_
    · rw [← h]
      exact head?_target hbase hscheme hd
    · have hfirst := h.slash
      rw [Intake.path, String.toList_ofList] at hfirst
      cases htarget : r.target.toList with
      | nil =>
        rw [htarget] at hfirst
        cases hfirst
      | cons c s =>
        rw [htarget, List.takeWhile_cons] at hfirst
        split at hfirst
        · exact hfirst
        · cases hfirst

-- ---------------------------------------------------------------------------
-- A target that is left alone, and one that is not
-- ---------------------------------------------------------------------------

/-- A request for a target, without fields and body. -/
def plainArrival (rest : String) : Arrival :=
  { method := "GET", target := { rest := rest.toList } }

/-- The same, taken in. -/
def plainIntake (rest : String) : Intake :=
  { method := "GET", target := rest, requestId := "unknown" }

/-- A plain path and query are passed on as they came. -/
theorem target_of_plain :
    ∃ d, resolve "http://127.0.0.1:18401/" (plainIntake "/a/b?x=1").target = .ok d ∧
      d.url.target = "/a/b?x=1".toList := by
  have haccepted : Http.Target.parse? "/a/b?x=1" = some (plainArrival "/a/b?x=1").target := rfl
  have hcapture : Intake.capture bodyLimit (plainArrival "/a/b?x=1") = .ok (plainIntake "/a/b?x=1") := rfl
  have hverbatim : (plainIntake "/a/b?x=1").IsVerbatim := by
    refine ⟨rfl, ?_, ?_, ?_⟩ <;> exact Text.forall_mem_of_all (by decide)
  obtain ⟨host, port, hhost, -, hok, -⟩ :=
    resolve_keeps parse_local (.inl rfl) (show "/a/b?x=1".toList.head? = some '/' from rfl)
  cases hhost
  obtain ⟨d, hd, -⟩ := hok trivial
  exact ⟨d, hd, (target_verbatim_iff haccepted hcapture parse_local (.inl rfl) hd).2 hverbatim⟩

/-- **A target with a dot segment is not**: the request is taken in with one path and sent with
another. -/
theorem target_of_dots :
    Http.Target.parse? "/a/../b" = some (plainArrival "/a/../b").target ∧
      Intake.capture bodyLimit (plainArrival "/a/../b") = .ok (plainIntake "/a/../b") ∧
      Url.parse "http://127.0.0.1:18401/".toList = .ok (localUrl 18401) ∧
      ∃ d, resolve "http://127.0.0.1:18401/" (plainIntake "/a/../b").target = .ok d ∧
        d.url.target = "/b".toList ∧ (plainIntake "/a/../b").target.toList ≠ d.url.target := by
  refine ⟨rfl, rfl, parse_local, ?_⟩
  obtain ⟨host, hweb, heq⟩ :=
    resolve_eq parse_local (.inl rfl) (show "/a/../b".toList.head? = some '/' from rfl)
  cases hweb.host_eq
  have htarget : (withTarget (localUrl 18401).scheme (localUrl 18401).port (clean "/a/../b".toList)
      (.v4 ⟨127, 0, 0, 1⟩)).target = "/b".toList := by decide
  exact ⟨_, heq, htarget, by rw [htarget]; decide⟩

end Destination

end Repeater.Relay
