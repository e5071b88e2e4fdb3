import Repeater.Proofs.Url.Authority
import Repeater.Relay.Destination

/-!
# A request stays with its backend

Whatever a target says after its slash, the destination keeps the scheme, the host and the port of the
backend, and it has no user information. The one thing that can go wrong is the name of the backend
itself: a label that is written in more than two thousand characters is not read again, and then every
request for the backend fails.

## Results

* `resolve_eq`       — the destination in closed form;
* `resolve_keeps`    — a target cannot change the authority of the backend.
-/

namespace Repeater.Relay.Destination

open Url

/-- The destination of a target behind a web URL, in closed form. -/
theorem resolve_eq {backend target : String} {base : Url} (hbase : Url.parse backend.toList = .ok base)
    (hscheme : IsWebScheme base.scheme) (ht : target.toList.head? = some '/') :
    ∃ host, IsWeb base host ∧
      resolve backend target =
        if host.IsReadable then
          .ok { authority := String.ofList (host.text ++ portText base.port)
                url := withTarget base.scheme base.port (clean target.toList) host }
        else .error (.badRequest Url.Fault.invalidDomain.message) := by
  obtain ⟨host, hweb⟩ := IsWeb.of_parse hbase hscheme
  have hauthority : authorityOf base = some (host.text ++ portText base.port) := by
    have hne : (host != .domain []) = true := bne_iff_ne.2 hweb.special.ne_nameless
    rw [authorityOf, namedHost?, hweb.host_eq, Option.filter_some, if_pos hne, Option.map_some]
  refine ⟨host, hweb, ?_⟩
  simp only [resolve, hbase, hauthority]
  rw [parse_authority hscheme hweb.special hweb.port ht]
  by_cases hread : host.IsReadable
  · rw [if_pos hread, if_pos hread]
  · rw [if_neg hread, if_neg hread]

/-- The host of a URL, with the port unless it is the usual one of the scheme. -/
def shownAuthority (scheme : List Char) (host : Host) (port : UInt16) : List Char :=
  host.text ++ if usualPort? scheme = some port then [] else ':' :: Nat.toDigits 10 port.toNat

/-- A destination with this scheme, host and port, and no user information. -/
structure Keeps (d : Destination) (scheme : List Char) (host : Host) (port : UInt16) : Prop where
  scheme_eq : d.url.scheme = scheme
  host_eq : d.url.host = some host
  port_eq : d.url.effectivePort? = some port
  no_username : d.url.username = []
  no_password : d.url.password = []
  authority_eq : d.authority = String.ofList (shownAuthority scheme host port)

/-- A URL for the web has a port, and writes it unless it is the usual one. -/
theorem exists_port {u : Url} {host : Host} (h : IsWeb u host) :
    ∃ port, u.effectivePort? = some port ∧
      host.text ++ portText u.port = shownAuthority u.scheme host port := by
  have husual : ∃ port, usualPort? u.scheme = some port := by
    rcases h.scheme with hs | hs
    · exact ⟨80, by rw [hs]; decide⟩
    · exact ⟨443, by rw [hs]; decide⟩
  obtain ⟨usual, husual⟩ := husual
  cases hp : u.port with
  | none =>
    refine ⟨usual, by rw [effectivePort?, hp, husual]; rfl, ?_⟩
    rw [shownAuthority, if_pos husual]
    rfl
  | some port =>
    refine ⟨port, by rw [effectivePort?, hp]; rfl, ?_⟩
    rw [shownAuthority, if_neg (h.port port hp)]
    rfl

/-- **A target cannot change the authority of the backend.** For every target that starts with a slash
there is a destination, with the scheme, host and port of the backend; only if the host cannot be read
there is none. -/
theorem resolve_keeps {backend target : String} {base : Url} (hbase : Url.parse backend.toList = .ok base)
    (hscheme : IsWebScheme base.scheme) (ht : target.toList.head? = some '/') :
    ∃ host port, base.host = some host ∧ base.effectivePort? = some port ∧
      (host.IsReadable → ∃ d, resolve backend target = .ok d ∧ Keeps d base.scheme host port) ∧
      (¬host.IsReadable →
        resolve backend target = .error (.badRequest "invalid international domain name")) := by
  obtain ⟨host, hweb, heq⟩ := resolve_eq hbase hscheme ht
  obtain ⟨port, hport, htext⟩ := exists_port hweb
  refine ⟨host, port, hweb.host_eq, hport, fun hread => ?_, fun hread => by rw [heq, if_neg hread]; rfl⟩
  rw [if_pos hread] at heq
  exact ⟨_, heq, rfl, rfl, hport, rfl, rfl, by rw [htext]⟩

-- ---------------------------------------------------------------------------
-- An address, and a name that is too long
-- ---------------------------------------------------------------------------

/-- The local machine at a port. -/
def localUrl (port : UInt16) : Url :=
  withTarget "http".toList (some port) ['/'] (.v4 ⟨127, 0, 0, 1⟩)

theorem parse_local_port {port : UInt16} {t : List Char} (hport : usualPort? "http".toList ≠ some port)
    (ht : t.head? = some '/') :
    Url.parse ("http".toList ++ "://".toList ++ ((Host.v4 ⟨127, 0, 0, 1⟩).text ++ portText (some port)) ++ t) =
      .ok (withTarget "http".toList (some port) (clean t) (.v4 ⟨127, 0, 0, 1⟩)) := by
  have hunusual : ∀ p ∈ some port, usualPort? "http".toList ≠ some p := by
    rintro _ ⟨⟩
    exact hport
  rw [parse_authority (.inl rfl) (.v4 _) hunusual ht]
  exact if_pos trivial

theorem parse_local_target {t : List Char} (ht : t.head? = some '/') :
    Url.parse ("http://127.0.0.1:18401".toList ++ t) =
      .ok (withTarget "http".toList (some 18401) (clean t) (.v4 ⟨127, 0, 0, 1⟩)) := by
  have htext : "http://127.0.0.1:18401".toList =
      "http".toList ++ "://".toList ++ ((Host.v4 ⟨127, 0, 0, 1⟩).text ++ portText (some 18401)) := rfl
  rw [htext, parse_local_port (by decide) ht]

theorem parse_local : Url.parse "http://127.0.0.1:18401/".toList = .ok (localUrl 18401) :=
  parse_local_target (t := ['/']) rfl

/-- What looks like user information behind the slash is part of the path. -/
theorem resolve_keeps_local :
    ∃ d, resolve "http://127.0.0.1:18401/" "/@evil:80//x" = .ok d ∧
      Keeps d "http".toList (.v4 ⟨127, 0, 0, 1⟩) 18401 := by
  have htarget : "/@evil:80//x".toList.head? = some '/' := rfl
  obtain ⟨host, port, hhost, hport, hok, -⟩ := resolve_keeps parse_local (.inl rfl) htarget
  cases hhost
  cases hport
  exact hok trivial

/-- Ideographs that are far from each other. -/
def ideographs : List Char :=
  (List.range 680).map fun i => Char.ofNat (0x4E00 + 20 * i)

/-- A label of fifty zeros and ideographs. -/
def longLabel : List Char :=
  List.replicate 50 '0' ++ ideographs

/-- A backend of that name. -/
def longBackend : String :=
  String.ofList ("http".toList ++ "://".toList ++ (longLabel ++ portText none) ++ ['/'])

theorem toNat_ideograph {i : Nat} (h : i < 680) :
    (Char.ofNat (0x4E00 + 20 * i)).toNat = 0x4E00 + 20 * i := by
  have hvalid : (0x4E00 + 20 * i).isValidChar := .inl (by omega)
  exact Idna.Punycode.toNat_ofNat hvalid

/-- A character of the label is a zero or one of the ideographs. -/
theorem mem_longLabel {c : Char} (h : c ∈ longLabel) :
    c = '0' ∨ ∃ i < 680, c = Char.ofNat (0x4E00 + 20 * i) := by
  rcases List.mem_append.1 h with h | h
  · exact .inl (List.eq_of_mem_replicate h)
  · obtain ⟨i, hi, rfl⟩ := List.mem_map.1 h
    exact .inr ⟨i, List.mem_range.1 hi, rfl⟩

theorem isFigure_of_mem_longLabel {c : Char} (h : c ∈ longLabel) : Idna.IsFigure c := by
  rcases mem_longLabel h with rfl | ⟨i, hi, rfl⟩
  · decide
  · refine .inr ?_
    rw [toNat_ideograph hi, Idna.isIdeograph, Bool.and_eq_true]
    exact ⟨decide_eq_true (by omega), decide_eq_true (by omega)⟩

/-- The label is written in more than two thousand characters. -/
theorem length_longLabel : 2000 < (Idna.Punycode.encode longLabel).length := by
  have hcodes {p : Nat} (h : p ∈ longLabel.map Char.toNat) :
      p = 48 ∨ ∃ i < 680, p = 0x4E00 + 20 * i := by
    obtain ⟨c, hc, rfl⟩ := List.mem_map.1 h
    rcases mem_longLabel hc with rfl | ⟨i, hi, rfl⟩
    · exact .inl rfl
    · exact .inr ⟨i, hi, toNat_ideograph hi⟩
  have hbasic : 50 ≤ (Idna.Punycode.basic longLabel).length := by
    rw [Idna.Punycode.basic, longLabel, List.filter_append, List.filter_replicate_of_pos rfl,
      List.length_append, List.length_replicate]
    exact Nat.le_add_right _ _
  have hlen : 3 * ((List.range 680).map fun i => 0x4E00 + 20 * i).length ≤
      (Idna.Punycode.encode longLabel).length := Idna.Punycode.length_encode hbasic
    (fun p hp h => by rcases hcodes hp with rfl | ⟨i, -, rfl⟩ <;> omega)
    (fun p hp q hq h => by
      rcases hcodes hp with rfl | ⟨i, -, rfl⟩ <;> rcases hcodes hq with rfl | ⟨j, -, rfl⟩ <;> omega)
    (fun p hp => by
      obtain ⟨i, hi, rfl⟩ := List.mem_map.1 hp
      refine ⟨List.mem_map.2 ⟨Char.ofNat (0x4E00 + 20 * i), ?_, ?_⟩, by omega⟩
      · exact List.mem_append_right _ (List.mem_map.2 ⟨i, hi, rfl⟩)
      · exact toNat_ideograph (List.mem_range.1 hi))
    (List.pairwise_map.2 (List.pairwise_lt_range.imp fun h => by omega))
  rw [List.length_map, List.length_range] at hlen
  omega

/-- What the backend is read as. -/
def longUrl : Url :=
  withTarget "http".toList none ['/'] (.domain (Idna.punycodeMark ++ Idna.Punycode.encode longLabel))

theorem length_le_longLabel : longLabel.length ≤ 1000 := by
  simp [longLabel, ideographs]

theorem parse_longBackend : Url.parse longBackend.toList = .ok longUrl := by
  have hideograph : Char.ofNat 0x4E00 ∈ longLabel :=
    List.mem_append_right _ (List.mem_map.2 ⟨0, List.mem_range.2 (by decide), rfl⟩)
  have hhost : Host.special longLabel =
      .ok (.domain (Idna.punycodeMark ++ Idna.Punycode.encode longLabel)) :=
    special_of_figures (fun _ hc => isFigure_of_mem_longLabel hc) hideograph (by decide)
      length_le_longLabel
  have htext : IsHostText longLabel :=
    .of_plain (List.ne_nil_of_mem hideograph) fun _ hc => hostChar_of_figure (isFigure_of_mem_longLabel hc)
  have hlist : longBackend.toList =
      "http".toList ++ "://".toList ++ (longLabel ++ portText none) ++ ['/'] := String.toList_ofList
  have hclean : clean ['/'] = ['/'] := rfl
  rw [hlist, parse_written (.inl rfl) htext (by simp) rfl, hhost, hclean]
  rfl

/-- **A name that is written longer than it may be read**: the backend is a URL for the web, and no
request for it can be made. -/
theorem resolve_longBackend :
    Url.parse longBackend.toList = .ok longUrl ∧ longUrl.scheme = "http".toList ∧
      resolve longBackend "/" = .error (.badRequest "invalid international domain name") := by
  have htarget : "/".toList.head? = some '/' := rfl
  obtain ⟨host, -, hhost, -, -, hfail⟩ := resolve_keeps parse_longBackend (.inl rfl) htarget
  cases hhost
  have hdot := Idna.no_dot_encode (fun _ hc => isFigure_of_mem_longLabel hc) length_le_longLabel
  exact ⟨parse_longBackend, rfl, hfail (Idna.not_isReadable_marked hdot length_longLabel)⟩

end Repeater.Relay.Destination
