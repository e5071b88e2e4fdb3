import Mathlib.Data.List.TakeWhile
import Repeater.Proofs.Url.Host
import Repeater.Url.Parse

/-!
# Authorities read back

What is read of a text that puts any path behind the scheme and the authority of a URL for the web: the
scheme, the host and the port are the same again, there is no user information, and all that is behind
the first slash is path, query and fragment.

## Results

* `clean_append`    — nothing is passed over in visible characters;
* `IsWeb.of_parse`  — what reading makes sure of for `http` and `https`;
* `parse_authority` — scheme, host and port are read back with any path behind them.
-/

namespace Repeater.Url

/-- A scheme of the web. -/
def IsWebScheme (scheme : List Char) : Prop :=
  scheme = "http".toList ∨ scheme = "https".toList

instance (scheme : List Char) : Decidable (IsWebScheme scheme) :=
  inferInstanceAs (Decidable (_ ∨ _))

theorem IsWebScheme.kind {scheme : List Char} (h : IsWebScheme scheme) :
    schemeKind scheme = .special := by
  rcases h with rfl | rfl <;> decide

-- ---------------------------------------------------------------------------
-- What is passed over
-- ---------------------------------------------------------------------------

/-- What is left of a text behind another one. -/
def trimmed (t : List Char) : List Char :=
  (Text.dropRight isEdge t).filter fun c => !isSkipped c

/-- Nothing is passed over in visible characters. -/
theorem clean_append {s : List Char} (hs : ∀ c ∈ s, 0x20 < c.toNat) (hne : s ≠ []) (t : List Char) :
    clean (s ++ t) = s ++ trimmed t := by
  have hedge : ∀ c ∈ s, isEdge c = false := fun c hc => decide_eq_false (Nat.not_le.2 (hs c hc))
  have hskip : ∀ c ∈ s, (!isSkipped c) = true := by
    intro c hc
    have hne (d : Char) (hd : d.toNat ≤ 0x20) : (c == d) = false := by
      rw [beq_eq_false_iff_ne]
      rintro rfl
      exact absurd (hs c hc) (Nat.not_lt.2 hd)
    simp [isSkipped, hne '\t' (by decide), hne '\n' (by decide), hne '\r' (by decide)]
  have hfront : (s ++ t).dropWhile isEdge = s ++ t := by
    obtain ⟨c, r, rfl⟩ := List.exists_cons_of_ne_nil hne
    exact List.dropWhile_cons_of_neg (by simp [hedge c List.mem_cons_self])
  rw [clean, Text.strip, hfront, Text.dropRight_append hedge hne, List.filter_append,
    List.filter_eq_self.2 hskip, trimmed]

/-- A text of visible characters is read as it is. -/
theorem clean_of_visible {s : List Char} (hs : ∀ c ∈ s, 0x20 < c.toNat) : clean s = s := by
  cases s with
  | nil => rfl
  | cons c r =>
    have hclean := clean_append hs (List.cons_ne_nil c r) []
    have hnil : trimmed [] = [] := rfl
    rwa [hnil, List.append_nil] at hclean

/-- A slash stays where it is. -/
theorem clean_slash (r : List Char) : clean ('/' :: r) = '/' :: trimmed r :=
  clean_append (Text.forall_mem_of_all (by decide)) (List.cons_ne_nil '/' []) r

-- ---------------------------------------------------------------------------
-- User information, host and port
-- ---------------------------------------------------------------------------

theorem endsAuthority_of_hostChar {c : Char} (h : IsHostChar c) (kind : SchemeKind) :
    endsAuthority kind c = false := by
  simp [endsAuthority, isSlash, h.no_slash, h.no_backslash, h.no_mark, h.no_hash]

/-- An authority goes on up to the first character that ends it. -/
theorem takeWhile_not_endsAuthority {kind : SchemeKind} {s r : List Char} {c : Char}
    (hs : ∀ d ∈ s, endsAuthority kind d = false) (hc : endsAuthority kind c = true) :
    (s ++ c :: r).takeWhile (fun d => !endsAuthority kind d) = s := by
  refine Text.takeWhile_front (fun d hd => by rw [hs d hd, Bool.not_false]) ?_
  rintro d ⟨⟩
  rw [hc, Bool.not_true]

/-- Without an `@` before the end of the authority there is no user information. -/
theorem userinfoOf_of_no_at {kind : SchemeKind} {s r : List Char} {c : Char} (hs : ∀ d ∈ s, IsHostChar d)
    (hc : endsAuthority kind c = true) : userinfoOf kind (s ++ c :: r) = .ok ([], [], s ++ c :: r) := by
  have hcut : Text.cutLast (· == '@') s = none := by
    have hall : s.reverse.dropWhile (fun c => !(c == '@')) = [] := by
      rw [List.dropWhile_eq_nil_iff]
      intro c hc
      simpa using (hs c (List.mem_reverse.1 hc)).no_at
    rw [Text.cutLast, Text.cutFirst, hall, Option.map_none]
  rw [userinfoOf, takeWhile_not_endsAuthority (fun d hd => endsAuthority_of_hostChar (hs d hd) kind) hc, hcut]

/-- Outside brackets the host goes on up to a colon, a bracket or the end of the authority. -/
theorem hostPart_outside {w r : List Char}
    (hw : ∀ c ∈ w, IsHostChar c ∧ c ≠ ':' ∧ c ≠ '[') :
    hostPart .special false (w ++ r) =
      (w ++ (hostPart .special false r).1, (hostPart .special false r).2) := by
  induction w with
  | nil => rfl
  | cons c w ih =>
    obtain ⟨hc, hcolon, hbracket⟩ := hw c List.mem_cons_self
    have hopen : (c == '[') = false := beq_eq_false_iff_ne.2 hbracket
    rw [List.cons_append, hostPart]
    simp [endsAuthority_of_hostChar hc, hcolon, hopen,
      ih fun d hd => hw d (List.mem_cons_of_mem c hd)]

/-- Inside brackets the host goes on up to the closing one. -/
theorem hostPart_inside {w r : List Char} (hw : ∀ c ∈ w, IsHostChar c ∧ c ≠ ']') :
    hostPart .special true (w ++ r) =
      (w ++ (hostPart .special true r).1, (hostPart .special true r).2) := by
  induction w with
  | nil => rfl
  | cons c w ih =>
    obtain ⟨hc, hbracket⟩ := hw c List.mem_cons_self
    have hstay : (c != ']') = true := bne_iff_ne.2 hbracket
    rw [List.cons_append, hostPart]
    simp [endsAuthority_of_hostChar hc, hstay, ih fun d hd => hw d (List.mem_cons_of_mem c hd)]

/-- The host ends at the colon of a port or at a slash. -/
theorem hostPart_port (port : Option UInt16) (r : List Char) :
    hostPart .special false (portText port ++ '/' :: r) = ([], portText port ++ '/' :: r) := by
  cases port with
  | none => simp [portText, hostPart, endsAuthority, isSlash]
  | some p => simp [portText, hostPart]

/-- A text that is read as a host up to the colon of a port or a slash. -/
structure IsHostText (w : List Char) : Prop where
  nonempty : w ≠ []
  allowed : ∀ c ∈ w, IsHostChar c
  ends : ∀ (port : Option UInt16) (r : List Char),
    hostPart .special false (w ++ (portText port ++ '/' :: r)) = (w, portText port ++ '/' :: r)

/-- Without colons and brackets. -/
theorem IsHostText.of_plain {w : List Char} (hne : w ≠ [])
    (hw : ∀ c ∈ w, IsHostChar c ∧ c ≠ ':' ∧ c ≠ '[') : IsHostText w where
  nonempty := hne
  allowed c hc := (hw c hc).1
  ends port r := by rw [hostPart_outside hw, hostPart_port, List.append_nil]

/-- An address in brackets. -/
theorem IsHostText.of_brackets {w : List Char} (hw : ∀ c ∈ w, IsHostChar c ∧ c ≠ ']') :
    IsHostText ('[' :: w ++ [']']) where
  nonempty := List.cons_ne_nil _ _
  allowed c hc := by
    rw [List.cons_append, List.mem_cons, List.mem_append, List.mem_singleton] at hc
    rcases hc with rfl | hc | rfl
    · decide
    · exact (hw c hc).1
    · decide
  ends port r := by
    have hopen (s : List Char) : hostPart .special false ('[' :: s) =
        ('[' :: (hostPart .special true s).1, (hostPart .special true s).2) := by
      rw [hostPart]
      simp [endsAuthority, isSlash]
    have hclose (s : List Char) : hostPart .special true (']' :: s) =
        (']' :: (hostPart .special false s).1, (hostPart .special false s).2) := by
      rw [hostPart]
      simp [endsAuthority, isSlash]
    rw [List.cons_append, List.cons_append, List.append_assoc, List.singleton_append, hopen,
      hostPart_inside hw, hclose, hostPart_port]

/-- The text of a host is read as one. -/
theorem Host.IsSpecial.isHostText {h : Host} (hh : h.IsSpecial) : IsHostText h.text := by
  have hplain {w : List Char} (hne : w ≠ []) (hw : ∀ c ∈ w, Idna.IsPlain c) : IsHostText w :=
    .of_plain hne fun c hc => ⟨isHostChar_of_plain (hw c hc), ne_of_plain (hw c hc) (by decide),
      ne_of_plain (hw c hc) (by decide)⟩
  cases hh with
  | domain lookup nonempty _ => exact hplain nonempty fun c hc => Idna.plain_of_toAscii? lookup hc
  | v4 ip => exact hplain (Host.IsSpecial.v4 ip).text_ne_nil fun c hc => plain_of_mem_text hc
  | v6 ip =>
    refine .of_brackets fun c hc => ?_
    rcases plain_or_colon (Net.Ipv6.mem_text hc) with hp | rfl
    · exact ⟨isHostChar_of_plain hp, ne_of_plain hp (by decide)⟩
    · decide

/-- A port is read back, unless it is the usual one. -/
theorem portOf_portText {scheme : List Char} {port : Option UInt16}
    (hport : ∀ p ∈ port, usualPort? scheme ≠ some p) (r : List Char) :
    portOf scheme (portText port ++ '/' :: r) = .ok (port, '/' :: r) := by
  cases port with
  | none => rfl
  | some p =>
    have hdigits : ∀ c ∈ Nat.toDigits 10 p.toNat, c.isDigit = true :=
      fun c hc => Nat.isDigit_of_mem_toDigits (by decide) (by decide) hc
    have hslash : ∀ c ∈ ('/' :: r).head?, c.isDigit = false := by
      rintro c ⟨⟩
      rfl
    have hvalue : (Nat.toDigits 10 p.toNat).foldl (fun n c => n * 10 + (c.toNat - 48)) 0 = p.toNat := by
      have hread := Nat.ofDigitChars_toDigits (b := 10) (n := p.toNat) (by decide) (by decide)
      rw [Nat.ofDigitChars_eq_foldl] at hread
      simp only [Nat.mul_comm] at hread
      exact hread
    have hle : ¬65535 < p.toNat := by
      have := p.toNat_lt
      omega
    have hword : p.toNat.toUInt16 = p := by simp
    rw [portText, List.cons_append, portOf]
    simp only [Text.takeWhile_front hdigits hslash, Text.dropWhile_front hdigits hslash, hvalue, hword]
    rw [if_neg hle, if_neg (by simp), if_neg]
    rintro (hnil | husual)
    · simp at hnil
    · exact hport p rfl husual

-- ---------------------------------------------------------------------------
-- URLs for the web
-- ---------------------------------------------------------------------------

/-- What reading makes sure of for `http` and `https`: a host, and no port that goes without saying. -/
structure IsWeb (u : Url) (host : Host) : Prop where
  scheme : IsWebScheme u.scheme
  host_eq : u.host = some host
  special : host.IsSpecial
  port : ∀ p ∈ u.port, usualPort? u.scheme ≠ some p

/-- A port that is read is not the usual one. -/
theorem portOf_unusual {scheme s rest : List Char} {port : Option UInt16}
    (h : portOf scheme s = .ok (port, rest)) : ∀ p ∈ port, usualPort? scheme ≠ some p := by
  intro p hp
  obtain rfl := Option.mem_def.1 hp
  unfold portOf at h
  split at h
  · dsimp only at h
    split at h
    · cases h
    · split at h
      · cases h
      · split at h
        · cases h
        · rename_i husual
          cases h
          exact fun heq => husual (.inr heq)
  · cases h

theorem Host.isSpecial_of_hostOf {name : List Char} {host : Host} (h : hostOf .special name = .ok host) :
    host.IsSpecial := by
  rw [hostOf, if_pos rfl] at h
  split at h
  · cases h
  · exact Host.special_cases h

/-- What is read behind the slashes has the scheme and a path, and for the web it is complete. -/
theorem afterSlashes_spec {scheme s : List Char} {u : Url} (h : afterSlashes scheme s = .ok u) :
    u.scheme = scheme ∧ (∃ t, u.path = .segments (pathAfterAuthority (schemeKind scheme) t)) ∧
      (IsWebScheme scheme → ∃ host, IsWeb u host) := by
  obtain ⟨⟨username, password, s⟩, -, h⟩ := bind_eq_ok.1 h
  dsimp only at h
  obtain ⟨host, hhost, h⟩ := bind_eq_ok.1 h
  split at h
  · cases h
  · obtain ⟨⟨port, rest⟩, hport, h⟩ := bind_eq_ok.1 h
    cases h
    refine ⟨rfl, ⟨rest, rfl⟩, fun hscheme => ⟨host, hscheme, rfl, ?_, portOf_unusual hport⟩⟩
    rw [hscheme.kind] at hhost
    exact Host.isSpecial_of_hostOf hhost

theorem scheme_of_fileUrl {s : List Char} {u : Url} (h : fileUrl s = .ok u) :
    u.scheme = "file".toList := by
  unfold fileUrl at h
  split at h
  · split at h
    · dsimp only at h
      split at h
      · cases h
        rfl
      · split at h
        · cases h
          rfl
        · obtain ⟨host, -, h⟩ := bind_eq_ok.1 h
          split at h
          · cases h
            rfl
          · cases h
            rfl
    · cases h
      rfl
  · cases h
    rfl

theorem scheme_of_otherUrl {scheme s : List Char} {u : Url} (h : otherUrl scheme s = .ok u) :
    u.scheme = scheme := by
  unfold otherUrl at h
  split at h
  · exact (afterSlashes_spec h).1
  · cases h
    rfl
  · cases h
    rfl

/-- A URL for the web is what is read behind the slashes of some text. -/
theorem exists_afterSlashes_of_parse {s : List Char} {u : Url} (h : parse s = .ok u)
    (hscheme : IsWebScheme u.scheme) : ∃ r, afterSlashes u.scheme r = .ok u := by
  unfold parse at h
  split at h
  · rename_i scheme r _
    unfold afterScheme at h
    split at h
    · obtain ⟨heq, -, -⟩ := afterSlashes_spec h
      exact ⟨_, heq ▸ h⟩
    · rw [scheme_of_fileUrl h] at hscheme
      exact absurd hscheme (by decide)
    · rename_i hkind
      rw [scheme_of_otherUrl h] at hscheme
      rw [hscheme.kind] at hkind
      cases hkind
  · cases h

/-- **What reading makes sure of for `http` and `https`.** -/
theorem IsWeb.of_parse {s : List Char} {u : Url} (h : parse s = .ok u) (hscheme : IsWebScheme u.scheme) :
    ∃ host, IsWeb u host := by
  obtain ⟨r, hr⟩ := exists_afterSlashes_of_parse h hscheme
  exact (afterSlashes_spec hr).2.2 hscheme

theorem scheme?_web {scheme r : List Char} (h : IsWebScheme scheme) :
    scheme? (scheme ++ ':' :: r) = some (scheme, r) := by
  rcases h with rfl | rfl <;> rfl

theorem scheme_visible {scheme : List Char} (h : IsWebScheme scheme) :
    ∀ c ∈ scheme ++ "://".toList, 0x20 < c.toNat := by
  rcases h with rfl | rfl <;> exact Text.forall_mem_of_all (by decide)

theorem portText_allowed {port : Option UInt16} {c : Char} (hc : c ∈ portText port) :
    IsHostChar c := by
  cases port with
  | none => cases hc
  | some p =>
    rcases List.mem_cons.1 hc with rfl | hc
    · decide
    · have hd := Nat.isDigit_of_mem_toDigits (by decide) (by decide) hc
      exact isHostChar_of_plain (Idna.plain_of_figure hd).1

/-- The URL of a host with a path, query and fragment as they are read. -/
def withTarget (scheme : List Char) (port : Option UInt16) (t : List Char) (host : Host) : Url :=
  { scheme, host := some host, port, path := .segments (pathAfterAuthority .special t)
    query := (queryAndFragment .special t).1, fragment := (queryAndFragment .special t).2 }

/-- A written host is read, with any path behind it, as the host alone is. -/
theorem parse_written {scheme name : List Char} {port : Option UInt16} {t : List Char}
    (hscheme : IsWebScheme scheme) (hname : IsHostText name)
    (hport : ∀ p ∈ port, usualPort? scheme ≠ some p) (ht : t.head? = some '/') :
    parse (scheme ++ "://".toList ++ (name ++ portText port) ++ t) =
      (Host.special name).map (withTarget scheme port (clean t)) := by
  have hallowed : ∀ c ∈ name ++ portText port, IsHostChar c :=
    fun c hc => (List.mem_append.1 hc).elim (hname.allowed c) portText_allowed
  have hvisible : ∀ c ∈ scheme ++ "://".toList ++ (name ++ portText port), 0x20 < c.toNat := by
    intro c hc
    rcases List.mem_append.1 hc with hc | hc
    · exact scheme_visible hscheme c hc
    · exact (hallowed c hc).visible
  have hclean (r : List Char) : clean (scheme ++ "://".toList ++ (name ++ portText port) ++ '/' :: r) =
      scheme ++ ':' :: '/' :: '/' :: ((name ++ portText port) ++ '/' :: trimmed r) := by
    have hslash : ∀ c ∈ scheme ++ "://".toList ++ (name ++ portText port) ++ ['/'], 0x20 < c.toNat :=
      fun c hc => (List.mem_append.1 hc).elim (hvisible c) fun hc => by
        rw [List.mem_singleton.1 hc]
        decide
    have := clean_append hslash (List.append_ne_nil_of_right_ne_nil _ (List.cons_ne_nil _ _)) r
    simpa using this
  have hslashes (r : List Char) :
      ('/' :: '/' :: ((name ++ portText port) ++ '/' :: r)).dropWhile (isSlash .special) =
        (name ++ portText port) ++ '/' :: r := by
    obtain ⟨first, rest, hfirst⟩ := List.exists_cons_of_ne_nil hname.nonempty
    have hchar := hname.allowed first (hfirst ▸ List.mem_cons_self)
    have htwo (s : List Char) : ('/' :: '/' :: s).dropWhile (isSlash .special) =
        s.dropWhile (isSlash .special) := rfl
    rw [htwo, hfirst]
    exact List.dropWhile_cons_of_neg (by simp [isSlash, hchar.no_slash, hchar.no_backslash])
  have hisEmpty : name.isEmpty = false := by simp [hname.nonempty]
  have hhostOf : hostOf .special name = Host.special name := by
    rw [hostOf, if_pos rfl, hisEmpty, if_neg Bool.false_ne_true]
  obtain ⟨r, rfl⟩ := List.head?_eq_some_iff.1 ht
  rw [parse, hclean, clean_slash, scheme?_web hscheme]
  simp only [afterScheme, hscheme.kind]
  rw [hslashes, afterSlashes, hscheme.kind, userinfoOf_of_no_at (c := '/') hallowed rfl, List.append_assoc]
  simp only [ok_bind, hname.ends, hhostOf]
  cases hhost : Host.special name with
  | error e => rfl
  | ok host =>
    have hne : host ≠ .domain [] := (Host.special_cases hhost).ne_nameless
    rw [ok_bind, if_neg fun h => hne h.1, portOf_portText hport, ok_bind]
    rfl

/-- **Scheme, host and port are read back with any path behind them.** -/
theorem parse_authority {scheme : List Char} {host : Host} {port : Option UInt16} {t : List Char}
    (hscheme : IsWebScheme scheme) (hhost : host.IsSpecial)
    (hport : ∀ p ∈ port, usualPort? scheme ≠ some p) (ht : t.head? = some '/') :
    parse (scheme ++ "://".toList ++ (host.text ++ portText port) ++ t) =
      if host.IsReadable then .ok (withTarget scheme port (clean t) host)
      else .error .invalidDomain := by
  rw [parse_written hscheme hhost.isHostText hport ht, hhost.special_text]
  split <;> rfl

end Repeater.Url
