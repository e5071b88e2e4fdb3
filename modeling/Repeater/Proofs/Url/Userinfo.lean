import Repeater.Proofs.Url.Authority

/-!
# No user information behind another authority

A URL may be put together from the scheme and the host of one URL and the path of another. Whatever the scheme
is, what is read then has no user name and no password, as long as the path begins like one.

Main results:

* `isScheme_of_parse`, `IsScheme.scheme?_append` — the scheme of a URL is read again;
* `Host.isIntact_of_parse` — no character of a host ends it, whatever the scheme;
* `no_userinfo_of_parse` — what is read of a host with a path behind it has no user information.
-/

namespace Repeater.Url

-- ---------------------------------------------------------------------------
-- Schemes
-- ---------------------------------------------------------------------------

/-- A scheme as it is kept: its characters stay in lower case, and it starts with a letter. -/
structure IsScheme (scheme : List Char) : Prop where
  letter : scheme.head?.any Char.isAlpha = true
  kept : ∀ c ∈ scheme, isSchemeChar c = true ∧ c.toLower = c ∧ 0x20 < c.toNat

theorem basic_of_isSchemeChar {c : Char} (h : isSchemeChar c = true) : c.toNat < 0x80 := by
  have hbound {d : Char} (hd : c ≤ d) (hbasic : d.toNat < 0x80) : c.toNat < 0x80 :=
    Nat.lt_of_le_of_lt hd hbasic
  simp only [isSchemeChar, Bool.or_eq_true, beq_iff_eq, isAlphanum_iff] at h
  rcases h with ((((h | h) | h) | rfl) | rfl) | rfl
  · exact hbound h.2 (by decide)
  · exact hbound h.2 (by decide)
  · exact hbound h.2 (by decide)
  all_goals decide

theorem toLower_of_isSchemeChar {c : Char} (h : isSchemeChar c = true) :
    (isSchemeChar c.toLower = true ∧ c.toLower.toLower = c.toLower ∧ 0x20 < c.toLower.toNat) ∧
      (c.isAlpha = true → c.toLower.isAlpha = true) := by
  have hall : ∀ n < 0x80, isSchemeChar (Char.ofNat n) = false ∨
      (isSchemeChar (Char.ofNat n).toLower = true ∧
        (Char.ofNat n).toLower.toLower = (Char.ofNat n).toLower ∧ 0x20 < (Char.ofNat n).toLower.toNat) ∧
      ((Char.ofNat n).isAlpha = false ∨ (Char.ofNat n).toLower.isAlpha = true) := by
    decide +kernel
  have hc := hall c.toNat (basic_of_isSchemeChar h)
  rw [Char.ofNat_toNat, h] at hc
  obtain ⟨hkept, hletter⟩ := hc.resolve_left Bool.noConfusion
  refine ⟨hkept, fun halpha => ?_⟩
  rw [halpha] at hletter
  exact hletter.resolve_left Bool.noConfusion

theorem isScheme_of_scheme? {s scheme r : List Char} (h : scheme? s = some (scheme, r)) : IsScheme scheme := by
  unfold scheme? at h
  split at h
  · rename_i hletter
    split at h
    · cases h
      refine ⟨?_, fun c hc => ?_⟩
      · cases s with
        | nil => cases hletter
        | cons c s =>
          have halpha : c.isAlpha = true := hletter
          have hscheme : isSchemeChar c = true := by
            show ((((c.isAlpha || c.isDigit) || _) || _) || _) = true
            rw [halpha, Bool.true_or, Bool.true_or, Bool.true_or, Bool.true_or]
          rw [List.takeWhile_cons_of_pos hscheme]
          exact (toLower_of_isSchemeChar hscheme).2 halpha
      · obtain ⟨d, hd, rfl⟩ := List.mem_map.1 hc
        exact (toLower_of_isSchemeChar (List.mem_takeWhile_imp hd)).1
    · cases h
  · cases h

/-- A scheme is read again with anything behind its colon. -/
theorem IsScheme.scheme?_append {scheme : List Char} (h : IsScheme scheme) (r : List Char) :
    scheme? (scheme ++ ':' :: r) = some (scheme, r) := by
  have hkept : ∀ c ∈ scheme, isSchemeChar c = true := fun c hc => (h.kept c hc).1
  have hlower : scheme.map Char.toLower = scheme := by
    conv_rhs => rw [← List.map_id scheme]
    exact List.map_congr_left fun c hc => (h.kept c hc).2.1
  have hhead : (scheme ++ ':' :: r).head?.any Char.isAlpha = true := by
    have hletter := h.letter
    cases scheme with
    | nil => cases hletter
    | cons c scheme => exact hletter
  have hcolon : ∀ c ∈ (':' :: r).head?, isSchemeChar c = false := by
    rintro c ⟨⟩
    decide
  rw [scheme?, if_pos hhead, Text.dropWhile_front hkept hcolon, Text.takeWhile_front hkept hcolon]
  simp only [hlower]

theorem schemeKind_eq_file {scheme : List Char} (h : schemeKind scheme = .file) : scheme = "file".toList := by
  unfold schemeKind at h
  split at h <;> cases h
  rename_i heq
  rw [← heq, String.toList_ofList]

/-- The scheme of a URL is one. -/
theorem isScheme_of_parse {s : List Char} {u : Url} (h : parse s = .ok u) : IsScheme u.scheme := by
  unfold parse at h
  split at h
  · rename_i scheme r hscheme
    have hkept := isScheme_of_scheme? hscheme
    unfold afterScheme at h
    split at h
    · rwa [(afterSlashes_spec h).1]
    · rename_i hkind
      rwa [scheme_of_fileUrl h, ← schemeKind_eq_file hkind]
    · rwa [scheme_of_otherUrl h]
  · cases h

-- ---------------------------------------------------------------------------
-- Hosts
-- ---------------------------------------------------------------------------

/-- A host that is not empty, none of whose characters ends it. -/
structure Host.IsIntact (host : Host) : Prop where
  nonempty : host.text ≠ []
  allowed : ∀ c ∈ host.text, IsHostChar c

theorem Host.isIntact_of_bracketed {s : List Char} {host : Host} (h : bracketed s = .ok host) :
    host.IsIntact := by
  unfold bracketed at h
  split at h
  · split at h
    · cases h
      exact ⟨(Host.IsSpecial.v6 _).text_ne_nil, fun c hc => (Host.IsSpecial.v6 _).allowed hc⟩
    · cases h
  · cases h

theorem isHostChar_of_not_forbidden {c : Char} (h : isForbiddenInHost c = false) (hcontrol : isControl c = false) :
    IsHostChar c := by
  have hne {d : Char} (hd : isForbiddenInHost d = true) : c ≠ d := by
    rintro rfl
    rw [h] at hd
    cases hd
  refine ⟨?_, hne (by decide), hne (by decide), hne (by decide), hne (by decide), hne (by decide)⟩
  have hspace : c.toNat ≠ 0x20 := fun heq => hne (d := ' ') (by decide) (Char.toNat_inj.1 heq)
  simp only [isControl, Bool.or_eq_false_iff, decide_eq_false_iff_not] at hcontrol
  omega

theorem isHostChar_of_isEscape {c : Char} (h : IsEscape c) : IsHostChar c := by
  have hsafe : IsSafeSet fun c => !decide (IsHostChar c) := isSafeSet_of_basic (by decide)
  simpa using hsafe c h

theorem Host.isIntact_of_plain {s : List Char} {host : Host} (h : Host.plain s = .ok host)
    (hne : host ≠ .domain []) : host.IsIntact := by
  unfold Host.plain at h
  split at h
  · exact isIntact_of_bracketed h
  · split at h
    · cases h
    · rename_i hforbidden
      cases h
      have hallowed : ∀ c ∈ s, isForbiddenInHost c = false := by
        simpa using hforbidden
      refine ⟨fun hnil => hne (congrArg Host.domain hnil), fun c hc => ?_⟩
      rcases mem_percentEncode hc with hescape | ⟨hmem, hcontrol⟩
      · exact isHostChar_of_isEscape hescape
      · exact isHostChar_of_not_forbidden (hallowed c hmem) hcontrol

theorem Host.IsSpecial.isIntact {host : Host} (h : host.IsSpecial) : host.IsIntact :=
  ⟨h.text_ne_nil, fun _ hc => h.allowed hc⟩

theorem Host.isIntact_of_afterSlashes {scheme s : List Char} {u : Url} {host : Host}
    (h : afterSlashes scheme s = .ok u) (hhost : u.host = some host) (hne : host ≠ .domain []) :
    host.IsIntact := by
  obtain ⟨⟨username, password, s⟩, -, h⟩ := bind_eq_ok.1 h
  dsimp only at h
  obtain ⟨name, hname, h⟩ := bind_eq_ok.1 h
  split at h
  · cases h
  · obtain ⟨⟨port, rest⟩, -, h⟩ := bind_eq_ok.1 h
    cases h
    cases hhost
    unfold hostOf at hname
    split at hname
    · split at hname
      · cases hname
      · exact (Host.special_cases hname).isIntact
    · exact isIntact_of_plain hname hne

/-- The URL of a file is that of a path, perhaps with a host that is looked up. -/
theorem fileUrl_cases {s : List Char} {u : Url} (h : fileUrl s = .ok u) :
    ∃ t, u = filePath t ∨ ∃ name host, Host.special name = .ok host ∧ u = { filePath t with host := some host } := by
  unfold fileUrl at h
  split at h
  · split at h
    · dsimp only at h
      split at h
      · cases h
        exact ⟨_, .inl rfl⟩
      · split at h
        · cases h
          exact ⟨_, .inl rfl⟩
        · obtain ⟨host, hhost, h⟩ := bind_eq_ok.1 h
          split at h
          · cases h
            exact ⟨_, .inl rfl⟩
          · cases h
            exact ⟨_, .inr ⟨_, host, hhost, rfl⟩⟩
    · cases h
      exact ⟨_, .inl rfl⟩
  · cases h
    exact ⟨_, .inl rfl⟩

/-- The host of a URL is intact, whatever the scheme. -/
theorem Host.isIntact_of_parse {s : List Char} {u : Url} {host : Host} (h : parse s = .ok u)
    (hhost : u.namedHost? = some host) : host.IsIntact := by
  obtain ⟨hhost, hne⟩ := Option.filter_eq_some_iff.1 hhost
  rw [bne_iff_ne] at hne
  unfold parse at h
  split at h
  · unfold afterScheme at h
    split at h
    · exact isIntact_of_afterSlashes h hhost hne
    · obtain ⟨t, rfl | ⟨name, host', hspecial, rfl⟩⟩ := fileUrl_cases h
      · cases hhost
        exact absurd rfl hne
      · cases hhost
        exact (Host.special_cases hspecial).isIntact
    · unfold otherUrl at h
      split at h
      · exact isIntact_of_afterSlashes h hhost hne
      · cases h
        cases hhost
      · cases h
        cases hhost
  · cases h

-- ---------------------------------------------------------------------------
-- A host with a path behind it
-- ---------------------------------------------------------------------------

theorem userinfo_of_afterSlashes {scheme s : List Char} {u : Url} (h : afterSlashes scheme s = .ok u)
    (hnone : userinfoOf (schemeKind scheme) s = .ok ([], [], s)) : u.username = [] ∧ u.password = [] := by
  obtain ⟨⟨username, password, s'⟩, hinfo, h⟩ := bind_eq_ok.1 h
  cases hnone.symm.trans hinfo
  dsimp only at h
  obtain ⟨host, -, h⟩ := bind_eq_ok.1 h
  split at h
  · cases h
  · obtain ⟨⟨port, rest⟩, -, h⟩ := bind_eq_ok.1 h
    cases h
    exact ⟨rfl, rfl⟩

/-- **No user information is read where a host stands with a path behind it**, whatever the scheme. -/
theorem no_userinfo_of_parse {scheme authority t : List Char} {u : Url} {c : Char} (hscheme : IsScheme scheme)
    (hne : authority ≠ []) (hauthority : ∀ d ∈ authority, IsHostChar d) (hc : c = '/' ∨ c = '?')
    (h : parse (scheme ++ "://".toList ++ authority ++ c :: t) = .ok u) : u.username = [] ∧ u.password = [] := by
  have hclean : clean (scheme ++ "://".toList ++ authority ++ c :: t) =
      scheme ++ ':' :: '/' :: '/' :: (authority ++ c :: trimmed t) := by
    have hbetween : ∀ d ∈ "://".toList, 0x20 < d.toNat := Text.forall_mem_of_all (by decide)
    have hvisible : ∀ d ∈ scheme ++ "://".toList ++ authority ++ [c], 0x20 < d.toNat := by
      intro d hd
      simp only [List.mem_append, List.mem_singleton] at hd
      rcases hd with ((hd | hd) | hd) | rfl
      · exact (hscheme.kept d hd).2.2
      · exact hbetween d hd
      · exact (hauthority d hd).visible
      · rcases hc with rfl | rfl <;> decide
    have hkept := clean_append hvisible (List.append_ne_nil_of_right_ne_nil _ (List.cons_ne_nil _ _)) t
    simpa using hkept
  have hends (kind : SchemeKind) : endsAuthority kind c = true := by
    rcases hc with rfl | rfl <;> simp [endsAuthority, isSlash]
  have hslashes : ('/' :: '/' :: (authority ++ c :: trimmed t)).dropWhile (isSlash .special) =
      authority ++ c :: trimmed t := by
    obtain ⟨first, rest, rfl⟩ := List.exists_cons_of_ne_nil hne
    have hchar := hauthority first List.mem_cons_self
    show ((first :: rest) ++ c :: trimmed t).dropWhile (isSlash .special) = _
    exact List.dropWhile_cons_of_neg (by simp [isSlash, hchar.no_slash, hchar.no_backslash])
  have hinfo (kind : SchemeKind) := userinfoOf_of_no_at (r := trimmed t) hauthority (hends kind)
  rw [parse, hclean, hscheme.scheme?_append] at h
  dsimp only at h
  unfold afterScheme at h
  split at h
  · rw [hslashes] at h
    exact userinfo_of_afterSlashes h (hinfo _)
  · obtain ⟨t, rfl | ⟨name, host, -, rfl⟩⟩ := fileUrl_cases h
    · exact ⟨rfl, rfl⟩
    · exact ⟨rfl, rfl⟩
  · exact userinfo_of_afterSlashes h (hinfo _)

end Repeater.Url
