import Repeater.Proofs.Http.Target
import Repeater.Proofs.Url.Path

/-!
# What a request target reads of a URL

The client writes the URL it asks and reads the text as a request target; what goes on the request line
is taken from there. For a URL that was read, this is its path with its query, because no other part
holds a character that would end it early.

## Results

* `IsWritten.of_parse`      — what reading makes sure of in the parts around the host;
* `pathAndQuery?_of_text`   — the request target of a written URL is its path with its query;
* `isSome_parse?_of_target` — with another path and query a URL can still be asked.
-/

namespace Repeater.Url

/-- No part of a URL holds the character that ends it in the written form. -/
structure IsWritten (u : Url) : Prop where
  info : ∀ c ∈ u.userinfo, endsAuthority .other c = false
  slash : u.target.head? = some '/'
  hash : '#' ∉ u.target

-- ---------------------------------------------------------------------------
-- The parts of a URL that was read
-- ---------------------------------------------------------------------------

theorem isSafeSet_inUserinfo : IsSafeSet inUserinfo :=
  isSafeSet_of_basic (by decide)

/-- User name and password are encoded. -/
theorem inUserinfo_of_userinfoOf {kind : SchemeKind} {s user password rest : List Char}
    (h : userinfoOf kind s = .ok (user, password, rest)) :
    ∀ c ∈ user ++ password, inUserinfo c = false := by
  have hencoded (user password : List Char) :
      ∀ c ∈ percentEncode inUserinfo user ++ percentEncode inUserinfo password, inUserinfo c = false :=
    fun c hc => (List.mem_append.1 hc).elim (percentEncode_safe isSafeSet_inUserinfo)
      (percentEncode_safe isSafeSet_inUserinfo)
  unfold userinfoOf at h
  dsimp only at h
  split at h
  · cases h
    simp
  · split at h
    · split at h
      · cases h
      · cases h
        simp
    · split at h <;> cases h <;> exact hencoded _ _

/-- Encoded user information holds nothing that ends an authority. -/
theorem endsAuthority_of_inUserinfo {c : Char} (h : inUserinfo c = false) :
    endsAuthority .other c = false := by
  rw [Bool.eq_false_iff] at h ⊢
  refine fun hends => h ?_
  simp only [endsAuthority, isSlash, Bool.or_eq_true, Bool.and_eq_true, beq_iff_eq] at hends
  rcases hends with ((rfl | ⟨hkind, -⟩) | rfl) | rfl
  · decide
  · cases hkind
  · decide
  · decide

theorem no_hash_segments (s : List Char) :
    '#' ∉ segmentText (segmentsOf .special [] s) :=
  fun hmem => absurd (isPathChar_of_mem_pathText hmem) (by decide)

/-- A path that is read holds no hash. -/
theorem no_hash_pathAfterAuthority (s : List Char) :
    '#' ∉ segmentText (pathAfterAuthority .special s) := by
  unfold pathAfterAuthority
  split
  · exact no_hash_segments []
  · split
    · exact no_hash_segments _
    · split
      · simp [Path.text]
      · exact no_hash_segments _

/-- A query that is read holds no hash. -/
theorem no_hash_query {s q : List Char} (h : (queryAndFragment .special s).1 = some q) : '#' ∉ q := by
  unfold queryAndFragment at h
  dsimp only at h
  split at h
  · cases h
    intro hmem
    have := percentEncode_safe isSafeSet_inSpecialQuery hmem
    revert this
    decide
  · cases h
  · cases h

/-- **What reading makes sure of in the parts around the host.** -/
theorem IsWritten.of_parse {s : List Char} {u : Url} (h : parse s = .ok u)
    (hscheme : IsWebScheme u.scheme) : IsWritten u := by
  obtain ⟨r, hr⟩ := exists_afterSlashes_of_parse h hscheme
  generalize hs : u.scheme = scheme at hr hscheme
  obtain ⟨⟨user, password, r⟩, hinfo, hr⟩ := bind_eq_ok.1 hr
  dsimp only at hr
  obtain ⟨host, -, hr⟩ := bind_eq_ok.1 hr
  split at hr
  · cases hr
  · obtain ⟨⟨port, rest⟩, -, hr⟩ := bind_eq_ok.1 hr
    cases hr
    have hchars {c : Char} (hc : c ∈ user ++ password) : endsAuthority .other c = false :=
      endsAuthority_of_inUserinfo (inUserinfo_of_userinfoOf hinfo c hc)
    refine ⟨fun c hc => ?_, ?_, fun hmem => ?_⟩
    · rw [userinfo] at hc
      split at hc
      · cases hc
      · simp only [List.mem_append, List.mem_singleton] at hc
        rcases hc with (hc | hc) | rfl
        · exact hchars (List.mem_append_left _ hc)
        · split at hc
          · cases hc
          · rcases List.mem_cons.1 hc with rfl | hc
            · decide
            · exact hchars (List.mem_append_right _ hc)
        · decide
    · rw [target, hscheme.kind]
      obtain ⟨seg, segs, hsegs⟩ := List.exists_cons_of_ne_nil (pathAfterAuthority_ne_nil rest)
      rw [hsegs]
      rfl
    · rw [target, hscheme.kind] at hmem
      rcases List.mem_append.1 hmem with hmem | hmem
      · exact no_hash_pathAfterAuthority rest hmem
      · rw [queryText] at hmem
        split at hmem
        · cases hmem
        · rename_i hquery
          rcases List.mem_cons.1 hmem with hmark | hmem
          · cases hmark
          · exact no_hash_query hquery hmem

/-- Without user information the other parts stay. -/
theorem IsWeb.withoutUserinfo {u : Url} {host : Host} (h : IsWeb u host) : IsWeb u.withoutUserinfo host where
  scheme := h.scheme
  host_eq := h.host_eq
  special := h.special
  port := h.port

theorem IsWritten.withoutUserinfo {u : Url} (h : IsWritten u) : IsWritten u.withoutUserinfo where
  info := by simp [userinfo, Url.withoutUserinfo]
  slash := h.slash
  hash := h.hash

-- ---------------------------------------------------------------------------
-- The text as a request target
-- ---------------------------------------------------------------------------

open Http

/-- A path with a query goes on up to a hash. -/
theorem eq_takeWhile_of_pathAndQueryOf? {s rest : List Char} (h : Target.pathAndQueryOf? s = some rest) :
    rest = s.takeWhile (· != '#') := by
  unfold Target.pathAndQueryOf? at h
  dsimp only at h
  split at h
  · cases h
    have hfront : ∀ c ∈ s.takeWhile (fun c => c != '?' && c != '#'), (c != '#') = true := fun c hc =>
      (Bool.and_eq_true_iff.1 (List.all_eq_true.1 List.all_takeWhile c hc)).2
    conv_rhs => rw [← List.takeWhile_append_dropWhile (p := fun c => c != '?' && c != '#') (l := s)]
    rw [List.takeWhile_append_of_pos hfront, Text.drop_length_takeWhile]
  · cases h

/-- What follows a hash makes no difference to a path with a query. -/
theorem pathAndQueryOf?_append {s t : List Char} (hs : '#' ∉ s) (ht : t = [] ∨ t.head? = some '#') :
    Target.pathAndQueryOf? (s ++ t) = Target.pathAndQueryOf? s := by
  have hstop {p : Char → Bool} (hhash : p '#' = false) : t.takeWhile p = [] := by
    rcases ht with rfl | ht
    · rfl
    · obtain ⟨r, rfl⟩ := List.head?_eq_some_iff.1 ht
      exact List.takeWhile_cons_of_neg (by rw [hhash]; exact Bool.noConfusion)
  have hstay {r : List Char} (hr : ∀ c ∈ r, c ∈ s) : ∀ c ∈ r, (c != '#') = true := fun c hc =>
    bne_iff_ne.2 fun heq => hs (heq ▸ hr c hc)
  have hpath : (s ++ t).takeWhile (fun c => c != '?' && c != '#') = s.takeWhile fun c => c != '?' && c != '#' := by
    rw [List.takeWhile_append, hstop rfl, List.append_nil]
    split
    · rename_i hlength
      exact (List.takeWhile_prefix _).eq_of_length hlength |>.symm
    · rfl
  have hdrop {n : Nat} (hn : n ≤ s.length) :
      ((s ++ t).drop n).takeWhile (· != '#') = (s.drop n).takeWhile (· != '#') := by
    have hrest := hstay fun c hc => List.mem_of_mem_drop (i := n) hc
    rw [List.drop_append_of_le_length hn, List.takeWhile_append_of_pos hrest, hstop rfl, List.append_nil,
      List.takeWhile_eq_self_iff.2 hrest]
  unfold Target.pathAndQueryOf?
  simp only [hpath, hdrop (List.takeWhile_prefix _).length_le]

theorem takeWhile_authority {s r : List Char} (hs : ∀ c ∈ s, endsAuthority .other c = false)
    (hr : r.head? = some '/') : (s ++ r).takeWhile (fun c => c != '/' && c != '?' && c != '#') = s := by
  refine Text.takeWhile_front (fun c hc => ?_) fun c hc => ?_
  · have := hs c hc
    simp only [endsAuthority, isSlash, Bool.or_eq_false_iff, beq_eq_false_iff_ne] at this
    simp [this.1.1.1, this.1.2, this.2]
  · rw [hr] at hc
    cases hc
    rfl

/-- An authority goes on up to a slash, a mark or a hash. -/
theorem eq_of_authorityOf? {s r authority rest : List Char}
    (hs : ∀ c ∈ s, endsAuthority .other c = false) (hr : r.head? = some '/')
    (h : Target.authorityOf? (s ++ r) = some (authority, rest)) : authority = s ∧ rest = r := by
  unfold Target.authorityOf? at h
  simp only [takeWhile_authority hs hr] at h
  split at h
  · cases h
  · split at h
    · cases h
    · cases h
      exact ⟨rfl, List.drop_left⟩

/-- Whether an authority can be read does not depend on the path behind it. -/
theorem authorityOf?_congr {s r r' : List Char} (hs : ∀ c ∈ s, endsAuthority .other c = false)
    (hr : r.head? = some '/') (hr' : r'.head? = some '/') (h : (Target.authorityOf? (s ++ r)).isSome = true) :
    Target.authorityOf? (s ++ r') = some (s, r') := by
  unfold Target.authorityOf? at h ⊢
  simp only [takeWhile_authority hs hr, takeWhile_authority hs hr', List.drop_left] at h ⊢
  split at h
  · cases h
  · split at h
    · cases h
    · rename_i hscan
      rw [if_neg hscan]

theorem schemeOf_web {scheme : List Char} (h : IsWebScheme scheme) (r : List Char) :
    Target.schemeOf (scheme ++ "://".toList ++ r) = some (some scheme, r) := by
  rcases h with rfl | rfl <;> rfl

/-- What starts with the scheme of the web is read as an absolute URI. -/
theorem parse?_web {scheme : List Char} (h : IsWebScheme scheme) {text : String} {r : List Char}
    (htext : text.toList = scheme ++ "://".toList ++ r) {t : Target} (ht : Target.parse? text = some t) :
    ∃ authority rest path, Target.authorityOf? r = some (authority, rest) ∧
      Target.pathAndQueryOf? rest = some path ∧ t = { scheme, authority, rest := path } := by
  unfold Target.parse? at ht
  split at ht
  · cases ht
  · have hscheme := schemeOf_web h r
    rw [← htext] at hscheme
    split at ht
    · cases ht
    · rename_i hstar
      rw [htext] at hstar
      rcases h with rfl | rfl <;> cases hstar
    · rename_i hslash
      rw [htext] at hslash
      rcases h with rfl | rfl <;> cases hslash
    · rw [hscheme] at ht
      obtain ⟨_, hread, ht⟩ := Option.bind_eq_some_iff.1 ht
      cases hread
      obtain ⟨⟨authority, rest⟩, hauthority, ht⟩ := Option.bind_eq_some_iff.1 ht
      dsimp only at ht
      split at ht
      · cases ht
      · rw [if_neg (by simp)] at ht
        obtain ⟨path, hpath, ht⟩ := Option.bind_eq_some_iff.1 ht
        cases ht
        exact ⟨authority, rest, path, hauthority, hpath, rfl⟩

/-- What has an authority and a path behind that scheme is read, unless it is too long. -/
theorem parse?_of_web {scheme : List Char} (h : IsWebScheme scheme) {text : String} {r authority rest path : List Char}
    (htext : text.toList = scheme ++ "://".toList ++ r) (hsize : text.utf8ByteSize ≤ Target.maxLength)
    (hauthority : Target.authorityOf? r = some (authority, rest)) (hne : authority ≠ [])
    (hpath : Target.pathAndQueryOf? rest = some path) :
    Target.parse? text = some { scheme, authority, rest := path } := by
  unfold Target.parse?
  rw [if_neg (Nat.not_lt.2 hsize), htext]
  rcases h with rfl | rfl
  · show (Target.schemeOf ("http".toList ++ "://".toList ++ r)).bind _ = _
    rw [schemeOf_web (.inl rfl)]
    simp [hauthority, hne, hpath]
  · show (Target.schemeOf ("https".toList ++ "://".toList ++ r)).bind _ = _
    rw [schemeOf_web (.inr rfl)]
    simp [hauthority, hne, hpath]

/-- The parts of a written URL for the web. -/
theorem toList_text {u : Url} {host : Host} (h : IsWeb u host) :
    u.text.toList = u.scheme ++ "://".toList ++ (u.userinfo ++ u.authority ++ (u.target ++ u.fragmentText)) := by
  simp [text, chars, h.host_eq]

/-- Nothing in front of the path of a written URL ends its authority. -/
theorem IsWritten.stays {u : Url} {host : Host} (hwritten : IsWritten u) (hweb : IsWeb u host) :
    ∀ c ∈ u.userinfo ++ u.authority, endsAuthority .other c = false := by
  intro c hc
  rcases List.mem_append.1 hc with hc | hc
  · exact hwritten.info c hc
  · have hchar : IsHostChar c := by
      rw [Url.authority, hweb.host_eq, List.mem_append] at hc
      exact hc.elim hweb.special.allowed portText_allowed
    simp [endsAuthority, isSlash, hchar.no_slash, hchar.no_mark, hchar.no_hash]

/-- **The request target of a written URL is its path with its query.** -/
theorem pathAndQuery?_of_text {u : Url} {host : Host} {t : Target} (hweb : IsWeb u host)
    (hwritten : IsWritten u) (h : Target.parse? u.text = some t) : t.pathAndQuery? = some u.target := by
  obtain ⟨authority, rest, path, hauthority, hpath, rfl⟩ := parse?_web hweb.scheme (toList_text hweb) h
  obtain ⟨s, hs⟩ := List.head?_eq_some_iff.1 hwritten.slash
  obtain ⟨rfl, rfl⟩ := eq_of_authorityOf? (hwritten.stays hweb) (by rw [hs]; rfl) hauthority
  have hwhole : path = u.target := by
    have hstay : ∀ c ∈ u.target, (c != '#') = true := fun c hc =>
      bne_iff_ne.2 fun heq => hwritten.hash (heq ▸ hc)
    rw [eq_takeWhile_of_pathAndQueryOf? hpath, List.takeWhile_append_of_pos hstay, fragmentText]
    split <;> simp
  rw [Target.pathAndQuery?, hwhole, hs]
  rfl

/-- A URL whose text can stand in a request keeps that with another path and query, unless it becomes too long. -/
theorem isSome_parse?_of_target {u v : Url} {host : Host} (hu : IsWeb u host) (hv : IsWeb v host)
    (hwu : IsWritten u) (hwv : IsWritten v) (hfront : v.userinfo ++ v.authority = u.userinfo ++ u.authority)
    (htarget : (Target.pathAndQueryOf? v.target).isSome = true) (hsize : v.text.utf8ByteSize ≤ Target.maxLength)
    (h : (Target.parse? u.text).isSome = true) : (Target.parse? v.text).isSome = true := by
  have hslash {w : Url} (hw : IsWritten w) : (w.target ++ w.fragmentText).head? = some '/' := by
    obtain ⟨r, hr⟩ := List.head?_eq_some_iff.1 hw.slash
    rw [hr]
    rfl
  obtain ⟨t, ht⟩ := Option.isSome_iff_exists.1 h
  obtain ⟨authority, rest, path, hauthority, -, -⟩ := parse?_web hu.scheme (toList_text hu) ht
  have hne : u.userinfo ++ u.authority ≠ [] := by
    rw [Url.authority, hu.host_eq]
    exact List.append_ne_nil_of_right_ne_nil _ (List.append_ne_nil_of_left_ne_nil hu.special.text_ne_nil _)
  have hread : Target.authorityOf? (v.userinfo ++ v.authority ++ (v.target ++ v.fragmentText)) =
      some (u.userinfo ++ u.authority, v.target ++ v.fragmentText) := by
    rw [hfront]
    exact authorityOf?_congr (hwu.stays hu) (hslash hwu) (hslash hwv) (by rw [hauthority]; rfl)
  obtain ⟨path', hpath'⟩ := Option.isSome_iff_exists.1 htarget
  have hend : v.fragmentText = [] ∨ v.fragmentText.head? = some '#' := by
    unfold fragmentText
    split
    · exact .inl rfl
    · exact .inr rfl
  rw [← pathAndQueryOf?_append hwv.hash hend] at hpath'
  rw [parse?_of_web hv.scheme (toList_text hv) hsize hread hne hpath']
  rfl

end Repeater.Url
