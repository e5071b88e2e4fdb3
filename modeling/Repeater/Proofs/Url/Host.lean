import Repeater.Proofs.Idna.Domain
import Repeater.Proofs.Net.Address
import Repeater.Proofs.Url.Percent
import Repeater.Url.Host

/-!
# Hosts read back

The text of a host of a special scheme is read as the host, unless it is a name with a label that is
written and not read (`Host.IsReadable`). Its characters have no meaning elsewhere in a URL.

## Results

* `Host.special_cases` — what the host of a special scheme can be;
* `ipv4?_text`         — an IPv4 text is read back;
* `Host.special_text`  — a host is read back exactly if it is readable;
* `Host.allowed`       — no character of a host ends it.
-/

namespace Repeater.Url

-- ---------------------------------------------------------------------------
-- What a host can be
-- ---------------------------------------------------------------------------

/-- A name in the form that is looked up, or an address. -/
inductive Host.IsSpecial : Host → Prop
  | domain {name a : List Char} (lookup : Idna.toAscii? name = some a) (nonempty : a ≠ [])
      (no_number : endsInNumber a = false) : Host.IsSpecial (.domain a)
  | v4 (ip : Net.Ipv4) : Host.IsSpecial (.v4 ip)
  | v6 (ip : Net.Ipv6) : Host.IsSpecial (.v6 ip)

/-- What the host of a special scheme can be. -/
theorem Host.special_cases {s : List Char} {h : Host} (hs : Host.special s = .ok h) : h.IsSpecial := by
  unfold Host.special at hs
  split at hs
  · unfold bracketed at hs
    split at hs
    · split at hs
      · cases hs
        exact .v6 _
      · cases hs
    · cases hs
  · split at hs
    · cases hs
    · split at hs
      · cases hs
      · cases hs
      · rename_i hne hlookup
        split at hs
        · split at hs
          · cases hs
            exact .v4 _
          · cases hs
        · rename_i hnumber
          cases hs
          exact .domain hlookup hne (Bool.eq_false_iff.2 hnumber)

/-- A host whose text can be read: no label of a name is too long. -/
def Host.IsReadable : Host → Prop
  | .domain name => Idna.IsReadable name
  | _ => True

instance (h : Host) : Decidable h.IsReadable :=
  match h with
  | .domain name => inferInstanceAs (Decidable (Idna.IsReadable name))
  | .v4 _ => isTrue trivial
  | .v6 _ => isTrue trivial

-- ---------------------------------------------------------------------------
-- Names
-- ---------------------------------------------------------------------------

theorem special_of_name {s : List Char} (hbracket : '[' ∉ s) (hpercent : '%' ∉ s) :
    Host.special s = match Idna.toAscii? s with
      | none => .error .invalidDomain
      | some [] => .error .emptyHost
      | some name =>
        if endsInNumber name then
          match ipv4? name with
          | some ip => .ok (.v4 ip)
          | none => .error .invalidIpv4
        else .ok (.domain name) := by
  have hhead : s.head? ≠ some '[' := fun h => hbracket (List.mem_of_head? h)
  have hdecoded := utf8?_percentDecode hpercent
  obtain ⟨name, rfl⟩ : ∃ name : String, name.toList = s := ⟨.ofList s, String.toList_ofList⟩
  rw [String.ofList_toList] at hdecoded
  rw [Host.special, if_neg hhead]
  exact hdecoded ▸ rfl

-- ---------------------------------------------------------------------------
-- IPv4
-- ---------------------------------------------------------------------------

theorem ipv4Number?_toDigits (x : UInt8) : ipv4Number? (Nat.toDigits 10 x.toNat) = some x.toNat := by
  have hall : ∀ n < 256, ipv4Number? (Nat.toDigits 10 n) = some n := by decide +kernel
  exact hall x.toNat x.toNat_lt

theorem no_dot_toDigits {n : Nat} : ∀ c ∈ Nat.toDigits 10 n, (c == '.') = false := by
  intro c hc
  have hd := Nat.isDigit_of_mem_toDigits (by decide) (by decide) hc
  rw [beq_eq_false_iff_ne]
  rintro rfl
  exact absurd hd (by decide)

/-- The parts of an IPv4 text. -/
theorem hostParts_text (ip : Net.Ipv4) :
    hostParts ip.text = [Nat.toDigits 10 ip.a.toNat, Nat.toDigits 10 ip.b.toNat,
      Nat.toDigits 10 ip.c.toNat, Nat.toDigits 10 ip.d.toNat] := by
  rw [hostParts, Net.Ipv4.text_eq,
    List.splitOnP_append_cons_of_forall_mem no_dot_toDigits '.' rfl,
    List.splitOnP_append_cons_of_forall_mem no_dot_toDigits '.' rfl,
    List.splitOnP_append_cons_of_forall_mem no_dot_toDigits '.' rfl,
    List.splitOnP_eq_singleton no_dot_toDigits]
  exact if_neg (by simp)

theorem endsInNumber_text (ip : Net.Ipv4) : endsInNumber ip.text = true := by
  rw [endsInNumber, hostParts_text]
  simp [ipv4Number?_toDigits]

/-- An IPv4 text is read back. -/
theorem ipv4?_text (ip : Net.Ipv4) : ipv4? ip.text = some ip := by
  have ha : ip.a.toNat < 256 := ip.a.toNat_lt
  have hb : ip.b.toNat < 256 := ip.b.toNat_lt
  have hc : ip.c.toNat < 256 := ip.c.toNat_lt
  have hd : ip.d.toNat < 256 := ip.d.toNat_lt
  have hbyte (n : Nat) (x : UInt8) (h : n % 256 = x.toNat) : n.toUInt8 = x := by
    rw [← UInt8.toNat_inj]
    simpa using h
  have hnumbers : (hostParts ip.text).mapM ipv4Number? =
      some [ip.a.toNat, ip.b.toNat, ip.c.toNat, ip.d.toNat] := by
    rw [hostParts_text]
    simp [ipv4Number?_toDigits]
  rw [ipv4?, hnumbers]
  simp only [Option.bind_eq_bind, Option.bind_some, List.getLast?_cons_cons, List.getLast?_singleton,
    List.dropLast_cons_cons, List.dropLast_singleton, List.length_cons, List.length_nil,
    List.any_cons, List.any_nil, List.cons_append, List.nil_append, List.replicate_succ,
    List.replicate_zero, List.foldl_cons, List.foldl_nil]
  rw [if_neg (by simp; omega)]
  obtain ⟨a, b, c, d⟩ := ip
  simp only [Option.some.injEq, Net.Ipv4.mk.injEq]
  refine ⟨hbyte _ _ ?_, hbyte _ _ ?_, hbyte _ _ ?_, hbyte _ _ ?_⟩ <;> simp only at ha hb hc hd <;> omega

-- ---------------------------------------------------------------------------
-- Every host
-- ---------------------------------------------------------------------------

/-- No character of a host ends it or has a meaning before it, but colons and brackets. -/
structure IsHostChar (c : Char) : Prop where
  visible : 0x20 < c.toNat
  no_slash : c ≠ '/'
  no_backslash : c ≠ '\\'
  no_mark : c ≠ '?'
  no_hash : c ≠ '#'
  no_at : c ≠ '@'

instance (c : Char) : Decidable (IsHostChar c) :=
  decidable_of_iff (0x20 < c.toNat ∧ c ≠ '/' ∧ c ≠ '\\' ∧ c ≠ '?' ∧ c ≠ '#' ∧ c ≠ '@')
    ⟨fun ⟨a, b, d, e, f, g⟩ => ⟨a, b, d, e, f, g⟩,
      fun h => ⟨h.visible, h.no_slash, h.no_backslash, h.no_mark, h.no_hash, h.no_at⟩⟩

/-- A character that no name holds is none of a plain one. -/
theorem ne_of_plain {c d : Char} (hc : Idna.IsPlain c) (hd : Idna.isForbidden d = true) : c ≠ d := by
  rintro rfl
  rw [hc.allowed] at hd
  cases hd

theorem isHostChar_of_plain {c : Char} (h : Idna.IsPlain c) : IsHostChar c where
  visible := by
    have := h.allowed
    simp only [Idna.isForbidden, Bool.or_eq_false_iff, decide_eq_false_iff_not] at this
    omega
  no_slash := ne_of_plain h (by decide)
  no_backslash := ne_of_plain h (by decide)
  no_mark := ne_of_plain h (by decide)
  no_hash := ne_of_plain h (by decide)
  no_at := ne_of_plain h (by decide)

theorem plain_of_mem_text {ip : Net.Ipv4} {c : Char} (h : c ∈ ip.text) : Idna.IsPlain c := by
  rcases Net.Ipv4.mem_text h with hd | rfl
  · exact (Idna.plain_of_figure hd).1
  · decide

/-- A group character is plain or the colon. -/
theorem plain_or_colon {c : Char} (h : Net.IsGroupChar c) : Idna.IsPlain c ∨ c = ':' := by
  rcases h with hd | hf | rfl
  · exact .inl (Idna.plain_of_figure hd).1
  · exact .inl (Idna.plain_of_isDigit (.inl ⟨hf.1, Char.le_trans hf.2 (by decide)⟩)).1
  · exact .inr rfl

/-- No character of a host ends it. -/
theorem Host.IsSpecial.allowed {h : Host} (hh : h.IsSpecial) {c : Char} (hc : c ∈ h.text) :
    IsHostChar c := by
  cases hh with
  | domain lookup _ _ => exact isHostChar_of_plain (Idna.plain_of_toAscii? lookup hc)
  | v4 ip => exact isHostChar_of_plain (plain_of_mem_text hc)
  | v6 ip =>
    rw [Host.text, List.cons_append, List.mem_cons, List.mem_append, List.mem_singleton] at hc
    rcases hc with rfl | hc | rfl
    · decide
    · rcases plain_or_colon (Net.Ipv6.mem_text hc) with hp | rfl
      · exact isHostChar_of_plain hp
      · decide
    · decide

theorem Host.IsSpecial.text_ne_nil {h : Host} (hh : h.IsSpecial) : h.text ≠ [] := by
  cases hh with
  | domain _ nonempty _ => exact nonempty
  | v4 ip => simp [Host.text, Net.Ipv4.text_eq]
  | v6 ip => simp [Host.text]

/-- It has a name, or is an address. -/
theorem Host.IsSpecial.ne_nameless {h : Host} (hh : h.IsSpecial) : h ≠ .domain [] := by
  rintro rfl
  exact hh.text_ne_nil rfl

/-- **A host is read back exactly if it is readable.** -/
theorem Host.IsSpecial.special_text {h : Host} (hh : h.IsSpecial) :
    Host.special h.text = if h.IsReadable then .ok h else .error .invalidDomain := by
  cases hh with
  | @domain name a lookup nonempty no_number =>
    have hplain {c : Char} (hc : c ∈ a) : Idna.IsPlain c := Idna.plain_of_toAscii? lookup hc
    have hbracket : '[' ∉ a := fun hc => absurd (hplain hc) (by decide)
    have hpercent : '%' ∉ a := fun hc => absurd (hplain hc) (by decide)
    obtain ⟨c, r, rfl⟩ := List.exists_cons_of_ne_nil nonempty
    rw [Host.text, special_of_name hbracket hpercent, Idna.toAscii?_of_toAscii? lookup]
    by_cases hread : Idna.IsReadable (c :: r)
    · rw [if_pos hread, if_pos (show (Host.domain (c :: r)).IsReadable from hread)]
      exact if_neg (Bool.eq_false_iff.1 no_number)
    · rw [if_neg hread, if_neg (show ¬(Host.domain (c :: r)).IsReadable from hread)]
  | v4 ip =>
    have hbracket : '[' ∉ ip.text := fun hc => absurd (plain_of_mem_text hc) (by decide)
    have hpercent : '%' ∉ ip.text := fun hc => absurd (plain_of_mem_text hc) (by decide)
    have hnil : ip.text ≠ [] := by simp [Net.Ipv4.text_eq]
    rw [if_pos (show (Host.v4 ip).IsReadable from trivial), Host.text,
      special_of_name hbracket hpercent, Idna.toAscii?_of_digits fun c hc => Net.Ipv4.mem_text hc]
    obtain ⟨c, r, htext⟩ := List.exists_cons_of_ne_nil hnil
    simp only [htext]
    rw [← htext, endsInNumber_text, if_pos rfl, ipv4?_text]
  | v6 ip =>
    have hhead : (Host.v6 ip).text.head? = some '[' := rfl
    have hlast : (Host.v6 ip).text.getLast? = some ']' := List.getLast?_concat (l := '[' :: ip.text)
    have hinner : ((Host.v6 ip).text.drop 1).dropLast = ip.text := by simp [Host.text]
    rw [if_pos (show (Host.v6 ip).IsReadable from trivial), Host.special, if_pos hhead, bracketed,
      if_pos hlast, hinner, Net.Ipv6.parse?_text]

-- ---------------------------------------------------------------------------
-- Names beyond ASCII
-- ---------------------------------------------------------------------------

/-- The marked form of a label is no number. -/
theorem endsInNumber_marked {r : List Char} (h : '.' ∉ r) :
    endsInNumber (Idna.punycodeMark ++ r) = false := by
  have hsplit : (Idna.punycodeMark ++ r).splitOnP (· == '.') = [Idna.punycodeMark ++ r] :=
    List.splitOn_eq_singleton fun hmem => (List.mem_append.1 hmem).elim (by decide) h
  have hparts : hostParts (Idna.punycodeMark ++ r) = [Idna.punycodeMark ++ r] := by
    rw [hostParts, hsplit]
    exact if_neg (by simp [Idna.punycodeMark])
  rw [endsInNumber, hparts]
  rfl

theorem hostChar_of_figure {c : Char} (h : Idna.IsFigure c) : IsHostChar c ∧ c ≠ ':' ∧ c ≠ '[' := by
  have hne {d : Char} (hd : ¬Idna.IsFigure d) : c ≠ d := fun heq => hd (heq ▸ h)
  refine ⟨⟨?_, hne (by decide), hne (by decide), hne (by decide), hne (by decide), hne (by decide)⟩,
    hne (by decide), hne (by decide)⟩
  have := h.steady.allowed
  simp only [Idna.isForbidden, Bool.or_eq_false_iff, decide_eq_false_iff_not] at this
  omega

/-- A label of figures and ideographs is a host, written in Punycode. -/
theorem special_of_figures {s : List Char} (h : ∀ c ∈ s, Idna.IsFigure c) {c : Char} (hc : c ∈ s)
    (hbeyond : Idna.isIdeograph c.toNat = true) (hlen : s.length ≤ 1000) :
    Host.special s = .ok (.domain (Idna.punycodeMark ++ Idna.Punycode.encode s)) := by
  have hno {d : Char} (hd : ¬Idna.IsFigure d) : d ∉ s := fun hmem => hd (h d hmem)
  rw [special_of_name (hno (by decide)) (hno (by decide)),
    Idna.toAscii?_of_figures h hc hbeyond hlen]
  exact if_neg (Bool.eq_false_iff.1 (endsInNumber_marked (Idna.no_dot_encode h hlen)))

end Repeater.Url
