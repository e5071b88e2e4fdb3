import Repeater.Proofs.Net.Address

/-!
# Address texts put together

Every reader of a part of an address takes characters of one class, and looks no further than the first
character that is not of this class (`Reads`). So what is read in front of such a character is read in front of
any other text behind it, and a socket address falls apart into the text of its host, a colon, and the digits of
its port.

## Results

* `Reads.bind`, `Reads.orElse`       — readers one after the other, and one in place of another;
* `Ipv4.reads_read?`                 — what an IPv4 address is read from;
* `Ipv6.reads_scoped?`               — what an IPv6 address with its scope is read from;
* `SocketAddress.parse?_eq_some_iff` — the texts of socket addresses.
-/

namespace Repeater.Net

variable {α β : Type}

-- ---------------------------------------------------------------------------
-- Readers
-- ---------------------------------------------------------------------------

/-- A reader takes characters of a class from the start of a text, and does not look behind one that is not of
the class. -/
structure Reads (p : Char → Prop) (read : List Char → Option (α × List Char)) : Prop where
  taken : ∀ {s x r}, read s = some (x, r) → ∃ t, s = t ++ r ∧ ∀ c ∈ t, p c
  stops : ∀ {c}, ¬p c → ∀ t r, read (t ++ c :: r) = (read t).map fun (x, q) => (x, q ++ c :: r)

namespace Reads

variable {p q : Char → Prop} {f g : List Char → Option (α × List Char)}

theorem mono (hf : Reads p f) (hpq : ∀ c, p c → q c) : Reads q f where
  taken h := by
    obtain ⟨t, ht, hall⟩ := hf.taken h
    exact ⟨t, ht, fun c hc => hpq c (hall c hc)⟩
  stops hc := hf.stops (mt (hpq _) hc)

/-- A value that does not depend on the text. -/
theorem lift (x : Option α) : Reads p fun s => x.map fun x => (x, s) where
  taken {s y r} h := by
    obtain ⟨_, -, h⟩ := Option.map_eq_some_iff.1 h
    cases h
    exact ⟨[], rfl, by simp⟩
  stops _ t r := by cases x <;> rfl

theorem bind {g : α → List Char → Option (β × List Char)} (hf : Reads p f) (hg : ∀ x, Reads p (g x)) :
    Reads p fun s => (f s).bind fun (x, r) => g x r where
  taken {s y r} h := by
    obtain ⟨⟨x, mid⟩, hx, hy⟩ := Option.bind_eq_some_iff.1 h
    obtain ⟨t, rfl, ht⟩ := hf.taken hx
    obtain ⟨u, rfl, hu⟩ := (hg x).taken hy
    exact ⟨t ++ u, (List.append_assoc t u r).symm, fun c hc => (List.mem_append.1 hc).elim (ht c) (hu c)⟩
  stops {c} hc t r := by
    rw [hf.stops hc]
    cases f t with
    | none => rfl
    | some read =>
      obtain ⟨x, mid⟩ := read
      exact (hg x).stops hc mid r

theorem orElse (hf : Reads p f) (hg : Reads p g) : Reads p fun s => (f s).or (g s) where
  taken {s x r} h := by
    rcases Option.or_eq_some_iff.1 h with h | ⟨-, h⟩
    · exact hf.taken h
    · exact hg.taken h
  stops {c} hc t r := by
    rw [hf.stops hc, hg.stops hc]
    cases f t <;> rfl

theorem none : Reads p fun _ => (Option.none : Option (α × List Char)) :=
  lift Option.none

theorem ite (c : Prop) [Decidable c] (hf : Reads p f) (hg : Reads p g) :
    Reads p fun s => if c then f s else g s := by
  by_cases hc : c
  · simpa only [if_pos hc] using hf
  · simpa only [if_neg hc] using hg

/-- The first character decides. -/
theorem choose (d : Char) (hd : p d) (hf : Reads p f) (hg : Reads p g) :
    Reads p fun s => if s.head? = some d then f s.tail else g s where
  taken {s x r} h := by
    by_cases hs : s.head? = some d
    · rw [if_pos hs] at h
      obtain ⟨s, rfl⟩ := List.head?_eq_some_iff.1 hs
      obtain ⟨t, ht, hall⟩ := hf.taken h
      exact ⟨d :: t, congrArg (d :: ·) ht, List.forall_mem_cons.2 ⟨hd, hall⟩⟩
    · rw [if_neg hs] at h
      exact hg.taken h
  stops {c} hc t r := by
    cases t with
    | nil =>
      have hcd : c ≠ d := by
        rintro rfl
        exact hc hd
      simpa [hcd] using hg.stops hc [] r
    | cons b t =>
      by_cases hbd : b = d
      · simpa [hbd] using hf.stops hc t r
      · simpa [hbd] using hg.stops hc (b :: t) r

/-- **What is read in front of a character that is not of the class is read alone.** -/
theorem eq_some_iff (hf : Reads p f) {c : Char} (hc : ¬p c) {s r : List Char} {x : α} :
    f s = some (x, c :: r) ↔ ∃ t, s = t ++ c :: r ∧ f t = some (x, []) := by
  constructor
  · intro h
    obtain ⟨t, rfl, -⟩ := hf.taken h
    rw [hf.stops hc] at h
    obtain ⟨⟨y, rest⟩, hread, h⟩ := Option.map_eq_some_iff.1 h
    obtain ⟨rfl, hrest⟩ := Prod.mk.inj h
    rw [List.append_left_eq_self.1 hrest] at hread
    exact ⟨t, rfl, hread⟩
  · rintro ⟨t, rfl, h⟩
    rw [hf.stops hc, h]
    rfl

/-- What is read to its end consists of characters of the class. -/
theorem forall_mem (hf : Reads p f) {s : List Char} {x : α} (h : f s = some (x, [])) : ∀ c ∈ s, p c := by
  obtain ⟨t, rfl, ht⟩ := hf.taken h
  rwa [List.append_nil]

end Reads

-- ---------------------------------------------------------------------------
-- Numbers
-- ---------------------------------------------------------------------------

theorem number_go_stops {base : Nat} {c : Char} (hc : ¬IsDigitOf base c) (count value : Nat) (t r : List Char) :
    number.go base count value (t ++ c :: r) =
      ((number.go base count value t).1, (number.go base count value t).2.1,
        (number.go base count value t).2.2 ++ c :: r) := by
  induction t generalizing count value with
  | nil =>
    have hnone : digit? base c = none := Option.not_isSome_iff_eq_none.1 hc
    simp only [List.nil_append, number.go, hnone]
  | cons b t ih =>
    rw [List.cons_append, number.go, number.go]
    split
    · exact ih _ _
    · rfl

/-- A reader that makes something of a number, from how many digits it has, its value and whether its first digit
is a zero. -/
theorem reads_number {base : Nat} {read : List Char → Option (α × List Char)}
    (make : Nat → Nat → Bool → Option α) (hmake : ∀ value zero, make 0 value zero = none)
    (hread : ∀ s, read s =
      (make (number base s).1 (number base s).2.1 (s.head? = some '0')).map fun x => (x, (number base s).2.2)) :
    Reads (IsDigitOf base) read where
  taken {s x r} h := by
    rw [hread] at h
    obtain ⟨_, -, h⟩ := Option.map_eq_some_iff.1 h
    obtain ⟨t, hs, ht⟩ := number_go_taken base 0 0 s
    cases h
    exact ⟨t, hs, ht⟩
  stops {c} hc t r := by
    have hnumber : number base (t ++ c :: r) =
        ((number base t).1, (number base t).2.1, (number base t).2.2 ++ c :: r) := number_go_stops hc 0 0 t r
    rw [hread, hread, hnumber]
    cases t with
    | nil =>
      have hnil : number base [] = (0, 0, []) := rfl
      simp only [hnil, hmake, Option.map_none]
    | cons b t => simp [Function.comp_def]

theorem reads_octet? : Reads (IsDigitOf 10) octet? := by
  refine reads_number (fun count value zero =>
    if count = 0 ∨ 3 < count ∨ 255 < value then none else if 1 < count ∧ zero then none else some value.toUInt8)
    (by simp) fun s => ?_
  simp only [octet?, decide_eq_true_eq]
  split_ifs <;> rfl

theorem reads_group? : Reads (IsDigitOf 16) group? := by
  refine reads_number (fun count value _ => if count = 0 ∨ 4 < count then none else some value.toUInt16)
    (by simp) fun s => ?_
  simp only [group?]
  split_ifs <;> rfl

-- ---------------------------------------------------------------------------
-- IPv4
-- ---------------------------------------------------------------------------

/-- A character of an IPv4 address. -/
def IsDotted (c : Char) : Prop :=
  IsDigitOf 10 c ∨ c = '.'

instance (c : Char) : Decidable (IsDotted c) :=
  inferInstanceAs (Decidable (_ ∨ _))

theorem isDotted_of_isDigitOf {c : Char} (h : IsDigitOf 10 c) : IsDotted c :=
  .inl h

theorem Ipv4.reads_dot : Reads IsDotted Ipv4.read?.dot := by
  have hread := Reads.choose '.' (.inr rfl) (reads_octet?.mono fun _ => isDotted_of_isDigitOf) Reads.none
  convert hread using 2 with s
  cases s with
  | nil => rfl
  | cons c s => by_cases hc : c = '.' <;> simp [Ipv4.read?.dot, hc]

/-- What an IPv4 address is read from. -/
theorem Ipv4.reads_read? : Reads IsDotted Ipv4.read? := by
  have hread := (reads_octet?.mono fun _ => isDotted_of_isDigitOf).bind fun a =>
    Ipv4.reads_dot.bind fun b => Ipv4.reads_dot.bind fun c => Ipv4.reads_dot.bind fun d =>
      Reads.lift (some (Ipv4.mk a b c d))
  exact hread

theorem Ipv4.parse?_eq_some_iff {s : List Char} {ip : Ipv4} :
    Ipv4.parse? s = some ip ↔ Ipv4.read? s = some (ip, []) := by
  rw [Ipv4.parse?]
  split
  · rename_i hread
    simp [hread]
  · rename_i hread
    exact ⟨nofun, fun h => absurd h (hread ip)⟩

/-- The text of an IPv4 address has no colon and no bracket. -/
theorem Ipv4.ne_of_parse? {ip : Ipv4} {s : List Char} (h : Ipv4.parse? s = some ip) :
    ∀ c ∈ s, c ≠ ':' ∧ c ≠ '[' ∧ c ≠ ']' := by
  intro c hc
  have hchar := Ipv4.reads_read?.forall_mem (Ipv4.parse?_eq_some_iff.1 h) c hc
  refine ⟨?_, ?_, ?_⟩ <;> rintro rfl <;> exact absurd hchar (by decide)

-- ---------------------------------------------------------------------------
-- IPv6
-- ---------------------------------------------------------------------------

/-- A character of an IPv6 address with its scope. -/
def IsScopedChar (c : Char) : Prop :=
  IsDigitOf 16 c ∨ c = '.' ∨ c = ':' ∨ c = '%'

instance (c : Char) : Decidable (IsScopedChar c) :=
  inferInstanceAs (Decidable (_ ∨ _))

theorem isScopedChar_of_decimal {c : Char} (h : IsDigitOf 10 c) : IsScopedChar c := by
  left
  simp only [IsDigitOf, digit?, Option.isSome_ite] at h ⊢
  split_ifs at h ⊢ <;> omega

theorem isScopedChar_of_isDotted {c : Char} (h : IsDotted c) : IsScopedChar c :=
  h.elim isScopedChar_of_decimal fun h => .inr (.inl h)

theorem isScopedChar_of_hexadecimal {c : Char} (h : IsDigitOf 16 c) : IsScopedChar c :=
  .inl h

/-- Groups and whether they end in an IPv4 address, and what is left. -/
def groups? (first : Bool) (limit : Nat) (s : List Char) : Option ((List UInt16 × Bool) × List Char) :=
  match readGroups first limit s with
  | (gs, v4, r) => some ((gs, v4), r)

/-- The groups of a text in front of which no colon must come. -/
def groupsHere? (limit : Nat) (s : List Char) : Option ((List UInt16 × Bool) × List Char) :=
  ((if 1 ≤ limit then Ipv4.read? s else none).bind fun (ip, r) => some ((ip.groups, true), r)).or
    ((group? s).bind fun (g, r) => (groups? false limit r).bind fun ((gs, v4), r) => some ((g :: gs, v4), r))

theorem groups?_succ (first : Bool) (limit : Nat) (s : List Char) :
    groups? first (limit + 1) s =
      (if first then groupsHere? limit s
        else if s.head? = some ':' then groupsHere? limit s.tail else none).or (some (([], false), s)) := by
  unfold groups? readGroups groupsHere? groups?
  cases first with
  | true =>
    simp only [if_true]
    cases (if 1 ≤ limit then Ipv4.read? s else none) with
    | some read => rfl
    | none => cases group? s <;> rfl
  | false =>
    cases s with
    | nil => rfl
    | cons c r =>
      by_cases hc : c = ':'
      · subst hc
        simp only [Bool.false_eq_true, if_false, List.head?_cons, if_true, List.tail_cons]
        cases (if 1 ≤ limit then Ipv4.read? r else none) with
        | some read => rfl
        | none => cases group? r <;> rfl
      · simp [hc]

theorem reads_groups? (first : Bool) (limit : Nat) : Reads IsScopedChar (groups? first limit) := by
  induction limit generalizing first with
  | zero =>
    have hread : Reads IsScopedChar _ := Reads.lift (some (([] : List UInt16), false))
    exact hread
  | succ limit ih =>
    have hempty : Reads IsScopedChar _ := Reads.lift (some (([] : List UInt16), false))
    have hdotted := (Reads.ite (1 ≤ limit) (Ipv4.reads_read?.mono fun _ => isScopedChar_of_isDotted) Reads.none).bind
      fun ip => Reads.lift (some (ip.groups, true))
    have hgroup := (reads_group?.mono fun _ => isScopedChar_of_hexadecimal).bind fun g =>
      (ih false).bind fun tail => Reads.lift (some (g :: tail.1, tail.2))
    have hhere : Reads IsScopedChar (groupsHere? limit) := hdotted.orElse hgroup
    have hread := ((Reads.ite (first = true) hhere (Reads.choose ':' (by decide) hhere Reads.none)).orElse hempty)
    exact (funext (groups?_succ first limit)) ▸ hread

/-- An IPv6 address from the groups in front of `::` and those behind it. -/
def Ipv6.tail? (head : List UInt16) (s : List Char) : Option (Ipv6 × List Char) :=
  (groups? true (7 - head.length) s).bind fun (tail, r) =>
    (Ipv6.ofGroups? (head ++ List.replicate (8 - head.length - tail.1.length) 0 ++ tail.1)).map (·, r)

theorem Ipv6.read?_eq (s : List Char) :
    Ipv6.read? s = (groups? true 8 s).bind fun (head, r) =>
      if head.1.length = 8 then (Ipv6.ofGroups? head.1).map (·, r)
      else if head.2 then none
      else if r.head? = some ':' then
        if r.tail.head? = some ':' then Ipv6.tail? head.1 r.tail.tail else none
      else none := by
  rw [Ipv6.read?, groups?]
  obtain ⟨head, v4, r⟩ := readGroups true 8 s
  simp only [Option.bind_some]
  split_ifs with height hv4 hcolon hmark
  · cases Ipv6.ofGroups? head <;> rfl
  · rfl
  · obtain ⟨r, rfl⟩ := List.head?_eq_some_iff.1 hcolon
    obtain ⟨r, rfl⟩ := List.head?_eq_some_iff.1 hmark
    simp only [Ipv6.tail?, groups?, List.tail_cons, Option.bind_some]
    cases Ipv6.ofGroups? _ <;> rfl
  · obtain ⟨r, rfl⟩ := List.head?_eq_some_iff.1 hcolon
    split
    · rename_i heq
      cases heq
      exact absurd rfl hmark
    · rfl
  · split
    · exact absurd rfl hcolon
    · rfl

theorem Ipv6.reads_read? : Reads IsScopedChar Ipv6.read? := by
  have htail (head : List UInt16) : Reads IsScopedChar (Ipv6.tail? head) := by
    have hread := (reads_groups? true (7 - head.length)).bind fun tail =>
      Reads.lift (Ipv6.ofGroups? (head ++ List.replicate (8 - head.length - tail.1.length) 0 ++ tail.1))
    exact hread
  have hread := (reads_groups? true 8).bind fun head =>
    Reads.ite (head.1.length = 8) (Reads.lift (Ipv6.ofGroups? head.1)) <|
      Reads.ite (head.2 = true) Reads.none <|
        Reads.choose ':' (by decide) (Reads.choose ':' (by decide) (htail head.1) Reads.none) Reads.none
  exact (funext Ipv6.read?_eq) ▸ hread

theorem reads_scope : Reads IsScopedChar scope := by
  have hnumber : Reads IsScopedChar fun s => scope ('%' :: s) := by
    refine (reads_number (fun count value _ =>
      if count = 0 then none else if value < UInt32.size then some value.toUInt32 else none) (by simp)
      fun s => ?_).mono fun _ => isScopedChar_of_decimal
    rw [scope]
    obtain ⟨count, value, r⟩ := number 10 s
    cases count with
    | zero => rfl
    | succ count =>
      simp only [Nat.add_one_ne_zero, if_false]
      split_ifs <;> rfl
  have hread := Reads.choose '%' (by decide) hnumber (Reads.lift (some 0))
  convert hread using 2 with s
  cases s with
  | nil => rfl
  | cons c r =>
    by_cases hc : c = '%'
    · subst hc
      rfl
    · simp [scope, hc]

/-- Reads an IPv6 address with its scope. -/
def Ipv6.scoped? (s : List Char) : Option ((Ipv6 × UInt32) × List Char) :=
  (Ipv6.read? s).bind fun (ip, r) => (scope r).bind fun (id, r) => some ((ip, id), r)

/-- What an IPv6 address with its scope is read from. -/
theorem Ipv6.reads_scoped? : Reads IsScopedChar Ipv6.scoped? :=
  Ipv6.reads_read?.bind fun ip => reads_scope.bind fun id => Reads.lift (some (ip, id))

/-- Without a colon no group follows another. -/
theorem readGroups_false_of_no_colon {s : List Char} (h : ':' ∉ s) (limit : Nat) :
    readGroups false limit s = ([], false, s) := by
  cases limit with
  | zero => rfl
  | succ limit =>
    cases s with
    | nil => rfl
    | cons c r =>
      have hc : c ≠ ':' := fun hc => h (hc ▸ List.mem_cons_self)
      simp [readGroups, hc]

/-- Without colons there are two groups at most. -/
theorem length_readGroups_of_no_colon {s : List Char} (h : ':' ∉ s) (limit : Nat) :
    (readGroups true limit s).1.length ≤ 2 := by
  cases limit with
  | zero => simp [readGroups]
  | succ limit =>
    simp only [readGroups, if_true]
    split
    · simp [Ipv4.groups]
    · split
      · rename_i g r hgroup
        have hr : ':' ∉ r := by
          obtain ⟨t, rfl, -⟩ := reads_group?.taken hgroup
          exact fun hmem => h (List.mem_append_right t hmem)
        simp [readGroups_false_of_no_colon hr]
      · simp

/-- An IPv6 address has a colon. -/
theorem Ipv6.colon_mem_of_read? {s r : List Char} {ip : Ipv6} (h : Ipv6.read? s = some (ip, r)) : ':' ∈ s := by
  -- without a colon there are neither eight groups nor a mark of left out ones
  by_contra hs
  rw [Ipv6.read?_eq] at h
  obtain ⟨⟨head, rest⟩, hhead, hip⟩ := Option.bind_eq_some_iff.1 h
  have hfew : head.1.length ≠ 8 := by
    have hlength := length_readGroups_of_no_colon hs 8
    simp only [groups?, Option.some.injEq, Prod.mk.injEq] at hhead
    rw [← hhead.1]
    exact fun height => absurd (height ▸ hlength) (by decide)
  have hrest : rest.head? ≠ some ':' := by
    obtain ⟨t, rfl, -⟩ := (reads_groups? true 8).taken hhead
    exact fun hcolon => hs (List.mem_append_right t (List.mem_of_head? hcolon))
  simp only [if_neg hfew, if_neg hrest, ite_self] at hip
  cases hip

/-- An IPv6 address alone has no scope. -/
theorem Ipv6.scoped?_of_parse? {ip : Ipv6} {s : List Char} (h : Ipv6.parse? s = some ip) :
    Ipv6.scoped? s = some ((ip, 0), []) := by
  unfold Ipv6.parse? at h
  split at h
  · rename_i hread
    rw [← Option.some.inj h, Ipv6.scoped?, hread]
    rfl
  · cases h

/-- The text of an IPv6 address with its scope has a colon and no bracket. -/
theorem Ipv6.mem_of_scoped? {ip : Ipv6} {id : UInt32} {s : List Char}
    (h : Ipv6.scoped? s = some ((ip, id), [])) : ':' ∈ s ∧ ∀ c ∈ s, c ≠ '[' ∧ c ≠ ']' := by
  constructor
  · obtain ⟨⟨ip, r⟩, hread, -⟩ := Option.bind_eq_some_iff.1 h
    exact Ipv6.colon_mem_of_read? hread
  · intro c hc
    have hchar := Ipv6.reads_scoped?.forall_mem h c hc
    constructor <;> rintro rfl <;> exact absurd hchar (by decide)

-- ---------------------------------------------------------------------------
-- Ports
-- ---------------------------------------------------------------------------

theorem isBase_ten : IsBase 10 := by
  constructor <;> decide

/-- A port is the number that all digits behind a colon make. -/
theorem port?_eq_some_iff {r : List Char} {port : UInt16} :
    port? (':' :: r) = some port ↔ ∃ count value, number 10 r = (count + 1, value, []) ∧ value = port.toNat := by
  rw [port?]
  obtain ⟨count, value, rest⟩ := number 10 r
  cases count with
  | zero => simp
  | succ count =>
    cases rest with
    | cons c rest => simp
    | nil =>
      have hvalue : value ≤ 65535 ∧ UInt16.ofNat value = port ↔ value = port.toNat := by
        constructor
        · rintro ⟨hle, rfl⟩
          exact (UInt16.toNat_ofNat_of_lt' (Nat.lt_succ_of_le hle)).symm
        · rintro rfl
          exact ⟨Nat.le_of_lt_succ port.toNat_lt, UInt16.ofNat_toNat⟩
      simpa using hvalue

/-- The digits of a port are a port. -/
theorem port?_toString (port : UInt16) : port? (':' :: (toString port).toList) = some port := by
  have htext : (toString port).toList = Nat.toDigits 10 port.toNat := Nat.toList_repr
  have hnumber : number 10 (Nat.toDigits 10 port.toNat ++ []) =
      ((Nat.toDigits 10 port.toNat).length, port.toNat, []) := number_toDigits isBase_ten port.toNat (by simp)
  rw [List.append_nil] at hnumber
  refine port?_eq_some_iff.2 ⟨(Nat.toDigits 10 port.toNat).length - 1, port.toNat, ?_, rfl⟩
  rw [htext, hnumber, Nat.sub_add_cancel Nat.length_toDigits_pos]

/-- A port has digits only. -/
theorem isDigitOf_of_port? {r : List Char} {port : UInt16} (h : port? (':' :: r) = some port) :
    ∀ c ∈ r, IsDigitOf 10 c := by
  obtain ⟨count, value, hnumber, -⟩ := port?_eq_some_iff.1 h
  obtain ⟨t, hr, ht⟩ := number_go_taken 10 0 0 r
  rw [show number.go 10 0 0 r = number 10 r from rfl, hnumber, List.append_nil] at hr
  exact hr ▸ ht

-- ---------------------------------------------------------------------------
-- Socket addresses
-- ---------------------------------------------------------------------------

/-- How the host of a socket address is spelled: an IPv6 address with its scope stands in brackets. -/
inductive Host.IsSpelled : Host → List Char → Prop
  | v4 {ip : Ipv4} {t : List Char} (h : Ipv4.parse? t = some ip) : IsSpelled (.v4 ip) t
  | v6 {ip : Ipv6} {id : UInt32} {t : List Char} (h : Ipv6.scoped? t = some ((ip, id), [])) :
    IsSpelled (.v6 ip id) ('[' :: (t ++ [']']))

/-- A port behind a text starts with a colon. -/
theorem exists_of_port? {r : List Char} {port : UInt16} (h : port? r = some port) : ∃ digits, r = ':' :: digits := by
  unfold port? at h
  split at h
  · exact ⟨_, rfl⟩
  · cases h

/-- A text that starts with a bracket is that of an IPv6 address with its scope. -/
theorem SocketAddress.parse?_bracket (s : List Char) :
    SocketAddress.parse? ('[' :: s) = (Ipv6.scoped? s).bind fun (host, r) =>
      if r.head? = some ']' then (port? r.tail).map fun port => ⟨.v6 host.1 host.2, port⟩ else none := by
  have hnone : Ipv4.read? ('[' :: s) = none := rfl
  rw [SocketAddress.parse?, hnone, Ipv6.scoped?]
  cases Ipv6.read? s with
  | none => rfl
  | some read =>
    obtain ⟨ip, r⟩ := read
    cases hscope : scope r with
    | none => simp [hscope]
    | some read =>
      obtain ⟨id, r⟩ := read
      cases r with
      | nil => simp [hscope]
      | cons c r => by_cases hc : c = ']' <;> simp [hscope, hc]

/-- **The texts of socket addresses:** a host, a colon, and the digits of a port. -/
theorem SocketAddress.parse?_eq_some_iff {s : List Char} {a : SocketAddress} :
    SocketAddress.parse? s = some a ↔
      ∃ host port, s = host ++ ':' :: port ∧ a.host.IsSpelled host ∧ port? (':' :: port) = some a.port := by
  -- an IPv4 address ends at the colon, an IPv6 address with its scope at the bracket
  have hcolon : ¬IsDotted ':' := by decide
  have hbracket : ¬IsScopedChar ']' := by decide
  obtain ⟨ahost, aport⟩ := a
  constructor
  · intro h
    cases hread : Ipv4.read? s with
    | some read =>
      obtain ⟨ip, r⟩ := read
      simp only [SocketAddress.parse?, hread] at h
      obtain ⟨port, hport, hmade⟩ := Option.map_eq_some_iff.1 h
      obtain ⟨digits, rfl⟩ := exists_of_port? hport
      obtain ⟨t, rfl, ht⟩ := (Ipv4.reads_read?.eq_some_iff hcolon).1 hread
      cases hmade
      exact ⟨t, digits, rfl, .v4 (Ipv4.parse?_eq_some_iff.2 ht), hport⟩
    | none =>
      obtain ⟨s, rfl⟩ : ∃ r, s = '[' :: r := by
        cases s with
        | nil => simp [SocketAddress.parse?, hread] at h
        | cons c r =>
          by_cases hc : c = '['
          · exact ⟨r, by rw [hc]⟩
          · simp [SocketAddress.parse?, hread, hc] at h
      rw [SocketAddress.parse?_bracket] at h
      obtain ⟨⟨⟨ip, id⟩, r⟩, hscoped, h⟩ := Option.bind_eq_some_iff.1 h
      obtain ⟨hclose, h⟩ := Option.ite_none_right_eq_some.1 h
      obtain ⟨r, rfl⟩ := List.head?_eq_some_iff.1 hclose
      obtain ⟨port, hport, hmade⟩ := Option.map_eq_some_iff.1 h
      obtain ⟨digits, rfl⟩ := exists_of_port? hport
      obtain ⟨t, rfl, ht⟩ := (Ipv6.reads_scoped?.eq_some_iff hbracket).1 hscoped
      cases hmade
      exact ⟨'[' :: (t ++ [']']), digits, by simp, .v6 ht, hport⟩
  · rintro ⟨host, port, rfl, hhost, hport⟩
    cases hhost with
    | @v4 ip _ hread =>
      have hall : Ipv4.read? (host ++ ':' :: port) = some (ip, ':' :: port) :=
        (Ipv4.reads_read?.eq_some_iff hcolon).2 ⟨host, rfl, Ipv4.parse?_eq_some_iff.1 hread⟩
      simp only [SocketAddress.parse?, hall, hport, Option.map_some]
    | @v6 ip id t hread =>
      have hall : Ipv6.scoped? (t ++ ']' :: ':' :: port) = some ((ip, id), ']' :: ':' :: port) :=
        (Ipv6.reads_scoped?.eq_some_iff hbracket).2 ⟨t, rfl, hread⟩
      have htext : '[' :: (t ++ [']']) ++ ':' :: port = '[' :: (t ++ ']' :: ':' :: port) := by simp
      rw [htext, SocketAddress.parse?_bracket, hall]
      simp [hport]

end Repeater.Net
