import Mathlib.Algebra.Group.Nat.Defs
import Repeater.Net.Address
import Repeater.Proofs.Text.Split

/-!
# Addresses read back

The canonical text of an address is read as the address. For IPv6 this is the work of the left out run
of zero groups: it is a run of zeros (`IsZeroRun`), so putting as many zeros as are missing in
its place gives the eight groups again.

## Results

* `number_toDigits`   — the digits of a number are read back;
* `Ipv4.mem_text`     — an IPv4 text consists of digits and dots;
* `Ipv6.parse?_text`  — an IPv6 text is read back;
* `Ipv6.mem_text`     — and consists of hexadecimal digits and colons.
-/

namespace Repeater.Net

-- ---------------------------------------------------------------------------
-- Numbers
-- ---------------------------------------------------------------------------

/-- The base has the digits that numbers are written in. -/
def IsBase (base : Nat) : Prop :=
  1 < base ∧ ∀ d < base, digit? base d.digitChar = some d

theorem isBase_sixteen : IsBase 16 := by
  constructor <;> decide

theorem number_go_toDigits {base : Nat} (hbase : IsBase base) (n count value : Nat)
    (rest : List Char) :
    number.go base count value (Nat.toDigits base n ++ rest) =
      number.go base (count + (Nat.toDigits base n).length)
        (value * base ^ (Nat.toDigits base n).length + n) rest := by
  have hone (d count value : Nat) (rest : List Char) (hd : d < base) :
      number.go base count value (Nat.toDigits base d ++ rest) =
        number.go base (count + 1) (value * base + d) rest := by
    rw [Nat.toDigits_of_lt_base hd, List.singleton_append, number.go, hbase.2 d hd]
  induction n using Nat.base_induction base hbase.1 generalizing count value rest with
  | single d hd =>
    rw [hone d count value rest hd, Nat.toDigits_of_lt_base hd, List.length_singleton, Nat.pow_one]
  | digit m d hd hm ih =>
    rw [← Nat.toDigits_append_toDigits hbase.1 hm hd, List.append_assoc, ih, hone d _ _ rest hd,
      List.length_append, Nat.toDigits_of_lt_base hd, List.length_singleton, Nat.pow_succ]
    congr 1
    rw [Nat.add_mul, Nat.mul_assoc, Nat.mul_comm m base, Nat.add_assoc]

/-- The digits of a number are read back. -/
theorem number_toDigits {base : Nat} (hbase : IsBase base) (n : Nat) {rest : List Char}
    (hrest : ∀ c ∈ rest.head?, digit? base c = none) :
    number base (Nat.toDigits base n ++ rest) = ((Nat.toDigits base n).length, n, rest) := by
  rw [number, number_go_toDigits hbase, Nat.zero_add, Nat.zero_mul, Nat.zero_add]
  cases rest with
  | nil => rfl
  | cons c r => rw [number.go, hrest c rfl]

/-- A digit of a number that is written. -/
theorem exists_of_mem_toDigits {base n : Nat} (hbase : 1 < base) {c : Char}
    (h : c ∈ Nat.toDigits base n) : ∃ d < base, c = d.digitChar := by
  induction n using Nat.base_induction base hbase with
  | single d hd =>
    rw [Nat.toDigits_of_lt_base hd, List.mem_singleton] at h
    exact ⟨d, hd, h⟩
  | digit m d hd hm ih =>
    rw [← Nat.toDigits_append_toDigits hbase hm hd, Nat.toDigits_of_lt_base hd, List.mem_append,
      List.mem_singleton] at h
    rcases h with h | h
    · exact ih h
    · exact ⟨d, hd, h⟩

/-- A digit of a base. -/
def IsDigitOf (base : Nat) (c : Char) : Prop :=
  (digit? base c).isSome

instance (base : Nat) (c : Char) : Decidable (IsDigitOf base c) :=
  inferInstanceAs (Decidable (_ = true))

/-- A number takes digits, and what is left is the end of the text. -/
theorem number_go_taken (base count value : Nat) (s : List Char) :
    ∃ t, s = t ++ (number.go base count value s).2.2 ∧ ∀ c ∈ t, IsDigitOf base c := by
  induction s generalizing count value with
  | nil => exact ⟨[], rfl, by simp⟩
  | cons c s ih =>
    rw [number.go]
    split
    · rename_i v hdigit
      obtain ⟨t, hs, ht⟩ := ih (count + 1) (value * base + v)
      exact ⟨c :: t, congrArg (c :: ·) hs,
        List.forall_mem_cons.2 ⟨Option.isSome_iff_exists.2 ⟨v, hdigit⟩, ht⟩⟩
    · exact ⟨[], rfl, by simp⟩

-- ---------------------------------------------------------------------------
-- IPv4
-- ---------------------------------------------------------------------------

/-- The four decimal parts with dots between them. -/
theorem Ipv4.text_eq (ip : Ipv4) :
    ip.text = Nat.toDigits 10 ip.a.toNat ++ '.' :: (Nat.toDigits 10 ip.b.toNat ++
      '.' :: (Nat.toDigits 10 ip.c.toNat ++ '.' :: Nat.toDigits 10 ip.d.toNat)) := by
  have hpart (x : UInt8) : (toString x).toList = Nat.toDigits 10 x.toNat := Nat.toList_repr
  simp [Ipv4.text, hpart]

/-- An IPv4 text consists of digits and dots. -/
theorem Ipv4.mem_text {ip : Ipv4} {c : Char} (h : c ∈ ip.text) : c.isDigit ∨ c = '.' := by
  have hdigit {n : Nat} (h : c ∈ Nat.toDigits 10 n) : c.isDigit ∨ c = '.' :=
    .inl (Nat.isDigit_of_mem_toDigits (by decide) (by decide) h)
  rw [Ipv4.text_eq] at h
  simp only [List.mem_append, List.mem_cons] at h
  rcases h with h | h | h | h | h | h | h
  · exact hdigit h
  · exact .inr h
  · exact hdigit h
  · exact .inr h
  · exact hdigit h
  · exact .inr h
  · exact hdigit h

/-- A text without a dot starts with no IPv4 address. -/
theorem Ipv4.read?_of_no_dot {s : List Char} (h : '.' ∉ s) : Ipv4.read? s = none := by
  rw [Ipv4.read?]
  cases ho : octet? s with
  | none => rfl
  | some part =>
    obtain ⟨a, r⟩ := part
    have hr : '.' ∉ r := by
      unfold octet? at ho
      split at ho
      rename_i count value r' hnumber
      obtain ⟨t, hs, -⟩ := number_go_taken 10 0 0 s
      rw [show number.go 10 0 0 s = number 10 s from rfl, hnumber] at hs
      split at ho
      · cases ho
      · split at ho
        · cases ho
        · cases ho
          exact fun hmem => h (hs ▸ List.mem_append_right t hmem)
    have hdot : Ipv4.read?.dot r = none := by
      unfold Ipv4.read?.dot
      split
      · exact absurd List.mem_cons_self hr
      · rfl
    simp [hdot]

-- ---------------------------------------------------------------------------
-- Groups
-- ---------------------------------------------------------------------------

/-- A character of groups: a lower-case hexadecimal digit or the colon between them. -/
def IsGroupChar (c : Char) : Prop :=
  c.isDigit ∨ ('a' ≤ c ∧ c ≤ 'f') ∨ c = ':'

instance (c : Char) : Decidable (IsGroupChar c) :=
  inferInstanceAs (Decidable (_ ∨ _))

theorem isGroupChar_of_mem_toDigits {n : Nat} {c : Char} (h : c ∈ Nat.toDigits 16 n) :
    IsGroupChar c := by
  have hall : ∀ d < 16, IsGroupChar d.digitChar := by decide
  obtain ⟨d, hd, rfl⟩ := exists_of_mem_toDigits (by decide) h
  exact hall d hd

/-- Groups with a colon before each. -/
def colonText (gs : List UInt16) : List Char :=
  gs.flatMap fun g => ':' :: Nat.toDigits 16 g.toNat

/-- The first group has no colon before it. -/
theorem Ipv6.groupText_cons (g : UInt16) (gs : List UInt16) :
    Ipv6.groupText (g :: gs) = Nat.toDigits 16 g.toNat ++ colonText gs := by
  induction gs generalizing g with
  | nil => simp [Ipv6.groupText, colonText]
  | cons next gs ih =>
    calc Ipv6.groupText (g :: next :: gs)
        = Nat.toDigits 16 g.toNat ++ [':'] ++ Ipv6.groupText (next :: gs) :=
          List.intercalate_cons_cons
      _ = Nat.toDigits 16 g.toNat ++ colonText (next :: gs) := by simp [ih, colonText]

theorem isGroupChar_of_mem_colonText {gs : List UInt16} {c : Char} (h : c ∈ colonText gs) :
    IsGroupChar c := by
  obtain ⟨g, -, h⟩ := List.mem_flatMap.1 h
  rcases List.mem_cons.1 h with rfl | h
  · decide
  · exact isGroupChar_of_mem_toDigits h

theorem isGroupChar_of_mem_groupText {gs : List UInt16} {c : Char} (h : c ∈ Ipv6.groupText gs) :
    IsGroupChar c := by
  cases gs with
  | nil => cases h
  | cons g gs =>
    rw [Ipv6.groupText_cons, List.mem_append] at h
    exact h.elim isGroupChar_of_mem_toDigits isGroupChar_of_mem_colonText

/-- What may follow groups: nothing, or the mark of a left out run and other groups. -/
def IsTail (s : List Char) : Prop :=
  s = [] ∨ ∃ gs, s = ':' :: ':' :: Ipv6.groupText gs

theorem IsTail.no_dot {s : List Char} (h : IsTail s) : '.' ∉ s := by
  rcases h with rfl | ⟨gs, rfl⟩
  · exact List.not_mem_nil
  · intro hmem
    rcases List.mem_cons.1 hmem with h | hmem
    · cases h
    · rcases List.mem_cons.1 hmem with h | hmem
      · cases h
      · exact absurd (isGroupChar_of_mem_groupText hmem) (by decide)

/-- No group starts at a colon or at the end. -/
theorem group?_of_colon {s : List Char} (h : ∀ c ∈ s.head?, c = ':') : group? s = none := by
  cases s with
  | nil => rfl
  | cons c r =>
    obtain rfl : c = ':' := h c rfl
    rfl

/-- A group is read back. -/
theorem group?_toDigits (g : UInt16) {rest : List Char} (h : ∀ c ∈ rest.head?, c = ':') :
    group? (Nat.toDigits 16 g.toNat ++ rest) = some (g, rest) := by
  have hrest : ∀ c ∈ rest.head?, digit? 16 c = none := by
    intro c hc
    rw [h c hc]
    decide
  have hlen : (Nat.toDigits 16 g.toNat).length ≤ 4 :=
    (Nat.length_toDigits_le_iff (by decide) (by decide)).2 g.toNat_lt
  rw [group?, number_toDigits isBase_sixteen _ hrest]
  dsimp only
  rw [if_neg, Nat.toUInt16_eq, UInt16.ofNat_toNat]
  have := Nat.length_toDigits_pos (b := 16) (n := g.toNat)
  omega

theorem head?_colonText (gs : List UInt16) {rest : List Char} (hrest : IsTail rest) :
    ∀ c ∈ (colonText gs ++ rest).head?, c = ':' := by
  cases gs with
  | nil => rcases hrest with rfl | ⟨gs, rfl⟩ <;> simp [colonText]
  | cons g gs => simp [colonText]

theorem no_dot_of_groups {s rest : List Char} (hs : ∀ c ∈ s, IsGroupChar c) (hrest : IsTail rest) :
    '.' ∉ s ++ rest := by
  intro hmem
  rcases List.mem_append.1 hmem with hmem | hmem
  · exact absurd (hs _ hmem) (by decide)
  · exact hrest.no_dot hmem

/-- Groups with a colon before each are read back, as far as the limit goes. -/
theorem readGroups_colonText {gs : List UInt16} {limit : Nat} (hlimit : gs.length ≤ limit)
    {rest : List Char} (hrest : IsTail rest) :
    readGroups false limit (colonText gs ++ rest) = (gs, false, rest) := by
  induction gs generalizing limit with
  | nil =>
    cases limit with
    | zero => rfl
    | succ limit =>
      rcases hrest with rfl | ⟨gs, rfl⟩
      · rfl
      · have htail : IsTail (':' :: ':' :: Ipv6.groupText gs) := .inr ⟨gs, rfl⟩
        have hdot : '.' ∉ ':' :: Ipv6.groupText gs :=
          fun h => htail.no_dot (List.mem_cons_of_mem _ h)
        have hnone : group? (':' :: Ipv6.groupText gs) = none := group?_of_colon (by simp)
        simp [colonText, readGroups, Ipv4.read?_of_no_dot hdot, hnone]
  | cons g gs ih =>
    cases limit with
    | zero => cases hlimit
    | succ limit =>
      have htext : colonText (g :: gs) ++ rest =
          ':' :: (Nat.toDigits 16 g.toNat ++ (colonText gs ++ rest)) := by
        simp [colonText]
      have hdot : '.' ∉ Nat.toDigits 16 g.toNat ++ (colonText gs ++ rest) := by
        rw [← List.append_assoc]
        refine no_dot_of_groups (fun c hc => ?_) hrest
        exact (List.mem_append.1 hc).elim isGroupChar_of_mem_toDigits isGroupChar_of_mem_colonText
      rw [htext, readGroups]
      simp only [Bool.false_eq_true, if_false, Ipv4.read?_of_no_dot hdot, ite_self,
        group?_toDigits g (head?_colonText gs hrest), ih (Nat.le_of_succ_le_succ hlimit)]

/-- Groups are read back, as far as the limit goes. -/
theorem readGroups_groupText {gs : List UInt16} {limit : Nat} (hlimit : gs.length ≤ limit)
    {rest : List Char} (hrest : IsTail rest) :
    readGroups true limit (Ipv6.groupText gs ++ rest) = (gs, false, rest) := by
  cases limit with
  | zero =>
    rw [List.length_eq_zero_iff.1 (Nat.le_zero.1 hlimit)]
    rfl
  | succ limit =>
    have hdot : '.' ∉ Ipv6.groupText gs ++ rest :=
      no_dot_of_groups (fun c hc => isGroupChar_of_mem_groupText hc) hrest
    cases gs with
    | nil =>
      have hnone : group? rest = none := group?_of_colon (head?_colonText [] hrest)
      have hnil : Ipv6.groupText [] ++ rest = rest := rfl
      rw [hnil] at hdot ⊢
      simp only [readGroups, if_true, Ipv4.read?_of_no_dot hdot, ite_self, hnone]
    | cons g gs =>
      rw [Ipv6.groupText_cons, List.append_assoc] at hdot ⊢
      simp only [readGroups, if_true, Ipv4.read?_of_no_dot hdot, ite_self,
        group?_toDigits g (head?_colonText gs hrest),
        readGroups_colonText (Nat.le_of_succ_le_succ hlimit) hrest]

-- ---------------------------------------------------------------------------
-- IPv6
-- ---------------------------------------------------------------------------

/-- A run that may be left out: none at all, or at least two zeros. -/
def IsZeroRun (gs : List UInt16) (start length : Nat) : Prop :=
  length = 0 ∨ 2 ≤ length ∧ gs = gs.take start ++ List.replicate length 0 ++ gs.drop (start + length)

/-- The zeros from a place on. -/
theorem isZeroRun_takeWhile (gs : List UInt16) (i : Nat)
    (h : 2 ≤ ((gs.drop i).takeWhile (· == 0)).length) :
    IsZeroRun gs i ((gs.drop i).takeWhile (· == 0)).length := by
  refine .inr ⟨h, ?_⟩
  have hzeros : (gs.drop i).takeWhile (· == 0) =
      List.replicate ((gs.drop i).takeWhile (· == 0)).length 0 := by
    refine List.eq_replicate_of_mem fun g hg => ?_
    simpa using List.all_eq_true.1 List.all_takeWhile g hg
  rw [← hzeros, List.append_assoc, ← List.drop_drop, Text.drop_length_takeWhile,
    List.takeWhile_append_dropWhile, List.take_append_drop]

/-- What is left out consists of zeros. -/
theorem Ipv6.isZeroRun_zeroRun (gs : List UInt16) :
    IsZeroRun gs (Ipv6.zeroRun gs).1 (Ipv6.zeroRun gs).2 := by
  rw [Ipv6.zeroRun]
  refine List.foldlRecOn (motive := fun run : Nat × Nat => IsZeroRun gs run.1 run.2) _ _ (.inl rfl) ?_
  intro best hbest run hrun
  obtain ⟨i, -, rfl⟩ := List.mem_map.1 hrun
  dsimp only
  split
  · rename_i hlonger
    exact isZeroRun_takeWhile gs i hlonger.2
  · exact hbest

/-- The address of its own groups. -/
theorem Ipv6.ofGroups?_toList (ip : Ipv6) : Ipv6.ofGroups? ip.groups.toList = some ip := by
  obtain ⟨⟨gs, hgs⟩⟩ := ip
  simp [Ipv6.ofGroups?, hgs]

/-- **The text of an IPv6 address is read back.** -/
theorem Ipv6.parse?_text (ip : Ipv6) : Ipv6.parse? ip.text = some ip := by
  have height : ip.groups.toList.length = 8 := ip.groups.length_toList
  have hgroups := Ipv6.ofGroups?_toList ip
  have hread : Ipv6.read? ip.text = some (ip, []) := by
    simp only [Ipv6.text]
    rcases Ipv6.isZeroRun_zeroRun ip.groups.toList with hnone | ⟨htwo, hsplit⟩
    · have hall : readGroups true 8 (Ipv6.groupText ip.groups.toList ++ []) =
          (ip.groups.toList, false, []) := readGroups_groupText (Nat.le_of_eq height) (.inl rfl)
      rw [List.append_nil] at hall
      rw [if_pos hnone, Ipv6.read?, hall]
      simp [height, hgroups]
    · generalize (Ipv6.zeroRun ip.groups.toList).1 = start at *
      generalize (Ipv6.zeroRun ip.groups.toList).2 = length at *
      generalize hhead : ip.groups.toList.take start = head at *
      generalize htail : ip.groups.toList.drop (start + length) = tail at *
      have hlen : head.length + length + tail.length = 8 := by
        rw [hsplit] at height
        simpa [Nat.add_assoc] using height
      have htext : Ipv6.groupText head ++ "::".toList ++ Ipv6.groupText tail =
          Ipv6.groupText head ++ ':' :: ':' :: Ipv6.groupText tail := by simp
      have hfront : readGroups true 8 (Ipv6.groupText head ++ ':' :: ':' :: Ipv6.groupText tail) =
          (head, false, ':' :: ':' :: Ipv6.groupText tail) :=
        readGroups_groupText (by omega) (.inr ⟨tail, rfl⟩)
      have hback : readGroups true (7 - head.length) (Ipv6.groupText tail ++ []) = (tail, false, []) :=
        readGroups_groupText (by omega) (.inl rfl)
      rw [List.append_nil] at hback
      have hzeros : 8 - head.length - tail.length = length := by omega
      rw [if_neg (by omega), htext, Ipv6.read?, hfront]
      simp only [if_neg (show ¬head.length = 8 by omega), Bool.false_eq_true, if_false, hback, hzeros]
      rw [← hsplit, hgroups]
      rfl
  rw [Ipv6.parse?, hread]

/-- An IPv6 text consists of hexadecimal digits and colons. -/
theorem Ipv6.mem_text {ip : Ipv6} {c : Char} (h : c ∈ ip.text) : IsGroupChar c := by
  simp only [Ipv6.text] at h
  split at h
  · exact isGroupChar_of_mem_groupText h
  · rw [List.mem_append, List.mem_append] at h
    rcases h with (h | h) | h
    · exact isGroupChar_of_mem_groupText h
    · exact Text.forall_mem_of_all (by decide) c h
    · exact isGroupChar_of_mem_groupText h

end Repeater.Net
