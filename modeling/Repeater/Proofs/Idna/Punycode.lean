import Mathlib.Data.List.Induction
import Mathlib.Data.List.Perm.Subperm
import Mathlib.Tactic.Ring
import Repeater.Idna.Punycode

/-!
# Punycode reads back

Reading what was written gives the label again. The argument follows the passes of the writer: while it
looks at the characters of one code point, the reader holds the characters that are lower, and those of
that code point that the pass is already behind (`Tracks`). Both count the same places, so the number
that the writer puts down is the way that the reader has to go.

## Results

* `decodeNumber_encodeNumber` — a number is read back, whatever follows it;
* `Tracks.encodePass`         — one pass, which the reader follows;
* `decode?_encode`            — a label of at most a thousand characters is read back;
* `mem_encode`                — what a written label consists of;
* `mem_of_decode?`            — the basic characters of a label that is read stand in the text;
* `length_encode`             — code points far from each other take three digits or more each.
-/

namespace Repeater.Idna.Punycode

-- ---------------------------------------------------------------------------
-- Digits and numbers
-- ---------------------------------------------------------------------------

theorem digitValue?_digitChar {d : Nat} (h : d < 36) : digitValue? (digitChar d) = some d := by
  revert d
  decide

/-- The characters that digits are written in: small letters and figures. -/
def IsDigit (c : Char) : Prop :=
  ('a' ≤ c ∧ c ≤ 'z') ∨ ('0' ≤ c ∧ c ≤ '9')

instance (c : Char) : Decidable (IsDigit c) :=
  inferInstanceAs (Decidable (_ ∨ _))

theorem isDigit_digitChar {d : Nat} (h : d < 36) : IsDigit (digitChar d) := by
  revert d
  decide

theorem threshold_pos (k bias : Nat) : 1 ≤ threshold k bias := by
  unfold threshold
  split
  · exact Nat.le_refl 1
  · split <;> omega

theorem threshold_le (k bias : Nat) : threshold k bias ≤ 26 := by
  unfold threshold
  split
  · omega
  · split <;> omega

/-- A number is read back, whatever follows it. -/
theorem decodeNumber_encodeNumber (bias fuel k q weight value : Nat) (rest : List Char)
    (h : q < 10 ^ fuel) :
    decodeNumber bias k weight value (encodeNumber bias (fuel + 1) k q ++ rest) =
      some (value + q * weight, rest) := by
  induction fuel generalizing k q weight value with
  | zero =>
    obtain rfl : q = 0 := by simpa using h
    have ht : 0 < threshold k bias := threshold_pos k bias
    have hd : digitValue? (digitChar 0) = some 0 := digitValue?_digitChar (by omega)
    rw [encodeNumber, if_pos ht, List.singleton_append, decodeNumber, hd]
    simp [ht]
  | succ fuel ih =>
    have ht := threshold_pos k bias
    have ht' := threshold_le k bias
    generalize htk : threshold k bias = t at ht ht'
    rw [encodeNumber, htk]
    by_cases hq : q < t
    · have hd : digitValue? (digitChar q) = some q := digitValue?_digitChar (by omega)
      rw [if_pos hq, List.singleton_append, decodeNumber, hd]
      simp [htk, hq]
    · have hmod : (q - t) % (36 - t) < 36 - t := Nat.mod_lt _ (by omega)
      have hd : digitValue? (digitChar (t + (q - t) % (36 - t))) = some (t + (q - t) % (36 - t)) :=
        digitValue?_digitChar (by omega)
      have hdiv : (q - t) / (36 - t) < 10 ^ fuel := by
        rw [Nat.div_lt_iff_lt_mul (by omega)]
        calc q - t ≤ q := Nat.sub_le q t
          _ < 10 ^ fuel * 10 := h
          _ ≤ 10 ^ fuel * (36 - t) := Nat.mul_le_mul_left _ (by omega)
      rw [if_neg hq, List.cons_append, decodeNumber, hd]
      simp only [htk, if_neg (show ¬t + (q - t) % (36 - t) < t by omega)]
      rw [ih _ _ _ _ hdiv]
      -- the digit and what is left make up the number
      have hsum : (q - t) % (36 - t) + (36 - t) * ((q - t) / (36 - t)) = q - t := Nat.mod_add_div _ _
      have hq' : q = t + ((q - t) % (36 - t) + (36 - t) * ((q - t) / (36 - t))) := by omega
      congr 2
      conv_rhs => rw [hq']
      ring

/-- A number consists of digits. -/
theorem isDigit_of_mem_encodeNumber {bias fuel k q : Nat} {c : Char}
    (h : c ∈ encodeNumber bias fuel k q) : IsDigit c := by
  induction fuel generalizing k q with
  | zero => cases h
  | succ fuel ih =>
    have ht := threshold_pos k bias
    have ht' := threshold_le k bias
    rw [encodeNumber] at h
    by_cases hq : q < threshold k bias
    · rw [if_pos hq, List.mem_singleton] at h
      subst h
      exact isDigit_digitChar (by omega)
    · have hmod : (q - threshold k bias) % (36 - threshold k bias) < 36 - threshold k bias :=
        Nat.mod_lt _ (by omega)
      rw [if_neg hq, List.mem_cons] at h
      rcases h with rfl | h
      · exact isDigit_digitChar (by omega)
      · exact ih h

/-- Reading a number takes something off the text. -/
theorem length_of_decodeNumber {bias k weight value delta : Nat} {s r : List Char}
    (h : decodeNumber bias k weight value s = some (delta, r)) : r.length < s.length := by
  induction s generalizing k weight value with
  | nil => cases h
  | cons c s ih =>
    rw [decodeNumber] at h
    cases hd : digitValue? c with
    | none => simp [hd] at h
    | some d =>
      simp only [hd] at h
      split at h
      · simp only [Option.some.injEq, Prod.mk.injEq] at h
        simp [h.2]
      · exact Nat.lt_succ_of_lt (ih h)

-- ---------------------------------------------------------------------------
-- Reading insertions
-- ---------------------------------------------------------------------------

/-- More fuel than characters makes no difference. -/
theorem decodeRest_fuel {n i bias f g : Nat} {label s : List Char} (hf : s.length < f)
    (hg : s.length < g) : decodeRest f n i bias label s = decodeRest g n i bias label s := by
  induction f generalizing g n i bias label s with
  | zero => exact absurd hf (Nat.not_lt_zero _)
  | succ f ih =>
    cases g with
    | zero => exact absurd hg (Nat.not_lt_zero _)
    | succ g =>
      cases s with
      | nil => rfl
      | cons c s =>
        simp only [decodeRest]
        cases hnum : decodeNumber bias 36 1 0 (c :: s) with
        | none => rfl
        | some p =>
          obtain ⟨delta, r⟩ := p
          have hr := length_of_decodeNumber hnum
          simp only
          split
          · exact ih (by omega) (by omega)
          · rfl

/-- The reader that holds `label` and is at `n` and `i` makes `out` of a text. -/
def Reads (n i bias : Nat) (label s out : List Char) : Prop :=
  decodeRest (s.length + 1) n i bias label s = some out

theorem reads_nil (n i bias : Nat) (label : List Char) : Reads n i bias label [] label :=
  rfl

/-- The reader takes the next number, inserts a character, and goes on. -/
theorem Reads.insert {n i bias delta : Nat} {label s r out : List Char} {c : Char}
    (hnum : decodeNumber bias 36 1 0 s = some (delta, r))
    (hn : n + (i + delta) / (label.length + 1) = c.toNat)
    (hr : Reads c.toNat ((i + delta) % (label.length + 1) + 1)
      (adapt delta (label.length + 1) (i == 0 && label.all (·.toNat < 0x80)))
      (label.take ((i + delta) % (label.length + 1)) ++
        c :: label.drop ((i + delta) % (label.length + 1))) r out) :
    Reads n i bias label s out := by
  have hlen := length_of_decodeNumber hnum
  cases s with
  | nil => simp at hlen
  | cons a s =>
    have hvalid : c.toNat.isValidChar := c.valid
    simp only [Reads, decodeRest, hnum, hn, if_pos hvalid, Char.ofNat_toNat]
    rw [decodeRest_fuel hlen (Nat.lt_succ_self r.length)]
    exact hr

-- ---------------------------------------------------------------------------
-- One pass of the writer
-- ---------------------------------------------------------------------------

/-- The characters that the reader holds while the writer looks at the code point `n`, with `behind`
passed already and `ahead` still to come. -/
def held (n : Nat) (behind ahead : List Char) : List Char :=
  behind.filter (·.toNat ≤ n) ++ ahead.filter (·.toNat < n)

/-- Writer and reader agree: the reader is at `m` and `i`, the writer looks at `n` and has `behind`
passed. What the writer has counted is the way from the one place to the other. -/
structure Tracks (n : Nat) (behind ahead : List Char) (w : Writing) (m i : Nat)
    (label : List Char) : Prop where
  label_eq : label = held n behind ahead
  count_eq : w.count = label.length
  first_eq : w.first = (i == 0 && label.all (·.toNat < 0x80))
  place_eq : m * (label.length + 1) + i + w.delta =
    n * (label.length + 1) + (behind.filter (·.toNat ≤ n)).length

/-- Where the reader gets to with the next number. -/
theorem Tracks.place {n m i : Nat} {behind ahead label : List Char} {w : Writing}
    (h : Tracks n behind ahead w m i label) :
    m + (i + w.delta) / (label.length + 1) = n ∧
      (i + w.delta) % (label.length + 1) = (behind.filter (·.toNat ≤ n)).length := by
  have hpos : (behind.filter (·.toNat ≤ n)).length < label.length + 1 := by
    rw [h.label_eq, held, List.length_append]
    omega
  have hp : (label.length + 1) * m + (i + w.delta) =
      (label.length + 1) * n + (behind.filter (·.toNat ≤ n)).length := by
    rw [Nat.mul_comm _ m, Nat.mul_comm _ n, ← h.place_eq, Nat.add_assoc]
  constructor
  · have hdiv := congrArg (· / (label.length + 1)) hp
    simp only [Nat.mul_add_div (Nat.succ_pos _), Nat.div_eq_of_lt hpos] at hdiv
    exact hdiv
  · have hmod := congrArg (· % (label.length + 1)) hp
    simp only [Nat.mul_add_mod, Nat.mod_eq_of_lt hpos] at hmod
    exact hmod

/-- The way is short enough for the digits that the writer has. -/
theorem Tracks.delta_lt {n m i : Nat} {behind ahead label : List Char} {w : Writing}
    (h : Tracks n behind ahead w m i label) (hn : n < 0x110000)
    (hlen : behind.length + ahead.length ≤ 1000) : w.delta < 10 ^ 63 := by
  have hb : (behind.filter (·.toNat ≤ n)).length ≤ behind.length := List.length_filter_le _ _
  have ha : (ahead.filter (·.toNat < n)).length ≤ ahead.length := List.length_filter_le _ _
  have hl : label.length ≤ 1000 := by
    rw [h.label_eq, held, List.length_append]
    omega
  have hp := h.place_eq
  have hmul : n * (label.length + 1) ≤ 0x110000 * 1001 := Nat.mul_le_mul (by omega) (by omega)
  calc w.delta ≤ 0x110000 * 1001 + 1000 := by omega
    _ < 10 ^ 63 := by decide

/-- The writer with its way put down. -/
def Writing.put (w : Writing) : Writing where
  delta := 0
  bias := adapt w.delta (w.count + 1) w.first
  count := w.count + 1
  first := false
  out := w.out ++ encodeNumber w.bias 64 36 w.delta

section Pass

variable {n m i : Nat} {c : Char} {behind ahead label : List Char} {w : Writing}

theorem encodePass_of_lt (h : c.toNat < n) :
    encodePass n (c :: ahead) w = encodePass n ahead { w with delta := w.delta + 1 } := by
  rw [encodePass, List.foldl_cons, if_pos h, encodePass]

theorem encodePass_of_eq (h : c.toNat = n) :
    encodePass n (c :: ahead) w = encodePass n ahead w.put := by
  rw [encodePass, List.foldl_cons, if_neg (Nat.not_lt_of_le h.ge), if_pos h, encodePass, Writing.put]

theorem encodePass_of_gt (h : n < c.toNat) :
    encodePass n (c :: ahead) w = encodePass n ahead w := by
  rw [encodePass, List.foldl_cons, if_neg (Nat.not_lt_of_gt h), if_neg (Nat.ne_of_gt h), encodePass]

/-- A lower character is held by the reader already, and its place is counted. -/
theorem Tracks.step_lt (h : Tracks n behind (c :: ahead) w m i label) (hc : c.toNat < n) :
    Tracks n (behind ++ [c]) ahead { w with delta := w.delta + 1 } m i label := by
  refine ⟨?_, h.count_eq, h.first_eq, ?_⟩
  · rw [h.label_eq]
    simp [held, List.filter_append, hc, Nat.le_of_lt hc]
  · have hp := h.place_eq
    simp only [List.filter_append, List.length_append]
    simp [Nat.le_of_lt hc]
    omega

/-- A higher character comes later. -/
theorem Tracks.step_gt (h : Tracks n behind (c :: ahead) w m i label) (hc : n < c.toNat) :
    Tracks n (behind ++ [c]) ahead w m i label := by
  refine ⟨?_, h.count_eq, h.first_eq, ?_⟩
  · rw [h.label_eq]
    simp [held, List.filter_append, Nat.not_lt_of_gt hc, Nat.not_le_of_gt hc]
  · rw [h.place_eq]
    simp [List.filter_append, Nat.not_le_of_gt hc]

/-- Behind the characters that are passed stands the one that the writer looks at. -/
theorem Tracks.insert_eq (h : Tracks n behind (c :: ahead) w m i label) (hc : c.toNat = n) :
    label.take (behind.filter (·.toNat ≤ n)).length ++
      c :: label.drop (behind.filter (·.toNat ≤ n)).length = held n (behind ++ [c]) ahead := by
  have hsplit : label = behind.filter (·.toNat ≤ n) ++ ahead.filter (·.toNat < n) := by
    rw [h.label_eq]
    simp [held, hc]
  rw [hsplit, List.take_left, List.drop_left]
  simp [held, List.filter_append, hc]

/-- The way to a character of the code point is put down, and the reader is behind that character. -/
theorem Tracks.step_eq (h : Tracks n behind (c :: ahead) w m i label) (hc : c.toNat = n) :
    Tracks n (behind ++ [c]) ahead w.put n ((behind.filter (·.toNat ≤ n)).length + 1)
      (held n (behind ++ [c]) ahead) := by
  refine ⟨rfl, ?_, by simp [Writing.put], ?_⟩
  · rw [← h.insert_eq hc, Writing.put, h.count_eq]
    simp only [List.length_append, List.length_cons, List.length_take, List.length_drop]
    omega
  · simp [Writing.put, List.filter_append, hc]

/-- Reading the way that was put down brings the reader there. -/
theorem Tracks.reads_put (h : Tracks n behind (c :: ahead) w m i label) (hc : c.toNat = n)
    (hn : n < 0x110000) (hlen : behind.length + (c :: ahead).length ≤ 1000) {s out : List Char}
    (hreads : Reads n ((behind.filter (·.toNat ≤ n)).length + 1) w.put.bias
      (held n (behind ++ [c]) ahead) s out) :
    Reads m i w.bias label (encodeNumber w.bias 64 36 w.delta ++ s) out := by
  obtain ⟨hquot, hrem⟩ := h.place
  have hnum := decodeNumber_encodeNumber w.bias 63 36 w.delta 1 0 s (h.delta_lt hn hlen)
  rw [Nat.zero_add, Nat.mul_one] at hnum
  refine Reads.insert hnum (hquot.trans hc.symm) ?_
  rw [hrem, h.insert_eq hc, hc, ← h.first_eq, ← h.count_eq]
  exact hreads

/-- One pass: the writer adds some digits, and reading these brings the reader to where the writer
then is. -/
theorem Tracks.encodePass (h : Tracks n behind ahead w m i label) (hn : n < 0x110000)
    (hlen : behind.length + ahead.length ≤ 1000) :
    ∃ m' i' label' digits,
      Tracks n (behind ++ ahead) [] (encodePass n ahead w) m' i' label' ∧
      (Punycode.encodePass n ahead w).out = w.out ++ digits ∧
      (∀ c ∈ digits, IsDigit c) ∧
      ∀ rest out, Reads m' i' (Punycode.encodePass n ahead w).bias label' rest out →
        Reads m i w.bias label (digits ++ rest) out := by
  induction ahead generalizing behind w m i label with
  | nil =>
    refine ⟨m, i, label, [], ?_, by simp [Punycode.encodePass], by simp, fun rest out hr => hr⟩
    rw [List.append_nil]
    exact h
  | cons c ahead ih =>
    have hlen' : (behind ++ [c]).length + ahead.length ≤ 1000 := by
      simp only [List.length_append, List.length_cons, List.length_nil] at hlen ⊢
      omega
    have happ : behind ++ [c] ++ ahead = behind ++ c :: ahead := by simp
    rw [← happ]
    rcases Nat.lt_trichotomy c.toNat n with hlt | heq | hgt
    · rw [encodePass_of_lt hlt]
      exact ih (h.step_lt hlt) hlen'
    · rw [encodePass_of_eq heq]
      obtain ⟨m', i', label', digits, htracks, hout, hdigits, hreads⟩ := ih (h.step_eq heq) hlen'
      refine ⟨m', i', label', encodeNumber w.bias 64 36 w.delta ++ digits, htracks, ?_, ?_, ?_⟩
      · rw [hout, Writing.put, List.append_assoc]
      · intro d hd
        rcases List.mem_append.1 hd with hd | hd
        · exact isDigit_of_mem_encodeNumber hd
        · exact hdigits d hd
      · intro rest out hr
        rw [List.append_assoc]
        exact h.reads_put heq hn hlen (hreads rest out hr)
    · rw [encodePass_of_gt hgt]
      exact ih (h.step_gt hgt) hlen'

end Pass

-- ---------------------------------------------------------------------------
-- All passes
-- ---------------------------------------------------------------------------

section Passes

variable {label : List Char} {n m i : Nat} {got : List Char} {w : Writing}

theorem toNat_lt (c : Char) : c.toNat < 0x110000 := by
  rcases c.valid with h | h
  · exact Nat.lt_trans h (by decide)
  · exact h.2

/-- Code points that the label does not have are passed over. -/
theorem Tracks.skip {next : Nat} (h : Tracks n [] label w m i got) (hle : n ≤ next)
    (hnone : ∀ c ∈ label, n ≤ c.toNat → next ≤ c.toNat) :
    Tracks next [] label { w with delta := w.delta + (next - n) * (w.count + 1) } m i got := by
  refine ⟨?_, h.count_eq, h.first_eq, ?_⟩
  · rw [h.label_eq, held, held, List.filter_nil, List.filter_nil, List.nil_append, List.nil_append]
    refine List.filter_congr fun c hc => ?_
    have := hnone c hc
    by_cases hn : c.toNat < n
    · simp [hn, Nat.lt_of_lt_of_le hn hle]
    · simp [hn, this (Nat.le_of_not_lt hn)]
  · have hp := h.place_eq
    obtain ⟨k, rfl⟩ := Nat.exists_eq_add_of_le hle
    simp only [List.filter_nil, List.length_nil, Nat.add_zero, Nat.add_sub_cancel_left] at hp ⊢
    rw [← Nat.add_assoc, hp, h.count_eq, Nat.add_mul]

/-- Behind the last character the next code point begins. -/
theorem Tracks.next (h : Tracks n label [] w m i got) :
    Tracks (n + 1) [] label { w with delta := w.delta + 1 } m i got := by
  have hgot : got = label.filter (·.toNat ≤ n) := by
    rw [h.label_eq]
    simp [held]
  refine ⟨?_, h.count_eq, h.first_eq, ?_⟩
  · rw [hgot, held, List.filter_nil, List.nil_append]
    exact List.filter_congr fun c _ => by rw [decide_eq_decide, Nat.lt_add_one_iff]
  · have hp := h.place_eq
    rw [← hgot] at hp
    simp only [List.filter_nil, List.length_nil, Nat.add_zero]
    rw [← Nat.add_assoc, hp]
    ring

/-- The writer behind the pass of the code point `m`, from `n` on. -/
def passed (label : List Char) (n m : Nat) (w : Writing) : Writing :=
  let w := encodePass m label { w with delta := w.delta + (m - n) * (w.count + 1) }
  { w with delta := w.delta + 1 }

/-- The least code point that is left is written next. -/
theorem encodeRest_of_min {label : List Char} {n m : Nat} (fuel : Nat) (w : Writing)
    (h : ((label.map Char.toNat).filter (n ≤ ·)).min? = some m) :
    encodeRest label (fuel + 1) n w = encodeRest label fuel (m + 1) (passed label n m w) := by
  rw [Punycode.encodeRest, h]
  rfl

/-- Behind a code point of the label, fewer characters are left. -/
theorem length_left_lt {k : Nat} (hk : k ∈ label.map Char.toNat) (hle : n ≤ k) :
    ((label.map Char.toNat).filter (k + 1 ≤ ·)).length <
      ((label.map Char.toNat).filter (n ≤ ·)).length := by
  have hsub : (label.map Char.toNat).filter (k + 1 ≤ ·) =
      ((label.map Char.toNat).filter (n ≤ ·)).filter (k + 1 ≤ ·) := by
    rw [List.filter_filter]
    refine List.filter_congr fun x _ => ?_
    by_cases hx : k + 1 ≤ x
    · simp [hx, Nat.le_trans hle (Nat.le_of_succ_le hx)]
    · simp [hx]
  have hmem : k ∈ (label.map Char.toNat).filter (n ≤ ·) :=
    List.mem_filter.2 ⟨hk, decide_eq_true hle⟩
  rw [hsub]
  exact List.length_filter_lt_length_iff_exists.2 ⟨k, hmem, by simp⟩

/-- What the writer puts down from here on makes the label of what the reader has got. -/
theorem Tracks.encodeRest (h : Tracks n [] label w m i got) (hlen : label.length ≤ 1000)
    {fuel : Nat} (hfuel : ((label.map Char.toNat).filter (n ≤ ·)).length < fuel) :
    ∃ digits, encodeRest label fuel n w = w.out ++ digits ∧ (∀ c ∈ digits, IsDigit c) ∧
      Reads m i w.bias got digits label := by
  induction fuel generalizing n m i got w with
  | zero => exact absurd hfuel (Nat.not_lt_zero _)
  | succ fuel ih =>
    cases hmin : ((label.map Char.toNat).filter (n ≤ ·)).min? with
    | none =>
      -- no character is left
      have hnil := List.min?_eq_none_iff.1 hmin
      have hall : ∀ c ∈ label, c.toNat < n := by
        intro c hc
        have := List.filter_eq_nil_iff.1 hnil c.toNat (List.mem_map_of_mem hc)
        simpa using this
      have hgot : got = label := by
        rw [h.label_eq, held, List.filter_nil, List.nil_append, List.filter_eq_self]
        simpa using hall
      refine ⟨[], by simp [Punycode.encodeRest, hmin], by simp, ?_⟩
      rw [hgot]
      exact reads_nil m i w.bias label
    | some next =>
      obtain ⟨hmem, hleast⟩ := List.min?_eq_some_iff.1 hmin
      obtain ⟨hcode, hle⟩ := List.mem_filter.1 hmem
      obtain ⟨c, hc, rfl⟩ := List.mem_map.1 hcode
      have hle' : n ≤ c.toNat := of_decide_eq_true hle
      have hnone : ∀ d ∈ label, n ≤ d.toNat → c.toNat ≤ d.toNat := fun d hd hnd =>
        hleast d.toNat (List.mem_filter.2 ⟨List.mem_map_of_mem hd, decide_eq_true hnd⟩)
      obtain ⟨m', i', got', digits, htracks, hout, hdigits, hreads⟩ :=
        (h.skip hle' hnone).encodePass (toNat_lt c) (by simpa using hlen)
      -- the next passes look at fewer characters
      have hfewer : ((label.map Char.toNat).filter (c.toNat + 1 ≤ ·)).length < fuel :=
        Nat.lt_of_lt_of_le (length_left_lt hcode hle') (Nat.le_of_lt_succ hfuel)
      obtain ⟨later, hout', hdigits', hreads'⟩ := ih htracks.next hfewer
      refine ⟨digits ++ later, ?_, ?_, ?_⟩
      · rw [encodeRest_of_min fuel w hmin, passed, hout', hout, List.append_assoc]
      · intro d hd
        rcases List.mem_append.1 hd with hd | hd
        · exact hdigits d hd
        · exact hdigits' d hd
      · exact hreads later label hreads'

end Passes

-- ---------------------------------------------------------------------------
-- Whole labels
-- ---------------------------------------------------------------------------

/-- The characters of a label that stand for themselves. -/
def basic (label : List Char) : List Char :=
  label.filter (·.toNat < 0x80)

/-- The writer before its first pass. -/
def Writing.start (label : List Char) : Writing where
  delta := 0
  bias := 72
  count := (basic label).length
  first := true
  out := if (basic label).isEmpty then [] else basic label ++ ['-']

/-- The basic characters stand in front, with a hyphen if there are any; then come the digits that make
the label of them. -/
theorem encode_eq {label : List Char} (h : label.length ≤ 1000) :
    ∃ digits, encode label = (if (basic label).isEmpty then [] else basic label ++ ['-']) ++ digits ∧
      (∀ c ∈ digits, IsDigit c) ∧ Reads 0x80 0 72 (basic label) digits label := by
  have hstart : Tracks 0x80 [] label (.start label) 0x80 0 (basic label) := by
    refine ⟨?_, rfl, ?_, rfl⟩
    · simp [held, basic]
    · simp [Writing.start, basic]
  refine hstart.encodeRest h ?_
  calc ((label.map Char.toNat).filter (0x80 ≤ ·)).length ≤ (label.map Char.toNat).length :=
        List.length_filter_le _ _
    _ < label.length + 1 := by simp

theorem ne_hyphen_of_isDigit {c : Char} (h : IsDigit c) : c ≠ '-' := by
  rintro rfl
  revert h
  decide

/-- The hyphen before the digits is the last one. -/
theorem dropWhile_reverse_of_digits {front digits : List Char} (h : ∀ c ∈ digits, IsDigit c) :
    ((front ++ digits).reverse.dropWhile (· != '-')) = front.reverse.dropWhile (· != '-') := by
  rw [List.reverse_append]
  refine List.dropWhile_append_of_pos fun c hc => ?_
  simpa using ne_hyphen_of_isDigit (h c (List.mem_reverse.1 hc))

/-- **Reading what was written gives the label again.** -/
theorem decode?_encode {label : List Char} (h : label.length ≤ 1000) :
    decode? (encode label) = some label := by
  obtain ⟨digits, hencode, hdigits, hreads⟩ := encode_eq h
  have hbasic : (basic label).all (·.toNat < 0x80) = true := by simp [basic]
  have hfuel {s : List Char} (hs : digits.length ≤ s.length) :
      decodeRest (s.length + 1) 0x80 0 72 (basic label) digits = some label := by
    rw [decodeRest_fuel (Nat.lt_succ_of_le hs) (Nat.lt_succ_self digits.length)]
    exact hreads
  rw [hencode, decode?, dropWhile_reverse_of_digits hdigits]
  by_cases he : (basic label).isEmpty
  · rw [if_pos he, List.nil_append]
    rw [List.isEmpty_iff] at he
    have hread := hfuel (Nat.le_refl digits.length)
    rw [he] at hread
    simpa using hread
  · rw [if_neg he, List.reverse_append]
    simp only [List.reverse_cons, List.reverse_nil, List.nil_append, List.singleton_append]
    rw [List.dropWhile_cons_of_neg (by simp)]
    simp only [List.length_reverse, List.reverse_reverse, hbasic, if_true]
    have hdrop : (basic label ++ ['-'] ++ digits).drop ((basic label).length + 1) = digits := by
      rw [← List.length_singleton (a := '-'), ← List.length_append, List.drop_left]
    rw [hdrop]
    refine hfuel ?_
    simp only [List.length_append, List.length_singleton]
    omega

/-- A written label consists of basic characters of the label, digits, and a hyphen. -/
theorem mem_encode {label : List Char} (h : label.length ≤ 1000) {c : Char} (hc : c ∈ encode label) :
    (c ∈ label ∧ c.toNat < 0x80) ∨ c = '-' ∨ IsDigit c := by
  obtain ⟨digits, hencode, hdigits, -⟩ := encode_eq h
  rw [hencode, List.mem_append] at hc
  rcases hc with hc | hc
  · by_cases he : (basic label).isEmpty
    · simp [he] at hc
    · rw [if_neg he, List.mem_append, List.mem_singleton] at hc
      rcases hc with hc | hc
      · exact .inl (by simpa [basic] using hc)
      · exact .inr (.inl hc)
  · exact .inr (.inr (hdigits c hc))

-- ---------------------------------------------------------------------------
-- What reading can make
-- ---------------------------------------------------------------------------

theorem toNat_ofNat {n : Nat} (h : n.isValidChar) : (Char.ofNat n).toNat = n := by
  rw [Char.ofNat, dif_pos h]
  exact BitVec.toNat_ofNatLT _ _

/-- Insertions are beyond ASCII: a basic character was there before. -/
theorem mem_of_decodeRest {fuel n i bias : Nat} {label s out : List Char} (hn : 0x80 ≤ n)
    (h : decodeRest fuel n i bias label s = some out) {c : Char} (hc : c ∈ out)
    (hbasic : c.toNat < 0x80) : c ∈ label := by
  induction fuel generalizing n i bias label s with
  | zero => cases h
  | succ fuel ih =>
    unfold decodeRest at h
    split at h
    · cases h
      exact hc
    · split at h
      · cases h
      · dsimp only at h
        split at h
        · rename_i hvalid
          have hmem := ih (Nat.le_trans hn (Nat.le_add_right ..)) h
          rw [List.mem_append, List.mem_cons] at hmem
          rcases hmem with hmem | rfl | hmem
          · exact List.mem_of_mem_take hmem
          · rw [toNat_ofNat hvalid] at hbasic
            exact absurd hbasic (Nat.not_lt.2 (Nat.le_trans hn (Nat.le_add_right ..)))
          · exact List.mem_of_mem_drop hmem
        · cases h

/-- The basic characters of a label that is read stand in the text. -/
theorem mem_of_decode? {s label : List Char} (h : decode? s = some label) {c : Char} (hc : c ∈ label)
    (hbasic : c.toNat < 0x80) : c ∈ s := by
  rw [decode?] at h
  split at h
  rename_i front rest hsplit
  split at h
  · have hfront := mem_of_decodeRest (Nat.le_refl _) h hc hbasic
    split at hsplit
    · cases hsplit
      cases hfront
    · rename_i before hbefore
      cases hsplit
      have hsuffix := List.dropWhile_suffix (l := s.reverse) (· != '-')
      rw [hbefore] at hsuffix
      exact List.mem_reverse.1 (hsuffix.subset (List.mem_cons_of_mem _ (List.mem_reverse.1 hfront)))
  · cases h

-- ---------------------------------------------------------------------------
-- How long a written label is
-- ---------------------------------------------------------------------------

/-- A number from 911 on has three digits or more, whatever the bias. -/
theorem length_encodeNumber {bias fuel k q : Nat} (h : 911 ≤ q) :
    3 ≤ (encodeNumber bias (fuel + 3) k q).length := by
  have hstep (fuel k q : Nat) (hq : 26 ≤ q) : (encodeNumber bias (fuel + 1) k q).length =
      (encodeNumber bias fuel (k + 36) ((q - threshold k bias) / (36 - threshold k bias))).length + 1 := by
    have := threshold_le k bias
    rw [encodeNumber, if_neg (by omega), List.length_cons]
  have hlast (fuel k q : Nat) : 1 ≤ (encodeNumber bias (fuel + 1) k q).length := by
    rw [encodeNumber]
    split <;> simp
  have hpos := threshold_pos k bias
  have hle := threshold_le k bias
  -- The second digit is no last one: with the least threshold, 910 is divided by 35.
  have hmore : 26 ≤ (q - threshold k bias) / (36 - threshold k bias) := by
    rw [Nat.le_div_iff_mul_le (by omega)]
    omega
  rw [hstep _ _ _ (by omega), hstep _ _ _ hmore]
  have := hlast fuel (k + 36 + 36)
    (((q - threshold k bias) / (36 - threshold k bias) - threshold (k + 36) bias) /
      (36 - threshold (k + 36) bias))
  omega

/-- A pass only adds to digits and count, and a far code point costs three digits. -/
theorem length_encodePass (n : Nat) (label : List Char) (w : Writing) :
    w.count ≤ (encodePass n label w).count ∧ w.out.length ≤ (encodePass n label w).out.length ∧
      (911 ≤ w.delta → n ∈ label.map Char.toNat →
        w.out.length + 3 ≤ (encodePass n label w).out.length) := by
  induction label generalizing w with
  | nil => exact ⟨Nat.le_refl _, Nat.le_refl _, fun _ h => absurd h List.not_mem_nil⟩
  | cons c label ih =>
    rcases Nat.lt_trichotomy c.toNat n with hlt | heq | hgt
    · rw [encodePass_of_lt hlt]
      obtain ⟨hcount, hout, hfar⟩ := ih { w with delta := w.delta + 1 }
      refine ⟨hcount, hout, fun hdelta hmem => hfar (Nat.le_succ_of_le hdelta) ?_⟩
      exact (List.mem_cons.1 hmem).resolve_left (Nat.ne_of_gt hlt)
    · rw [encodePass_of_eq heq]
      obtain ⟨hcount, hout, -⟩ := ih w.put
      simp only [Writing.put, List.length_append] at hcount hout
      refine ⟨by rw [Writing.put]; omega, by rw [Writing.put]; omega, fun hdelta _ => ?_⟩
      have : 3 ≤ (encodeNumber w.bias 64 36 w.delta).length := length_encodeNumber hdelta
      rw [Writing.put]
      omega
    · rw [encodePass_of_gt hgt]
      obtain ⟨hcount, hout, hfar⟩ := ih w
      refine ⟨hcount, hout, fun hdelta hmem => hfar hdelta ?_⟩
      exact (List.mem_cons.1 hmem).resolve_left (Nat.ne_of_lt hgt)

theorem length_passed (label : List Char) (n m : Nat) (w : Writing) :
    w.count ≤ (passed label n m w).count ∧ w.out.length ≤ (passed label n m w).out.length ∧
      (911 ≤ w.delta + (m - n) * (w.count + 1) → m ∈ label.map Char.toNat →
        w.out.length + 3 ≤ (passed label n m w).out.length) :=
  length_encodePass m label { w with delta := w.delta + (m - n) * (w.count + 1) }

theorem length_encodeRest_mono (label : List Char) (fuel n : Nat) (w : Writing) :
    w.out.length ≤ (encodeRest label fuel n w).length := by
  induction fuel generalizing n w with
  | zero => exact Nat.le_refl _
  | succ fuel ih =>
    cases hmin : ((label.map Char.toNat).filter (n ≤ ·)).min? with
    | none =>
      rw [Punycode.encodeRest, hmin]
    | some m =>
      rw [encodeRest_of_min fuel w hmin]
      exact (length_passed label n m w).2.1.trans (ih (m + 1) _)

/-- Every code point that is far from the last one takes three digits, once fifty characters stand. -/
theorem length_encodeRest {label : List Char} {fuel n : Nat} {w : Writing} {codes : List Nat}
    (hcount : 50 ≤ w.count) (hfuel : codes.length ≤ fuel)
    (hnear : ∀ p ∈ label.map Char.toNat, n ≤ p → n + 19 ≤ p)
    (hgap : ∀ p ∈ label.map Char.toNat, ∀ q ∈ label.map Char.toNat, p < q → p + 20 ≤ q)
    (hcodes : ∀ p ∈ codes, p ∈ label.map Char.toNat ∧ n ≤ p) (hsorted : codes.Pairwise (· < ·)) :
    w.out.length + 3 * codes.length ≤ (encodeRest label fuel n w).length := by
  induction fuel generalizing n w codes with
  | zero =>
    rw [List.length_eq_zero_iff.1 (Nat.le_zero.1 hfuel)]
    exact Nat.le_refl _
  | succ fuel ih =>
    cases codes with
    | nil => exact length_encodeRest_mono label (fuel + 1) n w
    | cons p codes =>
      obtain ⟨hp, hnp⟩ := hcodes p List.mem_cons_self
      have hmem : p ∈ (label.map Char.toNat).filter (n ≤ ·) :=
        List.mem_filter.2 ⟨hp, decide_eq_true hnp⟩
      cases hmin : ((label.map Char.toNat).filter (n ≤ ·)).min? with
      | none =>
        rw [List.min?_eq_none_iff] at hmin
        rw [hmin] at hmem
        cases hmem
      | some m =>
        obtain ⟨hm, hleast⟩ := List.min?_eq_some_iff.1 hmin
        obtain ⟨hmlabel, hnm⟩ := List.mem_filter.1 hm
        have hmp : m ≤ p := hleast p hmem
        have hfar : 911 ≤ w.delta + (m - n) * (w.count + 1) := by
          have hstep : 19 ≤ m - n := by
            have := hnear m hmlabel (of_decide_eq_true hnm)
            omega
          calc 911 ≤ 19 * 51 := by decide
            _ ≤ (m - n) * (w.count + 1) := Nat.mul_le_mul hstep (by omega)
            _ ≤ w.delta + (m - n) * (w.count + 1) := Nat.le_add_left _ _
        obtain ⟨hcount', -, hout⟩ := length_passed label n m w
        have hthree := hout hfar hmlabel
        rw [List.pairwise_cons] at hsorted
        have hrest := ih (n := m + 1) (hcount.trans hcount') (Nat.le_of_succ_le_succ hfuel)
          (fun q hq hmq => by have := hgap m hmlabel q hq hmq; omega)
          (fun q hq => ⟨(hcodes q (List.mem_cons_of_mem p hq)).1, by have := hsorted.1 q hq; omega⟩)
          hsorted.2
        rw [encodeRest_of_min fuel w hmin, List.length_cons]
        omega

/-- **Behind fifty basic characters, code points at least twenty apart take three digits each.** -/
theorem length_encode {label : List Char} {codes : List Nat} (hbasic : 50 ≤ (basic label).length)
    (hnear : ∀ p ∈ label.map Char.toNat, 0x80 ≤ p → 0x80 + 19 ≤ p)
    (hgap : ∀ p ∈ label.map Char.toNat, ∀ q ∈ label.map Char.toNat, p < q → p + 20 ≤ q)
    (hcodes : ∀ p ∈ codes, p ∈ label.map Char.toNat ∧ 0x80 ≤ p) (hsorted : codes.Pairwise (· < ·)) :
    3 * codes.length ≤ (encode label).length := by
  have hfuel : codes.length ≤ label.length + 1 := by
    have hsub : codes.Subperm (label.map Char.toNat) :=
      List.subperm_of_subset (hsorted.imp Nat.ne_of_lt) fun p hp => (hcodes p hp).1
    have := hsub.length_le
    rw [List.length_map] at this
    omega
  have hrest := length_encodeRest (w := .start label) hbasic hfuel hnear hgap hcodes hsorted
  exact Nat.le_trans (Nat.le_add_left _ _) hrest

end Repeater.Idna.Punycode
