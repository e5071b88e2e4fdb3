import Mathlib.Algebra.Ring.Nat
import Mathlib.Data.List.Induction
import Repeater.Duration
import Repeater.Proofs.Text.Split

/-!
# Sums of amounts

A duration is read as a sum of amounts, each of them a whole number of seconds or of nanoseconds. The sum is kept
as seconds and nanoseconds, so an amount can be out of range by itself although the sum is not; and the sum has
one way of leaving its range that is no refusal.

* `Fits`  — amounts whose sum is a duration, with no number out of range on the way;
* `Fills` — an amount of at most a second that brings such a sum to the limit of durations exactly.

## Results

* `addAll_eq_ok_iff`    — amounts are added up exactly if they fit, and then to their sum;
* `addAll_eq_carry_iff` — the fault of a carry is met exactly if one of them fills the sum of those before it.
-/

namespace Repeater.Duration

/-- A whole number of seconds or of nanoseconds. -/
structure Amount where
  inSeconds : Bool
  count : Nat
  deriving DecidableEq

/-- The length of an amount in nanoseconds. -/
def Amount.nanos (a : Amount) : Nat :=
  if a.inSeconds then a.count * 1000000000 else a.count

/-- The length of several amounts in nanoseconds. -/
def sum (as : List Amount) : Nat :=
  (as.map Amount.nanos).sum

/-- The least number of nanoseconds that is too long for a duration. -/
def limit : Nat := UInt64.size * 1000000000

/-- An amount can be added to a sum: nanoseconds are added to those that the sum has beyond its whole seconds, and
must make a number of 64 bits with them. -/
def Amount.Joins (a : Amount) (total : Nat) : Prop :=
  a.inSeconds = true ∨ total % 1000000000 + a.count ≤ wordMax

/-- Amounts whose sum is a duration, and of which each can be added to the sum of those before it. -/
structure Fits (as : List Amount) : Prop where
  joins : ∀ before a, before ++ [a] <+: as → a.Joins (sum before)
  sum_lt : sum as < limit

/-- An amount of nanoseconds, at most a second of them, that brings the sum of amounts before it to the limit. -/
structure Fills (before : List Amount) (a : Amount) : Prop where
  fits : Fits before
  inNanos : a.inSeconds = false
  count_le : a.count ≤ 1000000000
  sum_eq : sum before + a.count = limit

theorem sum_nil : sum [] = 0 :=
  rfl

theorem sum_concat (as : List Amount) (a : Amount) : sum (as ++ [a]) = sum as + a.nanos := by
  simp [sum]

theorem fits_nil : Fits [] := by
  constructor
  · intro before a h
    simp at h
  · decide

/-- With one more amount. -/
theorem fits_concat_iff {as : List Amount} {a : Amount} :
    Fits (as ++ [a]) ↔ Fits as ∧ a.Joins (sum as) ∧ sum as + a.nanos < limit := by
  constructor
  · intro h
    have hlt := h.sum_lt
    rw [sum_concat] at hlt
    refine ⟨⟨fun before b hb => h.joins before b (hb.trans (List.prefix_append as [a])), ?_⟩,
      h.joins as a (List.prefix_refl _), hlt⟩
    omega
  · rintro ⟨hfits, hjoins, hlt⟩
    refine ⟨fun before b hb => ?_, by rwa [sum_concat]⟩
    rcases List.prefix_concat_iff.1 hb with heq | hb
    · obtain ⟨rfl, hlast⟩ := List.append_inj' heq rfl
      obtain rfl := List.singleton_injective hlast
      exact hjoins
    · exact hfits.joins before b hb

-- ---------------------------------------------------------------------------
-- One amount
-- ---------------------------------------------------------------------------

theorem eq_of_total {d d' : Duration} (h : d.total = d'.total) : d = d' := by
  cases d
  cases d'
  simp_all

theorem add_eq_ok_iff {d d' : Duration} {secs ns : Nat} :
    d.add secs ns = .ok d' ↔ d.nanos + ns ≤ wordMax ∧ d.total + secs * 1000000000 + ns = d'.total := by
  unfold add
  split
  · rename_i hword
    split
    · rename_i hroom
      rw [Except.ok.injEq, and_iff_right hword]
      exact ⟨congrArg total, fun h => eq_of_total h⟩
    · rename_i hfull
      have hno : ¬d.total + secs * 1000000000 + ns = d'.total := by
        intro htotal
        exact hfull (htotal ▸ d'.total_lt)
      split <;> simp [hno]
  · rename_i hword
    simp [hword]

/-- Whole seconds are full, and the nanoseconds make exactly one more. -/
theorem add_eq_carry_iff {d : Duration} {secs ns : Nat} :
    d.add secs ns = .error .carry ↔ d.nanos + ns = 1000000000 ∧ d.seconds + secs = wordMax := by
  have hlt := d.total_lt
  have hsplit : d.total = d.seconds * 1000000000 + d.nanos := (Nat.div_add_mod' d.total 1000000000).symm
  have hsize : UInt64.size = wordMax + 1 := rfl
  unfold add
  split
  · split
    · rename_i hroom
      simp only [reduceCtorEq, false_iff]
      omega
    · rename_i hfull
      split
      · rename_i hcarry
        simp only [true_iff]
        omega
      · rename_i hcarry
        simp only [Except.error.injEq, reduceCtorEq, false_iff]
        omega
  · rename_i hword
    simp only [Except.error.injEq, reduceCtorEq, false_iff]
    unfold wordMax at *
    omega

/-- Adds an amount. -/
def plus (d : Duration) (a : Amount) : Except Fault Duration :=
  d.addParts a.inSeconds a.count

/-- An amount is added exactly if it joins the sum and leaves it in range. -/
theorem plus_eq_ok_iff {d d' : Duration} {a : Amount} :
    d.plus a = .ok d' ↔ a.Joins d.total ∧ d.total + a.nanos = d'.total := by
  have hnanos : d.nanos < 1000000000 := Nat.mod_lt _ (by decide)
  obtain ⟨inSeconds, n⟩ := a
  cases inSeconds with
  | true =>
    have hword : d.nanos + 0 ≤ wordMax := by
      unfold wordMax
      omega
    show d.add n 0 = .ok d' ↔ _
    rw [add_eq_ok_iff, and_iff_right hword, and_iff_right (.inl rfl), Nat.add_zero]
    simp only [Amount.nanos, if_true]
  | false =>
    show d.add 0 n = .ok d' ↔ _
    rw [add_eq_ok_iff, Nat.zero_mul, Nat.add_zero]
    simp [Amount.Joins, Amount.nanos, nanos]

/-- The fault of a carry is one of nanoseconds that meet the limit. -/
theorem plus_eq_carry_iff {d : Duration} {a : Amount} :
    d.plus a = .error .carry ↔ a.inSeconds = false ∧ a.count ≤ 1000000000 ∧ d.total + a.count = limit := by
  have hlt := d.total_lt
  have hnanos : d.nanos < 1000000000 := Nat.mod_lt _ (by decide)
  have hsplit : d.total = d.seconds * 1000000000 + d.nanos := (Nat.div_add_mod' d.total 1000000000).symm
  have hsize : UInt64.size = wordMax + 1 := rfl
  obtain ⟨inSeconds, n⟩ := a
  cases inSeconds with
  | true =>
    show d.add n 0 = .error .carry ↔ _
    rw [add_eq_carry_iff]
    simp only [Bool.true_eq_false, false_and, iff_false]
    omega
  | false =>
    show d.add 0 n = .error .carry ↔ _
    rw [add_eq_carry_iff, limit]
    simp only [true_and]
    omega

-- ---------------------------------------------------------------------------
-- Several amounts
-- ---------------------------------------------------------------------------

/-- Adds one amount after the other, up to one that is at fault itself. -/
def addAll (d : Duration) (steps : List (Except Fault Amount)) : Except Fault Duration :=
  steps.foldlM (fun d step => step >>= d.plus) d

theorem addAll_cons (d : Duration) (step : Except Fault Amount) (steps : List (Except Fault Amount)) :
    d.addAll (step :: steps) = (step >>= d.plus) >>= fun d => d.addAll steps := by
  simp [addAll]

theorem addAll_concat (d : Duration) (steps : List (Except Fault Amount)) (step : Except Fault Amount) :
    d.addAll (steps ++ [step]) = d.addAll steps >>= fun d => step >>= d.plus := by
  simp [addAll]

theorem addAll_append (d : Duration) (steps more : List (Except Fault Amount)) :
    d.addAll (steps ++ more) = d.addAll steps >>= fun d => d.addAll more := by
  simp [addAll]

/-- **Amounts are added up** exactly if none is at fault and they fit, and then to their sum. -/
theorem addAll_eq_ok_iff {steps : List (Except Fault Amount)} {d : Duration} :
    zero.addAll steps = .ok d ↔ ∃ as, steps = as.map .ok ∧ Fits as ∧ sum as = d.total := by
  induction steps using List.reverseRecOn generalizing d with
  | nil =>
    show Except.ok zero = .ok d ↔ _
    rw [Except.ok.injEq]
    constructor
    · rintro rfl
      exact ⟨[], rfl, fits_nil, rfl⟩
    · rintro ⟨as, has, -, hsum⟩
      rw [List.map_eq_nil_iff.1 has.symm] at hsum
      exact eq_of_total hsum
  | append_singleton steps step ih =>
    rw [addAll_concat, bind_eq_ok]
    constructor
    · rintro ⟨d₀, hsteps, hstep⟩
      obtain ⟨a, rfl, hplus⟩ := bind_eq_ok.1 hstep
      obtain ⟨as, rfl, hfits, hsum⟩ := ih.1 hsteps
      obtain ⟨hjoins, htotal⟩ := plus_eq_ok_iff.1 hplus
      rw [← hsum] at hjoins htotal
      refine ⟨as ++ [a], by simp, fits_concat_iff.2 ⟨hfits, hjoins, ?_⟩, by rw [sum_concat, htotal]⟩
      rw [htotal]
      exact d.total_lt
    · rintro ⟨as, has, hfits, hsum⟩
      obtain ⟨before, a, rfl⟩ : ∃ before a, as = before ++ [a] := by
        rcases List.eq_nil_or_concat' as with rfl | h
        · simp at has
        · exact h
      obtain ⟨hbefore, hjoins, -⟩ := fits_concat_iff.1 hfits
      rw [List.map_append, List.map_singleton] at has
      obtain ⟨rfl, hlast⟩ := List.append_inj' has rfl
      obtain rfl := List.singleton_injective hlast
      rw [sum_concat] at hsum
      refine ⟨⟨sum before, hbefore.sum_lt⟩, ih.2 ⟨before, rfl, hbefore, rfl⟩, ?_⟩
      rw [ok_bind, plus_eq_ok_iff]
      exact ⟨hjoins, hsum⟩

/-- **The fault of a carry** is met exactly if one of the amounts fills the sum of those before it; what comes
after it does not matter. -/
theorem addAll_eq_carry_iff {steps : List (Except Fault Amount)} (hsteps : Except.error Fault.carry ∉ steps) :
    zero.addAll steps = .error .carry ↔
      ∃ before a, (before ++ [a]).map .ok <+: steps ∧ Fills before a := by
  induction steps using List.reverseRecOn with
  | nil =>
    show Except.ok zero = .error Fault.carry ↔ _
    simp
  | append_singleton steps step ih =>
    rw [List.mem_append, not_or, List.mem_singleton] at hsteps
    have ih := ih hsteps.1
    have hsplit : zero.addAll (steps ++ [step]) = .error .carry ↔
        zero.addAll steps = .error .carry ∨
          ∃ d a, zero.addAll steps = .ok d ∧ step = .ok a ∧ d.plus a = .error .carry := by
      rw [addAll_concat]
      cases zero.addAll steps with
      | error e => simp [bind, Except.bind]
      | ok d =>
        cases step with
        | error e => simpa [bind, Except.bind, eq_comm] using hsteps.2
        | ok a => simp [bind, Except.bind]
    rw [hsplit, ih]
    constructor
    · rintro (⟨before, a, hprefix, hfills⟩ | ⟨d, a, hd, rfl, hplus⟩)
      · exact ⟨before, a, hprefix.trans (List.prefix_append steps [step]), hfills⟩
      · obtain ⟨before, rfl, hfits, hsum⟩ := addAll_eq_ok_iff.1 hd
        obtain ⟨hnanos, hle, hfull⟩ := plus_eq_carry_iff.1 hplus
        rw [← hsum] at hfull
        exact ⟨before, a, by simp, hfits, hnanos, hle, hfull⟩
    · rintro ⟨before, a, hprefix, hfills⟩
      rcases List.prefix_concat_iff.1 hprefix with heq | hprefix
      · right
        rw [List.map_append, List.map_singleton] at heq
        obtain ⟨rfl, hlast⟩ := List.append_inj' heq rfl
        obtain rfl := List.singleton_injective hlast
        exact ⟨⟨sum before, hfills.fits.sum_lt⟩, a, addAll_eq_ok_iff.2 ⟨before, rfl, hfills.fits, rfl⟩, rfl,
          plus_eq_carry_iff.2 ⟨hfills.inNanos, hfills.count_le, hfills.sum_eq⟩⟩
      · exact .inl ⟨before, a, hprefix, hfills⟩

end Repeater.Duration
