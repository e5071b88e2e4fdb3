import Mathlib.Algebra.Order.Field.Rat
import Mathlib.Data.Nat.Cast.Field
import Mathlib.Tactic.NormNum
import Mathlib.Tactic.Ring
import Repeater.Proofs.Duration.Spans

/-!
# Durations as they are written

What a text means as a duration, said without its reader: it is written as spans (`Spells`), their numbers are in
range, and the duration is as long as the spans are together, each of them its number times the length of its
unit (`Denotes`). Some texts start with spans that reach the limit of durations exactly (`Overfills`).

## Results

* `run_cases`          — a text is blank, or starts with a span, or is refused without the fault of a carry;
* `run_eq_ok_iff`      — what is read without a fault, as a list of spans;
* `sum_steps`          — the steps of spans add up to the length of the spans;
* `parse_eq_ok_iff`    — a text is read as the duration that it denotes;
* `parse_eq_carry_iff` — the fault of a carry is met by the texts that overfill.
-/

namespace Repeater.Duration

-- ---------------------------------------------------------------------------
-- What a text starts with
-- ---------------------------------------------------------------------------

/-- A text was refused, without the fault of a carry. -/
def IsRefused (x : Except Fault Duration) : Prop :=
  ∃ e, e ≠ .carry ∧ x = .error e

theorem isRefused_malformed : IsRefused (.error .malformed) :=
  ⟨.malformed, nofun, rfl⟩

theorem isRefused_ite {p : Prop} [Decidable p] {x : Except Fault Duration} (h : IsRefused x) :
    IsRefused (if p then x else .error .outOfRange) := by
  split
  · exact h
  · exact ⟨.outOfRange, nofun, rfl⟩

/-- After the first letter of a unit the rest of its name follows, and then what may follow it. -/
theorem name_cases (r : List Char) :
    ∃ name rest, r = name ++ rest ∧ (∀ c ∈ name, isUnitChar c = true) ∧
      (EndsName rest ∨ ∀ d n part before, IsRefused ((Reading.unit n part before).run d r)) := by
  obtain ⟨name, rest, rfl, hname, hrest⟩ := Text.exists_front isUnitChar r
  refine ⟨name, rest, rfl, hname, ?_⟩
  cases rest with
  | nil => exact .inl (by simp [EndsName])
  | cons c rest =>
    have hletter : isUnitChar c = false := hrest c rfl
    cases hfigure : isFigure c with
    | true => exact .inl (by simpa [EndsName] using hfigure)
    | false =>
      right
      intro d n part before
      rw [isFigure, Bool.or_eq_false_iff] at hfigure
      have hstep (before : List Char) : (Reading.unit n part before).step d c = .error .malformed := by
        simp [Reading.step, hfigure, hletter]
      rw [Reading.run_name hname, Reading.run_cons_error (hstep _)]
      exact isRefused_malformed

/-- After a point digits follow, and then a unit. -/
theorem part_cases (r : List Char) :
    (∃ w name rest, r = w ++ (name ++ rest) ∧ (∀ c ∈ w, isFigure c = true) ∧ digits w ≠ [] ∧
      (∀ c ∈ name, isUnitChar c = true) ∧ name ≠ [] ∧ EndsName rest) ∨
      ∀ d n, IsRefused ((Reading.fraction n 0 1).run d r) := by
  obtain ⟨w, rest, rfl, hw, hrest⟩ := Text.exists_front isFigure r
  -- what is read of the digits, where what follows them is refused
  have hrun (h : ∀ d n, IsRefused ((Reading.fraction n (numberOn 0 w) (scale w)).run d rest)) (d : Duration)
      (n : Nat) : IsRefused ((Reading.fraction n 0 1).run d (w ++ rest)) := by
    rw [Reading.run_part (Nat.zero_le _) (by decide) hw, Nat.one_mul]
    exact isRefused_ite (h d n)
  cases rest with
  | nil => exact .inr (hrun fun d n => isRefused_malformed)
  | cons c rest =>
    have hfigure : isFigure c = false := hrest c rfl
    rw [isFigure, Bool.or_eq_false_iff] at hfigure
    have hstep (d : Duration) (n : Nat) : (Reading.fraction n (numberOn 0 w) (scale w)).step d c =
        if isUnitChar c then
          if scale w = 1 then .error .malformed else .ok (d, .unit n (some (numberOn 0 w, scale w)) [c])
        else .error .malformed := by
      simp [Reading.step, hfigure]
    cases hletter : isUnitChar c with
    | false =>
      refine .inr (hrun fun d n => ?_)
      have hbad := hstep d n
      rw [hletter] at hbad
      rw [Reading.run_cons_error hbad]
      exact isRefused_malformed
    | true =>
      by_cases hdigits : digits w = []
      · have hone : scale w = 1 := by rw [scale, hdigits]; rfl
        refine .inr (hrun fun d n => ?_)
        have hbad := hstep d n
        rw [hletter, if_pos rfl, if_pos hone] at hbad
        rw [Reading.run_cons_error hbad]
        exact isRefused_malformed
      · obtain ⟨name, rest, rfl, hname, hends | hrefused⟩ := name_cases rest
        · exact .inl ⟨w, c :: name, rest, rfl, hw, hdigits, by simpa [hletter] using hname, by simp, hends⟩
        · refine .inr (hrun fun d n => ?_)
          have hgood := hstep d n
          rw [hletter, if_pos rfl, if_neg (scale_ne_one hdigits)] at hgood
          rw [Reading.run_cons hgood]
          exact hrefused d n _ _

/-- After the digits of a number a point may follow, and then a unit. -/
theorem number_cases {r : List Char} (hr : ∀ c ∈ r.head?, isFigure c = false) :
    (∃ (part : Option (List Char)) (name rest : List Char), r = part.elim [] ('.' :: ·) ++ (name ++ rest) ∧
      (∀ w ∈ part, (∀ c ∈ w, isFigure c = true) ∧ digits w ≠ []) ∧
      (∀ c ∈ name, isUnitChar c = true) ∧ name ≠ [] ∧ EndsName rest) ∨
      ∀ d n, IsRefused ((Reading.number n).run d r) := by
  cases r with
  | nil => exact .inr fun d n => isRefused_malformed
  | cons c r =>
    have hfigure : isFigure c = false := hr c rfl
    rw [isFigure, Bool.or_eq_false_iff] at hfigure
    cases hletter : isUnitChar c with
    | true =>
      have hstep (d : Duration) (n : Nat) : (Reading.number n).step d c = .ok (d, .unit n none [c]) := by
        simp [Reading.step, hfigure, hletter]
      obtain ⟨name, rest, rfl, hname, hends | hrefused⟩ := name_cases r
      · exact .inl ⟨none, c :: name, rest, rfl, by simp, by simpa [hletter] using hname, by simp, hends⟩
      · refine .inr fun d n => ?_
        rw [Reading.run_cons (hstep d n)]
        exact hrefused d n _ _
    | false =>
      by_cases hpoint : c = '.'
      · subst hpoint
        have hstep (d : Duration) (n : Nat) : (Reading.number n).step d '.' = .ok (d, .fraction n 0 1) := rfl
        rcases part_cases r with ⟨w, name, rest, rfl, hw, hdigits, hname, hne, hends⟩ | hrefused
        · exact .inl ⟨some w, name, rest, rfl, by simpa using ⟨hw, hdigits⟩, hname, hne, hends⟩
        · refine .inr fun d n => ?_
          rw [Reading.run_cons (hstep d n)]
          exact hrefused d n
      · refine .inr fun d n => ?_
        have hstep : (Reading.number n).step d c = .error .malformed := by
          simp [Reading.step, hfigure, hletter, hpoint]
        rw [Reading.run_cons_error hstep]
        exact isRefused_malformed

/-- **What a text starts with**: it is blank, or starts with a span, or is refused without the fault of a carry. -/
theorem run_cases (t : List Char) :
    (∀ c ∈ t, Text.isBlank c = true) ∨
      (∃ s r, Span.IsSpelled s ∧ EndsName r ∧ t = s.text ++ r) ∨
      ∀ d, IsRefused (Reading.between.run d t) := by
  obtain ⟨lead, rest, rfl, hlead, hrest⟩ := Text.exists_front Text.isBlank t
  cases rest with
  | nil => exact .inl (by simpa using hlead)
  | cons first rest =>
    have hblank : Text.isBlank first = false := hrest first rfl
    right
    cases hfirst : first.isDigit with
    | false =>
      right
      intro d
      have hstep : Reading.between.step d first = .error .malformed := by simp [Reading.step, hfirst, hblank]
      rw [Reading.run_lead hlead, Reading.run_cons_error hstep]
      exact isRefused_malformed
    | true =>
      obtain ⟨w, rest, rfl, hw, hrest⟩ := Text.exists_front isFigure rest
      have hwhole : ∀ c ∈ first :: w, isFigure c = true := by simpa [isFigure, hfirst] using hw
      rcases number_cases hrest with ⟨part, name, rest, rfl, hpart, hname, hne, hends⟩ | hrefused
      · left
        refine ⟨⟨lead, first :: w, part, name⟩, rest, ?_, hends, by simp [Span.text]⟩
        exact ⟨hlead, hwhole, ⟨first, rfl, hfirst⟩, hpart, hname, hne⟩
      · right
        intro d
        rw [run_number hlead hfirst hw]
        exact isRefused_ite (hrefused d _)

-- ---------------------------------------------------------------------------
-- Lists of spans
-- ---------------------------------------------------------------------------

/-- A text is written as spans with a rest behind them. -/
structure Spells (t : List Char) (spans : List Span) (rest : List Char) : Prop where
  text_eq : t = spans.flatMap Span.text ++ rest
  spelled : ∀ s ∈ spans, s.IsSpelled

/-- A span may follow the name of a unit. -/
theorem Span.IsSpelled.endsName {s : Span} (hs : s.IsSpelled) (r : List Char) : EndsName (s.text ++ r) := by
  intro c hc
  obtain ⟨first, hfirst, hdigit⟩ := hs.first
  obtain ⟨w, hwhole⟩ := List.head?_eq_some_iff.1 hfirst
  cases hlead : s.lead with
  | nil =>
    rw [Span.text, hlead, hwhole] at hc
    obtain rfl : first = c := by simpa using hc
    simp [isFigure, hdigit]
  | cons b lead =>
    rw [Span.text, hlead] at hc
    obtain rfl : b = c := by simpa using hc
    simp [isFigure, hs.lead b (hlead ▸ List.mem_cons_self)]

theorem Span.IsSpelled.text_ne_nil {s : Span} (hs : s.IsSpelled) : s.text ≠ [] := by
  intro hnil
  simp only [Span.text, List.append_eq_nil_iff] at hnil
  exact hs.named hnil.2.2.2

theorem endsName_of_blank {r : List Char} (hr : ∀ c ∈ r, Text.isBlank c = true) : EndsName r := by
  intro c hc
  simp [isFigure, hr c (List.mem_of_mem_head? hc)]

/-- Reading spans adds their steps. -/
theorem run_spans {t : List Char} {spans : List Span} {rest : List Char} (h : Spells t spans rest)
    (hends : spans ≠ [] → EndsName rest) (d : Duration) :
    Reading.between.run d t =
      d.addAll (spans.flatMap Span.steps) >>= fun d => Reading.between.run d rest := by
  obtain ⟨rfl, hspelled⟩ := h
  induction spans generalizing d with
  | nil => rfl
  | cons s spans ih =>
    have hrest := hends (List.cons_ne_nil s spans)
    have hnext : EndsName (spans.flatMap Span.text ++ rest) := by
      cases spans with
      | nil => exact hrest
      | cons next spans =>
        rw [List.flatMap_cons, List.append_assoc]
        exact (hspelled next (by simp)).endsName _
    have ih (d : Duration) := ih (fun _ => hrest) d fun s hs => hspelled s (List.mem_cons_of_mem _ hs)
    rw [List.flatMap_cons, List.append_assoc, run_text (hspelled s List.mem_cons_self) hnext, List.flatMap_cons,
      addAll_append, bind_assoc]
    simp only [ih]

/-- A text is written as spans as far as it goes: behind them it is blank, or refused without the fault of a
carry. -/
theorem exists_spans (t : List Char) :
    ∃ spans rest, Spells t spans rest ∧ (spans ≠ [] → EndsName rest) ∧
      ((∀ c ∈ rest, Text.isBlank c = true) ∨ ∀ d, IsRefused (Reading.between.run d rest)) := by
  induction hn : t.length using Nat.strongRecOn generalizing t with
  | ind n ih =>
    rcases run_cases t with hblank | ⟨s, r, hs, hends, rfl⟩ | hrefused
    · exact ⟨[], t, ⟨rfl, by simp⟩, by simp, .inl hblank⟩
    · have hshorter : r.length < n := by
        have hpos := List.length_pos_iff.2 hs.text_ne_nil
        rw [List.length_append] at hn
        omega
      obtain ⟨spans, rest, ⟨rfl, hspelled⟩, hrest, hcases⟩ := ih _ hshorter r rfl
      refine ⟨s :: spans, rest, ⟨by simp, ?_⟩, fun _ => ?_, hcases⟩
      · intro s' hs'
        rcases List.mem_cons.1 hs' with rfl | hs'
        · exact hs
        · exact hspelled s' hs'
      · cases spans with
        | nil => simpa using hends
        | cons next spans => exact hrest (List.cons_ne_nil next spans)
    · exact ⟨[], t, ⟨rfl, by simp⟩, by simp, .inr hrefused⟩

/-- **A text is read without a fault** exactly if it is written as spans, with blanks behind them, whose steps can
be added. -/
theorem run_eq_ok_iff {t : List Char} {d d' : Duration} :
    Reading.between.run d t = .ok d' ↔
      ∃ spans rest, Spells t spans rest ∧ (∀ c ∈ rest, Text.isBlank c = true) ∧
        d.addAll (spans.flatMap Span.steps) = .ok d' := by
  have hblank {rest : List Char} (h : ∀ c ∈ rest, Text.isBlank c = true) (d : Duration) :
      Reading.between.run d rest = .ok d := by
    have hlead := Reading.run_lead (d := d) h []
    rwa [List.append_nil] at hlead
  constructor
  · intro h
    obtain ⟨spans, rest, hspells, hends, hrest | hrest⟩ := exists_spans t
    · rw [run_spans hspells hends, bind_eq_ok] at h
      obtain ⟨d₁, hadd, hrun⟩ := h
      rw [hblank hrest, Except.ok.injEq] at hrun
      exact ⟨spans, rest, hspells, hrest, hrun ▸ hadd⟩
    · rw [run_spans hspells hends, bind_eq_ok] at h
      obtain ⟨d₁, -, hrun⟩ := h
      obtain ⟨e, -, he⟩ := hrest d₁
      rw [he] at hrun
      cases hrun
  · rintro ⟨spans, rest, hspells, hrest, hadd⟩
    rw [run_spans hspells (fun _ => endsName_of_blank hrest), hadd, ok_bind, hblank hrest]

/-- **A text is read with the fault of a carry** exactly if the steps of spans that it starts with have it. -/
theorem run_eq_carry_iff {t : List Char} {d : Duration} :
    Reading.between.run d t = .error .carry ↔
      ∃ spans rest, Spells t spans rest ∧ EndsName rest ∧
        d.addAll (spans.flatMap Span.steps) = .error .carry := by
  constructor
  · intro h
    obtain ⟨spans, rest, hspells, hends, hrest⟩ := exists_spans t
    rw [run_spans hspells hends] at h
    cases hadd : d.addAll (spans.flatMap Span.steps) with
    | ok d₁ =>
      rw [hadd, ok_bind] at h
      rcases hrest with hrest | hrest
      · have hlead := Reading.run_lead (d := d₁) hrest []
        rw [List.append_nil, h] at hlead
        cases hlead
      · obtain ⟨e, hne, he⟩ := hrest d₁
        rw [h, Except.error.injEq] at he
        exact absurd he.symm hne
    | error e =>
      rw [hadd] at h
      have hne : spans ≠ [] := by
        rintro rfl
        cases hadd
      exact ⟨spans, rest, hspells, hends hne, by rw [hadd]; exact h⟩
  · rintro ⟨spans, rest, hspells, hends, hadd⟩
    rw [run_spans hspells (fun _ => hends), hadd]
    rfl

-- ---------------------------------------------------------------------------
-- Lengths
-- ---------------------------------------------------------------------------

/-- The length of a unit in nanoseconds: a month is 30.44 days and a year 365.25. -/
def TimeUnit.nanos : TimeUnit → ℚ
  | .nanosecond => 1
  | .microsecond => 10 ^ 3
  | .millisecond => 10 ^ 6
  | .second => 10 ^ 9
  | .minute => 60 * 10 ^ 9
  | .hour => 60 * 60 * 10 ^ 9
  | .day => 24 * 60 * 60 * 10 ^ 9
  | .week => 7 * 24 * 60 * 60 * 10 ^ 9
  | .month => 30.44 * 24 * 60 * 60 * 10 ^ 9
  | .year => 365.25 * 24 * 60 * 60 * 10 ^ 9

/-- The length of a span in nanoseconds: its number, with the fraction behind the point, times its unit. -/
def Span.nanos (s : Span) : ℚ :=
  (s.number + s.part.elim 0 fun w => (numberOn 0 w / scale w : ℚ)) *
    (TimeUnit.ofName? s.name).elim 0 TimeUnit.nanos

theorem nanos_of_share {size : Bool × Nat} {n m : Nat} {a : Amount} (h : share (some size) n m = .ok a)
    (hm : m ≠ 0) : (a.nanos : ℚ) = n / m * (Amount.mk size.1 size.2).nanos := by
  obtain ⟨inSeconds, count⟩ := size
  rw [share] at h
  split at h
  · rename_i hwhole
    rw [Except.ok.injEq] at h
    have hcast : ((n * count / m : Nat) : ℚ) = n * count / m := by
      rw [Nat.cast_div hwhole.2 (by exact_mod_cast hm), Nat.cast_mul]
    rw [← h]
    cases inSeconds with
    | true =>
      show ((n * count / m * 1000000000 : Nat) : ℚ) = n / m * ((count * 1000000000 : Nat) : ℚ)
      rw [Nat.cast_mul, hcast, Nat.cast_mul]
      ring
    | false =>
      show ((n * count / m : Nat) : ℚ) = n / m * (count : ℚ)
      rw [hcast]
      ring
  · cases h

theorem nanos_size (u : TimeUnit) : ((Amount.mk u.size.1 u.size.2).nanos : ℚ) = u.nanos := by
  cases u <;> norm_num [TimeUnit.size, TimeUnit.nanos, Amount.nanos]

theorem nanos_fractionSize {u : TimeUnit} {size : Bool × Nat} (h : u.fractionSize = some size) :
    ((Amount.mk size.1 size.2).nanos : ℚ) = u.nanos := by
  cases u <;> simp only [TimeUnit.fractionSize, reduceCtorEq, Option.some.injEq] at h <;> subst h <;>
    norm_num [TimeUnit.size, TimeUnit.nanos, Amount.nanos]

/-- The steps of a span add up to its length. -/
theorem Span.sum_steps {s : Span} {as : List Amount} (h : s.steps = as.map .ok) : (sum as : ℚ) = s.nanos := by
  rw [Span.steps] at h
  split at h
  · cases hunit : TimeUnit.ofName? s.name with
    | none => cases as <;> simp [hunit] at h
    | some unit =>
      rw [hunit] at h
      obtain ⟨a, more, rfl, hwhole, hmore⟩ := List.map_eq_cons_iff.1 h.symm
      have ha := nanos_of_share hwhole.symm Nat.one_ne_zero
      rw [nanos_size, Nat.cast_one, div_one] at ha
      cases hpart : s.part with
      | none =>
        rw [hpart] at hmore
        obtain rfl := List.map_eq_nil_iff.1 hmore
        simp [sum, Span.nanos, hunit, hpart, ha]
      | some w =>
        rw [hpart] at hmore
        obtain ⟨b, rest, rfl, hb, hrest⟩ := List.map_eq_cons_iff.1 hmore
        obtain rfl := List.map_eq_nil_iff.1 hrest
        cases hsize : unit.fractionSize with
        | none => simp [hsize, share] at hb
        | some size =>
          rw [hsize] at hb
          have hb := nanos_of_share hb.symm (Nat.ne_of_gt (scale_pos w))
          rw [nanos_fractionSize hsize] at hb
          simp only [sum, List.map_cons, List.map_nil, List.sum_cons, List.sum_nil, Nat.add_zero, Nat.cast_add, ha,
            hb, Span.nanos, hunit, hpart, Option.elim_some]
          ring
  · cases as <;> simp at h

/-- The steps of spans add up to their length. -/
theorem sum_steps {spans : List Span} {as : List Amount} (h : spans.flatMap Span.steps = as.map .ok) :
    (sum as : ℚ) = (spans.map Span.nanos).sum := by
  induction spans generalizing as with
  | nil =>
    obtain rfl := List.map_eq_nil_iff.1 h.symm
    rfl
  | cons s spans ih =>
    rw [List.flatMap_cons] at h
    obtain ⟨front, back, rfl, hfront, hback⟩ := List.map_eq_append_iff.1 h.symm
    rw [sum, List.map_append, List.sum_append, Nat.cast_add, List.map_cons, List.sum_cons, ← ih hback.symm,
      ← Span.sum_steps hfront.symm]
    rfl

-- ---------------------------------------------------------------------------
-- What a text denotes
-- ---------------------------------------------------------------------------

/-- What a text denotes: a lone zero is no time at all, and spans are as long as they are together. Their amounts
must be in range one after the other. -/
inductive Denotes (t : List Char) (d : Duration) : Prop
  | nought (htext : t = ['0']) (htotal : d.total = 0)
  | spans {spans : List Span} {rest : List Char} {as : List Amount} (hspells : Spells t spans rest)
      (hblank : ∀ c ∈ rest, Text.isBlank c = true) (hne : spans ≠ [])
      (hsteps : spans.flatMap Span.steps = as.map .ok) (hfits : Fits as)
      (htotal : (d.total : ℚ) = (spans.map Span.nanos).sum)

/-- A text starts with spans of which one amount brings the sum of those before it to the limit of durations
exactly, and is at most a second in a unit that is counted in nanoseconds. -/
def Overfills (t : List Char) : Prop :=
  ∃ spans rest before a, Spells t spans rest ∧ EndsName rest ∧
    (before ++ [a]).map .ok <+: spans.flatMap Span.steps ∧ Fills before a

theorem run_eq_ok_iff_of_zero {t : List Char} {d : Duration} :
    Reading.between.run zero t = .ok d ↔
      ∃ spans rest as, Spells t spans rest ∧ (∀ c ∈ rest, Text.isBlank c = true) ∧
        spans.flatMap Span.steps = as.map .ok ∧ Fits as ∧ (d.total : ℚ) = (spans.map Span.nanos).sum := by
  rw [run_eq_ok_iff]
  constructor
  · rintro ⟨spans, rest, hspells, hblank, hadd⟩
    obtain ⟨as, hsteps, hfits, hsum⟩ := addAll_eq_ok_iff.1 hadd
    exact ⟨spans, rest, as, hspells, hblank, hsteps, hfits, by rw [← hsum, sum_steps hsteps]⟩
  · rintro ⟨spans, rest, as, hspells, hblank, hsteps, hfits, htotal⟩
    rw [← sum_steps hsteps] at htotal
    exact ⟨spans, rest, hspells, hblank, addAll_eq_ok_iff.2 ⟨as, hsteps, hfits, by exact_mod_cast htotal.symm⟩⟩

theorem run_eq_carry_iff_of_zero {t : List Char} :
    Reading.between.run zero t = .error .carry ↔ Overfills t := by
  have hnone (spans : List Span) : Except.error Fault.carry ∉ spans.flatMap Span.steps := by
    intro h
    obtain ⟨s, -, hs⟩ := List.mem_flatMap.1 h
    exact s.carry_notMem_steps hs
  rw [run_eq_carry_iff, Overfills]
  constructor
  · rintro ⟨spans, rest, hspells, hends, hadd⟩
    obtain ⟨before, a, hprefix, hfills⟩ := (addAll_eq_carry_iff (hnone spans)).1 hadd
    exact ⟨spans, rest, before, a, hspells, hends, hprefix, hfills⟩
  · rintro ⟨spans, rest, before, a, hspells, hends, hprefix, hfills⟩
    exact ⟨spans, rest, hspells, hends, (addAll_eq_carry_iff (hnone spans)).2 ⟨before, a, hprefix, hfills⟩⟩

/-- A text with a span is not blank. -/
theorem Spells.not_blank {t : List Char} {spans : List Span} {rest : List Char} (h : Spells t spans rest)
    (hne : spans ≠ []) : ¬∀ c ∈ t, Text.isBlank c = true := by
  intro hblank
  obtain ⟨s, more, rfl⟩ := List.exists_cons_of_ne_nil hne
  obtain ⟨c, hc, hdigit⟩ := (h.spelled s List.mem_cons_self).first
  have hmem : c ∈ t := by
    rw [h.text_eq]
    simp [Span.text, List.mem_of_mem_head? hc]
  rw [isDigit_of_isBlank (hblank c hmem)] at hdigit
  cases hdigit

theorem parse_eq_run {t : List Char} (hnought : t ≠ ['0']) (hblank : ¬∀ c ∈ t, Text.isBlank c = true) :
    parse t = Reading.between.run zero t := by
  rw [parse, if_neg hnought, if_neg]
  rwa [List.all_eq_true]

theorem parse_of_blank {t : List Char} (hblank : ∀ c ∈ t, Text.isBlank c = true) :
    parse t = .error .malformed := by
  have hnought : t ≠ ['0'] := by
    rintro rfl
    exact absurd (hblank '0' List.mem_cons_self) (by decide)
  rw [parse, if_neg hnought, if_pos (List.all_eq_true.2 hblank)]

/-- **A text is read as the duration that it denotes.** -/
theorem parse_eq_ok_iff {t : List Char} {d : Duration} : parse t = .ok d ↔ Denotes t d := by
  constructor
  · intro h
    by_cases hnought : t = ['0']
    · subst hnought
      have hzero : parse ['0'] = .ok zero := rfl
      rw [hzero, Except.ok.injEq] at h
      exact .nought rfl (h ▸ rfl)
    · by_cases hblank : ∀ c ∈ t, Text.isBlank c = true
      · rw [parse_of_blank hblank] at h
        cases h
      · rw [parse_eq_run hnought hblank, run_eq_ok_iff_of_zero] at h
        obtain ⟨spans, rest, as, hspells, hrest, hsteps, hfits, htotal⟩ := h
        refine .spans hspells hrest ?_ hsteps hfits htotal
        rintro rfl
        exact hblank (hspells.text_eq ▸ hrest)
  · rintro (⟨rfl, htotal⟩ | ⟨hspells, hrest, hne, hsteps, hfits, htotal⟩)
    · have hzero : parse ['0'] = .ok zero := rfl
      rw [hzero, Except.ok.injEq]
      exact eq_of_total htotal.symm
    · have hrun := run_eq_ok_iff_of_zero.2 ⟨_, _, _, hspells, hrest, hsteps, hfits, htotal⟩
      rw [parse_eq_run _ (hspells.not_blank hne), hrun]
      rintro rfl
      cases hrun

/-- **The fault of a carry** is met by the texts that overfill. -/
theorem parse_eq_carry_iff {t : List Char} : parse t = .error .carry ↔ Overfills t := by
  rw [← run_eq_carry_iff_of_zero]
  by_cases hnought : t = ['0']
  · subst hnought
    exact iff_of_false nofun nofun
  · by_cases hblank : ∀ c ∈ t, Text.isBlank c = true
    · have hrun : Reading.between.run zero t = .ok zero := by
        have hlead := Reading.run_lead (d := zero) hblank []
        rwa [List.append_nil] at hlead
      rw [parse_of_blank hblank, hrun]
      exact iff_of_false nofun nofun
    · rw [parse_eq_run hnought hblank]

end Repeater.Duration
