import Repeater.Proofs.Duration.Amounts

/-!
# Spans

A duration is written as a list of spans: digits, perhaps a point with more digits, and the name of a unit. Blanks
may stand before a span and among its digits.

* `Span`       — a span as it is written, piece by piece;
* `Span.text`  — the pieces put together;
* `Span.steps` — what it adds to a sum: its whole units, then its part of a unit, or why nothing can be added.

## Results

* `addSpan_eq` — a span whose numbers have been read adds its steps;
* `run_text`   — so does reading its text, whatever is read after it.
-/

namespace Repeater.Duration

-- ---------------------------------------------------------------------------
-- Digits
-- ---------------------------------------------------------------------------

/-- A digit, or a blank that may stand among digits. -/
def isFigure (c : Char) : Bool :=
  c.isDigit || Text.isBlank c

/-- The digits of a text. -/
def digits (s : List Char) : List Char :=
  s.filter Char.isDigit

/-- The number of the digits of a text behind those of another number. -/
def numberOn (n : Nat) (s : List Char) : Nat :=
  Nat.ofDigitChars 10 (digits s) n

/-- The power of ten that digits behind the point are counted in. -/
def scale (s : List Char) : Nat :=
  10 ^ (digits s).length

theorem numberOn_cons_digit {n : Nat} {c : Char} (hc : c.isDigit = true) (s : List Char) :
    numberOn n (c :: s) = numberOn (n * 10 + digit c) s := by
  rw [numberOn, digits, List.filter_cons_of_pos hc, Nat.ofDigitChars_cons, Nat.mul_comm]
  rfl

theorem numberOn_cons_blank {n : Nat} {c : Char} (hc : c.isDigit = false) (s : List Char) :
    numberOn n (c :: s) = numberOn n s := by
  rw [numberOn, digits, List.filter_cons_of_neg (by simp [hc])]
  rfl

theorem scale_cons_digit {c : Char} (hc : c.isDigit = true) (s : List Char) : scale (c :: s) = 10 * scale s := by
  rw [scale, digits, List.filter_cons_of_pos hc, List.length_cons, Nat.pow_succ, Nat.mul_comm]
  rfl

theorem scale_cons_blank {c : Char} (hc : c.isDigit = false) (s : List Char) : scale (c :: s) = scale s := by
  rw [scale, digits, List.filter_cons_of_neg (by simp [hc])]
  rfl

theorem scale_pos (s : List Char) : 0 < scale s :=
  Nat.pow_pos (by decide)

/-- More digits make no smaller number. -/
theorem le_numberOn (n : Nat) (s : List Char) : n ≤ numberOn n s := by
  induction s generalizing n with
  | nil => exact Nat.le_refl n
  | cons c s ih =>
    cases hc : c.isDigit with
    | true =>
      have hmore := ih (n * 10 + digit c)
      rw [numberOn_cons_digit hc]
      omega
    | false =>
      rw [numberOn_cons_blank hc]
      exact ih n

theorem digit_le {c : Char} (hc : c.isDigit = true) : digit c ≤ 9 := by
  have hrange := (Char.isDigit_iff_toNat.1 hc).2
  have hzero : '0'.toNat = 48 := rfl
  have hnine : '9'.toNat = 57 := rfl
  unfold digit
  omega

-- ---------------------------------------------------------------------------
-- Spans
-- ---------------------------------------------------------------------------

/-- A span as it is written. -/
structure Span where
  /-- The blanks before it. -/
  lead : List Char := []
  /-- What stands before the point. -/
  whole : List Char
  /-- What stands behind the point, if there is one. -/
  part : Option (List Char) := none
  /-- The name of the unit. -/
  name : List Char

namespace Span

/-- The span as a text. -/
def text (s : Span) : List Char :=
  s.lead ++ (s.whole ++ (s.part.elim [] ('.' :: ·) ++ s.name))

/-- The pieces of a span are what they should be. -/
structure IsSpelled (s : Span) : Prop where
  lead : ∀ c ∈ s.lead, Text.isBlank c = true
  whole : ∀ c ∈ s.whole, isFigure c = true
  first : ∃ c ∈ s.whole.head?, c.isDigit = true
  part : ∀ w ∈ s.part, (∀ c ∈ w, isFigure c = true) ∧ digits w ≠ []
  name : ∀ c ∈ s.name, isUnitChar c = true
  named : s.name ≠ []

/-- The number before the point. -/
def number (s : Span) : Nat :=
  numberOn 0 s.whole

/-- All numbers of a span have 64 bits. -/
def IsWord (s : Span) : Prop :=
  s.number ≤ wordMax ∧ ∀ w ∈ s.part, numberOn 0 w ≤ wordMax ∧ scale w ≤ wordMax

instance (s : Span) : Decidable s.IsWord :=
  inferInstanceAs (Decidable (_ ∧ _))

end Span

/-- A fraction of a unit that is counted in so many seconds or nanoseconds, if it is at all. The product has 64
bits, and the amount is whole. -/
def share (size : Option (Bool × Nat)) (numerator denominator : Nat) : Except Fault Amount :=
  match size with
  | none => .error .outOfRange
  | some (inSeconds, count) =>
    if numerator * count ≤ wordMax ∧ denominator ∣ numerator * count then
      .ok ⟨inSeconds, numerator * count / denominator⟩
    else .error .outOfRange

/-- The whole units of a span, then its part of a unit. -/
def Span.steps (s : Span) : List (Except Fault Amount) :=
  if s.IsWord then
    match TimeUnit.ofName? s.name with
    | none => [.error .malformed]
    | some unit =>
      share (some unit.size) s.number 1 ::
        s.part.toList.map fun w => share unit.fractionSize (numberOn 0 w) (scale w)
  else [.error .outOfRange]

theorem share_ne_carry (size : Option (Bool × Nat)) (n m : Nat) : share size n m ≠ .error .carry := by
  unfold share
  split
  · simp
  · split <;> simp

theorem Span.carry_notMem_steps (s : Span) : .error .carry ∉ s.steps := by
  unfold Span.steps
  split
  · split
    · simp
    · simp [share_ne_carry, (share_ne_carry _ _ _).symm]
  · simp

-- ---------------------------------------------------------------------------
-- Classes of characters
-- ---------------------------------------------------------------------------

theorem isDigit_of_isBlank {c : Char} (hc : Text.isBlank c = true) : c.isDigit = false := by
  by_contra hdigit
  rw [Bool.not_eq_false] at hdigit
  rw [Text.isBlank_of_isDigit hdigit] at hc
  cases hc

/-- The name of a unit has no digits and no blanks. -/
theorem figure_of_isUnitChar {c : Char} (hc : isUnitChar c = true) :
    c.isDigit = false ∧ Text.isBlank c = false := by
  have hcases : isUnitChar c = (decide ('A' ≤ c ∧ c ≤ 'Z') || (decide ('a' ≤ c) && decide (c ≤ 'z')) ||
      c == '\u00b5') := rfl
  have hrange : (65 ≤ c.toNat ∧ c.toNat ≤ 90) ∨ (97 ≤ c.toNat ∧ c.toNat ≤ 122) ∨ c.toNat = 181 := by
    rw [hcases] at hc
    simp only [Bool.or_eq_true, Bool.and_eq_true, decide_eq_true_eq, beq_iff_eq] at hc
    rcases hc with (h | h) | rfl
    · exact .inl h
    · exact .inr (.inl h)
    · exact .inr (.inr rfl)
  constructor
  · rw [Bool.eq_false_iff, ne_eq, Char.isDigit_iff_toNat]
    have hzero : '0'.toNat = 48 := rfl
    have hnine : '9'.toNat = 57 := rfl
    omega
  · simp only [Text.isBlank, Bool.or_eq_false_iff, Bool.and_eq_false_iff, decide_eq_false_iff_not, beq_eq_false_iff_ne]
    omega

-- ---------------------------------------------------------------------------
-- Reading
-- ---------------------------------------------------------------------------

namespace Reading

variable {d : Duration} {n numerator denominator : Nat} {part : Option (Nat × Nat)}

theorem run_cons {d' : Duration} {state state' : Reading} {c : Char} (h : state.step d c = .ok (d', state'))
    (r : List Char) : state.run d (c :: r) = state'.run d' r := by
  rw [run, h]
  rfl

theorem run_cons_error {state : Reading} {c : Char} {e : Fault} (h : state.step d c = .error e)
    (r : List Char) : state.run d (c :: r) = .error e := by
  rw [run, h]
  rfl

/-- Blanks before a span are passed over. -/
theorem run_lead {lead : List Char} (hlead : ∀ c ∈ lead, Text.isBlank c = true) (r : List Char) :
    between.run d (lead ++ r) = between.run d r := by
  induction lead with
  | nil => rfl
  | cons c lead ih =>
    have hblank := hlead c List.mem_cons_self
    have hstep : between.step d c = .ok (d, between) := by simp [step, isDigit_of_isBlank hblank, hblank]
    rw [List.cons_append, run_cons hstep, ih fun c hc => hlead c (List.mem_cons_of_mem _ hc)]

theorem run_first {c : Char} (hc : c.isDigit = true) (r : List Char) :
    between.run d (c :: r) = (number (digit c)).run d r :=
  run_cons (by simp [step, hc]) r

/-- Digits before the point make a number, which must not grow beyond 64 bits. -/
theorem run_whole (hn : n ≤ wordMax) {w : List Char} (hw : ∀ c ∈ w, isFigure c = true) (r : List Char) :
    (number n).run d (w ++ r) =
      if numberOn n w ≤ wordMax then (number (numberOn n w)).run d r else .error .outOfRange := by
  induction w generalizing n with
  | nil =>
    have hnone : numberOn n [] = n := rfl
    rw [List.nil_append, hnone, if_pos hn]
  | cons c w ih =>
    have hrest : ∀ c ∈ w, isFigure c = true := fun c hc => hw c (List.mem_cons_of_mem _ hc)
    cases hc : c.isDigit with
    | true =>
      rw [numberOn_cons_digit hc, List.cons_append]
      by_cases hroom : n * 10 + digit c ≤ wordMax
      · have hstep : (number n).step d c = .ok (d, number (n * 10 + digit c)) := by
          simp [step, hc, pushDigit, hroom, ok_bind]
        rw [run_cons hstep, ih hroom hrest]
      · have hstep : (number n).step d c = .error .outOfRange := by
          simp [step, hc, pushDigit, hroom, bind, Except.bind]
        have hmore := le_numberOn (n * 10 + digit c) w
        rw [run_cons_error hstep, if_neg (by omega)]
    | false =>
      have hblank : Text.isBlank c = true := by simpa [isFigure, hc] using hw c List.mem_cons_self
      have hstep : (number n).step d c = .ok (d, number n) := by simp [step, hc, hblank]
      rw [numberOn_cons_blank hc, List.cons_append, run_cons hstep, ih hn hrest]

/-- Digits behind the point make a fraction, of which neither number may grow beyond 64 bits. -/
theorem run_part (hnumerator : numerator ≤ wordMax) (hdenominator : denominator ≤ wordMax) {w : List Char}
    (hw : ∀ c ∈ w, isFigure c = true) (r : List Char) :
    (fraction n numerator denominator).run d (w ++ r) =
      if numberOn numerator w ≤ wordMax ∧ denominator * scale w ≤ wordMax then
        (fraction n (numberOn numerator w) (denominator * scale w)).run d r
      else .error .outOfRange := by
  induction w generalizing numerator denominator with
  | nil =>
    have hnone : numberOn numerator [] = numerator := rfl
    have hone : denominator * scale [] = denominator := Nat.mul_one _
    rw [List.nil_append, hnone, hone, if_pos ⟨hnumerator, hdenominator⟩]
  | cons c w ih =>
    have hrest : ∀ c ∈ w, isFigure c = true := fun c hc => hw c (List.mem_cons_of_mem _ hc)
    cases hc : c.isDigit with
    | true =>
      rw [numberOn_cons_digit hc, scale_cons_digit hc, ← Nat.mul_assoc, List.cons_append]
      by_cases hroom : numerator * 10 + digit c ≤ wordMax ∧ denominator * 10 ≤ wordMax
      · have hstep : (fraction n numerator denominator).step d c =
            .ok (d, fraction n (numerator * 10 + digit c) (denominator * 10)) := by
          simp [step, hc, pushDigit, checkedMul, hroom.1, hroom.2, ok_bind]
        rw [run_cons hstep, ih hroom.1 hroom.2 hrest]
      · have hstep : (fraction n numerator denominator).step d c = .error .outOfRange := by
          rcases not_and_or.1 hroom with hnone | hnone
          · simp [step, hc, pushDigit, hnone, bind, Except.bind]
          · by_cases hfirst : numerator * 10 + digit c ≤ wordMax
            · simp [step, hc, pushDigit, checkedMul, hfirst, hnone, bind, Except.bind]
            · simp [step, hc, pushDigit, hfirst, bind, Except.bind]
        have hmore := le_numberOn (numerator * 10 + digit c) w
        have hscale : denominator * 10 ≤ denominator * 10 * scale w := Nat.le_mul_of_pos_right _ (scale_pos w)
        rw [run_cons_error hstep, if_neg]
        omega
    | false =>
      have hblank : Text.isBlank c = true := by simpa [isFigure, hc] using hw c List.mem_cons_self
      have hstep : (fraction n numerator denominator).step d c = .ok (d, fraction n numerator denominator) := by
        simp [step, hc, hblank]
      rw [numberOn_cons_blank hc, scale_cons_blank hc, List.cons_append, run_cons hstep,
        ih hnumerator hdenominator hrest]

/-- The letters of a name are collected. -/
theorem run_name {name : List Char} (hname : ∀ c ∈ name, isUnitChar c = true) (before r : List Char) :
    (unit n part before).run d (name ++ r) = (unit n part (name.reverse ++ before)).run d r := by
  induction name generalizing before with
  | nil => rfl
  | cons c name ih =>
    have hletter := hname c List.mem_cons_self
    obtain ⟨hdigit, hblank⟩ := figure_of_isUnitChar hletter
    have hstep : (unit n part before).step d c = .ok (d, unit n part (c :: before)) := by
      simp [step, hdigit, hblank, hletter]
    rw [List.cons_append, run_cons hstep, ih fun c hc => hname c (List.mem_cons_of_mem _ hc)]
    simp

end Reading

-- ---------------------------------------------------------------------------
-- One span
-- ---------------------------------------------------------------------------

/-- What may follow the name of a unit: the end, a blank, or the digits of the next span. -/
def EndsName (r : List Char) : Prop :=
  ∀ c ∈ r.head?, isFigure c = true

theorem plus_share_one (d : Duration) (size : Bool × Nat) (n : Nat) :
    share (some size) n 1 >>= d.plus = checkedMul n size.2 >>= d.addParts size.1 := by
  obtain ⟨inSeconds, count⟩ := size
  simp only [share, checkedMul, Nat.one_dvd, and_true, Nat.div_one]
  split <;> rfl

theorem plus_share (d : Duration) (inSeconds : Bool) (count numerator denominator : Nat) :
    share (some (inSeconds, count)) numerator denominator >>= d.plus =
      checkedMul numerator count >>= fun parts =>
        if parts % denominator = 0 then d.addParts inSeconds (parts / denominator) else .error .outOfRange := by
  simp only [share, checkedMul, Nat.dvd_iff_mod_eq_zero]
  by_cases hword : numerator * count ≤ wordMax
  · by_cases hwhole : numerator * count % denominator = 0
    · rw [if_pos ⟨hword, hwhole⟩, if_pos hword, ok_bind, ok_bind, if_pos hwhole]
      rfl
    · rw [if_neg (not_and_of_not_right _ hwhole), if_pos hword, ok_bind, if_neg hwhole]
      rfl
  · rw [if_neg (not_and_of_not_left _ hword), if_neg hword]
    rfl

/-- A span whose numbers have been read adds its steps. -/
theorem addSpan_eq (d : Duration) {s : Span} (hs : s.IsWord) :
    d.addSpan s.number (s.part.map fun w => (numberOn 0 w, scale w)) s.name = d.addAll s.steps := by
  rw [Span.steps, if_pos hs, addSpan]
  cases TimeUnit.ofName? s.name with
  | none => rfl
  | some unit =>
    have hassoc (k : Duration → Except Fault Duration) :
        (share (some unit.size) s.number 1 >>= d.plus) >>= k =
          checkedMul s.number unit.size.2 >>= fun count => d.addParts unit.size.1 count >>= k := by
      rw [plus_share_one, bind_assoc]
    dsimp only
    rw [addAll_cons, hassoc]
    congr 1
    funext count
    congr 1
    funext d
    cases s.part with
    | none => rfl
    | some w =>
      show _ = addAll d [share unit.fractionSize (numberOn 0 w) (scale w)]
      rw [addAll_cons]
      cases unit.fractionSize with
      | none => rfl
      | some size =>
        obtain ⟨inSeconds, count⟩ := size
        rw [plus_share]
        exact (bind_pure _).symm

section Named

variable {d : Duration} {n : Nat} {name r : List Char}

/-- Where the name of a unit ends its span is added, and reading goes on as at the start. -/
theorem run_end {part : Option (Nat × Nat)} (hr : EndsName r) :
    (Reading.unit n part name).run d r = d.addSpan n part name.reverse >>= fun d => Reading.between.run d r := by
  cases r with
  | nil => exact (bind_pure _).symm
  | cons c r =>
    cases hc : c.isDigit with
    | true => simp only [Reading.run, Reading.step, hc, if_true, bind_assoc, ok_bind]
    | false =>
      have hblank : Text.isBlank c = true := by simpa [isFigure, hc] using hr c rfl
      simp only [Reading.run, Reading.step, hc, Bool.false_eq_true, if_false, hblank, if_true, bind_assoc, ok_bind]

variable (hname : ∀ c ∈ name, isUnitChar c = true) (hne : name ≠ []) (hr : EndsName r)

include hname hne hr

theorem run_named_number :
    (Reading.number n).run d (name ++ r) = d.addSpan n none name >>= fun d => Reading.between.run d r := by
  obtain ⟨letter, rest, rfl⟩ := List.exists_cons_of_ne_nil hne
  have hletter := hname letter List.mem_cons_self
  obtain ⟨hdigit, hblank⟩ := figure_of_isUnitChar hletter
  have hstep : (Reading.number n).step d letter = .ok (d, .unit n none [letter]) := by
    simp [Reading.step, hdigit, hblank, hletter]
  rw [List.cons_append, Reading.run_cons hstep, Reading.run_name fun c hc => hname c (List.mem_cons_of_mem _ hc),
    run_end hr, List.reverse_append, List.reverse_reverse]
  rfl

theorem run_named_fraction {numerator denominator : Nat} (hone : denominator ≠ 1) :
    (Reading.fraction n numerator denominator).run d (name ++ r) =
      d.addSpan n (some (numerator, denominator)) name >>= fun d => Reading.between.run d r := by
  obtain ⟨letter, rest, rfl⟩ := List.exists_cons_of_ne_nil hne
  have hletter := hname letter List.mem_cons_self
  obtain ⟨hdigit, hblank⟩ := figure_of_isUnitChar hletter
  have hstep : (Reading.fraction n numerator denominator).step d letter =
      .ok (d, .unit n (some (numerator, denominator)) [letter]) := by
    simp [Reading.step, hdigit, hblank, hletter, hone]
  rw [List.cons_append, Reading.run_cons hstep, Reading.run_name fun c hc => hname c (List.mem_cons_of_mem _ hc),
    run_end hr, List.reverse_append, List.reverse_reverse]
  rfl

end Named

theorem scale_ne_one {w : List Char} (h : digits w ≠ []) : scale w ≠ 1 := by
  have hlength : (digits w).length ≠ 0 := by simpa using h
  exact Nat.ne_of_gt (Nat.one_lt_pow hlength (by decide))

/-- A span is read as far as its point or its unit. -/
theorem run_number {lead : List Char} (hlead : ∀ c ∈ lead, Text.isBlank c = true) {first : Char}
    (hfirst : first.isDigit = true) {w : List Char} (hw : ∀ c ∈ w, isFigure c = true) (d : Duration)
    (r : List Char) :
    Reading.between.run d (lead ++ first :: (w ++ r)) =
      if numberOn 0 (first :: w) ≤ wordMax then (Reading.number (numberOn 0 (first :: w))).run d r
      else .error .outOfRange := by
  have hword : digit first ≤ wordMax := Nat.le_trans (digit_le hfirst) (by decide)
  rw [Reading.run_lead hlead, Reading.run_first hfirst, Reading.run_whole hword hw, numberOn_cons_digit hfirst,
    Nat.zero_mul, Nat.zero_add]

/-- **Reading a span** adds its steps, whatever is read after it. -/
theorem run_text {s : Span} (hs : s.IsSpelled) {r : List Char} (hr : EndsName r) (d : Duration) :
    Reading.between.run d (s.text ++ r) = d.addAll s.steps >>= fun d => Reading.between.run d r := by
  obtain ⟨first, hhead, hfirst⟩ := hs.first
  obtain ⟨w, hwhole⟩ := List.head?_eq_some_iff.1 hhead
  have hfigures : ∀ c ∈ w, isFigure c = true := fun c hc => hs.whole c (hwhole ▸ List.mem_cons_of_mem _ hc)
  -- a number that is too large is refused before the unit is known
  have hrefused (h : ¬s.IsWord) :
      (d.addAll s.steps >>= fun d => Reading.between.run d r) = .error .outOfRange := by
    rw [Span.steps, if_neg h]
    rfl
  have hstart (r : List Char) : Reading.between.run d (s.lead ++ (s.whole ++ r)) =
      if s.number ≤ wordMax then (Reading.number s.number).run d r else .error .outOfRange := by
    rw [Span.number, hwhole]
    exact run_number hs.lead hfirst hfigures d r
  rw [Span.text, List.append_assoc, List.append_assoc, List.append_assoc, hstart]
  by_cases hnumber : s.number ≤ wordMax
  · rw [if_pos hnumber]
    cases hpart : s.part with
    | none =>
      have hword : s.IsWord := ⟨hnumber, by simp [hpart]⟩
      have hadd := addSpan_eq d hword
      rw [hpart, Option.map_none] at hadd
      rw [Option.elim_none, List.nil_append, run_named_number hs.name hs.named hr, hadd]
    | some w =>
      obtain ⟨hdecimals, hdigits⟩ := hs.part w (by rw [hpart]; rfl)
      have hpoint : (Reading.number s.number).step d '.' = .ok (d, .fraction s.number 0 1) := rfl
      rw [Option.elim_some, List.cons_append, Reading.run_cons hpoint,
        Reading.run_part (Nat.zero_le _) (by decide) hdecimals, Nat.one_mul]
      by_cases hfraction : numberOn 0 w ≤ wordMax ∧ scale w ≤ wordMax
      · have hword : s.IsWord := ⟨hnumber, by simpa [hpart] using hfraction⟩
        have hadd := addSpan_eq d hword
        rw [hpart, Option.map_some] at hadd
        rw [if_pos hfraction, run_named_fraction hs.name hs.named hr (scale_ne_one hdigits), hadd]
      · have hlong : ¬s.IsWord := fun h => hfraction (h.2 w (by rw [hpart]; rfl))
        rw [if_neg hfraction, hrefused hlong]
  · rw [if_neg hnumber, hrefused fun h => hnumber h.1]

end Repeater.Duration
