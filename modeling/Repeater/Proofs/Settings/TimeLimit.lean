import Repeater.Proofs.Duration.Reading
import Repeater.Server.Basic
import Repeater.Settings.Load

/-!
# The time limit of forwarding

The time that a backend is given comes from a text of the settings that is never checked. A text that denotes a
duration gives it, no time at all lifts the limit, and any other text counts as absent. The exception are the
texts that overfill: settings with such a text are accepted, and no server can be made of them.

* `Forwarding.Grants` — the limit that the text asks for;
* `Forwarding.Breaks` — the text overfills.

## Results

* `Forwarding.timeout_eq_ok_iff`    — the limit is the one that the text asks for;
* `Forwarding.timeout_eq_error_iff` — there is none exactly if the text overfills;
* `Settings.limited_iff`            — and then there is no server;
* `Settings.load_overfull`          — a text of this kind in settings that are accepted.
-/

namespace Repeater

/-- The limit that the text of the settings asks for. -/
inductive Forwarding.Grants (f : Forwarding) : Option Duration → Prop
  | absent (habsent : f.requestTimeout = none) : f.Grants (some defaultTimeout)
  | denoted {raw : String} {d : Duration} (hraw : f.requestTimeout = some raw)
      (hdenotes : Duration.Denotes (Text.trim raw.toList) d) (hsome : d.total ≠ 0) : f.Grants (some d)
  | lifted {raw : String} {d : Duration} (hraw : f.requestTimeout = some raw)
      (hdenotes : Duration.Denotes (Text.trim raw.toList) d) (hnone : d.total = 0) : f.Grants none
  | unread {raw : String} (hraw : f.requestTimeout = some raw)
      (hno : ∀ d, ¬Duration.Denotes (Text.trim raw.toList) d)
      (hnot : ¬Duration.Overfills (Text.trim raw.toList)) : f.Grants (some defaultTimeout)

/-- The text of the settings overfills. -/
def Forwarding.Breaks (f : Forwarding) : Prop :=
  ∃ raw, f.requestTimeout = some raw ∧ Duration.Overfills (Text.trim raw.toList)

section Timeout

variable {f : Forwarding} {raw : String}

theorem Forwarding.timeout_of_denotes {d : Duration} (hraw : f.requestTimeout = some raw)
    (h : Duration.Denotes (Text.trim raw.toList) d) :
    f.timeout = .ok (if d.total = 0 then none else some d) := by
  simp only [Forwarding.timeout, hraw, Duration.parse_eq_ok_iff.2 h]

theorem Forwarding.timeout_of_overfills (hraw : f.requestTimeout = some raw)
    (h : Duration.Overfills (Text.trim raw.toList)) : f.timeout = .error .carry := by
  simp only [Forwarding.timeout, hraw, Duration.parse_eq_carry_iff.2 h]

theorem Forwarding.timeout_of_unread (hraw : f.requestTimeout = some raw)
    (hno : ∀ d, ¬Duration.Denotes (Text.trim raw.toList) d)
    (hnot : ¬Duration.Overfills (Text.trim raw.toList)) : f.timeout = .ok (some defaultTimeout) := by
  simp only [Forwarding.timeout, hraw]
  cases hparse : Duration.parse (Text.trim raw.toList) with
  | ok d => exact absurd (Duration.parse_eq_ok_iff.1 hparse) (hno d)
  | error e =>
    cases e with
    | carry => exact absurd (Duration.parse_eq_carry_iff.1 hparse) hnot
    | malformed => rfl
    | outOfRange => rfl

/-- A text asks for a limit, or it overfills. -/
theorem Forwarding.grants_or_breaks (f : Forwarding) :
    (∃ limit, f.Grants limit ∧ f.timeout = .ok limit) ∨ f.Breaks ∧ f.timeout = .error .carry := by
  cases hraw : f.requestTimeout with
  | none => exact .inl ⟨_, .absent hraw, by simp only [Forwarding.timeout, hraw]⟩
  | some raw =>
    by_cases hover : Duration.Overfills (Text.trim raw.toList)
    · exact .inr ⟨⟨raw, hraw, hover⟩, timeout_of_overfills hraw hover⟩
    · left
      by_cases hdenotes : ∃ d, Duration.Denotes (Text.trim raw.toList) d
      · obtain ⟨d, hd⟩ := hdenotes
        have htimeout := timeout_of_denotes hraw hd
        by_cases hzero : d.total = 0
        · rw [if_pos hzero] at htimeout
          exact ⟨none, .lifted hraw hd hzero, htimeout⟩
        · rw [if_neg hzero] at htimeout
          exact ⟨some d, .denoted hraw hd hzero, htimeout⟩
      · have hno : ∀ d, ¬Duration.Denotes (Text.trim raw.toList) d := fun d hd => hdenotes ⟨d, hd⟩
        exact ⟨_, .unread hraw hno hover, timeout_of_unread hraw hno hover⟩

/-- **The limit is the one that the text asks for.** -/
theorem Forwarding.timeout_eq_ok_iff {limit : Option Duration} : f.timeout = .ok limit ↔ f.Grants limit := by
  constructor
  · intro h
    rcases f.grants_or_breaks with ⟨limit', hgrants, hlimit⟩ | ⟨-, hfault⟩
    · rw [h, Except.ok.injEq] at hlimit
      rwa [hlimit]
    · rw [h] at hfault
      cases hfault
  · rintro (habsent | ⟨hraw, hdenotes, hsome⟩ | ⟨hraw, hdenotes, hnone⟩ | ⟨hraw, hno, hnot⟩)
    · simp only [Forwarding.timeout, habsent]
    · rw [timeout_of_denotes hraw hdenotes, if_neg hsome]
    · rw [timeout_of_denotes hraw hdenotes, if_pos hnone]
    · exact timeout_of_unread hraw hno hnot

/-- **There is no limit, and no lack of one, exactly if the text overfills.** -/
theorem Forwarding.timeout_eq_error_iff {e : Duration.Fault} : f.timeout = .error e ↔ e = .carry ∧ f.Breaks := by
  constructor
  · intro h
    rcases f.grants_or_breaks with ⟨limit, -, hlimit⟩ | ⟨hbreaks, hfault⟩
    · rw [h] at hlimit
      cases hlimit
    · rw [h, Except.error.injEq] at hfault
      exact ⟨hfault, hbreaks⟩
  · rintro ⟨rfl, raw, hraw, hover⟩
    exact timeout_of_overfills hraw hover

end Timeout

namespace Settings

/-- **The time limit of settings.** It is the one that their text asks for, unless the text overfills; and a
server can be made of settings, accepted or not, unless it does. -/
theorem limited_iff (s : Settings) :
    (∀ limit, s.forwarding.timeout = .ok limit ↔ s.forwarding.Grants limit) ∧
      (∀ e, s.forwarding.timeout = .error e ↔ e = .carry ∧ s.forwarding.Breaks) ∧
      ((∃ made, Server.ofSettings s = .ok made) ↔ ¬s.forwarding.Breaks) := by
  refine ⟨fun limit => Forwarding.timeout_eq_ok_iff, fun e => Forwarding.timeout_eq_error_iff, ?_⟩
  have hfault (e : Duration.Fault) : Server.ofSettings s = .error e ↔ e = .carry ∧ s.forwarding.Breaks := by
    rw [Server.ofSettings_eq_error_iff, Forwarding.timeout_eq_error_iff]
  constructor
  · rintro ⟨made, hmade⟩ hbreaks
    rw [(hfault .carry).2 ⟨rfl, hbreaks⟩] at hmade
    cases hmade
  · intro hbreaks
    cases hmade : Server.ofSettings s with
    | ok made => exact ⟨made, rfl⟩
    | error e => exact absurd ((hfault e).1 hmade).2 hbreaks

/-- Settings whose text denotes no duration are accepted, and no server can be made of them: their limit is not
the usual one. -/
theorem load_overfull :
    ∃ s : Settings, load none { requestTimeout := some "18446744073709551615s 1000ms" } = .ok s ∧
      (∀ d, ¬Duration.Denotes (Text.trim "18446744073709551615s 1000ms".toList) d) ∧
      s.forwarding.timeout ≠ .ok (some defaultTimeout) ∧
      s.forwarding.timeout = .error .carry ∧ Server.ofSettings s = .error .carry := by
  have hparse : Duration.parse (Text.trim "18446744073709551615s 1000ms".toList) = .error .carry := by
    decide +kernel
  let s : Settings := { forwarding := { requestTimeout := some "18446744073709551615s 1000ms" } }
  have hload : load none { requestTimeout := some "18446744073709551615s 1000ms" } = .ok s := by
    decide +kernel
  have htimeout : s.forwarding.timeout = .error .carry := by
    simp only [s, Forwarding.timeout, hparse]
  refine ⟨s, hload, ?_, by rw [htimeout]; nofun, htimeout, Server.ofSettings_eq_error_iff.2 htimeout⟩
  intro d hd
  rw [Duration.parse_eq_ok_iff.2 hd] at hparse
  cases hparse

end Settings

end Repeater
