import Mathlib.Data.List.Sort
import Repeater.Proofs.Roster.Calls

/-!
# The roster as its history tells it

The seed of a roster and the calls made on it since, one after the other, tell the whole of it: which backends
are on it, and in which order. A backend is there if the last call that names it adds it, or if no call does and
the seed has it. Its stay begins at its first place in the seed, or with the last addition that was not refused;
who has stayed longer comes first.

* `History.answer?` — what a call answered;
* `History.Began`   — when the current stay of a backend began;
* `History.Tells`   — what a history says of a list.

## Results

* `History.mem_roster_iff`   — who is on the roster;
* `History.pairwise_roster`  — in which order;
* `History.Tells.unique`     — a history tells one list at most;
* `entries_of_history`       — it tells the roster, and what every call answers.
-/

namespace Repeater.Roster

-- ---------------------------------------------------------------------------
-- Calls on a roster
-- ---------------------------------------------------------------------------

/-- What a call answers on a roster. -/
def Call.answer (r : Roster) : Call → Answer
  | .add b => r.add b
  | .remove b => r.remove b
  | .read => .ok r

/-- The roster after a call; one that is refused leaves it as it is. -/
def Call.after (call : Call) (r : Roster) : Roster :=
  (call.answer r).toOption.getD r

/-- The backend that a call names. -/
def Call.backend? : Call → Option String
  | .add b | .remove b => some b
  | .read => none

theorem Call.after_of_ok {call : Call} {r s : Roster} (h : call.answer r = .ok s) : call.after r = s := by
  rw [after, h]
  rfl

theorem Call.after_of_error {call : Call} {r : Roster} {e : Refusal} (h : call.answer r = .error e) :
    call.after r = r := by
  rw [after, h]
  rfl

/-- What a call means on a list is what it does to a roster. -/
theorem Call.entries_after (call : Call) (r : Roster) :
    (call.after r).entries = (call.perform r.entries).2 := by
  have hanswer : (call.answer r).map Roster.entries = (call.perform r.entries).1 := by
    cases call with
    | add b => exact add_eq_perform r b
    | remove b => exact remove_eq_perform r b
    | read => rfl
  rw [perform_snd, ← hanswer]
  cases hcall : call.answer r with
  | ok s => rw [after_of_ok hcall]; rfl
  | error e => rw [after_of_error hcall]; rfl

-- ---------------------------------------------------------------------------
-- Histories
-- ---------------------------------------------------------------------------

/-- The list that a roster was seeded with, and the calls that were made on it since. -/
structure History where
  seeds : List String
  calls : List Call := []

namespace History

/-- The roster at the end of a history. -/
def roster (h : History) : Roster :=
  h.calls.foldl (fun r call => call.after r) (seed h.seeds).1

/-- The history of the first calls. -/
def upTo (h : History) (n : Nat) : History :=
  { h with calls := h.calls.take n }

/-- What the call at a position answered. -/
def answer? (h : History) (i : Nat) : Option Answer :=
  h.calls[i]?.map (Call.answer (h.upTo i).roster)

/-- No call names a backend. -/
def Untouched (h : History) (u : String) : Prop :=
  ∀ call ∈ h.calls, call.backend? ≠ some u

/-- The last call that names a backend adds it. -/
def EndsAdded (h : History) (u : String) : Prop :=
  ∃ past later, h.calls = past ++ .add u :: later ∧ ∀ call ∈ later, call.backend? ≠ some u

/-- A backend was added by the call at a position, which was not refused. -/
def Added (h : History) (u : String) (i : Nat) : Prop :=
  h.calls[i]? = some (.add u) ∧ ∃ r, h.answer? i = some (.ok r)

/-- When the current stay of a backend began. The places in the seed are the first moments, and the positions of
the calls are those after them. -/
inductive Began (h : History) (u : String) : Nat → Prop
  | seeded (hseed : u ∈ h.seeds) (hnever : ∀ i, ¬h.Added u i) : Began h u (h.seeds.idxOf u)
  | added {i : Nat} (hadded : h.Added u i) (hlast : ∀ j, h.Added u j → j ≤ i) : Began h u (h.seeds.length + i)

/-- A backend is on the roster, by what was done about it. -/
def Lists (h : History) (u : String) : Prop :=
  u ≠ "" ∧ (h.EndsAdded u ∨ h.Untouched u ∧ u ∈ h.seeds)

/-- What a history says of a list: who is on it, each of them once, and in the order in which their stays
began. -/
structure Tells (h : History) (l : List String) : Prop where
  mem_iff : ∀ u, u ∈ l ↔ h.Lists u
  once : ∀ u ∈ l, l.count u = 1
  began : ∀ u ∈ l, ∃ t, h.Began u t
  order : ∀ u ∈ l, ∀ v ∈ l, ∀ t t', h.Began u t → h.Began v t' → (l.idxOf u < l.idxOf v ↔ t < t')

-- ---------------------------------------------------------------------------
-- One more call
-- ---------------------------------------------------------------------------

/-- A history with one more call. -/
def andThen (h : History) (call : Call) : History :=
  { h with calls := h.calls ++ [call] }

/-- A call adds a backend, and is not refused. -/
def Adds (h : History) (call : Call) (u : String) : Prop :=
  call = .add u ∧ ∃ r, call.answer h.roster = .ok r

variable {h : History} {call : Call} {u v : String} {t t' : Nat}

theorem roster_andThen (h : History) (call : Call) : (h.andThen call).roster = call.after h.roster := by
  simp only [roster, andThen, List.foldl_append, List.foldl_cons, List.foldl_nil]

theorem answer?_andThen_of_lt {i : Nat} (hi : i < h.calls.length) : (h.andThen call).answer? i = h.answer? i := by
  simp only [answer?, andThen, upTo, List.getElem?_append_left hi, List.take_append_of_le_length (Nat.le_of_lt hi)]

theorem answer?_andThen_self : (h.andThen call).answer? h.calls.length = some (call.answer h.roster) := by
  simp [answer?, andThen, upTo]

theorem added_andThen {i : Nat} :
    (h.andThen call).Added u i ↔ h.Added u i ∨ i = h.calls.length ∧ h.Adds call u := by
  rcases Nat.lt_trichotomy i h.calls.length with hi | rfl | hi
  · have hne : i ≠ h.calls.length := Nat.ne_of_lt hi
    have hcall : (h.andThen call).calls[i]? = h.calls[i]? := List.getElem?_append_left hi
    rw [Added, answer?_andThen_of_lt hi, hcall, ← Added]
    simp only [hne, false_and, or_false]
  · have hnone : ¬h.Added u h.calls.length := by
      rintro ⟨hcall, -⟩
      simp at hcall
    rw [Added, answer?_andThen_self, Adds]
    simp [andThen, hnone]
  · have hnone : ∀ g : History, g.calls.length ≤ i → ¬g.Added u i := by
      rintro g hle ⟨hcall, -⟩
      rw [List.getElem?_eq_none hle] at hcall
      cases hcall
    have hlength : (h.andThen call).calls.length ≤ i := by
      simp only [andThen, List.length_append, List.length_singleton]
      omega
    have hne : i ≠ h.calls.length := Nat.ne_of_gt hi
    simp only [hnone _ hlength, hnone h (Nat.le_of_lt hi), hne, false_and, or_false]

theorem untouched_andThen : (h.andThen call).Untouched u ↔ h.Untouched u ∧ call.backend? ≠ some u := by
  simp [Untouched, andThen, or_imp, forall_and]

theorem endsAdded_andThen :
    (h.andThen call).EndsAdded u ↔ call = .add u ∨ h.EndsAdded u ∧ call.backend? ≠ some u := by
  constructor
  · rintro ⟨past, later, hcalls, hlater⟩
    rcases List.eq_nil_or_concat' later with rfl | ⟨later, last, rfl⟩
    · left
      exact (List.append_inj_right' hcalls rfl |> List.singleton_injective)
    · right
      rw [← List.cons_append, ← List.append_assoc] at hcalls
      obtain ⟨hrest, hlast⟩ := List.append_inj' hcalls rfl
      obtain rfl := List.singleton_injective hlast
      refine ⟨⟨past, later, hrest, ?_⟩, hlater call (by simp)⟩
      intro c hc
      exact hlater c (List.mem_append_left _ hc)
  · rintro (rfl | ⟨⟨past, later, hcalls, hlater⟩, hcall⟩)
    · exact ⟨h.calls, [], rfl, by simp⟩
    · refine ⟨past, later ++ [call], by simp [andThen, hcalls], ?_⟩
      intro c hc
      rcases List.mem_append.1 hc with hc | hc
      · exact hlater c hc
      · rwa [List.mem_singleton.1 hc]

/-- A history is a seed, or one with a last call. -/
theorem induction_on {P : History → Prop} (h : History) (start : ∀ seeds, P { seeds })
    (andThen : ∀ h call, P h → P (h.andThen call)) : P h := by
  obtain ⟨seeds, calls⟩ := h
  induction calls using List.reverseRecOn with
  | nil => exact start seeds
  | append_singleton calls call ih => exact andThen ⟨seeds, calls⟩ call ih

-- ---------------------------------------------------------------------------
-- Who is on the roster
-- ---------------------------------------------------------------------------

/-- **Who is on the roster**: who was added last, or was there from the first and never named. -/
theorem mem_roster_iff (h : History) (u : String) : u ∈ h.roster.entries ↔ h.Lists u := by
  induction h using induction_on with
  | start seeds =>
    have hroster : (History.mk seeds []).roster = (seed seeds).1 := rfl
    have hends : ¬(History.mk seeds []).EndsAdded u := by
      rintro ⟨past, later, hcalls, -⟩
      simp at hcalls
    have huntouched : (History.mk seeds []).Untouched u := by
      intro call hcall
      cases hcall
    rw [hroster, mem_seed, Lists]
    simp only [hends, huntouched, true_and, false_or, and_comm]
  | andThen h call ih =>
    rw [Lists] at ih
    rw [roster_andThen, Call.entries_after, Lists, endsAdded_andThen, untouched_andThen]
    have hseeds : (h.andThen call).seeds = h.seeds := rfl
    rw [hseeds]
    cases call with
    | add b =>
      rw [mem_perform_add, ih]
      simp only [Call.backend?, Call.add.injEq, ne_eq, Option.some.injEq]
      grind
    | remove b =>
      rw [mem_perform_remove h.roster.nonempty, ih]
      simp only [Call.backend?, reduceCtorEq, false_or, ne_eq, Option.some.injEq]
      grind
    | read =>
      simp only [Call.perform, Call.backend?, reduceCtorEq, false_or, ne_eq, not_false_eq_true, and_true]
      exact ih

-- ---------------------------------------------------------------------------
-- In which order
-- ---------------------------------------------------------------------------

theorem Added.lt {i : Nat} (hadded : h.Added u i) : i < h.calls.length :=
  (List.getElem?_eq_some_iff.1 hadded.1).1

/-- The stay of a backend began before now. -/
theorem Began.lt (hbegan : h.Began u t) : t < h.seeds.length + h.calls.length := by
  cases hbegan with
  | seeded hseed hnever =>
    have hplace : h.seeds.idxOf u < h.seeds.length := List.idxOf_lt_length_of_mem hseed
    omega
  | added hadded hlast =>
    have hposition := hadded.lt
    omega

theorem Began.unique (hbegan : h.Began u t) (hbegan' : h.Began u t') : t = t' := by
  cases hbegan with
  | seeded hseed hnever =>
    cases hbegan' with
    | seeded hseed' hnever' => rfl
    | added hadded hlast => exact absurd hadded (hnever _)
  | added hadded hlast =>
    cases hbegan' with
    | seeded hseed hnever => exact absurd hadded (hnever _)
    | added hadded' hlast' =>
      have hle := hlast _ hadded'
      have hge := hlast' _ hadded
      omega

/-- The stay of a backend that was just added begins now. -/
theorem began_of_adds (hadds : h.Adds call u) :
    (h.andThen call).Began u t ↔ t = h.seeds.length + h.calls.length := by
  have hself : (h.andThen call).Began u (h.seeds.length + h.calls.length) := by
    refine .added (h := h.andThen call) (added_andThen.2 (.inr ⟨rfl, hadds⟩)) fun j hj => ?_
    rcases added_andThen.1 hj with hbefore | ⟨hnow, -⟩
    · exact Nat.le_of_lt hbefore.lt
    · exact Nat.le_of_eq hnow
  constructor
  · intro hbegan
    exact hbegan.unique hself
  · rintro rfl
    exact hself

/-- The stay of another one is what it was. -/
theorem began_of_not_adds (hadds : ¬h.Adds call u) : (h.andThen call).Began u t ↔ h.Began u t := by
  have hsame (i : Nat) : (h.andThen call).Added u i ↔ h.Added u i := by
    rw [added_andThen]
    simp only [hadds, and_false, or_false]
  constructor
  · intro hbegan
    cases hbegan with
    | seeded hseed hnever => exact .seeded hseed fun i hi => hnever i ((hsame i).2 hi)
    | added hadded hlast => exact .added ((hsame _).1 hadded) fun j hj => hlast j ((hsame j).2 hj)
  · intro hbegan
    cases hbegan with
    | seeded hseed hnever => exact .seeded (h := h.andThen call) hseed fun i hi => hnever i ((hsame i).1 hi)
    | added hadded hlast =>
      exact .added (h := h.andThen call) ((hsame _).2 hadded) fun j hj => hlast j ((hsame j).1 hj)

/-- Whoever is on the roster has come at some time. -/
theorem exists_began (h : History) (hu : u ∈ h.roster.entries) : ∃ t, h.Began u t := by
  induction h using induction_on with
  | start seeds =>
    have hnever (i : Nat) : ¬(History.mk seeds []).Added u i := by
      rintro ⟨hcall, -⟩
      cases hcall
    exact ⟨_, .seeded (mem_seed.1 hu).1 hnever⟩
  | andThen h call ih =>
    by_cases hadds : h.Adds call u
    · exact ⟨_, (began_of_adds hadds).2 rfl⟩
    · have hbefore : u ∈ h.roster.entries := by
        rw [roster_andThen] at hu
        cases call with
        | add b =>
          cases hanswer : (Call.add b).answer h.roster with
          | error e => rwa [Call.after_of_error hanswer] at hu
          | ok s =>
            rw [Call.after_of_ok hanswer, entries_add hanswer, List.mem_append, List.mem_singleton] at hu
            rcases hu with hu | rfl
            · exact hu
            · exact absurd ⟨rfl, s, hanswer⟩ hadds
        | remove b =>
          rw [Call.entries_after, mem_perform_remove h.roster.nonempty] at hu
          exact hu.1
        | read => exact hu
      obtain ⟨t, ht⟩ := ih hbefore
      exact ⟨t, (began_of_not_adds hadds).2 ht⟩

/-- One backend has stayed longer than another. -/
def Before (h : History) (u v : String) : Prop :=
  ∀ t t', h.Began u t → h.Began v t' → t < t'

/-- A seed keeps its order. -/
theorem pairwise_seed (seeds : List String) :
    (seed seeds).1.entries.Pairwise fun u v => seeds.idxOf u < seeds.idxOf v := by
  induction seeds using List.reverseRecOn with
  | nil => exact .nil
  | append_singleton seeds b ih =>
    have hold : (seed seeds).1.entries.Pairwise fun u v => (seeds ++ [b]).idxOf u < (seeds ++ [b]).idxOf v := by
      refine ih.imp_of_mem fun {u v} hu hv hlt => ?_
      rwa [List.idxOf_append_of_mem (mem_seed.1 hu).1, List.idxOf_append_of_mem (mem_seed.1 hv).1]
    rw [seed_concat]
    cases hadd : (seed seeds).1.add b with
    | error e => exact hold
    | ok r =>
      show r.entries.Pairwise _
      rw [entries_add hadd, List.pairwise_append]
      refine ⟨hold, List.pairwise_singleton _ b, ?_⟩
      intro u hu v hv
      obtain ⟨hseed, -⟩ := mem_seed.1 hu
      rw [List.mem_singleton.1 hv, List.idxOf_append_of_mem hseed]
      -- the new backend was not in the seed so far
      have hnew : b ∉ seeds := by
        intro hb
        have hmem : b ∈ (seed seeds).1.entries := by
          refine mem_seed.2 ⟨hb, ?_⟩
          rintro rfl
          have hnonempty := r.nonempty
          simp [entries_add hadd] at hnonempty
        have hnodup := r.nodup
        rw [entries_add hadd, List.nodup_append] at hnodup
        exact hnodup.2.2 b hmem b (List.mem_singleton_self b) rfl
      rw [List.idxOf_append_of_notMem hnew]
      have hplace := List.idxOf_lt_length_of_mem hseed
      omega

/-- **In which order**: who has stayed longer comes first. -/
theorem pairwise_roster (h : History) : h.roster.entries.Pairwise h.Before := by
  induction h using induction_on with
  | start seeds =>
    have hnever (u : String) (i : Nat) : ¬(History.mk seeds []).Added u i := by
      rintro ⟨hcall, -⟩
      cases hcall
    refine (pairwise_seed seeds).imp fun {u v} hlt t t' ht ht' => ?_
    cases ht with
    | added hadded hlast => exact absurd hadded (hnever _ _)
    | seeded hseed _ =>
      cases ht' with
      | added hadded hlast => exact absurd hadded (hnever _ _)
      | seeded hseed' _ => exact hlt
  | andThen h call ih =>
    rw [roster_andThen]
    -- who was there before and was not added now keeps its place
    have hkept {l : List String} (hl : l.Sublist h.roster.entries) (hadds : ∀ u ∈ l, ¬h.Adds call u) :
        l.Pairwise (h.andThen call).Before := by
      refine (ih.sublist hl).imp_of_mem fun {u v} hu hv hbefore t t' ht ht' => ?_
      exact hbefore t t' ((began_of_not_adds (hadds u hu)).1 ht) ((began_of_not_adds (hadds v hv)).1 ht')
    cases hanswer : call.answer h.roster with
    | error e =>
      rw [Call.after_of_error hanswer]
      refine hkept (List.Sublist.refl _) ?_
      rintro u - ⟨-, r, hok⟩
      rw [hanswer] at hok
      cases hok
    | ok r =>
      rw [Call.after_of_ok hanswer]
      cases call with
      | read =>
        cases hanswer
        exact hkept (List.Sublist.refl _) (by rintro u - ⟨hcall, -⟩; cases hcall)
      | remove b =>
        rw [entries_remove hanswer]
        exact hkept List.filter_sublist (by rintro u - ⟨hcall, -⟩; cases hcall)
      | add b =>
        have hnodup := r.nodup
        rw [entries_add hanswer] at hnodup ⊢
        obtain ⟨-, -, hnew⟩ := List.nodup_append.1 hnodup
        rw [List.pairwise_append]
        refine ⟨hkept (List.Sublist.refl _) ?_, List.pairwise_singleton _ b, ?_⟩
        · rintro u hu ⟨hcall, -⟩
          exact hnew u hu b (List.mem_singleton_self b) (Call.add.inj hcall).symm
        · intro u hu v hv t t' ht ht'
          have hother : ¬h.Adds (.add b) u := by
            rintro ⟨hcall, -⟩
            exact hnew u hu b (List.mem_singleton_self b) (Call.add.inj hcall).symm
          rw [List.mem_singleton.1 hv, began_of_adds ⟨rfl, r, hanswer⟩] at ht'
          rw [ht']
          exact ((began_of_not_adds hother).1 ht).lt

-- ---------------------------------------------------------------------------
-- What a history tells
-- ---------------------------------------------------------------------------

/-- A list without repetition is in order exactly if its places are. -/
theorem tells_order_iff {l : List String} (hnodup : l.Nodup) :
    (∀ u ∈ l, ∀ v ∈ l, ∀ t t', h.Began u t → h.Began v t' → (l.idxOf u < l.idxOf v ↔ t < t')) ↔
      l.Pairwise h.Before := by
  constructor
  · intro horder
    rw [List.pairwise_iff_getElem]
    intro i j hi hj hij t t' ht ht'
    refine (horder _ (List.getElem_mem hi) _ (List.getElem_mem hj) t t' ht ht').1 ?_
    rwa [hnodup.idxOf_getElem, hnodup.idxOf_getElem]
  · intro hpairwise u hu v hv t t' ht ht'
    have hahead {x y : String} (hx : x ∈ l) (hy : y ∈ l) (hlt : l.idxOf x < l.idxOf y) : h.Before x y := by
      have hbefore := List.pairwise_iff_getElem.1 hpairwise _ _ (List.idxOf_lt_length_of_mem hx)
        (List.idxOf_lt_length_of_mem hy) hlt
      rwa [List.getElem_idxOf, List.getElem_idxOf] at hbefore
    constructor
    · intro hlt
      exact hahead hu hv hlt t t' ht ht'
    · intro hlt
      by_contra hge
      rcases Nat.lt_or_eq_of_le (Nat.not_lt.1 hge) with hgt | heq
      · have hback := hahead hv hu hgt t' t ht' ht
        omega
      · rw [List.idxOf_inj hv] at heq
        rw [heq] at ht'
        have hsame := ht.unique ht'
        omega

/-- A history tells the roster. -/
theorem tells_roster (h : History) : h.Tells h.roster.entries where
  mem_iff := h.mem_roster_iff
  once _ hu := List.count_eq_one_of_mem h.roster.nodup hu
  began _ hu := h.exists_began hu
  order := (tells_order_iff h.roster.nodup).2 h.pairwise_roster

/-- **A history tells one list at most.** -/
theorem Tells.unique {l l' : List String} (hl : h.Tells l) (hl' : h.Tells l') : l = l' := by
  have hnodup {k : List String} (hk : h.Tells k) : k.Nodup := by
    refine List.nodup_iff_count_le_one.2 fun u => ?_
    by_cases hu : u ∈ k
    · exact Nat.le_of_eq (hk.once u hu)
    · rw [List.count_eq_zero_of_not_mem hu]
      exact Nat.zero_le 1
  have hperm : l.Perm l' :=
    (List.perm_ext_iff_of_nodup (hnodup hl) (hnodup hl')).2 fun u => (hl.mem_iff u).trans (hl'.mem_iff u).symm
  have hpairwise {k : List String} (hk : h.Tells k) : k.Pairwise h.Before :=
    (tells_order_iff (hnodup hk)).1 hk.order
  refine hperm.eq_of_pairwise (fun u v hu hv huv hvu => ?_) (hpairwise hl) (hpairwise hl')
  obtain ⟨t, ht⟩ := hl.began u hu
  obtain ⟨t', ht'⟩ := hl'.began v hv
  have hlt := huv t t' ht ht'
  have hgt := hvu t' t ht' ht
  omega

theorem tells_iff (h : History) (l : List String) : h.Tells l ↔ l = h.roster.entries := by
  constructor
  · intro hl
    exact hl.unique h.tells_roster
  · rintro rfl
    exact h.tells_roster

/-- What a call answers is the roster that it leaves. -/
theorem roster_upTo_of_answer? {i : Nat} {r : Roster} (hanswer : h.answer? i = some (.ok r)) :
    (h.upTo (i + 1)).roster = r := by
  obtain ⟨call, hcall, hok⟩ := Option.map_eq_some_iff.1 hanswer
  have hnext : h.upTo (i + 1) = (h.upTo i).andThen call := by
    simp only [upTo, andThen, List.take_add_one, hcall, Option.toList_some]
  rw [hnext, roster_andThen]
  exact Call.after_of_ok hok

/-- An addition is refused to the empty string and to whoever is there. -/
theorem exists_answer?_add_iff {i : Nat} (hcall : h.calls[i]? = some (.add u)) :
    (∃ r, h.answer? i = some (.ok r)) ↔ u ≠ "" ∧ ¬(h.upTo i).Lists u := by
  have hanswer : h.answer? i = some ((h.upTo i).roster.add u) := by
    rw [answer?, hcall]
    rfl
  rw [hanswer, ← mem_roster_iff, add]
  split
  · simp [*]
  · split
    · simp [*]
    · simp [*]

/-- A removal is refused to the empty string alone. -/
theorem exists_answer?_remove_iff {i : Nat} (hcall : h.calls[i]? = some (.remove u)) :
    (∃ r, h.answer? i = some (.ok r)) ↔ u ≠ "" := by
  have hanswer : h.answer? i = some ((h.upTo i).roster.remove u) := by
    rw [answer?, hcall]
    rfl
  rw [hanswer, remove]
  split
  · simp [*]
  · simp [*]

/-- **The entries of a roster are what its history tells**: they are at the end, and those that a call answers are
so of the history up to and with that call. The empty string is refused, and so is the addition of a backend that
the history before it has. -/
theorem entries_of_history (h : History) :
    (∀ l, h.Tells l ↔ l = h.roster.entries) ∧
      (∀ i r, h.answer? i = some (.ok r) → ∀ l, (h.upTo (i + 1)).Tells l ↔ l = r.entries) ∧
      (∀ i u, h.calls[i]? = some (.add u) →
        ((∃ r, h.answer? i = some (.ok r)) ↔ u ≠ "" ∧ ¬(h.upTo i).Lists u)) ∧
      ∀ i u, h.calls[i]? = some (.remove u) → ((∃ r, h.answer? i = some (.ok r)) ↔ u ≠ "") := by
  refine ⟨h.tells_iff, ?_, fun _ _ => exists_answer?_add_iff, fun _ _ => exists_answer?_remove_iff⟩
  intro i r hanswer l
  rw [← roster_upTo_of_answer? hanswer]
  exact tells_iff _ l

end History

end Repeater.Roster
