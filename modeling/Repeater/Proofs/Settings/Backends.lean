import Repeater.Proofs.Roster.Calls
import Repeater.Proofs.Settings.TimeLimit
import Repeater.Proofs.Text.Words

/-!
# The backends of settings

The backends of the settings are looked at three times: they are checked, they seed the roster, and before that
the command line adds to them. Each time an entry is judged by those before it. Here it is said once what becomes
of an entry (`review`), and the three are shown to agree.

* `review`    — goes through a list, each entry with those before it and its position;
* `problemOf` — the problem of an entry: it is empty, or has been listed before;
* `newcomer`  — an entry that is neither known nor has been listed before.

## Results

* `filter_problems`     — the problems that are reported of backends;
* `seed_eq_review`      — the roster takes the entries without a problem and passes over the others;
* `merge_eq_review`     — the command line adds the newcomers among its words;
* `seeded_as_checked`   — checking and seeding agree, so accepted settings seed all of their backends;
* `merged_cleanly`      — the command line adds no problem, and only its words count.
-/

namespace Repeater

/-- A problem of the list of backends. -/
def Problem.isOfBackend : Problem → Bool
  | .emptyBackend _ | .duplicateBackend _ => true
  | .bindAddress _ | .metricsAddress _ => false

namespace Settings

-- ---------------------------------------------------------------------------
-- Entry by entry
-- ---------------------------------------------------------------------------

/-- What is said of the entries of a list, in order, each of them seen with those before it and its position. -/
def review {α : Type} (f : List String → String → Nat → Option α) (bs : List String) : List α :=
  bs.zipIdx.filterMap fun (b, i) => f (bs.take i) b i

theorem review_concat {α : Type} (f : List String → String → Nat → Option α) (bs : List String) (b : String) :
    review f (bs ++ [b]) = review f bs ++ (f bs b bs.length).toList := by
  have hfront : bs.zipIdx.filterMap (fun (x, i) => f ((bs ++ [b]).take i) x i) = review f bs := by
    refine List.filterMap_congr fun (x, i) hx => ?_
    have hi : i < bs.length := by simpa using (List.mem_zipIdx hx).2.1
    dsimp only
    rw [List.take_append_of_le_length (Nat.le_of_lt hi)]
  rw [review, List.zipIdx_append, List.filterMap_append, hfront]
  cases hf : f bs b bs.length <;> simp [hf]

/-- The problem of an entry. -/
def problemOf (before : List String) (b : String) (i : Nat) : Option Problem :=
  if b = "" then some (.emptyBackend i)
  else if b ∈ before then some (.duplicateBackend b)
  else none

/-- An entry without a problem. -/
def soundEntry (before : List String) (b : String) (i : Nat) : Option String :=
  if problemOf before b i = none then some b else none

/-- An entry with a problem. -/
def badEntry (before : List String) (b : String) (i : Nat) : Option String :=
  if problemOf before b i = none then none else some b

/-- An entry that is neither known nor has been listed before. -/
def newcomer (known before : List String) (b : String) (_ : Nat) : Option String :=
  if b ∈ known ∨ b ∈ before then none else some b

-- ---------------------------------------------------------------------------
-- Checking
-- ---------------------------------------------------------------------------

/-- With one more backend one more problem is reported, if it has one. -/
theorem backendProblems_concat (seen : List String) (i : Nat) (bs : List String) (b : String) :
    backendProblems seen i (bs ++ [b]) =
      backendProblems seen i bs ++ (problemOf (seen ++ bs) b (i + bs.length)).toList := by
  induction bs generalizing seen i with
  | nil =>
    simp only [List.nil_append, backendProblems, problemOf, List.append_nil, List.length_nil, Nat.add_zero]
    split
    · rfl
    · split <;> rfl
  | cons x bs ih =>
    -- what has been seen are the sound entries, which are as good as all of them for a text that is not empty
    have hcongr (before before' : List String) (h : b ≠ "" → (b ∈ before ↔ b ∈ before')) (j : Nat) :
        problemOf before b j = problemOf before' b j := by
      by_cases hb : b = ""
      · simp [problemOf, hb]
      · simp [problemOf, h hb]
    have hposition : i + (x :: bs).length = i + 1 + bs.length := by
      rw [List.length_cons]
      omega
    rw [List.cons_append, backendProblems, backendProblems, hposition]
    by_cases hempty : x = ""
    · have hsame := hcongr (seen ++ bs) (seen ++ x :: bs) (fun hb => by simp [hempty, hb])
      rw [if_pos hempty, if_pos hempty, ih, hsame, List.cons_append]
    · by_cases hseen : x ∈ seen
      · have hsame := hcongr (seen ++ bs) (seen ++ x :: bs) (fun _ => by
          by_cases hbx : b = x
          · simp [hbx, hseen]
          · simp [hbx])
        rw [if_neg hempty, if_neg hempty, if_pos hseen, if_pos hseen, ih, hsame, List.cons_append]
      · have hsame := hcongr (x :: seen ++ bs) (seen ++ x :: bs) (fun _ => by
          simp only [List.cons_append, List.mem_cons, List.mem_append]
          tauto)
        rw [if_neg hempty, if_neg hempty, if_neg hseen, if_neg hseen, ih, hsame]

/-- The problems of backends are those of the entries, in order. -/
theorem backendProblems_eq_review (bs : List String) : backendProblems [] 0 bs = review problemOf bs := by
  induction bs using List.reverseRecOn with
  | nil => rfl
  | append_singleton bs b ih => rw [backendProblems_concat, review_concat, ih, List.nil_append, Nat.zero_add]

theorem isOfBackend_of_mem_review {bs : List String} {p : Problem} (h : p ∈ review problemOf bs) :
    p.isOfBackend = true := by
  obtain ⟨⟨b, i⟩, -, hp⟩ := List.mem_filterMap.1 h
  dsimp only [problemOf] at hp
  split at hp
  · rw [← Option.some.inj hp]
    rfl
  · split at hp
    · rw [← Option.some.inj hp]
      rfl
    · cases hp

/-- The problems that are reported of backends are those of the entries. -/
theorem filter_problems (s : Settings) :
    s.problems.filter Problem.isOfBackend = review problemOf s.backends := by
  have haddress (p : Prop) [Decidable p] (a : Problem) (ha : a.isOfBackend = false) :
      (if p then [] else [a]).filter Problem.isOfBackend = [] := by
    split <;> simp [ha]
  have hmetrics (p : Prop) [Decidable p] (a : Problem) (ha : a.isOfBackend = false) :
      (if p then [a] else []).filter Problem.isOfBackend = [] := by
    split <;> simp [ha]
  rw [problems, backendProblems_eq_review, List.filter_append, List.filter_append, haddress _ _ rfl,
    hmetrics _ _ rfl, List.filter_eq_self.2 fun p => isOfBackend_of_mem_review]
  rfl

-- ---------------------------------------------------------------------------
-- Seeding
-- ---------------------------------------------------------------------------

theorem problemOf_eq_none_iff {before : List String} {b : String} {i : Nat} :
    problemOf before b i = none ↔ b ≠ "" ∧ b ∉ before := by
  unfold problemOf
  split
  · simp [*]
  · split <;> simp [*]

/-- The roster takes the entries without a problem and passes over the others. -/
theorem seed_eq_review (bs : List String) :
    (Roster.seed bs).1.entries = review soundEntry bs ∧ (Roster.seed bs).2 = review badEntry bs := by
  induction bs using List.reverseRecOn with
  | nil => exact ⟨rfl, rfl⟩
  | append_singleton bs b ih =>
    have htaken {r : Roster} (hadd : (Roster.seed bs).1.add b = .ok r) :
        Roster.seed (bs ++ [b]) = (r, (Roster.seed bs).2) := by
      rw [Roster.seed, List.foldl_append, ← Roster.seed, List.foldl_cons, List.foldl_nil]
      simp only [hadd]
    have hpassed {e : Roster.Refusal} (hadd : (Roster.seed bs).1.add b = .error e) :
        Roster.seed (bs ++ [b]) = ((Roster.seed bs).1, (Roster.seed bs).2 ++ [b]) := by
      rw [Roster.seed, List.foldl_append, ← Roster.seed, List.foldl_cons, List.foldl_nil]
      simp only [hadd]
    rw [review_concat, review_concat, ← ih.1, ← ih.2, soundEntry, badEntry]
    by_cases hempty : b = ""
    · have hadd : (Roster.seed bs).1.add b = .error .missing := by rw [Roster.add, dif_pos hempty]
      have hproblem : problemOf bs b bs.length ≠ none := fun h => (problemOf_eq_none_iff.1 h).1 hempty
      simp [hpassed hadd, hproblem]
    · have hmem : b ∈ (Roster.seed bs).1.entries ↔ b ∈ bs := by
        rw [Roster.mem_seed]
        exact and_iff_left hempty
      by_cases hin : b ∈ bs
      · have hadd : (Roster.seed bs).1.add b = .error (.present b) := by
          rw [Roster.add, dif_neg hempty, dif_pos (hmem.2 hin)]
        have hproblem : problemOf bs b bs.length ≠ none := fun h => (problemOf_eq_none_iff.1 h).2 hin
        simp [hpassed hadd, hproblem]
      · have hproblem : problemOf bs b bs.length = none := problemOf_eq_none_iff.2 ⟨hempty, hin⟩
        cases hadd : (Roster.seed bs).1.add b with
        | ok r => simp [htaken hadd, hproblem, Roster.entries_add hadd]
        | error e =>
          rw [Roster.add, dif_neg hempty, dif_neg (mt hmem.1 hin)] at hadd
          cases hadd

/-- As many entries are passed over as there are problems. -/
theorem length_review_badEntry (bs : List String) : (review badEntry bs).length = (review problemOf bs).length := by
  induction bs using List.reverseRecOn with
  | nil => rfl
  | append_singleton bs b ih =>
    rw [review_concat, review_concat, List.length_append, List.length_append, ih, badEntry]
    cases problemOf bs b bs.length <;> simp

/-- Where there is no problem every entry is without one. -/
theorem review_soundEntry_of_sound {bs : List String} (h : review problemOf bs = []) : review soundEntry bs = bs := by
  induction bs using List.reverseRecOn with
  | nil => rfl
  | append_singleton bs b ih =>
    rw [review_concat, List.append_eq_nil_iff, Option.toList_eq_nil_iff] at h
    rw [review_concat, ih h.1, soundEntry, if_pos h.2]
    rfl

theorem problems_of_load {file : Option File} {o : Overrides} {s : Settings} (h : load file o = .ok s) :
    s.problems = [] := by
  unfold load at h
  split at h
  · cases h
  · dsimp only at h
    split at h
    · rename_i hsound
      rw [← Except.ok.inj h]
      exact List.isEmpty_iff.1 hsound
    · cases h

/-- **Checking and seeding agree.** Of any list of backends the problems are those of its entries one by one, in
order; the roster takes the entries without a problem and passes over the others, with a warning for each problem.
So accepted settings seed all of their backends, in order, and unless their time limit is at fault the server
starts with them. -/
theorem seeded_as_checked :
    (∀ s : Settings,
      s.problems.filter Problem.isOfBackend = review problemOf s.backends ∧
        (Roster.seed s.backends).1.entries = review soundEntry s.backends ∧
        (Roster.seed s.backends).2 = review badEntry s.backends ∧
        (Roster.skipEvents (Roster.seed s.backends).2).length =
          (s.problems.filter Problem.isOfBackend).length) ∧
      ∀ file overrides s, load file overrides = .ok s →
        (Roster.seed s.backends).1.entries = s.backends ∧ (Roster.seed s.backends).2 = [] ∧
          ((∃ server events, Server.ofSettings s = .ok (server, events) ∧ server.roster.entries = s.backends) ∨
            Server.ofSettings s = .error .carry ∧ s.forwarding.Breaks) := by
  constructor
  · intro s
    obtain ⟨hentries, hskipped⟩ := seed_eq_review s.backends
    refine ⟨filter_problems s, hentries, hskipped, ?_⟩
    rw [Roster.skipEvents, List.length_map, hskipped, filter_problems, length_review_badEntry]
  · intro file overrides s hload
    have hsound : review problemOf s.backends = [] := by
      rw [← filter_problems, problems_of_load hload]
      rfl
    obtain ⟨hentries, hskipped⟩ := seed_eq_review s.backends
    rw [review_soundEntry_of_sound hsound] at hentries
    have hnone : review badEntry s.backends = [] := by
      rw [← List.length_eq_zero_iff, length_review_badEntry, hsound]
      rfl
    refine ⟨hentries, hskipped.trans hnone, ?_⟩
    cases hserver : Server.ofSettings s with
    | ok made =>
      obtain ⟨server, events⟩ := made
      left
      refine ⟨server, events, rfl, ?_⟩
      rw [(Server.ofSettings_spec hserver).2, hentries]
    | error e =>
      obtain ⟨rfl, hbreaks⟩ := Forwarding.timeout_eq_error_iff.1 (Server.ofSettings_eq_error_iff.1 hserver)
      exact .inr ⟨rfl, hbreaks⟩

/-- Backends of the command line, one of them twice, seed a server. -/
theorem seeded_as_checked_twice :
    let s : Settings := { backends := ["http://b", "http://a"] }
    load none { backends := ["http://b  http://a", "http://b"] } = .ok s ∧
      ∃ server events, Server.ofSettings s = .ok (server, events) ∧ server.roster.entries = s.backends := by
  intro s
  have hload : load none { backends := ["http://b  http://a", "http://b"] } = .ok s := by decide +kernel
  refine ⟨hload, ?_⟩
  obtain ⟨-, -, hserver | ⟨hfault, -⟩⟩ := seeded_as_checked.2 none _ s hload
  · exact hserver
  · rw [Server.ofSettings_eq_error_iff] at hfault
    cases hfault

-- ---------------------------------------------------------------------------
-- Backends of the command line
-- ---------------------------------------------------------------------------

/-- A word is added unless it is there already. -/
def merge (bs : List String) (ws : List String) : List String :=
  ws.foldl (fun bs b => if b ∈ bs then bs else bs ++ [b]) bs

theorem extend_eq_merge (bs texts : List String) : Overrides.extend bs texts = merge bs (texts.flatMap Text.words) :=
  rfl

theorem merge_concat (bs ws : List String) (b : String) :
    merge bs (ws ++ [b]) = if b ∈ merge bs ws then merge bs ws else merge bs ws ++ [b] :=
  List.foldl_append

theorem mem_merge {bs ws : List String} {x : String} : x ∈ merge bs ws ↔ x ∈ bs ∨ x ∈ ws := by
  induction ws using List.reverseRecOn with
  | nil => simp [merge]
  | append_singleton ws b ih =>
    rw [merge_concat, List.mem_append, List.mem_singleton]
    by_cases hb : b ∈ merge bs ws
    · rw [if_pos hb, ih]
      constructor
      · exact fun h => h.imp_right .inl
      · rintro (h | h | rfl)
        · exact .inl h
        · exact .inr h
        · exact ih.1 hb
    · rw [if_neg hb, List.mem_append, List.mem_singleton, ih, or_assoc]

/-- The newcomers among the words are added. -/
theorem merge_eq_review (bs ws : List String) : merge bs ws = bs ++ review (newcomer bs) ws := by
  induction ws using List.reverseRecOn with
  | nil => exact (List.append_nil bs).symm
  | append_singleton ws b ih =>
    rw [merge_concat, review_concat, newcomer]
    by_cases hb : b ∈ bs ∨ b ∈ ws
    · rw [if_pos (mem_merge.2 hb), if_pos hb, Option.toList_none, List.append_nil, ih]
    · rw [if_neg (mt mem_merge.1 hb), if_neg hb, Option.toList_some, ih, List.append_assoc]

/-- What is added has no problem. -/
theorem review_problemOf_merge {bs ws : List String} (h : "" ∉ ws) :
    review problemOf (merge bs ws) = review problemOf bs := by
  induction ws using List.reverseRecOn with
  | nil => rfl
  | append_singleton ws b ih =>
    rw [List.mem_append, List.mem_singleton, not_or] at h
    rw [merge_concat]
    split
    · exact ih h.1
    · rename_i hnew
      have hnone : problemOf (merge bs ws) b (merge bs ws).length = none :=
        problemOf_eq_none_iff.2 ⟨fun hb => h.2 hb.symm, hnew⟩
      rw [review_concat, ih h.1, hnone, Option.toList_none, List.append_nil]

theorem isWord_of_newcomer {bs texts : List String} {b : String}
    (h : b ∈ review (newcomer bs) (texts.flatMap Text.words)) : Text.IsWord b := by
  have hmem : b ∈ texts.flatMap Text.words := by
    obtain ⟨⟨x, i⟩, hx, hb⟩ := List.mem_filterMap.1 h
    dsimp only [newcomer] at hb
    split at hb
    · cases hb
    · rw [← Option.some.inj hb]
      exact List.fst_mem_of_mem_zipIdx hx
  obtain ⟨text, -, hword⟩ := List.mem_flatMap.1 hmem
  exact Text.isWord_of_mem_words hword

/-- **The command line adds backends cleanly.** The list of the file stays, and behind it come the words of the
texts, in order, without those that the file has and those that came before. What comes is no empty text and has
no blanks, and no problem comes with it. Nothing but the words counts, so they may stand on one line. -/
theorem merged_cleanly (s : Settings) (o : Overrides) :
    (o.apply s).backends = s.backends ++ review (newcomer s.backends) (o.backends.flatMap Text.words) ∧
      (∀ b ∈ review (newcomer s.backends) (o.backends.flatMap Text.words), Text.IsWord b) ∧
      (o.apply s).problems.filter Problem.isOfBackend = s.problems.filter Problem.isOfBackend ∧
      (∀ o' : Overrides, o'.backends.flatMap Text.words = o.backends.flatMap Text.words →
        (o'.apply s).backends = (o.apply s).backends) ∧
      ({ o with backends := [" ".intercalate o.backends] }.apply s).backends = (o.apply s).backends := by
  have hbackends (o : Overrides) : (o.apply s).backends = merge s.backends (o.backends.flatMap Text.words) :=
    extend_eq_merge s.backends o.backends
  have hempty : "" ∉ o.backends.flatMap Text.words := by
    intro h
    obtain ⟨text, -, hword⟩ := List.mem_flatMap.1 h
    exact (Text.isWord_of_mem_words hword).1 rfl
  refine ⟨?_, fun b hb => isWord_of_newcomer hb, ?_, ?_, ?_⟩
  · rw [hbackends, merge_eq_review]
  · rw [filter_problems, filter_problems, hbackends, review_problemOf_merge hempty]
  · intro o' hwords
    rw [hbackends, hbackends, hwords]
  · have hline : [" ".intercalate o.backends].flatMap Text.words = o.backends.flatMap Text.words := by
      rw [List.flatMap_singleton, Text.words_line]
    rw [hbackends, hbackends, hline]

/-- Two ways to give the same words, to a file that has one of them. -/
theorem merged_cleanly_flags :
    let s : Settings := { backends := ["http://a", "", "http://a"] }
    let o : Overrides := { backends := ["http://b http://a", "http://c\thttp://b"] }
    let o' : Overrides := { backends := ["http://b", "http://a", "http://c", "http://b"] }
    o'.backends.flatMap Text.words = o.backends.flatMap Text.words ∧
      (o'.apply s).backends = ["http://a", "", "http://a", "http://b", "http://c"] ∧
      (∀ b ∈ ["http://b", "http://c"], Text.IsWord b) := by
  intro s o o'
  have hwords : o'.backends.flatMap Text.words = o.backends.flatMap Text.words := by decide +kernel
  obtain ⟨-, hclean, -, hsame, -⟩ := merged_cleanly s o
  have hadded : review (newcomer s.backends) (o.backends.flatMap Text.words) = ["http://b", "http://c"] := by
    decide +kernel
  refine ⟨hwords, (hsame o' hwords).trans (by decide +kernel), hadded ▸ hclean⟩

end Settings

end Repeater
