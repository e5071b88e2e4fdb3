import Repeater.Text.Blank
import Repeater.Journal.Event

/-!
# The roster

The backends that requests are relayed to: an ordered list of texts without the empty text and
without repetition. Entries are compared as they are written.

* `Roster.add` appends an entry, `Roster.remove` drops one; both refuse the empty text;
* `Roster.seed` takes the entries of a list that may be taken, in order;
* `Roster.line` is the list on one line.

A roster is a value, so whoever holds one keeps it whatever happens to later ones.
-/

namespace Repeater

/-- An ordered list of backends, none empty and none twice. -/
structure Roster where
  entries : List String
  nodup : entries.Nodup := by simp
  nonempty : "" ∉ entries := by simp

namespace Roster

instance : DecidableEq Roster := fun r s =>
  if h : r.entries = s.entries then
    isTrue (by cases r; cases s; simp_all)
  else isFalse (by rintro rfl; exact h rfl)

/-- Why a change is refused. -/
inductive Refusal where
  /-- No backend was named. -/
  | missing
  /-- The backend is on the roster already. -/
  | present (backend : String)
  deriving DecidableEq, Repr

/-- The text shown for a refusal. -/
def Refusal.message : Refusal → String
  | .missing => "server parameter is missing"
  | .present _ => "already there"

/-- The roster of no backends. -/
def empty : Roster := { entries := [] }

/-- Appends a backend that is neither empty nor present. -/
def add (r : Roster) (backend : String) : Except Refusal Roster :=
  if hb : backend = "" then .error .missing
  else if h : backend ∈ r.entries then .error (.present backend)
  else .ok {
    entries := r.entries ++ [backend]
    nodup := by
      refine List.nodup_append.2 ⟨r.nodup, by simp, ?_⟩
      intro a ha b hb' hab
      rw [List.mem_singleton] at hb'
      exact h (hb' ▸ hab ▸ ha)
    nonempty := by
      simp only [List.mem_append, List.mem_singleton, not_or]
      exact ⟨r.nonempty, fun e => hb e.symm⟩ }

/-- Drops a backend; one that is absent is no fault. -/
def remove (r : Roster) (backend : String) : Except Refusal Roster :=
  if backend = "" then .error .missing
  else .ok {
    entries := r.entries.filter (· != backend)
    nodup := r.nodup.filter _
    nonempty := fun h => r.nonempty (List.mem_filter.1 h).1 }

/-- Adds the backends of a list one by one, passing over those that are refused, which are returned
beside the roster. -/
def seed (backends : List String) : Roster × List String :=
  backends.foldl (fun (r, skipped) b =>
    match r.add b with
    | .ok r' => (r', skipped)
    | .error _ => (r, skipped ++ [b])) (empty, [])

/-- The entries with a blank between them. -/
def line (r : Roster) : String :=
  " ".intercalate r.entries

/-- The number of entries. -/
def size (r : Roster) : Nat :=
  r.entries.length

-- ---------------------------------------------------------------------------
-- What the journal says of it
-- ---------------------------------------------------------------------------

/-- Entries of a seed list that were passed over. -/
def skipEvents (skipped : List String) : List Journal.Event :=
  skipped.map fun b =>
    { level := .warn, origin := .roster, message := "Skipping empty or duplicate backend",
      fields := [("backend", b)] }

/-- What an addition to `r` writes. -/
def addEvents (r : Roster) (backend : String) : List Journal.Event :=
  match r.add backend with
  | .ok _ =>
    [{ level := .info, origin := .roster, message := "Backend registered",
       fields := [("backend", backend)] }]
  | .error _ => []

/-- What a removal from `r` writes. -/
def removeEvents (r : Roster) (backend : String) : List Journal.Event :=
  if backend = "" then []
  else if backend ∈ r.entries then
    [{ level := .info, origin := .roster, message := "Backend unregistered",
       fields := [("backend", backend)] }]
  else
    [{ level := .debug, origin := .roster, message := "Unregister of unknown backend ignored",
       fields := [("backend", backend)] }]

-- ---------------------------------------------------------------------------
-- The entries after a change
-- ---------------------------------------------------------------------------

@[ext] theorem ext {r s : Roster} (h : r.entries = s.entries) : r = s := by
  cases r; cases s; simp_all

theorem entries_add {r s : Roster} {b : String} (h : r.add b = .ok s) :
    s.entries = r.entries ++ [b] := by
  unfold add at h
  split at h
  · simp at h
  · split at h
    · simp at h
    · simp only [Except.ok.injEq] at h
      rw [← h]

theorem entries_remove {r s : Roster} {b : String} (h : r.remove b = .ok s) :
    s.entries = r.entries.filter (· != b) := by
  unfold remove at h
  split at h
  · simp at h
  · simp only [Except.ok.injEq] at h
    rw [← h]

end Roster

end Repeater
