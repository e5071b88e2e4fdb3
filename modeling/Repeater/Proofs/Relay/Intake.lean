import Repeater.Relay.Intake

/-!
# What is taken in

A body is taken in exactly if each of its pieces can be read and all of them together are not too many bytes;
then it is the pieces joined, however it was cut.

## Results

* `collectFrom_eq_ok_iff` — what is left of the limit is enough for the pieces to come;
* `collect_eq_ok_iff`     — which bodies are taken in, and what they are then;
* `collect_stands`        — how it stands when some of the pieces have come;
* `accept_iff_fits`        — which requests are taken in, and what they are then, however their bodies are cut.
-/

namespace Repeater.Relay

/-- The bytes of a piece; one that cannot be read has none. -/
def Piece.bytes : Piece → ByteArray
  | .data b => b
  | .broken _ => .empty

/-- The bytes of a body. -/
def joined (pieces : List Piece) : ByteArray :=
  pieces.foldr (fun p b => p.bytes ++ b) .empty

/-- Every piece of a body can be read, and it has no more bytes than the limit. -/
structure Fits (limit : Nat) (pieces : List Piece) : Prop where
  readable : ∀ reason, Piece.broken reason ∉ pieces
  size_le : (joined pieces).size ≤ limit

theorem fits_nil (limit : Nat) : Fits limit [] where
  readable _ := List.not_mem_nil
  size_le := Nat.zero_le limit

theorem not_fits_broken (limit : Nat) (reason : String) (pieces : List Piece) :
    ¬Fits limit (.broken reason :: pieces) :=
  fun h => h.readable reason List.mem_cons_self

theorem size_joined_cons (b : ByteArray) (pieces : List Piece) :
    (joined (.data b :: pieces)).size = b.size + (joined pieces).size :=
  ByteArray.size_append

/-- A piece takes its bytes off the limit. -/
theorem fits_data_iff {limit : Nat} {b : ByteArray} {pieces : List Piece} :
    Fits limit (.data b :: pieces) ↔ b.size ≤ limit ∧ Fits (limit - b.size) pieces := by
  constructor
  · intro h
    have hsize := h.size_le
    rw [size_joined_cons] at hsize
    refine ⟨by omega, fun reason hmem => h.readable reason (List.mem_cons_of_mem _ hmem), by omega⟩
  · rintro ⟨hle, h⟩
    have hsize := h.size_le
    refine ⟨fun reason hmem => ?_, by rw [size_joined_cons]; omega⟩
    rcases List.mem_cons.1 hmem with heq | hmem
    · cases heq
    · exact h.readable reason hmem

theorem collectFrom_eq_ok_iff {left : Nat} {done body : ByteArray} {pieces : List Piece} :
    collectFrom left done pieces = .ok body ↔ Fits left pieces ∧ body = done ++ joined pieces := by
  induction pieces generalizing left done with
  | nil =>
    have hjoined : done ++ joined [] = done := ByteArray.append_empty
    rw [collectFrom, hjoined, Except.ok.injEq, eq_comm]
    exact (and_iff_right (fits_nil left)).symm
  | cons p r ih =>
    cases p with
    | broken reason =>
      constructor
      · intro h
        cases h
      · rintro ⟨h, -⟩
        exact absurd h (not_fits_broken left reason r)
    | data b =>
      have hjoined : done ++ joined (.data b :: r) = done ++ b ++ joined r :=
        ByteArray.append_assoc.symm
      rw [collectFrom, fits_data_iff, hjoined, and_assoc]
      by_cases hle : b.size ≤ left
      · rw [if_pos hle, ih, and_iff_right hle]
      · rw [if_neg hle]
        constructor
        · intro h
          cases h
        · rintro ⟨hle', -⟩
          exact absurd hle' hle

/-- **A body is taken in exactly if it can be read and fits**; then it is its pieces joined. -/
theorem collect_eq_ok_iff {limit : Nat} {body : ByteArray} {pieces : List Piece} :
    collect limit pieces = .ok body ↔ Fits limit pieces ∧ body = joined pieces := by
  rw [collect, collectFrom_eq_ok_iff, ByteArray.empty_append]

instance (limit : Nat) (pieces : List Piece) : Decidable (Fits limit pieces) :=
  match h : collect limit pieces with
  | .ok _ => .isTrue (collect_eq_ok_iff.1 h).1
  | .error _ => .isFalse fun hfits => by
    rw [collect_eq_ok_iff.2 ⟨hfits, rfl⟩] at h
    cases h

theorem Intake.capture_of_fits {limit : Nat} {a : Arrival} (h : Fits limit a.body) :
    capture limit a = .ok {
      method := a.method, target := String.ofList (a.target.pathAndQuery?.getD ['/'])
      headers := a.headers, body := joined a.body, requestId := Relay.requestId a.headers } := by
  rw [capture, collect_eq_ok_iff.2 ⟨h, rfl⟩]

theorem Intake.capture_of_not_fits {limit : Nat} {a : Arrival} (h : ¬Fits limit a.body) :
    ∃ e, capture limit a = .error e := by
  cases hcollect : collect limit a.body with
  | ok body => exact absurd (collect_eq_ok_iff.1 hcollect).1 h
  | error e => exact ⟨e, by rw [capture, hcollect]⟩

-- ---------------------------------------------------------------------------
-- Pieces that have come
-- ---------------------------------------------------------------------------

/-- The pieces that have come have taken their bytes off the limit; if they could not be joined, nothing more is
read. -/
theorem collectFrom_append (left : Nat) (done : ByteArray) (past rest : List Piece) :
    collectFrom left done (past ++ rest) =
      match collectFrom left done past with
      | .ok body => collectFrom (left - (joined past).size) body rest
      | .error e => .error e := by
  induction past generalizing left done with
  | nil => rfl
  | cons p r ih =>
    cases p with
    | broken reason => rfl
    | data b =>
      rw [List.cons_append, collectFrom, collectFrom]
      by_cases hle : b.size ≤ left
      · rw [if_pos hle, if_pos hle, ih, size_joined_cons, Nat.sub_add_eq]
      · rw [if_neg hle, if_neg hle]

/-- **How it stands when some of the pieces have come**: what is left and what has come make up the limit, or nothing
more is read. -/
theorem collect_stands (limit : Nat) (past : List Piece) :
    (∃ left, left + (joined past).size = limit ∧
      ∀ rest, collect limit (past ++ rest) = collectFrom left (joined past) rest) ∨
    ∃ e, ∀ rest, collect limit (past ++ rest) = .error e := by
  cases hpast : collectFrom limit .empty past with
  | ok body =>
    obtain ⟨hfits, hbody⟩ := collect_eq_ok_iff.1 hpast
    refine .inl ⟨limit - (joined past).size, Nat.sub_add_cancel hfits.size_le, fun rest => ?_⟩
    rw [collect, collectFrom_append, hpast, hbody]
  | error e =>
    refine .inr ⟨e, fun rest => ?_⟩
    rw [collect, collectFrom_append, hpast]

-- ---------------------------------------------------------------------------
-- Requests
-- ---------------------------------------------------------------------------

/-- A request with a body of these bytes, as it is taken in. -/
def Arrival.takenIn (a : Arrival) (body : ByteArray) : Intake where
  method := a.method
  target := String.ofList (a.target.pathAndQuery?.getD ['/'])
  headers := a.headers
  body := body
  requestId := requestId a.headers

/-- Two requests that differ in how their bodies are cut at most: the same bytes arrive, and there is a failure to
read on in both or in none. -/
structure Arrival.IsRecut (a a' : Arrival) : Prop where
  method_eq : a'.method = a.method
  target_eq : a'.target = a.target
  headers_eq : a'.headers = a.headers
  bytes_eq : joined a'.body = joined a.body
  broken_iff : (∃ reason, Piece.broken reason ∈ a'.body) ↔ ∃ reason, Piece.broken reason ∈ a.body

theorem Arrival.IsRecut.fits_iff {a a' : Arrival} (h : a.IsRecut a') (limit : Nat) :
    Fits limit a'.body ↔ Fits limit a.body := by
  have hreadable {b b' : Arrival} (hbroken : (∃ reason, Piece.broken reason ∈ b'.body) →
      ∃ reason, Piece.broken reason ∈ b.body) (hb : ∀ reason, Piece.broken reason ∉ b.body) (reason : String) :
      Piece.broken reason ∉ b'.body := by
    intro hmem
    obtain ⟨reason', hmem'⟩ := hbroken ⟨reason, hmem⟩
    exact hb reason' hmem'
  constructor
  · intro hfits
    exact ⟨hreadable h.broken_iff.2 hfits.readable, h.bytes_eq ▸ hfits.size_le⟩
  · intro hfits
    exact ⟨hreadable h.broken_iff.1 hfits.readable, h.bytes_eq.symm ▸ hfits.size_le⟩

theorem Intake.accept_of_fits {limit : Nat} {a : Arrival} (h : Fits limit a.body) :
    accept limit a = .ok (a.takenIn (joined a.body)) := by
  rw [accept, capture_of_fits h]
  rfl

theorem Intake.accept_of_not_fits {limit : Nat} {a : Arrival} (h : ¬Fits limit a.body) :
    accept limit a = .error (.bodyTooLarge limit) := by
  obtain ⟨e, he⟩ := capture_of_not_fits h
  rw [accept, he]
  rfl

theorem Arrival.IsRecut.accept_eq {a a' : Arrival} (h : a.IsRecut a') (limit : Nat) :
    Intake.accept limit a' = Intake.accept limit a := by
  by_cases hfits : Fits limit a.body
  · rw [Intake.accept_of_fits hfits, Intake.accept_of_fits ((h.fits_iff limit).2 hfits), h.bytes_eq, takenIn, takenIn,
      h.method_eq, h.target_eq, h.headers_eq]
  · rw [Intake.accept_of_not_fits hfits, Intake.accept_of_not_fits (mt (h.fits_iff limit).1 hfits)]

/-- **Which requests are taken in**: those of which every piece of the body can be read, and all of them together are
no more bytes than the limit. Then the body is the pieces joined, and the rest is the request's own. Every other one
is too large. How a body is cut into pieces makes no difference, and while the pieces come, what is left and what has
come always make up the limit. -/
theorem accept_iff_fits (limit : Nat) (a : Arrival) :
    (∀ r, Intake.accept limit a = .ok r ↔ Fits limit a.body ∧ r = a.takenIn (joined a.body)) ∧
    (∀ e, Intake.accept limit a = .error e ↔ ¬Fits limit a.body ∧ e = .bodyTooLarge limit) ∧
    (∀ a', a.IsRecut a' → Intake.accept limit a' = Intake.accept limit a) ∧
    ∀ past, (∃ left, left + (joined past).size = limit ∧
        ∀ rest, collect limit (past ++ rest) = collectFrom left (joined past) rest) ∨
      ∃ e, ∀ rest, collect limit (past ++ rest) = .error e := by
  refine ⟨fun r => ?_, fun e => ?_, fun a' h => h.accept_eq limit, collect_stands limit⟩
  · by_cases hfits : Fits limit a.body
    · rw [Intake.accept_of_fits hfits, Except.ok.injEq, eq_comm]
      exact (and_iff_right hfits).symm
    · rw [Intake.accept_of_not_fits hfits]
      exact iff_of_false nofun fun h => hfits h.1
  · by_cases hfits : Fits limit a.body
    · rw [Intake.accept_of_fits hfits]
      exact iff_of_false nofun fun h => h.1 hfits
    · rw [Intake.accept_of_not_fits hfits, Except.error.injEq, eq_comm]
      exact (and_iff_right hfits).symm

end Repeater.Relay
