import Repeater.Client.Answer
import Repeater.Proofs.Http.Head

/-!
# What is read of an answer

An answer whose head fits into what is read at once is what its head says, with the bytes that follow. One with a
longer head is none, whatever follows it, and a server that sends nothing has given none either.

## Results

* `Answer.readFrom_of_fits`        — a head that fits;
* `Answer.exists_readFrom_of_long` — one that does not;
* `Answer.read_of_head`            — an answer with the head that it starts with;
* `Answer.read_nothing`            — silence is no answer.
-/

namespace Repeater

/-- The status is provisional: the answer is still to come. -/
abbrev Http.ResponseHead.IsProvisional (head : ResponseHead) : Prop :=
  head.status < 200 ∧ head.status ≠ 101

/-- These bytes, and then the server stops sending. -/
def Reply.ofList (bytes : List UInt8) (ending : Ending) : Reply :=
  { bytes := ⟨bytes.toArray⟩, ending }

theorem Reply.eq_ofList (bytes : ByteArray) (ending : Ending) :
    ({ bytes, ending } : Reply) = .ofList bytes.data.toList ending :=
  rfl

namespace Client.Answer

variable {method : String} {bytes rest : List UInt8} {ending : Ending} {limit : Nat} {head : Http.ResponseHead}

theorem size_mk (bytes : List UInt8) : (ByteArray.mk bytes.toArray).size = bytes.length :=
  rfl

/-- The bytes from which a head is read. -/
theorem toList_extract_zero (bytes : List UInt8) (n : Nat) :
    ((ByteArray.mk bytes.toArray).extract 0 n).toList = bytes.take n := by
  rw [toList_eq_data, ByteArray.data_extract]
  simp

theorem extract_eq_drop (bytes : List UInt8) (n : Nat) :
    (ByteArray.mk bytes.toArray).extract n bytes.length = ⟨(bytes.drop n).toArray⟩ := by
  have htake : (bytes.drop n).take (bytes.length - n) = bytes.drop n :=
    List.take_of_length_le (Nat.le_of_eq List.length_drop)
  ext1
  rw [ByteArray.data_extract]
  simp [htake]

/-- A head that fits into what is read at once. -/
theorem readFrom_of_fits (hread : Http.ResponseHead.read bytes = .ok (head, [])) (hfits : bytes.length ≤ headLimit) :
    readFrom method ending (limit + 1) ⟨(bytes ++ rest).toArray⟩ =
      if head.IsProvisional then readFrom method ending limit ⟨rest.toArray⟩
      else (Http.Framing.ofResponse method head).elim (.error .malformed) fun framing =>
        .ok { status := head.status, headers := head.headers, framing, rest := ⟨rest.toArray⟩, ending } := by
  have htake : (bytes ++ rest).take headLimit = bytes ++ rest.take (headLimit - bytes.length) := by
    rw [List.take_append, List.take_of_length_le hfits]
  have hused : min (bytes ++ rest).length headLimit - (rest.take (headLimit - bytes.length)).length = bytes.length := by
    rw [List.length_append, List.length_take]
    omega
  have hrest : (ByteArray.mk (bytes ++ rest).toArray).extract bytes.length (bytes ++ rest).length =
      ⟨rest.toArray⟩ := by
    rw [extract_eq_drop, List.drop_left]
  rw [readFrom, toList_extract_zero, htake, Http.ResponseHead.read_append hread]
  simp only [List.nil_append, size_mk, hused, hrest]
  refine if_congr Iff.rfl rfl ?_
  cases Http.Framing.ofResponse method head with
  | none => rfl
  | some framing => rfl

/-- One that does not cannot be used, whatever follows it. -/
theorem exists_readFrom_of_long (method : String) (hread : Http.ResponseHead.read bytes = .ok (head, []))
    (hlong : headLimit < bytes.length) : ∃ e, e ≠ .early ∧ ∀ limit rest ending,
      readFrom method ending (limit + 1) ⟨(bytes ++ rest).toArray⟩ = .error e := by
  have htake (rest : List UInt8) : (bytes ++ rest).take headLimit = bytes.take headLimit :=
    List.take_append_of_le_length (Nat.le_of_lt hlong)
  cases hpart : Http.ResponseHead.read (bytes.take headLimit) with
  | ok x =>
    -- the head would have ended before its end
    obtain ⟨head', after⟩ := x
    have hwhole := Http.ResponseHead.read_append hpart (bytes.drop headLimit)
    rw [List.take_append_drop, hread] at hwhole
    simp only [Except.ok.injEq, Prod.mk.injEq, List.nil_eq, List.append_eq_nil_iff, List.drop_eq_nil_iff] at hwhole
    omega
  | error e =>
    by_cases hearly : e = .early
    · refine ⟨.tooLarge, nofun, fun limit rest ending => ?_⟩
      have hlimit : headLimit ≤ (bytes ++ rest).length := by
        rw [List.length_append]
        omega
      rw [readFrom, toList_extract_zero, htake, hpart, hearly]
      simp only [size_mk, if_pos hlimit]
    · refine ⟨e, hearly, fun limit rest ending => ?_⟩
      rw [readFrom, toList_extract_zero, htake, hpart]
      cases e with
      | early => exact absurd rfl hearly
      | malformed => rfl
      | tooLarge => rfl
      | targetTooLong => rfl

/-- An answer with the head that it starts with, if that says how it ends. -/
theorem read_of_head (hread : Http.ResponseHead.read bytes = .ok (head, [])) (hfits : bytes.length ≤ headLimit)
    (hfinal : ¬head.IsProvisional) (method : String) (rest : List UInt8) (ending : Ending) :
    read method (.ofList (bytes ++ rest) ending) =
      (Http.Framing.ofResponse method head).elim (.error .malformed) fun framing =>
        .ok { status := head.status, headers := head.headers, framing, rest := ⟨rest.toArray⟩, ending } := by
  rw [read, Reply.ofList, readFrom_of_fits hread hfits, if_neg hfinal]

/-- An answer without fields says how it ends. -/
theorem exists_read_of_bare {status : Nat} (hread : Http.ResponseHead.read bytes = .ok (⟨.http11, status, []⟩, []))
    (hfits : bytes.length ≤ headLimit) (hfinal : 200 ≤ status) (method : String) (rest : List UInt8)
    (ending : Ending) : ∃ a, read method (.ofList (bytes ++ rest) ending) = .ok a ∧ a.status = status := by
  have hlast : ¬Http.ResponseHead.IsProvisional ⟨.http11, status, []⟩ := fun hlow =>
    absurd hlow.1 (Nat.not_lt.2 hfinal)
  rw [read_of_head hread hfits hlast, Http.Framing.ofResponse]
  split
  · exact ⟨_, rfl, rfl⟩
  · exact ⟨_, rfl, rfl⟩

/-- Silence is no answer. -/
theorem read_nothing (method : String) (ending : Ending) : read method { ending } = .error .early := by
  have hnothing : (ByteArray.empty.extract 0 headLimit).toList = [] := ByteArray.toList_empty
  rw [read, readFrom, hnothing]
  rfl

end Client.Answer

end Repeater
