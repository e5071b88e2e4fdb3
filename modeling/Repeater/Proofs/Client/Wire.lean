import Repeater.Client.Redirect

/-!
# What a server reads of a request

The client adds a host and the media types that it accepts, neither of which says how long the body is.
Whether a server reads the body that was given therefore depends on the fields that were given with it:
either they leave the length open, or they say what it is.

## Results

* `framing_make`, `framing_fields` — what is added says nothing of the length of a body;
* `delivery_of_written`            — method and target of a request that is read;
* `written_iff`                    — a body is read as it was given exactly if the fields fit it.
-/

namespace Repeater

-- ---------------------------------------------------------------------------
-- Fields on the length of a body
-- ---------------------------------------------------------------------------

namespace Http

theorem Headers.values_append (hs hs' : Headers) (name : String) :
    Headers.values (hs ++ hs') name = hs.values name ++ hs'.values name := by
  simp [Headers.values]

theorem Headers.has_eq (hs : Headers) (name : String) : hs.has name = !(hs.values name).isEmpty := by
  rw [Bool.eq_iff_iff]
  simp [Headers.has, Headers.values]

theorem Headers.values_eq_nil {hs : Headers} {name : String} (h : ∀ x ∈ hs, x.name ≠ name) : hs.values name = [] := by
  rw [Headers.values, List.map_eq_nil_iff, List.filter_eq_nil_iff]
  intro x hx
  rw [beq_iff_eq]
  exact h x hx

/-- A name that does not occur is not taken away. -/
theorem Headers.erase_eq_self {hs : Headers} {name : String} (h : hs.has name = false) : hs.erase name = hs := by
  rw [Headers.erase, List.filter_eq_self]
  intro x hx
  rw [Headers.has, List.any_eq_false] at h
  exact bne_iff_ne.2 fun heq => h x hx (beq_iff_eq.2 heq)

/-- What a head says of the length of a body. -/
def framing (hs : Headers) : List ByteArray × List ByteArray :=
  (hs.values "content-length", hs.values "transfer-encoding")

theorem framing_append_right {hs hs' : Headers} (h : framing hs' = ([], [])) :
    framing (hs ++ hs') = framing hs := by
  obtain ⟨hlength, hencoding⟩ := Prod.mk.inj h
  rw [framing, Headers.values_append, Headers.values_append, hlength, hencoding, List.append_nil,
    List.append_nil, framing]

theorem framing_append_left {hs hs' : Headers} (h : framing hs = ([], [])) :
    framing (hs ++ hs') = framing hs' := by
  obtain ⟨hlength, hencoding⟩ := Prod.mk.inj h
  rw [framing, Headers.values_append, Headers.values_append, hlength, hencoding, List.nil_append,
    List.nil_append, framing]

/-- A field of another name. -/
theorem framing_singleton {h : Header} (hlength : h.name ≠ "content-length")
    (hencoding : h.name ≠ "transfer-encoding") : framing [h] = ([], []) := by
  simp [framing, Headers.values, hlength, hencoding]

theorem framing_erase (hs : Headers) {name : String} (hlength : "content-length" ≠ name)
    (hencoding : "transfer-encoding" ≠ name) : framing (hs.erase name) = framing hs := by
  rw [framing, Headers.values_erase hs hlength, Headers.values_erase hs hencoding, framing]

theorem framing_set (hs : Headers) {name : String} (value : ByteArray)
    (hlength : "content-length" ≠ name) (hencoding : "transfer-encoding" ≠ name) :
    framing (hs.set name value) = framing hs := by
  rw [Headers.set, framing_append_right (framing_singleton hlength.symm hencoding.symm),
    framing_erase hs hlength hencoding]

/-- The values of a name that is not among those left out. -/
theorem values_without {names : List String} {other : String} (h : other ∉ names) (hs : Headers) :
    Headers.values (Client.without names hs) other = hs.values other := by
  simp only [Headers.values, Client.without, List.filter_filter]
  congr 1
  refine List.filter_congr fun x _ => ?_
  by_cases hx : x.name = other
  · simp [hx, h]
  · simp [hx]

/-- The fields fit the body: they leave its length open, or they say what it is. -/
def IsFramed (hs : Headers) (body : ByteArray) : Prop :=
  (body.size ≠ 0 ∧ hs.has "transfer-encoding" = true) ∨ ∀ n, contentLength? hs = some n → n = body.size

theorem contentLength?_congr {hs hs' : Headers} (h : framing hs = framing hs') :
    contentLength? hs = contentLength? hs' := by
  rw [contentLength?, (Prod.mk.inj h).1, contentLength?]

theorem isFramed_congr {hs hs' : Headers} (h : framing hs = framing hs') (body : ByteArray) :
    IsFramed hs body ↔ IsFramed hs' body := by
  rw [IsFramed, IsFramed, contentLength?_congr h, Headers.has_eq, Headers.has_eq, (Prod.mk.inj h).2]

/-- No field says anything of the length. -/
theorem isFramed_of_no_length {hs : Headers} (h : hs.values "content-length" = []) (body : ByteArray) :
    IsFramed hs body := by
  refine .inr fun n hn => ?_
  rw [contentLength?, h] at hn
  cases hn

end Http

namespace Client

open Http

/-- A user name is sent in a field of its own. -/
theorem framing_make (method : String) (url : Url) (hs : Headers) (body : ByteArray) :
    framing (Request.make method url hs body).headers = framing hs := by
  unfold Request.make
  split
  · rfl
  · refine framing_append_left ?_
    split
    · rfl
    · exact framing_singleton (show "authorization" ≠ _ by decide) (show "authorization" ≠ _ by decide)

theorem Hop.framing_fields (h : Hop) : framing h.fields = framing h.request.headers := by
  have hsecret : framing (without secretFields h.request.headers) = framing h.request.headers := by
    rw [framing, values_without (by decide), values_without (by decide), framing]
  unfold Hop.fields
  split
  · rfl
  · rename_i previous _
    have hkept : framing (if sameServer previous h.request.url then h.request.headers
        else without secretFields h.request.headers) = framing h.request.headers := by
      split
      · rfl
      · exact hsecret
    dsimp only
    split
    · exact hkept
    · rename_i field hfield
      have hname : field.name = "referer" := by
        rw [refererField] at hfield
        split at hfield
        · cases hfield
        · cases hfield
          rfl
      rw [framing_set _ _ (by rw [hname]; decide) (by rw [hname]; decide), hkept]

-- ---------------------------------------------------------------------------
-- Requests that are read
-- ---------------------------------------------------------------------------

/-- The fields of a request before those on its body are settled. -/
def Request.fields (r : Request) : Headers :=
  withAccept (r.headers ++ if r.headers.has "host" then [] else [hostField r.url])

theorem Request.framing_fields (r : Request) : framing r.fields = framing r.headers := by
  have haccept (hs : Headers) : framing (withAccept hs) = framing hs := by
    rw [withAccept]
    split
    · rfl
    · exact framing_append_right (framing_singleton (by decide) (by decide))
  rw [Request.fields, haccept]
  refine framing_append_right ?_
  split
  · rfl
  · exact framing_singleton (show "host" ≠ _ by decide) (show "host" ≠ _ by decide)

/-- Method and target of a request that is read. -/
theorem delivery_of_written {r : Request} {t : Target} {d : Delivery} (h : r.written t = .whole d) :
    d.method = r.method ∧ d.target = String.ofList (requestTarget r.method r.url t) := by
  unfold Request.written at h
  dsimp only at h
  split at h
  · split at h <;> cases h
    exact ⟨rfl, rfl⟩
  · split at h <;> cases h
    exact ⟨rfl, rfl⟩

theorem eq_empty_of_size {b : ByteArray} (h : b.size = 0) : b = .empty :=
  ByteArray.ext (Array.eq_empty_of_size_eq_zero h)

/-- A body that is not empty is sent as it is exactly if the fields fit it. -/
theorem frameBody_iff {hs : Headers} {body : ByteArray} (hbody : body.size ≠ 0) :
    (∃ hs', frameBody hs body = some (hs', body)) ↔ IsFramed hs body := by
  rw [IsFramed, frameBody]
  by_cases hchunked : hs.has "transfer-encoding" = true
  · rw [if_pos hchunked]
    exact iff_of_true ⟨_, rfl⟩ (.inl ⟨hbody, hchunked⟩)
  · rw [if_neg hchunked, or_iff_right fun h => hchunked h.2]
    cases hlength : contentLength? hs with
    | none => exact iff_of_true ⟨_, rfl⟩ (by simp)
    | some n =>
      simp only [Option.some.injEq, forall_eq']
      constructor
      · rintro ⟨hs', h⟩
        split at h
        · rename_i hle
          have hpart := congrArg ByteArray.size (Prod.mk.inj (Option.some.inj h)).2
          rw [ByteArray.size_extract] at hpart
          omega
        · cases h
      · rintro rfl
        rw [if_pos (Nat.le_refl _), ByteArray.extract_zero_size]
        exact ⟨_, rfl⟩

/-- **A body is read as it was given exactly if the fields fit it.** -/
theorem written_iff {r : Request} {t : Target} :
    (∃ d, r.written t = .whole d ∧ d.body = r.body) ↔ IsFramed r.headers r.body := by
  rw [← isFramed_congr r.framing_fields]
  unfold Request.written
  dsimp only
  rw [← Request.fields]
  by_cases hbody : r.body.size = 0
  · rw [if_pos hbody, IsFramed, or_iff_right fun h => h.1 hbody, hbody]
    have hempty := eq_empty_of_size hbody
    cases hlength : contentLength? r.fields with
    | none => exact iff_of_true ⟨_, rfl, hempty.symm⟩ (by simp)
    | some n =>
      cases n with
      | zero => exact iff_of_true ⟨_, rfl, hempty.symm⟩ (by simp)
      | succ n => exact iff_of_false (by simp) (by simp)
  · rw [if_neg hbody, ← frameBody_iff hbody]
    constructor
    · rintro ⟨d, h, hd⟩
      split at h
      · cases h
      · rename_i hs body hframe
        cases h
        exact ⟨hs, hd ▸ hframe⟩
    · rintro ⟨hs, hframe⟩
      rw [hframe]
      exact ⟨_, rfl, rfl⟩

end Client

end Repeater
