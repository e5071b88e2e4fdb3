import Repeater.Proofs.Url.Authority

/-!
# What stands behind an authority

The authority of a URL for the web ends at the first slash, backslash, question mark or hash. What stands from there
on is path, query and fragment, whatever it consists of: user information, host and port are found as if there were
nothing, and they are refused for the same reasons.

## Results

* `userinfoOf_append`, `hostPart_append`, `portOf_append` — each part of an authority is found as if it stood alone;
* `parse_append` — what is read of an authority with something behind it.
-/

namespace Repeater.Url

/-- The URL with this text for its path, query and fragment. -/
def followedBy (u : Url) (t : List Char) : Url :=
  { u with
    path := .segments (pathAfterAuthority .special t)
    query := (queryAndFragment .special t).1, fragment := (queryAndFragment .special t).2 }

theorem endsAuthority_special_iff {c : Char} :
    endsAuthority .special c = true ↔ c ∈ ['/', '\\', '?', '#'] := by
  simp [endsAuthority, isSlash, or_assoc]

section

variable {a t : List Char} {c : Char}

-- ---------------------------------------------------------------------------
-- The parts of an authority
-- ---------------------------------------------------------------------------

/-- User information is found as if the authority stood alone. Only behind an `@` with nothing around it, where the
host is missing, something else makes a difference: it is noticed earlier. -/
theorem userinfoOf_append (ha : ∀ d ∈ a, endsAuthority .special d = false) (hc : endsAuthority .special c = true) :
    ∃ user password rest, userinfoOf .special a = .ok (user, password, rest) ∧ (∀ d ∈ rest, d ∈ a) ∧
      (userinfoOf .special (a ++ c :: t) = .ok (user, password, rest ++ c :: t) ∨
        rest = [] ∧ userinfoOf .special (a ++ c :: t) = .error .emptyHost) := by
  have halone : a.takeWhile (fun d => !endsAuthority .special d) = a :=
    List.takeWhile_eq_self_iff.2 fun d hd => by rw [ha d hd, Bool.not_false]
  have hbehind : (a ++ c :: t).takeWhile (fun d => !endsAuthority .special d) = a :=
    takeWhile_not_endsAuthority ha hc
  unfold userinfoOf
  simp only [halone, hbehind, List.drop_length, List.drop_left, List.append_nil]
  cases hcut : Text.cutLast (· == '@') a with
  | none => exact ⟨_, _, _, rfl, fun d hd => hd, .inl rfl⟩
  | some parts =>
    obtain ⟨info, name⟩ := parts
    have hname : ∀ d ∈ name, d ∈ a := Text.mem_of_cutLast hcut
    cases info with
    | cons i info => exact ⟨_, _, _, rfl, hname, .inl rfl⟩
    | nil =>
      cases name with
      | nil => exact ⟨[], [], [], rfl, hname, .inr ⟨rfl, if_pos hc⟩⟩
      | cons d name =>
        have hstays : ¬endsAuthority .special d = true := by
          rw [ha d (hname d List.mem_cons_self)]
          exact Bool.false_ne_true
        exact ⟨[], [], d :: name, if_neg hstays, hname, .inl (if_neg hstays)⟩

/-- So is the host, and what is left of the authority is nothing or starts with a colon. -/
theorem hostPart_append (inside : Bool) (ha : ∀ d ∈ a, endsAuthority .special d = false)
    (hc : endsAuthority .special c = true) :
    hostPart .special inside (a ++ c :: t) =
        ((hostPart .special inside a).1, (hostPart .special inside a).2 ++ c :: t) ∧
      ((hostPart .special inside a).2 = [] ∨ (hostPart .special inside a).2.head? = some ':') ∧
      ∀ d ∈ (hostPart .special inside a).2, d ∈ a := by
  induction a generalizing inside with
  | nil => exact ⟨by simp [hostPart, hc], .inl rfl, nofun⟩
  | cons d a ih =>
    have hstays : endsAuthority .special d = false := ha d List.mem_cons_self
    by_cases hcolon : (d == ':' && !inside) = true
    · have hd : d = ':' := beq_iff_eq.1 (Bool.and_eq_true_iff.1 hcolon).1
      have hends : (d == ':' && !inside || endsAuthority .special d) = true := by rw [hcolon, Bool.true_or]
      rw [List.cons_append, hostPart, hostPart, if_pos hends, if_pos hends]
      exact ⟨rfl, .inr (congrArg some hd), fun _ h => h⟩
    · have hgoes : ¬(d == ':' && !inside || endsAuthority .special d) = true := by
        rw [hstays, Bool.or_false]
        exact hcolon
      obtain ⟨hsplit, hrest, hmem⟩ :=
        ih (d == '[' || (inside && d != ']')) fun e he => ha e (List.mem_cons_of_mem d he)
      rw [List.cons_append, hostPart, hostPart, if_neg hgoes, if_neg hgoes, hsplit]
      exact ⟨rfl, hrest, fun e he => List.mem_cons_of_mem d (hmem e he)⟩

/-- So is the port, and nothing is left of the authority. -/
theorem portOf_append (scheme : List Char) (ha : ∀ d ∈ a, endsAuthority .special d = false)
    (hport : a = [] ∨ a.head? = some ':') (hc : endsAuthority .special c = true) :
    portOf scheme (a ++ c :: t) = (portOf scheme a).map (fun p => (p.1, c :: t)) ∧
      ∀ port rest, portOf scheme a = .ok (port, rest) → rest = [] := by
  have hcolon : c ≠ ':' := by
    rintro rfl
    exact absurd hc (by decide)
  have hdigit : c.isDigit = false := by
    have hnone : ∀ c ∈ ['/', '\\', '?', '#'], c.isDigit = false := Text.forall_mem_of_all (by decide)
    exact hnone c (endsAuthority_special_iff.1 hc)
  have hhead (d : Char) : (d == '/' || d == '\\' || d == '?' || d == '#') = endsAuthority .special d := rfl
  rcases hport with rfl | hport
  · refine ⟨?_, fun _ _ h => by cases h; rfl⟩
    rw [List.nil_append, portOf]
    · rfl
    · rintro r h
      exact hcolon (List.cons.inj h).1
  · obtain ⟨r, rfl⟩ := List.head?_eq_some_iff.1 hport
    obtain ⟨ds, rest, rfl, hds, hrest⟩ := Text.exists_front Char.isDigit r
    have hrest' : ∀ x ∈ (rest ++ c :: t).head?, x.isDigit = false := by
      cases rest with
      | nil =>
        rintro x ⟨⟩
        exact hdigit
      | cons x rest => exact hrest
    rw [List.cons_append, List.append_assoc, portOf, portOf]
    simp only [Text.takeWhile_front hds hrest, Text.dropWhile_front hds hrest, Text.takeWhile_front hds hrest',
      Text.dropWhile_front hds hrest', hhead]
    cases rest with
    | nil =>
      -- the authority ends with the digits
      have hnone : ([] : List Char).head?.any (fun d => !endsAuthority .special d) = false := rfl
      have hsome : ([] ++ c :: t : List Char).head?.any (fun d => !endsAuthority .special d) = false := by
        simp [hc]
      rw [hnone, hsome, if_neg Bool.false_ne_true, if_neg Bool.false_ne_true]
      split
      · exact ⟨rfl, fun _ _ h => by cases h⟩
      · split <;> exact ⟨rfl, fun _ _ h => by cases h; rfl⟩
    | cons x rest =>
      -- something in the authority stands behind the digits
      have hx : endsAuthority .special x = false :=
        ha x (List.mem_cons_of_mem _ (List.mem_append_right _ List.mem_cons_self))
      have hbad (s : List Char) : (x :: s).head?.any (fun d => !endsAuthority .special d) = true := by
        simp [hx]
      rw [List.cons_append, hbad, hbad, if_pos rfl]
      split <;> exact ⟨rfl, fun _ _ h => by cases h⟩

-- ---------------------------------------------------------------------------
-- The whole of it
-- ---------------------------------------------------------------------------

/-- What is read behind the slashes, with something behind the authority. -/
theorem afterSlashes_append {scheme : List Char} (hscheme : IsWebScheme scheme)
    (ha : ∀ d ∈ a, endsAuthority .special d = false) (hc : endsAuthority .special c = true) :
    afterSlashes scheme (a ++ c :: t) = (afterSlashes scheme a).map (·.followedBy (c :: t)) := by
  obtain ⟨user, password, rest, hinfo, hmem, hinfo' | ⟨rfl, hinfo'⟩⟩ := userinfoOf_append (t := t) ha hc
  · have hrest : ∀ d ∈ rest, endsAuthority .special d = false := fun d hd => ha d (hmem d hd)
    obtain ⟨hsplit, hleft, hsub⟩ := hostPart_append (t := t) false hrest hc
    have hleft' : ∀ d ∈ (hostPart .special false rest).2, endsAuthority .special d = false :=
      fun d hd => hrest d (hsub d hd)
    obtain ⟨hport, hnone⟩ := portOf_append (t := t) scheme hleft' hleft hc
    simp only [afterSlashes, hscheme.kind, hinfo, hinfo', ok_bind, hsplit]
    cases hhost : hostOf .special (hostPart .special false rest).1 with
    | error e => rfl
    | ok host =>
      have hne : host ≠ .domain [] := (Host.isSpecial_of_hostOf hhost).ne_nameless
      rw [ok_bind, ok_bind, if_neg fun h => hne h.1, if_neg fun h => hne h.1, hport]
      cases hread : portOf scheme (hostPart .special false rest).2 with
      | error e => rfl
      | ok p => rfl
  · simp only [afterSlashes, hscheme.kind, hinfo, hinfo', ok_bind]
    rfl

/-- A visible character of an authority. -/
structure IsAuthorityChar (c : Char) : Prop where
  visible : 0x20 < c.toNat
  inside : endsAuthority .special c = false

/-- **What stands behind an authority makes no difference to it.** Whatever begins with a slash, a backslash, a
question mark or a hash, the URL is that of the authority with another path, query and fragment; if there is none,
then for the same reason. -/
theorem parse_append {scheme : List Char} (hscheme : IsWebScheme scheme) (hne : a ≠ [])
    (ha : ∀ d ∈ a, IsAuthorityChar d) (hc : endsAuthority .special c = true) :
    parse (scheme ++ "://".toList ++ a ++ c :: t) =
      (parse (scheme ++ "://".toList ++ a)).map (·.followedBy (c :: trimmed t)) := by
  have hvisible : ∀ d ∈ scheme ++ "://".toList ++ a, 0x20 < d.toNat := fun d hd =>
    (List.mem_append.1 hd).elim (scheme_visible hscheme d) fun hd => (ha d hd).visible
  have hend : 0x20 < c.toNat := by
    have hall : ∀ c ∈ ['/', '\\', '?', '#'], 0x20 < c.toNat := Text.forall_mem_of_all (by decide)
    exact hall c (endsAuthority_special_iff.1 hc)
  have hclean : clean (scheme ++ "://".toList ++ a ++ c :: t) = scheme ++ ':' :: '/' :: '/' :: (a ++ c :: trimmed t) := by
    have hkept : ∀ d ∈ scheme ++ "://".toList ++ a ++ [c], 0x20 < d.toNat := fun d hd =>
      (List.mem_append.1 hd).elim (hvisible d) fun hd => List.mem_singleton.1 hd ▸ hend
    have := clean_append hkept (List.append_ne_nil_of_right_ne_nil _ (List.cons_ne_nil _ _)) t
    simpa using this
  have halone : clean (scheme ++ "://".toList ++ a) = scheme ++ ':' :: '/' :: '/' :: a := by
    rw [clean_of_visible hvisible]
    simp
  have hslashes (s : List Char) : ('/' :: '/' :: (a ++ s)).dropWhile (isSlash .special) = a ++ s := by
    obtain ⟨first, rest, rfl⟩ := List.exists_cons_of_ne_nil hne
    have hfirst := (ha first List.mem_cons_self).inside
    have hstays : ¬isSlash .special first = true := by
      simp only [endsAuthority, Bool.or_eq_false_iff] at hfirst
      rw [hfirst.1.1]
      exact Bool.false_ne_true
    show ((first :: rest) ++ s).dropWhile (isSlash .special) = _
    exact List.dropWhile_cons_of_neg hstays
  have halone' := hslashes []
  rw [List.append_nil] at halone'
  rw [parse, parse, hclean, halone, scheme?_web hscheme, scheme?_web hscheme]
  simp only [afterScheme, hscheme.kind]
  rw [hslashes, halone']
  exact afterSlashes_append hscheme (fun d hd => (ha d hd).inside) hc

end

end Repeater.Url
