import Mathlib.Data.Set.Function
import Repeater.Proofs.Text.Split
import Repeater.Proofs.Text.Utf8

/-!
# Lists of texts on one line

A list that is written on one line, with a space between its members, is read back as its words. Each member
comes back as the words that it consists of itself, so the list comes back exactly if each member is one word;
a byte order mark at the start of the line is lost on the way through bytes.

Main results:

* `words_line` — the words of a line are those of its members;
* `words_line_eq_self_iff`, `line_injOn` — a list is read back exactly if its members are words, so lists of words have
  different lines;
* `words_decoded_line` — the words of its bytes are the same, but for a mark at the start;
* `words_decoded_line_eq_self_iff` — a list is read back exactly if its members are words and there is no mark.
-/

namespace Repeater.Text

/-- A text without blanks that is not empty. -/
def IsWord (s : String) : Prop :=
  s ≠ "" ∧ ∀ c ∈ s.toList, isBlank c = false

instance (s : String) : Decidable (IsWord s) :=
  inferInstanceAs (Decidable (_ ∧ _))

theorem isWord_of_mem_words {s w : String} (h : w ∈ words s) : IsWord w := by
  obtain ⟨piece, hpiece, rfl⟩ := List.mem_map.1 h
  obtain ⟨hmem, hne⟩ := List.mem_filter.1 hpiece
  refine ⟨?_, ?_⟩
  · intro hempty
    have hnil : piece = [] := by simpa using congrArg String.toList hempty
    rw [hnil] at hne
    cases hne
  · intro c hc
    rw [String.toList_ofList] at hc
    exact (mem_of_mem_splitOnP hmem hc).2

theorem words_empty : words "" = [] :=
  rfl

theorem words_of_isWord {s : String} (h : IsWord s) : words s = [s] := by
  have hkept : (!s.toList.isEmpty) = true := by simpa using h.1
  have hfilter : [s.toList].filter (fun w => !w.isEmpty) = [s.toList] := List.filter_cons_of_pos hkept
  rw [words, List.splitOnP_eq_singleton h.2, hfilter, List.map_singleton, String.ofList_toList]

/-- A space separates words. -/
theorem words_append_space (s t : String) : words (s ++ " " ++ t) = words s ++ words t := by
  have hsplit : (s ++ " " ++ t).toList = s.toList ++ ' ' :: t.toList := by
    rw [String.toList_append, String.toList_append, List.append_assoc]
    rfl
  have hspace : isBlank ' ' = true := by decide
  rw [words, words, words, hsplit, List.splitOnP_append_cons _ _ hspace, List.filter_append, List.map_append]

/-- The words of a line are those of its members. -/
theorem words_line (l : List String) : words (" ".intercalate l) = l.flatMap words := by
  induction l with
  | nil => rfl
  | cons e l ih =>
    cases l with
    | nil =>
      rw [String.intercalate_singleton, List.flatMap_singleton]
    | cons f l =>
      rw [String.intercalate_cons_cons, words_append_space, ih]
      rfl

theorem flatMap_words_of_isWord {l : List String} (h : ∀ e ∈ l, IsWord e) : l.flatMap words = l := by
  calc l.flatMap words = l.flatMap fun e => [e] :=
        List.flatMap_congr fun e he => words_of_isWord (h e he)
    _ = l := List.flatMap_singleton' l

theorem isWord_of_mem_flatMap_words {l : List String} {w : String} (h : w ∈ l.flatMap words) : IsWord w := by
  obtain ⟨s, -, hw⟩ := List.mem_flatMap.1 h
  exact isWord_of_mem_words hw

/-- **A list is read back from its line** exactly if no member has a blank in it. -/
theorem words_line_eq_self_iff {l : List String} (h : "" ∉ l) :
    words (" ".intercalate l) = l ↔ ∀ e ∈ l, ∀ c ∈ e.toList, isBlank c = false := by
  rw [words_line]
  constructor
  · intro hread e he
    rw [← hread] at he
    exact (isWord_of_mem_flatMap_words he).2
  · intro hblank
    have hwords : ∀ e ∈ l, IsWord e := fun e he => ⟨fun hempty => h (hempty ▸ he), hblank e he⟩
    exact flatMap_words_of_isWord hwords

/-- Lists of words have different lines. -/
theorem line_injOn : Set.InjOn (fun l : List String => " ".intercalate l) { l | ∀ e ∈ l, IsWord e } := by
  have hback : Set.LeftInvOn words (fun l : List String => " ".intercalate l) { l | ∀ e ∈ l, IsWord e } :=
    fun l hl => (words_line l).trans (flatMap_words_of_isWord hl)
  exact hback.injOn

-- ---------------------------------------------------------------------------
-- Through bytes
-- ---------------------------------------------------------------------------

/-- A text without the byte order mark that it may start with. -/
def unmark (s : String) : String :=
  String.ofList (unmarked s.toList)

theorem unmarked_append {s t : List Char} (h : s ≠ []) : unmarked (s ++ t) = unmarked s ++ t := by
  obtain ⟨c, r, rfl⟩ := List.exists_cons_of_ne_nil h
  rw [unmarked, unmarked]
  split <;> simp_all

/-- A mark at the start of a line is one at the start of its first member. -/
theorem unmark_line {e : String} (h : e ≠ "") (l : List String) :
    unmark (" ".intercalate (e :: l)) = " ".intercalate (unmark e :: l) := by
  have hne : e.toList ≠ [] := by simpa using h
  cases l with
  | nil => rw [String.intercalate_singleton, String.intercalate_singleton]
  | cons f l =>
    rw [String.intercalate_cons_cons, String.intercalate_cons_cons, unmark, String.append_assoc,
      String.toList_append, unmarked_append hne, String.ofList_append, String.ofList_toList, unmark,
      String.append_assoc]

theorem unmark_eq_self_iff {s : String} : unmark s = s ↔ s.toList.head? ≠ some markChar := by
  rw [unmark, ← String.toList_inj, String.toList_ofList, unmarked]
  split
  · rename_i hmark
    obtain ⟨r, hr⟩ := List.head?_eq_some_iff.1 hmark
    refine iff_of_false ?_ (fun h => h hmark)
    intro heq
    have hlength := congrArg List.length heq
    rw [hr, List.drop_one, List.tail_cons, List.length_cons] at hlength
    omega
  · rename_i hmark
    exact iff_of_true rfl hmark

/-- The characters that are left of a text are among its own. -/
theorem isWord_unmark {s : String} (h : IsWord s) (hne : unmark s ≠ "") : IsWord (unmark s) := by
  refine ⟨hne, ?_⟩
  intro c hc
  rw [unmark, String.toList_ofList, unmarked] at hc
  split at hc
  · exact h.2 c (List.mem_of_mem_drop hc)
  · exact h.2 c hc

/-- What a list is read as, when its line has been sent as bytes. -/
theorem words_decoded_line {l : List String} (h : "" ∉ l) :
    words (decodeAs .utf8 (utf8 (" ".intercalate l))) = (l.modifyHead unmark).flatMap words := by
  have hdecode := decodeAs_utf8 (" ".intercalate l)
  rw [hdecode, ← unmark]
  cases l with
  | nil => rfl
  | cons e l =>
    have hne : e ≠ "" := by
      rintro rfl
      exact h List.mem_cons_self
    rw [unmark_line hne, words_line, List.modifyHead_cons]

/-- **A list is read back from the bytes of its line** exactly if its members are words, and the first of them
does not start with a byte order mark. -/
theorem words_decoded_line_eq_self_iff {l : List String} (h : "" ∉ l) :
    words (decodeAs .utf8 (utf8 (" ".intercalate l))) = l ↔
      (∀ e ∈ l, IsWord e) ∧ ∀ e ∈ l.head?, e.toList.head? ≠ some markChar := by
  rw [words_decoded_line h]
  constructor
  · intro hread
    have hwords : ∀ e ∈ l, IsWord e := by
      intro e he
      rw [← hread] at he
      exact isWord_of_mem_flatMap_words he
    refine ⟨hwords, ?_⟩
    cases l with
    | nil => simp
    | cons e l =>
      have hrest : ∀ f ∈ l, IsWord f := fun f hf => hwords f (List.mem_cons_of_mem e hf)
      rw [List.modifyHead_cons, List.flatMap_cons, flatMap_words_of_isWord hrest] at hread
      have hfirst : words (unmark e) = [e] := List.append_cancel_right hread
      have hsame : unmark e = e := by
        by_cases hne : unmark e = ""
        · rw [hne, words_empty] at hfirst
          cases hfirst
        · rw [words_of_isWord (isWord_unmark (hwords e List.mem_cons_self) hne)] at hfirst
          exact (List.cons.inj hfirst).1
      rintro f ⟨⟩
      exact unmark_eq_self_iff.1 hsame
  · rintro ⟨hwords, hmark⟩
    have hsame : l.modifyHead unmark = l := by
      cases l with
      | nil => rfl
      | cons e l => rw [List.modifyHead_cons, unmark_eq_self_iff.2 (hmark e rfl)]
    rw [hsame, flatMap_words_of_isWord hwords]

end Repeater.Text
