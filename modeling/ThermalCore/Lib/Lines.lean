import Mathlib.Data.List.TakeWhile
import Mathlib.Tactic.Common

/-!
# Lines and words

A stream of characters read one at a time: the lines are what stands between two
terminators, the words of a line are what stands between separators, and a number
is a word of digits.

A reader that keeps one line in a buffer is at any time behind some lines and within
another: `linesAfter` splits the stream there.
-/

namespace Lines

section lines

variable {α : Type*} {p : α → Bool}

/-- The lines of a stream that are ended by a terminator. -/
def lines (p : α → Bool) (xs : List α) : List (List α) := (xs.splitOnP p).dropLast

/-- The lines when some of the first one has been read already. -/
def linesAfter (p : α → Bool) (read xs : List α) : List (List α) :=
  ((xs.splitOnP p).modifyHead (read ++ ·)).dropLast

/-- With nothing read yet. -/
@[simp] theorem linesAfter_read_nil (xs : List α) : linesAfter p [] xs = lines p xs := by
  obtain ⟨line, rest, hsplit⟩ := List.exists_cons_of_ne_nil (List.splitOnP_ne_nil p xs)
  simp [linesAfter, lines, hsplit]

/-- With nothing left to read. -/
@[simp] theorem linesAfter_nil (read : List α) : linesAfter p read [] = [] := rfl

/-- **A terminator** ends the line. -/
theorem linesAfter_cons_pos (read : List α) {x : α} (xs : List α) (h : p x = true) :
    linesAfter p read (x :: xs) = read :: lines p xs := by
  obtain ⟨line, rest, hsplit⟩ := List.exists_cons_of_ne_nil (List.splitOnP_ne_nil p xs)
  simp [linesAfter, lines, List.splitOnP_cons_eq_if_modifyHead, h, hsplit]

/-- **Any other character** goes on with it. -/
theorem linesAfter_cons_neg (read : List α) {x : α} (xs : List α) (h : p x = false) :
    linesAfter p read (x :: xs) = linesAfter p (read ++ [x]) xs := by
  obtain ⟨line, rest, hsplit⟩ := List.exists_cons_of_ne_nil (List.splitOnP_ne_nil p xs)
  simp [linesAfter, List.splitOnP_cons_eq_if_modifyHead, h, hsplit]

end lines

section words

variable {α : Type*} {sep : α → Bool}

/-- The words of a line. -/
def words (sep : α → Bool) (xs : List α) : List (List α) := (xs.splitOnP sep).filter (· ≠ [])

/-- No words in nothing. -/
@[simp] theorem words_nil : words sep [] = [] := rfl

/-- A separator in front is no part of a word. -/
theorem words_cons_sep {x : α} (xs : List α) (h : sep x = true) : words sep (x :: xs) = words sep xs := by
  simp [words, List.splitOnP_cons_eq_if_modifyHead, h]

/-- Separators in front do not matter. -/
theorem words_dropWhile (xs : List α) : words sep (xs.dropWhile sep) = words sep xs := by
  induction xs with
  | nil => rfl
  | cons x xs ih =>
      cases h : sep x with
      | true => rw [List.dropWhile_cons_of_pos h, ih, words_cons_sep xs h]
      | false => rw [List.dropWhile_cons_of_neg (by simp [h])]

/-- **The first word** of a line that does not start with a separator. -/
theorem words_append {word xs : List α} (hne : word ≠ []) (hword : ∀ x ∈ word, sep x = false)
    (hxs : ∀ x ∈ xs.head?, sep x = true) : words sep (word ++ xs) = word :: words sep xs := by
  cases xs with
  | nil => simp [words, List.splitOnP_eq_singleton hword, hne]
  | cons x xs =>
      have hsep : sep x = true := hxs x rfl
      rw [words_cons_sep xs hsep, words, List.splitOnP_append_cons_of_forall_mem hword x hsep,
        List.filter_cons_of_pos (by simp [hne]), words]

/-- The first word, and those behind it. -/
theorem words_of_dropWhile {x : α} {xs line : List α} (h : line.dropWhile sep = x :: xs) :
    words sep line =
      (x :: xs).takeWhile (!sep ·) :: words sep ((x :: xs).dropWhile (!sep ·)) := by
  have hx : sep x = false := by
    have hhead := List.head?_dropWhile_not sep line
    simpa [h] using hhead
  have hcut := @List.takeWhile_append_dropWhile _ (!sep ·) (x :: xs)
  rw [← words_dropWhile line, h]
  nth_rewrite 1 [← hcut]
  refine words_append (by simp [hx]) (fun y hy => ?_) (fun y hy => ?_)
  · simpa using List.mem_takeWhile_imp hy
  · have hhead := List.head?_dropWhile_not (!sep ·) (x :: xs)
    rw [Option.mem_def] at hy
    simpa [hy] using hhead

/-- A line of separators has no words. -/
theorem words_eq_nil_iff {line : List α} : words sep line = [] ↔ line.dropWhile sep = [] := by
  constructor
  · intro h
    cases hline : line.dropWhile sep with
    | nil => rfl
    | cons x xs => simp [words_of_dropWhile hline] at h
  · intro h
    rw [← words_dropWhile, h, words_nil]

/-- Words are not empty. -/
theorem ne_nil_of_mem_words {word line : List α} (h : word ∈ words sep line) : word ≠ [] := by
  simpa using (List.mem_filter.mp h).2

/-- A word keeps every character of the line that is not a separator. -/
theorem exists_word_of_mem {x : α} {line : List α} (h : x ∈ line) (hx : sep x = false) :
    ∃ word ∈ words sep line, x ∈ word := by
  have hsplit : ∃ word ∈ line.splitOnP sep, x ∈ word := by
    induction line with
    | nil => simp at h
    | cons y line ih =>
        obtain ⟨first, rest, hline⟩ := List.exists_cons_of_ne_nil (List.splitOnP_ne_nil sep line)
        rw [List.splitOnP_cons_eq_if_modifyHead, hline]
        rw [hline] at ih
        cases hy : sep y with
        | true =>
            have hmem : x ∈ line := (List.mem_cons.mp h).resolve_left fun heq => by simp [heq, hy] at hx
            obtain ⟨word, hword, hin⟩ := ih hmem
            exact ⟨word, List.mem_cons_of_mem _ hword, hin⟩
        | false =>
            simp only [Bool.false_eq_true, if_false, List.modifyHead_cons]
            cases List.mem_cons.mp h with
            | inl heq => exact ⟨y :: first, by simp, by simp [heq]⟩
            | inr hmem =>
                obtain ⟨word, hword, hin⟩ := ih hmem
                cases List.mem_cons.mp hword with
                | inl heq => exact ⟨y :: first, by simp, by simp [← heq, hin]⟩
                | inr hrest => exact ⟨word, by simp [hrest], hin⟩
  obtain ⟨word, hword, hin⟩ := hsplit
  exact ⟨word, List.mem_filter.mpr ⟨hword, by simpa using List.ne_nil_of_mem hin⟩, hin⟩

end words

section digits

/-- The value of digits after a value. -/
def decimalAfter (v : Nat) (ds : List Nat) : Nat := ds.foldl (fun v d => v * 10 + d) v

/-- A prefix has no larger value. -/
theorem le_decimalAfter (v : Nat) (ds : List Nat) : v ≤ decimalAfter v ds := by
  induction ds generalizing v with
  | nil => exact Nat.le_refl v
  | cons d ds ih => exact Nat.le_trans (by omega) (ih (v * 10 + d))

end digits

end Lines
