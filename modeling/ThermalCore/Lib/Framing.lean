import Mathlib.Tactic.Common

/-!
# Scanning a stream that arrives in pieces

A scanner looks at the front of a stream and either waits for more of it or takes
a nonempty front off, with what it found there.  Where its verdict about a front
does not change with what follows, the stream may be scanned piece by piece: what
is found does not depend on where the pieces were cut.
-/

namespace Framing

/-- The verdict about a front: `none` to wait, or what was found and the rest. -/
structure Scanner (α ω : Type*) where
  front : List α → Option (List ω × List α)
  /-- A verdict takes something off. -/
  shorter : ∀ {xs found rest}, front xs = some (found, rest) → rest.length < xs.length
  /-- A verdict stands whatever follows. -/
  stable : ∀ {xs found rest}, front xs = some (found, rest) →
    ∀ ys, front (xs ++ ys) = some (found, rest ++ ys)

namespace Scanner

variable {α ω : Type*} (S : Scanner α ω)

/-- All that is found in a stream, leftmost first, and the rest that waits. -/
def scan (xs : List α) : List ω × List α :=
  match h : S.front xs with
  | none => ([], xs)
  | some (found, rest) =>
      have := S.shorter h
      let r := scan rest
      (found ++ r.1, r.2)
termination_by xs.length

variable {S} {xs rest : List α} {found : List ω}

theorem scan_of_none (h : S.front xs = none) : S.scan xs = ([], xs) := by
  rw [scan]
  split
  · rfl
  · next heq =>
      rw [h] at heq
      cases heq

theorem scan_of_some (h : S.front xs = some (found, rest)) :
    S.scan xs = (found ++ (S.scan rest).1, (S.scan rest).2) := by
  rw [scan]
  split
  · next heq =>
      rw [h] at heq
      cases heq
  · next heq =>
      rw [h] at heq
      cases heq
      rfl

/-- A scan goes on until the rest waits. -/
theorem front_scan (xs : List α) : S.front (S.scan xs).2 = none := by
  induction hn : xs.length using Nat.strongRecOn generalizing xs with
  | _ n ih =>
      cases hfront : S.front xs with
      | none =>
          rw [scan_of_none hfront]
          exact hfront
      | some p =>
          obtain ⟨found, rest⟩ := p
          rw [scan_of_some hfront]
          exact ih rest.length (hn ▸ S.shorter hfront) rest rfl

/-- **A cut does not matter**: what waits before it is scanned again with what
comes after it. -/
theorem scan_append (xs ys : List α) :
    S.scan (xs ++ ys) =
      ((S.scan xs).1 ++ (S.scan ((S.scan xs).2 ++ ys)).1, (S.scan ((S.scan xs).2 ++ ys)).2) := by
  induction hn : xs.length using Nat.strongRecOn generalizing xs with
  | _ n ih =>
      cases hfront : S.front xs with
      | none =>
          rw [scan_of_none hfront]
          rfl
      | some p =>
          obtain ⟨found, rest⟩ := p
          have hrest := ih rest.length (hn ▸ S.shorter hfront) rest rfl
          rw [scan_of_some hfront, scan_of_some (S.stable hfront ys), hrest, List.append_assoc]

/-! ### Lines of whole frames -/

variable {ys : List α} {ws vs : List ω} {w : ω}

variable (S) in
/-- `xs` hides nothing that is written behind it. -/
def Clear (xs : List α) : Prop :=
  ∀ {ys w rest}, S.front ys = some ([w], rest) → S.scan (xs ++ ys) = S.scan ys

theorem clear_nil : S.Clear [] := fun _ => rfl

variable (S) in
/-- A line carries `ws`: they are found on it, and what is left hides nothing. -/
def Carries (xs : List α) (ws : List ω) : Prop := (S.scan xs).1 = ws ∧ S.Clear (S.scan xs).2

theorem carries_nil (h : S.front [] = none) : S.Carries [] [] := by
  simp [Carries, scan_of_none h, clear_nil]

/-- A frame written behind a line arrives behind what the line carries. -/
theorem Carries.write (h : S.Carries xs ws) (hw : S.front ys = some ([w], [])) (hnil : S.front [] = none) :
    S.Carries (xs ++ ys) (ws ++ [w]) := by
  obtain ⟨hfound, hclear⟩ := h
  have hys : S.scan ys = ([w], []) := by simp [scan_of_some hw, scan_of_none hnil]
  simp [Carries, scan_append, hclear hw, hys, hfound, clear_nil]

/-- **A line read in part**: what its front holds is found first, and what waits
of it, with the rest of the line, carries the others. -/
theorem Carries.cut (h : S.Carries (xs ++ ys) ws) :
    ∃ vs, ws = (S.scan xs).1 ++ vs ∧ S.Carries ((S.scan xs).2 ++ ys) vs := by
  obtain ⟨hfound, hclear⟩ := h
  rw [scan_append] at hfound hclear
  exact ⟨_, hfound.symm, rfl, hclear⟩

/-- A line that waits carries nothing. -/
theorem Carries.eq_nil (h : S.Carries xs ws) (hwait : S.front xs = none) : ws = [] := by
  rw [← h.1, scan_of_none hwait]

/-! ### Finding the next frame again -/

/-- What is found behind a front is found in the stream. -/
theorem found_subset_scan (h : S.front xs = some (found, rest)) : found ⊆ (S.scan xs).1 := by
  rw [scan_of_some h]
  exact List.subset_append_left ..

/-- **Alignment**: a scan of `pre ++ tail` comes to look at `tail` itself, unless it
waits ahead of it or takes the first elements of `tail` together with some of
`pre`. -/
theorem aligned_or_crossed (hsuffix : ∀ {xs found rest}, S.front xs = some (found, rest) → rest <:+ xs)
    (pre tail : List α) :
    (∃ ws, S.scan (pre ++ tail) = (ws ++ (S.scan tail).1, (S.scan tail).2)) ∨
      ∃ mid, mid ≠ [] ∧ mid <:+ pre ∧ (S.front (mid ++ tail) = none ∨
        ∃ found rest, S.front (mid ++ tail) = some (found, rest) ∧ rest.length < tail.length ∧
          found ⊆ (S.scan (pre ++ tail)).1) := by
  induction hn : pre.length using Nat.strongRecOn generalizing pre with
  | _ n ih =>
      obtain rfl | hpre := eq_or_ne pre []
      · exact Or.inl ⟨[], rfl⟩
      cases hfront : S.front (pre ++ tail) with
      | none => exact Or.inr ⟨pre, hpre, List.suffix_rfl, Or.inl hfront⟩
      | some p =>
          obtain ⟨found, rest⟩ := p
          by_cases hcross : rest.length < tail.length
          · exact Or.inr ⟨pre, hpre, List.suffix_rfl,
              Or.inr ⟨found, rest, hfront, hcross, found_subset_scan hfront⟩⟩
          have htail : tail <:+ rest :=
            List.suffix_of_suffix_length_le (List.suffix_append pre tail) (hsuffix hfront) (by omega)
          obtain ⟨left, rfl⟩ := htail
          obtain ⟨taken, htaken⟩ := hsuffix hfront
          have hpre' : taken ++ left = pre := by simpa [← List.append_assoc] using htaken
          have hshort : left.length < pre.length := by simpa using S.shorter hfront
          have hscan := scan_of_some hfront
          obtain ⟨ws, hws⟩ | ⟨mid, hmid, hsuff, hstuck⟩ := ih left.length (hn ▸ hshort) left rfl
          · exact Or.inl ⟨found ++ ws, by simp [hscan, hws]⟩
          · refine Or.inr ⟨mid, hmid, hsuff.trans ⟨taken, hpre'⟩, hstuck.imp_right ?_⟩
            rintro ⟨found', rest', hfront', hcross', hsub⟩
            have hfound : (S.scan (left ++ tail)).1 ⊆ (S.scan (pre ++ tail)).1 := by simp [hscan]
            exact ⟨found', rest', hfront', hcross', fun _ hmem => hfound (hsub hmem)⟩

end Scanner

end Framing
