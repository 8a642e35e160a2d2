import ThermalCore.Linux.Json

/-!
# The token array

`platform/linux/jsmn.h` and `skip_token_n` of `platform/linux/config_jsmn.c`.  The
tokens of a document are listed in pre-order, each with the number of its
children, and `skip_token_n` finds the end of a subtree from these sizes alone.
It ends on any array, and on the listing of a document it is exact.

The C function recurses without a bound of its own; the model gives it fuel, and the
first part shows that as much fuel as there are tokens is always enough.  The second
part writes the listing of a document as a function of the document, and the third
follows the recursion of `skip_token_n` along that of the listing.
-/

namespace ThermalCore

/-- `jsmntype_t`. -/
inductive JsmnType where
  | undefined | object | array | string | primitive
deriving DecidableEq, Inhabited

/-- `jsmntok_t`. -/
structure JsmnTok where
  type : JsmnType
  start : Int
  stop : Int
  size : Int
  parent : Int
deriving Inhabited

/-- The loop `for (i = 0; i < size && j < n_toks; i++) j = next(j)`. -/
def skipLoop (nToks : Int) (next : Int → Option Int) : Nat → Int → Option Int
  | 0, j => some j
  | left + 1, j =>
      if j < nToks then
        match next j with
        | some j => skipLoop nToks next left j
        | none => none
      else some j

/-- `skip_token_n`, nested at most `fuel` deep. -/
def skipTokenN (toks : Int → JsmnTok) (nToks : Int) : Nat → Int → Option Int
  | 0, _ => none
  | fuel + 1, idx =>
      if idx < 0 ∨ nToks ≤ idx then some nToks
      else
        match (toks idx).type with
        | .object =>
            skipLoop nToks (fun j => skipTokenN toks nToks fuel (j + 1)) (toks idx).size.toNat (idx + 1)
        | .array =>
            skipLoop nToks (fun j => skipTokenN toks nToks fuel j) (toks idx).size.toNat (idx + 1)
        | _ => some (idx + 1)

/-! ## Termination -/

section termination

variable {nToks : Int} {next : Int → Option Int}

/-- A loop whose steps go forward, and stay in the array, does so too. -/
theorem skipLoop_bounds {lo : Int}
    (hnext : ∀ j, lo ≤ j → j < nToks → ∃ r, next j = some r ∧ j < r ∧ r ≤ nToks) (left : Nat)
    {j : Int} (hj : lo ≤ j) (hle : j ≤ nToks) :
    ∃ r, skipLoop nToks next left j = some r ∧ j ≤ r ∧ r ≤ nToks := by
  induction left generalizing j with
  | zero => exact ⟨j, rfl, Int.le_refl j, hle⟩
  | succ left ih =>
      by_cases hmore : j < nToks
      · obtain ⟨r, hr, hlt, hrle⟩ := hnext j hj hmore
        obtain ⟨r', hr', hge, hrle'⟩ := @ih r (by omega) hrle
        exact ⟨r', by simp [skipLoop, hmore, hr, hr'], by omega, hrle'⟩
      · exact ⟨j, by simp [skipLoop, hmore], Int.le_refl j, hle⟩

/-- A loop over more defined steps ends where it ended before. -/
theorem skipLoop_mono {next' : Int → Option Int} (h : ∀ j r, next j = some r → next' j = some r)
    {left : Nat} {j r : Int} (hr : skipLoop nToks next left j = some r) :
    skipLoop nToks next' left j = some r := by
  induction left generalizing j with
  | zero => exact hr
  | succ left ih =>
      rw [skipLoop] at hr ⊢
      by_cases hmore : j < nToks
      · rw [if_pos hmore] at hr ⊢
        cases hj : next j with
        | none => simp [hj] at hr
        | some j' =>
            simp only [hj] at hr
            simp only [h j j' hj]
            exact ih hr
      · rw [if_neg hmore] at hr ⊢
        exact hr

/-- `skip_token_n` goes by the parsed tokens alone. -/
theorem skipTokenN_congr {toks toks' : Int → JsmnTok} (h : ∀ i, 0 ≤ i → i < nToks → toks i = toks' i)
    (fuel : Nat) : skipTokenN toks nToks fuel = skipTokenN toks' nToks fuel := by
  induction fuel with
  | zero => rfl
  | succ fuel ih =>
      funext idx
      rw [skipTokenN, skipTokenN]
      by_cases hout : idx < 0 ∨ nToks ≤ idx
      · rw [if_pos hout, if_pos hout]
      · rw [if_neg hout, if_neg hout, h idx (by omega) (by omega), ih]

variable (toks : Int → JsmnTok)

/-- Behind the last token there is nothing to skip. -/
@[simp] theorem skipTokenN_end (fuel : Nat) : skipTokenN toks nToks (fuel + 1) nToks = some nToks := by
  simp [skipTokenN]

/-- More fuel changes nothing. -/
theorem skipTokenN_succ {fuel : Nat} {idx r : Int} (h : skipTokenN toks nToks fuel idx = some r) :
    skipTokenN toks nToks (fuel + 1) idx = some r := by
  induction fuel generalizing idx r with
  | zero => simp [skipTokenN] at h
  | succ fuel ih =>
      rw [skipTokenN] at h ⊢
      by_cases hout : idx < 0 ∨ nToks ≤ idx
      · rw [if_pos hout] at h ⊢
        exact h
      · rw [if_neg hout] at h ⊢
        cases htype : (toks idx).type <;> simp only [htype] at h ⊢
        case object => exact skipLoop_mono (fun j r hj => ih hj) h
        case array => exact skipLoop_mono (fun j r hj => ih hj) h
        all_goals exact h

/-- More fuel does not change where a skip ends. -/
theorem skipTokenN_mono {fuel fuel' : Nat} {idx r : Int} (hle : fuel ≤ fuel')
    (h : skipTokenN toks nToks fuel idx = some r) : skipTokenN toks nToks fuel' idx = some r := by
  induction hle with
  | refl => exact h
  | step _ ih => exact skipTokenN_succ toks ih

/-- **The end is found** from any index of any array, nested no deeper than there
are tokens left. -/
theorem skipTokenN_total {fuel : Nat} {idx : Int} (hidx : 0 ≤ idx) (hlt : idx < nToks)
    (hfuel : nToks - idx < fuel) :
    ∃ r, skipTokenN toks nToks fuel idx = some r ∧ idx < r ∧ r ≤ nToks := by
  induction fuel generalizing idx with
  | zero => omega
  | succ fuel ih =>
      have hin : ¬(idx < 0 ∨ nToks ≤ idx) := by omega
      -- one step of either loop, from an index past this one
      have hstep : ∀ j, idx + 1 ≤ j → j < nToks →
          ∃ r, skipTokenN toks nToks fuel j = some r ∧ j < r ∧ r ≤ nToks :=
        fun j hj hjlt => ih (by omega) hjlt (by omega)
      have hkey : ∀ j, idx + 1 ≤ j → j < nToks →
          ∃ r, skipTokenN toks nToks fuel (j + 1) = some r ∧ j < r ∧ r ≤ nToks := by
        intro j hj hjlt
        by_cases hlast : j + 1 = nToks
        · obtain ⟨n, rfl⟩ : ∃ n, fuel = n + 1 := ⟨fuel - 1, by omega⟩
          exact ⟨nToks, by rw [hlast, skipTokenN_end], hjlt, Int.le_refl nToks⟩
        · obtain ⟨r, hr, hlt', hle⟩ := hstep (j + 1) (by omega) (by omega)
          exact ⟨r, hr, by omega, hle⟩
      rw [skipTokenN, if_neg hin]
      cases (toks idx).type with
      | object =>
          obtain ⟨r, hr, hge, hle⟩ :=
            skipLoop_bounds hkey (toks idx).size.toNat (Int.le_refl (idx + 1)) hlt
          exact ⟨r, hr, by omega, hle⟩
      | array =>
          obtain ⟨r, hr, hge, hle⟩ :=
            skipLoop_bounds hstep (toks idx).size.toNat (Int.le_refl (idx + 1)) hlt
          exact ⟨r, hr, by omega, hle⟩
      | undefined => exact ⟨idx + 1, rfl, by omega, by omega⟩
      | string => exact ⟨idx + 1, rfl, by omega, by omega⟩
      | primitive => exact ⟨idx + 1, rfl, by omega, by omega⟩

end termination

/-! ## The listing of a document -/

mutual

/-- The tokens of a value in pre-order, by type and size, each with the number of
tokens of the subtree it starts; a key starts no subtree but itself. -/
def Json.listing : Json → List (JsmnType × Int × Nat)
  | .object members =>
      (.object, members.length, 1 + membersTokenCount members) :: membersListing members
  | .array elems => (.array, elems.length, 1 + elemsTokenCount elems) :: elemsListing elems
  | .string _ => [(.string, 0, 1)]
  | .primitive _ => [(.primitive, 0, 1)]

/-- A member: its key, which has the value as its one child, and the value. -/
def memberListing : Bytes × Json → List (JsmnType × Int × Nat)
  | (_, v) => (.string, 1, 1) :: v.listing

/-- The members of an object, one after the other. -/
def membersListing : List (Bytes × Json) → List (JsmnType × Int × Nat)
  | [] => []
  | m :: ms => memberListing m ++ membersListing ms

/-- The elements of an array, one after the other. -/
def elemsListing : List Json → List (JsmnType × Int × Nat)
  | [] => []
  | v :: vs => v.listing ++ elemsListing vs

end

mutual

/-- A value's listing is as long as it has tokens. -/
theorem Json.length_listing : ∀ v : Json, v.listing.length = v.tokenCount
  | .object members => by simp [Json.listing, Json.tokenCount, length_membersListing members, Nat.add_comm]
  | .array elems => by simp [Json.listing, Json.tokenCount, length_elemsListing elems, Nat.add_comm]
  | .string _ => rfl
  | .primitive _ => rfl

/-- A member's listing is as long as it has tokens. -/
theorem length_memberListing : ∀ m : Bytes × Json, (memberListing m).length = memberTokenCount m
  | (_, v) => by simp [memberListing, memberTokenCount, Json.length_listing v, Nat.add_comm]

/-- The members' listing is as long as they have tokens. -/
theorem length_membersListing :
    ∀ ms : List (Bytes × Json), (membersListing ms).length = membersTokenCount ms
  | [] => rfl
  | m :: ms => by
      simp [membersListing, membersTokenCount, length_memberListing m, length_membersListing ms]

/-- The elements' listing is as long as they have tokens. -/
theorem length_elemsListing : ∀ vs : List Json, (elemsListing vs).length = elemsTokenCount vs
  | [] => rfl
  | v :: vs => by simp [elemsListing, elemsTokenCount, Json.length_listing v, length_elemsListing vs]

end

/-- The first entry of a listing knows how many tokens the value has. -/
theorem Json.head_listing (v : Json) : ∃ type size, v.listing[0]? = some (type, size, v.tokenCount) := by
  cases v with
  | object members => exact ⟨_, _, rfl⟩
  | array elems => exact ⟨_, _, rfl⟩
  | string bytes => exact ⟨_, _, rfl⟩
  | primitive bytes => exact ⟨_, _, rfl⟩

/-! ## Exactness -/

section exact

variable (toks : Int → JsmnTok) (nToks : Int)

/-- From `idx` on the array has the types and sizes of a listing. -/
def ListedAt (idx : Int) (es : List (JsmnType × Int × Nat)) : Prop :=
  ∀ (i : Nat) (e : JsmnType × Int × Nat), es[i]? = some e →
    (toks (idx + i)).type = e.1 ∧ (toks (idx + i)).size = e.2.1

/-- From each token of a listing the end of its subtree is found. -/
def SkipsExactly (idx : Int) (es : List (JsmnType × Int × Nat)) : Prop :=
  ∀ (i : Nat) (e : JsmnType × Int × Nat), es[i]? = some e →
    ∀ fuel r, skipTokenN toks nToks fuel (idx + i) = some r → r = idx + i + e.2.2

variable {toks nToks} {idx : Int} {es es' : List (JsmnType × Int × Nat)}

/-- A listing's first part is listed where the whole is. -/
theorem ListedAt.left (h : ListedAt toks idx (es ++ es')) : ListedAt toks idx es := by
  intro i e he
  have hlt : i < es.length := (List.getElem?_eq_some_iff.mp he).1
  exact h i e (by rw [List.getElem?_append_left hlt, he])

/-- A listing's second part is listed behind the first. -/
theorem ListedAt.right (h : ListedAt toks idx (es ++ es')) : ListedAt toks (idx + es.length) es' := by
  intro i e he
  have hshift := h (es.length + i) e
    (by rw [List.getElem?_append_right (Nat.le_add_right _ _), Nat.add_sub_cancel_left, he])
  rwa [Nat.cast_add, ← Int.add_assoc] at hshift

/-- Where each part is skipped exactly, the whole is. -/
theorem SkipsExactly.append (h : SkipsExactly toks nToks idx es)
    (h' : SkipsExactly toks nToks (idx + es.length) es') : SkipsExactly toks nToks idx (es ++ es') := by
  intro i e he fuel r hr
  by_cases hlt : i < es.length
  · rw [List.getElem?_append_left hlt] at he
    exact h i e he fuel r hr
  · rw [List.getElem?_append_right (Nat.le_of_not_lt hlt)] at he
    have hidx : idx + i = idx + es.length + ((i - es.length : Nat) : Int) := by omega
    rw [hidx] at hr ⊢
    exact h' (i - es.length) e he fuel r hr

/-- Where the whole is skipped exactly, its first part is. -/
theorem SkipsExactly.left (h : SkipsExactly toks nToks idx (es ++ es')) :
    SkipsExactly toks nToks idx es := by
  intro i e he
  have hlt : i < es.length := (List.getElem?_eq_some_iff.mp he).1
  exact h i e (by rw [List.getElem?_append_left hlt, he])

/-- Where the whole is skipped exactly, its second part is. -/
theorem SkipsExactly.right (h : SkipsExactly toks nToks idx (es ++ es')) :
    SkipsExactly toks nToks (idx + es.length) es' := by
  intro i e he fuel r hr
  have hidx : idx + es.length + (i : Int) = idx + ((es.length + i : Nat) : Int) := by omega
  rw [hidx] at hr ⊢
  exact h (es.length + i) e
    (by rw [List.getElem?_append_right (Nat.le_add_right _ _), Nat.add_sub_cancel_left, he]) fuel r hr

/-- The value a listing starts with is passed. -/
theorem SkipsExactly.head {v : Json} {fuel : Nat} {r : Int}
    (h : SkipsExactly toks nToks idx (v.listing ++ es)) (hr : skipTokenN toks nToks fuel idx = some r) :
    r = idx + v.tokenCount := by
  obtain ⟨type, size, hhead⟩ := v.head_listing
  have hexact := h.left 0 _ hhead fuel r
  rw [Nat.cast_zero, Int.add_zero] at hexact
  exact hexact hr

/-- The loop over the members of an object passes them all. -/
theorem skipLoop_members {fuel : Nat} {ms : List (Bytes × Json)} {j r : Int}
    (hms : SkipsExactly toks nToks j (membersListing ms)) (hfit : j + membersTokenCount ms ≤ nToks)
    (hr : skipLoop nToks (fun j => skipTokenN toks nToks fuel (j + 1)) ms.length j = some r) :
    r = j + membersTokenCount ms := by
  induction ms generalizing j with
  | nil =>
      rw [List.length_nil, skipLoop, Option.some.injEq] at hr
      simp [← hr, membersTokenCount]
  | cons m ms ih =>
      obtain ⟨key, v⟩ := m
      have hlength := v.length_listing
      rw [membersTokenCount, memberTokenCount] at hfit ⊢
      rw [List.length_cons, skipLoop, if_pos (by omega)] at hr
      rw [membersListing, memberListing, List.cons_append, ← List.singleton_append] at hms
      have hvalue := hms.right
      rw [List.length_singleton, Nat.cast_one] at hvalue
      cases hnext : skipTokenN toks nToks fuel (j + 1) with
      | none => simp [hnext] at hr
      | some j' =>
          have hj' := hvalue.head hnext
          have hrest := hvalue.right
          rw [hlength, ← hj'] at hrest
          simp only [hnext] at hr
          have hend := ih hrest (by omega) hr
          omega

/-- The loop over the elements of an array passes them all. -/
theorem skipLoop_elems {fuel : Nat} {vs : List Json} {j r : Int}
    (hvs : SkipsExactly toks nToks j (elemsListing vs)) (hfit : j + elemsTokenCount vs ≤ nToks)
    (hr : skipLoop nToks (fun j => skipTokenN toks nToks fuel j) vs.length j = some r) :
    r = j + elemsTokenCount vs := by
  induction vs generalizing j with
  | nil =>
      rw [List.length_nil, skipLoop, Option.some.injEq] at hr
      simp [← hr, elemsTokenCount]
  | cons v vs ih =>
      have hlength := v.length_listing
      have hpos : 0 < v.tokenCount := by cases v <;> simp [Json.tokenCount]
      rw [elemsTokenCount] at hfit ⊢
      rw [List.length_cons, skipLoop, if_pos (by omega)] at hr
      rw [elemsListing] at hvs
      cases hnext : skipTokenN toks nToks fuel j with
      | none => simp [hnext] at hr
      | some j' =>
          have hj' := hvs.head hnext
          have hrest := hvs.right
          rw [hlength, ← hj'] at hrest
          simp only [hnext] at hr
          have hend := ih hrest (by omega) hr
          omega

/-- A token in front of a listing that is passed exactly. -/
theorem SkipsExactly.cons {e : JsmnType × Int × Nat}
    (hhead : ∀ fuel r, skipTokenN toks nToks fuel idx = some r → r = idx + e.2.2)
    (htail : SkipsExactly toks nToks (idx + 1) es) : SkipsExactly toks nToks idx (e :: es) := by
  intro i e' he' fuel r hr
  cases i with
  | zero =>
      rw [List.getElem?_cons_zero, Option.some.injEq] at he'
      rw [Nat.cast_zero, Int.add_zero] at hr ⊢
      rw [← he']
      exact hhead fuel r hr
  | succ i =>
      have hidx : idx + ((i + 1 : Nat) : Int) = idx + 1 + i := by omega
      rw [hidx] at hr ⊢
      exact htail i e' he' fuel r hr

/-- The first entry of a listing and the rest behind it. -/
theorem ListedAt.cons {e : JsmnType × Int × Nat} (h : ListedAt toks idx (e :: es)) :
    ((toks idx).type = e.1 ∧ (toks idx).size = e.2.1) ∧ ListedAt toks (idx + 1) es := by
  have hhead := h 0 e rfl
  rw [Nat.cast_zero, Int.add_zero] at hhead
  exact ⟨hhead, @ListedAt.right toks idx [e] es h⟩

/-- A string or a primitive is one token. -/
theorem skipTokenN_leaf {fuel : Nat} {r : Int} (hidx : 0 ≤ idx) (hlt : idx < nToks)
    (htype : (toks idx).type = .string ∨ (toks idx).type = .primitive)
    (hr : skipTokenN toks nToks fuel idx = some r) : r = idx + 1 := by
  cases fuel with
  | zero => simp [skipTokenN] at hr
  | succ fuel =>
      rw [skipTokenN, if_neg (by omega)] at hr
      cases htype with
      | inl h => simpa [h] using hr.symm
      | inr h => simpa [h] using hr.symm

/-- An object is skipped member by member. -/
theorem skipTokenN_object {fuel : Nat} {r : Int} {ms : List (Bytes × Json)} (hidx : 0 ≤ idx)
    (htype : (toks idx).type = .object) (hsize : (toks idx).size = ms.length)
    (hms : SkipsExactly toks nToks (idx + 1) (membersListing ms))
    (hfit : idx + 1 + membersTokenCount ms ≤ nToks)
    (hr : skipTokenN toks nToks fuel idx = some r) : r = idx + 1 + membersTokenCount ms := by
  cases fuel with
  | zero => simp [skipTokenN] at hr
  | succ fuel =>
      rw [skipTokenN, if_neg (by omega)] at hr
      simp only [htype, hsize, Int.toNat_natCast] at hr
      exact skipLoop_members hms hfit hr

/-- An array is skipped element by element. -/
theorem skipTokenN_array {fuel : Nat} {r : Int} {vs : List Json} (hidx : 0 ≤ idx)
    (htype : (toks idx).type = .array) (hsize : (toks idx).size = vs.length)
    (hvs : SkipsExactly toks nToks (idx + 1) (elemsListing vs))
    (hfit : idx + 1 + elemsTokenCount vs ≤ nToks)
    (hr : skipTokenN toks nToks fuel idx = some r) : r = idx + 1 + elemsTokenCount vs := by
  cases fuel with
  | zero => simp [skipTokenN] at hr
  | succ fuel =>
      rw [skipTokenN, if_neg (by omega)] at hr
      simp only [htype, hsize, Int.toNat_natCast] at hr
      exact skipLoop_elems hvs hfit hr

mutual

/-- **Every token of a listed value** is passed exactly. -/
theorem Json.skipsExactly : ∀ (v : Json) (idx : Int), 0 ≤ idx → ListedAt toks idx v.listing →
    idx + v.tokenCount ≤ nToks → SkipsExactly toks nToks idx v.listing
  | .object ms, idx, hidx, hlisted, hfit => by
      rw [Json.listing] at hlisted ⊢
      rw [Json.tokenCount] at hfit
      obtain ⟨⟨htype, hsize⟩, hrest⟩ := hlisted.cons
      have hms := membersSkipExactly ms (idx + 1) (by omega) hrest (by omega)
      refine .cons (fun fuel r hr => ?_) hms
      have hend := skipTokenN_object hidx htype hsize hms (by omega) hr
      dsimp only
      omega
  | .array vs, idx, hidx, hlisted, hfit => by
      rw [Json.listing] at hlisted ⊢
      rw [Json.tokenCount] at hfit
      obtain ⟨⟨htype, hsize⟩, hrest⟩ := hlisted.cons
      have hvs := elemsSkipExactly vs (idx + 1) (by omega) hrest (by omega)
      refine .cons (fun fuel r hr => ?_) hvs
      have hend := skipTokenN_array hidx htype hsize hvs (by omega) hr
      dsimp only
      omega
  | .string _, idx, hidx, hlisted, hfit => by
      obtain ⟨⟨htype, -⟩, hrest⟩ := hlisted.cons
      rw [Json.tokenCount] at hfit
      exact .cons (fun fuel r hr => skipTokenN_leaf hidx (by omega) (.inl htype) hr)
        fun i e he => absurd he (by simp)
  | .primitive _, idx, hidx, hlisted, hfit => by
      obtain ⟨⟨htype, -⟩, hrest⟩ := hlisted.cons
      rw [Json.tokenCount] at hfit
      exact .cons (fun fuel r hr => skipTokenN_leaf hidx (by omega) (.inr htype) hr)
        fun i e he => absurd he (by simp)

/-- A listed member is skipped exactly. -/
theorem memberSkipExactly : ∀ (m : Bytes × Json) (idx : Int), 0 ≤ idx →
    ListedAt toks idx (memberListing m) → idx + memberTokenCount m ≤ nToks →
    SkipsExactly toks nToks idx (memberListing m)
  | (_, v), idx, hidx, hlisted, hfit => by
      rw [memberListing] at hlisted ⊢
      rw [memberTokenCount] at hfit
      obtain ⟨⟨htype, -⟩, hrest⟩ := hlisted.cons
      exact .cons (fun fuel r hr => skipTokenN_leaf hidx (by omega) (.inl htype) hr)
        (Json.skipsExactly v (idx + 1) (by omega) hrest (by omega))

/-- Listed members are skipped exactly. -/
theorem membersSkipExactly : ∀ (ms : List (Bytes × Json)) (idx : Int), 0 ≤ idx →
    ListedAt toks idx (membersListing ms) → idx + membersTokenCount ms ≤ nToks →
    SkipsExactly toks nToks idx (membersListing ms)
  | [], _, _, _, _ => fun i e he => absurd he (by simp [membersListing])
  | m :: ms, idx, hidx, hlisted, hfit => by
      have hlength := length_memberListing m
      rw [membersListing] at hlisted ⊢
      rw [membersTokenCount] at hfit
      exact (memberSkipExactly m idx hidx hlisted.left (by omega)).append
        (membersSkipExactly ms _ (by omega) hlisted.right (by omega))

/-- Listed elements are skipped exactly. -/
theorem elemsSkipExactly : ∀ (vs : List Json) (idx : Int), 0 ≤ idx →
    ListedAt toks idx (elemsListing vs) → idx + elemsTokenCount vs ≤ nToks →
    SkipsExactly toks nToks idx (elemsListing vs)
  | [], _, _, _, _ => fun i e he => absurd he (by simp [elemsListing])
  | v :: vs, idx, hidx, hlisted, hfit => by
      have hlength := v.length_listing
      rw [elemsListing] at hlisted ⊢
      rw [elemsTokenCount] at hfit
      exact (Json.skipsExactly v idx hidx hlisted.left (by omega)).append
        (elemsSkipExactly vs _ (by omega) hlisted.right (by omega))

end

end exact

/-- **Token skipping is total and exact.**  From any index of any array the end is
found, past the index and in the array; on the listing of a document it is the end
of the subtree the token starts. -/
theorem skipTokenN_total_exact (toks : Int → JsmnTok) (nToks : Int) :
    (∀ idx, 0 ≤ idx → idx < nToks →
      ∃ r, idx < r ∧ r ≤ nToks ∧
        ∀ fuel : Nat, nToks - idx < fuel → skipTokenN toks nToks fuel idx = some r) ∧
      ∀ v : Json, nToks = v.tokenCount → ListedAt toks 0 v.listing →
        ∀ (i : Nat) (e : JsmnType × Int × Nat), v.listing[i]? = some e →
          ∀ fuel : Nat, nToks - i < fuel → skipTokenN toks nToks fuel i = some ((i : Int) + e.2.2) := by
  constructor
  · intro idx hidx hlt
    obtain ⟨r, hr, hgt, hle⟩ :=
      @skipTokenN_total nToks toks ((nToks - idx).toNat + 1) idx hidx hlt (by omega)
    exact ⟨r, hgt, hle, fun fuel hfuel => skipTokenN_mono toks (by omega) hr⟩
  · intro v htotal hlisted i e he fuel hfuel
    have hlt : i < v.listing.length := (List.getElem?_eq_some_iff.mp he).1
    rw [v.length_listing] at hlt
    have hin : (i : Int) < nToks := by omega
    obtain ⟨r, hr, -⟩ := skipTokenN_total toks (Int.natCast_nonneg i) hin hfuel
    have hexact :=
      @Json.skipsExactly toks nToks v 0 (Int.le_refl 0) hlisted (by omega) i e he fuel r
    rw [Int.zero_add] at hexact
    rw [hr, hexact hr]

/-- The tokens of a listing, without their positions in the text. -/
def listedTokens (es : List (JsmnType × Int × Nat)) (idx : Int) : JsmnTok :=
  match es[idx.toNat]? with
  | some e => ⟨e.1, 0, 0, e.2.1, -1⟩
  | none => default

/-- A listing can be laid out as an array of tokens. -/
theorem listedAt_listedTokens (es : List (JsmnType × Int × Nat)) : ListedAt (listedTokens es) 0 es := by
  intro i e he
  simp [listedTokens, he]

/-- In an object with an array for its one member, the array ends where the object
does. -/
theorem skipTokenN_total_exact_nested :
    let v := Json.object [(ascii "a", .array [.primitive (ascii "1"), .object []])]
    (∃ r, 1 < r ∧ r ≤ 5 ∧ ∀ fuel : Nat, (5 : Int) - 1 < fuel →
      skipTokenN (listedTokens v.listing) 5 fuel 1 = some r) ∧
      skipTokenN (listedTokens v.listing) 5 10 2 = some 5 :=
  have h := skipTokenN_total_exact
    (listedTokens (Json.object [(ascii "a", .array [.primitive (ascii "1"), .object []])]).listing) 5
  ⟨h.1 1 (by decide) (by decide),
    h.2 (.object [(ascii "a", .array [.primitive (ascii "1"), .object []])]) rfl
      (listedAt_listedTokens _) 2 (.array, 2, 3) rfl 10 (by decide)⟩

end ThermalCore
