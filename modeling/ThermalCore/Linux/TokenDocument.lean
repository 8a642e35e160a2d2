import Mathlib.Data.List.Forall2
import ThermalCore.Linux.TokenLoader

/-!
# The token array of a document

What the parsers of `platform/linux/config_jsmn.c` get from a token array that holds
a document.  A scan over the tokens then ends as the parser on the document does:
there is one rule for each way a scan is put together.

An entry of the listing says of a token its type, its size, what text it has, and for
an object or an array that its range runs from the opening to the closing bracket.
`Holds` places such a listing at an index.  `AgreesAt`, `AgreesArm` and `AgreesElem`
are the three ways in which a parser is called; the combinators of `Linux.TokenScan`
keep them, so a section's agreement is an application and not an argument.
-/

namespace ThermalCore

/-! ## Entries -/

/-- What a document says of one of its tokens: the type, the number of children and,
for a string, a key or a primitive, the bytes. -/
structure TokenEntry where
  type : JsmnType
  size : Int
  text : Option Bytes

mutual

/-- The tokens of a value in pre-order. -/
def Json.entries : Json → List TokenEntry
  | .object members => ⟨.object, members.length, none⟩ :: membersEntries members
  | .array elems => ⟨.array, elems.length, none⟩ :: elemsEntries elems
  | .string bytes => [⟨.string, 0, some bytes⟩]
  | .primitive bytes => [⟨.primitive, 0, some bytes⟩]

/-- A member: the key's token, then those of the value. -/
def memberEntries : Bytes × Json → List TokenEntry
  | (key, v) => ⟨.string, 1, some key⟩ :: v.entries

/-- The members of an object, one after the other. -/
def membersEntries : List (Bytes × Json) → List TokenEntry
  | [] => []
  | m :: ms => memberEntries m ++ membersEntries ms

/-- The elements of an array, one after the other. -/
def elemsEntries : List Json → List TokenEntry
  | [] => []
  | v :: vs => v.entries ++ elemsEntries vs

end

mutual

/-- The entries are those of the listing. -/
theorem Json.shape_entries : ∀ v : Json,
    v.entries.map (fun e => (e.type, e.size)) = v.listing.map fun e => (e.1, e.2.1)
  | .object members => by simp [Json.entries, Json.listing, shape_membersEntries members]
  | .array elems => by simp [Json.entries, Json.listing, shape_elemsEntries elems]
  | .string _ => rfl
  | .primitive _ => rfl

/-- A member's entries have the types and sizes of its listing. -/
theorem shape_memberEntries : ∀ m : Bytes × Json,
    (memberEntries m).map (fun e => (e.type, e.size)) = (memberListing m).map fun e => (e.1, e.2.1)
  | (_, v) => by simp [memberEntries, memberListing, Json.shape_entries v]

/-- The members' entries have the types and sizes of their listing. -/
theorem shape_membersEntries : ∀ ms : List (Bytes × Json),
    (membersEntries ms).map (fun e => (e.type, e.size)) = (membersListing ms).map fun e => (e.1, e.2.1)
  | [] => rfl
  | m :: ms => by simp [membersEntries, membersListing, shape_memberEntries m, shape_membersEntries ms]

/-- The elements' entries have the types and sizes of their listing. -/
theorem shape_elemsEntries : ∀ vs : List Json,
    (elemsEntries vs).map (fun e => (e.type, e.size)) = (elemsListing vs).map fun e => (e.1, e.2.1)
  | [] => rfl
  | v :: vs => by simp [elemsEntries, elemsListing, Json.shape_entries v, shape_elemsEntries vs]

end

/-- As many entries as the value has tokens. -/
theorem Json.length_entries (v : Json) : v.entries.length = v.tokenCount := by
  simpa [v.length_listing] using congrArg List.length v.shape_entries

/-- The bytes a token of the text `json` stands for. -/
def tokText (json : Bytes) (t : JsmnTok) : Bytes := (json.drop t.start.toNat).take (t.stop - t.start).toNat

/-- The bytes an object or an array begins and ends with. -/
def JsmnType.brackets : JsmnType → Option (Nat × Nat)
  | .object => some (123, 125)
  | .array => some (91, 93)
  | _ => none

/-- The token is the one the entry describes.  It lies within the text, on the bytes of
its string or primitive, or from its bracket to a closing one. -/
structure TokenEntry.Of (json : Bytes) (e : TokenEntry) (t : JsmnTok) : Prop where
  type : t.type = e.type
  size : t.size = e.size
  start : 0 ≤ t.start
  stop : t.start ≤ t.stop
  within : t.stop ≤ json.length
  text : ∀ bytes, e.text = some bytes → tokText json t = bytes
  brackets : ∀ opening closing, e.type.brackets = some (opening, closing) →
    ∃ body, tokText json t = opening :: (body ++ [closing])

/-- What the accessors see of a value: of an object or an array, that it is neither a
string nor a primitive. -/
def Json.leaf : Json → Json
  | .object _ => .object []
  | .array _ => .object []
  | .string bytes => .string bytes
  | .primitive bytes => .primitive bytes

/-- An arm that looks at its value through the accessors alone. -/
def Arm.Leaf {σ : Type} (arm : Arm σ) : Prop := ∀ path v st, arm.parse path v.leaf st = arm.parse path v st

/-- An element parser that looks at the element through the accessors alone. -/
def LeafElem {σ : Type} (elem : Bytes → Json → σ → Load σ) : Prop :=
  ∀ path v st, elem path v.leaf st = elem path v st

/-- What follows a success is run on its value. -/
@[simp] theorem Load.ok_bind {α β : Type} (a : α) (f : α → Load β) : ((.ok a : Load α) >>= f) = f a := rfl

/-- Nothing follows an error. -/
@[simp] theorem setErr_bind {α β : Type} (code : ThermalStatus) (path : Bytes) (reason : String) (f : α → Load β) :
    setErr code path reason >>= f = setErr code path reason := rfl

/-- Nothing follows an error with an argument in its text. -/
@[simp] theorem setErrf_bind {α β : Type} (code : ThermalStatus) (path : Bytes) (reason : String) (arg : Bytes)
    (f : α → Load β) : setErrf code path reason arg >>= f = setErrf code path reason arg := rfl

/-- A key that does not fit the buffer is not copied. -/
theorem tokStrCopy_of_long {key : Bytes} (h : key.length + 1 > 64) : tokStrCopy 64 (.string key) = none := if_pos h

/-- A key that fits is copied. -/
theorem tokStrCopy_of_short {key : Bytes} (h : ¬key.length + 1 > 64) : tokStrCopy 64 (.string key) = some key :=
  if_neg h

namespace ParseCtx

variable (c : ParseCtx) {σ τ : Type}

/-- From `t` on the parsed tokens are those of the entries. -/
structure Holds (t : Int) (es : List TokenEntry) : Prop where
  start : 0 ≤ t
  fits : t + es.length ≤ c.nToks
  held : ∀ (i : Nat) (e : TokenEntry), es[i]? = some e → e.Of c.json (c.toks (t + i))

/-! ## Held values -/

section held

variable {c} {t : Int} {es es' : List TokenEntry} {v : Json}

/-- A listing's first part is held where the whole is. -/
theorem Holds.left (h : c.Holds t (es ++ es')) : c.Holds t es where
  start := h.start
  fits := by
    have hfits := h.fits
    rw [List.length_append] at hfits
    omega
  held i e he := by
    have hlt : i < es.length := (List.getElem?_eq_some_iff.mp he).1
    exact h.held i e (by rw [List.getElem?_append_left hlt, he])

/-- Its second part is held behind the first. -/
theorem Holds.right (h : c.Holds t (es ++ es')) : c.Holds (t + es.length) es' where
  start := by
    have hstart := h.start
    omega
  fits := by
    have hfits := h.fits
    rw [List.length_append] at hfits
    omega
  held i e he := by
    have hshift := h.held (es.length + i) e
      (by rw [List.getElem?_append_right (Nat.le_add_right _ _), Nat.add_sub_cancel_left, he])
    rwa [Nat.cast_add, ← Int.add_assoc] at hshift

/-- Behind the first token the rest is held. -/
theorem Holds.tail {e : TokenEntry} (h : c.Holds t (e :: es)) : c.Holds (t + 1) es :=
  @Holds.right c t [e] es h

/-- The first token is that of the first entry. -/
theorem Holds.head {e : TokenEntry} (h : c.Holds t (e :: es)) : e.Of c.json (c.toks t) := by
  simpa using h.held 0 e rfl

/-- The first token is a parsed one. -/
theorem Holds.lt {e : TokenEntry} (h : c.Holds t (e :: es)) : t < c.nToks := by
  have hfits := h.fits
  rw [List.length_cons] at hfits
  omega

/-- A held value is listed. -/
theorem Holds.listed (h : c.Holds t v.entries) : c.Listed t v.listing where
  start := h.start
  fits := by
    rw [v.length_listing, ← v.length_entries]
    exact h.fits
  listed i e he := by
    have hshape : (v.entries.map fun e => (e.type, e.size))[i]? = some (e.1, e.2.1) := by
      rw [v.shape_entries, List.getElem?_map, he]
      rfl
    rw [List.getElem?_map, Option.map_eq_some_iff] at hshape
    obtain ⟨entry, hentry, heq⟩ := hshape
    have hof := h.held i entry hentry
    rw [hof.type, hof.size]
    exact Prod.mk.inj heq

/-- The token a value starts with. -/
theorem Holds.first (h : c.Holds t v.entries) :
    t < c.nToks ∧ ∃ e, e.Of c.json (c.toks t) ∧ v.entries.head? = some e := by
  cases v <;> exact ⟨h.lt, _, h.head, rfl⟩

/-- A held token passes `tok_in_range`. -/
theorem Holds.inRange {e : TokenEntry} (h : c.Holds t (e :: es)) : c.tokInRange t = true := by
  simp [tokInRange, h.start, h.lt, h.head.start, h.head.stop]

/-- The next value is where `skip_token` says. -/
theorem Holds.next (h : c.Holds t (v.entries ++ es)) : c.Holds (t + v.tokenCount) es := by
  have hright := h.right
  rwa [v.length_entries] at hright

end held

/-! ## Results -/

/-- A parser of objects or arrays ends as the one on documents, whatever the value. -/
abbrev AgreesAt (parse : Bytes → Int → σ → Scan σ) (parse' : Bytes → Json → σ → Load σ) : Prop :=
  ∀ path t v st, c.Holds t v.entries → (parse path t st).result = parse' path v st

/-- An arm of an object loop: the value is behind the key. -/
abbrev AgreesArm (arm : TokenArm σ) (arm' : Arm σ) : Prop :=
  ∀ path k v st, c.Holds (k + 1) v.entries → (arm.parse path k st).result = arm'.parse path v st

/-- Two tables of keys, arm by arm. -/
abbrev AgreesArms (arms : List (TokenArm σ)) (arms' : List (Arm σ)) : Prop :=
  List.Forall₂ (fun arm arm' => arm.key = arm'.key ∧ c.AgreesArm arm arm') arms arms'

/-- An element parser, as the array loops call it. -/
abbrev AgreesElem (elem : Nat → Bytes → Int → σ → Scan σ) (elem' : Nat → Bytes → Json → σ → Load σ) : Prop :=
  ∀ j, c.AgreesAt (elem j) (elem' j)

/-- The key of a leaf's arm. -/
@[simp] theorem key_leafArm (arm : Arm σ) : (c.leafArm arm).key = arm.key := rfl

/-- The key of a section's arm. -/
@[simp] theorem key_valueArm (key : String) (parse : Bytes → Int → σ → Scan σ) :
    (valueArm key parse).key = key := rfl

section rules

variable {c} {t : Int} {v : Json}

/-- A token with bytes is a string or a primitive. -/
theorem Holds.tokView_string {es : List TokenEntry} {size : Int} {bytes : Bytes}
    (h : c.Holds t (⟨.string, size, some bytes⟩ :: es)) : c.tokView t = .string bytes := by
  have htext : c.tokBytes (c.toks t) = bytes := h.head.text bytes rfl
  simp [tokView, h.inRange, h.head.type, htext]

/-- The accessors see the value as far as they can tell. -/
theorem Holds.tokView (h : c.Holds t v.entries) : c.tokView t = v.leaf := by
  cases v with
  | object members => simp [ParseCtx.tokView, Json.leaf, h.head.type]
  | array elems => simp [ParseCtx.tokView, Json.leaf, h.head.type]
  | string bytes => exact h.tokView_string
  | primitive bytes =>
      have htext : c.tokBytes (c.toks t) = bytes := h.head.text bytes rfl
      simp [ParseCtx.tokView, Json.leaf, h.inRange, h.head.type, htext]

/-- `skip_token` passes a held value exactly. -/
theorem Holds.skipToken (h : c.Holds t v.entries) : (c.skipToken t).result = .ok (t + v.tokenCount) := by
  have hok : ∃ r, (c.skipToken t).result = .ok r := by
    rw [ParseCtx.skipToken, Logged.result_emitAll_bind]
    cases skipTokenN c.toks c.nToks c.skipFuel t <;> exact ⟨_, rfl⟩
  obtain ⟨r, hr⟩ := hok
  rw [hr, h.listed.skipToken hr]

/-! ## Arms and elements -/

/-- A leaf's arm agrees when it looks no further than the token. -/
theorem agreesArm_leafArm {arm : Arm σ} (hleaf : arm.Leaf) : c.AgreesArm (c.leafArm arm) arm := by
  intro path k v st hv
  simp [leafArm, hv.tokView, hleaf path v st]

/-- A section's arm agrees when its parser does. -/
theorem agreesArm_valueArm {parse : Bytes → Int → σ → Scan σ} {parse' : Bytes → Json → σ → Load σ}
    (hparse : c.AgreesAt parse parse') (key : String) :
    c.AgreesArm (valueArm key parse) { key := key, parse := parse' } := fun path k v st hv =>
  hparse path (k + 1) v st hv

/-- A value handed to a parser whose result is stored in the struct. -/
theorem agreesArm_store {parse : σ → Bytes → Int → Scan τ} {parse' : σ → Bytes → Json → Load τ}
    (hparse : ∀ st path t v, c.Holds t v.entries → (parse st path t).result = parse' st path v)
    (put : σ → τ → σ) (key : String) :
    c.AgreesArm
      (valueArm key fun path t st => do
        let out ← parse st path t
        pure (put st out))
      { key := key
        parse := fun path v st => do
          let out ← parse' st path v
          .ok (put st out) } := by
  intro path k v st hv
  simp [valueArm, hparse st path (k + 1) v hv]

/-- A table: every key a parser of objects or arrays is given for agrees with it, and
the arms of the other keys look at their value through the accessors. -/
theorem agreesArms_tokenArms {arms : List (Arm σ)} {parsers : List (TokenArm σ)}
    (hleaf : ∀ arm ∈ arms, (∀ p ∈ parsers, p.key ≠ arm.key) → arm.Leaf)
    (hparsers : ∀ p ∈ parsers, ∀ arm ∈ arms, p.key = arm.key → c.AgreesArm p arm) :
    c.AgreesArms (c.tokenArms arms parsers) arms := by
  refine List.forall₂_map_left_iff.mpr (List.forall₂_same.mpr fun arm harm => ?_)
  cases hfind : parsers.find? fun p => p.key == arm.key with
  | none =>
      have hnone : ∀ p ∈ parsers, p.key ≠ arm.key := by simpa using hfind
      exact ⟨rfl, agreesArm_leafArm (hleaf arm harm hnone)⟩
  | some p =>
      have hkey : p.key = arm.key := by simpa using List.find?_some hfind
      exact ⟨hkey, hparsers p (List.mem_of_find?_eq_some hfind) arm harm hkey⟩

/-- A table without objects and arrays. -/
theorem agreesArms_leaves {arms : List (Arm σ)} (hleaf : ∀ arm ∈ arms, arm.Leaf) :
    c.AgreesArms (c.tokenArms arms []) arms :=
  agreesArms_tokenArms (fun arm harm _ => hleaf arm harm) (by simp)

/-- The arm of a key, in either table. -/
theorem AgreesArms.find {arms : List (TokenArm σ)} {arms' : List (Arm σ)} (h : c.AgreesArms arms arms')
    (key : Bytes) :
    findTokenArm arms key = none ∧ findArm arms' key = none ∨
      ∃ arm arm', findTokenArm arms key = some arm ∧ findArm arms' key = some arm' ∧ c.AgreesArm arm arm' := by
  unfold findTokenArm findArm
  induction h with
  | nil => exact .inl ⟨rfl, rfl⟩
  | @cons arm arm' arms arms' hhead _ ih =>
      by_cases hkey : ascii arm'.key == key
      · exact .inr ⟨arm, arm', by simp [hhead.1, hkey], by simp [hkey], hhead.2⟩
      · simpa [hhead.1, hkey] using ih

/-- An element that is a leaf agrees when it looks no further than the token. -/
theorem agreesElem_leafElem {elem : Nat → Bytes → Json → σ → Load σ} (hleaf : ∀ j, LeafElem (elem j)) :
    c.AgreesElem (fun j => c.leafElem (elem j)) elem := by
  intro j path a v st hv
  simp [leafElem, hv.tokView, hleaf j path v st]

/-- An element that is a section agrees when its parser does. -/
theorem agreesElem_valueElem {elem : Nat → Bytes → Int → σ → Scan σ}
    {elem' : Nat → Bytes → Json → σ → Load σ} (helem : c.AgreesElem elem elem') :
    c.AgreesElem (valueElem elem) elem' := fun j path a v st hv => helem j path a v st hv

/-- An element handed to a parser whose result is stored in the struct. -/
theorem agreesElem_store {parse : Nat → σ → Bytes → Int → Scan τ}
    {parse' : Nat → σ → Bytes → Json → Load τ}
    (hparse : ∀ j st path t v, c.Holds t v.entries → (parse j st path t).result = parse' j st path v)
    (put : Nat → σ → τ → σ) :
    c.AgreesElem
      (valueElem fun j path t st => do
        let out ← parse j st path t
        pure (put j st out))
      (fun j path v st => do
        let out ← parse' j st path v
        .ok (put j st out)) := by
  intro j path a v st hv
  simp [valueElem, hparse j st path a v hv]

/-! ## Loops -/

/-- The loop over the keys of an object is the fold over its members. -/
theorem result_keyLoop {round : Int → σ → Scan σ} {step : σ → Member → Load σ}
    (hround : ∀ k m st, c.Holds k (memberEntries m) → (round k st).result = step st m)
    {ms : List Member} {k : Int} (hms : c.Holds k (membersEntries ms)) (st : σ) :
    (c.keyLoop round ms.length k st).result = ms.foldlM step st := by
  induction ms generalizing k st with
  | nil => rfl
  | cons m ms ih =>
      obtain ⟨key, v⟩ := m
      rw [membersEntries] at hms
      have hmember := hms.left
      have hvalue : c.Holds (k + 1) v.entries := hmember.tail
      have hrest : c.Holds (k + 1 + v.tokenCount) (membersEntries ms) := by
        have hright := hms.right
        rw [memberEntries, List.length_cons, v.length_entries] at hright
        rwa [show k + 1 + (v.tokenCount : Int) = k + ((v.tokenCount + 1 : Nat) : Int) by omega]
      rw [List.length_cons, keyLoop, List.foldlM_cons, Logged.result_bind, hround k _ st hmember]
      refine congrArg _ (funext fun st' => ?_)
      rw [Logged.result_bind, hvalue.skipToken]
      exact ih hrest st'

/-- A round of an object loop, with the keys seen so far: its arm on the value, or one
of its rejections. -/
theorem result_memberRound {arms : List (TokenArm σ)} {arms' : List (Arm σ)} (harms : c.AgreesArms arms arms')
    (path : Bytes → Bytes) (nonString : LoadError) (unknown : Bytes → LoadError) {k : Int} {m : Member}
    (hm : c.Holds k (memberEntries m)) (st : σ × List Bytes) :
    (c.memberRound arms path nonString unknown k st).result =
      (if m.1.length + 1 > 64 then .error nonString
        else
          match findArm arms' m.1 with
          | some arm => arm.parse (path m.1) m.2 st.1
          | none => .error (unknown m.1)) >>= fun out => .ok (out, m.1 :: st.2) := by
  obtain ⟨key, v⟩ := m
  have hkey : c.tokView k = .string key := Holds.tokView_string hm
  rw [memberRound, Logged.result_bind, result_view, hkey, Load.ok_bind]
  by_cases hlong : key.length + 1 > 64
  · rw [tokStrCopy_of_long hlong, if_pos hlong]
    rfl
  · rw [tokStrCopy_of_short hlong, if_neg hlong]
    obtain ⟨hnone, hnone'⟩ | ⟨arm, arm', hsome, hsome', hagree⟩ := harms.find key
    · simp only [hnone, hnone']
      rfl
    · simp [hsome, hsome', hagree _ k v st.1 hm.tail]

/-- The keys a fold over the members has passed. -/
theorem foldlM_seen (step : σ → Member → Load σ) (ms : List Member) (st : σ) (seen : List Bytes) :
    ms.foldlM (fun (st : σ × List Bytes) m => step st.1 m >>= fun out => Except.ok (out, m.1 :: st.2)) (st, seen) =
      ms.foldlM step st >>= fun out => .ok (out, (ms.map Prod.fst).reverse ++ seen) := by
  induction ms generalizing st seen with
  | nil => rfl
  | cons m ms ih => simp [List.foldlM_cons, ih, bind_assoc]

/-- The keys seen in the loop are those of the members. -/
theorem sawAll_eq_allSeen (required : List String) (ms : List Member) :
    sawAll required ((ms.map Prod.fst).reverse ++ []) = allSeen required ms := by
  simp [sawAll, allSeen, List.any_map, Function.comp_def]

/-- A token that is not of the type of the value. -/
theorem Holds.type (h : c.Holds t v.entries) :
    ((c.toks t).type = .object ↔ ∃ ms, v = .object ms) ∧ ((c.toks t).type = .array ↔ ∃ vs, v = .array vs) := by
  cases v <;> simp [h.head.type]

/-- What the parsers of an object share: the type, the keys of the members, and the tests
`f` behind them. -/
theorem result_object {β : Type} {arms : List (TokenArm σ)} {arms' : List (Arm σ)} (harms : c.AgreesArms arms arms')
    (path : Bytes) (st : σ) (f : σ × List Bytes → Scan β) : c.Holds t v.entries →
    (do
      let tok ← c.readTok t
      if tok.type ≠ .object then lift (setErr .errInvalidArg path "expected object")
      else do
        let st ← c.keyLoop (c.parseMember arms path) tok.size.toNat (t + 1) (st, [])
        f st : Scan β).result =
      match v with
      | .object ms => parseMembers arms' path ms st >>= fun out => (f (out, (ms.map Prod.fst).reverse ++ [])).result
      | _ => setErr .errInvalidArg path "expected object" := by
  intro hv
  rw [Logged.result_bind, result_readTok, Load.ok_bind, apply_ite Logged.result]
  obtain ⟨hobject, -⟩ := hv.type
  cases v with
  | object ms =>
      have hsize : (c.toks t).size.toNat = ms.length := by simp [hv.head.size]
      have hround (k : Int) (m : Member) (st : σ × List Bytes) (hm : c.Holds k (memberEntries m)) :
          (c.parseMember arms path k st).result =
            ThermalCore.parseMember arms' path m st.1 >>= fun out => .ok (out, m.1 :: st.2) := by
        rw [parseMember_eq_round]
        exact result_memberRound harms _ _ _ hm st
      rw [if_neg (not_not.mpr (hobject.mpr ⟨ms, rfl⟩)), Logged.result_bind, hsize, result_keyLoop hround hv.tail,
        foldlM_seen (fun st m => ThermalCore.parseMember arms' path m st) ms st [], bind_assoc]
      rfl
  | array vs => rw [if_pos (by simp [hobject])]; rfl
  | string bytes => rw [if_pos (by simp [hobject])]; rfl
  | primitive bytes => rw [if_pos (by simp [hobject])]; rfl

/-- The parsers of an object agree when their arms do. -/
theorem agreesAt_parseObject {arms : List (TokenArm σ)} {arms' : List (Arm σ)} (harms : c.AgreesArms arms arms')
    (required : List String) :
    c.AgreesAt (c.parseObject arms required) (ThermalCore.parseObject arms' required) := by
  intro path t v st hv
  rw [parseObject, result_object harms path st _ hv]
  cases v with
  | object ms =>
      show (parseMembers arms' path ms st >>= _) = parseMembers arms' path ms st >>= _
      refine congrArg _ (funext fun out => ?_)
      rw [apply_ite Logged.result, sawAll_eq_allSeen]
      rfl
  | array vs => rfl
  | string bytes => rfl
  | primitive bytes => rfl

/-- The loop over the elements of an array is the fold over them. -/
theorem result_parseElems {elem : Nat → Bytes → Int → σ → Scan σ} {elem' : Nat → Bytes → Json → σ → Load σ}
    (helem : c.AgreesElem elem elem') (path : Bytes) {vs : List Json} (j : Nat) {a : Int}
    (hvs : c.Holds a (elemsEntries vs)) (st : σ) :
    (c.parseElems elem path vs.length j a st).result =
      (vs.zipIdx j).foldlM (fun st e => elem' e.2 (elemPath path e.2) e.1 st) st := by
  induction vs generalizing j a st with
  | nil => rfl
  | cons v vs ih =>
      rw [elemsEntries] at hvs
      have hvalue := hvs.left
      rw [List.length_cons, parseElems, List.zipIdx_cons, List.foldlM_cons, Logged.result_bind,
        helem j _ a v st hvalue]
      refine congrArg _ (funext fun st' => ?_)
      rw [Logged.result_bind, hvalue.skipToken]
      exact ih (j + 1) hvs.next st'

/-- The parsers of a list agree when their elements do. -/
theorem agreesAt_parseList {elem : Nat → Bytes → Int → σ → Scan σ} {elem' : Nat → Bytes → Json → σ → Load σ}
    (helem : c.AgreesElem elem elem') : c.AgreesAt (c.parseList elem) (ThermalCore.parseList elem') := by
  intro path t v st hv
  rw [parseList, Logged.result_bind, result_readTok, Load.ok_bind, apply_ite Logged.result]
  obtain ⟨-, harray⟩ := hv.type
  cases v with
  | array vs =>
      have hsize : (c.toks t).size.toNat = vs.length := by simp [hv.head.size]
      rw [if_neg (not_not.mpr (harray.mpr ⟨vs, rfl⟩)), hsize, result_parseElems helem path 0 hv.tail]
      rfl
  | object ms => rw [if_pos (by simp [harray])]; rfl
  | string bytes => rw [if_pos (by simp [harray])]; rfl
  | primitive bytes => rw [if_pos (by simp [harray])]; rfl

/-- The parsers of an array agree when their elements do, and their counts up to the limit. -/
theorem agreesAt_parseArray {elem : Nat → Bytes → Int → σ → Scan σ} {elem' : Nat → Bytes → Json → σ → Load σ}
    (helem : c.AgreesElem elem elem') {limit : Nat} (tooMany : String) {setCount : Int → σ → σ}
    {setCount' : Nat → σ → σ} (hcount : ∀ n ≤ limit, setCount n = setCount' n) :
    c.AgreesAt (c.parseArray limit tooMany elem setCount)
      (ThermalCore.parseArray limit tooMany elem' setCount') := by
  intro path t v st hv
  rw [parseArray, Logged.result_bind, result_readTok, Load.ok_bind, apply_ite Logged.result]
  obtain ⟨-, harray⟩ := hv.type
  cases v with
  | array vs =>
      have hsize : (c.toks t).size = vs.length := hv.head.size
      rw [if_neg (not_not.mpr (harray.mpr ⟨vs, rfl⟩)), apply_ite Logged.result, hsize, ThermalCore.parseArray]
      by_cases hmany : vs.length > limit
      · rw [if_pos hmany, if_pos (Int.ofNat_lt.mpr hmany)]
        rfl
      · rw [if_neg hmany, if_neg (fun hlt => hmany (Int.ofNat_lt.mp hlt)), Logged.result_bind, Int.toNat_natCast,
          result_parseElems helem path 0 hv.tail, hcount vs.length (Nat.le_of_not_lt hmany)]
        rfl
  | object ms => rw [if_pos (by simp [harray])]; rfl
  | string bytes => rw [if_pos (by simp [harray])]; rfl
  | primitive bytes => rw [if_pos (by simp [harray])]; rfl

/-- The counts fit a byte. -/
theorem count8_of_le {limit : Nat} (hlimit : limit < 2 ^ 8) {n : Nat} (hn : n ≤ limit) : count8 n = n := by
  unfold count8
  omega

end rules

end ParseCtx

end ThermalCore
