import ThermalCore.Lib.Logged
import ThermalCore.Linux.LoaderPasses
import ThermalCore.Linux.Tokens

/-!
# Walking the token array

How the parsers of `platform/linux/config_jsmn.c` step over the token array.  A
parser logs each token whose type, size or range it reads.  The accessors test
`tok_in_range` first; the parsers of objects and arrays read the token they are
given without it, which is logged ahead as well: where a key is met whose value
such a parser gets, and where the walk over an array hands it the next element.

The parsers of the file share three loops, over the keys of an object, over the
elements of an array and over a list without a limit.  They are written once here,
with the table of keys or the element parser as a parameter, and so is what is
proved of them: `Walks`, and that a listed value gives each of them its tokens.
-/

namespace ThermalCore

/-- What a scan does with the token array, in order. -/
inductive TokenEvent where
  /-- The type, the size or the range of `toks[idx]` is read. -/
  | read (idx : Int)
  /-- The key at `key` is one whose value is read without `tok_in_range`. -/
  | value (key : Int)
  /-- The walk over an array goes on to an element, at `idx`, read without
  `tok_in_range`. -/
  | element (idx : Int)
deriving DecidableEq

/-- A parser on the token array: what it logs, and its result or error. -/
abbrev Scan := Logged TokenEvent LoadError

/-- `parse_ctx_t` without the error buffer.  The token array has more entries than
tokens were parsed: what is stored at `nToks` and behind is arbitrary. -/
structure ParseCtx where
  json : Bytes
  toks : Int → JsmnTok
  nToks : Int

/-- `else if (tok_str_eq(ctx, k, key))` with what it does about the key at `k`. -/
structure TokenArm (σ : Type) where
  key : String
  parse : Bytes → Int → σ → Scan σ

/-! ## `skip_token` -/

/-- The tokens `skipLoop` reads. -/
def skipLoopReads (nToks : Int) (next : Int → Option Int) (reads : Int → List Int) :
    Nat → Int → List Int
  | 0, _ => []
  | left + 1, j =>
      if j < nToks then
        match next j with
        | some j' => reads j ++ skipLoopReads nToks next reads left j'
        | none => reads j
      else []

/-- The tokens `skipTokenN` reads. -/
def skipReads (toks : Int → JsmnTok) (nToks : Int) : Nat → Int → List Int
  | 0, _ => []
  | fuel + 1, idx =>
      if idx < 0 ∨ nToks ≤ idx then []
      else
        match (toks idx).type with
        | .object =>
            idx :: skipLoopReads nToks (fun j => skipTokenN toks nToks fuel (j + 1))
              (fun j => skipReads toks nToks fuel (j + 1)) (toks idx).size.toNat (idx + 1)
        | .array =>
            idx :: skipLoopReads nToks (fun j => skipTokenN toks nToks fuel j)
              (fun j => skipReads toks nToks fuel j) (toks idx).size.toNat (idx + 1)
        | _ => [idx]

/-- A loop of skips reads no more than its steps do. -/
theorem skipLoopReads_lt {nToks : Int} {next : Int → Option Int} {reads : Int → List Int}
    (h : ∀ j, ∀ i ∈ reads j, i < nToks) {left : Nat} {j : Int} :
    ∀ i ∈ skipLoopReads nToks next reads left j, i < nToks := by
  induction left generalizing j with
  | zero => simp [skipLoopReads]
  | succ left ih =>
      rw [skipLoopReads]
      split_ifs
      · cases next j with
        | none => exact h j
        | some j' => simpa [or_imp, forall_and] using And.intro (h j) (@ih j')
      · simp

/-- `skip_token_n` reads parsed tokens only. -/
theorem skipReads_lt (toks : Int → JsmnTok) (nToks : Int) (fuel : Nat) (idx : Int) :
    ∀ i ∈ skipReads toks nToks fuel idx, i < nToks := by
  induction fuel generalizing idx with
  | zero => simp [skipReads]
  | succ fuel ih =>
      rw [skipReads]
      split_ifs with hout
      · simp
      · have hin : idx < nToks := by omega
        cases (toks idx).type with
        | object => simpa [hin] using skipLoopReads_lt fun j => ih (j + 1)
        | array => simpa [hin] using skipLoopReads_lt fun j => ih j
        | undefined => simpa using hin
        | string => simpa using hin
        | primitive => simpa using hin

/-- The tokens it reads go by the parsed tokens alone. -/
theorem skipReads_congr {toks toks' : Int → JsmnTok} {nToks : Int}
    (h : ∀ i, 0 ≤ i → i < nToks → toks i = toks' i) (fuel : Nat) :
    skipReads toks nToks fuel = skipReads toks' nToks fuel := by
  induction fuel with
  | zero => rfl
  | succ fuel ih =>
      funext idx
      rw [skipReads, skipReads]
      by_cases hout : idx < 0 ∨ nToks ≤ idx
      · rw [if_pos hout, if_pos hout]
      · rw [if_neg hout, if_neg hout, h idx (by omega) (by omega), ih, skipTokenN_congr h]

namespace ParseCtx

variable (c : ParseCtx) {α σ : Type}

/-- Deep enough for any token array of `nToks` tokens. -/
def skipFuel : Nat := c.nToks.toNat + 1

/-- `skip_token`. -/
def skipToken (idx : Int) : Scan Int := do
  Logged.emitAll ((skipReads c.toks c.nToks c.skipFuel idx).map .read)
  match skipTokenN c.toks c.nToks c.skipFuel idx with
  | some j => pure j
  | none => pure c.nToks

/-- The nesting bound is never met. -/
theorem skipTokenN_skipFuel {idx : Int} (hidx : 0 ≤ idx) :
    ∃ r, skipTokenN c.toks c.nToks c.skipFuel idx = some r := by
  by_cases hlt : idx < c.nToks
  · obtain ⟨r, hr, -⟩ := @skipTokenN_total c.nToks c.toks c.skipFuel idx hidx hlt (by simp [skipFuel]; omega)
    exact ⟨r, hr⟩
  · exact ⟨c.nToks, by simp [skipFuel, skipTokenN]; omega⟩

/-! ## Reading a token -/

/-- `ctx->toks[t]`, read as it stands. -/
def readTok (t : Int) : Scan JsmnTok := do
  Logged.emit (.read t)
  pure (c.toks t)

/-- `tok_in_range`. -/
def tokInRange (t : Int) : Bool :=
  decide (0 ≤ t) && decide (t < c.nToks) && decide (0 ≤ (c.toks t).start) &&
    decide ((c.toks t).start ≤ (c.toks t).stop)

/-- The bytes a token stands for. -/
def tokBytes (t : JsmnTok) : Bytes := (c.json.drop t.start.toNat).take (t.stop - t.start).toNat

/-- What the accessors tell of a token: a string or a primitive with its bytes.
They fail alike on any other token and on one `tok_in_range` rejects. -/
def tokView (t : Int) : Json :=
  if c.tokInRange t then
    match (c.toks t).type with
    | .string => .string (c.tokBytes (c.toks t))
    | .primitive => .primitive (c.tokBytes (c.toks t))
    | _ => .object []
  else .object []

/-- A token as the accessors see it.  It is logged whether or not the caller looks: a
path for the runtime struct is not read when there is none. -/
def view (t : Int) : Scan Json :=
  if 0 ≤ t ∧ t < c.nToks then do
    Logged.emit (.read t)
    pure (c.tokView t)
  else pure (c.tokView t)

/-- A token read without a test is the array's entry, whatever that is. -/
@[simp] theorem result_readTok (t : Int) : (c.readTok t).result = .ok (c.toks t) := rfl

/-- The accessors see what `tok_in_range` lets through. -/
@[simp] theorem result_view (t : Int) : (c.view t).result = .ok (c.tokView t) := by
  rw [view]
  split_ifs <;> rfl

/-- `tok_in_range(ctx, t)` with the type and size read after it. -/
def checkedTok (t : Int) : Scan (Option JsmnTok) :=
  if 0 ≤ t ∧ t < c.nToks then do
    Logged.emit (.read t)
    pure (if c.tokInRange t then some (c.toks t) else none)
  else pure none

/-- A step of the loader that looks at no token. -/
abbrev lift (x : Load α) : Scan α := Logged.ofExcept x

/-! ## Keys -/

/-- A value the accessors read. -/
def leafArm (arm : Arm σ) : TokenArm σ where
  key := arm.key
  parse path k st := do
    let v ← c.view (k + 1)
    lift (arm.parse path v st)

/-- A value handed to a parser of objects or arrays. -/
def valueArm (key : String) (parse : Bytes → Int → σ → Scan σ) : TokenArm σ where
  key := key
  parse path k st := do
    Logged.emit (.value k)
    parse path (k + 1) st

/-- The table of an object parser, with the values that are objects and arrays
themselves given by `parsers`. -/
def tokenArms (arms : List (Arm σ)) (parsers : List (TokenArm σ)) : List (TokenArm σ) :=
  arms.map fun arm => (parsers.find? fun p => p.key == arm.key).getD (c.leafArm arm)

/-- The arm of a key, by the order of the comparisons. -/
def findTokenArm (arms : List (TokenArm σ)) (key : Bytes) : Option (TokenArm σ) :=
  arms.find? fun arm => ascii arm.key == key

/-! ## Object and array loops -/

/-- `for (i = 0; i < n; i++) { ...; k = skip_token(v); }`, from the key at `k` on. -/
def keyLoop (round : Int → σ → Scan σ) : Nat → Int → σ → Scan σ
  | 0, _, st => pure st
  | left + 1, k, st => do
      let st ← round k st
      let k ← c.skipToken (k + 1)
      keyLoop round left k st

/-- One round of an object loop; `st.2` are the keys seen so far. -/
def parseMember (arms : List (TokenArm σ)) (path : Bytes) (k : Int) (st : σ × List Bytes) :
    Scan (σ × List Bytes) := do
  let keyTok ← c.view k
  match tokStrCopy 64 keyTok with
  | none => lift (setErr .errInvalidArg path "non-string key")
  | some key =>
      match findTokenArm arms key with
      | none => lift (setErrf .errInvalidArg (subPath path key) "unknown key" key)
      | some arm => do
          let out ← arm.parse (subPath path key) k st.1
          pure (out, key :: st.2)

/-- `(seen & required) == required`. -/
def sawAll (required : List String) (seen : List Bytes) : Bool :=
  required.all fun key => seen.any fun s => s == ascii key

/-- A parser of an object: its keys, then the required ones. -/
def parseObject (arms : List (TokenArm σ)) (required : List String) (path : Bytes) (t : Int) (st : σ) :
    Scan σ := do
  let tok ← c.readTok t
  if tok.type ≠ .object then lift (setErr .errInvalidArg path "expected object")
  else do
    let st ← c.keyLoop (c.parseMember arms path) tok.size.toNat (t + 1) (st, [])
    if sawAll required st.2 then pure st.1
    else lift (setErr .errInvalidArg path "required field missing")

/-- The loop over the elements of an array, from the one at `a` on. -/
def parseElems (elem : Nat → Bytes → Int → σ → Scan σ) (path : Bytes) :
    Nat → Nat → Int → σ → Scan σ
  | 0, _, _, st => pure st
  | left + 1, j, a, st => do
      let st ← elem j (elemPath path j) a st
      let a ← c.skipToken a
      parseElems elem path left (j + 1) a st

/-- A parser of an array without a limit. -/
def parseList (elem : Nat → Bytes → Int → σ → Scan σ) (path : Bytes) (t : Int) (st : σ) : Scan σ := do
  let tok ← c.readTok t
  if tok.type ≠ .array then lift (setErr .errInvalidArg path "expected array")
  else c.parseElems elem path tok.size.toNat 0 (t + 1) st

/-- A parser of an array: at most `limit` elements, then their count. -/
def parseArray (limit : Nat) (tooMany : String) (elem : Nat → Bytes → Int → σ → Scan σ)
    (setCount : Int → σ → σ) (path : Bytes) (t : Int) (st : σ) : Scan σ := do
  let tok ← c.readTok t
  if tok.type ≠ .array then lift (setErr .errInvalidArg path "expected array")
  else if tok.size > limit then lift (setErr .errNoSpace path tooMany)
  else do
    let st ← c.parseElems elem path tok.size.toNat 0 (t + 1) st
    pure (setCount tok.size st)

/-- An element the accessors read. -/
def leafElem (elem : Bytes → Json → σ → Load σ) (path : Bytes) (a : Int) (st : σ) : Scan σ := do
  let v ← c.view a
  lift (elem path v st)

/-- An element handed to a parser of objects or arrays. -/
def valueElem (elem : Nat → Bytes → Int → σ → Scan σ) (j : Nat) (path : Bytes) (a : Int) (st : σ) :
    Scan σ := do
  Logged.emit (.element a)
  elem j path a st

/-! ## Rounds

The two object loops of the source differ in the path they give an arm and in the texts
of their rejections. -/

/-- A round of an object loop: the key, its arm at `path`, or one of two rejections. -/
def memberRound (arms : List (TokenArm σ)) (path : Bytes → Bytes) (nonString : LoadError)
    (unknown : Bytes → LoadError) (k : Int) (st : σ × List Bytes) : Scan (σ × List Bytes) := do
  let keyTok ← c.view k
  match tokStrCopy 64 keyTok with
  | none => lift (.error nonString)
  | some key =>
      match findTokenArm arms key with
      | none => lift (.error (unknown key))
      | some arm => do
          let out ← arm.parse (path key) k st.1
          pure (out, key :: st.2)

/-- The round of an object's parser. -/
theorem parseMember_eq_round (arms : List (TokenArm σ)) (path : Bytes) :
    c.parseMember arms path =
      c.memberRound arms (subPath path) ⟨.errInvalidArg, path ++ ascii ": " ++ ascii "non-string key"⟩ fun key =>
        ⟨.errInvalidArg,
          subPath path key ++ ascii ": " ++ ascii "unknown key" ++ ascii " '" ++ cString key ++ ascii "'"⟩ := rfl

/-! ## Reads and what is met ahead of them -/

end ParseCtx

/-- A read of a parsed token. -/
def TokenEvent.InRange (n : Int) : TokenEvent → Prop
  | .read idx => idx < n
  | .value _ => True
  | .element _ => True

/-- A token is left for what is announced: behind the key, or for the element. -/
def TokenEvent.Met (n : Int) : TokenEvent → Prop
  | .read _ => True
  | .value key => key + 1 < n
  | .element idx => idx < n

namespace ParseCtx

variable (c : ParseCtx) {α σ : Type} {h : Prop}

/-- The reads of a scan are reads of parsed tokens exactly when `h` holds and a token
is left wherever one is announced. -/
abbrev Tracked (h : Prop) (x : Scan α) : Prop :=
  Logged.Needs (TokenEvent.InRange c.nToks) (TokenEvent.Met c.nToks) h x

/-- Wherever a scan announces one, a token is left. -/
abbrev Meets (x : Scan α) : Prop := Logged.All (TokenEvent.Met c.nToks) x

/-- From `t` on the parsed tokens have the types and sizes of a listing. -/
structure Listed (t : Int) (es : List (JsmnType × Int × Nat)) : Prop where
  start : 0 ≤ t
  listed : ListedAt c.toks t es
  fits : t + es.length ≤ c.nToks

/-- What is proved of each scan: how its reads are bounded, and that it finds its
tokens where a value is listed from `t` on. -/
structure Walks (h : Prop) (t : Int) (x : Scan α) : Prop where
  tracked : c.Tracked h x
  meets : ∀ v : Json, c.Listed t v.listing → c.Meets x

/-- A parser of objects or arrays, which reads the token it is given. -/
abbrev WalksAt (parse : Bytes → Int → σ → Scan σ) : Prop :=
  ∀ path t st, c.Walks (t < c.nToks) t (parse path t st)

/-- An arm of an object loop, which walks over the value behind the key. -/
abbrev WalksArm (arm : TokenArm σ) : Prop := ∀ path k st, c.Walks True (k + 1) (arm.parse path k st)

/-- A table whose arms all walk. -/
abbrev WalksArms (arms : List (TokenArm σ)) : Prop := ∀ arm ∈ arms, c.WalksArm arm

/-- An element parser, as the array loops call it. -/
abbrev WalksElem (elem : Nat → Bytes → Int → σ → Scan σ) : Prop :=
  ∀ j path a st, c.Walks True a (elem j path a st)

/-! ## Listed values -/

section listed

variable {c} {t : Int} {es es' : List (JsmnType × Int × Nat)}

/-- Where a listing lies, its first part lies. -/
theorem Listed.left (hlisted : c.Listed t (es ++ es')) : c.Listed t es where
  start := hlisted.start
  listed := hlisted.listed.left
  fits := by
    have hfits := hlisted.fits
    rw [List.length_append] at hfits
    omega

/-- Behind the first part lies the second. -/
theorem Listed.right (hlisted : c.Listed t (es ++ es')) : c.Listed (t + es.length) es' where
  start := by
    have hstart := hlisted.start
    omega
  listed := hlisted.listed.right
  fits := by
    have hfits := hlisted.fits
    rw [List.length_append] at hfits
    omega

/-- Behind the first token lies the rest. -/
theorem Listed.tail {e : JsmnType × Int × Nat} (hlisted : c.Listed t (e :: es)) : c.Listed (t + 1) es :=
  @Listed.right c t [e] es hlisted

/-- A listed value has a token. -/
theorem Listed.lt {v : Json} (hlisted : c.Listed t v.listing) : t < c.nToks := by
  have hfits := hlisted.fits
  obtain ⟨type, size, hhead⟩ := v.head_listing
  have hpos := (List.getElem?_eq_some_iff.mp hhead).1
  omega

/-- The token a listed value starts with. -/
theorem Listed.head {v : Json} (hlisted : c.Listed t v.listing) :
    ∃ type size, v.listing[0]? = some (type, size, v.tokenCount) ∧ (c.toks t).type = type ∧
      (c.toks t).size = size := by
  obtain ⟨type, size, hhead⟩ := v.head_listing
  have hat := hlisted.listed 0 _ hhead
  rw [Nat.cast_zero, Int.add_zero] at hat
  exact ⟨type, size, hhead, hat⟩

/-- A value that is listed as an object or as an array is one, with its children behind. -/
theorem Listed.children {v : Json} (hlisted : c.Listed t v.listing) :
    ((c.toks t).type = .object →
        ∃ ms, v = .object ms ∧ (c.toks t).size.toNat = ms.length ∧ c.Listed (t + 1) (membersListing ms)) ∧
      ((c.toks t).type = .array →
        ∃ vs, v = .array vs ∧ (c.toks t).size.toNat = vs.length ∧ c.Listed (t + 1) (elemsListing vs)) := by
  obtain ⟨type, size, hhead, htype, hsize⟩ := hlisted.head
  rw [htype, hsize]
  cases v with
  | object ms =>
      simp only [Json.listing, List.getElem?_cons_zero, Option.some.injEq, Prod.mk.injEq] at hhead
      obtain ⟨rfl, rfl, -⟩ := hhead
      exact ⟨fun _ => ⟨ms, rfl, Int.toNat_natCast _, hlisted.tail⟩, nofun⟩
  | array vs =>
      simp only [Json.listing, List.getElem?_cons_zero, Option.some.injEq, Prod.mk.injEq] at hhead
      obtain ⟨rfl, rfl, -⟩ := hhead
      exact ⟨nofun, fun _ => ⟨vs, rfl, Int.toNat_natCast _, hlisted.tail⟩⟩
  | string bytes =>
      simp only [Json.listing, List.getElem?_cons_zero, Option.some.injEq, Prod.mk.injEq] at hhead
      obtain ⟨rfl, -⟩ := hhead
      exact ⟨nofun, nofun⟩
  | primitive bytes =>
      simp only [Json.listing, List.getElem?_cons_zero, Option.some.injEq, Prod.mk.injEq] at hhead
      obtain ⟨rfl, -⟩ := hhead
      exact ⟨nofun, nofun⟩

/-- `skip_token` passes a listed value exactly. -/
theorem Listed.skipToken {v : Json} (hlisted : c.Listed t v.listing) {r : Int}
    (hr : (c.skipToken t).result = .ok r) : r = t + v.tokenCount := by
  have hfits := hlisted.fits
  rw [v.length_listing] at hfits
  have hexact := Json.skipsExactly v t hlisted.start hlisted.listed hfits
  obtain ⟨j, hj⟩ := c.skipTokenN_skipFuel hlisted.start
  have hend : j = t + v.tokenCount := by
    rw [← List.append_nil v.listing] at hexact
    exact hexact.head hj
  simp only [ParseCtx.skipToken, hj, Logged.result_emitAll_bind, Logged.result_pure, Except.ok.injEq] at hr
  rw [← hr, hend]

end listed

/-! ## Rules -/

section walks

variable {c} {h : Prop} {t : Int}

/-- A scan that walks, followed by one that walks from the same place. -/
theorem Walks.bind {β : Type} {x : Scan α} {f : α → Scan β} (hx : c.Walks h t x)
    (hf : ∀ a, x.result = .ok a → c.Walks True t (f a)) : c.Walks h t (x >>= f) where
  tracked := hx.tracked.bind fun a ha => (hf a ha).tracked
  meets v hv := (hx.meets v hv).bind fun a ha => (hf a ha).meets v hv

/-- What reads no token walks. -/
@[simp] theorem walks_lift (x : Load α) : c.Walks True t (lift x) where
  tracked := Logged.needs_ofExcept x
  meets _ _ := Logged.all_ofExcept x

/-- A result walks. -/
@[simp] theorem walks_pure (a : α) : c.Walks True t (pure a) := walks_lift _

/-- `skip_token` tests each index, so it walks. -/
theorem walks_skipToken (idx : Int) : c.Walks True t (c.skipToken idx) := by
  have hreads : ∀ e ∈ (skipReads c.toks c.nToks c.skipFuel idx).map .read,
      TokenEvent.InRange c.nToks e ∧ TokenEvent.Met c.nToks e := by
    simpa [TokenEvent.InRange, TokenEvent.Met] using skipReads_lt c.toks c.nToks c.skipFuel idx
  have hemit : c.Walks True t (Logged.emitAll ((skipReads c.toks c.nToks c.skipFuel idx).map .read)) :=
    ⟨Logged.needs_emitAll (fun e he => (hreads e he).1) fun e he => (hreads e he).2,
      fun _ _ => Logged.all_emitAll fun e he => (hreads e he).2⟩
  refine hemit.bind fun _ _ => ?_
  cases skipTokenN c.toks c.nToks c.skipFuel idx with
  | none => exact walks_pure _
  | some j => exact walks_pure _

/-- The token read is the array's entry. -/
theorem readTok_result {tok : JsmnTok} (h : (c.readTok t).result = .ok tok) : tok = c.toks t :=
  (Except.ok.inj h).symm

/-- A read without a test is in range exactly when its index is. -/
theorem walks_readTok : c.Walks (t < c.nToks) t (c.readTok t) := by
  have hemit : c.Walks (t < c.nToks) t (Logged.emit (.read t)) :=
    ⟨Logged.needs_emit Iff.rfl trivial, fun _ _ => Logged.all_emit trivial⟩
  exact hemit.bind fun _ _ => walks_pure _

/-- A read behind the test of `tok_in_range`. -/
theorem walks_emit_read {idx : Int} (hidx : 0 ≤ idx ∧ idx < c.nToks) :
    c.Walks True t (Logged.emit (.read idx)) where
  tracked := Logged.needs_emit (by simp [TokenEvent.InRange, hidx.2]) trivial
  meets _ _ := Logged.all_emit trivial

/-- The accessors test each index, so they walk. -/
theorem walks_view (idx : Int) : c.Walks True t (c.view idx) := by
  rw [view]
  split_ifs with hidx
  · exact (walks_emit_read hidx).bind fun _ _ => walks_pure _
  · exact walks_pure _

/-- A tested read walks. -/
theorem walks_checkedTok (idx : Int) : c.Walks True t (c.checkedTok idx) := by
  rw [checkedTok]
  by_cases hidx : 0 ≤ idx ∧ idx < c.nToks
  · rw [if_pos hidx]
    exact (walks_emit_read hidx).bind fun _ _ => walks_pure _
  · rw [if_neg hidx]
    exact walks_pure _

/-- An event that announces the token at `t`, in front of a scan that reads it. -/
theorem walks_announce {e : TokenEvent} {f : Unit → Scan α} (hread : e.InRange c.nToks)
    (hmet : e.Met c.nToks ↔ t < c.nToks) (hf : c.Walks (t < c.nToks) t (f ())) :
    c.Walks True t (Logged.emit e >>= f) where
  tracked := Logged.needs_announce hread hmet hf.tracked
  meets v hv := (Logged.all_emit (hmet.mpr hv.lt)).bind fun _ _ => hf.meets v hv

/-- The arm of a leaf walks. -/
theorem walksArm_leafArm (arm : Arm σ) : c.WalksArm (c.leafArm arm) := fun _ _ _ =>
  (walks_view _).bind fun _ _ => walks_lift _

/-- The value of a key is announced by the key. -/
theorem walksArm_valueArm {parse : Bytes → Int → σ → Scan σ} (hparse : c.WalksAt parse) (key : String) :
    c.WalksArm (valueArm key parse) := fun path k st =>
  walks_announce trivial Iff.rfl (hparse path (k + 1) st)

/-- A value handed to a parser whose result is stored in the struct. -/
theorem walksArm_store {τ : Type} {parse : σ → Bytes → Int → Scan τ}
    (hparse : ∀ st path t, c.Walks (t < c.nToks) t (parse st path t)) (put : σ → τ → σ) (key : String) :
    c.WalksArm (valueArm key fun path t st => do
      let out ← parse st path t
      pure (put st out)) :=
  walksArm_valueArm (fun path t st => (hparse st path t).bind fun _ _ => walks_pure _) key

/-- An element is announced by the walk over the array. -/
theorem walksElem_valueElem {elem : Nat → Bytes → Int → σ → Scan σ} (helem : ∀ j, c.WalksAt (elem j)) :
    c.WalksElem (valueElem elem) := fun j path a st =>
  walks_announce trivial Iff.rfl (helem j path a st)

/-- An element handed to a parser whose result is stored in the struct. -/
theorem walksElem_store {τ : Type} {parse : Nat → σ → Bytes → Int → Scan τ}
    (hparse : ∀ j st path t, c.Walks (t < c.nToks) t (parse j st path t)) (put : Nat → σ → τ → σ) :
    c.WalksElem (valueElem fun j path t st => do
      let out ← parse j st path t
      pure (put j st out)) :=
  walksElem_valueElem fun j path t st => (hparse j st path t).bind fun _ _ => walks_pure _

/-- An element that is a leaf walks. -/
theorem walks_leafElem (elem : Bytes → Json → σ → Load σ) (path : Bytes) (a : Int) (st : σ) :
    c.Walks True t (c.leafElem elem path a st) :=
  (walks_view a).bind fun _ _ => walks_lift _

/-- A table without arms walks. -/
theorem walksArms_nil : c.WalksArms ([] : List (TokenArm σ)) := fun arm harm => absurd harm (by simp)

/-- A table walks when its sections do. -/
theorem walksArms_tokenArms {arms : List (Arm σ)} {parsers : List (TokenArm σ)}
    (hparsers : c.WalksArms parsers) : c.WalksArms (c.tokenArms arms parsers) := by
  intro tokenArm hmem
  obtain ⟨arm, -, rfl⟩ := List.mem_map.mp hmem
  cases hfind : parsers.find? fun p => p.key == arm.key with
  | none => exact walksArm_leafArm arm
  | some p => exact hparsers p (List.mem_of_find?_eq_some hfind)

/-! ## Loops -/

/-- The loop over the keys of an object. -/
theorem walks_keyLoop {round : Int → σ → Scan σ} (hround : ∀ k st, c.Walks True (k + 1) (round k st))
    (htype : (c.toks t).type = .object) (st : σ) :
    c.Walks True t (c.keyLoop round (c.toks t).size.toNat (t + 1) st) := by
  constructor
  · generalize (c.toks t).size.toNat = left, t + 1 = k
    induction left generalizing k st with
    | zero => exact Logged.needs_pure _
    | succ left ih =>
        rw [keyLoop]
        exact (hround k st).tracked.bind fun st' _ =>
          (walks_skipToken (t := t) (k + 1)).tracked.bind fun k' _ => ih st' k'
  · intro v hv
    obtain ⟨ms, -, hsize, hms⟩ := hv.children.1 htype
    rw [hsize]
    clear hsize
    generalize t + 1 = k at hms
    induction ms generalizing k st with
    | nil => exact Logged.all_pure _
    | cons m ms ih =>
        obtain ⟨key, value⟩ := m
        rw [membersListing, memberListing, List.cons_append] at hms
        have hvalue := hms.tail.left
        rw [List.length_cons, keyLoop]
        refine ((hround k st).meets value hvalue).bind fun st' _ => ?_
        refine ((walks_skipToken (k + 1)).meets value hvalue).bind fun k' hk' => ih st' k' ?_
        rw [hvalue.skipToken hk', ← value.length_listing]
        exact hms.tail.right

/-- A round of an object loop walks when its arms do. -/
theorem walks_memberRound {arms : List (TokenArm σ)} (harms : c.WalksArms arms) (path : Bytes → Bytes)
    (nonString : LoadError) (unknown : Bytes → LoadError) (k : Int) (st : σ × List Bytes) :
    c.Walks True (k + 1) (c.memberRound arms path nonString unknown k st) := by
  refine (walks_view k).bind fun keyTok _ => ?_
  cases tokStrCopy 64 keyTok with
  | none => exact walks_lift _
  | some key =>
      cases hfind : findTokenArm arms key with
      | none => simp [hfind]
      | some arm =>
          have harm := harms arm (List.mem_of_find?_eq_some hfind)
          simpa [hfind] using (harm _ k st.1).bind fun _ _ => walks_pure _

/-- What the parsers of an object share walks when its arms do: the type, the keys, and
the tests `f` behind them. -/
theorem walks_object {β : Type} {arms : List (TokenArm σ)} (harms : c.WalksArms arms) (path : Bytes) (st : σ)
    {f : σ × List Bytes → Scan β} (hf : ∀ st, c.Walks True t (f st)) :
    c.Walks (t < c.nToks) t (do
      let tok ← c.readTok t
      if tok.type ≠ .object then lift (setErr .errInvalidArg path "expected object")
      else do
        let st ← c.keyLoop (c.parseMember arms path) tok.size.toNat (t + 1) (st, [])
        f st) := by
  refine walks_readTok.bind fun tok htok => ?_
  rw [readTok_result htok]
  by_cases htype : (c.toks t).type = .object
  · rw [if_neg (not_not.mpr htype), parseMember_eq_round]
    exact (walks_keyLoop (walks_memberRound harms _ _ _) htype (st, [])).bind fun st _ => hf st
  · rw [if_pos htype]
    exact walks_lift _

/-- An object walks when its arms do. -/
theorem walksAt_parseObject {arms : List (TokenArm σ)} (harms : c.WalksArms arms)
    (required : List String) : c.WalksAt (c.parseObject arms required) := fun path t st =>
  walks_object harms path st fun st => by
    split_ifs
    · exact walks_pure _
    · exact walks_lift _

/-- The loop over the elements of an array. -/
theorem walks_parseElems {elem : Nat → Bytes → Int → σ → Scan σ} (helem : c.WalksElem elem)
    (htype : (c.toks t).type = .array) (path : Bytes) (st : σ) :
    c.Walks True t (c.parseElems elem path (c.toks t).size.toNat 0 (t + 1) st) := by
  generalize 0 = j
  constructor
  · generalize (c.toks t).size.toNat = left, t + 1 = a
    induction left generalizing j a st with
    | zero => exact Logged.needs_pure _
    | succ left ih =>
        rw [parseElems]
        exact (helem j (elemPath path j) a st).tracked.bind fun st' _ =>
          (walks_skipToken (t := t) a).tracked.bind fun a' _ => ih st' (j + 1) a'
  · intro v hv
    obtain ⟨vs, -, hsize, hvs⟩ := hv.children.2 htype
    rw [hsize]
    clear hsize
    generalize t + 1 = a at hvs
    induction vs generalizing j a st with
    | nil => exact Logged.all_pure _
    | cons value vs ih =>
        rw [elemsListing] at hvs
        have hvalue := hvs.left
        rw [List.length_cons, parseElems]
        refine ((helem j (elemPath path j) a st).meets value hvalue).bind fun st' _ => ?_
        refine ((walks_skipToken a).meets value hvalue).bind fun a' ha' => ih st' (j + 1) a' ?_
        rw [hvalue.skipToken ha', ← value.length_listing]
        exact hvs.right

/-- A list walks when its elements do. -/
theorem walksAt_parseList {elem : Nat → Bytes → Int → σ → Scan σ} (helem : c.WalksElem elem) :
    c.WalksAt (c.parseList elem) := by
  intro path t st
  refine walks_readTok.bind fun tok htok => ?_
  rw [readTok_result htok]
  by_cases htype : (c.toks t).type = .array
  · rw [if_neg (not_not.mpr htype)]
    exact walks_parseElems helem htype path st
  · rw [if_pos htype]
    exact walks_lift _

/-- An array walks when its elements do. -/
theorem walksAt_parseArray {elem : Nat → Bytes → Int → σ → Scan σ} (helem : c.WalksElem elem)
    (limit : Nat) (tooMany : String) (setCount : Int → σ → σ) :
    c.WalksAt (c.parseArray limit tooMany elem setCount) := by
  intro path t st
  refine walks_readTok.bind fun tok htok => ?_
  rw [readTok_result htok]
  by_cases htype : (c.toks t).type = .array
  · rw [if_neg (not_not.mpr htype)]
    split_ifs
    · exact walks_lift _
    · exact (walks_parseElems helem htype path st).bind fun _ _ => walks_pure _
  · rw [if_pos htype]
    exact walks_lift _

end walks

end ParseCtx

end ThermalCore
