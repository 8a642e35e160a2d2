import ThermalCore.Lib.Check
import ThermalCore.Linux.Tokens

/-!
# The tokenizer

`platform/linux/jsmn.c`, vendored, in strict mode and with parent links.  It is no
validator: it checks where brackets close and which bytes may start a value, and
counts for each token how often it was the enclosing one.  A key without a value,
or with two, passes.

What the loader needs of it is proved for every text: parent links lead backwards
(`Linked`), each round of the loop keeps that and moves on in the text, so the loop
of the C code ends and neither the walk up the parents nor the token array's index
leaves the array.
-/

namespace ThermalCore

open Check

/-- `JSMN_ERROR_NOMEM`, `JSMN_ERROR_INVAL` and `JSMN_ERROR_PART`. -/
inductive JsmnError where
  | nomem
  | inval
  | part
deriving DecidableEq

/-- `jsmn_parser` with the tokens written so far, of which there are `toknext`, and
the local `count` of `jsmn_parse`. -/
structure JsmnParser where
  pos : Nat
  tokens : List JsmnTok
  toksuper : Int
  count : Nat

namespace JsmnParser

/-- `tokens[i]`. -/
def tok (p : JsmnParser) (i : Int) : JsmnTok := p.tokens.getD i.toNat default

/-- `tokens[toksuper].size++`, when there is an enclosing token. -/
def countChild (p : JsmnParser) : JsmnParser :=
  if p.toksuper = -1 then p
  else { p with tokens := p.tokens.modify p.toksuper.toNat fun t => { t with size := t.size + 1 } }

/-- `jsmn_alloc_token` and the stores that fill the token. -/
def push (numTokens : Nat) (t : JsmnTok) (p : JsmnParser) : Except JsmnError JsmnParser :=
  if numTokens ≤ p.tokens.length then .error .nomem
  else .ok { p with tokens := p.tokens ++ [t], count := p.count + 1 }

end JsmnParser

/-! ## Primitives and strings -/

/-- Tab, line ends, space, comma and the closing brackets end a primitive. -/
def endsPrimitive (b : Nat) : Bool := b ∈ [9, 13, 10, 32, 44, 93, 125]

/-- The loop of `jsmn_parse_primitive`: where the primitive ends. -/
def scanPrimitive (js : Bytes) : Nat → Nat → Except JsmnError Nat
  | 0, _ => .error .part
  | left + 1, pos =>
      match js.getD pos 0 with
      | 0 => .error .part
      | b =>
          if endsPrimitive b then .ok pos
          else if b < 32 ∨ 127 ≤ b then .error .inval
          else scanPrimitive js left (pos + 1)

/-- `jsmn_parse_primitive`; `pos--` leaves the parser on the last byte. -/
def jsmnParsePrimitive (js : Bytes) (numTokens : Nat) (p : JsmnParser) :
    Except JsmnError JsmnParser := do
  let stop ← scanPrimitive js js.length p.pos
  let p' ← p.push numTokens ⟨.primitive, p.pos, stop, 0, p.toksuper⟩
  .ok { p' with pos := stop - 1 }

/-- The digits that `jsmn_parse_string` takes behind `\u`. -/
def isHexDigit (b : Nat) : Bool :=
  (48 ≤ b && b ≤ 57) || (65 ≤ b && b ≤ 70) || (97 ≤ b && b ≤ 102)

/-- The digits after `\u`, four at most. -/
def scanHex (js : Bytes) : Nat → Nat → Except JsmnError Nat
  | 0, pos => .ok pos
  | left + 1, pos =>
      match js.getD pos 0 with
      | 0 => .ok pos
      | b => if isHexDigit b then scanHex js left (pos + 1) else .error .inval

/-- The position of the last byte of an escape whose first byte, after the
backslash, is at `pos`. -/
def scanEscape (js : Bytes) (pos : Nat) : Except JsmnError Nat :=
  -- quote, slash, backslash, b, f, r, n, t
  if js.getD pos 0 ∈ [34, 47, 92, 98, 102, 114, 110, 116] then .ok pos
  else if js.getD pos 0 = 117 then do
    let stop ← scanHex js 4 (pos + 1)
    .ok (stop - 1)
  else .error .inval

/-- The loop of `jsmn_parse_string`: the position of the closing quote. -/
def scanString (js : Bytes) : Nat → Nat → Except JsmnError Nat
  | 0, _ => .error .part
  | left + 1, pos =>
      match js.getD pos 0 with
      | 0 => .error .part
      | b =>
          if b = 34 then .ok pos
          else if b = 92 ∧ pos + 1 < js.length then do
            let last ← scanEscape js (pos + 1)
            scanString js left (last + 1)
          else scanString js left (pos + 1)

/-- `jsmn_parse_string`; the parser is left on the closing quote. -/
def jsmnParseString (js : Bytes) (numTokens : Nat) (p : JsmnParser) : Except JsmnError JsmnParser := do
  let stop ← scanString js js.length (p.pos + 1)
  let p' ← p.push numTokens ⟨.string, p.pos + 1, stop, 0, p.toksuper⟩
  .ok { p' with pos := stop }

/-! ## The switch of `jsmn_parse` -/

/-- `{` and `[`. -/
def jsmnOpen (numTokens : Nat) (type : JsmnType) (p : JsmnParser) : Except JsmnError JsmnParser := do
  let p' ← p.push numTokens ⟨type, p.pos, -1, 0, p.toksuper⟩
  if p.toksuper ≠ -1 ∧ (p.tok p.toksuper).type = .object then .error .inval
  else .ok { p'.countChild with toksuper := p.tokens.length }

/-- The loop behind `}` and `]`: from token `i` along the parents to the token that
is still open.  A chain has at most as many tokens as the array. -/
def jsmnCloseFrom (type : JsmnType) (p : JsmnParser) : Nat → Int → Except JsmnError JsmnParser
  | 0, _ => .error .inval
  | fuel + 1, i =>
      if (p.tok i).start ≠ -1 ∧ (p.tok i).stop = -1 then
        if (p.tok i).type ≠ type then .error .inval
        else
          .ok { p with
                tokens := p.tokens.modify i.toNat fun t => { t with stop := p.pos + 1 }
                toksuper := (p.tok i).parent }
      else if (p.tok i).parent = -1 then
        if (p.tok i).type ≠ type ∨ p.toksuper = -1 then .error .inval else .ok p
      else jsmnCloseFrom type p fuel (p.tok i).parent

/-- `}` and `]`. -/
def jsmnClose (type : JsmnType) (p : JsmnParser) : Except JsmnError JsmnParser :=
  if p.tokens.length < 1 then .error .inval
  else jsmnCloseFrom type p p.tokens.length (p.tokens.length - 1)

/-- `,`: back from a key to its object. -/
def jsmnComma (p : JsmnParser) : JsmnParser :=
  if p.toksuper ≠ -1 ∧ (p.tok p.toksuper).type ≠ .array ∧ (p.tok p.toksuper).type ≠ .object then
    { p with toksuper := (p.tok p.toksuper).parent }
  else p

/-- The first byte of a primitive, which must be no key. -/
def jsmnPrimitive (js : Bytes) (numTokens : Nat) (p : JsmnParser) : Except JsmnError JsmnParser :=
  let super := p.tok p.toksuper
  if p.toksuper ≠ -1 ∧ (super.type = .object ∨ (super.type = .string ∧ super.size ≠ 0)) then
    .error .inval
  else do
    let p ← jsmnParsePrimitive js numTokens p
    .ok p.countChild

/-- One byte of `jsmn_parse`. -/
def jsmnStep (js : Bytes) (numTokens c : Nat) (p : JsmnParser) : Except JsmnError JsmnParser :=
  if c = 123 then jsmnOpen numTokens .object p
  else if c = 91 then jsmnOpen numTokens .array p
  else if c = 125 then jsmnClose .object p
  else if c = 93 then jsmnClose .array p
  else if c = 34 then do
    let p ← jsmnParseString js numTokens p
    .ok p.countChild
  else if c ∈ [9, 13, 10, 32] then .ok p
  else if c = 58 then .ok { p with toksuper := p.tokens.length - 1 }
  else if c = 44 then .ok (jsmnComma p)
  -- minus, a digit, t, f or n
  else if c = 45 ∨ isDigit c ∨ c ∈ [116, 102, 110] then jsmnPrimitive js numTokens p
  else .error .inval

/-- The loop of `jsmn_parse`; each round goes on by a byte at least. -/
def jsmnLoop (js : Bytes) (numTokens : Nat) : Nat → JsmnParser → Except JsmnError JsmnParser
  | 0, p => .ok p
  | left + 1, p =>
      match js.getD p.pos 0 with
      | 0 => .ok p
      | c => do
          let p ← jsmnStep js numTokens c p
          jsmnLoop js numTokens left { p with pos := p.pos + 1 }

/-- `jsmn_init`. -/
def jsmnInit : JsmnParser where
  pos := 0
  tokens := []
  toksuper := -1
  count := 0

/-- `jsmn_parse` on a fresh parser: the number of tokens and the tokens. -/
def jsmnParse (js : Bytes) (numTokens : Nat) : Except JsmnError (Nat × List JsmnTok) := do
  let p ← jsmnLoop js numTokens js.length jsmnInit
  if p.tokens.any fun t => t.start != -1 && t.stop == -1 then .error .part
  else .ok (p.count, p.tokens)

/-! ## Parent links -/

/-- The parents stored so far. -/
def JsmnParser.parents (p : JsmnParser) : List Int := p.tokens.map JsmnTok.parent

/-- A parent for each token. -/
@[simp] theorem JsmnParser.length_parents (p : JsmnParser) : p.parents.length = p.tokens.length := by
  simp [parents]

/-- A parent comes before its children, the enclosing token is one of the tokens, and
`count` is `toknext`. -/
structure JsmnParser.Linked (p : JsmnParser) : Prop where
  parents : ∀ (i : Nat) (parent : Int), p.parents[i]? = some parent → -1 ≤ parent ∧ parent < i
  toksuper : -1 ≤ p.toksuper ∧ p.toksuper < p.tokens.length
  count : p.count = p.tokens.length

section linked

variable {p p' : JsmnParser} {js : Bytes} {numTokens : Nat}

/-- Changing a token in anything but its parent keeps all links. -/
theorem map_parent_modify {f : JsmnTok → JsmnTok} (hf : ∀ t, (f t).parent = t.parent) (ts : List JsmnTok)
    (i : Nat) : (ts.modify i f).map JsmnTok.parent = ts.map JsmnTok.parent := by
  induction ts generalizing i with
  | nil => simp
  | cons t ts ih =>
      cases i with
      | zero => simp [hf]
      | succ i => simp [ih]

/-- The parent of a token. -/
theorem JsmnParser.Linked.parent_tok (h : p.Linked) {i : Int} (hi : 0 ≤ i) (hlt : i < p.tokens.length) :
    -1 ≤ (p.tok i).parent ∧ (p.tok i).parent < i := by
  have hget : p.tokens[i.toNat]? = some (p.tok i) := by
    simp [JsmnParser.tok, List.getD_eq_getElem?_getD, List.getElem?_eq_getElem (show i.toNat < p.tokens.length by omega)]
  have hparent := h.parents i.toNat (p.tok i).parent (by simp [JsmnParser.parents, hget])
  omega

/-- Counting a child does not move in the text. -/
@[simp] theorem JsmnParser.pos_countChild (p : JsmnParser) : p.countChild.pos = p.pos := by
  simp only [JsmnParser.countChild]
  split <;> rfl

/-- Counting a child adds no token. -/
@[simp] theorem JsmnParser.length_countChild (p : JsmnParser) :
    p.countChild.tokens.length = p.tokens.length := by
  simp only [JsmnParser.countChild]
  split <;> simp

/-- Counting a child keeps the links. -/
theorem JsmnParser.Linked.countChild (h : p.Linked) : p.countChild.Linked := by
  rw [JsmnParser.countChild]
  by_cases hsuper : p.toksuper = -1
  · simpa [hsuper] using h
  · rw [if_neg hsuper]
    constructor
    · simpa [JsmnParser.parents, map_parent_modify] using h.parents
    · simpa using h.toksuper
    · simpa using h.count

/-- A new token is a child of the enclosing one. -/
theorem JsmnParser.Linked.push {t : JsmnTok} (h : p.Linked) (ht : t.parent = p.toksuper)
    (hp' : p.push numTokens t = .ok p') :
    p'.Linked ∧ p'.pos = p.pos ∧ p'.toksuper = p.toksuper ∧ p'.tokens.length = p.tokens.length + 1 := by
  rw [JsmnParser.push] at hp'
  by_cases hfull : numTokens ≤ p.tokens.length
  · simp [hfull] at hp'
  · rw [if_neg hfull, Except.ok.injEq] at hp'
    subst hp'
    obtain ⟨hge, hlt⟩ := h.toksuper
    refine ⟨⟨?_, ?_, ?_⟩, rfl, rfl, by simp⟩
    · intro i parent hi
      have happend : (p.parents ++ [p.toksuper])[i]? = some parent := by
        simpa [JsmnParser.parents, ht] using hi
      by_cases hold : i < p.parents.length
      · exact h.parents i parent (by rwa [List.getElem?_append_left hold] at happend)
      · obtain ⟨hbound, -⟩ := List.getElem?_eq_some_iff.mp happend
        have hlast : i = p.parents.length := by
          rw [List.length_append, List.length_singleton] at hbound
          omega
        rw [hlast, List.getElem?_concat_length, Option.some.injEq] at happend
        rw [hlast, p.length_parents]
        omega
    · simp only [List.length_append, List.length_singleton]
      omega
    · simp [h.count]

/-! ## Steps -/

/-- A primitive's scan does not go back. -/
theorem scanPrimitive_ge {left pos stop : Nat} (h : scanPrimitive js left pos = .ok stop) : pos ≤ stop := by
  induction left generalizing pos with
  | zero => simp [scanPrimitive] at h
  | succ left ih =>
      rw [scanPrimitive] at h
      split at h
      · simp at h
      · split_ifs at h with hend hbad
        · exact Nat.le_of_eq (Except.ok.inj h)
        · exact Nat.le_of_succ_le (ih h)

/-- A primitive has a first byte. -/
theorem scanPrimitive_gt {left pos stop : Nat} (hstart : endsPrimitive (js.getD pos 0) = false)
    (h : scanPrimitive js left pos = .ok stop) : pos < stop := by
  cases left with
  | zero => simp [scanPrimitive] at h
  | succ left =>
      rw [scanPrimitive] at h
      split at h
      · simp at h
      · rw [if_neg (by simpa using hstart)] at h
        split_ifs at h
        exact scanPrimitive_ge h

/-- The scan of hex digits does not go back. -/
theorem scanHex_ge {left pos stop : Nat} (h : scanHex js left pos = .ok stop) : pos ≤ stop := by
  induction left generalizing pos with
  | zero => exact Nat.le_of_eq (Except.ok.inj h)
  | succ left ih =>
      rw [scanHex] at h
      split at h
      · exact Nat.le_of_eq (Except.ok.inj h)
      · split_ifs at h
        exact Nat.le_of_succ_le (ih h)

/-- The scan of an escape does not go back. -/
theorem scanEscape_ge {pos last : Nat} (h : scanEscape js pos = .ok last) : pos ≤ last := by
  rw [scanEscape] at h
  split_ifs at h
  · exact Nat.le_of_eq (Except.ok.inj h)
  · obtain ⟨stop, hstop, hlast⟩ := exists_of_bind_eq_ok h
    have hge := scanHex_ge hstop
    have hlast := Except.ok.inj hlast
    omega

/-- A string's scan does not go back. -/
theorem scanString_ge {left pos stop : Nat} (h : scanString js left pos = .ok stop) : pos ≤ stop := by
  induction left generalizing pos with
  | zero => simp [scanString] at h
  | succ left ih =>
      rw [scanString] at h
      split at h
      · simp at h
      · split_ifs at h with hquote hback
        · exact Nat.le_of_eq (Except.ok.inj h)
        · obtain ⟨last, hlast, hrest⟩ := exists_of_bind_eq_ok h
          have hge := scanEscape_ge hlast
          have hge' := ih hrest
          omega
        · exact Nat.le_of_succ_le (ih h)

/-- What every step of the tokenizer does to the parser. -/
structure JsmnParser.Follows (p p' : JsmnParser) : Prop where
  linked : p'.Linked
  pos : p.pos ≤ p'.pos

/-- A step that keeps the tokens' parents and encloses by one of the tokens. -/
theorem JsmnParser.Linked.enclosed (h : p.Linked) (hparents : p'.parents = p.parents)
    (hcount : p'.count = p.count) (hge : -1 ≤ p'.toksuper) (hlt : p'.toksuper < p.tokens.length) :
    p'.Linked := by
  have hlength : p'.tokens.length = p.tokens.length := by
    simpa using congrArg List.length hparents
  constructor
  · simpa [hparents] using h.parents
  · rw [hlength]
    exact ⟨hge, hlt⟩
  · rw [hcount, hlength]
    exact h.count

/-- An opening bracket keeps the links and moves on. -/
theorem jsmnOpen_follows {type : JsmnType} (h : p.Linked) (hp' : jsmnOpen numTokens type p = .ok p') :
    p.Follows p' := by
  rw [jsmnOpen] at hp'
  obtain ⟨q, hq, hp'⟩ := exists_of_bind_eq_ok hp'
  obtain ⟨hlinked, hpos, -, hlength⟩ := h.push rfl hq
  split_ifs at hp' with hkey
  rw [Except.ok.injEq] at hp'
  subst hp'
  have hlast : (p.tokens.length : Int) < q.countChild.tokens.length := by
    rw [q.length_countChild]
    omega
  have hfirst : (-1 : Int) ≤ p.tokens.length := by omega
  exact ⟨JsmnParser.Linked.enclosed hlinked.countChild rfl rfl hfirst hlast, by simp [hpos]⟩

/-- The walk up the parents ends at an open token or fails. -/
theorem jsmnCloseFrom_follows {type : JsmnType} {fuel : Nat} {i : Int} (h : p.Linked) (hi : 0 ≤ i)
    (hlt : i < p.tokens.length) (hp' : jsmnCloseFrom type p fuel i = .ok p') : p.Follows p' := by
  induction fuel generalizing i with
  | zero => simp [jsmnCloseFrom] at hp'
  | succ fuel ih =>
      obtain ⟨hge, hbefore⟩ := h.parent_tok hi hlt
      rw [jsmnCloseFrom] at hp'
      split_ifs at hp' with hopen htype hroot hbad
      · rw [Except.ok.injEq] at hp'
        subst hp'
        refine ⟨h.enclosed ?_ rfl hge (by show (p.tok i).parent < _; omega), Nat.le_refl _⟩
        simp [JsmnParser.parents, map_parent_modify]
      · rw [Except.ok.injEq] at hp'
        subst hp'
        exact ⟨h, Nat.le_refl _⟩
      · exact ih (by omega) (by omega) hp'

/-- **The chain of parents ends** before it is longer than the array. -/
theorem jsmnCloseFrom_fuel {type : JsmnType} {fuel fuel' : Nat} {i : Int} (h : p.Linked) (hi : 0 ≤ i)
    (hlt : i < p.tokens.length) (hfuel : i < fuel) (hfuel' : i < fuel') :
    jsmnCloseFrom type p fuel i = jsmnCloseFrom type p fuel' i := by
  induction fuel generalizing i fuel' with
  | zero => omega
  | succ fuel ih =>
      cases fuel' with
      | zero => omega
      | succ fuel' =>
          obtain ⟨hge, hbefore⟩ := h.parent_tok hi hlt
          rw [jsmnCloseFrom, jsmnCloseFrom]
          by_cases hroot : (p.tok i).parent = -1
          · simp [hroot]
          · rw [ih (by omega) (by omega) (by omega) (by omega : (p.tok i).parent < fuel')]

/-- A closing bracket keeps the links and moves on. -/
theorem jsmnClose_follows {type : JsmnType} (h : p.Linked) (hp' : jsmnClose type p = .ok p') :
    p.Follows p' := by
  rw [jsmnClose] at hp'
  split_ifs at hp' with hempty
  exact jsmnCloseFrom_follows h (by omega) (by omega) hp'

/-- A comma keeps the links and moves on. -/
theorem jsmnComma_follows (h : p.Linked) : p.Follows (jsmnComma p) := by
  obtain ⟨hge, hlt⟩ := h.toksuper
  rw [jsmnComma]
  split_ifs with hkey
  · obtain ⟨hge', hlt'⟩ := h.parent_tok (i := p.toksuper) (by omega) hlt
    exact ⟨h.enclosed rfl rfl hge' (by show (p.tok p.toksuper).parent < _; omega), Nat.le_refl _⟩
  · exact ⟨h, Nat.le_refl _⟩

/-- A primitive keeps the links and moves on. -/
theorem jsmnPrimitive_follows (h : p.Linked) (hstart : endsPrimitive (js.getD p.pos 0) = false)
    (hp' : jsmnPrimitive js numTokens p = .ok p') : p.Follows p' := by
  rw [jsmnPrimitive] at hp'
  split_ifs at hp' with hkey
  obtain ⟨q, hq, hp'⟩ := exists_of_bind_eq_ok hp'
  rw [jsmnParsePrimitive] at hq
  obtain ⟨stop, hstop, hq⟩ := exists_of_bind_eq_ok hq
  obtain ⟨r, hr, hq⟩ := exists_of_bind_eq_ok hq
  obtain ⟨hlinked, -⟩ := h.push rfl hr
  rw [Except.ok.injEq] at hq hp'
  subst hq hp'
  have hgt := scanPrimitive_gt hstart hstop
  refine ⟨JsmnParser.Linked.countChild ?_, by simp; omega⟩
  exact hlinked.enclosed rfl rfl hlinked.toksuper.1 hlinked.toksuper.2

/-- A string keeps the links and moves on. -/
theorem jsmnString_follows (h : p.Linked) {q : JsmnParser} (hq : jsmnParseString js numTokens p = .ok q) :
    p.Follows q.countChild := by
  rw [jsmnParseString] at hq
  obtain ⟨stop, hstop, hq⟩ := exists_of_bind_eq_ok hq
  obtain ⟨r, hr, hq⟩ := exists_of_bind_eq_ok hq
  obtain ⟨hlinked, -⟩ := h.push rfl hr
  rw [Except.ok.injEq] at hq
  subst hq
  have hge := scanString_ge hstop
  refine ⟨JsmnParser.Linked.countChild ?_, by simp; omega⟩
  exact hlinked.enclosed rfl rfl hlinked.toksuper.1 hlinked.toksuper.2

/-- **Step**: the links stay, and the parser does not go back. -/
theorem jsmnStep_follows {c : Nat} (h : p.Linked) (hc : js.getD p.pos 0 = c)
    (hp' : jsmnStep js numTokens c p = .ok p') : p.Follows p' := by
  rw [jsmnStep] at hp'
  split_ifs at hp' with hobject harray hobjectEnd harrayEnd hquote hblank hcolon hcomma hprimitive
  · exact jsmnOpen_follows h hp'
  · exact jsmnOpen_follows h hp'
  · exact jsmnClose_follows h hp'
  · exact jsmnClose_follows h hp'
  · obtain ⟨q, hq, hp'⟩ := exists_of_bind_eq_ok hp'
    rw [Except.ok.injEq] at hp'
    subst hp'
    exact jsmnString_follows h hq
  · rw [Except.ok.injEq] at hp'
    subst hp'
    exact ⟨h, Nat.le_refl _⟩
  · rw [Except.ok.injEq] at hp'
    subst hp'
    have hge : (-1 : Int) ≤ p.tokens.length - 1 := by omega
    have hlt : (p.tokens.length : Int) - 1 < p.tokens.length := by omega
    exact ⟨h.enclosed rfl rfl hge hlt, Nat.le_refl _⟩
  · rw [Except.ok.injEq] at hp'
    subst hp'
    exact jsmnComma_follows h
  · refine jsmnPrimitive_follows h ?_ hp'
    rw [hc]
    simp [endsPrimitive, isDigit] at hprimitive ⊢
    omega

/-! ## Runs -/

/-- The empty parser has no links to break. -/
theorem linked_jsmnInit : jsmnInit.Linked where
  parents i parent hi := by simp [jsmnInit, JsmnParser.parents] at hi
  toksuper := ⟨Int.le_refl _, by decide⟩
  count := rfl

/-- Moving on in the text keeps the links. -/
theorem JsmnParser.Linked.next (h : p.Linked) : { p with pos := p.pos + 1 }.Linked :=
  ⟨h.parents, h.toksuper, h.count⟩

/-- **Run**: the links hold when the text is used up. -/
theorem linked_jsmnLoop {left : Nat} (h : p.Linked) (hp' : jsmnLoop js numTokens left p = .ok p') :
    p'.Linked := by
  induction left generalizing p with
  | zero => exact Except.ok.inj hp' ▸ h
  | succ left ih =>
      rw [jsmnLoop] at hp'
      split at hp'
      · exact Except.ok.inj hp' ▸ h
      · obtain ⟨q, hq, hp'⟩ := exists_of_bind_eq_ok hp'
        exact ih (jsmnStep_follows h rfl hq).linked.next hp'

/-- **The text is used up** within as many rounds as it has bytes. -/
theorem jsmnLoop_fuel {left left' : Nat} (h : p.Linked) (hleft : js.length ≤ p.pos + left)
    (hleft' : js.length ≤ p.pos + left') :
    jsmnLoop js numTokens left p = jsmnLoop js numTokens left' p := by
  have hend {p : JsmnParser} (hp : js.length ≤ p.pos) (left : Nat) :
      jsmnLoop js numTokens left p = .ok p := by
    cases left with
    | zero => rfl
    | succ left => simp [jsmnLoop, List.getD_eq_getElem?_getD, List.getElem?_eq_none hp]
  induction left generalizing p left' with
  | zero => rw [hend hleft, hend hleft]
  | succ left ih =>
      cases left' with
      | zero => rw [hend hleft', hend hleft']
      | succ left' =>
          rw [jsmnLoop, jsmnLoop]
          split
          · rfl
          · cases hq : jsmnStep js numTokens (js.getD p.pos 0) p with
            | error e => rfl
            | ok q =>
                have hfollows := jsmnStep_follows h rfl hq
                have hpos := hfollows.pos
                exact ih hfollows.linked.next (by show _ ≤ q.pos + 1 + left; omega)
                  (by show _ ≤ q.pos + 1 + left'; omega)

/-- The number returned is the number of tokens. -/
theorem jsmnParse_count {count : Nat} {tokens : List JsmnTok}
    (h : jsmnParse js numTokens = .ok (count, tokens)) : count = tokens.length := by
  rw [jsmnParse] at h
  obtain ⟨p, hp, h⟩ := exists_of_bind_eq_ok h
  split_ifs at h
  rw [Except.ok.injEq, Prod.mk.injEq] at h
  rw [← h.1, ← h.2]
  exact (linked_jsmnLoop linked_jsmnInit hp).count

end linked

end ThermalCore
