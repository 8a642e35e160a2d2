import Mathlib.Computability.Language
import ThermalCore.Linux.TokenSections

/-!
# JSON texts

The texts of a document, with blanks wherever JSON has them, and what the tokenizer of
`platform/linux/jsmn.c` makes of one: the tokens of the document.

A document's texts are a language, defined along the document.  The proof follows the
same recursion: `ReadsValue` says of a value that, standing at any text of it with
room for its tokens, the tokenizer reaches the end of that text with exactly those
tokens added, each counted by its parent.  Strings and literals are the base; an array
or an object opens, reads its elements or members by the loops' own lemmas, and closes
at the token it opened.  A literal at the very end of a text is left out: the tokenizer
wants a byte behind it, so a root literal is a document here only with a blank behind.
-/

namespace ThermalCore

open Check

/-! ## The grammar -/

/-- Blanks between two tokens. -/
def blanks : Language Nat := {w | ∀ b ∈ w, b ∈ [9, 13, 10, 32]}

/-- What may stand between quotes: a backslash starts an escape. -/
inductive StringBody : Bytes → Prop where
  | nil : StringBody []
  | byte {b : Nat} {rest : Bytes} (hb : b ≠ 34 ∧ b ≠ 92 ∧ b ≠ 0) (h : StringBody rest) : StringBody (b :: rest)
  | escape {e : Nat} {rest : Bytes} (he : e ∈ [34, 47, 92, 98, 102, 114, 110, 116]) (h : StringBody rest) :
      StringBody (92 :: e :: rest)
  | unicode {digits rest : Bytes} (hfour : digits.length = 4) (hhex : ∀ d ∈ digits, isHexDigit d = true)
      (h : StringBody rest) : StringBody (92 :: 117 :: (digits ++ rest))

/-- Without quotes, backslashes and NULs. -/
theorem StringBody.of_plain {s : Bytes} (h : ∀ b ∈ s, b ≠ 34 ∧ b ≠ 92 ∧ b ≠ 0) : StringBody s := by
  induction s with
  | nil => exact .nil
  | cons b s ih => exact .byte (h b (by simp)) (ih fun d hd => h d (by simp [hd]))

/-- A string or a key with its quotes. -/
def quoted (s : Bytes) : Language Nat := {w | StringBody s ∧ w = 34 :: (s ++ [34])}

/-- A number or one of the literals, as the tokenizer tells them. -/
def literals (s : Bytes) : Language Nat :=
  {w | w = s ∧ (∃ b rest, s = b :: rest ∧ (b = 45 ∨ isDigit b ∨ b ∈ [116, 102, 110])) ∧
    ∀ b ∈ s, 32 ≤ b ∧ b < 127 ∧ endsPrimitive b = false}

/-- One byte of punctuation. -/
def mark (b : Nat) : Language Nat := {[b]}

mutual

/-- The texts of a value, without blanks around it. -/
def Json.texts : Json → Language Nat
  | .object members => mark 123 * membersTexts members * mark 125
  | .array elems => mark 91 * elemsTexts elems * mark 93
  | .string bytes => quoted bytes
  | .primitive bytes => literals bytes

/-- The texts of a member, with blanks around key and value. -/
def memberTexts : Bytes × Json → Language Nat
  | (key, v) => blanks * quoted key * blanks * mark 58 * (blanks * v.texts * blanks)

/-- The texts between the braces of an object. -/
def membersTexts : List (Bytes × Json) → Language Nat
  | [] => blanks
  | m :: ms => memberTexts m * moreMembersTexts ms

/-- The texts behind the first member. -/
def moreMembersTexts : List (Bytes × Json) → Language Nat
  | [] => 1
  | m :: ms => mark 44 * memberTexts m * moreMembersTexts ms

/-- The texts between the brackets of an array. -/
def elemsTexts : List Json → Language Nat
  | [] => blanks
  | v :: vs => blanks * v.texts * blanks * moreElemsTexts vs

/-- The texts behind the first element. -/
def moreElemsTexts : List Json → Language Nat
  | [] => 1
  | v :: vs => mark 44 * (blanks * v.texts * blanks) * moreElemsTexts vs

end

/-- A value that ends where the tokenizer sees it end. -/
def Json.Closed : Json → Prop
  | .primitive _ => False
  | _ => True

/-- The texts of a document; behind a number or a literal a blank has to follow. -/
def Json.documents (v : Json) : Language Nat :=
  {w | ∃ lead ∈ blanks, ∃ body ∈ v.texts, ∃ trail ∈ blanks, w = lead ++ body ++ trail ∧ (v.Closed ∨ trail ≠ [])}

/-! ## What is left of the text -/

section text

variable {js rest : Bytes} {b pos : Nat}

/-- The byte at a place is the first of what is left there. -/
theorem getD_of_drop (h : js.drop pos = b :: rest) : js.getD pos 0 = b := by
  rw [List.getD_eq_getElem?_getD, ← Nat.add_zero pos, ← List.getElem?_drop, h]
  rfl

/-- What is left behind a piece of text. -/
theorem drop_of_drop {w : Bytes} (h : js.drop pos = w ++ rest) : js.drop (pos + w.length) = rest := by
  rw [← List.drop_drop, h, List.drop_left]

/-- What is left behind a byte. -/
theorem drop_succ_of_drop (h : js.drop pos = b :: rest) : js.drop (pos + 1) = rest :=
  @drop_of_drop js rest pos [b] h

/-- A piece with a byte behind it ends inside the text. -/
theorem length_of_drop {w : Bytes} (h : js.drop pos = w ++ b :: rest) : pos + w.length < js.length := by
  have hlength := congrArg List.length h
  simp only [List.length_drop, List.length_append, List.length_cons] at hlength
  omega

/-! ## Scanners -/

/-- The scan of hex digits takes exactly the digits. -/
theorem scanHex_digits {digits : Bytes} (hhex : ∀ d ∈ digits, isHexDigit d = true)
    (h : js.drop pos = digits ++ rest) : scanHex js digits.length pos = .ok (pos + digits.length) := by
  induction digits generalizing pos with
  | nil => rfl
  | cons d digits ih =>
      have hd : isHexDigit d = true := hhex d (by simp)
      have hnext := ih (fun d hd => hhex d (by simp [hd])) (drop_succ_of_drop h)
      have hpos : pos + (digits.length + 1) = pos + 1 + digits.length := by omega
      rw [List.length_cons, scanHex, getD_of_drop h, hpos, ← hnext]
      split
      · simp [isHexDigit] at hd
      · rw [if_pos hd]

/-- The closing quote is the one behind the body. -/
theorem scanString_body {s : Bytes} (hs : StringBody s) {left : Nat} (hleft : s.length < left)
    (h : js.drop pos = s ++ 34 :: rest) : scanString js left pos = .ok (pos + s.length) := by
  induction hs generalizing pos left with
  | nil =>
      obtain ⟨left, rfl⟩ := Nat.exists_eq_succ_of_ne_zero (Nat.ne_of_gt hleft)
      rw [scanString, getD_of_drop h]
      rfl
  | @byte b s hb _ ih =>
      obtain ⟨left, rfl⟩ := Nat.exists_eq_succ_of_ne_zero (Nat.ne_of_gt (Nat.zero_lt_of_lt hleft))
      obtain ⟨hquote, hback, hzero⟩ := hb
      have hnext := ih (by simpa using hleft) (drop_succ_of_drop h)
      rw [scanString, getD_of_drop h, List.length_cons, ← Nat.add_assoc, Nat.add_right_comm, ← hnext]
      simp [hquote, hback]
  | @escape e s he _ ih =>
      obtain ⟨left, rfl⟩ := Nat.exists_eq_succ_of_ne_zero (Nat.ne_of_gt (Nat.zero_lt_of_lt hleft))
      have hback : js.drop (pos + 1) = e :: (s ++ 34 :: rest) := drop_succ_of_drop h
      have hmore : pos + 1 < js.length := @length_of_drop js _ e pos [92] h
      have hlast : scanEscape js (pos + 1) = .ok (pos + 1) := by rw [scanEscape, getD_of_drop hback, if_pos he]
      have hshort : s.length < left := by
        rw [List.length_cons, List.length_cons] at hleft
        omega
      have hnext := ih hshort (drop_succ_of_drop hback)
      have hpos : pos + (92 :: e :: s).length = pos + 1 + 1 + s.length := by simp; omega
      rw [scanString, getD_of_drop h, hpos, ← hnext]
      simp [hmore, hlast, bind, Except.bind]
  | @unicode digits s hfour hhex _ ih =>
      obtain ⟨left, rfl⟩ := Nat.exists_eq_succ_of_ne_zero (Nat.ne_of_gt (Nat.zero_lt_of_lt hleft))
      have hback : js.drop (pos + 1) = 117 :: (digits ++ (s ++ 34 :: rest)) := by
        simpa using drop_succ_of_drop h
      have hdigits := drop_succ_of_drop hback
      have hmore : pos + 1 < js.length := @length_of_drop js _ 117 pos [92] (by simpa using h)
      have hlast : scanEscape js (pos + 1) = .ok (pos + 5) := by
        rw [scanEscape, getD_of_drop hback, ← hfour, scanHex_digits hhex hdigits, hfour]
        rfl
      have hshort : s.length < left := by
        simp only [List.length_cons, List.length_append] at hleft
        omega
      have hnext := ih hshort (drop_of_drop hdigits)
      have hpos : pos + (92 :: 117 :: (digits ++ s)).length = pos + 1 + 1 + digits.length + s.length := by
        simp
        omega
      rw [scanString, getD_of_drop h, hpos, ← hnext, hfour]
      simp [hmore, hlast, bind, Except.bind]

/-- A literal ends at the byte behind it. -/
theorem scanPrimitive_literal {s : Bytes} (hs : ∀ b ∈ s, 32 ≤ b ∧ b < 127 ∧ endsPrimitive b = false)
    (hend : endsPrimitive b = true) {left : Nat} (hleft : s.length < left) (h : js.drop pos = s ++ b :: rest) :
    scanPrimitive js left pos = .ok (pos + s.length) := by
  induction s generalizing pos left with
  | nil =>
      obtain ⟨left, rfl⟩ := Nat.exists_eq_succ_of_ne_zero (Nat.ne_of_gt hleft)
      rw [scanPrimitive, getD_of_drop h]
      split
      · simp [endsPrimitive] at hend
      · simp [hend]
  | cons d s ih =>
      obtain ⟨left, rfl⟩ := Nat.exists_eq_succ_of_ne_zero (Nat.ne_of_gt (Nat.zero_lt_of_lt hleft))
      obtain ⟨hge, hlt, hmore⟩ := hs d (by simp)
      have hnext := ih (fun d hd => hs d (by simp [hd])) (by simpa using hleft) (drop_succ_of_drop h)
      rw [scanPrimitive, getD_of_drop h, List.length_cons, ← Nat.add_assoc, Nat.add_right_comm, ← hnext]
      split
      · omega
      · rw [if_neg (by simp [hmore]), if_neg (by omega)]

end text

/-! ## Rounds of the tokenizer -/

namespace JsmnParser

/-- Some rounds of `jsmn_parse` take the parser from `p` to `q`. -/
def Reaches (js : Bytes) (numTokens : Nat) (p q : JsmnParser) : Prop :=
  ∃ rounds, ∀ left, jsmnLoop js numTokens (left + rounds) p = jsmnLoop js numTokens left q

section reaches

variable {js rest : Bytes} {numTokens b : Nat} {p q r : JsmnParser}

/-- No round leads to where one is. -/
theorem Reaches.refl : p.Reaches js numTokens p := ⟨0, fun _ => rfl⟩

/-- Rounds follow each other. -/
theorem Reaches.trans (hpq : p.Reaches js numTokens q) (hqr : q.Reaches js numTokens r) :
    p.Reaches js numTokens r := by
  obtain ⟨k, hk⟩ := hpq
  obtain ⟨k', hk'⟩ := hqr
  exact ⟨k' + k, fun left => by rw [← Nat.add_assoc, hk, hk']⟩

/-- Rounds keep the parent links. -/
theorem Reaches.linked (hpq : p.Reaches js numTokens q) (hp : p.Linked) : q.Linked := by
  obtain ⟨k, hk⟩ := hpq
  exact linked_jsmnLoop hp (hk 0)

/-- One byte. -/
theorem reaches_step (hbyte : js.drop p.pos = b :: rest) (hb : b ≠ 0) (h : jsmnStep js numTokens b p = .ok q) :
    p.Reaches js numTokens { q with pos := q.pos + 1 } := by
  refine ⟨1, fun left => ?_⟩
  rw [jsmnLoop, getD_of_drop hbyte]
  split
  · exact absurd rfl hb
  · rw [h]
    rfl

end reaches

end JsmnParser

open JsmnParser (Reaches reaches_step)

/-- The parser at `pos` with these tokens. -/
def jsmnAt (pos : Nat) (tokens : List JsmnTok) (toksuper : Int) : JsmnParser where
  pos := pos
  tokens := tokens
  toksuper := toksuper
  count := tokens.length

/-- The tokens once the enclosing one has counted a child. -/
def countInto (toksuper : Int) (tokens : List JsmnTok) : List JsmnTok :=
  if toksuper = -1 then tokens else tokens.modify toksuper.toNat fun t => { t with size := t.size + 1 }

/-- Counting a child adds no token. -/
@[simp] theorem length_countInto (toksuper : Int) (tokens : List JsmnTok) :
    (countInto toksuper tokens).length = tokens.length := by
  unfold countInto
  split <;> simp

/-- Counting a child counts it into the enclosing token. -/
theorem countChild_jsmnAt (pos : Nat) (tokens : List JsmnTok) (toksuper : Int) :
    (jsmnAt pos tokens toksuper).countChild = jsmnAt pos (countInto toksuper tokens) toksuper := by
  unfold JsmnParser.countChild countInto jsmnAt
  split <;> simp_all

/-- A change in the first part of a list leaves the second alone. -/
theorem modify_append_left {α : Type} {f : α → α} {xs ys : List α} {i : Nat} (hi : i < xs.length) :
    (xs ++ ys).modify i f = xs.modify i f ++ ys := by
  induction xs generalizing i with
  | nil => simp at hi
  | cons x xs ih =>
      cases i with
      | zero => rfl
      | succ i => simp [ih (by simpa using hi)]

/-- A change at the seam of two lists. -/
theorem modify_append_cons {α : Type} {f : α → α} (xs : List α) (y : α) (ys : List α) :
    (xs ++ y :: ys).modify xs.length f = xs ++ f y :: ys := by
  induction xs with
  | nil => rfl
  | cons x xs ih => simp [ih]

/-- A new token is behind the enclosing one. -/
theorem countInto_append {toksuper : Int} {tokens : List JsmnTok} (hsuper : toksuper < tokens.length)
    (hge : -1 ≤ toksuper) (new : List JsmnTok) :
    countInto toksuper (tokens ++ new) = countInto toksuper tokens ++ new := by
  unfold countInto
  split
  · rfl
  · exact modify_append_left (by omega)

/-- The enclosing token is counted where it stands. -/
theorem countInto_cons (front : List JsmnTok) (t : JsmnTok) (back : List JsmnTok) :
    countInto front.length (front ++ t :: back) = front ++ { t with size := t.size + 1 } :: back := by
  unfold countInto
  rw [if_neg (by omega), Int.toNat_natCast, modify_append_cons]

/-! ## Steps on a text -/

section steps

variable {js rest w : Bytes} {numTokens pos : Nat} {tokens : List JsmnTok} {toksuper : Int}

/-- A token is added where there is room. -/
theorem push_jsmnAt (hroom : tokens.length < numTokens) (t : JsmnTok) :
    (jsmnAt pos tokens toksuper).push numTokens t = .ok (jsmnAt pos (tokens ++ [t]) toksuper) := by
  simp [JsmnParser.push, jsmnAt, Nat.not_le.mpr hroom]

/-- Blanks are skipped without a token. -/
theorem reaches_blanks (numTokens : Nat) (tokens : List JsmnTok) (toksuper : Int) (hw : w ∈ blanks)
    (h : js.drop pos = w ++ rest) :
    (jsmnAt pos tokens toksuper).Reaches js numTokens (jsmnAt (pos + w.length) tokens toksuper) := by
  induction w generalizing pos with
  | nil => exact .refl
  | cons b w ih =>
      have hb : b ∈ [9, 13, 10, 32] := hw b (by simp)
      have hzero : b ≠ 0 := by rintro rfl; simp at hb
      have hstep : jsmnStep js numTokens b (jsmnAt pos tokens toksuper) = .ok (jsmnAt pos tokens toksuper) := by
        simp only [List.mem_cons, List.not_mem_nil, or_false] at hb
        rcases hb with rfl | rfl | rfl | rfl <;> rfl
      have hrest := ih (fun d hd => hw d (by simp [hd])) (drop_succ_of_drop h)
      rw [List.length_cons, Nat.add_comm w.length, ← Nat.add_assoc]
      exact (reaches_step h hzero hstep).trans hrest

/-- A colon makes the last token the enclosing one. -/
theorem reaches_colon (numTokens : Nat) (toksuper : Int) (front : List JsmnTok) (key : JsmnTok)
    (h : js.drop pos = 58 :: rest) :
    (jsmnAt pos (front ++ [key]) toksuper).Reaches js numTokens (jsmnAt (pos + 1) (front ++ [key]) front.length) := by
  have hstep : jsmnStep js numTokens 58 (jsmnAt pos (front ++ [key]) toksuper) =
      .ok (jsmnAt pos (front ++ [key]) front.length) := by
    simp [jsmnStep, jsmnAt]
  exact reaches_step (p := jsmnAt pos (front ++ [key]) toksuper) h (by decide) hstep

/-- The token of a string or a key. -/
def stringToken (pos : Nat) (s : Bytes) (toksuper : Int) : JsmnTok :=
  ⟨.string, pos + 1, pos + 1 + s.length, 0, toksuper⟩

/-- A quoted string becomes one token of the enclosing one. -/
theorem reaches_quoted {s : Bytes} (hw : w ∈ quoted s) (h : js.drop pos = w ++ rest)
    (hlinked : (jsmnAt pos tokens toksuper).Linked) (hroom : tokens.length < numTokens) :
    (jsmnAt pos tokens toksuper).Reaches js numTokens
      (jsmnAt (pos + w.length) (countInto toksuper tokens ++ [stringToken pos s toksuper]) toksuper) := by
  obtain ⟨hbody, rfl⟩ := hw
  obtain ⟨hge, hlt⟩ : -1 ≤ toksuper ∧ toksuper < tokens.length := hlinked.toksuper
  have hinner : js.drop (pos + 1) = s ++ 34 :: rest := by simpa using drop_succ_of_drop h
  have hclose : pos + 1 + s.length < js.length := length_of_drop hinner
  have hscan : scanString js js.length (pos + 1) = .ok (pos + 1 + s.length) :=
    scanString_body hbody (by omega) hinner
  have hstep : jsmnStep js numTokens 34 (jsmnAt pos tokens toksuper) =
      .ok (jsmnAt (pos + 1 + s.length) (countInto toksuper tokens ++ [stringToken pos s toksuper]) toksuper) := by
    have hparse : jsmnParseString js numTokens (jsmnAt pos tokens toksuper) =
        .ok (jsmnAt (pos + 1 + s.length) (tokens ++ [stringToken pos s toksuper]) toksuper) := by
      show (scanString js js.length (pos + 1) >>= _) = _
      rw [hscan]
      show ((jsmnAt pos tokens toksuper).push numTokens (stringToken pos s toksuper) >>= _) = _
      rw [push_jsmnAt hroom]
      rfl
    show (jsmnParseString js numTokens (jsmnAt pos tokens toksuper) >>= _) = _
    rw [hparse]
    show Except.ok (jsmnAt _ _ _).countChild = _
    rw [countChild_jsmnAt, countInto_append hlt hge]
  have hreach := reaches_step (p := jsmnAt pos tokens toksuper) h (by decide) hstep
  rw [show pos + (34 :: (s ++ [34])).length = pos + 1 + s.length + 1 by simp; omega]
  exact hreach

/-- The token of a string has the string's range in the text. -/
theorem of_stringToken {s : Bytes} (h : js.drop pos = 34 :: (s ++ rest)) (toksuper size : Int) :
    TokenEntry.Of js ⟨.string, size, some s⟩ { stringToken pos s toksuper with size := size } where
  type := rfl
  size := rfl
  start := by simp [stringToken]; omega
  stop := by simp [stringToken]
  within := by
    have hlength := congrArg List.length h
    simp only [List.length_drop, List.length_cons, List.length_append] at hlength
    simp only [stringToken]
    omega
  text bytes hbytes := by
    cases hbytes
    have hinner := drop_succ_of_drop h
    simp [tokText, stringToken, hinner]
  brackets := by simp [JsmnType.brackets]

/-- The enclosing token may get a value: it is an array or a key without one. -/
def TakesValue (tokens : List JsmnTok) (toksuper : Int) : Prop :=
  toksuper = -1 ∨ ∃ (front : List JsmnTok) (t : JsmnTok) (back : List JsmnTok), tokens = front ++ t :: back ∧
    toksuper = front.length ∧ (t.type = .array ∨ t.type = .string ∧ t.size = 0)

/-- The token at the seam of two lists. -/
theorem tok_cons (front : List JsmnTok) (t : JsmnTok) (back : List JsmnTok) :
    (jsmnAt pos (front ++ t :: back) toksuper).tok front.length = t := by
  simp [JsmnParser.tok, jsmnAt]

/-- The token of a number or a literal. -/
def literalToken (pos : Nat) (s : Bytes) (toksuper : Int) : JsmnTok :=
  ⟨.primitive, pos, pos + s.length, 0, toksuper⟩

/-- Where a value may stand, a primitive is parsed and counted. -/
theorem jsmnPrimitive_takes (hready : TakesValue tokens toksuper) :
    jsmnPrimitive js numTokens (jsmnAt pos tokens toksuper) =
      jsmnParsePrimitive js numTokens (jsmnAt pos tokens toksuper) >>= fun p => .ok p.countChild := by
  rw [jsmnPrimitive, if_neg]
  rintro ⟨hsuper, hkind⟩
  obtain hnone | ⟨front, t, back, rfl, rfl, htype⟩ := hready
  · exact hsuper hnone
  · rw [show (jsmnAt pos (front ++ t :: back) front.length).toksuper = front.length from rfl, tok_cons] at hkind
    obtain htype | ⟨htype, hsize⟩ := htype
    · simp [htype] at hkind
    · simp [htype, hsize] at hkind

/-- A literal with a byte behind that ends it becomes one token. -/
theorem reaches_literal {s : Bytes} {b : Nat} (hw : w ∈ literals s) (h : js.drop pos = w ++ b :: rest)
    (hend : endsPrimitive b = true) (hlinked : (jsmnAt pos tokens toksuper).Linked)
    (hready : TakesValue tokens toksuper) (hroom : tokens.length < numTokens) :
    (jsmnAt pos tokens toksuper).Reaches js numTokens
      (jsmnAt (pos + w.length) (countInto toksuper tokens ++ [literalToken pos s toksuper]) toksuper) := by
  obtain ⟨rfl, ⟨first, more, rfl, hfirst⟩, hbytes⟩ := hw
  obtain ⟨hge, hlt⟩ : -1 ≤ toksuper ∧ toksuper < tokens.length := hlinked.toksuper
  have hclose : pos + (first :: more).length < js.length := length_of_drop h
  have hscan : scanPrimitive js js.length pos = .ok (pos + (first :: more).length) :=
    scanPrimitive_literal hbytes hend (by omega) h
  have hparse : jsmnParsePrimitive js numTokens (jsmnAt pos tokens toksuper) =
      .ok (jsmnAt (pos + more.length) (tokens ++ [literalToken pos (first :: more) toksuper]) toksuper) := by
    show (scanPrimitive js js.length pos >>= _) = _
    rw [hscan]
    show ((jsmnAt pos tokens toksuper).push numTokens (literalToken pos (first :: more) toksuper) >>= _) = _
    rw [push_jsmnAt hroom]
    rfl
  have hstep : jsmnStep js numTokens first (jsmnAt pos tokens toksuper) =
      .ok (jsmnAt (pos + more.length)
        (countInto toksuper tokens ++ [literalToken pos (first :: more) toksuper]) toksuper) := by
    have hprimitive : jsmnStep js numTokens first (jsmnAt pos tokens toksuper) =
        jsmnPrimitive js numTokens (jsmnAt pos tokens toksuper) := by
      simp only [isDigit, List.mem_cons, List.not_mem_nil, or_false, Bool.and_eq_true, decide_eq_true_eq] at hfirst
      unfold jsmnStep
      rw [if_neg (by omega), if_neg (by omega), if_neg (by omega), if_neg (by omega), if_neg (by omega),
        if_neg (by simp; omega), if_neg (by omega), if_neg (by omega), if_pos (by simpa [isDigit] using hfirst)]
    rw [hprimitive, jsmnPrimitive_takes hready, hparse]
    show Except.ok (jsmnAt _ _ _).countChild = _
    rw [countChild_jsmnAt, countInto_append hlt hge]
  have hzero : first ≠ 0 := by
    have hge := (hbytes first (by simp)).1
    omega
  exact reaches_step (p := jsmnAt pos tokens toksuper) h hzero hstep

/-- The token of a literal has the literal's range in the text. -/
theorem of_literalToken {s : Bytes} {b : Nat} (h : js.drop pos = s ++ b :: rest) (toksuper : Int) :
    TokenEntry.Of js ⟨.primitive, 0, some s⟩ (literalToken pos s toksuper) where
  type := rfl
  size := rfl
  start := by simp [literalToken]
  stop := by simp [literalToken]
  within := by
    have hlength := congrArg List.length h
    simp only [List.length_drop, List.length_cons, List.length_append] at hlength
    simp only [literalToken]
    omega
  text bytes hbytes := by
    cases hbytes
    simp [tokText, literalToken, h]
  brackets := by simp [JsmnType.brackets]

/-! ### Brackets -/

/-- The token of a bracket that is still open. -/
def openToken (type : JsmnType) (pos : Nat) (size toksuper : Int) : JsmnTok := ⟨type, pos, -1, size, toksuper⟩

/-- Where a value may stand, an opening bracket adds an open token and encloses what follows. -/
theorem jsmnOpen_takes {type : JsmnType} (hlinked : (jsmnAt pos tokens toksuper).Linked)
    (hready : TakesValue tokens toksuper) (hroom : tokens.length < numTokens) :
    jsmnOpen numTokens type (jsmnAt pos tokens toksuper) =
      .ok (jsmnAt pos (countInto toksuper tokens ++ [openToken type pos 0 toksuper]) tokens.length) := by
  obtain ⟨hge, hlt⟩ : -1 ≤ toksuper ∧ toksuper < tokens.length := hlinked.toksuper
  show ((jsmnAt pos tokens toksuper).push numTokens (openToken type pos 0 toksuper) >>= _) = _
  rw [push_jsmnAt hroom]
  show (if _ then _ else Except.ok _) = _
  rw [if_neg]
  · rw [countChild_jsmnAt, countInto_append hlt hge]
    simp [jsmnAt]
  · rintro ⟨hsuper, hkind⟩
    obtain hnone | ⟨front, t, back, rfl, rfl, htype⟩ := hready
    · exact hsuper hnone
    · rw [show (jsmnAt pos (front ++ t :: back) front.length).toksuper = front.length from rfl, tok_cons] at hkind
      obtain htype | ⟨htype, -⟩ := htype
      · simp [htype] at hkind
      · simp [htype] at hkind

/-- The token that is still open is found over closed ones, all of them inside it. -/
theorem jsmnCloseFrom_open {type : JsmnType} {front inner : List JsmnTok} {t : JsmnTok}
    (hlinked : (jsmnAt pos (front ++ t :: inner) toksuper).Linked) (htype : t.type = type)
    (hopen : t.start ≠ -1 ∧ t.stop = -1)
    (hinner : ∀ u ∈ inner, u.stop ≠ -1 ∧ (front.length : Int) ≤ u.parent) {fuel : Nat} {i : Int}
    (hge : (front.length : Int) ≤ i) (hlt : i < (front ++ t :: inner).length) (hfuel : i < fuel) :
    jsmnCloseFrom type (jsmnAt pos (front ++ t :: inner) toksuper) fuel i =
      .ok (jsmnAt pos (front ++ { t with stop := pos + 1 } :: inner) t.parent) := by
  induction fuel generalizing i with
  | zero => omega
  | succ fuel ih =>
      rw [jsmnCloseFrom]
      obtain heq | hbehind := eq_or_lt_of_le hge
      · subst heq
        rw [tok_cons, if_pos hopen, if_neg (not_not.mpr htype)]
        simp [jsmnAt, modify_append_cons]
      · have hmem : (jsmnAt pos (front ++ t :: inner) toksuper).tok i ∈ inner := by
          obtain ⟨k, rfl⟩ : ∃ k : Nat, i = front.length + 1 + k := ⟨(i - front.length - 1).toNat, by omega⟩
          have hk : k < inner.length := by
            simp only [List.length_append, List.length_cons] at hlt
            omega
          have hget : (front ++ t :: inner)[front.length + 1 + k]? = some inner[k] := by
            rw [List.getElem?_append_right (by omega), Nat.add_assoc, Nat.add_sub_cancel_left, Nat.add_comm,
              List.getElem?_cons_succ, List.getElem?_eq_getElem hk]
          have htok : (jsmnAt pos (front ++ t :: inner) toksuper).tok (front.length + 1 + k) = inner[k] := by
            rw [JsmnParser.tok, List.getD_eq_getElem?_getD,
              show ((front.length : Int) + 1 + k).toNat = front.length + 1 + k by omega]
            show ((front ++ t :: inner)[front.length + 1 + k]?).getD default = _
            rw [hget]
            rfl
          rw [htok]
          exact List.getElem_mem hk
        obtain ⟨hclosed, hparent⟩ := hinner _ hmem
        have hbefore := (hlinked.parent_tok (show 0 ≤ i by omega) hlt).2
        rw [if_neg (fun hboth => hclosed hboth.2), if_neg (by omega)]
        exact ih hparent (by omega) (by omega)

/-- A closing bracket finds the open token, since everything behind it is closed and below it. -/
theorem jsmnClose_open {type : JsmnType} {front inner : List JsmnTok} {t : JsmnTok}
    (hlinked : (jsmnAt pos (front ++ t :: inner) toksuper).Linked) (htype : t.type = type)
    (hopen : t.start ≠ -1 ∧ t.stop = -1)
    (hinner : ∀ u ∈ inner, u.stop ≠ -1 ∧ (front.length : Int) ≤ u.parent) :
    jsmnClose type (jsmnAt pos (front ++ t :: inner) toksuper) =
      .ok (jsmnAt pos (front ++ { t with stop := pos + 1 } :: inner) t.parent) := by
  have hlength : (front ++ t :: inner).length = front.length + 1 + inner.length := by
    simp
    omega
  have hsome : ¬(front ++ t :: inner).length < 1 := by omega
  rw [jsmnClose]
  show (if (front ++ t :: inner).length < 1 then _ else
    jsmnCloseFrom type (jsmnAt pos (front ++ t :: inner) toksuper) (front ++ t :: inner).length
      ((front ++ t :: inner).length - 1)) = _
  rw [if_neg hsome]
  exact jsmnCloseFrom_open hlinked htype hopen hinner (by omega) (by omega) (by omega)

end steps

/-! ## Runs over a text -/

section runs

variable {js rest w : Bytes} {numTokens pos : Nat} {tokens : List JsmnTok} {toksuper : Int}

/-- The one text of a punctuation mark. -/
@[simp] theorem mem_mark {b : Nat} : w ∈ mark b ↔ w = [b] := Iff.rfl

/-- The tokens written for a part of the document stand for it, inside `toksuper`. -/
structure Stands (js : Bytes) (es : List TokenEntry) (toksuper : Int) (new : List JsmnTok) : Prop where
  entries : List.Forall₂ (TokenEntry.Of js) es new
  inside : ∀ t ∈ new, toksuper ≤ t.parent

/-- No tokens stand for no entries. -/
theorem Stands.nil : Stands js [] toksuper [] := ⟨.nil, by simp⟩

/-- Tokens for two runs of entries. -/
theorem Stands.append {es es' : List TokenEntry} {new new' : List JsmnTok} (h : Stands js es toksuper new)
    (h' : Stands js es' toksuper new') : Stands js (es ++ es') toksuper (new ++ new') where
  entries := List.rel_append h.entries h'.entries
  inside t ht := (List.mem_append.mp ht).elim (h.inside t) (h'.inside t)

/-- A token for each entry. -/
theorem Stands.length {es : List TokenEntry} {new : List JsmnTok} (h : Stands js es toksuper new) :
    new.length = es.length := h.entries.length_eq.symm

/-- The tokens that stand are closed and lie below the enclosing one. -/
theorem Stands.closed {es : List TokenEntry} {new : List JsmnTok} (h : Stands js es toksuper new) :
    ∀ t ∈ new, t.stop ≠ -1 ∧ toksuper ≤ t.parent := by
  refine fun t ht => ⟨?_, h.inside t ht⟩
  obtain ⟨hentries, -⟩ := h
  induction hentries with
  | nil => simp at ht
  | @cons e t' es new hof _ ih =>
      obtain rfl | ht := List.mem_cons.mp ht
      · have hstart := hof.start
        have hstop := hof.stop
        omega
      · exact ih ht

/-- What a run over a text of the value does. -/
def ReadsValue (js : Bytes) (numTokens : Nat) (v : Json) : Prop :=
  ∀ ⦃w rest : Bytes⦄ ⦃pos : Nat⦄ ⦃tokens : List JsmnTok⦄ ⦃toksuper : Int⦄, w ∈ v.texts → js.drop pos = w ++ rest →
    (v.Closed ∨ endsPrimitive (rest.headD 0) = true) → (jsmnAt pos tokens toksuper).Linked →
    TakesValue tokens toksuper → tokens.length + v.tokenCount ≤ numTokens →
    ∃ new, (jsmnAt pos tokens toksuper).Reaches js numTokens
        (jsmnAt (pos + w.length) (countInto toksuper tokens ++ new) toksuper) ∧
      Stands js v.entries toksuper new

/-- The tokenizer reads a string. -/
theorem readsValue_string (s : Bytes) : ReadsValue js numTokens (.string s) := by
  intro w rest pos tokens toksuper hw h _ hlinked _ hroom
  have htext : js.drop pos = 34 :: (s ++ 34 :: rest) := by
    rw [h, hw.2]
    simp
  have hof := of_stringToken htext toksuper 0
  exact ⟨_, reaches_quoted hw h hlinked (Nat.lt_of_succ_le hroom), .cons hof .nil,
    by simp [stringToken]⟩

/-- The tokenizer reads a literal. -/
theorem readsValue_primitive (s : Bytes) : ReadsValue js numTokens (.primitive s) := by
  intro w rest pos tokens toksuper hw h hend hlinked hready hroom
  obtain hfalse | hend := hend
  · exact hfalse.elim
  · cases rest with
    | nil => simp [endsPrimitive] at hend
    | cons b rest =>
        have htext : js.drop pos = s ++ b :: rest := by rw [h, hw.1]
        have hof := of_literalToken htext toksuper
        exact ⟨_, reaches_literal hw h hend hlinked hready (Nat.lt_of_succ_le hroom),
          .cons hof .nil, by simp [literalToken]⟩

/-- A blank, or what follows the blanks, ends a literal. -/
theorem endsPrimitive_blanks (hw : w ∈ blanks) (hend : endsPrimitive (rest.headD 0) = true) :
    endsPrimitive ((w ++ rest).headD 0) = true := by
  cases w with
  | nil => exact hend
  | cons b w =>
      have hb : b ∈ [9, 13, 10, 32] := hw b (by simp)
      simp only [List.mem_cons, List.not_mem_nil, or_false] at hb
      rcases hb with rfl | rfl | rfl | rfl <;> rfl

/-- A value with blanks around it. -/
theorem ReadsValue.padded {v : Json} (hv : ReadsValue js numTokens v) (hw : w ∈ blanks * v.texts * blanks)
    (h : js.drop pos = w ++ rest) (hend : endsPrimitive (rest.headD 0) = true)
    (hlinked : (jsmnAt pos tokens toksuper).Linked) (hready : TakesValue tokens toksuper)
    (hroom : tokens.length + v.tokenCount ≤ numTokens) :
    ∃ new, (jsmnAt pos tokens toksuper).Reaches js numTokens
        (jsmnAt (pos + w.length) (countInto toksuper tokens ++ new) toksuper) ∧
      Stands js v.entries toksuper new := by
  obtain ⟨_, hfront, trail, htrail, rfl⟩ := Language.mem_mul.mp hw
  obtain ⟨lead, hlead, x, hx, rfl⟩ := Language.mem_mul.mp hfront
  simp only [List.append_assoc] at h
  have hfirst := reaches_blanks numTokens tokens toksuper hlead h
  have hvalue := drop_of_drop h
  obtain ⟨new, hreach, hstands⟩ :=
    hv hx hvalue (.inr (endsPrimitive_blanks htrail hend)) (hfirst.linked hlinked) hready hroom
  have hlast := reaches_blanks numTokens (countInto toksuper tokens ++ new) toksuper htrail (drop_of_drop hvalue)
  refine ⟨new, ?_, hstands⟩
  rw [List.length_append, List.length_append, ← Nat.add_assoc, ← Nat.add_assoc]
  exact (hfirst.trans hreach).trans hlast

/-! ### Arrays -/

/-- What a run over the rest of an array's elements does. -/
def ReadsMoreElems (js : Bytes) (numTokens : Nat) (vs : List Json) : Prop :=
  ∀ ⦃w rest : Bytes⦄ ⦃pos : Nat⦄ ⦃front inner : List JsmnTok⦄ ⦃t : JsmnTok⦄, w ∈ moreElemsTexts vs →
    js.drop pos = w ++ rest → endsPrimitive (rest.headD 0) = true →
    (jsmnAt pos (front ++ t :: inner) front.length).Linked → t.type = .array →
    (front ++ t :: inner).length + elemsTokenCount vs ≤ numTokens →
    ∃ new, (jsmnAt pos (front ++ t :: inner) front.length).Reaches js numTokens
        (jsmnAt (pos + w.length) (front ++ { t with size := t.size + vs.length } :: (inner ++ new)) front.length) ∧
      Stands js (elemsEntries vs) front.length new

/-- No further elements. -/
theorem readsMoreElems_nil : ReadsMoreElems js numTokens [] := by
  rintro w rest pos front inner t hw - - - - -
  obtain rfl : w = [] := hw
  exact ⟨[], by simpa using Reaches.refl, .nil⟩

/-- What follows an element ends a literal: a comma or the bracket. -/
theorem endsPrimitive_moreElems {vs : List Json} (hw : w ∈ moreElemsTexts vs)
    (hend : endsPrimitive (rest.headD 0) = true) : endsPrimitive ((w ++ rest).headD 0) = true := by
  cases vs with
  | nil =>
      obtain rfl : w = [] := hw
      exact hend
  | cons v vs =>
      obtain ⟨_, hfront, more, -, rfl⟩ := Language.mem_mul.mp hw
      obtain ⟨_, rfl, x, -, rfl⟩ := Language.mem_mul.mp hfront
      rfl

/-- One more element of an array, with the ones behind it. -/
theorem reads_elem {v : Json} {vs : List Json} (hv : ReadsValue js numTokens v)
    (hvs : ReadsMoreElems js numTokens vs) {x more : Bytes} {front inner : List JsmnTok} {t : JsmnTok}
    (hx : x ∈ blanks * v.texts * blanks) (hmore : more ∈ moreElemsTexts vs)
    (h : js.drop pos = x ++ (more ++ rest)) (hend : endsPrimitive (rest.headD 0) = true)
    (hlinked : (jsmnAt pos (front ++ t :: inner) front.length).Linked) (htype : t.type = .array)
    (hroom : (front ++ t :: inner).length + elemsTokenCount (v :: vs) ≤ numTokens) :
    ∃ new, (jsmnAt pos (front ++ t :: inner) front.length).Reaches js numTokens
        (jsmnAt (pos + x.length + more.length)
          (front ++ { t with size := t.size + (v :: vs).length } :: (inner ++ new)) front.length) ∧
      Stands js (elemsEntries (v :: vs)) front.length new := by
  rw [elemsTokenCount] at hroom
  obtain ⟨new, hreach, hstands⟩ := hv.padded hx h (endsPrimitive_moreElems hmore hend) hlinked
    (.inr ⟨front, t, inner, rfl, rfl, .inl htype⟩) (by omega)
  rw [countInto_cons, List.append_assoc, List.cons_append] at hreach
  have hnew : new.length = v.tokenCount := by rw [hstands.length, v.length_entries]
  obtain ⟨new', hreach', hstands'⟩ := hvs hmore (drop_of_drop h) hend (hreach.linked hlinked) htype
    (by simp only [List.length_append, List.length_cons] at hroom ⊢; omega)
  refine ⟨new ++ new', ?_, hstands.append hstands'⟩
  have hsize : t.size + 1 + (vs.length : Int) = t.size + ((v :: vs).length : Nat) := by simp; omega
  simp only [hsize, List.append_assoc] at hreach'
  exact hreach.trans hreach'

/-- A comma, an element, and the elements behind it. -/
theorem readsMoreElems_cons {v : Json} {vs : List Json} (hv : ReadsValue js numTokens v)
    (hvs : ReadsMoreElems js numTokens vs) : ReadsMoreElems js numTokens (v :: vs) := by
  intro w rest pos front inner t hw h hend hlinked htype hroom
  obtain ⟨_, hfront, more, hmore, rfl⟩ := Language.mem_mul.mp hw
  obtain ⟨_, rfl, x, hx, rfl⟩ := Language.mem_mul.mp hfront
  simp only [List.cons_append, List.nil_append, List.append_assoc] at h
  have hcomma : jsmnStep js numTokens 44 (jsmnAt pos (front ++ t :: inner) front.length) =
      .ok (jsmnAt pos (front ++ t :: inner) front.length) := by
    show Except.ok (jsmnComma _) = _
    rw [jsmnComma, if_neg]
    rintro ⟨-, harray, -⟩
    rw [show (jsmnAt pos (front ++ t :: inner) front.length).toksuper = front.length from rfl, tok_cons] at harray
    exact harray htype
  have hfirst := reaches_step (p := jsmnAt pos (front ++ t :: inner) front.length) h (by decide) hcomma
  obtain ⟨new, hreach, hstands⟩ := reads_elem hv hvs hx hmore (drop_succ_of_drop h) hend
    (hfirst.linked hlinked) htype hroom
  refine ⟨new, ?_, hstands⟩
  have hpos : pos + ([44] ++ x ++ more).length = pos + 1 + x.length + more.length := by
    simp
    omega
  rw [hpos]
  exact hfirst.trans hreach

/-- What a run over a text from one bracket to its match does. -/
theorem reads_bracketed {type : JsmnType} {opening closing : Nat} {es : List TokenEntry} {count : Nat}
    {body : Bytes} (hbrackets : type.brackets = some (opening, closing))
    (hopening : jsmnStep js numTokens opening = jsmnOpen numTokens type) (hopen : opening ≠ 0)
    (hclosing : jsmnStep js numTokens closing = jsmnClose type) (hclose : closing ≠ 0)
    (h : js.drop pos = opening :: (body ++ closing :: rest)) (hlinked : (jsmnAt pos tokens toksuper).Linked)
    (hready : TakesValue tokens toksuper) (hroom : tokens.length < numTokens)
    (hbody : ∀ front : List JsmnTok, front.length = tokens.length →
      (jsmnAt (pos + 1) (front ++ [openToken type pos 0 toksuper]) front.length).Linked →
      ∃ new toksuper', (jsmnAt (pos + 1) (front ++ [openToken type pos 0 toksuper]) front.length).Reaches js numTokens
          (jsmnAt (pos + 1 + body.length) (front ++ openToken type pos count toksuper :: new)
            toksuper') ∧
        Stands js es front.length new) :
    ∃ new, (jsmnAt pos tokens toksuper).Reaches js numTokens
        (jsmnAt (pos + (body.length + 2)) (countInto toksuper tokens ++ new) toksuper) ∧
      Stands js (⟨type, count, none⟩ :: es) toksuper new := by
  obtain ⟨hge, hlt⟩ : -1 ≤ toksuper ∧ toksuper < tokens.length := hlinked.toksuper
  have hlength := length_countInto toksuper tokens
  have hfirst : (jsmnAt pos tokens toksuper).Reaches js numTokens
      (jsmnAt (pos + 1) (countInto toksuper tokens ++ [openToken type pos 0 toksuper]) (countInto toksuper tokens).length) := by
    rw [hlength]
    exact reaches_step (p := jsmnAt pos tokens toksuper) h hopen
      ((congrFun hopening _).trans (jsmnOpen_takes hlinked hready hroom))
  obtain ⟨new, toksuper', hreach, hstands⟩ := hbody _ hlength (hfirst.linked hlinked)
  have hmid := hfirst.trans hreach
  have hend : js.drop (pos + 1 + body.length) = closing :: rest := drop_of_drop (drop_succ_of_drop h)
  have hlast := jsmnClose_open (hmid.linked hlinked) (show (openToken type pos count toksuper).type = type from rfl)
    ⟨show (pos : Int) ≠ -1 by omega, rfl⟩ hstands.closed
  have hstep := reaches_step (p := jsmnAt (pos + 1 + body.length)
    (countInto toksuper tokens ++ openToken type pos count toksuper :: new) toksuper') hend hclose
    ((congrFun hclosing _).trans hlast)
  have hpos : pos + (body.length + 2) = pos + 1 + body.length + 1 := by omega
  refine ⟨{ openToken type pos count toksuper with stop := (pos + 1 + body.length : Nat) + 1 } :: new, ?_,
    .cons ?_ hstands.entries, ?_⟩
  · rw [hpos]
    exact hmid.trans hstep
  · have hlength := congrArg List.length h
    simp only [List.length_drop, List.length_cons, List.length_append] at hlength
    refine ⟨rfl, rfl, by simp [openToken], by simp [openToken]; omega, by simp; omega, by simp, ?_⟩
    intro first last heq
    obtain ⟨rfl, rfl⟩ := Prod.mk.inj (Option.some.inj (hbrackets.symm.trans heq))
    refine ⟨body, ?_⟩
    have hlong : ((pos + 1 + body.length : Nat) + 1 - (pos : Int)).toNat = (opening :: (body ++ [closing])).length := by
      simp
      omega
    rw [tokText, show (openToken type pos count toksuper).start.toNat = pos from Int.toNat_natCast pos, h]
    show List.take ((pos + 1 + body.length : Nat) + 1 - (pos : Int)).toNat _ = _
    rw [hlong, show opening :: (body ++ closing :: rest) = opening :: (body ++ [closing]) ++ rest by simp,
      List.take_left]
  · intro t ht
    obtain rfl | ht := List.mem_cons.mp ht
    · exact Int.le_refl toksuper
    · exact Int.le_trans (by omega) (hstands.inside t ht)

/-- The tokenizer reads an array whose elements it reads. -/
theorem readsValue_array {vs : List Json}
    (hvs : ∀ v more, vs = v :: more → ReadsValue js numTokens v ∧ ReadsMoreElems js numTokens more) :
    ReadsValue js numTokens (.array vs) := by
  intro w rest pos tokens toksuper hw h _ hlinked hready hroom
  obtain ⟨_, hfront, _, rfl, rfl⟩ := Language.mem_mul.mp hw
  obtain ⟨_, rfl, body, hbody, rfl⟩ := Language.mem_mul.mp hfront
  rw [Json.tokenCount] at hroom
  have htext : js.drop pos = 91 :: (body ++ 93 :: rest) := by simpa using h
  have hlength : ([91] ++ body ++ [93]).length = body.length + 2 := by simp
  rw [hlength]
  have hopening : jsmnStep js numTokens 91 = jsmnOpen numTokens .array := rfl
  refine reads_bracketed rfl hopening (by decide) rfl (by decide) htext hlinked hready (by omega)
    fun front hsame hinside => ?_
  have hbodyText := drop_succ_of_drop htext
  cases vs with
  | nil =>
      exact ⟨[], front.length, by simpa [openToken] using reaches_blanks numTokens _ front.length hbody hbodyText, .nil⟩
  | cons v vs =>
      obtain ⟨x, hx, more, hmoreText, rfl⟩ := Language.mem_mul.mp hbody
      have hpieces : js.drop (pos + 1) = x ++ (more ++ 93 :: rest) := by simpa using hbodyText
      obtain ⟨hvalue, hmore⟩ := hvs v vs rfl
      obtain ⟨new, hreach, hstands⟩ := reads_elem hvalue hmore hx hmoreText hpieces rfl hinside rfl
        (by simp; omega)
      refine ⟨new, front.length, ?_, hstands⟩
      simpa [openToken, Nat.add_assoc] using hreach

/-! ### Objects -/

/-- A comma leads from the key at `toksuper` back to its object. -/
def BackTo (object : Nat) (tokens : List JsmnTok) (toksuper : Int) : Prop :=
  ∀ pos, jsmnComma (jsmnAt pos tokens toksuper) = jsmnAt pos tokens object

/-- Behind a key the enclosing token is the key. -/
theorem backTo_key {object : Nat} {k : JsmnTok} (htype : k.type = .string) (hparent : k.parent = object)
    (front back : List JsmnTok) : BackTo object (front ++ k :: back) front.length := by
  intro pos
  have htok : (jsmnAt pos (front ++ k :: back) front.length).tok front.length = k := tok_cons front k back
  have hsuper : (jsmnAt pos (front ++ k :: back) front.length).toksuper = front.length := rfl
  rw [jsmnComma, hsuper, htok, if_pos ⟨by omega, by simp [htype], by simp [htype]⟩, hparent]
  rfl

/-- The parts of a member's text. -/
theorem parts_of_memberTexts {key : Bytes} {v : Json} (hw : w ∈ memberTexts (key, v)) :
    ∃ ahead ∈ blanks, ∃ q ∈ quoted key, ∃ behind ∈ blanks, ∃ x ∈ blanks * v.texts * blanks,
      w = ahead ++ (q ++ (behind ++ 58 :: x)) := by
  obtain ⟨_, hmarked, x, hx, rfl⟩ := Language.mem_mul.mp hw
  obtain ⟨_, hcolon, _, hmark, rfl⟩ := Language.mem_mul.mp hmarked
  obtain ⟨_, hkey, behind, hbehind, rfl⟩ := Language.mem_mul.mp hcolon
  obtain ⟨ahead, hahead, q, hq, rfl⟩ := Language.mem_mul.mp hkey
  rw [mem_mark] at hmark
  exact ⟨ahead, hahead, q, hq, behind, hbehind, x, hx, by simp [hmark]⟩

/-- A key with its colon is a token that has no value yet. -/
theorem reads_key {key ahead q behind more : Bytes} (hahead : ahead ∈ blanks) (hq : q ∈ quoted key)
    (hbehind : behind ∈ blanks) (h : js.drop pos = ahead ++ (q ++ (behind ++ 58 :: more)))
    (hlinked : (jsmnAt pos tokens toksuper).Linked) (hroom : tokens.length < numTokens) :
    ∃ k : JsmnTok, (jsmnAt pos tokens toksuper).Reaches js numTokens
        (jsmnAt (pos + ahead.length + q.length + behind.length + 1) (countInto toksuper tokens ++ [k])
          (countInto toksuper tokens).length) ∧
      k.size = 0 ∧ k.parent = toksuper ∧ TokenEntry.Of js ⟨.string, 1, some key⟩ { k with size := 1 } := by
  have hkeyText := drop_of_drop h
  have hbehindText := drop_of_drop hkeyText
  have hfirst := reaches_blanks numTokens tokens toksuper hahead h
  have hkey := reaches_quoted hq hkeyText (hfirst.linked hlinked) hroom
  have hblank := reaches_blanks numTokens (countInto toksuper tokens ++ [stringToken (pos + ahead.length) key toksuper])
    toksuper hbehind hbehindText
  have hcolon := reaches_colon numTokens toksuper (countInto toksuper tokens)
    (stringToken (pos + ahead.length) key toksuper) (drop_of_drop hbehindText)
  have hstring : js.drop (pos + ahead.length) = 34 :: (key ++ 34 :: (behind ++ 58 :: more)) := by
    rw [hkeyText, hq.2]
    simp
  exact ⟨_, ((hfirst.trans hkey).trans hblank).trans hcolon, rfl, rfl, of_stringToken hstring toksuper 1⟩

/-- A key and its value. -/
theorem reads_member {key : Bytes} {v : Json} (hv : ReadsValue js numTokens v) {front inner : List JsmnTok}
    {t : JsmnTok} (hw : w ∈ memberTexts (key, v)) (h : js.drop pos = w ++ rest)
    (hend : endsPrimitive (rest.headD 0) = true) (hlinked : (jsmnAt pos (front ++ t :: inner) front.length).Linked)
    (hroom : (front ++ t :: inner).length + memberTokenCount (key, v) ≤ numTokens) :
    ∃ new toksuper', (jsmnAt pos (front ++ t :: inner) front.length).Reaches js numTokens
        (jsmnAt (pos + w.length) (front ++ { t with size := t.size + 1 } :: (inner ++ new)) toksuper') ∧
      Stands js (memberEntries (key, v)) front.length new ∧
      BackTo front.length (front ++ { t with size := t.size + 1 } :: (inner ++ new)) toksuper' := by
  obtain ⟨ahead, hahead, q, hq, behind, hbehind, x, hx, rfl⟩ := parts_of_memberTexts hw
  simp only [List.append_assoc, List.cons_append] at h
  rw [memberTokenCount] at hroom
  obtain ⟨k, hbefore, hsize, hparent, hof⟩ := reads_key hahead hq hbehind h hlinked (Nat.lt_of_lt_of_le (by omega) hroom)
  have hvalueText := drop_succ_of_drop (drop_of_drop (drop_of_drop (drop_of_drop h)))
  rw [countInto_cons] at hbefore
  have hlength : (front ++ { t with size := t.size + 1 } :: inner).length = front.length + 1 + inner.length := by
    simp
    omega
  generalize hobject : front ++ { t with size := t.size + 1 } :: inner = object at hbefore hlength
  -- the value is counted by the key
  obtain ⟨new, hreach, hstands⟩ := hv.padded hx hvalueText hend (hbefore.linked hlinked)
    (.inr ⟨object, k, [], rfl, rfl, .inr ⟨hof.type, hsize⟩⟩)
    (by simp only [List.length_append, List.length_cons, List.length_nil] at hroom ⊢; omega)
  rw [countInto_cons, hsize] at hreach
  have htokens : object ++ [{ k with size := 0 + 1 }] ++ new =
      front ++ { t with size := t.size + 1 } :: (inner ++ { k with size := 1 } :: new) := by
    simp [← hobject]
  have hpos : pos + (ahead ++ (q ++ (behind ++ 58 :: x))).length =
      pos + ahead.length + q.length + behind.length + 1 + x.length := by
    simp
    omega
  rw [htokens] at hreach
  refine ⟨{ k with size := 1 } :: new, object.length, ?_, ⟨.cons hof hstands.entries, ?_⟩, ?_⟩
  · rw [hpos]
    exact hbefore.trans hreach
  · intro u hu
    obtain rfl | hu := List.mem_cons.mp hu
    · exact hparent.ge
    · exact Int.le_trans (by omega) (hstands.inside u hu)
  · have hkey := backTo_key (k := { k with size := 1 }) hof.type hparent object new
    rwa [← htokens, List.append_assoc]

/-- What a run over the rest of an object's members does. -/
def ReadsMoreMembers (js : Bytes) (numTokens : Nat) (ms : List Member) : Prop :=
  ∀ ⦃w rest : Bytes⦄ ⦃pos : Nat⦄ ⦃front inner : List JsmnTok⦄ ⦃t : JsmnTok⦄ ⦃toksuper : Int⦄,
    w ∈ moreMembersTexts ms → js.drop pos = w ++ rest → endsPrimitive (rest.headD 0) = true →
    (jsmnAt pos (front ++ t :: inner) toksuper).Linked → BackTo front.length (front ++ t :: inner) toksuper →
    (front ++ t :: inner).length + membersTokenCount ms ≤ numTokens →
    ∃ new toksuper', (jsmnAt pos (front ++ t :: inner) toksuper).Reaches js numTokens
        (jsmnAt (pos + w.length) (front ++ { t with size := t.size + ms.length } :: (inner ++ new)) toksuper') ∧
      Stands js (membersEntries ms) front.length new

/-- No further members. -/
theorem readsMoreMembers_nil : ReadsMoreMembers js numTokens [] := by
  rintro w rest pos front inner t toksuper hw - - - - -
  obtain rfl : w = [] := hw
  exact ⟨[], toksuper, by simpa using Reaches.refl, .nil⟩

/-- What follows a member ends a literal: a comma or the brace. -/
theorem endsPrimitive_moreMembers {ms : List Member} (hw : w ∈ moreMembersTexts ms)
    (hend : endsPrimitive (rest.headD 0) = true) : endsPrimitive ((w ++ rest).headD 0) = true := by
  cases ms with
  | nil =>
      obtain rfl : w = [] := hw
      exact hend
  | cons m ms =>
      obtain ⟨_, hfront, more, -, rfl⟩ := Language.mem_mul.mp hw
      obtain ⟨_, rfl, x, -, rfl⟩ := Language.mem_mul.mp hfront
      rfl

/-- One more member of an object, with the ones behind it. -/
theorem reads_members {m : Member} {ms : List Member} (hv : ReadsValue js numTokens m.2)
    (hms : ReadsMoreMembers js numTokens ms) {x more : Bytes} {front inner : List JsmnTok} {t : JsmnTok}
    (hx : x ∈ memberTexts m) (hmore : more ∈ moreMembersTexts ms) (h : js.drop pos = x ++ (more ++ rest))
    (hend : endsPrimitive (rest.headD 0) = true) (hlinked : (jsmnAt pos (front ++ t :: inner) front.length).Linked)
    (hroom : (front ++ t :: inner).length + membersTokenCount (m :: ms) ≤ numTokens) :
    ∃ new toksuper', (jsmnAt pos (front ++ t :: inner) front.length).Reaches js numTokens
        (jsmnAt (pos + x.length + more.length)
          (front ++ { t with size := t.size + (m :: ms).length } :: (inner ++ new)) toksuper') ∧
      Stands js (membersEntries (m :: ms)) front.length new := by
  obtain ⟨key, v⟩ := m
  rw [membersTokenCount] at hroom
  obtain ⟨new, toksuper', hreach, hstands, hback⟩ :=
    reads_member hv hx h (endsPrimitive_moreMembers hmore hend) hlinked
      (show (front ++ t :: inner).length + memberTokenCount (key, v) ≤ numTokens by omega)
  have hnew : new.length = memberTokenCount (key, v) := by
    rw [hstands.length, memberEntries, List.length_cons, v.length_entries, memberTokenCount, Nat.add_comm]
  obtain ⟨new', toksuper'', hreach', hstands'⟩ := hms hmore (drop_of_drop h) hend (hreach.linked hlinked) hback
    (by simp only [List.length_append, List.length_cons] at hroom ⊢; omega)
  refine ⟨new ++ new', toksuper'', ?_, hstands.append hstands'⟩
  have hsize : t.size + 1 + (ms.length : Int) = t.size + (((key, v) :: ms).length : Nat) := by
    simp
    omega
  simp only [hsize, List.append_assoc] at hreach'
  exact hreach.trans hreach'

/-- A comma, a member, and the members behind it. -/
theorem readsMoreMembers_cons {m : Member} {ms : List Member} (hv : ReadsValue js numTokens m.2)
    (hms : ReadsMoreMembers js numTokens ms) : ReadsMoreMembers js numTokens (m :: ms) := by
  intro w rest pos front inner t toksuper hw h hend hlinked hback hroom
  obtain ⟨_, hfront, more, hmore, rfl⟩ := Language.mem_mul.mp hw
  obtain ⟨_, rfl, x, hx, rfl⟩ := Language.mem_mul.mp hfront
  simp only [List.cons_append, List.nil_append, List.append_assoc] at h
  have hcomma : jsmnStep js numTokens 44 (jsmnAt pos (front ++ t :: inner) toksuper) =
      .ok (jsmnAt pos (front ++ t :: inner) front.length) := congrArg Except.ok (hback pos)
  have hfirst := reaches_step (p := jsmnAt pos (front ++ t :: inner) toksuper) h (by decide) hcomma
  obtain ⟨new, toksuper', hreach, hstands⟩ := reads_members hv hms hx hmore (drop_succ_of_drop h) hend
    (hfirst.linked hlinked) hroom
  refine ⟨new, toksuper', ?_, hstands⟩
  have hpos : pos + ([44] ++ x ++ more).length = pos + 1 + x.length + more.length := by
    simp
    omega
  rw [hpos]
  exact hfirst.trans hreach

/-- The tokenizer reads an object whose values it reads. -/
theorem readsValue_object {ms : List Member}
    (hms : ∀ m more, ms = m :: more → ReadsValue js numTokens m.2 ∧ ReadsMoreMembers js numTokens more) :
    ReadsValue js numTokens (.object ms) := by
  intro w rest pos tokens toksuper hw h _ hlinked hready hroom
  obtain ⟨_, hfront, _, rfl, rfl⟩ := Language.mem_mul.mp hw
  obtain ⟨_, rfl, body, hbody, rfl⟩ := Language.mem_mul.mp hfront
  rw [Json.tokenCount] at hroom
  have htext : js.drop pos = 123 :: (body ++ 125 :: rest) := by simpa using h
  have hlength : ([123] ++ body ++ [125]).length = body.length + 2 := by simp
  rw [hlength]
  have hopening : jsmnStep js numTokens 123 = jsmnOpen numTokens .object := rfl
  refine reads_bracketed rfl hopening (by decide) rfl (by decide) htext hlinked hready (by omega)
    fun front hsame hinside => ?_
  have hbodyText := drop_succ_of_drop htext
  cases ms with
  | nil =>
      exact ⟨[], front.length, by simpa [openToken] using reaches_blanks numTokens _ front.length hbody hbodyText, .nil⟩
  | cons m ms =>
      obtain ⟨x, hx, more, hmoreText, rfl⟩ := Language.mem_mul.mp hbody
      have hpieces : js.drop (pos + 1) = x ++ (more ++ 125 :: rest) := by simpa using hbodyText
      obtain ⟨hvalue, hmore⟩ := hms m ms rfl
      obtain ⟨new, toksuper', hreach, hstands⟩ := reads_members hvalue hmore hx hmoreText hpieces rfl hinside
        (by simp; omega)
      refine ⟨new, toksuper', ?_, hstands⟩
      simpa [openToken, Nat.add_assoc] using hreach

/-! ### Documents -/

mutual

/-- **Run**: over a text of a value the tokenizer writes the tokens of the value. -/
theorem readsValue (js : Bytes) (numTokens : Nat) : ∀ v : Json, ReadsValue js numTokens v
  | .object [] => readsValue_object (by simp)
  | .object ((_, v) :: ms) => readsValue_object fun _ _ heq => by
      cases heq
      exact ⟨readsValue js numTokens v, readsMoreMembers js numTokens ms⟩
  | .array [] => readsValue_array (by simp)
  | .array (v :: vs) => readsValue_array fun _ _ heq => by
      cases heq
      exact ⟨readsValue js numTokens v, readsMoreElems js numTokens vs⟩
  | .string s => readsValue_string s
  | .primitive s => readsValue_primitive s

/-- The tokenizer reads any members. -/
theorem readsMoreMembers (js : Bytes) (numTokens : Nat) : ∀ ms : List Member, ReadsMoreMembers js numTokens ms
  | [] => readsMoreMembers_nil
  | (_, v) :: ms => readsMoreMembers_cons (readsValue js numTokens v) (readsMoreMembers js numTokens ms)

/-- The tokenizer reads any elements. -/
theorem readsMoreElems (js : Bytes) (numTokens : Nat) : ∀ vs : List Json, ReadsMoreElems js numTokens vs
  | [] => readsMoreElems_nil
  | v :: vs => readsMoreElems_cons (readsValue js numTokens v) (readsMoreElems js numTokens vs)

end

/-- The tokenizer has read a document to its end. -/
theorem reaches_document {v : Json} (hw : js ∈ v.documents) (hroom : v.tokenCount ≤ numTokens) :
    ∃ tokens, jsmnInit.Reaches js numTokens (jsmnAt js.length tokens (-1)) ∧ Stands js v.entries (-1) tokens := by
  obtain ⟨lead, hlead, body, hbody, trail, htrail, hjs, hclosed⟩ := hw
  have htext : js.drop 0 = lead ++ (body ++ trail) := by simp [hjs]
  have hfirst := reaches_blanks numTokens [] (-1) hlead htext
  have hbodyText := drop_of_drop htext
  have hend : v.Closed ∨ endsPrimitive (trail.headD 0) = true := by
    refine hclosed.imp_right fun hne => ?_
    cases trail with
    | nil => exact absurd rfl hne
    | cons b trail =>
        have hblank : [b] ∈ blanks := fun d hd => htrail d (by simp_all)
        simpa using endsPrimitive_blanks hblank (show endsPrimitive ([44].headD 0) = true from rfl)
  have hlinked := hfirst.linked linked_jsmnInit
  obtain ⟨new, hreach, hstands⟩ := readsValue js numTokens v hbody hbodyText hend hlinked (.inl rfl) (by simpa using hroom)
  have htrailText := drop_of_drop hbodyText
  have hlength : js.length = 0 + lead.length + body.length + trail.length := by
    simp [hjs, Nat.add_assoc]
  have hlast := reaches_blanks numTokens (countInto (-1) [] ++ new) (-1) htrail
    (htrailText.trans (List.append_nil trail).symm)
  rw [← hlength] at hlast
  exact ⟨new, (hfirst.trans hreach).trans hlast, hstands⟩

end runs

end ThermalCore
