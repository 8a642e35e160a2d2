import ThermalCore.Linux.JsonText

/-!
# From the text to the configuration

`thermal_config_jsmn_parse` of `platform/linux/config_jsmn.c` on the text of a document:
the tokens are those of the document, or there are too many of them, and the two
passes over them are the passes over the document.

The token array has a fixed size.  The first part compares a run with room for all
tokens to the run with the real budget: they go together until a token does not fit,
and then the real one stops with `JSMN_ERROR_NOMEM`.  The second part puts the
tokenizer's result and the agreement of the parsers together.
-/

namespace ThermalCore

open Check MachineInt

/-! ## The token budget -/

/-- With room for `numTokens` tokens only, `y` does what `x` does from `p` on, or
reports that they do not fit. -/
def Budgeted (numTokens : Nat) (p : JsmnParser) (x y : Except JsmnError JsmnParser) : Prop :=
  ∀ q, x = .ok q → p.tokens.length ≤ q.tokens.length ∧
    (p.tokens.length ≤ numTokens → y = if q.tokens.length ≤ numTokens then .ok q else .error .nomem)

section budget

variable {js : Bytes} {room numTokens : Nat} {p : JsmnParser}

/-- A step that adds no token. -/
theorem budgeted_same {x : Except JsmnError JsmnParser}
    (h : ∀ q, x = .ok q → q.tokens.length = p.tokens.length) : Budgeted numTokens p x x := by
  intro q hq
  have hlength := h q hq
  exact ⟨hlength.ge, fun hfits => by rw [hq, if_pos (by omega)]⟩

/-- A token that fits is added on both sides, one that does not ends the run. -/
theorem push_budgeted (t : JsmnTok) {f : JsmnParser → Except JsmnError JsmnParser}
    (hf : ∀ q q', f q = .ok q' → q'.tokens.length = q.tokens.length) :
    Budgeted numTokens p (p.push room t >>= f) (p.push numTokens t >>= f) := by
  intro q hq
  obtain ⟨r, hr, hfr⟩ := exists_of_bind_eq_ok hq
  have hlength := hf r q hfr
  rw [JsmnParser.push] at hr
  split_ifs at hr with hfull
  obtain rfl := Except.ok.inj hr
  simp only [List.length_append, List.length_singleton] at hlength
  refine ⟨by omega, fun hfits => ?_⟩
  rw [JsmnParser.push]
  by_cases hnone : numTokens ≤ p.tokens.length
  · rw [if_pos hnone, if_neg (by omega)]
    rfl
  · rw [if_neg hnone, if_pos (by omega)]
    exact hfr

/-- An opening bracket within the budget. -/
theorem jsmnOpen_budgeted (type : JsmnType) :
    Budgeted numTokens p (jsmnOpen room type p) (jsmnOpen numTokens type p) := by
  refine push_budgeted _ fun q q' hq => ?_
  split_ifs at hq
  rw [← Except.ok.inj hq]
  exact q.length_countChild

/-- A string within the budget. -/
theorem jsmnString_budgeted :
    Budgeted numTokens p (jsmnParseString js room p >>= fun q => .ok q.countChild)
      (jsmnParseString js numTokens p >>= fun q => .ok q.countChild) := by
  unfold jsmnParseString
  cases scanString js js.length (p.pos + 1) with
  | error e => exact fun q hq => nomatch hq
  | ok stop =>
      simp only [bind_assoc]
      exact push_budgeted _ fun q q' hq => by rw [← Except.ok.inj hq, JsmnParser.length_countChild]

/-- A primitive within the budget. -/
theorem jsmnPrimitive_budgeted :
    Budgeted numTokens p (jsmnPrimitive js room p) (jsmnPrimitive js numTokens p) := by
  unfold jsmnPrimitive
  dsimp only
  split_ifs
  · intro q hq
    cases hq
  · unfold jsmnParsePrimitive
    cases scanPrimitive js js.length p.pos with
    | error e => exact fun q hq => nomatch hq
    | ok stop =>
        simp only [bind_assoc]
        exact push_budgeted _ fun q q' hq => by rw [← Except.ok.inj hq, JsmnParser.length_countChild]

/-- Closing adds no token. -/
theorem jsmnCloseFrom_length {type : JsmnType} {fuel : Nat} {i : Int} {q : JsmnParser}
    (h : jsmnCloseFrom type p fuel i = .ok q) : q.tokens.length = p.tokens.length := by
  induction fuel generalizing i with
  | zero => simp [jsmnCloseFrom] at h
  | succ fuel ih =>
      rw [jsmnCloseFrom] at h
      split_ifs at h
      · rw [← Except.ok.inj h]
        simp
      · rw [← Except.ok.inj h]
      · exact ih h

/-- A closing bracket adds no token. -/
theorem jsmnClose_length {type : JsmnType} {q : JsmnParser} (h : jsmnClose type p = .ok q) :
    q.tokens.length = p.tokens.length := by
  rw [jsmnClose] at h
  split_ifs at h
  exact jsmnCloseFrom_length h

/-- **Step**: a byte. -/
theorem jsmnStep_budgeted (c : Nat) :
    Budgeted numTokens p (jsmnStep js room c p) (jsmnStep js numTokens c p) := by
  unfold jsmnStep
  split_ifs
  · exact jsmnOpen_budgeted .object
  · exact jsmnOpen_budgeted .array
  · exact budgeted_same fun q hq => jsmnClose_length hq
  · exact budgeted_same fun q hq => jsmnClose_length hq
  · exact jsmnString_budgeted
  · exact budgeted_same fun q hq => by rw [← Except.ok.inj hq]
  · exact budgeted_same fun q hq => by rw [← Except.ok.inj hq]
  · refine budgeted_same fun q hq => ?_
    rw [← Except.ok.inj hq, jsmnComma]
    split_ifs <;> rfl
  · exact jsmnPrimitive_budgeted
  · intro q hq
    cases hq

/-- **Run**: a smaller token array changes nothing but that the tokens may not fit. -/
theorem jsmnLoop_budgeted (left : Nat) :
    Budgeted numTokens p (jsmnLoop js room left p) (jsmnLoop js numTokens left p) := by
  induction left generalizing p with
  | zero => exact budgeted_same fun q hq => by rw [← Except.ok.inj hq]
  | succ left ih =>
      unfold jsmnLoop
      split
      · exact budgeted_same fun q hq => by rw [← Except.ok.inj hq]
      · intro q hq
        obtain ⟨r, hr, hq⟩ := exists_of_bind_eq_ok hq
        obtain ⟨hmono, hstep⟩ := jsmnStep_budgeted _ r hr
        obtain ⟨hmono', hloop⟩ := ih q hq
        refine ⟨Nat.le_trans hmono hmono', fun hfits => ?_⟩
        rw [hstep hfits]
        by_cases hroom : r.tokens.length ≤ numTokens
        · rw [if_pos hroom]
          exact hloop hroom
        · rw [if_neg hroom, if_neg (fun hsmall => hroom (Nat.le_trans hmono' hsmall))]
          rfl

end budget

/-! ## Documents -/

section documents

variable {js json : Bytes} {numTokens : Nat} {root : Json}

/-- At the end of the text the loop is done. -/
theorem jsmnLoop_end (numTokens left : Nat) (tokens : List JsmnTok) (toksuper : Int) :
    jsmnLoop js numTokens left (jsmnAt js.length tokens toksuper) = .ok (jsmnAt js.length tokens toksuper) := by
  cases left with
  | zero => rfl
  | succ left => simp [jsmnLoop, jsmnAt, List.getD_eq_getElem?_getD]

/-- With room for all tokens the tokenizer ends behind the text with the document's tokens. -/
theorem jsmnLoop_document (hjs : js ∈ root.documents) (hroom : root.tokenCount ≤ numTokens) :
    ∃ tokens, jsmnLoop js numTokens js.length jsmnInit = .ok (jsmnAt js.length tokens (-1)) ∧
      Stands js root.entries (-1) tokens := by
  obtain ⟨tokens, ⟨rounds, hreach⟩, hstands⟩ := reaches_document hjs hroom
  refine ⟨tokens, ?_, hstands⟩
  have hfuel : jsmnLoop js numTokens js.length jsmnInit = jsmnLoop js numTokens (js.length + rounds) jsmnInit :=
    jsmnLoop_fuel linked_jsmnInit (by simp [jsmnInit]) (by simp [jsmnInit])
  rw [hfuel, hreach js.length, jsmnLoop_end]

/-- **The tokens of a text** are those of its document, whatever its blanks; they are
refused when there is no room for them, and for nothing else. -/
theorem jsmnParse_document (hjs : js ∈ root.documents) (numTokens : Nat) :
    if root.tokenCount ≤ numTokens then
      ∃ tokens, jsmnParse js numTokens = .ok (root.tokenCount, tokens) ∧
        List.Forall₂ (TokenEntry.Of js) root.entries tokens
    else jsmnParse js numTokens = .error .nomem := by
  obtain ⟨tokens, hloop, hstands⟩ := jsmnLoop_document hjs (Nat.le_refl root.tokenCount)
  have hcount : tokens.length = root.tokenCount := by rw [hstands.length, root.length_entries]
  have hsmall : jsmnLoop js numTokens js.length jsmnInit =
      if tokens.length ≤ numTokens then .ok (jsmnAt js.length tokens (-1)) else .error .nomem :=
    (jsmnLoop_budgeted js.length _ hloop).2 (Nat.zero_le _)
  rw [hcount] at hsmall
  split_ifs with hroom
  · rw [if_pos hroom] at hsmall
    have hclosed : (tokens.any fun t => t.start != -1 && t.stop == -1) = false := by
      simp only [List.any_eq_false]
      intro t ht
      simp [(hstands.closed t ht).1]
    refine ⟨tokens, ?_, hstands.entries⟩
    rw [jsmnParse, hsmall]
    show (if (tokens.any fun t => t.start != -1 && t.stop == -1) = true then _ else Except.ok (tokens.length, tokens)) = _
    rw [hclosed, hcount]
    rfl
  · rw [if_neg hroom] at hsmall
    rw [jsmnParse, hsmall]
    rfl

/-- A document with one key. -/
def versionOnly : Json := .object [(ascii "config_version", .primitive (ascii "1"))]

/-- A text of it, with blanks. -/
def versionOnlySpaced : Bytes := ascii "\x7b \"config_version\" : 1\n\x7d\n"

/-- A small document's text with blanks in it. -/
theorem versionOnlySpaced_mem : versionOnlySpaced ∈ versionOnly.documents := by
  have hkey : ascii "\"config_version\"" ∈ quoted (ascii "config_version") :=
    ⟨.of_plain (by decide), by decide⟩
  have hvalue : ascii "1" ∈ (Json.primitive (ascii "1")).texts :=
    ⟨rfl, ⟨49, [], by decide, by decide⟩, by decide⟩
  have hblank : [32] ∈ blanks := fun b hb => by simp_all
  have hline : [10] ∈ blanks := fun b hb => by simp_all
  have hcolon := Language.append_mem_mul (Language.append_mem_mul (Language.append_mem_mul hblank hkey) hblank)
    (show [58] ∈ mark 58 from rfl)
  have hpadded := Language.append_mem_mul (Language.append_mem_mul hblank hvalue) hline
  have hmembers := Language.append_mem_mul (Language.append_mem_mul hcolon hpadded) (show [] ∈ (1 : Language Nat) from rfl)
  have hbody := Language.append_mem_mul (Language.append_mem_mul (show [123] ∈ mark 123 from rfl) hmembers)
    (show [125] ∈ mark 125 from rfl)
  exact ⟨[], fun b hb => by simp at hb, _, hbody, [10], hline, by decide, .inl trivial⟩

/-- On that text three tokens suffice and two do not. -/
theorem jsmnParse_document_versionOnly :
    (∃ tokens, jsmnParse versionOnlySpaced 3 = .ok (3, tokens) ∧
        List.Forall₂ (TokenEntry.Of versionOnlySpaced) versionOnly.entries tokens) ∧
      jsmnParse versionOnlySpaced 2 = .error .nomem :=
  ⟨jsmnParse_document versionOnlySpaced_mem 3, jsmnParse_document versionOnlySpaced_mem 2⟩

/-- The token array holds what was written to it. -/
theorem holds_tokenArray {tokens : List JsmnTok} (hof : List.Forall₂ (TokenEntry.Of json) root.entries tokens)
    (stack : Int → JsmnTok) :
    ParseCtx.Holds ⟨json, tokenArray tokens stack, root.tokenCount⟩ 0 root.entries where
  start := Int.le_refl 0
  fits := by simp [root.length_entries]
  held i e he := by
    obtain ⟨hlength, hat⟩ := List.forall₂_iff_get.mp hof
    obtain ⟨hi, hget⟩ := List.getElem?_eq_some_iff.mp he
    have hlt : i < tokens.length := hlength ▸ hi
    have htoken : tokenArray tokens stack (0 + i) = tokens.get ⟨i, hlt⟩ := by
      simp [tokenArray, List.getD_eq_getElem?_getD, List.getElem?_eq_getElem hlt]
    show TokenEntry.Of json e (tokenArray tokens stack (0 + i))
    rw [htoken, ← hget]
    exact hat i hi hlt

/-- **From the text to the configuration**: on every text of a document, with blanks
where JSON has them, the loader ends as the two passes over the document do: with the
same configuration, or with the same status and error text. -/
theorem thermalConfigJsmnScan_document (hjson : json ∈ root.documents) (runtime : Bool) (stack : Int → JsmnTok) :
    (thermalConfigJsmnScan runtime stack json).result = thermalConfigJsmnParse runtime json.length root := by
  unfold thermalConfigJsmnScan thermalConfigJsmnParse
  by_cases hlong : (json.length : Int) > i32Max
  · rw [if_pos hlong, if_pos hlong]
    rfl
  · rw [if_neg hlong, if_neg hlong]
    have hparse := jsmnParse_document hjson jsmnMaxTokens
    by_cases hroom : root.tokenCount ≤ jsmnMaxTokens
    · rw [if_pos hroom] at hparse
      obtain ⟨tokens, hparse, hof⟩ := hparse
      have hpos : 0 < root.tokenCount := by cases root <;> simp [Json.tokenCount]
      rw [hparse, if_neg (Nat.not_lt.mpr hroom)]
      show (Logged.result (if root.tokenCount < 1 then _ else _)) = _
      rw [if_neg (by omega), ParseCtx.result_loadConfig runtime (holds_tokenArray hof stack)]
      cases root <;> rfl
    · rw [if_neg hroom] at hparse
      rw [hparse, if_pos (Nat.lt_of_not_le hroom)]
      rfl

/-- On that text the loader misses the control period. -/
theorem thermalConfigJsmnScan_document_versionOnly :
    (thermalConfigJsmnScan true (fun _ => default) versionOnlySpaced).result =
      setErr .errInvalidArg (ascii "$") "required field 'control_period_ms' missing" :=
  thermalConfigJsmnScan_document versionOnlySpaced_mem true _

end documents

end ThermalCore
