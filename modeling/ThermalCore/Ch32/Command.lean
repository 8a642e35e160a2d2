import ThermalCore.Lib.BlockBuffer
import ThermalCore.Lib.Lines
import ThermalCore.Lib.Machine
import ThermalCore.Lib.MachineInt
import Mathlib.Data.List.TakeWhile

/-!
# The CH32 host-command console

`platform/ch32v003/ch32_command.c`.  Bytes are collected up to a terminator, and
the buffer is then parsed as a C string.  A line is parsed by the grammar of the
header, except that the string ends at the first NUL byte of the line.

The receiver is `Lib.Lines` at the buffer of the source: bytes past its end are dropped
and the line refused.  `parsesLines_iff` ties the console to the grammar, stream by
stream: the two agree exactly when no line of the stream hides bytes behind a NUL.
-/

namespace ThermalCore

open MachineInt Lines

/-! ## The parser -/

inductive Ch32CommandType where
  | none | loopOn | loopOff | pwmset | pwmget | rpmget | ping | error
deriving DecidableEq, Repr

/-- `ch32_command_t`. -/
structure Ch32Command where
  type : Ch32CommandType
  arg : Nat
deriving DecidableEq, Repr

/-- The bytes of a literal. -/
def literal (text : String) : List UInt8 := text.toList.map fun c => UInt8.ofNat c.toNat

def isBlank (b : UInt8) : Bool := b = 32 || b = 9

def isDecimal (b : UInt8) : Bool := 48 ≤ b && b ≤ 57

/-- A C string is the list of its bytes before the NUL. -/
def skipWs (p : List UInt8) : List UInt8 := p.dropWhile isBlank

def matchTok : List UInt8 → List UInt8 → Option (List UInt8)
  | [], [] => some []
  | b :: p, [] => if isBlank b then some (b :: p) else none
  | [], _ :: _ => none
  | b :: p, l :: lit => if b ≠ l then none else matchTok p lit

/-- The loop of `parse_u8`. -/
def parseU8Digits (v : Nat) : List UInt8 → Option (Nat × List UInt8)
  | [] => some (v, [])
  | b :: p =>
      if isDecimal b then
        let v := u16 (v * 10 + (b.toNat - 48))
        if 255 < v then none else parseU8Digits v p
      else some (v, b :: p)

def parseU8 (p : List UInt8) : Option (Nat × List UInt8) :=
  match parseU8Digits 0 p with
  | none => none
  | some (v, q) => if q.length = p.length then none else some (v, q)

/-- The end of a command without an argument. -/
def endCommand (type : Ch32CommandType) (q : List UInt8) : Ch32Command :=
  ⟨if skipWs q = [] then type else .error, 0⟩

def ch32CommandParse (line : List UInt8) : Ch32Command :=
  let p := skipWs line
  if p = [] then ⟨.none, 0⟩
  else
    match matchTok p (literal "pwmget") with
    | some q => endCommand .pwmget q
    | none =>
    match matchTok p (literal "rpmget") with
    | some q => endCommand .rpmget q
    | none =>
    match matchTok p (literal "ping") with
    | some q => endCommand .ping q
    | none =>
    match matchTok p (literal "pwmset") with
    | some q =>
        match parseU8 (skipWs q) with
        | some (v, q) => if skipWs q = [] then ⟨.pwmset, v⟩ else ⟨.error, 0⟩
        | none => ⟨.error, 0⟩
    | none =>
    match matchTok p (literal "loop") with
    | some q =>
        let a := skipWs q
        if ∃ r ∈ matchTok a (literal "on"), skipWs r = [] then ⟨.loopOn, 0⟩
        else if ∃ r ∈ matchTok a (literal "off"), skipWs r = [] then ⟨.loopOff, 0⟩
        else ⟨.error, 0⟩
    | none => ⟨.error, 0⟩

/-! ## The receiver -/

abbrev ch32CmdLineMax : Nat := 32

/-- `ch32_command_rx_t`. -/
structure Ch32CommandRx where
  buf : Vector UInt8 ch32CmdLineMax
  len : Nat
  overflowed : Bool

def Ch32CommandRx.zeroed : Ch32CommandRx := ⟨default, 0, false⟩

/-- A line terminator, `'\n'` or `'\r'`. -/
def isEol (c : UInt8) : Bool := c = 10 || c = 13

/-- The C string an array holds. -/
def bufferString {n : Nat} (buf : Vector UInt8 n) : List UInt8 := buf.toList.takeWhile (· ≠ 0)

def ch32CommandFeed (rx : Ch32CommandRx) (c : UInt8) : Ch32CommandRx × Option Ch32Command :=
  if isEol c then
    if rx.overflowed then ({ rx with len := 0, overflowed := false }, some ⟨.error, 0⟩)
    else
      let buf := rx.buf.put rx.len 0
      ({ buf := buf, len := 0, overflowed := false }, some (ch32CommandParse (bufferString buf)))
  else if rx.len < u8 (ch32CmdLineMax - 1) then
    ({ rx with buf := rx.buf.put rx.len c, len := rx.len + 1 }, none)
  else ({ rx with overflowed := true }, none)

/-! ## The grammar -/

/-- The command a sentence of the grammar stands for; blanks around the words are
tolerated, and what is no sentence is an error. -/
def sentence : List (List UInt8) → Ch32Command
  | [] => ⟨.none, 0⟩
  | [verb] =>
      if verb = literal "pwmget" then ⟨.pwmget, 0⟩
      else if verb = literal "rpmget" then ⟨.rpmget, 0⟩
      else if verb = literal "ping" then ⟨.ping, 0⟩
      else ⟨.error, 0⟩
  | [verb, arg] =>
      let duty := decimalAfter 0 (arg.map (·.toNat - 48))
      if verb = literal "pwmset" ∧ arg.all isDecimal ∧ duty ≤ 255 then ⟨.pwmset, duty⟩
      else if verb = literal "loop" ∧ arg = literal "on" then ⟨.loopOn, 0⟩
      else if verb = literal "loop" ∧ arg = literal "off" then ⟨.loopOff, 0⟩
      else ⟨.error, 0⟩
  | _ => ⟨.error, 0⟩

/-- What the grammar makes of a line, every byte of it included. -/
def lineCommand (line : List UInt8) : Ch32Command :=
  if ch32CmdLineMax - 1 < line.length then ⟨.error, 0⟩ else sentence (words isBlank line)

/-! ## The parser keeps to the grammar -/

/-- The word a text starts with. -/
def firstWord (p : List UInt8) : List UInt8 := p.takeWhile (!isBlank ·)

def afterWord (p : List UInt8) : List UInt8 := p.dropWhile (!isBlank ·)

theorem firstWord_append_afterWord (p : List UInt8) : firstWord p ++ afterWord p = p :=
  List.takeWhile_append_dropWhile

theorem skipWs_eq_nil_iff {p : List UInt8} : skipWs p = [] ↔ words isBlank p = [] :=
  words_eq_nil_iff.symm

theorem words_of_skipWs {p : List UInt8} (h : skipWs p ≠ []) :
    words isBlank p = firstWord (skipWs p) :: words isBlank (afterWord (skipWs p)) := by
  obtain ⟨b, rest, hcons⟩ := List.exists_cons_of_ne_nil h
  rw [words_of_dropWhile hcons, hcons]
  rfl

theorem noBlank_of_all {lit : List UInt8} (h : lit.all (fun b => !isBlank b) = true) :
    ∀ b ∈ lit, isBlank b = false := by
  simpa using h

/-- **A token** matches exactly where it is the word in front. -/
theorem matchTok_eq {lit : List UInt8} (hlit : ∀ b ∈ lit, isBlank b = false) (p : List UInt8) :
    matchTok p lit = if firstWord p = lit then some (afterWord p) else none := by
  induction lit generalizing p with
  | nil =>
      cases p with
      | nil => rfl
      | cons b p => cases hb : isBlank b <;> simp [matchTok, firstWord, afterWord, hb]
  | cons l lit ih =>
      have hl : isBlank l = false := hlit l (List.mem_cons_self ..)
      cases p with
      | nil => simp [matchTok, firstWord]
      | cons b p =>
          have hrest := ih (fun c hc => hlit c (List.mem_cons_of_mem l hc)) p
          by_cases heq : b = l
          · rw [matchTok, if_neg (not_not.mpr heq), hrest, heq]
            by_cases hword : firstWord p = lit
            · rw [if_pos hword, ← hword]
              simp [firstWord, afterWord, hl]
            · rw [if_neg hword]
              simpa [firstWord, hl] using hword
          · cases hb : isBlank b <;> simp [matchTok, firstWord, heq, hb]

/-- The value of decimal digits. -/
def dutyValue (v : Nat) (ds : List UInt8) : Nat := decimalAfter v (ds.map (·.toNat - 48))

theorem parseU8Digits_eq {v : Nat} (hv : v ≤ 255) (p : List UInt8) :
    parseU8Digits v p =
      if dutyValue v (p.takeWhile isDecimal) ≤ 255 then
        some (dutyValue v (p.takeWhile isDecimal), p.dropWhile isDecimal)
      else none := by
  induction p generalizing v with
  | nil => simp [parseU8Digits, dutyValue, decimalAfter, hv]
  | cons b p ih =>
      cases hb : isDecimal b with
      | false => simp [parseU8Digits, hb, dutyValue, decimalAfter, hv]
      | true =>
          have hbyte : b.toNat < 256 := b.toNat_lt
          have hu16 : u16 (v * 10 + (b.toNat - 48)) = v * 10 + (b.toNat - 48) :=
            Nat.mod_eq_of_lt (by omega)
          have hcons : dutyValue v (b :: p.takeWhile isDecimal) =
              dutyValue (v * 10 + (b.toNat - 48)) (p.takeWhile isDecimal) := rfl
          have hgrow : v * 10 + (b.toNat - 48) ≤
              dutyValue (v * 10 + (b.toNat - 48)) (p.takeWhile isDecimal) := le_decimalAfter _ _
          rw [parseU8Digits, if_pos hb, hu16, List.takeWhile_cons_of_pos hb,
            List.dropWhile_cons_of_pos hb, hcons]
          dsimp only
          by_cases hbig : 255 < v * 10 + (b.toNat - 48)
          · rw [if_pos hbig, if_neg (by omega)]
          · rw [if_neg hbig, ih (by omega)]

theorem parseU8_eq (p : List UInt8) :
    parseU8 p =
      if p.takeWhile isDecimal ≠ [] ∧ dutyValue 0 (p.takeWhile isDecimal) ≤ 255 then
        some (dutyValue 0 (p.takeWhile isDecimal), p.dropWhile isDecimal)
      else none := by
  have hlength : (p.dropWhile isDecimal).length = p.length ↔ p.takeWhile isDecimal = [] := by
    have hcut := congrArg List.length (@List.takeWhile_append_dropWhile _ isDecimal p)
    rw [List.length_append] at hcut
    rw [← List.length_eq_zero_iff]
    omega
  rw [parseU8, parseU8Digits_eq (by decide)]
  by_cases hbig : dutyValue 0 (p.takeWhile isDecimal) ≤ 255
  · rw [if_pos hbig]
    by_cases hnone : p.takeWhile isDecimal = [] <;> simp [hbig, hlength, hnone]
  · simp [hbig]

section argument

variable {p : List UInt8}

theorem isDecimal_not_blank {b : UInt8} (h : isDecimal b = true) : isBlank b = false := by
  revert h
  unfold isDecimal isBlank
  simp only [Bool.and_eq_true, decide_eq_true_eq, Bool.or_eq_false_iff, decide_eq_false_iff_not]
  intro h
  constructor
  · rintro rfl
    exact absurd h.1 (by decide)
  · rintro rfl
    exact absurd h.1 (by decide)

theorem head_afterWord : ∀ b ∈ (afterWord p).head?, isBlank b = true := by
  intro b hb
  have hhead := List.head?_dropWhile_not (!isBlank ·) p
  rw [Option.mem_def, afterWord] at hb
  simpa [hb] using hhead

/-- The number in front of a text is its first word, if that is all digits. -/
theorem takeWhile_isDecimal (h : ∀ b ∈ firstWord p, isDecimal b = true) :
    p.takeWhile isDecimal = firstWord p ∧ p.dropWhile isDecimal = afterWord p := by
  have hrest : (afterWord p).takeWhile isDecimal = [] ∧ (afterWord p).dropWhile isDecimal = afterWord p := by
    have hhead := @head_afterWord p
    cases hafter : afterWord p with
    | nil => exact ⟨rfl, rfl⟩
    | cons b rest =>
        have hb : isDecimal b = false := by
          rw [← Bool.not_eq_true]
          intro hdigit
          have hblank : isBlank b = true := hhead b (by simp [hafter])
          rw [isDecimal_not_blank hdigit] at hblank
          exact absurd hblank (by decide)
        simp [hb]
  have hcut := firstWord_append_afterWord p
  constructor
  · rw [← hcut, List.takeWhile_append_of_pos h, hrest.1, List.append_nil, hcut]
  · rw [← hcut, List.dropWhile_append_of_pos h, hrest.2, hcut]

/-- Otherwise a byte of the word is left. -/
theorem skipWs_dropWhile_isDecimal (h : ¬∀ b ∈ firstWord p, isDecimal b = true) :
    skipWs (p.dropWhile isDecimal) ≠ [] := by
  induction p with
  | nil => exact absurd (fun b hb => by simp [firstWord] at hb) h
  | cons b p ih =>
      cases hblank : isBlank b with
      | true => exact absurd (fun c hc => by simp [firstWord, hblank] at hc) h
      | false =>
          cases hdigit : isDecimal b with
          | true =>
              rw [List.dropWhile_cons_of_pos hdigit]
              exact ih fun hall => h (by simpa [firstWord, hblank, hdigit] using hall)
          | false => simp [skipWs, hdigit, hblank]

theorem sentence_pwmset (arg : List UInt8) (args : List (List UInt8)) :
    sentence (literal "pwmset" :: arg :: args) =
      if arg.all isDecimal ∧ dutyValue 0 arg ≤ 255 ∧ args = [] then
        ⟨.pwmset, dutyValue 0 arg⟩
      else ⟨.error, 0⟩ := by
  have hverb : literal "pwmset" ≠ literal "loop" := by decide
  cases args with
  | nil => simp [sentence, hverb, dutyValue]
  | cons => simp [sentence]

theorem sentence_loop (arg : List UInt8) (args : List (List UInt8)) :
    sentence (literal "loop" :: arg :: args) =
      if arg = literal "on" ∧ args = [] then ⟨.loopOn, 0⟩
      else if arg = literal "off" ∧ args = [] then ⟨.loopOff, 0⟩
      else ⟨.error, 0⟩ := by
  have hverb : literal "loop" ≠ literal "pwmset" := by decide
  cases args with
  | nil => simp [sentence, hverb]
  | cons => simp [sentence]

/-- A verb without an argument. -/
theorem sentence_bare {verb : List UInt8} {type : Ch32CommandType} (args : List (List UInt8))
    (hset : verb ≠ literal "pwmset") (hloop : verb ≠ literal "loop")
    (htype : sentence [verb] = ⟨type, 0⟩) :
    sentence (verb :: args) = if args = [] then ⟨type, 0⟩ else ⟨.error, 0⟩ := by
  cases args with
  | nil => exact htype
  | cons arg args => cases args <;> simp [sentence, hset, hloop]

/-- Any other word is no verb. -/
theorem sentence_unknown {verb : List UInt8} (args : List (List UInt8))
    (hset : verb ≠ literal "pwmset") (hloop : verb ≠ literal "loop")
    (htype : sentence [verb] = ⟨.error, 0⟩) : sentence (verb :: args) = ⟨.error, 0⟩ := by
  rw [sentence_bare args hset hloop htype, ite_self]

/-- **The argument of `pwmset`.** -/
theorem pwmset_argument (q : List UInt8) :
    (match parseU8 (skipWs q) with
      | some (v, r) => if skipWs r = [] then (⟨.pwmset, v⟩ : Ch32Command) else ⟨.error, 0⟩
      | none => ⟨.error, 0⟩) =
      sentence (literal "pwmset" :: words isBlank q) := by
  by_cases hnone : skipWs q = []
  · rw [skipWs_eq_nil_iff.mp hnone, hnone]
    rfl
  · have hwords := words_of_skipWs hnone
    have hne : firstWord (skipWs q) ≠ [] := ne_nil_of_mem_words (hwords ▸ List.mem_cons_self ..)
    rw [hwords, sentence_pwmset, parseU8_eq]
    simp only [← skipWs_eq_nil_iff]
    by_cases hdigits : ∀ b ∈ firstWord (skipWs q), isDecimal b = true
    · obtain ⟨htake, hdrop⟩ := takeWhile_isDecimal hdigits
      rw [htake, hdrop]
      by_cases hbig : dutyValue 0 (firstWord (skipWs q)) ≤ 255
      · rw [if_pos ⟨hne, hbig⟩]
        by_cases hend : skipWs (afterWord (skipWs q)) = []
        · exact (if_pos hend).trans (if_pos ⟨List.all_eq_true.mpr hdigits, hbig, hend⟩).symm
        · exact (if_neg hend).trans (if_neg fun h => hend h.2.2).symm
      · simp [hbig]
    · -- what is left of the word meets the end test
      refine Eq.trans ?_ (if_neg fun h => hdigits (List.all_eq_true.mp h.1)).symm
      have hleft := skipWs_dropWhile_isDecimal hdigits
      by_cases hnumber : (skipWs q).takeWhile isDecimal ≠ [] ∧
          dutyValue 0 ((skipWs q).takeWhile isDecimal) ≤ 255
      · rw [if_pos hnumber]
        exact if_neg hleft
      · rw [if_neg hnumber]

/-- **The argument of `loop`.** -/
theorem loop_argument (q : List UInt8) :
    (if ∃ r ∈ matchTok (skipWs q) (literal "on"), skipWs r = [] then (⟨.loopOn, 0⟩ : Ch32Command)
      else if ∃ r ∈ matchTok (skipWs q) (literal "off"), skipWs r = [] then ⟨.loopOff, 0⟩
      else ⟨.error, 0⟩) =
      sentence (literal "loop" :: words isBlank q) := by
  have harg : ∀ lit : List UInt8, (∀ b ∈ lit, isBlank b = false) →
      ((∃ r ∈ matchTok (skipWs q) lit, skipWs r = []) ↔
        firstWord (skipWs q) = lit ∧ skipWs (afterWord (skipWs q)) = []) := by
    intro lit hlit
    rw [matchTok_eq hlit]
    by_cases heq : firstWord (skipWs q) = lit <;> simp [heq]
  simp only [harg (literal "on") (noBlank_of_all (by decide)), harg (literal "off") (noBlank_of_all (by decide))]
  by_cases hnone : skipWs q = []
  · rw [skipWs_eq_nil_iff.mp hnone, hnone]
    rfl
  · rw [words_of_skipWs hnone, sentence_loop]
    simp only [skipWs_eq_nil_iff]

/-- **The parser** is the grammar. -/
theorem ch32CommandParse_eq (line : List UInt8) :
    ch32CommandParse line = sentence (words isBlank line) := by
  by_cases hnone : skipWs line = []
  · rw [skipWs_eq_nil_iff.mp hnone]
    exact if_pos hnone
  · have hend : ∀ type q, endCommand type q = if words isBlank q = [] then ⟨type, 0⟩ else ⟨.error, 0⟩ := by
      intro type q
      simp only [endCommand, skipWs_eq_nil_iff]
      split <;> rfl
    rw [words_of_skipWs hnone, ch32CommandParse]
    dsimp only
    rw [if_neg hnone, matchTok_eq (noBlank_of_all (by decide)), matchTok_eq (noBlank_of_all (by decide)),
      matchTok_eq (noBlank_of_all (by decide)), matchTok_eq (noBlank_of_all (by decide)),
      matchTok_eq (noBlank_of_all (by decide))]
    generalize firstWord (skipWs line) = verb
    generalize afterWord (skipWs line) = q
    by_cases hpwmget : verb = literal "pwmget"
    · rw [if_pos hpwmget, hpwmget, sentence_bare _ (by decide) (by decide) rfl]
      exact hend _ _
    rw [if_neg hpwmget]
    by_cases hrpmget : verb = literal "rpmget"
    · rw [if_pos hrpmget, hrpmget, sentence_bare _ (by decide) (by decide) rfl]
      exact hend _ _
    rw [if_neg hrpmget]
    by_cases hping : verb = literal "ping"
    · rw [if_pos hping, hping, sentence_bare _ (by decide) (by decide) rfl]
      exact hend _ _
    rw [if_neg hping]
    by_cases hpwmset : verb = literal "pwmset"
    · rw [if_pos hpwmset, hpwmset]
      exact pwmset_argument q
    rw [if_neg hpwmset]
    by_cases hloop : verb = literal "loop"
    · rw [if_pos hloop, hloop]
      exact loop_argument q
    rw [if_neg hloop, sentence_unknown _ hpwmset hloop (by simp [sentence, hpwmget, hrpmget, hping])]

end argument

/-! ## The receiver keeps to the lines -/

/-- What the code makes of a line: the grammar, up to the first NUL byte. -/
def consoleLine (line : List UInt8) : Ch32Command :=
  if ch32CmdLineMax - 1 < line.length then ⟨.error, 0⟩
  else sentence (words isBlank (line.takeWhile (· ≠ 0)))

/-- The receiver has read some of a line. -/
structure HasRead (rx : Ch32CommandRx) (read : List UInt8) : Prop where
  len : rx.len = min read.length 31
  overflowed : rx.overflowed = decide (31 < read.length)
  buf : rx.buf.toList.take rx.len = read.take 31

theorem hasRead_zeroed : HasRead .zeroed [] := ⟨rfl, rfl, rfl⟩

section feed

variable {rx : Ch32CommandRx} {read : List UInt8} {c : UInt8}

theorem HasRead.len_le (h : HasRead rx read) : rx.len ≤ 31 := by
  rw [h.len]
  exact Nat.min_le_right _ _

theorem HasRead.eq_of_le (h : HasRead rx read) (hread : read.length ≤ 31) :
    rx.len = read.length ∧ rx.buf.toList.take rx.len = read := by
  have hbuf := h.buf
  rw [List.take_of_length_le hread] at hbuf
  exact ⟨h.len.trans (Nat.min_eq_left hread), hbuf⟩

/-- The string the parser is given is the line up to its first NUL byte. -/
theorem HasRead.bufferString (h : HasRead rx read) (hread : read.length ≤ 31) :
    bufferString (rx.buf.put rx.len 0) = read.takeWhile (· ≠ 0) := by
  have hlen := h.len_le
  have hput := BlockBuffer.take_put rx.buf 0 (Nat.lt_succ_of_le hlen)
  rw [(h.eq_of_le hread).2] at hput
  unfold ThermalCore.bufferString
  rw [← List.take_append_drop (rx.len + 1) (rx.buf.put rx.len 0).toList, hput, List.append_assoc,
    List.takeWhile_append]
  by_cases hall : (read.takeWhile (· ≠ 0)).length = read.length
  · have hwhole : read.takeWhile (· ≠ 0) = read :=
      (List.takeWhile_prefix _).eq_of_length hall
    rw [if_pos hall, hwhole]
    simp
  · rw [if_neg hall]

/-- **A terminator** parses the line and starts the next. -/
theorem HasRead.feed_eol (h : HasRead rx read) (hc : isEol c = true) :
    HasRead (ch32CommandFeed rx c).1 [] ∧ (ch32CommandFeed rx c).2 = some (consoleLine read) := by
  have hmax : ch32CmdLineMax - 1 = 31 := rfl
  rw [ch32CommandFeed, if_pos hc, consoleLine, hmax]
  by_cases hlong : 31 < read.length
  · have hflag : rx.overflowed = true := by rw [h.overflowed, decide_eq_true hlong]
    rw [if_pos hflag, if_pos hlong]
    exact ⟨⟨rfl, rfl, rfl⟩, rfl⟩
  · have hflag : ¬rx.overflowed = true := by
      rw [h.overflowed, decide_eq_false hlong]
      decide
    rw [if_neg hflag, if_neg hlong]
    dsimp only
    rw [ch32CommandParse_eq, h.bufferString (Nat.le_of_not_lt hlong)]
    exact ⟨⟨rfl, rfl, rfl⟩, rfl⟩

/-- **Any other byte** is added to the line, as far as there is room. -/
theorem HasRead.feed_byte (h : HasRead rx read) (hc : isEol c = false) :
    HasRead (ch32CommandFeed rx c).1 (read ++ [c]) ∧ (ch32CommandFeed rx c).2 = none := by
  have hlen := h.len
  have hmax : u8 (ch32CmdLineMax - 1) = 31 := rfl
  rw [ch32CommandFeed, if_neg (by simp [hc]), hmax]
  by_cases hroom : rx.len < 31
  · have hread : read.length < 31 := by omega
    obtain ⟨heq, hbuf⟩ := h.eq_of_le (Nat.le_of_lt hread)
    rw [if_pos hroom]
    refine ⟨⟨?_, ?_, ?_⟩, rfl⟩
    · rw [List.length_append, List.length_singleton]
      dsimp only
      omega
    · rw [List.length_append, List.length_singleton, h.overflowed, decide_eq_decide]
      omega
    · have hput := BlockBuffer.take_put rx.buf c (Nat.lt_succ_of_lt hroom)
      have hwhole : (read ++ [c]).take 31 = read ++ [c] :=
        List.take_of_length_le (by simp only [List.length_append, List.length_singleton]; omega)
      rw [hbuf] at hput
      rw [hwhole]
      exact hput
  · have hread : 31 ≤ read.length := by omega
    rw [if_neg hroom]
    refine ⟨⟨?_, ?_, ?_⟩, rfl⟩
    · rw [List.length_append, List.length_singleton]
      dsimp only
      omega
    · rw [List.length_append, List.length_singleton, eq_comm, decide_eq_true_eq]
      omega
    · rw [List.take_append_of_le_length hread]
      exact h.buf

end feed

/-! ## Runs of the console -/

open Machine

/-- Along a run each terminator gives one result, that of its line, and no other
byte gives any. -/
theorem HasRead.outputs {rx : Ch32CommandRx} {read : List UInt8} (h : HasRead rx read)
    (cs : List UInt8) :
    (outputs ch32CommandFeed rx cs).map Option.isSome = cs.map isEol ∧
      (outputs ch32CommandFeed rx cs).filterMap id = (linesAfter isEol read cs).map consoleLine := by
  induction cs generalizing rx read with
  | nil => exact ⟨rfl, rfl⟩
  | cons c cs ih =>
      cases hc : isEol c with
      | true =>
          obtain ⟨hnext, hout⟩ := h.feed_eol hc
          obtain ⟨hsome, hresults⟩ := ih hnext
          rw [linesAfter_read_nil] at hresults
          rw [linesAfter_cons_pos read cs hc, outputs_cons, hout]
          exact ⟨by simp [hc, hsome], congrArg (consoleLine read :: ·) hresults⟩
      | false =>
          obtain ⟨hnext, hout⟩ := h.feed_byte hc
          obtain ⟨hsome, hresults⟩ := ih hnext
          rw [linesAfter_cons_neg read cs hc, outputs_cons, hout]
          exact ⟨by simp [hc, hsome], hresults⟩

theorem hasRead_after {rx : Ch32CommandRx} {read : List UInt8} (h : HasRead rx read)
    (cs : List UInt8) : (after ch32CommandFeed rx cs).len ≤ 31 := by
  induction cs generalizing rx read with
  | nil => exact h.len_le
  | cons c cs ih =>
      cases hc : isEol c with
      | true => exact ih (h.feed_eol hc).1
      | false => exact ih (h.feed_byte hc).1

/-- The console parses the lines of a stream by its grammar: one result per
terminator, that of its line alone, and never more than a line is buffered. -/
structure ParsesLines (cs : List UInt8) : Prop where
  one_result : (outputs ch32CommandFeed .zeroed cs).map Option.isSome = cs.map isEol
  by_grammar : (outputs ch32CommandFeed .zeroed cs).filterMap id = (lines isEol cs).map lineCommand
  buffered : ∀ pre, pre <+: cs →
    (after ch32CommandFeed .zeroed pre).len ≤ ch32CmdLineMax - 1

/-- A NUL byte in a line that is not too long does no harm if what comes before it
is no sentence either. -/
def NulHarmless (line : List UInt8) : Prop :=
  line.length ≤ ch32CmdLineMax - 1 → 0 ∈ line →
    sentence (words isBlank (line.takeWhile (· ≠ 0))) = ⟨.error, 0⟩

/-- No sentence has a NUL byte. -/
theorem sentence_of_nul {ws : List (List UInt8)} {word : List UInt8} (hword : word ∈ ws)
    (hnul : 0 ∈ word) : sentence ws = ⟨.error, 0⟩ := by
  have hverb : ∀ lit : List UInt8, 0 ∉ lit → word ≠ lit := fun lit hlit heq => hlit (heq ▸ hnul)
  match ws, hword with
  | [verb], hword =>
      rw [List.mem_singleton] at hword
      rw [← hword]
      simp [sentence, hverb (literal "pwmget") (by decide), hverb (literal "rpmget") (by decide),
        hverb (literal "ping") (by decide)]
  | [verb, arg], hword =>
      cases List.mem_cons.mp hword with
      | inl heq =>
          rw [← heq]
          simp [sentence, hverb (literal "pwmset") (by decide), hverb (literal "loop") (by decide)]
      | inr harg =>
          rw [List.mem_singleton] at harg
          rw [← harg]
          have hdigits : ¬∀ b ∈ word, isDecimal b = true := fun h => absurd (h 0 hnul) (by decide)
          simp [sentence, hdigits, hverb (literal "on") (by decide), hverb (literal "off") (by decide)]
  | _ :: _ :: _ :: _, _ => rfl

theorem consoleLine_eq_iff (line : List UInt8) :
    consoleLine line = lineCommand line ↔ NulHarmless line := by
  unfold consoleLine lineCommand NulHarmless
  by_cases hlong : ch32CmdLineMax - 1 < line.length
  · rw [if_pos hlong, if_pos hlong]
    exact ⟨fun _ hle => absurd hlong (Nat.not_lt.mpr hle), fun _ => rfl⟩
  · rw [if_neg hlong, if_neg hlong]
    by_cases hnul : 0 ∈ line
    · obtain ⟨word, hword, hin⟩ := @exists_word_of_mem _ isBlank 0 line hnul (by decide)
      rw [sentence_of_nul hword hin]
      exact ⟨fun heq _ _ => heq, fun h => h (Nat.le_of_not_lt hlong) hnul⟩
    · have hwhole : line.takeWhile (· ≠ 0) = line := by
        rw [List.takeWhile_eq_self_iff]
        intro b hb
        rw [decide_eq_true_eq]
        exact fun heq => hnul (heq ▸ hb)
      rw [hwhole]
      exact ⟨fun _ _ hmem => absurd hmem hnul, fun _ => rfl⟩

/-- **The console parses exactly its grammar** on the streams whose lines have only
harmless NUL bytes. -/
theorem parsesLines_iff (cs : List UInt8) : ParsesLines cs ↔ ∀ line ∈ lines isEol cs, NulHarmless line := by
  obtain ⟨hone, hresults⟩ := hasRead_zeroed.outputs cs
  rw [linesAfter_read_nil] at hresults
  constructor
  · intro h line hline
    have heq := hresults.symm.trans h.by_grammar
    exact (consoleLine_eq_iff line).mp (List.map_inj_left.mp heq line hline)
  · intro h
    refine ⟨hone, ?_, fun pre _ => hasRead_after hasRead_zeroed pre⟩
    rw [hresults]
    exact List.map_congr_left fun line hline => (consoleLine_eq_iff line).mpr (h line hline)

/-- `ping`, a NUL byte and more is taken for `ping`. -/
theorem ping_with_nul : ¬∀ cs : List UInt8, ParsesLines cs := by
  intro h
  have hresult := (h (literal "ping" ++ [0, 120, 10])).by_grammar
  revert hresult
  decide

end ThermalCore
