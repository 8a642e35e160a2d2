import ThermalCore.Config

/-!
# JSON documents and token accessors

The document `platform/linux/config_jsmn.c` reads, as the tree behind the token
array: the tokenizer lists a value before what it contains, so the token a
parser stands on is a node, the key and value steps of an object loop are its
members, and `skip_token` is the rest of the list.  Keys and strings are the raw
bytes between the quotes, escapes included; a primitive is its literal.
-/

namespace ThermalCore

/-- Text, as the bytes of a C string or a buffer. -/
abbrev Bytes := List Nat

/-- The bytes of a C string literal. -/
def ascii (s : String) : Bytes := s.toList.map Char.toNat

/-- What the string functions see of a buffer: the bytes before the first NUL. -/
def cString (buf : Bytes) : Bytes := buf.takeWhile (· ≠ 0)

/-- A document: what the token array stands for. -/
inductive Json where
  | object (members : List (Bytes × Json))
  | array (elems : List Json)
  | string (bytes : Bytes)
  | primitive (bytes : Bytes)

/-- A member of an object: its key and its value. -/
abbrev Member := Bytes × Json

mutual

/-- Tokens the tokenizer spends on a value. -/
def Json.tokenCount : Json → Nat
  | .object members => 1 + membersTokenCount members
  | .array elems => 1 + elemsTokenCount elems
  | .string _ => 1
  | .primitive _ => 1

/-- The tokens of a member: the key's and the value's. -/
def memberTokenCount : Bytes × Json → Nat
  | (_, v) => 1 + v.tokenCount

/-- The tokens of an object's members. -/
def membersTokenCount : List (Bytes × Json) → Nat
  | [] => 0
  | m :: ms => memberTokenCount m + membersTokenCount ms

/-- The tokens of an array's elements. -/
def elemsTokenCount : List Json → Nat
  | [] => 0
  | v :: vs => v.tokenCount + elemsTokenCount vs

end

/-! ## Token primitives -/

/-- Copy a string token into a buffer of `dstSz` bytes. -/
def tokStrCopy (dstSz : Nat) : Json → Option Bytes
  | .string s => if s.length + 1 > dstSz then none else some s
  | _ => none

/-- `isspace` in the C locale. -/
def isSpace (b : Nat) : Bool := b == 32 || (decide (9 ≤ b) && decide (b ≤ 13))

/-- `isdigit` on a byte. -/
def isDigit (b : Nat) : Bool := decide (48 ≤ b) && decide (b ≤ 57)

/-- The value of a digit sequence. -/
def digitsValue (ds : Bytes) : Nat := ds.foldl (fun acc d => 10 * acc + (d - 48)) 0

/-- `LLONG_MIN`. -/
def llongMin : Int := -2 ^ 63

/-- `LLONG_MAX`. -/
def llongMax : Int := 2 ^ 63 - 1

/-- `strtoll(s, &end, 10)`: the value, saturated, and what is left at `end`;
`none` when no digit was read. -/
def strtoll (s : Bytes) : Option (Int × Bytes) :=
  let s := s.dropWhile isSpace
  let (negative, s) :=
    match s with
    | 45 :: rest => (true, rest)
    | 43 :: rest => (false, rest)
    | rest => (false, rest)
  let ds := s.takeWhile isDigit
  let v : Int := digitsValue ds
  if ds = [] then none
  else some (if negative then max (-v) llongMin else min v llongMax, s.dropWhile isDigit)

/-- An integer literal of fewer than 32 bytes that is not `true`, `false` or `null`. -/
def tokParseLong : Json → Option Int
  | .primitive s =>
      if s.length = 0 ∨ s.length ≥ 32 then none
      else
        let first := s.headD 0
        if first = 116 ∨ first = 102 ∨ first = 110 then none
        else
          match strtoll (cString s) with
          | some (v, []) => some v
          | _ => none
  | _ => none

/-- `true`, `false`, or one of the integers 0 and 1. -/
def tokParseBool : Json → Option Nat
  | .primitive s =>
      if s = ascii "true" then some 1
      else if s = ascii "false" then some 0
      else
        match tokParseLong (.primitive s) with
        | some 0 => some 0
        | some 1 => some 1
        | _ => none
  | _ => none

/-- `tok_parse_int_range`: an integer literal between two bounds. -/
def tokParseIntRange (v : Json) (lo hi : Int) : Option Int :=
  match tokParseLong v with
  | none => none
  | some n => if n < lo ∨ n > hi then none else some n

/-- The literal `null`. -/
def tokIsNull : Json → Bool
  | .primitive s => s == ascii "null"
  | _ => false

/-! ## Enum maps -/

/-- A table of names and codes. -/
abbrev EnumMap := List (String × Nat)

/-- `enum_lookup`: the code of the first name that matches. -/
def enumLookup (v : Json) (map : EnumMap) : Option Nat :=
  match tokStrCopy 64 v with
  | none => none
  | some buf => (map.find? fun entry => ascii entry.1 == cString buf).map Prod.snd

/-- The names of the aggregation modes. -/
def aggregationMap : EnumMap :=
  [("max", Aggregation.max.code), ("avg", Aggregation.avg.code),
    ("weighted", Aggregation.weighted.code)]

/-- The names of the governors. -/
def governorMap : EnumMap := [("step_wise", 1), ("pid", 2)]

/-- The names of the trip severities. -/
def tripSeverityMap : EnumMap :=
  [("warn", TripSeverity.warn.code), ("critical", TripSeverity.critical.code),
    ("shutdown", TripSeverity.shutdown.code)]

/-- The names of the context units. -/
def contextUnitMap : EnumMap :=
  [("none", ContextUnit.none.code), ("kmh", ContextUnit.kmh.code), ("bool", ContextUnit.bool.code),
    ("rpm", ContextUnit.rpm.code), ("celsius_mc", ContextUnit.celsiusMc.code)]

/-- The names of the contexts' fail-safes. -/
def failsafeMap : EnumMap :=
  [("assume_stationary", ContextFailsafe.assumeStationary.code),
    ("hold_last", ContextFailsafe.holdLast.code), ("assume_value", ContextFailsafe.assumeValue.code)]

/-- The names of the modifier stages. -/
def modStageMap : EnumMap :=
  [("pre_governor_trip_offset", ModifierStage.preGovernorTripOffset.code),
    ("post_governor_pwm_cap", ModifierStage.postGovernorPwmCap.code)]

/-- The names of the fault severities. -/
def faultSeverityMap : EnumMap :=
  [("degraded", FaultSeverity.degraded.code), ("critical", FaultSeverity.critical.code)]

/-- The names of the fault actions. -/
def faultActionMap : EnumMap :=
  [("none", FaultAction.none.code), ("mark_degraded", FaultAction.markDegraded.code),
    ("use_zone_fallback", FaultAction.useZoneFallback.code),
    ("force_pwm_max_until_recovered", FaultAction.forcePwmMaxUntilRecovered.code),
    ("force_pwm_max_and_latch", FaultAction.forcePwmMaxAndLatch.code),
    ("request_shutdown", FaultAction.requestShutdown.code)]

end ThermalCore
