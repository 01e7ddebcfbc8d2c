import Rx888.Firmware.Ram

/-! # The debug message formatter

`MyDebugSNPrint` spells a message out into a buffer of its caller, each character
against the room left for the terminating NUL and each inserted string as a whole.
-/

namespace Rx888

/-- A C string the firmware can hold: the bytes before its NUL, fewer than a half word
counts. -/
structure CString where
  bytes : List UInt8
  ends : 0 ∉ bytes
  short : bytes.length < 2 ^ 16

/-- An argument of `va_arg`. -/
inductive VaArg where
  | num (n : UInt32)
  | str (s : CString)

/-- What may follow a `%`. -/
inductive Conversion where
  | percent
  | c
  | d
  | s
  | u
  | x
  deriving DecidableEq, Repr

def Conversion.ofByte (b : UInt8) : Option Conversion :=
  if b = '%'.toUInt8 then some .percent
  else if b = 'c'.toUInt8 then some .c
  else if b = 'd'.toUInt8 then some .d
  else if b = 's'.toUInt8 then some .s
  else if b = 'u'.toUInt8 then some .u
  else if b = 'X'.toUInt8 ∨ b = 'x'.toUInt8 then some .x
  else none

/-- The buffer and how far it is filled. -/
structure Fill where
  debugMsg : List UInt8
  i : UInt16

/-- `debugMsg[i++] = b`. -/
def Fill.put (s : Fill) (b : UInt8) : Fill where
  debugMsg := memcpyAt s.debugMsg s.i.toNat [b]
  i := s.i + 1

/-- The string that `copyReqd` asks for, with its NUL, while there is room for both. -/
def Fill.copy (maxLength : UInt16) (argStr : CString) (s : Fill) : Option Fill :=
  let j := UInt16.ofNat argStr.bytes.length
  if (s.i.toNat : Int) ≥ maxLength.toNat - j.toNat - 1 then none
  else some
    { debugMsg := memcpyAt s.debugMsg s.i.toNat (argStr.bytes ++ [0])
      i := s.i + j }

section Format

-- the number in a base, spelled into `convertedString`
variable (cyU3PDebugIntToStr : UInt32 → UInt8 → CString)

/-- One conversion, with the arguments that are left. An argument of another kind than the
conversion takes has no meaning in C and ends the message here. -/
def Fill.convert (maxLength : UInt16) (s : Fill) :
    Conversion → List VaArg → Option (Fill × List VaArg)
  | .percent, argp => some (s.put '%'.toUInt8, argp)
  | .c, .num n :: argp => some (s.put n.toUInt8, argp)
  | .d, .num n :: argp =>
      let signed := if n.toInt32 < 0 then s.put '-'.toUInt8 else s
      let uintArg := if n.toInt32 < 0 then 0 - n else n
      (signed.copy maxLength (cyU3PDebugIntToStr uintArg 10)).map (·, argp)
  | .s, .str argStr :: argp => (s.copy maxLength argStr).map (·, argp)
  | .u, .num uintArg :: argp =>
      (s.copy maxLength (cyU3PDebugIntToStr uintArg 10)).map (·, argp)
  | .x, .num uintArg :: argp =>
      (s.copy maxLength (cyU3PDebugIntToStr uintArg 16)).map (·, argp)
  | _, _ => none

/-- The loop over the format, from `string_p` on; a failure is
`CY_U3P_ERROR_BAD_ARGUMENT`. -/
def Fill.format (maxLength : UInt16) : List UInt8 → List VaArg → Fill → Option Fill
  | [], _, s => some s
  | b :: string_p, argp, s =>
      if (s.i.toNat : Int) ≥ maxLength.toNat - 2 then none
      else if b ≠ '%'.toUInt8 then Fill.format maxLength string_p argp (s.put b)
      else
        match string_p with
        | [] => none
        | b :: string_p =>
            match (Conversion.ofByte b).bind fun v =>
              s.convert cyU3PDebugIntToStr maxLength v argp with
            | none => none
            | some (s, argp) => Fill.format maxLength string_p argp s

/-- The buffer and the length of the text in it. -/
def myDebugSNPrint (debugMsg : List UInt8) (length : UInt16) (message : CString)
    (argp : List VaArg) : Option (List UInt8 × UInt16) :=
  (Fill.format cyU3PDebugIntToStr length message.bytes argp ⟨debugMsg, 0⟩).map fun s =>
    (memcpyAt s.debugMsg s.i.toNat [0], s.i)

end Format

/-! ## Numbers -/

def digitByte (d : Nat) : UInt8 :=
  if d < 10 then '0'.toUInt8 + UInt8.ofNat d else 'A'.toUInt8 + UInt8.ofNat (d - 10)

/-- The last `fuel` digits of a number ahead of what has been spelled. -/
def spellDigits (base : Nat) : Nat → Nat → List UInt8 → List UInt8
  | 0, _, spelled => spelled
  | fuel + 1, n, spelled =>
      let spelled := digitByte (n % base) :: spelled
      if n / base = 0 then spelled else spellDigits base fuel (n / base) spelled

theorem digitByte_ne_zero {d : Nat} (digit : d < 16) : digitByte d ≠ 0 := by
  have digits : ∀ d < 16, digitByte d ≠ 0 := by decide
  exact digits d digit

theorem spellDigits_spec (base : Nat) (positive : 0 < base) (small : base ≤ 16) (fuel n : Nat)
    (spelled : List UInt8) (ends : 0 ∉ spelled) :
    0 ∉ spellDigits base fuel n spelled ∧
      (spellDigits base fuel n spelled).length ≤ fuel + spelled.length := by
  induction fuel generalizing n spelled with
  | zero => exact ⟨ends, by simp [spellDigits]⟩
  | succ fuel ih =>
      have digit : n % base < 16 := Nat.lt_of_lt_of_le (Nat.mod_lt n positive) small
      have ends' : 0 ∉ digitByte (n % base) :: spelled := by
        rw [List.mem_cons, not_or]
        exact ⟨(digitByte_ne_zero digit).symm, ends⟩
      unfold spellDigits
      simp only
      split
      next => exact ⟨ends', by rw [List.length_cons]; omega⟩
      next =>
        have rest := ih (n / base) _ ends'
        rw [List.length_cons] at rest
        exact ⟨rest.1, by omega⟩

/-- A number as the SDK spells it, in base 16 or 10. -/
def spellNumber (num : UInt32) (base : UInt8) : CString :=
  have digits := spellDigits_spec (if base = 16 then 16 else 10) (by split <;> decide)
    (by split <;> decide) 10 num.toNat [] (by simp)
  { bytes := spellDigits (if base = 16 then 16 else 10) 10 num.toNat []
    ends := digits.1
    short := Nat.lt_of_le_of_lt digits.2 (by decide) }

/-! ## Bounds -/

/-- The buffer has kept its size and has room for a NUL and one byte more. -/
structure Fill.Within (maxLength : UInt16) (s : Fill) : Prop where
  size : s.debugMsg.length = maxLength.toNat
  room : s.i.toNat + 2 ≤ maxLength.toNat

section Within

variable {intToStr : UInt32 → UInt8 → CString} {maxLength : UInt16} {s s' : Fill}

theorem Fill.Within.put (within : s.Within maxLength) (b : UInt8)
    (room : ¬ (s.i.toNat : Int) ≥ maxLength.toNat - 2) : (s.put b).Within maxLength := by
  have lt := maxLength.toNat_lt
  have next : (s.i + 1).toNat = s.i.toNat + 1 := by
    rw [UInt16.toNat_add]
    exact Nat.mod_eq_of_lt (by show s.i.toNat + 1 < 2 ^ 16; omega)
  constructor
  · show (memcpyAt s.debugMsg s.i.toNat [b]).length = _
    have fits : s.i.toNat + [b].length ≤ s.debugMsg.length := by
      rw [within.size, List.length_singleton]
      omega
    rw [memcpyAt_length fits, within.size]
  · show (s.i + 1).toNat + 2 ≤ _
    omega

theorem Fill.Within.copy (within : s.Within maxLength) (argStr : CString)
    (copied : s.copy maxLength argStr = some s') : s'.Within maxLength := by
  have lt := maxLength.toNat_lt
  have j : (UInt16.ofNat argStr.bytes.length).toNat = argStr.bytes.length := by
    simpa using Nat.mod_eq_of_lt argStr.short
  unfold Fill.copy at copied
  simp only [j] at copied
  split at copied
  next => cases copied
  next room =>
    cases copied
    have next : (s.i + UInt16.ofNat argStr.bytes.length).toNat =
        s.i.toNat + argStr.bytes.length := by
      rw [UInt16.toNat_add, j]
      exact Nat.mod_eq_of_lt (by show _ < 2 ^ 16; omega)
    constructor
    · have fits : s.i.toNat + (argStr.bytes ++ [0]).length ≤ s.debugMsg.length := by
        rw [within.size, List.length_append, List.length_singleton]
        omega
      exact (memcpyAt_length fits).trans within.size
    · show (s.i + _).toNat + 2 ≤ _
      omega

/-- A conversion that starts with room for a byte stays within the buffer. -/
theorem Fill.Within.convert (within : s.Within maxLength) {v : Conversion}
    {argp argp' : List VaArg} (room : ¬ (s.i.toNat : Int) ≥ maxLength.toNat - 2)
    (converted : s.convert intToStr maxLength v argp = some (s', argp')) :
    s'.Within maxLength := by
  have copied {t : Fill} {argStr : CString} {rest : List VaArg} (within : t.Within maxLength)
      (h : (t.copy maxLength argStr).map (·, rest) = some (s', argp')) :
      s'.Within maxLength := by
    obtain ⟨t', copied, same⟩ := Option.map_eq_some_iff.mp h
    cases same
    exact within.copy argStr copied
  unfold Fill.convert at converted
  split at converted
  next =>
    cases converted
    exact within.put _ room
  next =>
    cases converted
    exact within.put _ room
  next n argp =>
    by_cases negative : n.toInt32 < 0
    · simp only [if_pos negative] at converted
      exact copied (within.put _ room) converted
    · simp only [if_neg negative] at converted
      exact copied within converted
  next => exact copied within converted
  next => exact copied within converted
  next => exact copied within converted
  next => cases converted

theorem Fill.Within.format {string_p : List UInt8} {argp : List VaArg}
    (within : s.Within maxLength)
    (formatted : Fill.format intToStr maxLength string_p argp s = some s') :
    s'.Within maxLength := by
  fun_induction Fill.format intToStr maxLength string_p argp s with
  | case1 argp s =>
      cases formatted
      exact within
  | case2 => cases formatted
  | case3 b string_p argp s room plain ih => exact ih (within.put b room) formatted
  | case4 => cases formatted
  | case5 => cases formatted
  | case6 b argp s room percent b' string_p t argp' converted ih =>
      obtain ⟨v, _, converted⟩ := Option.bind_eq_some_iff.mp converted
      exact ih (within.convert room converted) formatted

end Within

/-- What is formatted fits below a byte for the NUL and one more, and nothing is written past
the buffer. -/
theorem myDebugSNPrint_within {intToStr : UInt32 → UInt8 → CString} {debugMsg buf : List UInt8}
    {length len : UInt16} {message : CString} {argp : List VaArg}
    (size : debugMsg.length = length.toNat) (two : 2 ≤ length.toNat)
    (formatted : myDebugSNPrint intToStr debugMsg length message argp = some (buf, len)) :
    buf.length = length.toNat ∧ len.toNat + 2 ≤ length.toNat := by
  obtain ⟨s, ended, same⟩ := Option.map_eq_some_iff.mp formatted
  cases same
  have start : Fill.Within length ⟨debugMsg, 0⟩ := ⟨size, two⟩
  have within := start.format ended
  refine ⟨?_, within.room⟩
  have fits : s.i.toNat + [(0 : UInt8)].length ≤ s.debugMsg.length := by
    have room := within.room
    rw [within.size, List.length_singleton]
    omega
  exact (memcpyAt_length fits).trans within.size

end Rx888
