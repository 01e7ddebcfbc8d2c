import Rx888.Console.Print
import Mathlib.Data.Nat.Digits.Lemmas

/-! # What a format spells

The text a format stands for, and `MyDebugSNPrint` with all that it leaves: a message is refused,
with what has been written of it still in the buffer, or the buffer holds the text.
-/

namespace Rx888

/-! ## The expansion of a format -/

/-- The digits of a number, the highest first, with capital or with small letters. -/
def numeral (small : Bool) (base n : Nat) : List UInt8 :=
  let glyph (d : Nat) : UInt8 := if small then digitByte d ||| 0x20 else digitByte d
  if n = 0 then [glyph 0] else (Nat.digits base n).reverse.map glyph

def signedNumeral (small : Bool) (n : Int) : List UInt8 :=
  if n < 0 then '-'.toUInt8 :: numeral small 10 n.natAbs else numeral small 10 n.natAbs

/-- The text of one conversion, and the arguments behind its own. -/
def Conversion.expansion (small : Bool) :
    Conversion → List VaArg → Option (List UInt8 × List VaArg)
  | .percent, argp => some (['%'.toUInt8], argp)
  | .c, .num n :: argp => some ([n.toUInt8], argp)
  | .d, .num n :: argp => some (signedNumeral small n.toInt32.toInt, argp)
  | .s, .str argStr :: argp => some (argStr.bytes, argp)
  | .u, .num n :: argp => some (numeral small 10 n.toNat, argp)
  | .x, .num n :: argp => some (numeral small 16 n.toNat, argp)
  | _, _ => none

/-- The text of a format that consists of literal text and the conversions, each with an
argument of its kind; any other format has none. -/
def expansion (small : Bool) : List UInt8 → List VaArg → Option (List UInt8)
  | [], _ => some []
  | b :: format, argp =>
      if b ≠ '%'.toUInt8 then (expansion small format argp).map (b :: ·)
      else
        match format with
        | [] => none
        | b :: format =>
            match (Conversion.ofByte b).bind fun v => v.expansion small argp with
            | none => none
            | some (text, argp) => (expansion small format argp).map (text ++ ·)

/-- `CyU3PDebugIntToStr` returns the digits of its argument in base 10 or 16. -/
def SpellsDigits (small : Bool) (intToStr : UInt32 → UInt8 → CString) : Prop :=
  ∀ n base, base = 10 ∨ base = 16 → (intToStr n base).bytes = numeral small base.toNat n.toNat

/-! ## What is left of a message -/

def cyU3PErrorBadArgument : ReturnStatus := 0x40

/-- The sign is written before there is known to be room for the digits; whatever else does not
fit is not begun. -/
def Fill.refused (s : Fill) : Conversion → List VaArg → Fill
  | .d, .num n :: _ => if n.toInt32 < 0 then s.put '-'.toUInt8 else s
  | _, _ => s

/-- What `MyDebugSNPrint` leaves: its status, the buffer and `*length`. -/
structure Printed where
  status : ReturnStatus
  debugMsg : List UInt8
  length : UInt16

section Print

variable (cyU3PDebugIntToStr : UInt32 → UInt8 → CString)

def Fill.formatOr (maxLength : UInt16) : List UInt8 → List VaArg → Fill → Except Fill Fill
  | [], _, s => .ok s
  | b :: string_p, argp, s =>
      if (s.i.toNat : Int) ≥ maxLength.toNat - 2 then .error s
      else if b ≠ '%'.toUInt8 then Fill.formatOr maxLength string_p argp (s.put b)
      else
        match string_p with
        | [] => .error s
        | b :: string_p =>
            match Conversion.ofByte b with
            | none => .error s
            | some v =>
                match s.convert cyU3PDebugIntToStr maxLength v argp with
                | none => .error (s.refused v argp)
                | some (s, argp) => Fill.formatOr maxLength string_p argp s

def debugSNPrint (debugMsg : List UInt8) (length : UInt16) (message : List UInt8)
    (argp : List VaArg) : Printed :=
  match Fill.formatOr cyU3PDebugIntToStr length message argp ⟨debugMsg, 0⟩ with
  | .error s => { status := cyU3PErrorBadArgument, debugMsg := s.debugMsg, length := length }
  | .ok s =>
      { status := cyU3PSuccess
        debugMsg := memcpyAt s.debugMsg s.i.toNat [0]
        length := s.i }

end Print

section Same

variable {intToStr : UInt32 → UInt8 → CString} {maxLength : UInt16}

/-- The loop fails exactly if `Fill.format` does, and else ends with the same. -/
theorem formatOr_toOption (string_p : List UInt8) (argp : List VaArg) (s : Fill) :
    (Fill.formatOr intToStr maxLength string_p argp s).toOption =
      Fill.format intToStr maxLength string_p argp s := by
  fun_induction Fill.formatOr intToStr maxLength string_p argp s with
  | case1 argp s => simp [Fill.format, Except.toOption]
  | case2 b string_p argp s full =>
      unfold Fill.format
      rw [if_pos full]
      rfl
  | case3 b string_p argp s room plain ih =>
      rw [ih, Fill.format.eq_def intToStr maxLength (b :: string_p)]
      simp only
      rw [if_neg room, if_pos plain]
  | case4 b argp s room percent => simp [Fill.format, room, percent, Except.toOption]
  | case5 b argp s room percent b' string_p none =>
      simp [Fill.format, room, percent, none, Except.toOption]
  | case6 b argp s room percent b' string_p v some none =>
      simp [Fill.format, room, percent, some, none, Except.toOption]
  | case7 b argp s room percent b' string_p v some s' argp' converted ih =>
      simp [Fill.format, room, percent, some, converted, ih]

/-- `myDebugSNPrint` is what the caller sees of it on success. -/
theorem myDebugSNPrint_eq (debugMsg : List UInt8) (length : UInt16) (message : CString)
    (argp : List VaArg) :
    myDebugSNPrint intToStr debugMsg length message argp =
      let printed := debugSNPrint intToStr debugMsg length message.bytes argp
      if printed.status = cyU3PSuccess then some (printed.debugMsg, printed.length) else none := by
  unfold myDebugSNPrint debugSNPrint
  rw [← formatOr_toOption]
  cases Fill.formatOr intToStr length message.bytes argp ⟨debugMsg, 0⟩ with
  | error s => rfl
  | ok s => rfl

end Same

/-! ## Numbers -/

theorem numeral_of_lt {base n : Nat} (digit : n < base) : numeral false base n = [digitByte n] := by
  unfold numeral
  by_cases zero : n = 0
  · simp [zero]
  · simp [zero, Nat.digits_of_lt base n zero digit]

theorem numeral_div {base n : Nat} (two : 1 < base) (more : n / base ≠ 0) :
    numeral false base n = numeral false base (n / base) ++ [digitByte (n % base)] := by
  have positive : n ≠ 0 := by
    rintro rfl
    simp at more
  have digits := Nat.digits_def' two (Nat.pos_of_ne_zero positive)
  unfold numeral
  rw [if_neg positive, if_neg more, digits]
  simp

theorem spellDigits_numeral {base : Nat} (two : 1 < base) (fuel n : Nat) (spelled : List UInt8)
    (enough : n < base ^ (fuel + 1)) :
    spellDigits base (fuel + 1) n spelled = numeral false base n ++ spelled := by
  induction fuel generalizing n spelled with
  | zero =>
      have digit : n < base := by simpa using enough
      rw [numeral_of_lt digit, spellDigits, Nat.mod_eq_of_lt digit, Nat.div_eq_of_lt digit]
      rfl
  | succ fuel ih =>
      rw [spellDigits]
      by_cases last : n / base = 0
      · have digit : n < base := (Nat.div_eq_zero_iff_lt (by omega)).mp last
        rw [numeral_of_lt digit, Nat.mod_eq_of_lt digit]
        exact if_pos last
      · have fewer : n / base < base ^ (fuel + 1) := Nat.div_lt_of_lt_mul (by
          rw [← Nat.pow_succ']
          exact enough)
        rw [numeral_div two last, List.append_assoc, ← ih (n / base) _ fewer]
        exact if_neg last

theorem spellNumber_digits : SpellsDigits false spellNumber := by
  have word (n : UInt32) : n.toNat < 2 ^ 32 := n.toNat_lt
  have spelled (n : UInt32) {base : Nat} (two : 1 < base) (enough : 2 ^ 32 ≤ base ^ 10) :
      spellDigits base 10 n.toNat [] = numeral false base n.toNat := by
    rw [spellDigits_numeral two 9 _ _ (Nat.lt_of_lt_of_le (word n) enough), List.append_nil]
  rintro n base (rfl | rfl)
  · exact spelled n (by decide) (by decide)
  · exact spelled n (by decide) (by decide)

/-- The magnitude is computed as an unsigned number, also of the least one. -/
theorem magnitude (n : UInt32) :
    n.toInt32.toInt.natAbs = (if n.toInt32 < 0 then 0 - n else n).toNat := by
  have word : n.toNat < 2 ^ 32 := n.toNat_lt
  have bits : n.toInt32.toInt = n.toBitVec.toInt := rfl
  have value := BitVec.toInt_eq_toNat_cond n.toBitVec
  rw [← bits] at value
  have negative : n.toInt32 < 0 ↔ n.toInt32.toInt < 0 := Int32.lt_iff_toInt_lt
  have word' : n.toBitVec.toNat = n.toNat := rfl
  rw [word'] at value
  split
  next below =>
      have below := negative.mp below
      have opposite : (0 - n).toNat = (2 ^ 32 - n.toNat) % 2 ^ 32 := by
        rw [UInt32.toNat_sub]
        simp
      omega
  next above =>
      have above : ¬ n.toInt32.toInt < 0 := fun below => above (negative.mpr below)
      omega

/-! ## The text in the buffer -/

/-- The text has been spelled into the buffer up to `i`. -/
structure Fill.Spells (maxLength : UInt16) (s : Fill) (text : List UInt8) : Prop where
  within : s.Within maxLength
  index : s.i.toNat = text.length
  front : text <+: s.debugMsg

section Spells

variable {small : Bool} {intToStr : UInt32 → UInt8 → CString} {maxLength : UInt16} {s s' : Fill}
variable {text t : List UInt8} {argStr : CString} {v : Conversion} {argp argp' : List VaArg}

theorem Fill.Spells.put (spells : s.Spells maxLength text) (b : UInt8)
    (room : ¬ (s.i.toNat : Int) ≥ maxLength.toNat - 2) :
    (s.put b).Spells maxLength (text ++ [b]) := by
  have lt := maxLength.toNat_lt
  have index := spells.index
  constructor
  · exact spells.within.put b room
  · show (s.i + 1).toNat = _
    rw [UInt16.toNat_add, List.length_append, ← spells.index]
    exact Nat.mod_eq_of_lt (by show s.i.toNat + 1 < 2 ^ 16; omega)
  · show text ++ [b] <+: memcpyAt s.debugMsg s.i.toNat [b]
    rw [spells.index]
    exact prefix_memcpyAt spells.front [b]

theorem CString.length_cast (argStr : CString) :
    (UInt16.ofNat argStr.bytes.length).toNat = argStr.bytes.length := by
  simpa using Nat.mod_eq_of_lt argStr.short

theorem Fill.Spells.copy (spells : s.Spells maxLength text)
    (copied : s.copy maxLength argStr = some s') :
    s'.Spells maxLength (text ++ argStr.bytes) := by
  have lt := maxLength.toNat_lt
  have within := spells.within.copy argStr copied
  have j := argStr.length_cast
  unfold Fill.copy at copied
  simp only [j] at copied
  split at copied
  next => cases copied
  next room =>
    cases copied
    constructor
    · exact within
    · show (s.i + UInt16.ofNat argStr.bytes.length).toNat = _
      rw [UInt16.toNat_add, j, List.length_append, ← spells.index]
      exact Nat.mod_eq_of_lt (by show _ < 2 ^ 16; omega)
    · show _ <+: memcpyAt s.debugMsg s.i.toNat (argStr.bytes ++ [0])
      have front := prefix_memcpyAt spells.front (argStr.bytes ++ [0])
      rw [← spells.index, ← List.append_assoc] at front
      exact (List.prefix_append _ _).trans front

theorem Fill.Spells.copy_fits (spells : s.Spells maxLength text)
    (fits : text.length + argStr.bytes.length + 2 ≤ maxLength.toNat) :
    ∃ s', s.copy maxLength argStr = some s' := by
  have index := spells.index
  unfold Fill.copy
  simp only [argStr.length_cast]
  rw [if_neg (by omega)]
  exact ⟨_, rfl⟩

theorem signedNumeral_eq (small : Bool) (n : UInt32) : signedNumeral small n.toInt32.toInt =
    (if n.toInt32 < 0 then ['-'.toUInt8] else []) ++
      numeral small 10 (if n.toInt32 < 0 then 0 - n else n).toNat := by
  have sign : n.toInt32 < 0 ↔ n.toInt32.toInt < 0 := Int32.lt_iff_toInt_lt
  rw [← magnitude, signedNumeral]
  by_cases negative : n.toInt32 < 0
  · rw [if_pos negative, if_pos (sign.mp negative)]
    rfl
  · rw [if_neg negative, if_neg fun below => negative (sign.mpr below)]
    rfl

theorem Fill.Spells.sign (spells : s.Spells maxLength text) (n : UInt32)
    (room : ¬ (s.i.toNat : Int) ≥ maxLength.toNat - 2) :
    (if n.toInt32 < 0 then s.put '-'.toUInt8 else s).Spells maxLength
      (text ++ if n.toInt32 < 0 then ['-'.toUInt8] else []) := by
  split
  next => exact spells.put _ room
  next =>
    rw [List.append_nil]
    exact spells

/-- What a conversion puts into the buffer is its text. -/
theorem Fill.Spells.convert (digits : SpellsDigits small intToStr)
    (spells : s.Spells maxLength text) (room : ¬ (s.i.toNat : Int) ≥ maxLength.toNat - 2)
    (converted : s.convert intToStr maxLength v argp = some (s', argp')) :
    ∃ t, v.expansion small argp = some (t, argp') ∧ s'.Spells maxLength (text ++ t) := by
  have copied {r : Fill} {front : List UInt8} {argStr : CString} {rest : List VaArg}
      (spells : r.Spells maxLength front)
      (h : (r.copy maxLength argStr).map (·, rest) = some (s', argp')) :
      rest = argp' ∧ s'.Spells maxLength (front ++ argStr.bytes) := by
    obtain ⟨r', copied, same⟩ := Option.map_eq_some_iff.mp h
    cases same
    exact ⟨rfl, spells.copy copied⟩
  unfold Fill.convert at converted
  split at converted
  next =>
    cases converted
    exact ⟨_, rfl, spells.put _ room⟩
  next =>
    cases converted
    exact ⟨_, rfl, spells.put _ room⟩
  next n argp =>
    obtain ⟨rfl, spelled⟩ := copied (spells.sign n room) converted
    rw [digits _ 10 (Or.inl rfl), List.append_assoc] at spelled
    refine ⟨_, rfl, ?_⟩
    rw [signedNumeral_eq]
    exact spelled
  next argStr argp =>
    obtain ⟨rfl, spelled⟩ := copied spells converted
    exact ⟨_, rfl, spelled⟩
  next n argp =>
    obtain ⟨rfl, spelled⟩ := copied spells converted
    rw [digits n 10 (Or.inl rfl)] at spelled
    exact ⟨_, rfl, spelled⟩
  next n argp =>
    obtain ⟨rfl, spelled⟩ := copied spells converted
    rw [digits n 16 (Or.inr rfl)] at spelled
    exact ⟨_, rfl, spelled⟩
  next => cases converted

theorem Fill.Spells.convert_fits (digits : SpellsDigits small intToStr)
    (spells : s.Spells maxLength text) (room : ¬ (s.i.toNat : Int) ≥ maxLength.toNat - 2)
    (expands : v.expansion small argp = some (t, argp'))
    (fits : text.length + t.length + 2 ≤ maxLength.toNat) :
    ∃ s', s.convert intToStr maxLength v argp = some (s', argp') := by
  have copied {r : Fill} {front : List UInt8} {argStr : CString} (spells : r.Spells maxLength front)
      (fits : front.length + argStr.bytes.length + 2 ≤ maxLength.toNat) :
      ∃ s', (r.copy maxLength argStr).map (·, argp') = some (s', argp') := by
    obtain ⟨r', copied⟩ := spells.copy_fits fits
    exact ⟨r', by rw [copied]; rfl⟩
  unfold Conversion.expansion at expands
  split at expands
  next =>
    cases expands
    exact ⟨_, rfl⟩
  next =>
    cases expands
    exact ⟨_, rfl⟩
  next n argp =>
    cases expands
    apply copied (spells.sign n room)
    rw [signedNumeral_eq, List.length_append] at fits
    rw [digits _ 10 (Or.inl rfl), List.length_append, Nat.add_assoc text.length]
    exact fits
  next argStr argp =>
    cases expands
    exact copied spells fits
  next n argp =>
    cases expands
    apply copied spells
    rw [digits n 10 (Or.inl rfl)]
    exact fits
  next n argp =>
    cases expands
    apply copied spells
    rw [digits n 16 (Or.inr rfl)]
    exact fits
  next => cases expands

/-- A loop that gets through has spelled the expansion of the format. -/
theorem Fill.Spells.format (digits : SpellsDigits small intToStr) {string_p : List UInt8}
    (spells : s.Spells maxLength text)
    (formatted : Fill.formatOr intToStr maxLength string_p argp s = .ok s') :
    ∃ t, expansion small string_p argp = some t ∧ s'.Spells maxLength (text ++ t) := by
  fun_induction Fill.formatOr intToStr maxLength string_p argp s generalizing text with
  | case1 argp s =>
      cases formatted
      exact ⟨[], rfl, by rw [List.append_nil]; exact spells⟩
  | case2 b string_p argp s full => cases formatted
  | case3 b string_p argp s room plain ih =>
      obtain ⟨t, expands, spells'⟩ := ih (spells.put b room) formatted
      rw [List.append_assoc] at spells'
      refine ⟨b :: t, ?_, spells'⟩
      rw [expansion.eq_def]
      simp only
      rw [if_pos plain, expands]
      rfl
  | case4 b argp s room percent => cases formatted
  | case5 b argp s room percent b' string_p none => cases formatted
  | case6 b argp s room percent b' string_p v some none => cases formatted
  | case7 b argp s room percent b' string_p v some s₁ argp₁ converted ih =>
      obtain ⟨t₁, expands₁, spells₁⟩ := spells.convert digits room converted
      obtain ⟨t, expands, spells'⟩ := ih spells₁ formatted
      rw [List.append_assoc] at spells'
      refine ⟨t₁ ++ t, ?_, spells'⟩
      simp [expansion, percent, some, expands₁, expands]

theorem expansion_conversion {b b' : UInt8} {format : List UInt8} (percent : ¬ b ≠ '%'.toUInt8)
    (converts : Conversion.ofByte b' = some v)
    (expands : expansion small (b :: b' :: format) argp = some t) :
    ∃ t₁ argp₁ t₂, v.expansion small argp = some (t₁, argp₁) ∧
      expansion small format argp₁ = some t₂ ∧ t₁ ++ t₂ = t := by
  rw [expansion, if_neg percent, converts] at expands
  simp only [Option.bind_some] at expands
  split at expands
  next => cases expands
  next t₁ argp₁ first =>
    obtain ⟨t₂, rest, same⟩ := Option.map_eq_some_iff.mp expands
    exact ⟨t₁, argp₁, t₂, first, rest, same⟩

/-- While its expansion fits, the loop gets through a format. -/
theorem Fill.Spells.format_fits (digits : SpellsDigits small intToStr) {string_p : List UInt8}
    (spells : s.Spells maxLength text) (expands : expansion small string_p argp = some t)
    (fits : text.length + t.length + 3 ≤ maxLength.toNat) :
    ∃ s', Fill.formatOr intToStr maxLength string_p argp s = .ok s' := by
  have index := spells.index
  fun_induction Fill.formatOr intToStr maxLength string_p argp s generalizing text t with
  | case1 argp s => exact ⟨s, rfl⟩
  | case2 b string_p argp s full => omega
  | case3 b string_p argp s room plain ih =>
      rw [expansion.eq_def] at expands
      simp only at expands
      rw [if_pos plain] at expands
      obtain ⟨t', rest, rfl⟩ := Option.map_eq_some_iff.mp expands
      have spells' := spells.put b room
      apply ih spells' rest _ spells'.index
      rw [List.length_append, List.length_singleton]
      rw [List.length_cons] at fits
      omega
  | case4 b argp s room percent => simp [expansion, percent] at expands
  | case5 b argp s room percent b' string_p none => simp [expansion, percent, none] at expands
  | case6 b argp s room percent b' string_p v some none =>
      obtain ⟨t₁, argp₁, t', expands₁, expands, rfl⟩ := expansion_conversion percent some expands
      rw [List.length_append] at fits
      obtain ⟨s₁, converted⟩ := spells.convert_fits digits room expands₁ (by omega)
      rw [none] at converted
      cases converted
  | case7 b argp s room percent b' string_p v some s₁ argp₁ converted ih =>
      obtain ⟨t₁, argp₂, t', expands₁, expands, rfl⟩ := expansion_conversion percent some expands
      obtain ⟨t₂, same, spells₁⟩ := spells.convert digits room converted
      rw [expands₁] at same
      cases same
      apply ih spells₁ expands _ spells₁.index
      rw [List.length_append] at fits ⊢
      omega

theorem Fill.Within.formatOr {string_p : List UInt8} (within : s.Within maxLength)
    (failed : Fill.formatOr intToStr maxLength string_p argp s = .error s') :
    s'.debugMsg.length = maxLength.toNat := by
  fun_induction Fill.formatOr intToStr maxLength string_p argp s with
  | case1 argp s => cases failed
  | case2 b string_p argp s full =>
      cases failed
      exact within.size
  | case3 b string_p argp s room plain ih => exact ih (within.put b room) failed
  | case4 b argp s room percent =>
      cases failed
      exact within.size
  | case5 b argp s room percent b' string_p none =>
      cases failed
      exact within.size
  | case6 b argp s room percent b' string_p v some none =>
      cases failed
      unfold Fill.refused
      split
      next =>
        split
        next => exact (within.put _ room).size
        next => exact within.size
      next => exact within.size
  | case7 b argp s room percent b' string_p v some s₁ argp₁ converted ih =>
      exact ih (within.convert room converted) failed

end Spells

/-! ## The printed message -/

section Printed

variable {small : Bool} {intToStr : UInt32 → UInt8 → CString}

theorem spells_start (debugMsg : Vector UInt8 maxlenDUsb) :
    Fill.Spells (UInt16.ofNat maxlenDUsb) ⟨debugMsg.toList, 0⟩ [] := by
  have two : 2 ≤ (UInt16.ofNat maxlenDUsb).toNat := by decide
  exact ⟨⟨debugMsg.size_toArray, two⟩, rfl, List.nil_prefix⟩

/-- A message that is not refused is spelled out, with its NUL. -/
theorem debugSNPrint_spells (digits : SpellsDigits small intToStr)
    (debugMsg : Vector UInt8 maxlenDUsb) (message : List UInt8) (argp : List VaArg) :
    let printed := debugSNPrint intToStr debugMsg.toList (UInt16.ofNat maxlenDUsb) message argp
    printed.status = cyU3PSuccess →
      printed.debugMsg.length = maxlenDUsb ∧ ∃ text, expansion small message argp = some text ∧
        printed.length.toNat = text.length ∧ text.length ≤ 254 ∧
        text ++ [0] <+: printed.debugMsg := by
  unfold debugSNPrint
  rcases formatted : Fill.formatOr intToStr (UInt16.ofNat maxlenDUsb) message argp
      ⟨debugMsg.toList, 0⟩ with s | s
  · intro printed refused
    cases refused
  · intro printed _
    obtain ⟨text, expands, spells⟩ := (spells_start debugMsg).format digits formatted
    have size : s.debugMsg.length = 256 := spells.within.size
    have room : s.i.toNat + 2 ≤ 256 := spells.within.room
    have index := spells.index
    have front := prefix_memcpyAt spells.front [0]
    rw [← index] at front
    refine ⟨?_, text, expands, index, ?_, front⟩
    · have inside : s.i.toNat + [(0 : UInt8)].length ≤ s.debugMsg.length := by
        rw [List.length_singleton]
        omega
      exact (memcpyAt_length inside).trans size
    · rw [List.nil_append] at index
      omega

/-- What reaches the debug channel of a message is its expansion. -/
theorem Message.text_expands (digits : SpellsDigits small intToStr) {m : Message}
    {text : List UInt8} (formatted : m.text intToStr = some text) :
    expansion small m.msg.bytes m.argp = some text := by
  unfold Message.text Message.formatted at formatted
  rw [myDebugSNPrint_eq] at formatted
  simp only at formatted
  split at formatted
  next ok =>
    obtain ⟨-, spelled, expands, length, -, front⟩ :=
      debugSNPrint_spells digits m.buf m.msg.bytes m.argp ok
    obtain ⟨rest, front⟩ := front
    rw [Option.map_some, Option.some.injEq, length, ← front, List.append_assoc,
      List.take_left] at formatted
    rw [expands, formatted]
  next => cases formatted

/-- No byte is written outside the buffer; a message is refused, or the buffer holds its text and
a NUL; and a message is not refused when its text has at most 252 bytes. -/
theorem debugSNPrint_expands (digits : SpellsDigits small intToStr)
    (debugMsg : Vector UInt8 maxlenDUsb) (message : List UInt8) (argp : List VaArg) :
    let printed := debugSNPrint intToStr debugMsg.toList (UInt16.ofNat maxlenDUsb) message argp
    printed.debugMsg.length = maxlenDUsb ∧
      (printed.status = cyU3PErrorBadArgument ∨
        printed.status = cyU3PSuccess ∧ ∃ text, expansion small message argp = some text ∧
          printed.length.toNat = text.length ∧ text.length ≤ 254 ∧
          text ++ [0] <+: printed.debugMsg) ∧
      ∀ text, expansion small message argp = some text → text.length ≤ 252 →
        printed.status = cyU3PSuccess := by
  have fits {text : List UInt8} (expands : expansion small message argp = some text)
      (short : text.length ≤ 252) :
      ∃ s, Fill.formatOr intToStr (UInt16.ofNat maxlenDUsb) message argp ⟨debugMsg.toList, 0⟩ =
        .ok s := by
    apply (spells_start debugMsg).format_fits digits expands
    show 0 + text.length + 3 ≤ 256
    omega
  have spelled := debugSNPrint_spells digits debugMsg message argp
  unfold debugSNPrint at spelled ⊢
  rcases formatted : Fill.formatOr intToStr (UInt16.ofNat maxlenDUsb) message argp
      ⟨debugMsg.toList, 0⟩ with s | s
  · refine ⟨(spells_start debugMsg).within.formatOr formatted, Or.inl rfl,
      fun text expands short => ?_⟩
    obtain ⟨s', through⟩ := fits expands short
    rw [formatted] at through
    cases through
  · rw [formatted] at spelled
    obtain ⟨size, text⟩ := spelled rfl
    exact ⟨size, Or.inr ⟨rfl, text⟩, fun _ _ _ => rfl⟩

/-- The least number. -/
theorem debugSNPrint_expands_least :
    (debugSNPrint spellNumber (Vector.replicate maxlenDUsb (0 : UInt8)).toList
      (UInt16.ofNat maxlenDUsb) ("%d".toList.map Char.toUInt8) [.num 0x80000000]).status =
        cyU3PSuccess ∧
      expansion false ("%d".toList.map Char.toUInt8) [.num 0x80000000] =
        some ("-2147483648".toList.map Char.toUInt8) := by
  have expands : expansion false ("%d".toList.map Char.toUInt8) [.num 0x80000000] =
      some ("-2147483648".toList.map Char.toUInt8) := by decide
  have printed := debugSNPrint_expands spellNumber_digits (Vector.replicate maxlenDUsb 0)
    ("%d".toList.map Char.toUInt8) [.num 0x80000000]
  exact ⟨printed.2.2 _ expands (by decide), expands⟩

end Printed

end Rx888
