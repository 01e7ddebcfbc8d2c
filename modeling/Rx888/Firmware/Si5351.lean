import Rx888.Firmware.Support

/-! # The I2C module and the Si5351 clock driver

`i2cmodule.c` and `driver/Si5351.c`. Register numbers and values are those of
the driver; the divider arithmetic is the 32-bit arithmetic of the source.
-/

namespace Rx888

def i2cInit : Fw ReturnStatus := do
  let status : ReturnStatus ← call .i2cInit
  if status ≠ cyU3PSuccess then
    return status
  call .i2cSetConfig

/-- `glCounter[1]++` on a failed transfer. -/
def countI2cFailure (status : ReturnStatus) : Fw Unit :=
  if status ≠ cyU3PSuccess then countUp 1 else pure ()

/-- `I2cTransfer` with `isRead`: the bytes read, or the status it failed with. A
count of zero succeeds without a transfer. -/
def i2cTransferRead (byteAddress devAddr byteCount : UInt8) : Fw (Except Failure (List UInt8)) := do
  if byteCount = 0 then
    return .ok []
  let preamble : I2cPreamble := ⟨[devAddr, byteAddress, devAddr ||| 0x01], 0x0002⟩
  let answer : Except Failure (Vector UInt8 byteCount.toNat) ←
    call (.i2cReceiveBytes preamble byteCount)
  countI2cFailure (statusOf answer)
  return answer.map Vector.toList

/-- `I2cTransfer` without `isRead`: `byteCount` bytes from the front of the buffer. -/
def i2cTransferWrite (byteAddress devAddr byteCount : UInt8) (buffer : List UInt8) :
    Fw ReturnStatus := do
  if byteCount = 0 then
    return cyU3PSuccess
  let status : ReturnStatus ←
    call (.i2cTransmitBytes ⟨[devAddr, byteAddress], 0x0000⟩ (buffer.take byteCount.toNat))
  countI2cFailure status
  return status

def i2cTransferW1 (byteAddress devAddr data : UInt8) : Fw ReturnStatus :=
  i2cTransferWrite byteAddress devAddr 1 [data]

def siClk0Control : UInt8 := 16
def siSynthPllA : UInt8 := 26
def siSynthMs0 : UInt8 := 42
def siPllReset : UInt8 := 177
def siOutputEnableCtrl : UInt8 := 3
def siOebPinEnable : UInt8 := 9
def siClk30DisState : UInt8 := 24
def siClk74DisState : UInt8 := 25
def siSscEnable : UInt8 := 149
def siFanoutEnable : UInt8 := 187
def si5351CrystalLoad : UInt8 := 183
def si5351PllInputSource : UInt8 := 15

def siRDiv1 : UInt32 := 0
def siRDiv2 : UInt32 := 0x10
def siClkSrcPllA : UInt8 := 0
def si5351Freq : UInt32 := 27000000
def si5351Addr : UInt8 := 0xC0

/-- Write registers in order; the first failure ends the sequence. -/
def writeRegisters : List (UInt8 × UInt8) → Fw ReturnStatus
  | [] => pure cyU3PSuccess
  | (reg, data) :: rest => do
    let status ← i2cTransferW1 reg si5351Addr data
    if status ≠ cyU3PSuccess then
      return status
    writeRegisters rest

/-- The power-up programming, register by register. -/
def si5351InitSequence : List (UInt8 × UInt8) :=
  [(siOutputEnableCtrl, 0xFF)] ++
  (List.range 8).map (fun clk => (siClk0Control + UInt8.ofNat clk, 0x80)) ++
  [(si5351PllInputSource, 0x00), (siOebPinEnable, 0x00), (siClk30DisState, 0x00),
    (siClk74DisState, 0x00), (siSscEnable, 0x00), (si5351CrystalLoad, 0x52),
    (siFanoutEnable, 0xD0), (siPllReset, 0xAC), (siOutputEnableCtrl, 0x00)]

def si5351Init : Fw ReturnStatus := writeRegisters si5351InitSequence

/-- The eight bytes of a PLL or MultiSynth register block. -/
def synthBytes (p1 p2 p3 : UInt32) (rDiv : UInt8) : List UInt8 :=
  [((p3 &&& 0x0000FF00) >>> 8).toUInt8,
    (p3 &&& 0x000000FF).toUInt8,
    ((p1 &&& 0x00030000) >>> 16).toUInt8 ||| rDiv,
    ((p1 &&& 0x0000FF00) >>> 8).toUInt8,
    (p1 &&& 0x000000FF).toUInt8,
    (((p3 &&& 0x000F0000) >>> 12) ||| ((p2 &&& 0x000F0000) >>> 16)).toUInt8,
    ((p2 &&& 0x0000FF00) >>> 8).toUInt8,
    (p2 &&& 0x000000FF).toUInt8]

def setupPLL (pll mult : UInt8) (num denom : UInt32) : Fw ReturnStatus :=
  let p1 := 128 * mult.toUInt32 + (128 * num) / denom - 512
  let p2 := 128 * num - denom * ((128 * num) / denom)
  let p3 := denom
  i2cTransferWrite pll si5351Addr 8 (synthBytes p1 p2 p3 0)

def setupMultisynth (synth : UInt8) (divider : UInt32) (rDiv : UInt8) : Fw ReturnStatus :=
  let p1 := 128 * divider - 512
  let p2 := 0
  let p3 := 1
  i2cTransferWrite synth si5351Addr 8 (synthBytes p1 p2 p3 rDiv)

/-- PLL A is locked when register 0 can be read and its bit 5 is clear. -/
def si5351PllLocked : Fw Bool := do
  let rc ← i2cTransferRead 0x00 si5351Addr 1
  match rc with
  | .error _ => return false
  | .ok data => return (data.headD 0xFF &&& 0x20) == 0

/-- CLK0 is powered up when register 16 can be read and its bit 7 is clear. -/
def si5351Clk0Enabled : Fw Bool := do
  let rc ← i2cTransferRead siClk0Control si5351Addr 1
  match rc with
  | .error _ => return false
  | .ok data => return (data.headD 0xFF &&& 0x80) == 0

/-- The loop that brings a low frequency up by the R divider, started with the
number of rounds it may still need: twenty doublings take any positive frequency
past a million. -/
def scaleFrequency : Nat → UInt32 → UInt32 → UInt32 × UInt32
  | 0, frequency, rdiv => (frequency, rdiv)
  | rounds + 1, frequency, rdiv =>
      if frequency < 1000000 then scaleFrequency rounds (frequency * 2) (rdiv + siRDiv2)
      else (frequency, rdiv)

/-- The divider settings for an output frequency already scaled. -/
structure SynthSetup where
  divider : UInt32
  mult : UInt8
  num : UInt32
  denom : UInt32
  deriving DecidableEq, Repr

def synthSetup (frequency : UInt32) : SynthSetup :=
  let divider := 900000000 / frequency
  let divider := if divider % 2 ≠ 0 then divider - 1 else divider
  let pllFreq := divider * frequency
  let mult := (pllFreq / si5351Freq).toUInt8
  let l := pllFreq % si5351Freq
  let num := (l.toUInt64 * 1048575 / si5351Freq.toUInt64).toUInt32
  { divider, mult, num, denom := 1048575 }

def si5351aSetFrequencyA (freq : UInt32) : Fw ReturnStatus := do
  if freq = 0 then
    return ← i2cTransferW1 siClk0Control si5351Addr 0x80
  let (frequency, rdiv) := scaleFrequency 20 freq siRDiv1
  let setup := synthSetup frequency
  let status ← setupPLL siSynthPllA setup.mult setup.num setup.denom
  if status ≠ cyU3PSuccess then
    let ec : UInt32 ← call .i2cGetErrorCode
    debugPrint "Si5351 SetupPLL A failed: %d (i2c ec=%d)" [.num status, .num ec]
    return status
  let status ← setupMultisynth siSynthMs0 setup.divider rdiv.toUInt8
  if status ≠ cyU3PSuccess then
    debugPrint "Si5351 SetupMultisynth 0 failed: %d" [.num status]
    return status
  let status ← i2cTransferW1 siPllReset si5351Addr 0x20
  if status ≠ cyU3PSuccess then
    debugPrint "Si5351 PLL A reset failed: %d" [.num status]
    return status
  let status ← i2cTransferW1 siClk0Control si5351Addr (0x4F ||| siClkSrcPllA)
  if status ≠ cyU3PSuccess then
    debugPrint "Si5351 CLK0 control failed: %d" [.num status]
  return status

end Rx888
