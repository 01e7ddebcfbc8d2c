import Rx888.Firmware.Support

/-! # The RX888mk2 analog front end

`radio/rx888r2.c` and the GPIO configuration of `RunApplication.c`.
-/

namespace Rx888

def gpioAttLe : UInt8 := 17
def gpioBiasVhf : UInt8 := 18
def gpioBiasHf : UInt8 := 19
def gpioRando : UInt8 := 20
def gpioLedBlue : UInt8 := 21
def gpioPga : UInt8 := 24
def gpioAttData : UInt8 := 26
def gpioAttClk : UInt8 := 27
def gpioShdwn : UInt8 := 28
def gpioDith : UInt8 := 29
def gpioVhfEn : UInt8 := 35
def gpioVgaLe : UInt8 := 38

/-! The bits of the control word, `enum GPIOPin`. -/

def shdwn : UInt32 := (1 : UInt32) <<< 5
def dith : UInt32 := (1 : UInt32) <<< 6
def rando : UInt32 := (1 : UInt32) <<< 7
def biasHf : UInt32 := (1 : UInt32) <<< 8
def biasVhf : UInt32 := (1 : UInt32) <<< 9
def ledBlue : UInt32 := (1 : UInt32) <<< 11
def vhfEn : UInt32 := (1 : UInt32) <<< 15
def pgaEn : UInt32 := (1 : UInt32) <<< 16

/-- `CyU3PGpioSetValue`, its status discarded. -/
def gpioSetValue (pin : UInt8) (value : Bool) : Fw Unit := void (.gpioSetValue pin value)

def rx888r2GpioSet (mdata : UInt32) : Fw Unit := do
  gpioSetValue gpioShdwn ((mdata &&& shdwn) == shdwn)
  gpioSetValue gpioDith ((mdata &&& dith) == dith)
  gpioSetValue gpioRando ((mdata &&& rando) == rando)
  gpioSetValue gpioBiasHf ((mdata &&& biasHf) == biasHf)
  gpioSetValue gpioBiasVhf ((mdata &&& biasVhf) == biasVhf)
  gpioSetValue gpioLedBlue ((mdata &&& ledBlue) == ledBlue)
  gpioSetValue gpioPga ((mdata &&& pgaEn) != pgaEn)
  gpioSetValue gpioVhfEn ((mdata &&& vhfEn) == vhfEn)

/-- Drive the ADC SHDN line: high parks the ADC, low wakes it. -/
def rx888r2AdcStandby (standby : Bool) : Fw Unit := gpioSetValue gpioShdwn standby

/-- Add `bit` to the word when the pin can be read and is at `level`. -/
def gpioBit (pin : UInt8) (level : Bool) (bit : UInt32) (s : UInt32) : Fw UInt32 := do
  let v : Except Failure Bool ← call (.gpioGetValue pin)
  match v with
  | .ok v => return if v == level then s ||| bit else s
  | .error _ => return s

def rx888r2ReadGpioState : Fw UInt32 := do
  let s ← gpioBit gpioShdwn true shdwn 0
  let s ← gpioBit gpioDith true dith s
  let s ← gpioBit gpioRando true rando s
  let s ← gpioBit gpioBiasHf true biasHf s
  let s ← gpioBit gpioBiasVhf true biasVhf s
  let s ← gpioBit gpioLedBlue true ledBlue s
  let s ← gpioBit gpioVhfEn true vhfEn s
  gpioBit gpioPga false pgaEn s

/-- `ConfGPIOSimple` in its output mode. -/
def confGpioSimpleOut (pin : UInt8) : Fw Unit := do
  let status : ReturnStatus ← call (.deviceGpioOverride pin)
  checkStatusSilent "CyU3PDeviceGpioOverride" status
  let status : ReturnStatus ← call (.gpioSetSimpleConfig pin false)
  checkStatusSilent "CyU3PGpioSetSimpleConfig" status

/-- `ConfGPIOsimpleout` for each pin in turn. -/
def confOutputs : List UInt8 → Fw Unit
  | [] => pure ()
  | pin :: pins => do
    confGpioSimpleOut pin
    confOutputs pins

def rx888r2GpioInitialize : Fw Unit := do
  confOutputs [gpioShdwn, gpioDith, gpioRando, gpioBiasHf, gpioBiasVhf, gpioLedBlue, gpioVhfEn,
    gpioPga, gpioAttLe, gpioAttData, gpioAttClk, gpioVgaLe]
  rx888r2GpioSet ledBlue
  gpioSetValue gpioAttLe false
  gpioSetValue gpioAttClk false
  gpioSetValue gpioAttData false
  gpioSetValue gpioVgaLe true
  gpioSetValue gpioPga true
  rx888r2AdcStandby true

/-- Clock `bits` bits of `value` out on the shared serial lines, most significant
of the `mask` first. -/
def gpioShiftBits (mask : UInt8) : Nat → UInt8 → Fw Unit
  | 0, _ => pure ()
  | bits + 1, value => do
    gpioSetValue gpioAttData ((value &&& mask) != 0)
    gpioSetValue gpioAttClk true
    gpioSetValue gpioAttClk false
    gpioShiftBits mask bits (value <<< 1)

/-- Shift a value out MSB first, then pulse the latch pin high. -/
def gpioShiftOut (latchPin value : UInt8) (bits : Nat) : Fw Unit := do
  gpioSetValue latchPin false
  gpioSetValue gpioAttClk false
  gpioShiftBits ((1 : UInt8) <<< (UInt8.ofNat bits - 1)) bits value
  gpioSetValue latchPin true

/-- PE4304, 64 steps. -/
def rx888r2SetAttenuator (value : UInt8) : Fw Unit := do
  gpioShiftOut gpioAttLe value 6
  gpioSetValue gpioAttLe false

/-- AD8370, 128 steps. -/
def rx888r2SetGain (value : UInt8) : Fw Unit := do
  gpioShiftOut gpioVgaLe value 8
  gpioSetValue gpioAttData false

end Rx888
