import Rx888.Gpif.Waveform

/-! # The generated tables

`SDDC_GPIF.h`, as the designer tool writes it out and `CyU3PGpifLoad` loads it.
-/

namespace Rx888

open Gpif

def cyFxGpifTransition : List UInt16 := [0x0000, 0xAAAA, 0x5555, 0xFFFF, 0x3333]

def cyFxGpifWavedata : List WaveData := [
  ⟨(0x1E739E01, 0x00000100, 0x80000000), (0x00000000, 0x00000000, 0x00000000)⟩,
  ⟨(0x2E739A04, 0x20010002, 0x80000080), (0x00000000, 0x00000000, 0x00000000)⟩,
  ⟨(0x1E739A03, 0x24000104, 0x80000080), (0x1E739E01, 0x00000100, 0x80000000)⟩,
  ⟨(0x1E73D406, 0x24000108, 0x80000040), (0x3E739C07, 0x00000000, 0x80000100)⟩,
  ⟨(0x3E739C05, 0x00000000, 0x80000100), (0x1E73D402, 0x20000108, 0x80000040)⟩,
  ⟨(0x1E73DA09, 0x00000108, 0x80000000), (0x00000000, 0x00000000, 0x00000000)⟩,
  ⟨(0x2E739A04, 0x20010002, 0x80000080), (0x1E739E01, 0x00000100, 0x80000000)⟩,
  ⟨(0x1E73DA08, 0x04000108, 0x80000000), (0x00000000, 0x00000000, 0x00000000)⟩]

def cyFxGpifWavedataPosition : List UInt8 := [0, 1, 2, 3, 4, 5, 6, 7, 2, 6]

def cyFxGpifRegValue : List UInt32 := [
  0x80008300, 0x00000067, 0x00000000, 0x00000046, 0x00000000, 0x00000000, 0x00000002, 0x00000082,
  0x00000782, 0x00000000, 0x0000FFFF, 0x00000000, 0x00000000, 0x00000000, 0x00000000, 0x00000000,
  0x00000000, 0x00000000, 0x00000000, 0x00000000, 0x00000000, 0x00000000, 0x00000000, 0x00000000,
  0x00000000, 0x00000000, 0x00000000, 0x00000000, 0x00000000, 0x00000006, 0x00000000, 0x0000FFFF,
  0x0000010A, 0x00000000, 0x0000FFFF, 0x00000000, 0x0000FFFF, 0x00000109, 0x00000000, 0x00001FFE,
  0x00000000, 0x00000000, 0x00000000, 0x00000000, 0x00000000, 0x00000000, 0x00000000, 0x00000000,
  0x00000000, 0x00000000, 0x00000000, 0x00000000, 0x00000000, 0x00000000, 0x00000000, 0x00000000,
  0x00000000, 0x00000000, 0x00000000, 0x00000000, 0x00000000, 0x00000000, 0x00000000, 0x80010400,
  0x80010401, 0x80010402, 0x80010403, 0x00000000, 0x00000000, 0x00000000, 0x00000000, 0x00000000,
  0x00000000, 0x00000000, 0x00000000, 0xFFFFFFC1]

def cyFxGpifConfig : Config where
  stateData := cyFxGpifWavedata
  statePosition := cyFxGpifWavedataPosition
  functionData := cyFxGpifTransition
  regData := cyFxGpifRegValue

end Rx888
