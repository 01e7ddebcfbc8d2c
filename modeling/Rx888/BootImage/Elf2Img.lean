import Rx888.BootImage.Format

/-! # The image converter

`elf2img.c`, which the build runs on the linked firmware, with its options as the command line
leaves them. The ELF file is read by position; `fread` stops at the end of the file and tells how
many items came in whole. The image file takes all that is written to it.
-/

namespace Rx888

def cyIntvectorAreaSize : UInt32 := 0x100

/-- The header fields the program looks at. -/
structure ElfHeader where
  ident : List UInt8
  type : UInt16
  machine : UInt16
  version : UInt32
  entry : UInt32
  phoff : UInt32
  phentsize : UInt16
  phnum : UInt16
  deriving DecidableEq, Repr

def sizeofElfHeader : Nat := 52

/-- The header in little-endian memory. -/
def ElfHeader.decode (bytes : List UInt8) : ElfHeader where
  ident := bytes.take 16
  type := leWord16 (bytes.drop 16)
  machine := leWord16 (bytes.drop 18)
  version := leWord32 (bytes.drop 20)
  entry := leWord32 (bytes.drop 24)
  phoff := leWord32 (bytes.drop 28)
  phentsize := leWord16 (bytes.drop 42)
  phnum := leWord16 (bytes.drop 44)

structure ProgramHeader where
  type : UInt32
  offset : UInt32
  vaddr : UInt32
  filesize : UInt32
  memsize : UInt32
  deriving DecidableEq, Repr

def sizeofProgramHeader : Nat := 32

def ProgramHeader.decode (bytes : List UInt8) : ProgramHeader where
  type := leWord32 bytes
  offset := leWord32 (bytes.drop 4)
  vaddr := leWord32 (bytes.drop 8)
  filesize := leWord32 (bytes.drop 16)
  memsize := leWord32 (bytes.drop 20)

def ptLoad : UInt32 := 1

/-- A section limit in words, which the copying loop counts down by. -/
abbrev SectionLimit := { n : UInt32 // 0 < n }

/-- The last size is cut to the longest section. -/
def i2cDeviceSizes : Vector SectionLimit 8 :=
  #v[⟨0x0100, by decide⟩, ⟨0x0200, by decide⟩, ⟨0x0400, by decide⟩, ⟨0x0800, by decide⟩,
    ⟨0x1000, by decide⟩, ⟨0x2000, by decide⟩, ⟨0x4000, by decide⟩, ⟨0x4000, by decide⟩]

/-- The options, with the defaults of the program. -/
structure Elf2ImgOptions where
  i2cConf : UInt8 := 0x1C
  imgType : UInt8 := 0xB0
  loadIntVectors : Bool := false
  deriving DecidableEq, Repr

theorem i2cConf_index (i2cConf : UInt8) : ((i2cConf >>> 1) &&& 7).toNat < 8 := by
  have le : ((i2cConf >>> 1) &&& 7).toNat ≤ 7 := by
    rw [UInt8.toNat_and]
    exact Nat.and_le_right
  omega

/-- The default control byte selects the default size. -/
def Elf2ImgOptions.i2cDevSize (o : Elf2ImgOptions) : SectionLimit :=
  i2cDeviceSizes.get ⟨((o.i2cConf >>> 1) &&& 7).toNat, i2cConf_index o.i2cConf⟩

def checkElfHeader (elfHdr : ElfHeader) : Except String Unit := do
  let ident (i : Nat) := elfHdr.ident.getD i 0
  if ident 0 ≠ 0x7F ∨ ident 1 ≠ 0x45 ∨ ident 2 ≠ 0x4C ∨ ident 3 ≠ 0x46 then
    throw "Invalid ELF header\n"
  if ident 4 ≠ 1 then
    throw "Unknown object type\n"
  if ident 5 ≠ 1 ∧ ident 5 ≠ 2 then
    throw "Bad endian setting\n"
  if elfHdr.version ≠ 1 ∨ ident 6 ≠ 1 then
    throw "Invalid ELF version\n"
  if elfHdr.type ≠ 2 then
    throw "Not an executable image\n"
  if elfHdr.machine ≠ 40 then
    throw "Machine type is not ARM\n"

/-! ## Copying -/

/-- The read position in the ELF file, the checksum so far and the image written so far. -/
structure ImageWrite where
  pos : Nat
  checksum : UInt32
  img : List UInt8
  deriving DecidableEq, Repr

def ImageWrite.fwrite (st : ImageWrite) (bytes : List UInt8) : ImageWrite :=
  { st with img := st.img ++ bytes }

/-- The longest read or write of the copying loop, in words. -/
def bufferWords : UInt32 := 2048

/-- Read and copy the segment contents, through a buffer that is zeroed before each read. -/
def copyContents (elf : List UInt8) (validSz loadSz : UInt32) (st : ImageWrite) : ImageWrite :=
  if loadSz = 0 then st
  else
    let readlen := if validSz < bufferWords then validSz else bufferWords
    let writelen := if loadSz < bufferWords then loadSz else bufferWords
    let got := (elf.drop st.pos).take (4 * readlen.toNat)
    let actualRd := UInt32.ofNat (got.length / 4)
    let buffer := got ++ List.replicate (4 * bufferWords.toNat - got.length) 0
    let checksum := st.checksum + ((wordsOf buffer).take actualRd.toNat).sum
    let counted := if writelen < actualRd then writelen else actualRd
    copyContents elf (validSz - counted) (loadSz - writelen)
      { pos := st.pos + got.length
        checksum := checksum
        img := st.img ++ buffer.take (4 * writelen.toNat) }
termination_by loadSz.toNat
decreasing_by
  have some : loadSz.toNat ≠ 0 := fun zero => ‹¬ loadSz = 0› (UInt32.toNat_inj.mp zero)
  split
  case isTrue => simpa using Nat.pos_of_ne_zero some
  case isFalse long =>
    have le : bufferWords ≤ loadSz := UInt32.not_lt.mp long
    have size : bufferWords.toNat = 2048 := rfl
    rw [UInt32.toNat_sub_of_le _ _ le]
    omega

/-- The sections of one segment. What is left of the segment's words in the file is counted down
only by a section that they fill. -/
def copySections (elf : List UInt8) (devSize : SectionLimit) (memSz fileSz secStart : UInt32)
    (st : ImageWrite) : ImageWrite :=
  if memSz = 0 then st
  else
    let loadSz := if memSz > devSize.val then devSize.val else memSz
    let memSz' := if memSz > devSize.val then memSz - devSize.val else 0
    let validSz := if loadSz > fileSz then fileSz else loadSz
    let fileSz' := if loadSz > fileSz then fileSz else fileSz - validSz
    let st := (st.fwrite (leBytes32 loadSz)).fwrite (leBytes32 secStart)
    copySections elf devSize memSz' fileSz' (secStart + loadSz * 4)
      (copyContents elf validSz loadSz st)
termination_by memSz.toNat
decreasing_by
  have some : memSz.toNat ≠ 0 := fun zero => ‹¬ memSz = 0› (UInt32.toNat_inj.mp zero)
  have limit : 0 < devSize.val.toNat := UInt32.lt_iff_toNat_lt.mp devSize.property
  split
  case isTrue long =>
    rw [UInt32.toNat_sub_of_le _ _ (UInt32.le_of_lt long)]
    omega
  case isFalse => simpa using Nat.pos_of_ne_zero some

def processProgHeader (elf : List UInt8) (o : Elf2ImgOptions) (progHdr : ProgramHeader)
    (st : ImageWrite) : ImageWrite :=
  if progHdr.type = ptLoad then
    let memSz := (progHdr.memsize + 3) / 4
    let fileSz := (progHdr.filesize + 3) / 4
    let secStart := progHdr.vaddr
    if secStart < cyIntvectorAreaSize ∧ o.loadIntVectors = false then
      if fileSz > (cyIntvectorAreaSize - secStart) / 4 then
        let offset := progHdr.offset + (cyIntvectorAreaSize - secStart)
        copySections elf o.i2cDevSize (memSz - (cyIntvectorAreaSize - secStart) / 4)
          (fileSz - (cyIntvectorAreaSize - secStart) / 4) cyIntvectorAreaSize
          { st with pos := offset.toNat }
      else st
    else
      copySections elf o.i2cDevSize memSz fileSz secStart { st with pos := progHdr.offset.toNat }
  else st

/-- The program header at `i`, unless the file ends before it does. -/
def programHeader? (elf : List UInt8) (elfHdr : ElfHeader) (i : Nat) : Option ProgramHeader :=
  let bytes := (elf.drop (elfHdr.phoff + UInt32.ofNat i * elfHdr.phentsize.toUInt32).toNat).take
    sizeofProgramHeader
  if bytes.length = sizeofProgramHeader then some (ProgramHeader.decode bytes) else none

def programHeaders (elf : List UInt8) (elfHdr : ElfHeader) : List ProgramHeader :=
  (List.range elfHdr.phnum.toNat).filterMap (programHeader? elf elfHdr)

/-- The sections of all segments behind the image header. -/
def convert (o : Elf2ImgOptions) (elf : List UInt8) : ImageWrite :=
  (programHeaders elf (ElfHeader.decode elf)).foldl
    (fun st progHdr => processProgHeader elf o progHdr st)
    { pos := sizeofElfHeader, checksum := 0, img := [0x43, 0x59, o.i2cConf, o.imgType] }

/-- The image of an ELF file. -/
def elf2img (o : Elf2ImgOptions) (elf : List UInt8) : Except String (List UInt8) := do
  if elf.length < sizeofElfHeader then
    throw "Failed to read ELF header\n"
  let elfHdr := ElfHeader.decode elf
  checkElfHeader elfHdr
  let st := convert o elf
  return st.img ++ leBytes32 0 ++ leBytes32 elfHdr.entry ++ leBytes32 st.checksum

end Rx888
