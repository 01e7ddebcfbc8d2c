import Rx888.BootImage.Copy

/-! # What an image puts into memory

An ELF file means the memory its loadable segments make, each one's bytes of the file and zeros
behind them; an image means the memory its sections make. The two agree but for the interrupt
vectors, which the program leaves out unless it is told otherwise.
-/

namespace Rx888

open MemoryImage

namespace ProgramHeader

def contents (p : ProgramHeader) (elf : List UInt8) : List UInt8 :=
  padded 0 (elf.drop p.offset.toNat) p.filesize.toNat p.memsize.toNat

def patch (elf : List UInt8) (p : ProgramHeader) : Patch 32 UInt8 :=
  ⟨p.vaddr.toBitVec, p.contents elf⟩

/-- How many bytes of the segment go to the interrupt vectors and are left out. -/
def cut (o : Elf2ImgOptions) (p : ProgramHeader) : Nat :=
  if o.loadIntVectors then 0 else 0x100 - p.vaddr.toNat

/-- What the program takes for granted of a segment: whole words, which it warns about; contents
that are in the file, and in the address space; bytes of the file behind the interrupt vectors where
these are left out and the segment reaches past them; and zeros that fit into one section behind the
contents. -/
structure Regular (o : Elf2ImgOptions) (elf : List UInt8) (p : ProgramHeader) : Prop where
  aligned : 4 ∣ p.vaddr.toNat
  wholeFile : 4 ∣ p.filesize.toNat
  wholeMem : 4 ∣ p.memsize.toNat
  fits : p.filesize.toNat ≤ p.memsize.toNat
  inSpace : p.vaddr.toNat + p.memsize.toNat ≤ 2 ^ 32
  inFile : p.offset.toNat + p.filesize.toNat ≤ elf.length
  addressable : p.offset.toNat + p.filesize.toNat < 2 ^ 32
  behindVectors : p.cut o < p.filesize.toNat ∨ p.memsize.toNat ≤ p.cut o ∨ p.cut o = 0
  zerosLast : ZerosLast o.i2cDevSize.val.toNat ((p.filesize.toNat - p.cut o) / 4)
    ((p.memsize.toNat - p.cut o) / 4)

end ProgramHeader

/-- The addresses an image leaves alone. -/
def leftOut (o : Elf2ImgOptions) (a : BitVec 32) : Bool :=
  !o.loadIntVectors && decide (a.toNat < 0x100)

/-- The segments that go to memory. -/
def loadable (elf : List UInt8) : List ProgramHeader :=
  (programHeaders elf (ElfHeader.decode elf)).filter fun p => p.type = ptLoad

/-- The memory after the segments are in place. -/
def elfLoad (elf : List UInt8) (m : Memory 32 UInt8) : Memory 32 UInt8 :=
  m.patchAll ((loadable elf).map (ProgramHeader.patch elf))

/-! ## One segment -/

section Segment

variable {o : Elf2ImgOptions} {elf : List UInt8} {p : ProgramHeader}

theorem ProgramHeader.contents_length (regular : p.Regular o elf) :
    (p.contents elf).length = p.memsize.toNat := by
  have inFile := regular.inFile
  apply padded_length
  · rw [List.length_drop]
    omega
  · exact regular.fits

/-- An address by its distance from the segment. -/
theorem distance_toNat (a : BitVec 32) (vaddr : UInt32) :
    (a - vaddr.toBitVec).toNat =
      if vaddr.toNat ≤ a.toNat then a.toNat - vaddr.toNat else a.toNat + 2 ^ 32 - vaddr.toNat := by
  have bound := vaddr.toNat_lt
  have bound' := a.isLt
  rw [BitVec.toNat_sub, UInt32.toNat_toBitVec]
  split
  case isTrue after =>
    have wrap : 2 ^ 32 - vaddr.toNat + a.toNat = a.toNat - vaddr.toNat + 2 ^ 32 := by omega
    rw [wrap, Nat.add_mod_right, Nat.mod_eq_of_lt (by omega)]
  case isFalse before =>
    rw [Nat.mod_eq_of_lt (by omega)]
    omega

theorem leftOut_iff {a : BitVec 32} :
    leftOut o a = true ↔ o.loadIntVectors = false ∧ a.toNat < 0x100 := by
  unfold leftOut
  simp

theorem cut_of_loaded (load : o.loadIntVectors = true) : p.cut o = 0 := if_pos load

theorem cut_of_skipped (skip : o.loadIntVectors = false) : p.cut o = 0x100 - p.vaddr.toNat := by
  unfold ProgramHeader.cut
  rw [skip]
  rfl

theorem leftOut_front {a : BitVec 32} (front : (a - p.vaddr.toBitVec).toNat < p.cut o) :
    leftOut o a = true := by
  have bound := a.isLt
  rw [distance_toNat] at front
  cases vectors : o.loadIntVectors with
  | true =>
      rw [cut_of_loaded vectors] at front
      omega
  | false =>
      rw [cut_of_skipped vectors] at front
      rw [leftOut_iff]
      refine ⟨vectors, ?_⟩
      split at front <;> omega

theorem leftOut_apart {a : BitVec 32} {n : Nat} (inSpace : p.vaddr.toNat + n ≤ 2 ^ 32)
    (out : leftOut o a = true) :
    (a - p.vaddr.toBitVec).toNat < p.cut o ∨ n ≤ (a - p.vaddr.toBitVec).toNat := by
  obtain ⟨skip, low⟩ := leftOut_iff.mp out
  rw [distance_toNat, cut_of_skipped skip]
  split <;> omega

/-- Sections that put into memory what the patches do, but for what is left out. -/
def Places (o : Elf2ImgOptions) (sections : List Section) (patches : List (Patch 32 UInt8)) :
    Prop :=
  ∀ m m' : Memory 32 UInt8, (m.keeping (leftOut o) m').patchAll (sections.map Section.patch) =
    m.keeping (leftOut o) (m'.patchAll patches)

theorem skipped_places (inside : (p.contents elf).length ≤ p.cut o) :
    Places o [] [p.patch elf] := by
  intro m m'
  symm
  apply Memory.keeping_put_inside
  intro a within
  exact leftOut_front (Nat.lt_of_lt_of_le within inside)

theorem pieces_place {sections : List Section} {pieces : List (List UInt8)}
    (regular : p.Regular o elf) (within : p.cut o ≤ p.filesize.toNat)
    (placed : sections.map Section.patch =
      consecutive (p.vaddr.toBitVec + BitVec.ofNat 32 (p.cut o)) pieces)
    (contents : pieces.flatten = padded 0 (elf.drop (p.offset.toNat + p.cut o))
      (p.filesize.toNat - p.cut o) (p.memsize.toNat - p.cut o)) :
    Places o sections [p.patch elf] := by
  have inFile := regular.inFile
  have small := p.filesize.toNat_lt
  have room := p.memsize.toNat_lt
  have length := ProgramHeader.contents_length regular
  have behind : pieces.flatten = (p.contents elf).drop (p.cut o) := by
    unfold ProgramHeader.contents
    rw [contents, drop_padded within (by rw [List.length_drop]; omega), List.drop_drop]
  intro m m'
  rw [placed, patchAll_consecutive, behind, Memory.keeping_put_drop (by omega) (by omega)]
  · rfl
  · intro a front
    exact leftOut_front front
  · intro a out
    rw [length]
    exact leftOut_apart regular.inSpace out
  · rw [behind, List.length_drop]
    omega

theorem sections_place {memSz fileSz secStart : UInt32} {st : ImageWrite}
    (regular : p.Regular o elf) (within : p.cut o ≤ p.filesize.toNat)
    (mem : 4 * memSz.toNat = p.memsize.toNat - p.cut o)
    (file : 4 * fileSz.toNat = p.filesize.toNat - p.cut o)
    (start : secStart.toBitVec = p.vaddr.toBitVec + BitVec.ofNat 32 (p.cut o))
    (pos : st.pos = p.offset.toNat + p.cut o) :
    ∃ sections : List Section,
      (copySections elf o.i2cDevSize memSz fileSz secStart st).img =
        st.img ++ sections.flatMap Section.bytes ∧
      (copySections elf o.i2cDevSize memSz fileSz secStart st).checksum =
        st.checksum + (sections.flatMap fun s => wordsOf s.data).sum ∧
      Places o sections [p.patch elf] := by
  have fits := regular.fits
  have inFile := regular.inFile
  have last := regular.zerosLast
  rw [← mem, ← file, Nat.mul_div_cancel_left _ (by decide), Nat.mul_div_cancel_left _ (by decide)]
    at last
  obtain ⟨sections, pieces, img, checksum, placed, contents⟩ :=
    copySections_placed elf memSz fileSz secStart st (by omega) (by omega) last
  refine ⟨sections, img, checksum, ?_⟩
  rw [start] at placed
  rw [mem, file, pos] at contents
  exact pieces_place regular within placed contents

theorem words_toNat {n : UInt32} (whole : 4 ∣ n.toNat) : 4 * ((n + 3) / 4).toNat = n.toNat := by
  have bound := n.toNat_lt
  rw [UInt32.toNat_div, UInt32.toNat_add]
  show 4 * ((n.toNat + 3) % 2 ^ 32 / 4) = n.toNat
  omega

/-- The interrupt vectors' share of a segment that begins among them. -/
theorem share_toNat {vaddr : UInt32} (low : vaddr < cyIntvectorAreaSize) :
    (cyIntvectorAreaSize - vaddr).toNat = 0x100 - vaddr.toNat ∧
      ((cyIntvectorAreaSize - vaddr) / 4).toNat = (0x100 - vaddr.toNat) / 4 := by
  have share : (cyIntvectorAreaSize - vaddr).toNat = 0x100 - vaddr.toNat :=
    UInt32.toNat_sub_of_le _ _ (UInt32.le_of_lt low)
  refine ⟨share, ?_⟩
  rw [UInt32.toNat_div, share]
  rfl

/-- A segment whose bytes of the file end among the vectors left out is dropped, whatever zeros it
has behind them. -/
theorem processProgHeader_dropped (load : p.type = ptLoad)
    (vectors : p.vaddr < cyIntvectorAreaSize ∧ o.loadIntVectors = false)
    (short : (p.filesize + 3) / 4 ≤ (cyIntvectorAreaSize - p.vaddr) / 4) (st : ImageWrite) :
    processProgHeader elf o p st = st := by
  unfold processProgHeader
  rw [if_pos load]
  simp only
  rw [if_pos vectors, if_neg (UInt32.not_lt.mpr short)]

theorem processProgHeader_places (regular : p.Regular o elf) (load : p.type = ptLoad)
    (st : ImageWrite) :
    ∃ sections : List Section,
      (processProgHeader elf o p st).img = st.img ++ sections.flatMap Section.bytes ∧
      (processProgHeader elf o p st).checksum =
        st.checksum + (sections.flatMap fun s => wordsOf s.data).sum ∧
      Places o sections [p.patch elf] := by
  have mem := words_toNat regular.wholeMem
  have file := words_toNat regular.wholeFile
  have fits := regular.fits
  have aligned := regular.aligned
  by_cases vectors : p.vaddr < cyIntvectorAreaSize ∧ o.loadIntVectors = false
  · obtain ⟨low, skip⟩ := vectors
    obtain ⟨share, words⟩ := share_toNat low
    have below : p.vaddr.toNat < 0x100 := UInt32.lt_iff_toNat_lt.mp low
    have cut := cut_of_skipped (p := p) skip
    by_cases enough : (p.filesize + 3) / 4 > (cyIntvectorAreaSize - p.vaddr) / 4
    · have more := UInt32.lt_iff_toNat_lt.mp enough
      unfold processProgHeader
      rw [if_pos load]
      simp only
      rw [if_pos ⟨low, skip⟩, if_pos enough]
      have taken (n : UInt32) (le : (0x100 - p.vaddr.toNat) / 4 ≤ n.toNat) :
          (n - (cyIntvectorAreaSize - p.vaddr) / 4).toNat =
            n.toNat - (0x100 - p.vaddr.toNat) / 4 := by
        rw [UInt32.toNat_sub_of_le _ _ (UInt32.le_iff_toNat_le.mpr (by omega)), words]
      have addressable := regular.addressable
      apply sections_place regular (by omega)
      · rw [taken _ (by omega)]
        omega
      · rw [taken _ (by omega)]
        omega
      · apply BitVec.eq_of_toNat_eq
        rw [cut, BitVec.toNat_add, BitVec.toNat_ofNat]
        show 0x100 = (p.vaddr.toNat + (0x100 - p.vaddr.toNat) % 2 ^ 32) % 2 ^ 32
        omega
      · show (p.offset + (cyIntvectorAreaSize - p.vaddr)).toNat = _
        rw [UInt32.toNat_add, share, cut, Nat.mod_eq_of_lt (by omega)]
    · have less := UInt32.le_iff_toNat_le.mp (UInt32.not_lt.mp enough)
      rw [processProgHeader_dropped load ⟨low, skip⟩ (UInt32.not_lt.mp enough)]
      have behind := regular.behindVectors
      have length := ProgramHeader.contents_length regular
      refine ⟨[], ?_, ?_, skipped_places (by omega)⟩
      · rw [List.flatMap_nil, List.append_nil]
      · rw [List.flatMap_nil]
        exact (UInt32.add_zero _).symm
  · have cut : p.cut o = 0 := by
      cases load : o.loadIntVectors with
      | true => exact cut_of_loaded load
      | false =>
          have high := UInt32.not_lt.mp fun low => vectors ⟨low, load⟩
          have above : 0x100 ≤ p.vaddr.toNat := UInt32.le_iff_toNat_le.mp high
          rw [cut_of_skipped load]
          omega
    unfold processProgHeader
    rw [if_pos load]
    simp only
    rw [if_neg vectors]
    apply sections_place regular (by omega) (by omega) (by omega)
    · rw [cut]
      exact (BitVec.add_zero _).symm
    · rw [cut]
      rfl

end Segment

/-! ## The whole file -/

section File

variable {o : Elf2ImgOptions} {elf : List UInt8}

theorem Places.nil : Places o [] [] := fun _ _ => rfl

theorem Places.append {sections sections' : List Section} {patches patches' : List (Patch 32 UInt8)}
    (first : Places o sections patches) (second : Places o sections' patches') :
    Places o (sections ++ sections') (patches ++ patches') := by
  intro m m'
  rw [List.map_append, Memory.patchAll_append, Memory.patchAll_append, first m m', second m]

theorem headers_place (headers : List ProgramHeader) (st : ImageWrite)
    (regular : ∀ p ∈ headers, p.type = ptLoad → p.Regular o elf) :
    ∃ sections : List Section,
      (headers.foldl (fun st p => processProgHeader elf o p st) st).img =
        st.img ++ sections.flatMap Section.bytes ∧
      (headers.foldl (fun st p => processProgHeader elf o p st) st).checksum =
        st.checksum + (sections.flatMap fun s => wordsOf s.data).sum ∧
      Places o sections
        ((headers.filter fun p => p.type = ptLoad).map (ProgramHeader.patch elf)) := by
  induction headers generalizing st with
  | nil =>
      refine ⟨[], ?_, ?_, Places.nil⟩
      · rw [List.foldl_nil, List.flatMap_nil, List.append_nil]
      · rw [List.foldl_nil, List.flatMap_nil]
        exact (UInt32.add_zero _).symm
  | cons p headers ih =>
      have later := fun st => ih st fun q mem => regular q (List.mem_cons_of_mem _ mem)
      rw [List.foldl_cons]
      by_cases load : p.type = ptLoad
      · obtain ⟨first, img, checksum, places⟩ :=
          processProgHeader_places (regular p List.mem_cons_self load) load st
        obtain ⟨rest, img', checksum', places'⟩ := later (processProgHeader elf o p st)
        refine ⟨first ++ rest, ?_, ?_, ?_⟩
        · rw [img', img, List.flatMap_append, List.append_assoc]
        · rw [checksum', checksum, List.flatMap_append, List.sum_append, UInt32.add_assoc]
        · rw [List.filter_cons_of_pos (by simpa using load), List.map_cons]
          exact places.append places'
      · have skipped : processProgHeader elf o p st = st := if_neg load
        rw [skipped, List.filter_cons_of_neg (by simpa using load)]
        exact later st

theorem processProgHeader_sections (o : Elf2ImgOptions) (elf : List UInt8) (p : ProgramHeader)
    (st : ImageWrite) :
    ∃ sections : List Section,
      (processProgHeader elf o p st).img = st.img ++ sections.flatMap Section.bytes ∧
      ∀ s ∈ sections, s.length ≤ o.i2cDevSize.val := by
  have unchanged : ∃ sections : List Section, st.img = st.img ++ sections.flatMap Section.bytes ∧
      ∀ s ∈ sections, s.length ≤ o.i2cDevSize.val := by
    refine ⟨[], ?_, by simp⟩
    rw [List.flatMap_nil, List.append_nil]
  unfold processProgHeader
  split
  · simp only
    split
    · split
      · exact copySections_sections elf o.i2cDevSize _ _ _ _
      · exact unchanged
    · exact copySections_sections elf o.i2cDevSize _ _ _ _
  · exact unchanged

theorem headers_sections (o : Elf2ImgOptions) (elf : List UInt8) (headers : List ProgramHeader)
    (st : ImageWrite) :
    ∃ sections : List Section,
      (headers.foldl (fun st p => processProgHeader elf o p st) st).img =
        st.img ++ sections.flatMap Section.bytes ∧
      ∀ s ∈ sections, s.length ≤ o.i2cDevSize.val := by
  induction headers generalizing st with
  | nil =>
      refine ⟨[], ?_, by simp⟩
      rw [List.foldl_nil, List.flatMap_nil, List.append_nil]
  | cons p headers ih =>
      obtain ⟨first, img, limit⟩ := processProgHeader_sections o elf p st
      obtain ⟨rest, img', limit'⟩ := ih (processProgHeader elf o p st)
      refine ⟨first ++ rest, ?_, ?_⟩
      · rw [List.foldl_cons, img', img, List.flatMap_append, List.append_assoc]
      · intro s mem
        rcases List.mem_append.mp mem with mem | mem
        · exact limit s mem
        · exact limit' s mem

theorem elf2img_ok {image : List UInt8} (ok : elf2img o elf = .ok image) :
    image = (convert o elf).img ++ leBytes32 0 ++ leBytes32 (ElfHeader.decode elf).entry ++
      leBytes32 (convert o elf).checksum := by
  unfold elf2img at ok
  by_cases short : elf.length < sizeofElfHeader
  · rw [if_pos short] at ok
    cases ok
  · rw [if_neg short] at ok
    simp only at ok
    cases check : checkElfHeader (ElfHeader.decode elf) with
    | error e =>
        rw [check] at ok
        cases ok
    | ok _ =>
        rw [check] at ok
        cases ok
        rfl

/-- Whatever the ELF file is that the program accepts, its image is well formed: the sections are
no longer than the EEPROM size allows, the entry address is the file's and nothing is left over. -/
theorem elf2img_wellFormed {image : List UInt8} (ok : elf2img o elf = .ok image) :
    ∃ b, readImage image = some b ∧ b.control = o.i2cConf ∧ b.imageType = o.imgType ∧
      b.entry = (ElfHeader.decode elf).entry ∧
      ∀ s ∈ b.sections, s.length ≤ o.i2cDevSize.val := by
  obtain ⟨sections, img, limit⟩ := headers_sections o elf
    (programHeaders elf (ElfHeader.decode elf))
    { pos := sizeofElfHeader, checksum := 0, img := [0x43, 0x59, o.i2cConf, o.imgType] }
  refine ⟨⟨o.i2cConf, o.imgType, sections, (ElfHeader.decode elf).entry,
    (convert o elf).checksum⟩, ?_, rfl, rfl, rfl, limit⟩
  rw [← readImage_bytes, elf2img_ok ok]
  unfold convert
  rw [img]
  rfl

/-- The image of a file of regular segments puts into memory what the file means, but for the
interrupt vectors where they are left out, which stay as they were; and its checksum holds. -/
theorem elf2img_means {image : List UInt8} (ok : elf2img o elf = .ok image)
    (regular : ∀ p ∈ loadable elf, p.Regular o elf) :
    ∃ b, readImage image = some b ∧ b.entry = (ElfHeader.decode elf).entry ∧ b.Checks ∧
      ∀ m, b.load m = m.keeping (leftOut o) (elfLoad elf m) := by
  obtain ⟨sections, img, checksum, places⟩ := headers_place (o := o)
    (programHeaders elf (ElfHeader.decode elf))
    { pos := sizeofElfHeader, checksum := 0, img := [0x43, 0x59, o.i2cConf, o.imgType] }
    fun p mem load => regular p (List.mem_filter.mpr ⟨mem, by simpa using load⟩)
  refine ⟨⟨o.i2cConf, o.imgType, sections, (ElfHeader.decode elf).entry,
    (convert o elf).checksum⟩, ?_, rfl, ?_, ?_⟩
  · rw [← readImage_bytes, elf2img_ok ok]
    unfold convert
    rw [img]
    rfl
  · exact checksum.trans (UInt32.zero_add _)
  · intro m
    have loaded := places m m
    rw [Memory.keeping_self] at loaded
    exact loaded

end File

/-- A file with one segment, whose second half is not in the file. -/
def smallElf : List UInt8 :=
  [0x7F, 0x45, 0x4C, 0x46, 1, 1, 1, 0, 0, 0, 0, 0, 0, 0, 0, 0] ++ leBytes16 2 ++ leBytes16 40 ++
    leBytes32 1 ++ leBytes32 0x40003000 ++ leBytes32 52 ++ leBytes32 0 ++ leBytes32 0 ++
    leBytes16 52 ++ leBytes16 32 ++ leBytes16 1 ++ leBytes16 0 ++ leBytes16 0 ++ leBytes16 0 ++
    leBytes32 1 ++ leBytes32 84 ++ leBytes32 0x40003000 ++ leBytes32 0x40003000 ++ leBytes32 8 ++
    leBytes32 16 ++ leBytes32 5 ++ leBytes32 4 ++ [1, 2, 3, 4, 5, 6, 7, 8]

theorem smallElf_loadable :
    loadable smallElf = [⟨1, 84, 0x40003000, 8, 16⟩] := by decide

theorem elf2img_wellFormed_smallElf :
    ∃ image b, elf2img {} smallElf = .ok image ∧ readImage image = some b ∧
      b.entry = 0x40003000 := by
  have ok : elf2img {} smallElf = .ok _ := rfl
  obtain ⟨b, reads, -, -, entry, -⟩ := elf2img_wellFormed ok
  exact ⟨_, b, ok, reads, entry⟩

theorem elf2img_means_smallElf :
    ∃ image b, elf2img {} smallElf = .ok image ∧ readImage image = some b ∧
      (List.range 16).map (fun i => b.load (fun _ => 0xFF) (0x40003000 + BitVec.ofNat 32 i)) =
        [1, 2, 3, 4, 5, 6, 7, 8, 0, 0, 0, 0, 0, 0, 0, 0] := by
  have ok : elf2img {} smallElf = .ok _ := rfl
  have regular : ∀ p ∈ loadable smallElf, p.Regular {} smallElf := by
    rw [smallElf_loadable]
    intro p mem
    rw [List.mem_singleton.mp mem]
    constructor <;> decide
  obtain ⟨b, reads, -, -, loads⟩ := elf2img_means ok regular
  refine ⟨_, b, ok, reads, ?_⟩
  simp only [loads]
  unfold elfLoad
  rw [smallElf_loadable]
  decide

end Rx888
