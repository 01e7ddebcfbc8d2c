import Rx888.BootImage.Elf2Img

/-! # What the copying loops write

The inner loop writes the words of a section that are in the file, and zeros behind them. The outer
loop cuts a segment into sections. It does not count down the words left in the file when a section
runs out of them, so only the last section of a segment may do that.
-/

namespace Rx888

open MemoryImage

theorem lesser_toNat (a b : UInt32) : (if a < b then a else b).toNat = min a.toNat b.toNat := by
  split
  case isTrue less =>
    have lt := UInt32.lt_iff_toNat_lt.mp less
    omega
  case isFalse more =>
    have le := UInt32.le_iff_toNat_le.mp (UInt32.not_lt.mp more)
    omega

/-! ## The contents of a section -/

section Contents

variable {elf : List UInt8}

/-- The buffer of a round: what came in, and zeros. -/
def roundBuffer (got : List UInt8) : List UInt8 :=
  got ++ List.replicate (4 * bufferWords.toNat - got.length) 0

theorem roundBuffer_take (got : List UInt8) {n : Nat} (long : got.length ≤ n)
    (room : n ≤ 4 * bufferWords.toNat) :
    (roundBuffer got).take n = got ++ List.replicate (n - got.length) 0 := by
  unfold roundBuffer
  rw [List.take_append, List.take_of_length_le long, List.take_replicate]
  congr 2
  omega

/-- Only whole words are counted, and the zeros behind them are not. -/
theorem roundBuffer_sum (got : List UInt8) (whole : 4 ∣ got.length) :
    ((wordsOf (roundBuffer got)).take (got.length / 4)).sum = (wordsOf got).sum := by
  unfold roundBuffer
  rw [wordsOf_append _ got whole, List.take_left' (wordsOf_length got)]

/-- Whatever the file has to offer, the section gets its length. -/
theorem copyContents_length (elf : List UInt8) (validSz loadSz : UInt32) (st : ImageWrite) :
    ∃ data, (copyContents elf validSz loadSz st).img = st.img ++ data ∧
      data.length = 4 * loadSz.toNat := by
  induction validSz, loadSz, st using copyContents.induct elf with
  | case1 validSz st =>
      refine ⟨[], ?_, rfl⟩
      rw [copyContents, if_pos rfl, List.append_nil]
  | case2 validSz loadSz st some readlen writelen got actualRd buffer checksum counted ih =>
      obtain ⟨data, img, length⟩ := ih
      have written : writelen.toNat = min loadSz.toNat 2048 := lesser_toNat loadSz bufferWords
      have part : writelen ≤ loadSz := by
        rw [UInt32.le_iff_toNat_le]
        omega
      have full : buffer.length = 8192 := by
        have read : readlen.toNat = min validSz.toNat 2048 := lesser_toNat validSz bufferWords
        have short : got.length ≤ 4 * readlen.toNat := List.length_take_le _ _
        have size : bufferWords.toNat = 2048 := rfl
        rw [List.length_append, List.length_replicate]
        omega
      refine ⟨buffer.take (4 * writelen.toNat) ++ data, ?_, ?_⟩
      · rw [copyContents, if_neg some, ← List.append_assoc]
        exact img
      · rw [List.length_append, length, List.length_take, full, UInt32.toNat_sub_of_le _ _ part]
        omega

theorem copyContents_eq (elf : List UInt8) (validSz loadSz : UInt32) (st : ImageWrite)
    (fits : validSz.toNat ≤ loadSz.toNat) (inFile : st.pos + 4 * validSz.toNat ≤ elf.length) :
    copyContents elf validSz loadSz st =
      { pos := st.pos + 4 * validSz.toNat
        checksum := st.checksum + (wordsOf ((elf.drop st.pos).take (4 * validSz.toNat))).sum
        img := st.img ++ padded 0 (elf.drop st.pos) (4 * validSz.toNat) (4 * loadSz.toNat) } := by
  induction validSz, loadSz, st using copyContents.induct elf with
  | case1 validSz st =>
      have none : validSz.toNat = 0 := Nat.le_zero.mp fits
      have empty : padded (0 : UInt8) (elf.drop st.pos) (4 * 0) (4 * (0 : UInt32).toNat) = [] := rfl
      rw [copyContents, if_pos rfl, none, empty, Nat.mul_zero, List.take_zero, Nat.add_zero,
        List.append_nil]
      have zero : (wordsOf ([] : List UInt8)).sum = 0 := rfl
      rw [zero, UInt32.add_zero]
  | case2 validSz loadSz st some readlen writelen got actualRd buffer checksum counted ih =>
      have read : readlen.toNat = min validSz.toNat 2048 := lesser_toNat validSz bufferWords
      have written : writelen.toNat = min loadSz.toNat 2048 := lesser_toNat loadSz bufferWords
      have whole : got.length = 4 * readlen.toNat := by
        apply List.length_take_of_le
        rw [List.length_drop]
        omega
      have all : actualRd = readlen := by
        show UInt32.ofNat (got.length / 4) = readlen
        rw [whole, Nat.mul_div_cancel_left _ (by decide), UInt32.ofNat_toNat]
      have count : counted = readlen := by
        show (if writelen < actualRd then writelen else actualRd) = readlen
        rw [all, if_neg]
        rw [UInt32.not_lt, UInt32.le_iff_toNat_le]
        omega
      have left : (validSz - counted).toNat = validSz.toNat - readlen.toNat := by
        rw [count]
        apply UInt32.toNat_sub_of_le
        rw [UInt32.le_iff_toNat_le]
        omega
      have remains : (loadSz - writelen).toNat = loadSz.toNat - writelen.toNat := by
        apply UInt32.toNat_sub_of_le
        rw [UInt32.le_iff_toNat_le]
        omega
      have sum : ((wordsOf buffer).take actualRd.toNat).sum = (wordsOf got).sum := by
        have counts := roundBuffer_sum got (by omega)
        rw [whole, Nat.mul_div_cancel_left _ (by decide)] at counts
        rw [all]
        exact counts
      have out : buffer.take (4 * writelen.toNat) =
          padded 0 (elf.drop st.pos) (4 * readlen.toNat) (4 * writelen.toNat) := by
        have size : bufferWords.toNat = 2048 := rfl
        have taken := roundBuffer_take got (n := 4 * writelen.toNat) (by omega) (by omega)
        rw [whole] at taken
        exact taken
      have behind : elf.drop (st.pos + got.length) =
          (elf.drop st.pos).drop (4 * readlen.toNat) := by
        rw [List.drop_drop, whole]
      have words : (elf.drop st.pos).take (4 * validSz.toNat) = got ++
          (elf.drop (st.pos + got.length)).take (4 * (validSz - counted).toNat) := by
        have more : 4 * validSz.toNat = 4 * readlen.toNat + 4 * (validSz - counted).toNat := by
          omega
        rw [behind, more, List.take_add]
      have fields := ih (by omega) (by show st.pos + got.length + _ ≤ _; omega)
      rw [copyContents, if_neg some]
      refine fields.trans ?_
      simp only [ImageWrite.mk.injEq]
      refine ⟨by omega, ?_, ?_⟩
      · rw [words, wordsOf_append _ got (by omega), List.sum_append, ← sum, UInt32.add_assoc]
      · have rest : padded 0 (elf.drop st.pos) (4 * readlen.toNat) (4 * writelen.toNat) ++
            padded 0 ((elf.drop st.pos).drop (4 * readlen.toNat))
              (4 * validSz.toNat - 4 * readlen.toNat) (4 * loadSz.toNat - 4 * writelen.toNat) =
            padded 0 (elf.drop st.pos) (4 * validSz.toNat) (4 * loadSz.toNat) :=
          padded_split 0 _ (by omega) (by omega) (by omega) (by omega)
        rw [List.append_assoc, out, behind, left, remains, Nat.mul_sub, Nat.mul_sub, rest]

end Contents

/-! ## The sections of a segment -/

section Sections

variable {elf : List UInt8} {devSize : SectionLimit}

theorem SectionLimit.pos (devSize : SectionLimit) : 0 < devSize.val.toNat :=
  UInt32.lt_iff_toNat_lt.mp devSize.property

theorem loadSz_toNat (memSz limit : UInt32) :
    (if memSz > limit then limit else memSz).toNat = min memSz.toNat limit.toNat := by
  rw [Nat.min_comm]
  exact lesser_toNat limit memSz

theorem memSz_toNat (memSz limit : UInt32) :
    (if memSz > limit then memSz - limit else 0).toNat =
      memSz.toNat - min memSz.toNat limit.toNat := by
  split
  case isTrue long =>
    have lt := UInt32.lt_iff_toNat_lt.mp long
    rw [UInt32.toNat_sub_of_le _ _ (UInt32.le_of_lt long)]
    omega
  case isFalse short =>
    have le := UInt32.le_iff_toNat_le.mp (UInt32.not_lt.mp short)
    rw [UInt32.toNat_zero]
    omega

theorem ne_zero_of_toNat {n : UInt32} (pos : 0 < n.toNat) : n ≠ 0 := by
  rintro rfl
  exact absurd pos (by decide)

theorem toNat_pos_of_ne {n : UInt32} (some : n ≠ 0) : 0 < n.toNat :=
  Nat.pos_of_ne_zero fun zero => some (UInt32.toNat_inj.mp zero)

theorem section_img (s : Section) (st : ImageWrite) :
    ((st.fwrite (leBytes32 s.length)).fwrite (leBytes32 s.address)).img ++ s.data =
      st.img ++ s.bytes := by
  unfold ImageWrite.fwrite Section.bytes
  simp only [List.append_assoc]

/-- Whatever the file has to offer, whole sections are written, none longer than the limit. -/
theorem copySections_sections (elf : List UInt8) (devSize : SectionLimit)
    (memSz fileSz secStart : UInt32) (st : ImageWrite) :
    ∃ sections : List Section,
      (copySections elf devSize memSz fileSz secStart st).img =
        st.img ++ sections.flatMap Section.bytes ∧
      ∀ s ∈ sections, s.length ≤ devSize.val := by
  induction memSz, fileSz, secStart, st using copySections.induct elf devSize with
  | case1 fileSz secStart st =>
      refine ⟨[], ?_, by simp⟩
      rw [copySections, if_pos rfl, List.flatMap_nil, List.append_nil]
  | case2 memSz fileSz secStart st some loadSz memSz' validSz fileSz' begun ih =>
      obtain ⟨sections, img, limit⟩ := ih
      obtain ⟨data, contents, length⟩ := copyContents_length elf validSz loadSz begun
      have load : loadSz.toNat = min memSz.toNat devSize.val.toNat := loadSz_toNat _ _
      have words := toNat_pos_of_ne some
      have any := devSize.pos
      have nonempty : loadSz ≠ 0 := ne_zero_of_toNat (by omega)
      refine ⟨⟨loadSz, secStart, data, nonempty, length⟩ :: sections, ?_, ?_⟩
      · rw [copySections, if_neg some]
        refine img.trans ?_
        rw [contents, List.flatMap_cons, ← List.append_assoc]
        congr 1
        exact section_img ⟨loadSz, secStart, data, nonempty, length⟩ st
      · intro s mem
        rcases List.mem_cons.mp mem with rfl | mem
        · rw [UInt32.le_iff_toNat_le]
          show loadSz.toNat ≤ _
          omega
        · exact limit s mem

/-- The words a segment has in the file run out, if they do, where a section ends or in the last
one. -/
def ZerosLast (limit filled size : Nat) : Prop :=
  filled % limit = 0 ∨ size ≤ (filled / limit + 1) * limit

instance (limit filled size : Nat) : Decidable (ZerosLast limit filled size) :=
  inferInstanceAs (Decidable (_ ∨ _))

/-- Behind a section as long as the limit. -/
theorem ZerosLast.next {limit filled size : Nat} (any : 0 < limit)
    (last : ZerosLast limit filled size) (long : limit < size) :
    (filled = 0 ∨ limit ≤ filled) ∧ ZerosLast limit (filled - limit) (size - limit) := by
  unfold ZerosLast at last ⊢
  by_cases full : limit ≤ filled
  · refine ⟨Or.inr full, ?_⟩
    obtain ⟨rest, rfl⟩ := Nat.exists_eq_add_of_le full
    rw [Nat.add_mod_left, Nat.add_div_left rest any, Nat.succ_mul] at last
    rw [Nat.add_sub_cancel_left]
    omega
  · have short : filled < limit := Nat.lt_of_not_le full
    rw [Nat.mod_eq_of_lt short, Nat.div_eq_of_lt short] at last
    have none : filled = 0 := by omega
    subst none
    rw [Nat.zero_sub, Nat.zero_mod]
    exact ⟨Or.inl rfl, Or.inl rfl⟩

theorem copyContents_section (elf : List UInt8) (validSz loadSz secStart : UInt32) (st : ImageWrite)
    (nonempty : loadSz ≠ 0) (fits : validSz.toNat ≤ loadSz.toNat)
    (inFile : st.pos + 4 * validSz.toNat ≤ elf.length) :
    ∃ s : Section, s.address = secStart ∧
      s.data = padded 0 (elf.drop st.pos) (4 * validSz.toNat) (4 * loadSz.toNat) ∧
      copyContents elf validSz loadSz
          ((st.fwrite (leBytes32 loadSz)).fwrite (leBytes32 secStart)) =
        { pos := st.pos + 4 * validSz.toNat
          checksum := st.checksum + (wordsOf s.data).sum
          img := st.img ++ s.bytes } := by
  have enough : 4 * validSz.toNat ≤ (elf.drop st.pos).length := by
    rw [List.length_drop]
    omega
  have whole := padded_length (0 : UInt8) enough (Nat.mul_le_mul_left 4 fits)
  have rounds := copyContents_eq elf validSz loadSz
    ((st.fwrite (leBytes32 loadSz)).fwrite (leBytes32 secStart)) fits inFile
  refine ⟨⟨loadSz, secStart, _, nonempty, whole⟩, rfl, rfl, rounds.trans ?_⟩
  have taken : 4 ∣ ((elf.drop st.pos).take (4 * validSz.toNat)).length := by
    rw [List.length_take_of_le enough]
    exact Nat.dvd_mul_right 4 _
  have sum : (wordsOf (padded 0 (elf.drop st.pos) (4 * validSz.toNat) (4 * loadSz.toNat))).sum =
      (wordsOf ((elf.drop st.pos).take (4 * validSz.toNat))).sum := by
    unfold padded
    rw [← Nat.mul_sub]
    exact wordsOf_padded_sum taken _
  rw [sum, ← section_img ⟨loadSz, secStart, _, nonempty, whole⟩ st]
  rfl

theorem toBitVec_next (secStart loadSz : UInt32) :
    (secStart + loadSz * 4).toBitVec =
      secStart.toBitVec + BitVec.ofNat 32 (4 * loadSz.toNat) := by
  rw [UInt32.toBitVec_add, UInt32.toBitVec_mul]
  congr 1
  apply BitVec.eq_of_toNat_eq
  rw [BitVec.toNat_mul, BitVec.toNat_ofNat, Nat.mul_comm]
  rfl

/-- The segment goes to its place, and the checksum grows by its words. -/
theorem copySections_placed (elf : List UInt8) (memSz fileSz secStart : UInt32) (st : ImageWrite)
    (fits : fileSz.toNat ≤ memSz.toNat) (inFile : st.pos + 4 * fileSz.toNat ≤ elf.length)
    (last : ZerosLast devSize.val.toNat fileSz.toNat memSz.toNat) :
    ∃ (sections : List Section) (pieces : List (List UInt8)),
      (copySections elf devSize memSz fileSz secStart st).img =
        st.img ++ sections.flatMap Section.bytes ∧
      (copySections elf devSize memSz fileSz secStart st).checksum =
        st.checksum + (sections.flatMap fun s => wordsOf s.data).sum ∧
      sections.map Section.patch = consecutive secStart.toBitVec pieces ∧
      pieces.flatten = padded 0 (elf.drop st.pos) (4 * fileSz.toNat) (4 * memSz.toNat) := by
  induction memSz, fileSz, secStart, st using copySections.induct elf devSize with
  | case1 fileSz secStart st =>
      have none : fileSz.toNat = 0 := Nat.le_zero.mp fits
      refine ⟨[], [], ?_, ?_, rfl, ?_⟩
      · rw [copySections, if_pos rfl, List.flatMap_nil, List.append_nil]
      · rw [copySections, if_pos rfl, List.flatMap_nil]
        exact (UInt32.add_zero _).symm
      · rw [none]
        rfl
  | case2 memSz fileSz secStart st some loadSz memSz' validSz fileSz' begun ih =>
      have load : loadSz.toNat = min memSz.toNat devSize.val.toNat := loadSz_toNat _ _
      have words := toNat_pos_of_ne some
      have any := devSize.pos
      have valid : validSz.toNat = min fileSz.toNat loadSz.toNat := lesser_toNat fileSz loadSz
      obtain ⟨s, address, data, round⟩ := copyContents_section elf validSz loadSz secStart st
        (ne_zero_of_toNat (by omega)) (by omega) (by omega)
      have unfolded : copySections elf devSize memSz fileSz secStart st =
          copySections elf devSize memSz' fileSz' (secStart + loadSz * 4)
            (copyContents elf validSz loadSz begun) := by
        rw [copySections, if_neg some]
        rfl
      rw [unfolded]
      have remains : memSz'.toNat = memSz.toNat - loadSz.toNat := by
        rw [load]
        exact memSz_toNat _ _
      by_cases long : devSize.val.toNat < memSz.toNat
      · obtain ⟨noneOrFull, last'⟩ := last.next any long
        have full : loadSz.toNat = devSize.val.toNat := by omega
        have left : fileSz'.toNat = fileSz.toNat - loadSz.toNat := by
          show (if loadSz > fileSz then fileSz else fileSz - validSz).toNat = _
          split
          case isTrue short =>
            have lt := UInt32.lt_iff_toNat_lt.mp short
            omega
          case isFalse more =>
            have le := UInt32.le_iff_toNat_le.mp (UInt32.not_lt.mp more)
            rw [UInt32.toNat_sub_of_le _ _ (UInt32.le_iff_toNat_le.mpr (by omega))]
            omega
        rw [← full, ← left, ← remains] at last'
        rw [round] at ih ⊢
        obtain ⟨sections, pieces, img, checksum, placed, contents⟩ := ih (by omega)
          (by show st.pos + _ + _ ≤ _; omega) (by rw [← full]; exact last')
        refine ⟨s :: sections, s.data :: pieces, ?_, ?_, ?_, ?_⟩
        · rw [img, List.flatMap_cons, List.append_assoc]
        · rw [checksum, List.flatMap_cons, List.sum_append, UInt32.add_assoc]
        · have size : s.data.length = 4 * loadSz.toNat := by
            rw [data]
            apply padded_length
            · rw [List.length_drop]
              omega
            · omega
          rw [List.map_cons, consecutive, placed, size, toBitVec_next, ← address]
          rfl
        · have rest : padded 0 (elf.drop st.pos) (4 * validSz.toNat) (4 * loadSz.toNat) ++
              padded 0 ((elf.drop st.pos).drop (4 * validSz.toNat))
                (4 * fileSz.toNat - 4 * validSz.toNat) (4 * memSz.toNat - 4 * loadSz.toNat) =
              padded 0 (elf.drop st.pos) (4 * fileSz.toNat) (4 * memSz.toNat) :=
            padded_split 0 _ (by omega) (by omega) (by omega) (by omega)
          have filled : 4 * fileSz'.toNat = 4 * fileSz.toNat - 4 * validSz.toNat := by omega
          have size : 4 * memSz'.toNat = 4 * memSz.toNat - 4 * loadSz.toNat := by omega
          rw [List.flatten_cons, contents, data, ← rest, List.drop_drop, filled, size]
      · have all : memSz' = 0 := UInt32.toNat_inj.mp (by rw [remains, UInt32.toNat_zero]; omega)
        rw [all, copySections, if_pos rfl, round]
        refine ⟨[s], [s.data], ?_, ?_, ?_, ?_⟩
        · rw [List.flatMap_singleton]
        · rw [List.flatMap_singleton]
        · rw [List.map_singleton, consecutive, ← address]
          rfl
        · rw [List.flatten_singleton, data, load, valid, load]
          congr 2 <;> omega

end Sections

end Rx888
