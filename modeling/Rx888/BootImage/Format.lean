import Mathlib.Data.UInt
import Rx888.Ep0.Stats
import Rx888.MemoryImage.Patches

/-! # The boot image

What the boot loader makes of an image: two magic bytes, the EEPROM control byte and the image
type, then sections of whole words, each with the address it goes to, up to an empty one that has
the entry address instead; last the sum of all the words in the sections.
-/

namespace Rx888

open MemoryImage

def wordsOf : List UInt8 → List UInt32
  | a :: b :: c :: d :: rest => leWord32 [a, b, c, d] :: wordsOf rest
  | _ => []

/-- The length in words tells where the data ends; an empty section would end the image. -/
@[ext] structure Section where
  length : UInt32
  address : UInt32
  data : List UInt8
  nonempty : length ≠ 0
  whole : data.length = 4 * length.toNat

structure BootImage where
  control : UInt8
  imageType : UInt8
  sections : List Section
  entry : UInt32
  checksum : UInt32

def Section.bytes (s : Section) : List UInt8 := leBytes32 s.length ++ leBytes32 s.address ++ s.data

def Section.patch (s : Section) : Patch 32 UInt8 := ⟨s.address.toBitVec, s.data⟩

namespace BootImage

def bytes (b : BootImage) : List UInt8 :=
  [0x43, 0x59, b.control, b.imageType] ++ b.sections.flatMap Section.bytes ++ leBytes32 0 ++
    leBytes32 b.entry ++ leBytes32 b.checksum

def load (b : BootImage) (m : Memory 32 UInt8) : Memory 32 UInt8 :=
  m.patchAll (b.sections.map Section.patch)

/-- The checksum is what the loader adds up. -/
def Checks (b : BootImage) : Prop :=
  b.checksum = (b.sections.flatMap fun s => wordsOf s.data).sum

end BootImage

/-- The sections up to the empty one, and what follows its length. -/
def readSections (bytes : List UInt8) : Option (List Section × List UInt8) :=
  if short : bytes.length < 8 then none
  else if empty : leWord32 bytes = 0 then some ([], bytes.drop 4)
  else if cut : bytes.length < 8 + 4 * (leWord32 bytes).toNat then none
  else
    let first : Section :=
      { length := leWord32 bytes
        address := leWord32 (bytes.drop 4)
        data := (bytes.drop 8).take (4 * (leWord32 bytes).toNat)
        nonempty := empty
        whole := by
          rw [List.length_take, List.length_drop]
          omega }
    (readSections (bytes.drop (8 + 4 * (leWord32 bytes).toNat))).map fun x => (first :: x.1, x.2)
termination_by bytes.length
decreasing_by
  rw [List.length_drop]
  omega

def readImage : List UInt8 → Option BootImage
  | 0x43 :: 0x59 :: control :: imageType :: rest =>
      match readSections rest with
      | some (sections, trailer) =>
          if trailer.length = 8 then
            some ⟨control, imageType, sections, leWord32 trailer, leWord32 (trailer.drop 4)⟩
          else none
      | none => none
  | _ => none

/-! ## Round trip -/

theorem leBytes32_length (n : UInt32) : (leBytes32 n).length = 4 := rfl

theorem readSections_end (entry : UInt32) (rest : List UInt8) :
    readSections (leBytes32 0 ++ (leBytes32 entry ++ rest)) =
      some ([], leBytes32 entry ++ rest) := by
  unfold readSections
  have long : ¬ (leBytes32 0 ++ (leBytes32 entry ++ rest)).length < 8 := by
    rw [List.length_append, List.length_append, leBytes32_length, leBytes32_length]
    omega
  rw [dif_neg long, dif_pos (leWord32_leBytes32 0 _)]
  rfl

theorem readSections_section (s : Section) (rest : List UInt8) :
    readSections (s.bytes ++ rest) =
      (readSections rest).map fun x => (s :: x.1, x.2) := by
  obtain ⟨length, address, data, nonempty, whole⟩ := s
  have all : Section.bytes ⟨length, address, data, nonempty, whole⟩ ++ rest =
      leBytes32 length ++ (leBytes32 address ++ (data ++ rest)) := by
    unfold Section.bytes
    simp only [List.append_assoc]
  have word := leWord32_leBytes32 length (leBytes32 address ++ (data ++ rest))
  have place : leWord32 ((leBytes32 length ++ (leBytes32 address ++ (data ++ rest))).drop 4) =
      address :=
    leWord32_leBytes32 address (data ++ rest)
  have front : ((leBytes32 length ++ (leBytes32 address ++ (data ++ rest))).drop 8).take
      (4 * length.toNat) = data :=
    List.take_left' whole
  have behind : (leBytes32 length ++ (leBytes32 address ++ (data ++ rest))).drop
      (8 + 4 * length.toNat) = rest := by
    rw [← List.drop_drop]
    exact List.drop_left' whole
  have size : (leBytes32 length ++ (leBytes32 address ++ (data ++ rest))).length =
      8 + 4 * length.toNat + rest.length := by
    simp only [List.length_append, leBytes32_length, whole]
    omega
  rw [all, readSections, dif_neg (by omega), dif_neg (by rw [word]; exact nonempty),
    dif_neg (by rw [size, word]; omega)]
  simp only [word, place, front, behind]

theorem readSections_flatMap (sections : List Section) (entry : UInt32) (rest : List UInt8) :
    readSections (sections.flatMap Section.bytes ++ (leBytes32 0 ++ (leBytes32 entry ++ rest))) =
      some (sections, leBytes32 entry ++ rest) := by
  induction sections with
  | nil => exact readSections_end entry rest
  | cons s sections ih =>
      rw [List.flatMap_cons, List.append_assoc, readSections_section, ih]
      rfl

/-- An image reads back as it is. -/
theorem readImage_bytes (b : BootImage) : readImage b.bytes = some b := by
  obtain ⟨control, imageType, sections, entry, checksum⟩ := b
  have all : BootImage.bytes ⟨control, imageType, sections, entry, checksum⟩ =
      0x43 :: 0x59 :: control :: imageType ::
        (sections.flatMap Section.bytes ++
          (leBytes32 0 ++ (leBytes32 entry ++ leBytes32 checksum))) := by
    unfold BootImage.bytes
    simp only [List.append_assoc, List.cons_append, List.nil_append]
  have last : leWord32 ((leBytes32 entry ++ leBytes32 checksum).drop 4) = checksum :=
    leWord32_leBytes32 checksum []
  rw [all, readImage, readSections_flatMap]
  simp only [List.length_append, leBytes32_length, Nat.reduceAdd, if_true, leWord32_leBytes32, last]

/-! ## Words -/

theorem wordsOf_cons (a b c d : UInt8) (rest : List UInt8) :
    wordsOf (a :: b :: c :: d :: rest) = leWord32 [a, b, c, d] :: wordsOf rest := rfl

theorem wordsOf_length : (bytes : List UInt8) → (wordsOf bytes).length = bytes.length / 4
  | a :: b :: c :: d :: rest => by
      rw [wordsOf_cons, List.length_cons, wordsOf_length rest]
      simp only [List.length_cons]
      omega
  | [] | [_] | [_, _] | [_, _, _] => by simp [wordsOf]

theorem wordsOf_append (rest : List UInt8) :
    (bytes : List UInt8) → 4 ∣ bytes.length →
      wordsOf (bytes ++ rest) = wordsOf bytes ++ wordsOf rest
  | a :: b :: c :: d :: bytes, whole => by
      have less : 4 ∣ bytes.length := by
        simp only [List.length_cons] at whole
        omega
      rw [List.cons_append, List.cons_append, List.cons_append, List.cons_append, wordsOf_cons,
        wordsOf_cons, wordsOf_append rest bytes less, List.cons_append]
  | [], _ => rfl
  | [_], whole | [_, _], whole | [_, _, _], whole => by
      simp only [List.length_cons, List.length_nil] at whole
      omega

theorem wordsOf_zeros_sum (n : Nat) : (wordsOf (List.replicate (4 * n) 0)).sum = 0 := by
  induction n with
  | zero => rfl
  | succ n ih =>
      have step : wordsOf (List.replicate (4 * (n + 1)) 0) =
          0 :: wordsOf (List.replicate (4 * n) 0) := rfl
      rw [step, List.sum_cons, ih]
      rfl

/-- Zero padding does not count. -/
theorem wordsOf_padded_sum {bytes : List UInt8} (whole : 4 ∣ bytes.length) (n : Nat) :
    (wordsOf (bytes ++ List.replicate (4 * n) 0)).sum = (wordsOf bytes).sum := by
  rw [wordsOf_append _ bytes whole, List.sum_append, wordsOf_zeros_sum, UInt32.add_zero]

end Rx888
