import Rx888.BufferHeap.Manager
import Rx888.LineMap.Blocks

/-! # What the loops over the status bits do

Each loop goes over words and bits within them; here it is told by line numbers.
-/

namespace Rx888.DmaBufMgr

open LineMap

/-! ## Setting bits -/

section SetStatus

variable {usedStatus : List (BitVec 32)}

theorem length_setStatusLoop (value : Bool) (fuel : Nat) (usedStatus : List (BitVec 32))
    (wordnum numBits startbit endbit : Nat) (mask : BitVec 32) :
    (setStatusLoop value fuel usedStatus wordnum numBits startbit endbit mask).length =
      usedStatus.length := by
  induction fuel generalizing usedStatus wordnum numBits startbit endbit mask with
  | zero => rfl
  | succ fuel ih =>
      unfold setStatusLoop
      simp only
      split
      · rfl
      · split <;> rw [ih] <;> split <;> rw [List.length_modify]

theorem bitAt_setStatusLoop (value : Bool) (fuel : Nat) {wordnum numBits startbit endbit : Nat}
    (enough : numBits ≤ fuel) (bit : startbit < 32) (ends : endbit = min 32 (startbit + numBits))
    (within : 32 * wordnum + startbit + numBits ≤ 32 * usedStatus.length) (i : Nat) :
    bitAt (setStatusLoop value fuel usedStatus wordnum numBits startbit endbit
        (mask 32 startbit endbit)) i =
      if 32 * wordnum + startbit ≤ i ∧ i < 32 * wordnum + startbit + numBits then value
      else bitAt usedStatus i := by
  induction fuel generalizing usedStatus wordnum numBits startbit endbit with
  | zero =>
      have none : numBits = 0 := by omega
      subst none
      rw [if_neg (by omega)]
      rfl
  | succ fuel ih =>
      unfold setStatusLoop
      by_cases none : numBits = 0
      · subst none
        rw [if_pos rfl, if_neg (by omega)]
      · rw [if_neg none]
        simp only
        have put := @bitAt_put_mask 32 usedStatus wordnum startbit endbit (by omega) (by omega)
          (by omega) value i
        have length : (if value = true then
              usedStatus.modify wordnum (· ||| mask 32 startbit endbit)
            else usedStatus.modify wordnum (· &&& ~~~mask 32 startbit endbit)).length =
              usedStatus.length := by
          split <;> rw [List.length_modify]
        generalize (if value = true then usedStatus.modify wordnum (· ||| mask 32 startbit endbit)
          else usedStatus.modify wordnum (· &&& ~~~mask 32 startbit endbit)) = words at put length ⊢
        by_cases whole : 32 ≤ numBits - (endbit - startbit)
        · have full : (0xFFFFFFFF : BitVec 32) = mask 32 0 32 := by decide
          rw [if_pos whole, full, ih (by omega) (by omega) (by omega) (by omega), put]
          by_cases rest : 32 * (wordnum + 1) + 0 ≤ i ∧
              i < 32 * (wordnum + 1) + 0 + (numBits - (endbit - startbit))
          · rw [if_pos rest, if_pos (by omega)]
          · rw [if_neg rest]
            apply if_congr _ rfl rfl
            omega
        · have part : (1#32 <<< (numBits - (endbit - startbit))) - 1 =
              mask 32 0 (numBits - (endbit - startbit)) := by
            unfold mask
            simp
          rw [if_neg whole, part, ih (by omega) (by omega) (by omega) (by omega), put]
          by_cases rest : 32 * (wordnum + 1) + 0 ≤ i ∧
              i < 32 * (wordnum + 1) + 0 + (numBits - (endbit - startbit))
          · rw [if_pos rest, if_pos (by omega)]
          · rw [if_neg rest]
            apply if_congr _ rfl rfl
            omega

theorem length_setStatus (startPos numBits : Nat) (value : Bool) :
    (cyU3PDmaBufMgrSetStatus usedStatus startPos numBits value).length = usedStatus.length :=
  length_setStatusLoop ..

theorem setStatus_none (startPos : Nat) (value : Bool) :
    cyU3PDmaBufMgrSetStatus usedStatus startPos 0 value = usedStatus :=
  rfl

theorem bitAt_setStatus {startPos numBits : Nat}
    (within : startPos + numBits ≤ 32 * usedStatus.length) (value : Bool) (i : Nat) :
    bitAt (cyU3PDmaBufMgrSetStatus usedStatus startPos numBits value) i =
      if startPos ≤ i ∧ i < startPos + numBits then value else bitAt usedStatus i := by
  have word : startPos >>> 5 = startPos / 32 := Nat.shiftRight_eq_div_pow startPos 5
  have line : 32 * (startPos / 32) + startPos % 32 = startPos := Nat.div_add_mod startPos 32
  have bit : startPos % 32 < 32 := Nat.mod_lt _ (by decide)
  have first : ∀ endbit ≤ 32,
      (if endbit = 32 then (0xFFFFFFFF : BitVec 32) else (1#32 <<< endbit) - 1) -
        ((1#32 <<< (startPos % 32)) - 1) = mask 32 (startPos % 32) endbit := by
    intro endbit _
    split
    · subst endbit
      rfl
    · rfl
  unfold cyU3PDmaBufMgrSetStatus
  simp only
  rw [word, first _ (by omega),
    bitAt_setStatusLoop value numBits (Nat.le_refl _) bit rfl (by omega), line]

end SetStatus

theorem isClear_eq (usedStatus : List (BitVec 32)) (wordnum : Nat) {bitnum : Nat}
    (bit : bitnum < 32) :
    isClear usedStatus wordnum bitnum = !bitAt usedStatus (32 * wordnum + bitnum) := by
  have word : (32 * wordnum + bitnum) / 32 = wordnum := by omega
  have offset : (32 * wordnum + bitnum) % 32 = bitnum := by omega
  have one : 1#32 <<< bitnum = BitVec.twoPow 32 bitnum := rfl
  unfold isClear bitAt
  rw [word, offset, one, BitVec.and_twoPow]
  cases (usedStatus.getD wordnum 0).getLsbD bitnum with
  | false => rfl
  | true =>
      rw [if_pos rfl, Bool.not_true, beq_eq_false_iff_ne]
      intro zero
      have set := congrArg (fun x : BitVec 32 => x.getLsbD bitnum) zero
      simp [bit] at set

/-! ## Counting ones -/

theorem countOnes_eq (usedStatus : List (BitVec 32)) (n fuel : Nat) {wordnum bitnum count : Nat}
    (bit : bitnum < 32) (enough : n < fuel)
    (within : 32 * wordnum + bitnum + n ≤ 32 * usedStatus.length)
    (set : ∀ i, 32 * wordnum + bitnum ≤ i → i < 32 * wordnum + bitnum + n →
      bitAt usedStatus i = true)
    (clear : bitAt usedStatus (32 * wordnum + bitnum + n) = false) :
    countOnes usedStatus fuel wordnum bitnum count = count + n := by
  induction n generalizing fuel wordnum bitnum count with
  | zero =>
      obtain ⟨fuel, rfl⟩ : ∃ fuel', fuel = fuel' + 1 := ⟨fuel - 1, by omega⟩
      unfold countOnes
      rw [if_neg]
      · rfl
      · rintro ⟨-, ones⟩
        rw [isClear_eq usedStatus wordnum bit] at ones
        rw [Nat.add_zero] at clear
        rw [clear] at ones
        cases ones
  | succ n ih =>
      obtain ⟨fuel, rfl⟩ : ∃ fuel', fuel = fuel' + 1 := ⟨fuel - 1, by omega⟩
      have here := set (32 * wordnum + bitnum) (Nat.le_refl _) (by omega)
      have ones : isClear usedStatus wordnum bitnum = false := by
        rw [isClear_eq usedStatus wordnum bit, here]
        rfl
      unfold countOnes
      rw [if_pos ⟨by omega, ones⟩]
      by_cases last : bitnum + 1 = 32
      · have line : 32 * (wordnum + 1) + 0 + n = 32 * wordnum + bitnum + (n + 1) := by omega
        rw [if_pos last, ih fuel (by omega) (by omega) (by omega)
          (fun i after before => set i (by omega) (by omega)) (line ▸ clear)]
        omega
      · have line : 32 * wordnum + (bitnum + 1) + n = 32 * wordnum + bitnum + (n + 1) := by omega
        rw [if_neg last, ih fuel (by omega) (by omega) (by omega)
          (fun i after before => set i (by omega) (by omega)) (line ▸ clear)]
        omega

/-! ## The search -/

section Search

variable {usedStatus : List (BitVec 32)} {need : Nat}

/-- A line is free if its bit is clear. -/
def lineFree (usedStatus : List (BitVec 32)) (i : Nat) : Bool := !bitAt usedStatus i

/-- The search stands at line `pos` after `turns` turns, with `count` free lines behind it. Past
the last line it is at the top again, and has none. -/
structure Search.At (s : Search) (usedStatus : List (BitVec 32)) (pos count turns : Nat) :
    Prop where
  bit : s.bitnum < 32
  turns_eq : 32 * s.tmp + s.bitnum = turns
  line : 32 * s.wordnum + s.bitnum = if pos = 32 * usedStatus.length then 0 else pos
  counted : s.count = if pos = 32 * usedStatus.length then 0 else count
  begun : 0 < s.count → s.start + s.count = pos + 1 ∧ 0 < s.start

/-- The search ends at `k`, with the lines after it for the buffer. -/
structure Search.Found (s : Search) (need k : Nat) : Prop where
  count_eq : s.count = need
  start_eq : s.start = k + 1
  searchPos_eq : s.searchPos = (k + (need - 1)) / 32

theorem Search.next_searchPos (s : Search) (statusSize : Nat) :
    (s.next statusSize).searchPos = s.searchPos := by
  unfold Search.next
  simp only
  split
  · split <;> rfl
  · rfl

theorem Search.next_at {s : Search} {pos turns : Nat} (bit : s.bitnum < 32)
    (turns_eq : 32 * s.tmp + s.bitnum = turns) (line : 32 * s.wordnum + s.bitnum = pos)
    (inside : pos < 32 * usedStatus.length)
    (begun : 0 < s.count → s.start + s.count = pos + 2 ∧ 0 < s.start) :
    (s.next usedStatus.length).At usedStatus (pos + 1) s.count (turns + 1) := by
  unfold Search.next
  simp only
  by_cases last : s.bitnum + 1 = 32
  · rw [if_pos last]
    by_cases wrap : s.wordnum + 1 = usedStatus.length
    · rw [if_pos wrap]
      have ended : pos + 1 = 32 * usedStatus.length := by omega
      constructor
      · exact Nat.zero_lt_succ _
      · simp only
        omega
      · rw [if_pos ended]
        rfl
      · rw [if_pos ended]
      · intro some
        cases some
    · rw [if_neg wrap]
      have onward : pos + 1 ≠ 32 * usedStatus.length := by omega
      constructor
      · exact Nat.zero_lt_succ _
      · simp only
        omega
      · rw [if_neg onward]
        simp only
        omega
      · rw [if_neg onward]
      · exact begun
  · rw [if_neg last]
    have onward : pos + 1 ≠ 32 * usedStatus.length := by omega
    constructor
    · simp only
      omega
    · simp only
      omega
    · rw [if_neg onward]
      simp only
      omega
    · rw [if_neg onward]
    · exact begun

/-- What has come of a search: it has ended, or there are `left` turns of it left. -/
def Search.Comes (result : Search) (usedStatus : List (BitVec 32)) (need left pos turns : Nat)
    (searchPos : Nat) : Option Nat → Prop
  | some k => result.Found need k
  | none => ∃ s count, result = searchLoop usedStatus need left s ∧ count < need ∧
      s.At usedStatus pos count turns ∧ s.searchPos = searchPos

theorem searchLoop_succ (fuel : Nat) (s : Search) (more : s.tmp < usedStatus.length) :
    searchLoop usedStatus need (fuel + 1) s =
      if isClear usedStatus s.wordnum s.bitnum then
        if s.count + 1 = need then
          { s with
            start := if s.count = 0 then (s.wordnum <<< 5) + s.bitnum + 1 else s.start
            count := s.count + 1
            searchPos := s.wordnum }
        else
          searchLoop usedStatus need fuel
            ({ s with
              start := if s.count = 0 then (s.wordnum <<< 5) + s.bitnum + 1 else s.start
              count := s.count + 1 }.next usedStatus.length)
      else searchLoop usedStatus need fuel ({ s with count := 0 }.next usedStatus.length) := by
  rw [searchLoop, if_pos more]

/-- Over a stretch of lines the search is a scan of it. -/
theorem searchLoop_stretch (len fuel : Nat) {s : Search} {pos count turns : Nat}
    (stands : s.At usedStatus pos count turns) (few : count < need)
    (within : pos + len ≤ 32 * usedStatus.length) (left : turns + len ≤ 32 * usedStatus.length)
    (enough : len ≤ fuel) :
    (searchLoop usedStatus need fuel s).Comes usedStatus need (fuel - len) (pos + len)
      (turns + len) s.searchPos (scan (lineFree usedStatus) need len pos count) := by
  induction len generalizing fuel s pos count turns with
  | zero => exact ⟨s, count, rfl, few, stands, rfl⟩
  | succ len ih =>
      obtain ⟨fuel, rfl⟩ : ∃ fuel', fuel = fuel' + 1 := ⟨fuel - 1, by omega⟩
      obtain ⟨bit, turns_eq, line, counted, begun⟩ := stands
      rw [if_neg (by omega)] at line counted
      have more : s.tmp < usedStatus.length := by omega
      have test : isClear usedStatus s.wordnum s.bitnum = lineFree usedStatus pos := by
        rw [isClear_eq usedStatus s.wordnum bit, line]
        rfl
      have place : (s.wordnum <<< 5) + s.bitnum = pos := by
        rw [Nat.shiftLeft_eq]
        omega
      -- a turn more behind is a line less ahead
      have goOn : ∀ {s' : Search} {count' : Nat}, s'.searchPos = s.searchPos → count' < need →
          s'.At usedStatus (pos + 1) count' (turns + 1) →
          (searchLoop usedStatus need fuel s').Comes usedStatus need (fuel + 1 - (len + 1))
            (pos + (len + 1)) (turns + (len + 1)) s.searchPos
            (scan (lineFree usedStatus) need len (pos + 1) count') := by
        intro s' count' kept few' stands'
        have rest := ih fuel stands' few' (by omega) (by omega) (by omega)
        have here : pos + 1 + len = pos + (len + 1) := by omega
        have gone : turns + 1 + len = turns + (len + 1) := by omega
        rw [here, gone, kept] at rest
        rw [Nat.add_sub_add_right]
        exact rest
      rw [searchLoop_succ fuel s more, test, place, counted]
      unfold scan
      by_cases free : lineFree usedStatus pos = true
      · rw [if_pos free, if_pos free]
        have start : (if count = 0 then pos + 1 else s.start) + (count + 1) = pos + 2 ∧
            0 < (if count = 0 then pos + 1 else s.start) := by
          split
          · omega
          · have old := begun (by omega)
            omega
        by_cases done : count + 1 = need
        · rw [if_pos done, if_pos done]
          constructor
          · exact done
          · show (if count = 0 then pos + 1 else s.start) = pos - count + 1
            omega
          · show s.wordnum = (pos - count + (need - 1)) / 32
            omega
        · rw [if_neg done, if_neg done]
          have stands' := @Search.next_at usedStatus
            { s with start := if count = 0 then pos + 1 else s.start, count := count + 1 } pos turns
            bit turns_eq line (by omega) (fun _ => start)
          exact goOn (Search.next_searchPos _ _) (Nat.lt_of_le_of_ne few done) stands'
      · rw [if_neg free, if_neg free]
        have stands' := @Search.next_at usedStatus { s with count := 0 } pos turns bit turns_eq line
          (by omega) (fun some => absurd some (Nat.lt_irrefl 0))
        exact goOn (Search.next_searchPos _ _) (Nat.zero_lt_of_lt few) stands'

/-- The whole search, from the word `searchPos` on and round. -/
theorem searchLoop_eq {searchPos : Nat} (some_ : 0 < need)
    (within : searchPos < usedStatus.length) :
    let s := searchLoop usedStatus need (32 * usedStatus.length)
      { wordnum := searchPos, bitnum := 0, count := 0, start := 0, tmp := 0,
        searchPos := searchPos }
    match scanRound (lineFree usedStatus) need (32 * usedStatus.length) (32 * searchPos) with
    | some k => s.Found need k
    | none => s.count ≠ need ∧ s.searchPos = searchPos := by
  intro s
  have top : 32 * searchPos ≠ 32 * usedStatus.length := by omega
  have stands : Search.At ⟨searchPos, 0, 0, 0, 0, searchPos⟩ usedStatus (32 * searchPos) 0 0 := by
    constructor
    · exact Nat.zero_lt_succ _
    · rfl
    · rw [if_neg top]
      rfl
    · rw [if_neg top]
    · intro some
      cases some
  have first := searchLoop_stretch (32 * usedStatus.length - 32 * searchPos)
    (32 * usedStatus.length) stands some_ (by omega) (by omega) (by omega)
  unfold scanRound
  cases found : scan (lineFree usedStatus) need (32 * usedStatus.length - 32 * searchPos)
      (32 * searchPos) 0 with
  | some k =>
      rw [found] at first
      exact first
  | none =>
      rw [found] at first
      obtain ⟨s', count, same, few, ⟨bit, turns_eq, line, counted, begun⟩, kept⟩ := first
      have ended : 32 * searchPos + (32 * usedStatus.length - 32 * searchPos) =
          32 * usedStatus.length := by omega
      rw [ended, if_pos rfl] at line counted
      have stands' : s'.At usedStatus 0 0 (0 + (32 * usedStatus.length - 32 * searchPos)) := by
        constructor
        · exact bit
        · exact turns_eq
        · rw [line, if_neg (by omega)]
        · rw [counted, if_neg (by omega)]
        · intro some
          omega
      have second := searchLoop_stretch (32 * searchPos)
        (32 * usedStatus.length - (32 * usedStatus.length - 32 * searchPos)) stands' some_
        (by omega) (by omega) (by omega)
      rw [← same] at second
      cases found' : scan (lineFree usedStatus) need (32 * searchPos) 0 0 with
      | some k =>
          rw [found'] at second
          exact second
      | none =>
          rw [found'] at second
          obtain ⟨s'', count', same', few', stands'', kept'⟩ := second
          have spent : 32 * usedStatus.length - (32 * usedStatus.length - 32 * searchPos) -
              32 * searchPos = 0 := by omega
          rw [spent] at same'
          have last : s = s'' := same'
          have counted' := stands''.counted
          rw [if_neg (by omega)] at counted'
          rw [last]
          exact ⟨by omega, kept'.trans kept⟩

end Search

end Rx888.DmaBufMgr
