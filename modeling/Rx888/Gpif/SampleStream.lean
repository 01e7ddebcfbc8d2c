import Rx888.Gpif.Acquisition
import Rx888.PingPong.Recorder

/-! # The samples that the host gets

The engine and the DMA channel that `StartApplication` creates: two producer sockets, one for each
thread, and the endpoint. The bus is 16 bits wide. When a socket has a buffer to fill is up to the
DMA engine and the host, so its ready flag may be anything on any clock.
-/

namespace Rx888

open Gpif PingPong Synchronous

def bulkPktSize : Nat := 0x400
def bulkPktsCount : Nat := 0x10
def dmaBufferSize : Nat := bulkPktsCount * bulkPktSize

def bufferSamples : Nat := dmaBufferSize / 2

/-- A clock of the ADC: `FW_TRG`, the sample on the bus, the ready flags of the threads, whether a
full buffer goes to the host, and the other inputs. -/
structure AdcClock where
  fwTrg : Bool
  sample : UInt16
  dmaReady : Thread → Bool
  taken : Bool
  others : Nat → Bool

def socketOfThread : Thread → Option Bool
  | .th0 => some false
  | .th1 => some true
  | .th2 | .th3 => none

def AdcClock.ready (e : AdcClock) (t : Bool) : Bool := e.dmaReady (threadOfSocket t)

def streamWiring : Wiring AdcClock Gpif.Inputs Seen UInt16 where
  inputs e := { cpuDef := e.fwTrg, dmaReady := e.dmaReady, others := e.others }
  ready := AdcClock.ready
  push seen := seen.push.bind socketOfThread
  word := AdcClock.sample
  takes := AdcClock.taken

def sampleStream : Machine AdcClock (State × Channel UInt16) (Seen × Channel UInt16) :=
  streamWiring.feed bufferSamples cyFxGpifConfig.engine

def streamStarted (dataCount : UInt32) : State × Channel UInt16 :=
  (Config.started 0 dataCount, .empty)

/-- `DMA_RDY` of a thread stays up while the buffer of its socket is partly filled. -/
def PartFilledReady (e : AdcClock) (x : State × Channel UInt16) : Prop := OpenReady e.ready x.2

def sampleRecorder : Machine AdcClock (Reader × Channel UInt16) (Place × Channel UInt16) :=
  recorder AdcClock.fwTrg AdcClock.ready AdcClock.sample AdcClock.taken readerLimit bufferSamples

/-- The recorder as the stream is seen. -/
def readStream : Machine AdcClock (Reader × Channel UInt16) (Seen × Channel UInt16) :=
  sampleRecorder.adapt id fun seen => (placeSeen seen.1, seen.2)

theorem streamWiring_inputs (e : AdcClock) :
    readerInputs (streamWiring.inputs e) = ⟨e.fwTrg, e.ready⟩ := rfl

theorem streamWiring_push (p : Place) : streamWiring.push (placeSeen p) = p.push := by
  cases p with
  | reset | idle => rfl
  | load t | read t | busy t | wait t => cases t <;> rfl

theorem streamWiring_next (e : AdcClock) (x : Reader × Channel UInt16) :
    (streamWiring.feed bufferSamples acquisition).next e x = readStream.next e x := by
  obtain ⟨r, c⟩ := x
  show (r.clock readerLimit (readerInputs (streamWiring.inputs e)),
    streamWiring.after bufferSamples c (placeSeen r.place) e) = readStream.next e (r, c)
  unfold Wiring.after Wiring.pushed
  rw [streamWiring_inputs, streamWiring_push]
  rfl

/-- The stream is that of a reader. -/
def streams : Simulation sampleStream readStream where
  rel x y := acquires.rel x.1 y.1 ∧ x.2 = y.2
  next e x y related := by
    rw [← streamWiring_next]
    exact (streamWiring.simulation bufferSamples acquires).next e x y related
  out x y related := (streamWiring.simulation bufferSamples acquires).out x y related

theorem streamStarted_streams (dataCount : UInt32) :
    streams.rel (streamStarted dataCount) (⟨.reset, dataCount.toNat⟩, .empty) :=
  ⟨started_acquires dataCount, rfl⟩

theorem bufferSamples_eq : bufferSamples = readerLimit + 2 := rfl

section Streams

variable (dataCount : UInt32) (edges : List AdcClock)

theorem sampleStream_channel : (sampleStream.run (streamStarted dataCount) edges).2 =
    (sampleRecorder.run (⟨.reset, dataCount.toNat⟩, .empty) edges).2 := by
  have run := (streams.run (streamStarted_streams dataCount) edges).2
  unfold readStream at run
  rw [Machine.run_adapt, List.map_id] at run
  exact run

theorem sampleStream_along : sampleStream.Along PartFilledReady (streamStarted dataCount) edges ↔
    sampleRecorder.Along (fun e x => OpenReady e.ready x.2) (⟨.reset, dataCount.toNat⟩, .empty)
      edges := by
  have same (e : AdcClock) (x : State × Channel UInt16) (y : Reader × Channel UInt16)
      (related : streams.rel x y) : PartFilledReady e x ↔ OpenReady e.ready y.2 := by
    rw [PartFilledReady, related.2]
  rw [streams.along_iff same (streamStarted_streams dataCount)]
  have adapted : readStream.Along (fun e x => OpenReady e.ready x.2)
      (⟨.reset, dataCount.toNat⟩, .empty) edges ↔
        sampleRecorder.Along (fun e x => OpenReady e.ready x.2)
          (⟨.reset, dataCount.toNat⟩, .empty) (edges.map id) :=
    sampleRecorder.along_adapt id _ fun e x => OpenReady e.ready x.2
  rw [List.map_id] at adapted
  exact adapted

theorem sampleStream_quiet : (∀ seen ∈ sampleStream.trace (streamStarted dataCount) edges,
      seen.1.interrupt = false) ↔
    ∀ seen ∈ sampleRecorder.trace (⟨.reset, dataCount.toNat⟩, .empty) edges,
      seen.1.interrupts = false := by
  rw [streams.trace (streamStarted_streams dataCount)]
  unfold readStream
  rw [Machine.trace_adapt, List.map_id]
  exact List.forall_mem_map

end Streams

/-! ## Clocks that find the sockets ready -/

/-- A clock that finds both sockets ready. -/
def AdcClock.steady (fwTrg taken : Bool) (n : Nat) : AdcClock :=
  ⟨fwTrg, UInt16.ofNat n, fun _ => true, taken, fun _ => false⟩

def steadyBuffer (n : Nat) : List AdcClock :=
  (List.range' n bufferSamples).map (AdcClock.steady true false)

theorem mem_steadyBuffer {n : Nat} {e : AdcClock} (mem : e ∈ steadyBuffer n) :
    ∃ m, e = .steady true false m := by
  obtain ⟨m, -, rfl⟩ := List.mem_map.mp mem
  exact ⟨m, rfl⟩

/-- A buffer is filled in the socket at its turn. -/
theorem run_steadyBuffer (n m : Nat) {t : Bool} {c : Channel UInt16}
    (none_ : (c.socket t).filling = []) :
    sampleRecorder.run (⟨.load t, m⟩, c) (steadyBuffer n) =
      (⟨.load (!t), readerLimit⟩,
        c.put t ⟨[], (c.socket t).full ++ [(steadyBuffer n).map AdcClock.sample]⟩) := by
  have fills : ∀ e ∈ steadyBuffer n,
      Fills AdcClock.fwTrg AdcClock.ready AdcClock.taken t e := by
    intro e mem
    obtain ⟨m, rfl⟩ := mem_steadyBuffer mem
    exact ⟨rfl, rfl, rfl⟩
  have length : (steadyBuffer n).length = bufferSamples := by
    rw [steadyBuffer, List.length_map, List.length_range']
  exact run_block bufferSamples_eq fills length none_ m

theorem run_starts (edges : List AdcClock) :
    sampleRecorder.run (⟨.reset, 0⟩, .empty)
        (.steady false false 7 :: .steady true false 8 :: edges) =
      sampleRecorder.run (⟨.load false, 0⟩, .empty) edges :=
  rfl

theorem run_firstBuffer (n m : Nat) :
    sampleRecorder.run (⟨.load false, m⟩, .empty) (steadyBuffer n) =
      (⟨.load true, readerLimit⟩,
        Channel.empty.put false ⟨[], [(steadyBuffer n).map AdcClock.sample]⟩) :=
  run_steadyBuffer n m rfl

/-! ## The order of the samples -/

/-- Whenever the sockets get buffers and the host takes them, and until `FW_TRG` is raised again,
every buffer that the host gets holds samples of consecutive clocks, and the buffers are in the
order of their samples. -/
theorem samples_in_order (dataCount : UInt32) {rest stream : List AdcClock}
    (resting : ∀ e ∈ rest, e.fwTrg = false) (falls : Falls AdcClock.fwTrg stream)
    (ready : sampleStream.Along PartFilledReady (streamStarted dataCount) (rest ++ stream)) :
    Recorded bufferSamples
      (sampleStream.run (streamStarted dataCount) (rest ++ stream)).2.received
      ((rest ++ stream).map AdcClock.sample) := by
  have none_ : (Reader.mk .reset dataCount.toNat).place.socket = none := rfl
  rw [sampleStream_channel]
  exact run_recorded bufferSamples_eq resting falls none_ ((sampleStream_along _ _).mp ready)

/-- The second socket gets a buffer only on the third of these clocks. -/
def lateSocket : List AdcClock :=
  [{ AdcClock.steady true true 5 with dmaReady := fun t => t != .th1 },
    .steady true false 6, .steady true false 7]

/-- Two buffers with samples lost between them. -/
def gappedBuffers : List AdcClock :=
  .steady true false 8 :: (steadyBuffer 0 ++ (lateSocket ++ (steadyBuffer bufferSamples ++
    [.steady true true 9])))

/-- The host takes the first buffer while the second socket is waited for. -/
theorem run_lateSocket (c : Channel UInt16) :
    sampleRecorder.run (⟨.load true, readerLimit⟩, c) lateSocket = (⟨.load true, 0⟩, c.take) :=
  rfl

theorem run_takenLast (first second : List UInt16) {c : Channel UInt16}
    (received : c.received = [first]) (full0 : c.socket false = ⟨[], []⟩)
    (full1 : c.socket true = ⟨[], [second]⟩) (n : Nat) :
    (sampleRecorder.run (⟨.load false, readerLimit⟩, c) [.steady true true n]).2.received =
      [first, second] := by
  have within : (1 : Nat) ≠ bufferSamples := by decide
  simp [sampleRecorder, recorder_next, driven, Place.push, AdcClock.ready, AdcClock.steady,
    Channel.push, Socket.push, Channel.take, Channel.turn, Channel.put, within,
    received, full0, full1]

theorem samples_in_order_gappedBuffers :
    Recorded bufferSamples
      (sampleStream.run (streamStarted 0) ([.steady false false 7] ++ gappedBuffers)).2.received
      ((([.steady false false 7] : List AdcClock) ++ gappedBuffers).map AdcClock.sample) ∧
    (sampleStream.run (streamStarted 0) ([.steady false false 7] ++ gappedBuffers)).2.received =
      [(steadyBuffer 0).map AdcClock.sample, (steadyBuffer bufferSamples).map AdcClock.sample] := by
  have going : ∀ e ∈ gappedBuffers, e.fwTrg = true := by
    intro e mem
    simp only [gappedBuffers, lateSocket, List.mem_append, List.mem_cons, List.not_mem_nil,
      or_false] at mem
    rcases mem with rfl | mem | (rfl | rfl | rfl) | mem | rfl
    · rfl
    · obtain ⟨n, rfl⟩ := mem_steadyBuffer mem
      rfl
    · rfl
    · rfl
    · rfl
    · obtain ⟨n, rfl⟩ := mem_steadyBuffer mem
      rfl
    · rfl
  have open_ (n : Nat) (x : Reader × Channel UInt16) : sampleRecorder.Along
      (fun e x => OpenReady e.ready x.2) x (steadyBuffer n) := by
    apply Machine.along_of_forall
    intro e mem x
    obtain ⟨m, rfl⟩ := mem_steadyBuffer mem
    exact fun _ _ => rfl
  have closed (first : List UInt16) (t : Bool) :
      ((Channel.empty.put false ⟨[], [first]⟩).socket t).filling = [] := by
    cases t <;> rfl
  refine ⟨samples_in_order 0 ?_ ?_ ?_, ?_⟩
  · intro e mem
    rw [List.mem_singleton.mp mem]
    rfl
  · apply List.pairwise_iff_forall_sublist.mpr
    intro e e' sublist _
    exact going e (sublist.subset List.mem_cons_self)
  · rw [sampleStream_along, List.cons_append, List.nil_append, UInt32.toNat_zero]
    refine ⟨fun _ _ => rfl, fun _ _ => rfl, ?_⟩
    show sampleRecorder.Along _ (⟨.load false, 0⟩, .empty) _
    rw [Machine.along_append, run_firstBuffer, Machine.along_append, Machine.along_append]
    have late : sampleRecorder.Along (fun e x => OpenReady e.ready x.2) (⟨.load true, readerLimit⟩,
        Channel.empty.put false ⟨[], [(steadyBuffer 0).map AdcClock.sample]⟩) lateSocket :=
      ⟨fun t filled => absurd (closed _ t) filled, fun _ _ => rfl, fun _ _ => rfl, trivial⟩
    exact ⟨open_ _ _, late, open_ _ _, fun _ _ => rfl, trivial⟩
  · rw [sampleStream_channel, List.cons_append, List.nil_append, UInt32.toNat_zero, gappedBuffers,
      run_starts, Machine.run_append, run_firstBuffer, Machine.run_append, run_lateSocket,
      Machine.run_append, run_steadyBuffer bufferSamples 0 rfl]
    exact run_takenLast _ _ rfl rfl rfl _

/-! ## No sample lost -/

/-- As long as the machine does not interrupt the CPU, the host gets every sample since the clock
after `FW_TRG` was raised: those that it has not got yet are in the channel. -/
theorem samples_gapless (dataCount : UInt32) {first start : AdcClock} {rest stream : List AdcClock}
    (resting : ∀ e ∈ first :: rest, e.fwTrg = false)
    (streaming : ∀ e ∈ start :: stream, e.fwTrg = true)
    (ready : sampleStream.Along PartFilledReady (streamStarted dataCount)
      (first :: rest ++ start :: stream))
    (quiet : ∀ seen ∈ sampleStream.trace (streamStarted dataCount)
      (first :: rest ++ start :: stream), seen.1.interrupt = false) :
    ∃ pending t,
      (sampleStream.run (streamStarted dataCount) (first :: rest ++ start :: stream)).2.Holds
        bufferSamples (stream.map AdcClock.sample) pending t := by
  have none_ : (Reader.mk .reset dataCount.toNat).place.socket = none := rfl
  have rested : sampleRecorder.run (⟨.reset, dataCount.toNat⟩, .empty) (first :: rest) =
      (⟨.idle, dataCount.toNat⟩, .empty) := run_rest resting none_
  have holds := ((Machine.along_append _).mp ((sampleStream_along _ _).mp ready)).2
  have calm := (sampleStream_quiet _ _).mp quiet
  rw [rested] at holds
  rw [sampleStream_channel, Machine.run_append, rested]
  apply run_gapless bufferSamples_eq rfl streaming holds
  intro seen mem
  rw [← rested] at mem
  exact calm _ (Machine.mem_trace_append _ mem)

/-- Two buffers, and two clocks on which the host takes them. -/
def twoBuffers : List AdcClock :=
  steadyBuffer 0 ++ (steadyBuffer bufferSamples ++
    [.steady true true (2 * bufferSamples), .steady true true (2 * bufferSamples + 1)])

theorem mem_twoBuffers {e : AdcClock} (mem : e ∈ twoBuffers) :
    ∃ taken n, e = .steady true taken n := by
  simp only [twoBuffers, List.mem_append, List.mem_cons, List.not_mem_nil, or_false] at mem
  rcases mem with mem | mem | rfl | rfl
  · obtain ⟨n, rfl⟩ := mem_steadyBuffer mem
    exact ⟨_, _, rfl⟩
  · obtain ⟨n, rfl⟩ := mem_steadyBuffer mem
    exact ⟨_, _, rfl⟩
  · exact ⟨_, _, rfl⟩
  · exact ⟨_, _, rfl⟩

/-- Both sockets have a full buffer, and the host takes them. -/
theorem run_taken (first second : List UInt16) {c : Channel UInt16} (none_ : c.received = [])
    (full0 : c.socket false = ⟨[], [first]⟩) (full1 : c.socket true = ⟨[], [second]⟩) (n m : Nat) :
    (sampleRecorder.run (⟨.load false, readerLimit⟩, c)
      [.steady true true n, .steady true true m]).2.received = [first, second] := by
  have within : (1 : Nat) ≠ bufferSamples := by decide
  have again : (2 : Nat) ≠ bufferSamples := by decide
  simp [sampleRecorder, recorder_next, driven, Place.push, AdcClock.ready, AdcClock.steady,
    Channel.push, Socket.push, Channel.take, Channel.turn, Channel.put, within, again,
    Reader.clock, Reader.next, none_, full0, full1]

/-- The host has got both buffers. -/
theorem run_twoBuffers : (sampleStream.run (streamStarted 0)
      (.steady false false 7 :: [] ++ .steady true false 8 :: twoBuffers)).2.received =
    [(steadyBuffer 0).map AdcClock.sample, (steadyBuffer bufferSamples).map AdcClock.sample] := by
  rw [sampleStream_channel, List.cons_append, List.nil_append, UInt32.toNat_zero, run_starts,
    twoBuffers, Machine.run_append, run_firstBuffer, Machine.run_append,
    run_steadyBuffer bufferSamples readerLimit rfl]
  exact run_taken _ _ rfl rfl rfl _ _

theorem samples_gapless_twoBuffers :
    (∃ pending t, (sampleStream.run (streamStarted 0)
        (.steady false false 7 :: [] ++ .steady true false 8 :: twoBuffers)).2.Holds bufferSamples
      (twoBuffers.map AdcClock.sample) pending t) ∧
    (sampleStream.run (streamStarted 0)
        (.steady false false 7 :: [] ++ .steady true false 8 :: twoBuffers)).2.received =
      [(steadyBuffer 0).map AdcClock.sample, (steadyBuffer bufferSamples).map AdcClock.sample] := by
  have steady : ∀ e ∈ .steady false false 7 :: [] ++ .steady true false 8 :: twoBuffers,
      ∃ fwTrg taken n, e = .steady fwTrg taken n := by
    intro e mem
    rcases List.mem_cons.mp mem with rfl | mem
    · exact ⟨_, _, _, rfl⟩
    · rcases List.mem_cons.mp mem with rfl | mem
      · exact ⟨_, _, _, rfl⟩
      · obtain ⟨taken, n, rfl⟩ := mem_twoBuffers mem
        exact ⟨_, _, _, rfl⟩
  refine ⟨samples_gapless 0 ?_ ?_ ?_ ?_, ?_⟩
  · intro e mem
    rw [List.mem_singleton.mp mem]
    rfl
  · intro e mem
    rcases List.mem_cons.mp mem with rfl | mem
    · rfl
    · obtain ⟨taken, n, rfl⟩ := mem_twoBuffers mem
      rfl
  · rw [sampleStream_along]
    apply Machine.along_of_forall
    intro e mem x
    obtain ⟨fwTrg, taken, n, rfl⟩ := steady e mem
    exact fun _ _ => rfl
  · rw [sampleStream_quiet]
    apply quiet_of_ready
    · intro e mem t
      obtain ⟨fwTrg, taken, n, rfl⟩ := steady e mem
      rfl
    · rfl
  · exact run_twoBuffers

end Rx888
