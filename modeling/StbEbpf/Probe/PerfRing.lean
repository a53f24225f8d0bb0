import StbEbpf.Lib.RingBuffer
import StbEbpf.Lib.Run
import StbEbpf.Lib.Words
import StbEbpf.Probe.PerfBuffer

/-!
`bpf_loader_read_perf_events` of `src/bpf_loader.c` over the rings that the kernel fills. A record starts with a header of
type, misc and size; a sample goes on with the length of its data and the data, which starts with a `pkt_event_t`.
-/

namespace StbEbpf.Probe.Perf
open CText Access Words RingBuffer

/-- A record of the ring. `PERF_RECORD_SAMPLE` is 9, and a `pkt_event_t` has 40 bytes. -/
structure Record where
  type : UInt32
  misc : UInt16
  body : Bytes
  aligned : 8 ∣ body.length
  fits : 8 + body.length < 65536
  carries : type = 9 → 44 ≤ body.length

namespace Record

def size (record : Record) : Nat := 8 + record.body.length

def encode (record : Record) : Bytes :=
  le32 record.type ++ le16 record.misc ++ leBytes 2 record.size ++ record.body

def isSample (record : Record) : Bool := record.type = 9

def event (record : Record) : Bytes := (record.body.drop 4).take 40

end Record

/-! ### The reader -/

/-- The buffer of the caller as far as it is filled, and `*nr_events`. -/
structure Output where
  bytes : Bytes := []
  nrEvents : Nat := 0

def Output.add (out : Output) (event : Bytes) : Output := ⟨out.bytes ++ event, out.nrEvents + 1⟩

/-- The loop over one ring. A record takes at least one byte of it, so that the bytes between tail and head are fuel
enough. -/
def readRing (ringSize bufsize : Nat) : Nat → Buffer UInt8 → Output → Checked (Buffer UInt8 × Output)
  | 0, ring, out => if ring.tail < ring.head then throw .endless else pure (ring, out)
  | fuel + 1, ring, out =>
    if ring.tail < ring.head then do
      let eph ← ring.read ringSize (ring.tail % ringSize) 8
      let out ←
        if uint32 (eph.take 4) = 9 then
          if out.bytes.length + 40 ≤ bufsize then do
            let data ← ring.read ringSize (ring.tail % ringSize + 12) 40
            pure (out.add data)
          else pure out
        else pure out
      readRing ringSize bufsize fuel (ring.advance (leValue (eph.drop 6))) out
    else pure (ring, out)

def readCpus (ringSize bufsize : Nat) : List Cpu → (Cpu → Buffer UInt8) → Output → Checked ((Cpu → Buffer UInt8) × Output)
  | [], rings, out => pure (rings, out)
  | cpu :: rest, rings, out => do
    let (ring, out) ← readRing ringSize bufsize ((rings cpu).head - (rings cpu).tail) (rings cpu) out
    readCpus ringSize bufsize rest (Function.update rings cpu ring) out

/-- What is returned is the number of bytes of the output. -/
def bpfLoaderReadPerfEvents (pageSize : Nat) (status : BpfLoaderStatus) (rings : Cpu → Buffer UInt8) (bufsize : Nat) :
    Checked ((Cpu → Buffer UInt8) × Output) :=
  readCpus (status.perfPageCnt * pageSize) bufsize (visited status) rings {}

/-! ### Kernel and reader -/

/-- The rings, with the records that were written and not yet consumed. -/
structure Traffic where
  rings : Cpu → Buffer UInt8 := fun _ => ⟨fun _ => 0, 0, 0⟩
  pending : Cpu → List Record := fun _ => []

inductive Action where
  | write (cpu : Cpu) (record : Record)
  | read (bufsize : Nat)

section
variable (pageSize : Nat) (status : BpfLoaderStatus)

/-- The kernel drops a record for which there is no room. -/
def kernelWrite (traffic : Traffic) (cpu : Cpu) (record : Record) : Traffic :=
  let ring := traffic.rings cpu
  let ringSize := status.perfPageCnt * pageSize
  if ring.head - ring.tail + record.size ≤ ringSize then
    { rings := Function.update traffic.rings cpu (ring.write ringSize record.encode)
      pending := Function.update traffic.pending cpu (traffic.pending cpu ++ [record]) }
  else traffic

/-- After a fault nothing goes on. -/
def step (traffic : Traffic) : Action → Traffic
  | .write cpu record => kernelWrite pageSize status traffic cpu record
  | .read bufsize =>
    match bpfLoaderReadPerfEvents pageSize status traffic.rings bufsize with
    | .ok (rings, _) =>
      { rings := rings, pending := fun cpu => if cpu ∈ visited status then [] else traffic.pending cpu }
    | .error _ => traffic

/-- Each record with its position. -/
def placed : Nat → List Record → List (Nat × Record)
  | _, [] => []
  | position, record :: rest => (position, record) :: placed (position + record.size) rest

/-- The records that a call finds, in the order in which it comes to them. -/
def found (traffic : Traffic) : List (Nat × Record) :=
  (visited status).flatMap fun cpu => placed (traffic.rings cpu).tail (traffic.pending cpu)

def samples (records : List (Nat × Record)) : List (Nat × Record) := records.filter fun record => record.2.isSample

def events (records : List (Nat × Record)) : List Bytes := (samples records).map fun record => record.2.event

/-- A call consumes all that it finds, and returns every sample of it. -/
def Complete (traffic : Traffic) : Action → Prop
  | .write _ _ => True
  | .read bufsize => ∃ rings out,
    bpfLoaderReadPerfEvents pageSize status traffic.rings bufsize = .ok (rings, out) ∧
      (∀ cpu ∈ visited status, (rings cpu).tail = (traffic.rings cpu).head) ∧
      out.bytes = (events (found status traffic)).flatten ∧ out.nrEvents = (events (found status traffic)).length

/-- The buffer takes every sample, and no event runs over the end of its ring. -/
def Fits (traffic : Traffic) : Action → Prop
  | .write _ _ => True
  | .read bufsize => 40 * (samples (found status traffic)).length ≤ bufsize ∧
    ∀ sample ∈ samples (found status traffic),
      sample.1 % (status.perfPageCnt * pageSize) + 52 ≤ status.perfPageCnt * pageSize

end

/-! ### One record -/

namespace Record
variable (record : Record)

theorem encode_length : record.encode.length = record.size := by
  simp [encode, size, le32, le16, leBytes_length]
  omega

theorem header_type : uint32 ((record.encode.take 8).take 4) = record.type := by
  have first : (record.encode.take 8).take 4 = le32 record.type := by
    rw [List.take_take]
    unfold encode
    rw [List.append_assoc, List.append_assoc]
    exact List.take_left' (leBytes_length 4 _)
  rw [first, uint32_le32]

theorem header_size : leValue ((record.encode.take 8).drop 6) = record.size := by
  have last : (record.encode.take 8).drop 6 = leBytes 2 record.size := by
    unfold encode
    rw [List.take_left' (by simp [le32, le16, leBytes_length])]
    exact List.drop_left' (by simp [le32, le16, leBytes_length])
  rw [last]
  apply leValue_of_lt
  have small := record.fits
  unfold size
  omega

theorem event_at : (record.encode.drop 12).take 40 = record.event := by
  have body : record.encode.drop 8 = record.body := by
    unfold encode
    exact List.drop_left' (by simp [le32, le16, leBytes_length])
  rw [show 12 = 8 + 4 from rfl, ← List.drop_drop, body]
  rfl

theorem event_length (sample : record.isSample) : record.event.length = 40 := by
  have long := record.carries (of_decide_eq_true sample)
  unfold event
  rw [List.length_take, List.length_drop]
  omega

end Record

/-! ### One ring -/

/-- What the loop does with a record at its position. -/
def copyStep (ringSize bufsize : Nat) (out : Output) (record : Nat × Record) : Checked Output :=
  if record.2.isSample ∧ out.bytes.length + 40 ≤ bufsize then
    if record.1 % ringSize + 52 ≤ ringSize then pure (out.add record.2.event) else throw .read
  else pure out

section
variable {ringSize bufsize : Nat} {ring : Buffer UInt8}

/-- A header lies in one piece. -/
theorem header_straight (aligned : 8 ∣ ringSize) (positive : 0 < ringSize) {tail : Nat} (start : 8 ∣ tail) :
    tail % ringSize + 8 ≤ ringSize := by
  have inside := Nat.mod_lt tail positive
  obtain ⟨k, position⟩ := (Nat.dvd_mod_iff aligned).mpr start
  obtain ⟨n, rfl⟩ := aligned
  omega

theorem readRing_succ {record : Record} {rest : Bytes} (aligned : 8 ∣ ringSize) (positive : 0 < ringSize)
    (start : 8 ∣ ring.tail) (holds : ring.Holds ringSize (record.encode ++ rest)) (fuel : Nat) (out : Output) :
    readRing ringSize bufsize (fuel + 1) ring out =
      copyStep ringSize bufsize out (ring.tail, record) >>= readRing ringSize bufsize fuel (ring.advance record.size) := by
  have length := record.encode_length
  have more : ring.tail < ring.head := by
    rw [holds.length, List.length_append, length, Record.size]
    omega
  have header : ring.read ringSize (ring.tail % ringSize) 8 = .ok (record.encode.take 8) := by
    have enough : 0 + 8 ≤ (record.encode ++ rest).length := by
      rw [List.length_append, length, Record.size]
      omega
    have read : ring.read ringSize (ring.tail % ringSize + 0) 8 = .ok (((record.encode ++ rest).drop 0).take 8) :=
      read_held holds (header_straight aligned positive start) enough
    rw [Nat.add_zero, List.drop_zero, List.take_append_of_le_length (by rw [length, Record.size]; omega)] at read
    exact read
  rw [readRing, if_pos more, header, ok_bind, record.header_type, record.header_size]
  unfold copyStep
  by_cases sample : record.type = 9
  · have isSample : record.isSample := decide_eq_true sample
    rw [if_pos sample]
    by_cases room : out.bytes.length + 40 ≤ bufsize
    · rw [if_pos room, if_pos ⟨isSample, room⟩]
      have long := record.carries sample
      by_cases straight : ring.tail % ringSize + 52 ≤ ringSize
      · have data : ring.read ringSize (ring.tail % ringSize + 12) 40 = .ok (((record.encode ++ rest).drop 12).take 40) :=
          read_held holds straight (by rw [List.length_append, length, Record.size]; omega)
        rw [if_pos straight, data, List.drop_append_of_le_length (by rw [length, Record.size]; omega),
          List.take_append_of_le_length (by rw [List.length_drop, length, Record.size]; omega), record.event_at]
        rfl
      · rw [if_neg straight, read_outside (by omega)]
        rfl
    · rw [if_neg room, if_neg fun both => room both.2]
  · have notSample : ¬ record.isSample := fun holds => sample (of_decide_eq_true holds)
    rw [if_neg sample, if_neg fun both => notSample both.1]

/-- The loop goes through the records one by one, and leaves the tail at the head. -/
theorem readRing_eq (aligned : 8 ∣ ringSize) (positive : 0 < ringSize) {pending : List Record} {fuel : Nat}
    (enough : pending.length ≤ fuel) (start : 8 ∣ ring.tail) (holds : ring.Holds ringSize (pending.flatMap Record.encode))
    (out : Output) :
    readRing ringSize bufsize fuel ring out = do
      let out ← (placed ring.tail pending).foldlM (copyStep ringSize bufsize) out
      return (ring.drained, out) := by
  induction pending generalizing fuel ring out with
  | nil =>
    have done : ring.head = ring.tail := holds.length
    have stopped : readRing ringSize bufsize fuel ring out = pure (ring, out) := by
      cases fuel <;> rw [readRing, if_neg (by omega)]
    rw [stopped, drained_of_empty holds]
    rfl
  | cons record pending ih =>
    cases fuel with
    | zero => simp at enough
    | succ fuel =>
      rw [List.length_cons] at enough
      rw [List.flatMap_cons] at holds
      have later := advance_holds holds
      rw [record.encode_length] at later
      have aligned' : 8 ∣ (ring.advance record.size).tail := by
        obtain ⟨k, eq⟩ := record.aligned
        exact (Nat.dvd_add_right start).mpr ⟨k + 1, by rw [Record.size]; omega⟩
      rw [readRing_succ aligned positive start holds]
      simp only [placed, List.foldlM_cons, bind_assoc]
      refine congrArg _ (funext fun out => ?_)
      rw [ih (by omega) aligned' later out]
      rfl

end

theorem length_le_encoded (pending : List Record) : pending.length ≤ (pending.flatMap Record.encode).length := by
  induction pending with
  | nil => exact Nat.le_refl 0
  | cons record pending ih =>
    rw [List.length_cons, List.flatMap_cons, List.length_append, record.encode_length, Record.size]
    omega

theorem dvd_encoded (pending : List Record) : 8 ∣ (pending.flatMap Record.encode).length := by
  induction pending with
  | nil => exact dvd_zero 8
  | cons record pending ih =>
    rw [List.flatMap_cons, List.length_append, record.encode_length]
    exact dvd_add (dvd_add (dvd_refl 8) record.aligned) ih

/-! ### All rings -/

/-- Every ring holds what is pending for its CPU. -/
def Kept (ringSize : Nat) (traffic : Traffic) : Prop :=
  ∀ cpu, (traffic.rings cpu).Holds ringSize ((traffic.pending cpu).flatMap Record.encode) ∧ 8 ∣ (traffic.rings cpu).tail

section
variable {ringSize bufsize : Nat}

theorem readCpus_eq (aligned : 8 ∣ ringSize) (positive : 0 < ringSize) {traffic : Traffic} (kept : Kept ringSize traffic)
    {rest : List Cpu} (distinct : rest.Nodup) {rings : Cpu → Buffer UInt8}
    (untouched : ∀ cpu ∈ rest, rings cpu = traffic.rings cpu) (out : Output) :
    readCpus ringSize bufsize rest rings out = do
      let out ← (rest.flatMap fun cpu => placed (traffic.rings cpu).tail (traffic.pending cpu)).foldlM
        (copyStep ringSize bufsize) out
      return (fun cpu => if cpu ∈ rest then (rings cpu).drained else rings cpu, out) := by
  induction rest generalizing rings out with
  | nil =>
    simp [readCpus]
  | cons cpu rest ih =>
    obtain ⟨fresh, distinct⟩ := List.nodup_cons.mp distinct
    obtain ⟨here, later⟩ := List.forall_mem_cons.mp untouched
    obtain ⟨holds, start⟩ := kept cpu
    have enough : (traffic.pending cpu).length ≤ (traffic.rings cpu).head - (traffic.rings cpu).tail := by
      rw [holds.length, Nat.add_sub_cancel_left]
      exact length_le_encoded _
    -- the output goes on from one ring to the next, so that the records of all rings form one list
    rw [readCpus, here, readRing_eq aligned positive enough start holds, List.flatMap_cons, List.foldlM_append]
    simp only [bind_assoc, pure_bind]
    refine congrArg _ (funext fun out => ?_)
    have other_ne (other : Cpu) (member : other ∈ rest) : other ≠ cpu := fun same => fresh (same ▸ member)
    rw [ih distinct (fun other member => by rw [Function.update_of_ne (other_ne other member), later other member])]
    refine congrArg _ (funext fun out => congrArg (fun rings => pure (rings, out)) (funext fun other => ?_))
    by_cases same : other = cpu
    · subst same
      rw [if_neg fresh, Function.update_self, if_pos List.mem_cons_self, here]
    · rw [Function.update_of_ne same]
      exact if_congr (by simp [same]) rfl rfl

end

/-! ### What is copied -/

section
variable {ringSize bufsize : Nat} {out : Output} {record : Nat × Record} {records : List (Nat × Record)}

theorem copyStep_skip (other : ¬ record.2.isSample) : copyStep ringSize bufsize out record = .ok out :=
  if_neg fun both => other both.1

theorem copyStep_full (full : ¬ out.bytes.length + 40 ≤ bufsize) : copyStep ringSize bufsize out record = .ok out :=
  if_neg fun both => full both.2

theorem copyStep_copy (sample : record.2.isSample) (room : out.bytes.length + 40 ≤ bufsize)
    (straight : record.1 % ringSize + 52 ≤ ringSize) :
    copyStep ringSize bufsize out record = .ok (out.add record.2.event) := by
  unfold copyStep
  rw [if_pos ⟨sample, room⟩, if_pos straight]
  rfl

theorem copyStep_fault (sample : record.2.isSample) (room : out.bytes.length + 40 ≤ bufsize)
    (broken : ¬ record.1 % ringSize + 52 ≤ ringSize) : copyStep ringSize bufsize out record = .error .read := by
  unfold copyStep
  rw [if_pos ⟨sample, room⟩, if_neg broken]
  rfl

theorem samples_cons_sample (sample : record.2.isSample) : samples (record :: records) = record :: samples records :=
  List.filter_cons_of_pos sample

theorem samples_cons_other (other : ¬ record.2.isSample) : samples (record :: records) = samples records :=
  List.filter_cons_of_neg other

theorem events_cons (sample : record.2.isSample) : events (record :: records) = record.2.event :: events records := by
  rw [events, samples_cons_sample sample]
  rfl

theorem events_flatten_length (records : List (Nat × Record)) :
    (events records).flatten.length = 40 * (samples records).length := by
  induction records with
  | nil => rfl
  | cons record records ih =>
    by_cases sample : record.2.isSample
    · rw [events_cons sample, samples_cons_sample sample, List.flatten_cons, List.length_append, ih,
        record.2.event_length sample, List.length_cons]
      omega
    · rw [events, samples_cons_other sample]
      exact ih

/-- No more is copied than what the samples make up. -/
theorem copied_le {after : Output} (ends : records.foldlM (copyStep ringSize bufsize) out = .ok after) :
    after.bytes.length ≤ out.bytes.length + 40 * (samples records).length := by
  induction records generalizing out with
  | nil =>
    cases ends
    exact Nat.le_add_right _ _
  | cons record records ih =>
    rw [List.foldlM_cons] at ends
    by_cases sample : record.2.isSample
    · rw [samples_cons_sample sample, List.length_cons]
      by_cases room : out.bytes.length + 40 ≤ bufsize
      · by_cases straight : record.1 % ringSize + 52 ≤ ringSize
        · rw [copyStep_copy sample room straight, ok_bind] at ends
          have bound := ih ends
          rw [Output.add, List.length_append, record.2.event_length sample] at bound
          omega
        · rw [copyStep_fault sample room straight] at ends
          cases ends
      · rw [copyStep_full room, ok_bind] at ends
        have bound := ih ends
        omega
    · rw [copyStep_skip sample, ok_bind] at ends
      rw [samples_cons_other sample]
      exact ih ends

def Output.addAll (out : Output) (events : List Bytes) : Output :=
  ⟨out.bytes ++ events.flatten, out.nrEvents + events.length⟩

theorem addAll_cons (out : Output) (event : Bytes) (events : List Bytes) :
    out.addAll (event :: events) = (out.add event).addAll events := by
  simp only [Output.addAll, Output.add, List.flatten_cons, List.append_assoc, List.length_cons]
  congr 1
  omega

theorem copied_iff (within : out.bytes.length ≤ bufsize) :
    records.foldlM (copyStep ringSize bufsize) out = .ok (out.addAll (events records)) ↔
      out.bytes.length + 40 * (samples records).length ≤ bufsize ∧
        ∀ sample ∈ samples records, sample.1 % ringSize + 52 ≤ ringSize := by
  induction records generalizing out with
  | nil =>
    have same : out.addAll [] = out := by simp [Output.addAll]
    refine iff_of_true (congrArg Except.ok same.symm) ⟨within, fun _ member => ?_⟩
    cases member
  | cons record records ih =>
    rw [List.foldlM_cons]
    by_cases sample : record.2.isSample
    · rw [events_cons sample, samples_cons_sample sample, addAll_cons, List.length_cons, List.forall_mem_cons]
      by_cases room : out.bytes.length + 40 ≤ bufsize
      · by_cases straight : record.1 % ringSize + 52 ≤ ringSize
        · have longer : (out.add record.2.event).bytes.length = out.bytes.length + 40 := by
            rw [Output.add, List.length_append, record.2.event_length sample]
          rw [copyStep_copy sample room straight, ok_bind, ih (by omega), longer, and_iff_right straight,
            show out.bytes.length + 40 * ((samples records).length + 1) =
              out.bytes.length + 40 + 40 * (samples records).length by omega]
        · rw [copyStep_fault sample room straight]
          refine iff_of_false (fun ends => ?_) fun fits => straight fits.2.1
          cases ends
      · -- the sample is consumed without being copied, and what comes later cannot make up for it
        refine iff_of_false (fun ends => ?_) fun fits => by omega
        rw [copyStep_full room, ok_bind] at ends
        have bound := copied_le ends
        rw [Output.addAll, Output.add, List.length_append, List.length_append, record.2.event_length sample,
          events_flatten_length] at bound
        omega
    · have same : events (record :: records) = events records := by rw [events, samples_cons_other sample, events]
      rw [copyStep_skip sample, ok_bind, same, samples_cons_other sample]
      exact ih within

end

/-! ### Runs -/

section
variable {pageSize : Nat} {status : BpfLoaderStatus} {traffic : Traffic}

theorem visited_nodup (status : BpfLoaderStatus) : (visited status).Nodup := (cpus_nodup _).filter _

theorem kernelWrite_kept (kept : Kept (status.perfPageCnt * pageSize) traffic) (cpu : Cpu) (record : Record) :
    Kept (status.perfPageCnt * pageSize) (kernelWrite pageSize status traffic cpu record) := by
  obtain ⟨holds, start⟩ := kept cpu
  unfold kernelWrite
  dsimp only
  split
  · rename_i room
    have fits : ((traffic.pending cpu).flatMap Record.encode).length + record.encode.length ≤
        status.perfPageCnt * pageSize := by
      rw [record.encode_length]
      have length := holds.length
      omega
    have written := write_holds holds fits
    intro other
    by_cases same : other = cpu
    · subst same
      simp only [Function.update_self, List.flatMap_append, List.flatMap_singleton]
      exact ⟨written, start⟩
    · simp only [Function.update_of_ne same]
      exact kept other
  · exact kept

theorem drained_kept {ringSize : Nat} (kept : Kept ringSize traffic) (read : List Cpu) :
    Kept ringSize
      { rings := fun cpu => if cpu ∈ read then (traffic.rings cpu).drained else traffic.rings cpu
        pending := fun cpu => if cpu ∈ read then [] else traffic.pending cpu } := by
  intro cpu
  obtain ⟨holds, start⟩ := kept cpu
  by_cases member : cpu ∈ read
  · have head : 8 ∣ (traffic.rings cpu).head := by
      rw [holds.length]
      exact dvd_add start (dvd_encoded _)
    simp only [if_pos member]
    exact ⟨drained_holds, head⟩
  · simp only [if_neg member]
    exact ⟨holds, start⟩

variable (positive : 0 < status.perfPageCnt * pageSize) (aligned : 8 ∣ pageSize)

include positive aligned

theorem bpfLoaderReadPerfEvents_eq (kept : Kept (status.perfPageCnt * pageSize) traffic) (bufsize : Nat) :
    bpfLoaderReadPerfEvents pageSize status traffic.rings bufsize = do
      let out ← (found status traffic).foldlM (copyStep (status.perfPageCnt * pageSize) bufsize) {}
      return (fun cpu => if cpu ∈ visited status then (traffic.rings cpu).drained else traffic.rings cpu, out) :=
  readCpus_eq (aligned.mul_left _) positive kept (visited_nodup status) (fun _ _ => rfl) {}

theorem complete_iff_fits (kept : Kept (status.perfPageCnt * pageSize) traffic) (action : Action) :
    Complete pageSize status traffic action ↔ Fits pageSize status traffic action := by
  cases action with
  | write => exact Iff.rfl
  | read bufsize =>
    have empty : ({} : Output).bytes.length ≤ bufsize := Nat.zero_le bufsize
    have copied : (found status traffic).foldlM (copyStep (status.perfPageCnt * pageSize) bufsize) {} =
        .ok (({} : Output).addAll (events (found status traffic))) ↔ Fits pageSize status traffic (.read bufsize) := by
      rw [copied_iff empty, show ({} : Output).bytes.length = 0 from rfl, Nat.zero_add]
      exact Iff.rfl
    rw [← copied, Complete, bpfLoaderReadPerfEvents_eq positive aligned kept]
    constructor
    · rintro ⟨rings, out, ends, -, bytes, count⟩
      cases result : (found status traffic).foldlM (copyStep (status.perfPageCnt * pageSize) bufsize) {} with
      | error fault =>
        rw [result] at ends
        cases ends
      | ok after =>
        rw [result] at ends
        cases ends
        obtain ⟨outBytes, outCount⟩ := out
        cases bytes
        cases count
        simp [Output.addAll]
    · intro ends
      refine ⟨_, _, by rw [ends]; rfl, fun cpu member => ?_, rfl, Nat.zero_add _⟩
      rw [if_pos member]
      rfl

theorem step_kept (kept : Kept (status.perfPageCnt * pageSize) traffic) (action : Action) :
    Kept (status.perfPageCnt * pageSize) (step pageSize status traffic action) := by
  cases action with
  | write cpu record => exact kernelWrite_kept kept cpu record
  | read bufsize =>
    rw [step, bpfLoaderReadPerfEvents_eq positive aligned kept]
    cases (found status traffic).foldlM (copyStep (status.perfPageCnt * pageSize) bufsize) {} with
    | error fault => exact kept
    | ok out => exact drained_kept kept (visited status)

theorem reads_complete_iff (actions : List Action) :
    Run.Along (step pageSize status) (Complete pageSize status) {} actions ↔
      Run.Along (step pageSize status) (Fits pageSize status) {} actions := by
  have start : Kept (status.perfPageCnt * pageSize) {} := by
    intro cpu
    exact ⟨⟨rfl, Nat.zero_le _, fun _ inside => absurd inside (Nat.not_lt_zero _)⟩, dvd_zero 8⟩
  apply Run.along_iff _ _ start (Run.along_true _ _ _)
  · intro traffic action kept _ _
    exact step_kept positive aligned kept action
  · intro traffic action kept
    exact complete_iff_fits positive aligned kept action

end

/-- One CPU with its ring. -/
def ready : BpfLoaderStatus := (createPerfBuffer 1 (fun _ => .ring 7 8192) (started 3 5 4)).2.status

def oneSample : Record where
  type := 9
  misc := 0
  body := List.replicate 48 1
  aligned := by decide
  fits := by decide
  carries := by decide

theorem one_sample_returned : Run.Along (step 4096 ready) (Complete 4096 ready) {} [.write 0 oneSample, .read 40] := by
  apply (reads_complete_iff (by decide) (by decide) _).mpr
  exact ⟨trivial, ⟨by decide, by decide⟩, trivial⟩

/-- The buffer has room for the first of two samples, and the second one is consumed all the same. -/
theorem second_sample_lost : ¬ Run.Along (step 4096 ready) (Complete 4096 ready) {}
    [.write 0 oneSample, .write 0 oneSample, .read 40] := by
  rintro ⟨-, -, ⟨rings, out, ends, -, -, count⟩, -⟩
  have one : (bpfLoaderReadPerfEvents 4096 ready (step 4096 ready (step 4096 ready {} (.write 0 oneSample))
      (.write 0 oneSample)).rings 40).toOption.map (fun read => read.2.nrEvents) = some 1 := by decide +kernel
  rw [ends] at one
  have two : out.nrEvents = 2 := count
  rw [Except.toOption, Option.map_some, two] at one
  cases one

end StbEbpf.Probe.Perf
