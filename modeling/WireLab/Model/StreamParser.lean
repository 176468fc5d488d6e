import WireLab.Base.Ring
import WireLab.Base.TSys
import WireLab.Model.DevicePacketParsers
import WireLab.Model.PacketAnalyzer

/-!
# The streaming parser

`MetalStreamParser` of `metal_packet_parser.mm`: a ring of slots with persistent
buffers. A call of the host fills a slot and leaves its kernel to the GPU, which runs it
whenever it likes; a call that waits does not go on before the kernel has completed.

The times of a batch (`Timing`) are left out, and kernels do not fail.
-/

namespace WireLab

open Base

/-- The offsets of a packet and of the next one are apart by its length. -/
def PacketBatch.spacedAt (batch : PacketBatch) (index : Nat) : Bool :=
  match batch.packetOffsets[index]?, batch.packetOffsets[index + 1]?, batch.packetLengths[index]? with
  | some offset, some next, some length => offset ≤ next && next - offset == length.toUInt32
  | _, _, _ => false

def validateBatch (batch : PacketBatch) : Bool :=
  batch.packetOffsets.length == batch.packetCount + 1 &&
    batch.packetLengths.length == batch.packetCount &&
    batch.senderIds.length == batch.packetCount &&
    batch.packetOffsets.head? == some 0 &&
    batch.packetOffsets.getLast?.map UInt32.toNat == some batch.packetBytes.length &&
    (List.range batch.packetCount).all batch.spacedAt

namespace MetalStreamParser

def maxPipelineDepth : Nat := 16

def metalThreadsPerGroup : Nat := 256

/-- What has become of a command buffer that was committed. -/
inductive CommandStatus
  | running
  | completed
  deriving DecidableEq

/-- A slot of the ring. A buffer is nil before its first use; its elements are in the
type that the kernel reads them in. -/
structure Slot where
  bytes : Option Bytes := none
  offsets : Option (List UInt32) := none
  lengths : Option (List UInt16) := none
  senderIds : Option (List UInt32) := none
  count : Option (List UInt32) := none
  analyses : Option (List (Option DevicePacketAnalysis)) := none
  command : Option CommandStatus := none
  packetCount : Nat := 0
  sequence : UInt64 := 0
  timestampNs : UInt64 := 0
  busy : Bool := false

/-- The results of a batch. A record that is not one of an analysis is `none`. -/
structure Batch where
  packets : List (Option PacketAnalysis)
  sequence : UInt64
  timestampNs : UInt64
  deriving DecidableEq

/-- The parser: `nextSlot` is where a batch is submitted, `oldestSlot` where one is
harvested. -/
structure Impl (depth : Nat) where
  slots : Fin depth → Slot
  nextSlot : Fin depth
  oldestSlot : Fin depth
  busyCount : Nat := 0
  nextSequence : UInt64 := 0
  allocations : Nat := 0
  ready : List Batch := []

namespace Impl
variable {depth : Nat}

def inFlight (impl : Impl depth) : Nat := impl.busyCount + impl.ready.length

def setSlot (impl : Impl depth) (index : Fin depth) (slot : Slot) : Impl depth :=
  { impl with slots := Function.update impl.slots index slot }

/-! ## Harvesting -/

/-- What an attempt to harvest comes to: nothing that can be harvested, a kernel that is
waited for, or a batch more in `ready`. -/
inductive Harvest (depth : Nat)
  | nothing
  | blocked
  | done (impl : Impl depth)

/-- The records that are read back from a slot. -/
def results (slot : Slot) : List (Option PacketAnalysis) :=
  if slot.command.isSome then
    (List.range slot.packetCount).map fun index => do
      (← (← (← slot.analyses)[index]?)).toPacketAnalysis
  else []

def harvestOldest (impl : Impl depth) (wait : Bool) : Harvest depth :=
  let slot := impl.slots impl.oldestSlot
  if impl.busyCount = 0 then .nothing
  else if slot.command = some .running then if wait then .blocked else .nothing
  else
    let batch : Batch :=
      { packets := results slot, sequence := slot.sequence, timestampNs := slot.timestampNs }
    .done { impl.setSlot impl.oldestSlot { slot with command := none, busy := false } with
      ready := impl.ready ++ [batch]
      oldestSlot := Ring.next impl.oldestSlot
      busyCount := impl.busyCount - 1 }

/-- `claim_slot`: a slot is free, or the oldest is reclaimed. -/
def claimSlot (impl : Impl depth) : Harvest depth :=
  if impl.busyCount ≠ depth then .done impl else impl.harvestOldest true

/-! ## Filling a slot -/

/-- The device during a call: how many buffers it can still allocate. A call in which
one more was wanted has `failed`. -/
structure Device where
  available : Nat
  allocations : Nat
  failed : Bool := false

/-- `ensure_capacity`, in elements of the buffer; a call that has failed does nothing
more. -/
def ensureCapacity {α : Type} (zero : α) (buffer : Option (List α)) (requiredLength : Nat)
    (device : Device) : Option (List α) × Device :=
  let wanted := max requiredLength 1
  let existing := (buffer.map List.length).getD 0
  if device.failed ∨ (buffer.isSome ∧ wanted ≤ existing) then (buffer, device)
  else
    match device.available with
    | 0 => (none, { device with failed := true })
    | available + 1 =>
        (some (List.replicate (max wanted (existing * 2)) zero),
          { device with available, allocations := device.allocations + 1 })

/-- `memcpy` to the start of a buffer. -/
def fill {α : Type} (buffer : Option (List α)) (source : List α) : Option (List α) :=
  buffer.map fun contents => source ++ contents.drop source.length

/-- The buffers of a slot, as far as the device can allocate them. -/
def ensureCapacities (slot : Slot) (batch : PacketBatch) (device : Device) : Slot × Device :=
  let (bytes, device) := ensureCapacity 0 slot.bytes batch.packetBytes.length device
  let (offsets, device) := ensureCapacity 0 slot.offsets batch.packetOffsets.length device
  let (lengths, device) := ensureCapacity 0 slot.lengths batch.packetLengths.length device
  let (senderIds, device) := ensureCapacity 0 slot.senderIds batch.senderIds.length device
  let (count, device) := ensureCapacity 0 slot.count 1 device
  let (analyses, device) := ensureCapacity none slot.analyses batch.packetCount device
  ({ slot with bytes, offsets, lengths, senderIds, count, analyses }, device)

/-- The batch in the buffers of a slot. -/
def fillSlot (slot : Slot) (batch : PacketBatch) : Slot :=
  { slot with
    bytes := fill slot.bytes batch.packetBytes
    offsets := fill slot.offsets batch.packetOffsets
    lengths := fill slot.lengths batch.packetLengths
    senderIds := fill slot.senderIds batch.senderIds
    count := fill slot.count [.ofNat batch.packetCount] }

def commitSlot (impl : Impl depth) (slot : Slot) (timestampNs : UInt64) : Impl depth :=
  { impl.setSlot impl.nextSlot
      { slot with sequence := impl.nextSequence, timestampNs, busy := true } with
    nextSequence := impl.nextSequence + 1
    nextSlot := Ring.next impl.nextSlot
    busyCount := impl.busyCount + 1 }

/-- `submit`, once it has a slot, and whether it returns. The device can allocate
`memory` buffers meanwhile. -/
def fillNext (impl : Impl depth) (batch : PacketBatch) (memory : Nat) : Impl depth × Bool :=
  let slot := impl.slots impl.nextSlot
  if batch.packetCount = 0 then
    (impl.commitSlot { slot with command := none, packetCount := 0 } batch.timestampNs, true)
  else
    let (slot, device) :=
      ensureCapacities slot batch { available := memory, allocations := impl.allocations }
    let impl := { impl with allocations := device.allocations }
    if device.failed then (impl.setSlot impl.nextSlot slot, false)
    else
      let slot :=
        { fillSlot slot batch with
          command := some .running
          packetCount := batch.packetCount }
      (impl.commitSlot slot batch.timestampNs, true)

/-! ## The GPU -/

/-- A slot as its kernel reads it. -/
def kernelBatch (slot : Slot) : PacketBatch where
  packetBytes := slot.bytes.getD []
  packetOffsets := slot.offsets.getD []
  packetLengths := slot.lengths.getD []
  senderIds := slot.senderIds.getD []

/-- The threads of the dispatch for a slot. -/
def dispatch (packetCount : Nat) : List UInt32 :=
  Metal.threads ((packetCount + metalThreadsPerGroup - 1) / metalThreadsPerGroup *
    metalThreadsPerGroup)

/-- The writes of the threads of a slot's kernel, if none of them reads outside of the
buffers. -/
def kernelWrites (slot : Slot) : Option (List (Nat × DevicePacketAnalysis)) := do
  let count ← (← slot.count)[0]?
  let writes ← (dispatch slot.packetCount).mapM (Metal.parsePackets (kernelBatch slot) count)
  return writes.flatten

/-- The GPU completes the command of a slot; its writes happen in some order. -/
def complete (impl : Impl depth) (index : Fin depth) (order : List (Nat × DevicePacketAnalysis)) :
    Option (Impl depth) := do
  let slot := impl.slots index
  let writes ← kernelWrites slot
  let analyses ← slot.analyses
  if slot.command = some .running ∧ order.isPerm writes ∧
      ∀ write ∈ order, write.1 < analyses.length then
    return impl.setSlot index
      { slot with
        command := some .completed
        analyses := some (order.foldl store analyses) }
  else none

end Impl

/-! ## The calls -/

/-- The call that the host is in. -/
inductive Host
  | idle
  /-- `submit`, before it has a slot. -/
  | claiming (batch : PacketBatch)
  /-- `submit`, when it has one. -/
  | filling (batch : PacketBatch)
  | collecting
  | draining

/-- What a call returns. -/
inductive Return
  | submitted (batch : PacketBatch)
  /-- `submit` has thrown. -/
  | refused
  | tried (batch : Option Batch)
  | collected (batch : Option Batch)
  | drained (batches : List Batch)

/-- What happens: the host calls, a call goes on, or the GPU completes a command. -/
inductive Action (depth : Nat)
  | submit (batch : PacketBatch)
  | tryCollect
  | collect
  | drain
  /-- The device can allocate `memory` buffers, should the call fill a slot. -/
  | resume (memory : Nat)
  | complete (index : Fin depth) (order : List (Nat × DevicePacketAnalysis))

structure Stream (depth : Nat) where
  impl : Impl depth
  host : Host := .idle

namespace Stream
variable {depth : Nat}

/-- The front of `ready`, if there is one. -/
def popReady (impl : Impl depth) : Option Batch × Impl depth :=
  match impl.ready with
  | [] => (none, impl)
  | batch :: ready => (some batch, { impl with ready })

/-- The end of a call. -/
def returns (impl : Impl depth) (value : Return) : Stream depth × Option Return :=
  ({ impl }, some value)

/-- The checks of `submit`. -/
def accepts (batch : PacketBatch) : Bool :=
  validateBatch batch && batch.packetCount ≤ 4294967295

def tryCollect (impl : Impl depth) : Stream depth × Option Return :=
  let impl :=
    if impl.ready.isEmpty then
      match impl.harvestOldest false with
      | .done impl => impl
      | _ => impl
    else impl
  let (batch, impl) := popReady impl
  returns impl (.tried batch)

/-- A call goes on, unless it has to wait. -/
def resume (stream : Stream depth) (memory : Nat) : Option (Stream depth × Option Return) :=
  let impl := stream.impl
  match stream.host with
  | .idle => none
  | .claiming batch =>
      match impl.claimSlot with
      | .blocked => none
      | .nothing => some ({ impl, host := .filling batch }, none)
      | .done impl => some ({ impl, host := .filling batch }, none)
  | .filling batch =>
      let (impl, returned) := impl.fillNext batch memory
      some (returns impl (if returned then .submitted batch else .refused))
  | .collecting =>
      let finish (impl : Impl depth) :=
        let (batch, impl) := popReady impl
        some (returns impl (.collected batch))
      if impl.ready.isEmpty then
        match impl.harvestOldest true with
        | .blocked => none
        | .nothing => finish impl
        | .done impl => finish impl
      else finish impl
  | .draining =>
      if impl.busyCount ≠ 0 then
        match impl.harvestOldest true with
        | .blocked => none
        | .nothing => some (stream, none)
        | .done impl => some ({ impl, host := .draining }, none)
      else some (returns { impl with ready := [] } (.drained impl.ready))

/-- One step, and what the host's call has returned if it ends with it. -/
def act (stream : Stream depth) : Action depth → Option (Stream depth × Option Return)
  | .submit batch =>
      match stream.host with
      | .idle =>
          if accepts batch then some ({ stream with host := .claiming batch }, none)
          else some (returns stream.impl .refused)
      | _ => none
  | .tryCollect =>
      match stream.host with
      | .idle => some (tryCollect stream.impl)
      | _ => none
  | .collect =>
      match stream.host with
      | .idle => some ({ stream with host := .collecting }, none)
      | _ => none
  | .drain =>
      match stream.host with
      | .idle => some ({ stream with host := .draining }, none)
      | _ => none
  | .resume memory => stream.resume memory
  | .complete index order => do
      let impl ← stream.impl.complete index order
      return ({ stream with impl }, none)

/-- The constructor, which throws for a depth that it does not offer. -/
def create (pipelineDepth : Nat) : Option (Stream pipelineDepth) :=
  if h : 0 < pipelineDepth ∧ pipelineDepth ≤ maxPipelineDepth then
    some {
      impl := {
        slots := fun _ => {}
        nextSlot := ⟨0, h.1⟩
        oldestSlot := ⟨0, h.1⟩ } }
  else none

end Stream
end MetalStreamParser
end WireLab
