import WireLab.Base.Launch
import WireLab.Logic.TrafficBytes

/-!
# The generator and the kernel write the same frames

Each thread of the kernel writes the bytes that the CPU writes for its sequence number,
and nothing outside of its place in the buffer; so whatever the order of the threads'
writes, the buffer holds the CPU's frames one after another.
-/

namespace WireLab

open Base TrafficGenerator Traffic Metal.Traffic

/-- A thread beyond the last frame writes nothing. -/
theorem generateFrames_idle {parameters : TrafficKernelParameters} {index : UInt32}
    (h : ¬ index < parameters.frameCount) : generateFrames parameters index = some [] := by
  unfold generateFrames
  rw [if_pos (UInt32.not_lt.mp h)]
  rfl

/-- A thread stays within the place of its frame. -/
theorem generateFrames_within {config : TrafficGeneratorConfig}
    (hsize : 14 ≤ config.frameSize.toNat) (hsmall : config.frameSize.toNat < 2 ^ 32)
    {first count : UInt64} {index : UInt32} {written : Writes}
    (h : generateFrames (trafficKernelParameters config first count) index = some written)
    {write : Nat × UInt8} (hwrite : write ∈ written) :
    index.toNat * config.frameSize.toNat ≤ write.1 ∧
      write.1 < index.toNat * config.frameSize.toNat + config.frameSize.toNat := by
  by_cases hindex : index < (trafficKernelParameters config first count).frameCount
  · obtain ⟨written', h', hmemory⟩ := generateFrames_spec hsize hsmall first hindex
    obtain rfl := Option.some.inj (h.symm.trans h')
    have hread := Writes.memory_of_mem hwrite
    by_contra houtside
    rw [hmemory, Memory.overlay_outside (by rw [length_frameBytes hsize]; omega)] at hread
    exact hread rfl
  · rw [generateFrames_idle hindex] at h
    obtain rfl := Option.some.inj h
    exact absurd hwrite (by simp)

/-- No two threads have one position. -/
theorem threads_nodup {count : Nat} (hcount : count < 2 ^ 32) : (threads count).Nodup := by
  refine List.Nodup.map_on (fun i hi j hj hij => ?_) List.nodup_range
  rw [List.mem_range] at hi hj
  simp only [metalThreadsPerGroup] at hi hj
  have hnat := congrArg UInt32.toNat hij
  rw [UInt32.toNat_ofNat', UInt32.toNat_ofNat'] at hnat
  omega

/-- **One generator, two implementations.** Every thread below the frame count writes
into its place the bytes that `write_traffic_frame` writes for its sequence number;
and after a launch, in whatever order the threads' writes happened, the buffer shows
these frames. -/
theorem kernel_writes_traffic_frames {config : TrafficGeneratorConfig}
    (hsize : 14 ≤ config.frameSize.toNat) (hsmall : config.frameSize.toNat < 2 ^ 32)
    (hhosts : 2 ≤ config.hostCount.toNat) (first : UInt64) {count : UInt64}
    (hcount : count.toNat < 2 ^ 32) :
    (∀ index : UInt32, index.toNat < count.toNat → ∀ out, ∃ kernel generator,
      generateFrames (trafficKernelParameters config first count) index = some kernel ∧
      writeTrafficFrame config (first + index.toUInt64) (some out) =
        some (config.frameSize, generator) ∧
      ∀ offset < config.frameSize.toNat, ∃ byte,
        kernel.memory (index.toNat * config.frameSize.toNat + offset) = some byte ∧
        generator.memory (out + offset) = some byte) ∧
    ∀ (writes : UInt32 → List (Nat × UInt8)) (order : List (UInt32 × (Nat × UInt8))),
      (∀ thread ∈ threads count.toNat,
        generateFrames (trafficKernelParameters config first count) thread =
          some (writes thread).reverse) →
      Interleaves (threads count.toNat) writes order →
      ∀ index : UInt32, index.toNat < count.toNat → ∃ frame,
        trafficFrame config (first + index.toUInt64) = some frame ∧
        frame.length = config.frameSize.toNat ∧
        (happened order).memory.Shows (index.toNat * config.frameSize.toNat) frame := by
  have hbelow : ∀ index : UInt32, index.toNat < count.toNat → index < count.toUInt32 := by
    intro index hindex
    rw [UInt32.lt_iff_toNat_lt, UInt64.toNat_toUInt32, Nat.mod_eq_of_lt hcount]
    exact hindex
  constructor
  · intro index hindex out
    obtain ⟨kernel, hkernel, hwritten⟩ := generateFrames_spec hsize hsmall first (hbelow index hindex)
    obtain ⟨generator, hgenerator, hwritten'⟩ :=
      writeTrafficFrame_spec hsize hhosts (first + index.toUInt64) out
    refine ⟨kernel, generator, hkernel, hgenerator, fun offset hoffset => ?_⟩
    have hlength := length_frameBytes hsize (first + index.toUInt64)
    have hoffset' : offset < (frameBytes config (first + index.toUInt64)).length := by
      rw [hlength]
      exact hoffset
    refine ⟨(frameBytes config (first + index.toUInt64))[offset], ?_, ?_⟩
    · rw [hwritten, Memory.shows_overlay _ _ _ offset hoffset', List.getElem?_eq_getElem hoffset']
    · rw [hwritten', Memory.shows_overlay _ _ _ offset hoffset', List.getElem?_eq_getElem hoffset']
  · intro writes order hwrites horder index hindex
    obtain ⟨kernel, hkernel, hwritten⟩ := generateFrames_spec hsize hsmall first (hbelow index hindex)
    have hlength := length_frameBytes hsize (first + index.toUInt64)
    refine ⟨_, trafficFrame_eq hsize hhosts _, hlength, fun offset hoffset => ?_⟩
    have hthread : index ∈ threads count.toNat := by
      refine List.mem_map.mpr ⟨index.toNat, List.mem_range.mpr ?_, UInt32.ofNat_toNat⟩
      simp only [metalThreadsPerGroup]
      omega
    have hown : kernel = (writes index).reverse := by
      rw [hwrites index hthread] at hkernel
      exact (Option.some.inj hkernel).symm
    rw [horder.owned hthread, ← hown, hwritten, Memory.shows_overlay _ _ _ offset hoffset]
    -- Another thread's place begins after this one's ends, or ends before it begins.
    intro other hother hne write hwrite haddress
    obtain ⟨hstart, hend⟩ := generateFrames_within hsize hsmall (hwrites other hother)
      (List.mem_reverse.mpr hwrite)
    rw [haddress] at hstart hend
    have hdifferent : other.toNat ≠ index.toNat := fun h => hne (UInt32.toNat_inj.mp h)
    rcases Nat.lt_or_gt_of_ne hdifferent with hless | hmore
    · have hplaces := Nat.mul_le_mul_right config.frameSize.toNat (Nat.succ_le_of_lt hless)
      rw [Nat.succ_mul] at hplaces
      omega
    · have hplaces := Nat.mul_le_mul_right config.frameSize.toNat (Nat.succ_le_of_lt hmore)
      rw [Nat.succ_mul] at hplaces
      omega

/-- A port scan in frames with a payload of one full word and a piece. -/
def scanConfig : TrafficGeneratorConfig :=
  { scenario := .portScan, seed := 7, frameSize := 45, hostCount := 2 }

/-- The last sequence number and, after it, the first. -/
def scanParameters : TrafficKernelParameters :=
  trafficKernelParameters scanConfig (0 - 1) 2

/-- The writes of a thread of that launch, in its order. -/
def scanWrites (thread : UInt32) : List (Nat × UInt8) :=
  ((generateFrames scanParameters thread).getD []).reverse

/-- After that launch the second place holds frame zero. -/
theorem kernel_writes_traffic_frames_wrapped :
    ∃ frame, trafficFrame scanConfig 0 = some frame ∧ frame.length = 45 ∧
      (happened ((threads 2).flatMap fun thread =>
        (scanWrites thread).map (thread, ·))).memory.Shows 45 frame := by
  have hall := kernel_writes_traffic_frames (show 14 ≤ scanConfig.frameSize.toNat by decide)
    (by decide) (by decide) (0 - 1) (show (2 : UInt64).toNat < 2 ^ 32 by decide)
  have hwrites : ∀ thread ∈ threads 2,
      generateFrames scanParameters thread = some (scanWrites thread).reverse := by
    intro thread _
    rw [scanWrites, List.reverse_reverse]
    by_cases hindex : thread < scanParameters.frameCount
    · obtain ⟨written, hwritten, -⟩ := generateFrames_spec (show 14 ≤ scanConfig.frameSize.toNat by decide)
        (by decide) (0 - 1) hindex
      rw [scanParameters, hwritten, Option.getD_some]
    · rw [generateFrames_idle hindex, Option.getD_some]
  have horder := interleaves_flatMap (threads_nodup (show 2 < 2 ^ 32 by decide)) scanWrites
  exact hall.2 scanWrites _ hwrites horder 1 (by decide)

end WireLab
