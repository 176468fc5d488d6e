import WireLab.Base.Pacing
import WireLab.Logic.FaultRuns

/-!
# A bandwidth cap paces deliveries

Between two `set_fault` calls the copies of a capped target wait for one another,
duplicates included. What the target delivers in any interval is then bounded by
the cap.
-/

namespace WireLab

open Base

/-- What a cap promises of the copies a target delivers, listed in the order of
the frames: they are spaced by their transmission times, none leaves before the
configured latency has passed, and the bits that leave within an interval exceed
what the cap allows in that time by at most the last copy. -/
structure KeepsCap (configuration : FaultConfiguration) (copies : List DeliveredCopy) : Prop where
  spaced : copies.IsChain fun before copy =>
    before.time + before.airtime configuration.bandwidthBitsPerSecond ≤ copy.time
  delayed : ∀ copy ∈ copies, copy.arrival + configuration.latency ≤ copy.time
  allowance : ∀ first last : Int, first ≤ last →
    let within := copies.filter fun copy => first ≤ copy.time ∧ copy.time ≤ last
    ((within.map DeliveredCopy.bits).sum : Int) * 10 ^ 9 ≤
      configuration.bandwidthBitsPerSecond.toNat * (last - first) +
        (within.getLast?.map DeliveredCopy.bits).getD 0 * 10 ^ 9

/-- A copy occupies the wire for as long as its bits take. -/
private theorem bits_le_airtime {cap : UInt64} (hpos : 0 < cap.toNat) (hle : cap.toNat ≤ 2 ^ 63)
    {copy : DeliveredCopy} (hsmall : copy.frameBytes.toNat ≤ 65535) :
    ((copy.bits * 10 ^ 9 : Nat) : Int) ≤ cap.toNat * copy.airtime cap := by
  rw [DeliveredCopy.airtime, FaultEngine.transmissionTime_eq hsmall hpos hle, ← Nat.cast_mul,
    Int.ofNat_le, DeliveredCopy.bits]
  have hround := Nat.lt_mul_div_succ (copy.frameBytes.toNat * 8 * 10 ^ 9 + cap.toNat - 1) hpos
  rw [Nat.mul_add, Nat.mul_one] at hround
  omega

/-- Of paced copies that all start within an interval, all but the last fit into
what the cap allows. -/
private theorem bits_within_le {cap : UInt64} (hpos : 0 < cap.toNat) (hle : cap.toNat ≤ 2 ^ 63)
    {free first last : Int} {copies : List DeliveredCopy}
    (hpaced : Paced DeliveredCopy.time (DeliveredCopy.airtime cap) free copies)
    (hsmall : ∀ copy ∈ copies, copy.frameBytes.toNat ≤ 65535) (hinterval : first ≤ last)
    (hin : ∀ copy ∈ copies, first ≤ copy.time ∧ copy.time ≤ last) :
    ((copies.map DeliveredCopy.bits).sum : Int) * 10 ^ 9 ≤
      cap.toNat * (last - first) + (copies.getLast?.map DeliveredCopy.bits).getD 0 * 10 ^ 9 := by
  have hpays : ∀ copy ∈ copies, ((copy.bits * 10 ^ 9 : Nat) : Int) ≤ cap.toNat * copy.airtime cap :=
    fun copy hcopy => bits_le_airtime hpos hle (hsmall copy hcopy)
  have hwork := Paced.work_le hpays hpaced hinterval hin
  have hsum : (copies.map fun copy => copy.bits * 10 ^ 9).sum =
      (copies.map DeliveredCopy.bits).sum * 10 ^ 9 :=
    List.sum_map_mul_right _ _ _
  rw [hsum] at hwork
  cases hlast : copies.getLast? with
  | none =>
      rw [hlast] at hwork
      exact_mod_cast hwork
  | some copy =>
      rw [hlast] at hwork
      exact_mod_cast hwork

/-- Paced copies keep the cap. -/
private theorem keepsCap_of_paced {configuration : FaultConfiguration}
    (hpos : 0 < configuration.bandwidthBitsPerSecond.toNat)
    (hle : configuration.bandwidthBitsPerSecond.toNat ≤ 2 ^ 63) {free : Int}
    {copies : List DeliveredCopy}
    (hpaced : Paced DeliveredCopy.time
      (DeliveredCopy.airtime configuration.bandwidthBitsPerSecond) free copies)
    (hcopies : ∀ copy ∈ copies,
      copy.arrival + configuration.latency ≤ copy.time ∧ copy.frameBytes.toNat ≤ 65535) :
    KeepsCap configuration copies where
  spaced := hpaced.isChain
  delayed copy hcopy := (hcopies copy hcopy).1
  allowance first last hinterval := by
    have hlength : ∀ copy : DeliveredCopy,
        0 ≤ copy.airtime configuration.bandwidthBitsPerSecond :=
      fun copy => FaultEngine.transmissionTime_nonneg copy.frameBytes _
    have hkept := hpaced.filter hlength fun copy => first ≤ copy.time ∧ copy.time ≤ last
    refine bits_within_le hpos hle hkept ?_ hinterval ?_
    · intro copy hcopy
      exact (hcopies copy (List.mem_of_mem_filter hcopy)).2
    · intro copy hcopy
      simpa using List.of_mem_filter hcopy

/-- **A bandwidth cap paces deliveries.** However the frames between two
`set_fault` calls on a target arrive, and whatever is done to other targets in
between, the copies that are delivered keep the cap. -/
theorem cap_paces_deliveries {engine engine' : FaultEngine} {target : Bytes}
    {configuration : FaultConfiguration} (operations : List FaultOperation)
    (hset : engine.setFault target configuration = .ok engine')
    (hpos : 1 ≤ configuration.bandwidthBitsPerSecond.toNat)
    (hle : configuration.bandwidthBitsPerSecond.toNat ≤ 2 ^ 63)
    (hframes : OnlyFrames target operations) :
    KeepsCap configuration (engine'.copies target operations) := by
  have hcell := (FaultEngine.cell_setFault target hset).2.trans (if_pos rfl)
  have hcap : configuration.bandwidthBitsPerSecond ≠ 0 := by
    rintro hzero
    rw [hzero] at hpos
    exact absurd hpos (by decide)
  obtain ⟨hpaced, hcopies⟩ := FaultEngine.copies_paced hcap operations hframes hcell rfl
  exact keepsCap_of_paced hpos hle hpaced hcopies

/-- A thousand bits a second, with every frame duplicated. -/
def duplicatingCap : FaultConfiguration where
  bandwidthBitsPerSecond := 1000
  duplicationBasisPoints := 10000
  latency := 5

/-- Under that cap, frames that arrive out of order beside another target. -/
theorem cap_paces_deliveries_duplicated :
    ∃ engine', ({ seed := 7 } : FaultEngine).setFault (bytes "port:a") duplicatingCap =
        .ok engine' ∧
      KeepsCap duplicatingCap (engine'.copies (bytes "port:a")
        [.evaluate (bytes "port:a") 1500 100, .setFault (bytes "port:b") {},
          .evaluate (bytes "port:a") 64 20]) := by
  have hok : duplicatingCap.Acceptable := by
    refine ⟨?_, ?_, ?_, ?_⟩
    · decide
    · decide
    · decide
    · decide
  have hnamed : bytes "port:a" ≠ [] := by decide
  obtain ⟨engine', hset⟩ := FaultEngine.setFault_ok { seed := 7 } hnamed hok
  refine ⟨engine', hset, cap_paces_deliveries _ hset (by decide) (by decide) ?_⟩
  intro operation hmem htarget
  simp only [List.mem_cons, List.not_mem_nil, or_false] at hmem
  rcases hmem with rfl | rfl | rfl
  · exact ⟨1500, 100, rfl, by decide⟩
  · exact absurd htarget (by decide)
  · exact ⟨64, 20, rfl, by decide⟩

end WireLab
