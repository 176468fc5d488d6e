import WireLab.Logic.BatchAnalysis
import WireLab.Logic.TrafficBytes

/-!
# What the parser finds in a generated frame

The bytes of a frame (`frameBytes`) are random but for the headers at their front. Here
the fields of the headers are read back where the parser looks for them, and the checksum
is added up again.
-/

namespace WireLab

open Base TrafficGenerator

namespace Traffic

/-! ## Bytes in their places -/

section
variable (before bytes after : Bytes)

theorem byteAt_within {k : Nat} (hk : k < bytes.length) :
    byteAt (before ++ (bytes ++ after)) (before.length + k) = byteAt bytes k := by
  rw [byteAt, List.getD_append_right _ _ _ _ (Nat.le_add_right _ _), Nat.add_sub_cancel_left,
    List.getD_append _ _ _ _ hk, byteAt]

theorem u16At_within {k : Nat} (hk : k + 1 < bytes.length) :
    u16At (before ++ (bytes ++ after)) (before.length + k) = u16At bytes k := by
  rw [u16At, Nat.add_assoc, byteAt_within before bytes after (by omega),
    byteAt_within before bytes after hk, u16At]

theorem u32At_within {k : Nat} (hk : k + 3 < bytes.length) :
    u32At (before ++ (bytes ++ after)) (before.length + k) = u32At bytes k := by
  rw [u32At]
  simp only [Nat.add_assoc]
  rw [byteAt_within before bytes after (by omega), byteAt_within before bytes after (by omega),
    byteAt_within before bytes after (by omega), byteAt_within before bytes after hk, u32At]

end

/-- An address is read where it lies. -/
theorem macAt_within (before after : Bytes) (mac : MacAddress) :
    macAt (before ++ (mac.bytes ++ after)) before.length = mac := by
  have hbyte (k : Nat) (hk : k < 6) :
      byteAt (before ++ (mac.bytes ++ after)) (before.length + k) = byteAt mac.bytes k :=
    byteAt_within before mac.bytes after (by rw [mac.size]; exact hk)
  have hmac : macAt (before ++ (mac.bytes ++ after)) before.length = macAt mac.bytes 0 := by
    simp only [macAt, MacAddress.mk.injEq]
    rw [hbyte 1 (by decide), hbyte 2 (by decide), hbyte 3 (by decide), hbyte 4 (by decide),
      hbyte 5 (by decide), ← hbyte 0 (by decide), Nat.add_zero]
  rw [hmac]
  obtain ⟨bytes, hsize⟩ := mac
  -- there are six bytes, no more and no fewer
  rcases bytes with _ | ⟨_, _ | ⟨_, _ | ⟨_, _ | ⟨_, _ | ⟨_, _ | ⟨_, _ | ⟨_, _⟩⟩⟩⟩⟩⟩⟩
  case cons.cons.cons.cons.cons.cons.nil => rfl
  all_goals exact absurd hsize (by simp)

/-! ## Numbers in network order -/

private theorem toNat_or_shift {high low k : Nat} (hlow : low < 2 ^ k) :
    high <<< k ||| low = high * 2 ^ k + low := by
  rw [← Nat.shiftLeft_add_eq_or_of_lt hlow, Nat.shiftLeft_eq]

theorem toNat_u16At (bytes : Bytes) (k : Nat) :
    (u16At bytes k).toNat = (byteAt bytes k).toNat * 2 ^ 8 + (byteAt bytes (k + 1)).toNat := by
  have hhigh := (byteAt bytes k).toNat_lt
  have hlow := (byteAt bytes (k + 1)).toNat_lt
  rw [u16At, UInt16.toNat_or, UInt16.toNat_shiftLeft, UInt8.toNat_toUInt16, UInt8.toNat_toUInt16]
  simp only [UInt16.reduceToNat, Nat.reduceMod]
  rw [Nat.mod_eq_of_lt (by rw [Nat.shiftLeft_eq]; omega), toNat_or_shift hlow]

/-- Four bytes in their places. -/
private theorem or_bytes {first second third fourth : Nat} (hsecond : second < 256)
    (hthird : third < 256) (hfourth : fourth < 256) :
    first <<< 24 ||| second <<< 16 ||| third <<< 8 ||| fourth =
      first * 16777216 + second * 65536 + (third * 256 + fourth) := by
  have hlower : third <<< 8 ||| fourth = third * 256 + fourth := toNat_or_shift hfourth
  have hmiddle : second <<< 16 ||| (third * 256 + fourth) =
      second * 65536 + (third * 256 + fourth) := toNat_or_shift (show _ < 65536 by omega)
  have hupper : first <<< 24 ||| (second * 65536 + (third * 256 + fourth)) =
      first * 16777216 + (second * 65536 + (third * 256 + fourth)) :=
    toNat_or_shift (show _ < 16777216 by omega)
  rw [Nat.or_assoc, Nat.or_assoc, hlower, hmiddle, hupper, Nat.add_assoc]

theorem toNat_u32At (bytes : Bytes) (k : Nat) :
    (u32At bytes k).toNat =
      (byteAt bytes k).toNat * 16777216 + (byteAt bytes (k + 1)).toNat * 65536 +
        (u16At bytes (k + 2)).toNat := by
  have hlower : (u16At bytes (k + 2)).toNat =
      (byteAt bytes (k + 2)).toNat * 256 + (byteAt bytes (k + 3)).toNat := toNat_u16At bytes (k + 2)
  have hshift {byte : UInt8} {bits : Nat} (hbits : bits ≤ 24) :
      byte.toNat <<< bits % 2 ^ 32 = byte.toNat <<< bits := by
    refine Nat.mod_eq_of_lt ?_
    rw [Nat.shiftLeft_eq]
    calc byte.toNat * 2 ^ bits < 2 ^ 8 * 2 ^ 24 :=
          Nat.mul_lt_mul_of_lt_of_le byte.toNat_lt (Nat.pow_le_pow_right (by decide) hbits)
            (Nat.two_pow_pos 24)
      _ = 2 ^ 32 := rfl
  rw [hlower, u32At, UInt32.toNat_or, UInt32.toNat_or, UInt32.toNat_or]
  simp only [UInt32.toNat_shiftLeft, UInt8.toNat_toUInt32, UInt32.reduceToNat, Nat.reduceMod]
  rw [hshift (by decide), hshift (by decide), hshift (by decide)]
  exact or_bytes (byteAt bytes (k + 1)).toNat_lt (byteAt bytes (k + 2)).toNat_lt
    (byteAt bytes (k + 3)).toNat_lt

/-- A number that was written is read. -/
theorem u16At_networkU16 (value : UInt16) (after : Bytes) :
    u16At (networkU16 value ++ after) 0 = value := by
  have hbound := value.toNat_lt
  apply UInt16.toNat_inj.mp
  rw [toNat_u16At]
  show (value >>> 8).toUInt8.toNat * 256 + value.toUInt8.toNat = value.toNat
  rw [UInt16.toNat_toUInt8, UInt16.toNat_toUInt8, UInt16.toNat_shiftRight]
  simp only [UInt16.reduceToNat, Nat.reduceMod, Nat.shiftRight_eq_div_pow]
  omega

/-! ## The checksum -/

/-- The words of an IPv4 header that begins at `start`. -/
def ipv4Words (bytes : Bytes) (start : Nat) : List Nat :=
  (List.range 10).map fun word => (u16At bytes (start + 2 * word)).toNat

theorem ipv4Words_le {bytes : Bytes} {start : Nat} : ∀ word ∈ ipv4Words bytes start, word ≤ 65535 := by
  intro word hword
  obtain ⟨index, -, rfl⟩ := List.mem_map.mp hword
  exact Nat.le_of_lt_succ (u16At bytes _).toNat_lt

/-- The sum has room in 32 bits. -/
theorem toNat_headerSum (header : Bytes) : (headerSum header).toNat = (ipv4Words header 0).sum := by
  have hword (word : Nat) : ((header.getD (2 * word) 0).toUInt32 <<< 8 |||
      (header.getD (2 * word + 1) 0).toUInt32).toNat = (u16At header (2 * word)).toNat := by
    have hhigh := (header.getD (2 * word) 0).toNat_lt
    have hlow := (header.getD (2 * word + 1) 0).toNat_lt
    rw [toNat_u16At, UInt32.toNat_or, UInt32.toNat_shiftLeft, UInt8.toNat_toUInt32,
      UInt8.toNat_toUInt32, byteAt, byteAt]
    simp only [UInt32.reduceToNat, Nat.reduceMod]
    rw [Nat.mod_eq_of_lt (by rw [Nat.shiftLeft_eq]; omega), toNat_or_shift hlow]
  have hfold : ∀ n ≤ 10, ((List.range n).foldl (fun sum word =>
      sum + ((header.getD (2 * word) 0).toUInt32 <<< 8 ||| (header.getD (2 * word + 1) 0).toUInt32))
        (0 : UInt32)).toNat =
      ((List.range n).map fun word => (u16At header (0 + 2 * word)).toNat).sum ∧
      ((List.range n).map fun word => (u16At header (0 + 2 * word)).toNat).sum ≤ n * 65535 := by
    intro n hn
    induction n with
    | zero => exact ⟨rfl, Nat.zero_le _⟩
    | succ n ih =>
        obtain ⟨hsum, hbound⟩ := ih (by omega)
        have hlast := (u16At header (0 + 2 * n)).toNat_lt
        rw [List.range_succ, List.foldl_append, List.map_append, List.sum_append, List.map_singleton,
          List.sum_singleton, List.foldl_cons, List.foldl_nil, UInt32.toNat_add, hsum, hword,
          Nat.zero_add] at *
        rw [Nat.mod_eq_of_lt (by omega)]
        exact ⟨rfl, by omega⟩
  exact (hfold 10 (Nat.le_refl 10)).1

/-- The checksum is the complement of the ones'-complement sum. -/
theorem toNat_headerChecksum (header : Bytes) : (headerChecksum header).toNat =
    65535 - OnesComplement.residue 65535 (ipv4Words header 0).sum := by
  have hcarried := (loop_foldCarry (headerSum header)).2
  have hle := OnesComplement.residue_le (show 0 < 65535 by decide) (ipv4Words header 0).sum
  rw [toNat_headerSum] at hcarried
  rw [headerChecksum, UInt32.toNat_toUInt16, UInt32.toNat_not, hcarried]
  show (2 ^ 32 - 1 - _) % 2 ^ 16 = _
  omega

/-- With its checksum in its place, a header adds up to the limit. -/
theorem ipv4Header_verifies (size identification : UInt16) (protocol : UInt8)
    (source destination : UInt16) :
    OnesComplement.sum 65535
      (ipv4Words (ipv4Header size identification protocol source destination) 0) = 65535 := by
  rw [OnesComplement.sum_eq (by decide) ipv4Words_le]
  let fields := headerBytes size identification protocol source destination 0
  -- The words are those of the fields, but for the sixth.
  have hwords : (ipv4Words (ipv4Header size identification protocol source destination) 0).sum =
      (ipv4Words fields 0).sum + (headerChecksum fields).toNat := by
    have hchecksum : u16At (ipv4Header size identification protocol source destination) 10 =
        headerChecksum fields := u16At_networkU16 (headerChecksum fields) []
    have hzero : u16At fields 10 = 0 := u16At_networkU16 0 []
    have hother (word : Nat) (hword : word ∈ [0, 2, 4, 6, 8, 12, 14, 16, 18]) :
        u16At (ipv4Header size identification protocol source destination) word =
          u16At fields word := by
      fin_cases hword <;> rfl
    simp only [ipv4Words, List.range, List.range.loop, List.map_cons, List.map_nil, List.sum_cons,
      List.sum_nil, Nat.zero_add, Nat.reduceMul, hchecksum, hzero, UInt16.reduceToNat]
    rw [hother 0 (by decide), hother 2 (by decide), hother 4 (by decide), hother 6 (by decide),
      hother 8 (by decide), hother 12 (by decide), hother 14 (by decide), hother 16 (by decide),
      hother 18 (by decide)]
    omega
  rw [hwords, toNat_headerChecksum]
  exact OnesComplement.residue_add_complement (by decide) _

/-! ## The headers of a frame -/

/-- What the headers of a frame say where the parser reads them. -/
structure SaysHeaders (frame : Bytes) (shape : FrameShape) (size : Nat) : Prop where
  length : frame.length = 14 + size
  destination : macAt frame 0 = shape.destinationMac
  source : macAt frame 6 = shape.sourceMac
  ethertype : u16At frame 12 = ethertypeIpv4
  version : byteAt frame 14 = 0x45
  total : (u16At frame 16).toNat = size
  unfragmented : u16At frame 20 = 0
  protocol : byteAt frame 23 = if hasUdp shape size then TrafficGenerator.udpProtocol else 0
  sourceIpv4 : (u32At frame 26).toNat = 10 * 16777216 + shape.sourceHost.toNat % 65536
  destinationIpv4 : (u32At frame 30).toNat = 10 * 16777216 + shape.destinationHost.toNat % 65536
  verifies : OnesComplement.sum 65535 (ipv4Words frame 14) = 65535

/-- What a UDP header says. -/
structure SaysUdp (frame : Bytes) (shape : FrameShape) (size : Nat) : Prop where
  sourcePort : u16At frame 34 = shape.sourcePort
  destinationPort : u16At frame 36 = shape.destinationPort
  length : (u16At frame 38).toNat = size - 20

private theorem udpHeader_length (source destination length : UInt16) :
    u16At (udpHeader source destination length) 4 = length :=
  u16At_networkU16 length []

section
variable (shape : FrameShape) (sequence state : UInt64) {size : Nat}

/-- The IPv4 header in a payload of some size. -/
private def payloadHeader (size : Nat) : Bytes :=
  ipv4Header (.ofNat size) sequence.toUInt16
    (if hasUdp shape size then TrafficGenerator.udpProtocol else 0)
    shape.sourceHost.toUInt16 shape.destinationHost.toUInt16

variable (hsize : 20 ≤ size ∧ size ≤ 65535)
include hsize

private theorem payloadBytes_eq : ∃ rest, payloadBytes shape sequence state size =
      payloadHeader shape sequence size ++ rest ∧
    (hasUdp shape size = true → ∃ random, rest =
      udpHeader shape.sourcePort shape.destinationPort (.ofNat (size - 20)) ++ random) := by
  rw [payloadBytes, if_neg (by omega), payloadHeader]
  refine ⟨_, rfl, fun hudp => ?_⟩
  rw [if_pos hudp]
  exact ⟨_, rfl⟩

theorem says_headers :
    SaysHeaders (ethernetBytes shape ++ payloadBytes shape sequence state size) shape size := by
  obtain ⟨rest, hpayload, -⟩ := payloadBytes_eq shape sequence state hsize
  have hlength : (ethernetBytes shape ++ payloadBytes shape sequence state size).length =
      14 + size := by
    rw [List.length_append, length_ethernetBytes, length_payloadBytes]
  rw [hpayload] at hlength ⊢
  have hu16 (k : Nat) (hk : k + 1 < 20) :
      u16At (ethernetBytes shape ++ (payloadHeader shape sequence size ++ rest)) (14 + k) =
        u16At (payloadHeader shape sequence size) k := by
    have hwithin := u16At_within (ethernetBytes shape) (payloadHeader shape sequence size) rest hk
    rwa [length_ethernetBytes] at hwithin
  have hbyte (k : Nat) (hk : k < 20) :
      byteAt (ethernetBytes shape ++ (payloadHeader shape sequence size ++ rest)) (14 + k) =
        byteAt (payloadHeader shape sequence size) k := by
    have hwithin := byteAt_within (ethernetBytes shape) (payloadHeader shape sequence size) rest hk
    rwa [length_ethernetBytes] at hwithin
  -- An address of the network 10.0.0.0/16.
  have haddress (k : Nat) (host : UInt32) (hk : k + 3 < 20)
      (hten : byteAt (payloadHeader shape sequence size) k = 10)
      (hzero : byteAt (payloadHeader shape sequence size) (k + 1) = 0)
      (hhost : u16At (payloadHeader shape sequence size) (k + 2) = host.toUInt16) :
      (u32At (ethernetBytes shape ++ (payloadHeader shape sequence size ++ rest)) (14 + k)).toNat =
        10 * 16777216 + host.toNat % 65536 := by
    have hwithin := u32At_within (ethernetBytes shape) (payloadHeader shape sequence size) rest hk
    rw [length_ethernetBytes] at hwithin
    rw [hwithin, toNat_u32At, hten, hzero, hhost, UInt32.toNat_toUInt16]
    rfl
  exact {
    length := hlength
    destination := by
      rw [ethernetBytes, List.append_assoc, List.append_assoc]
      exact macAt_within [] _ shape.destinationMac
    source := by
      have hbefore : shape.destinationMac.bytes.length = 6 := shape.destinationMac.size
      rw [ethernetBytes, List.append_assoc, List.append_assoc, ← hbefore]
      exact macAt_within _ _ shape.sourceMac
    ethertype := by
      have hbefore : (shape.destinationMac.bytes ++ shape.sourceMac.bytes).length = 12 := by
        rw [List.length_append, shape.destinationMac.size, shape.sourceMac.size]
      have hwithin := u16At_within (shape.destinationMac.bytes ++ shape.sourceMac.bytes)
        (networkU16 TrafficGenerator.ethertypeIpv4) (payloadHeader shape sequence size ++ rest)
        (show 0 + 1 < 2 by decide)
      rw [hbefore] at hwithin
      rw [ethernetBytes, List.append_assoc]
      exact hwithin.trans (u16At_networkU16 TrafficGenerator.ethertypeIpv4 [])
    version := hbyte 0 (by decide)
    total := by
      have htotal : u16At (payloadHeader shape sequence size) 2 = .ofNat size :=
        u16At_networkU16 (.ofNat size) []
      rw [hu16 2 (by decide), htotal, UInt16.toNat_ofNat', Nat.mod_eq_of_lt (by omega)]
    unfragmented := (hu16 6 (by decide)).trans (u16At_networkU16 0 [])
    protocol := hbyte 9 (by decide)
    sourceIpv4 := haddress 12 shape.sourceHost (by decide) rfl rfl
      (u16At_networkU16 shape.sourceHost.toUInt16 [])
    destinationIpv4 := haddress 16 shape.destinationHost (by decide) rfl rfl
      (u16At_networkU16 shape.destinationHost.toUInt16 [])
    verifies := by
      have hwords : ipv4Words (ethernetBytes shape ++ (payloadHeader shape sequence size ++ rest)) 14 =
          ipv4Words (payloadHeader shape sequence size) 0 := by
        refine List.map_congr_left fun word hword => ?_
        have hlt := List.mem_range.mp hword
        rw [hu16 (2 * word) (by omega), Nat.zero_add]
      rw [hwords]
      exact ipv4Header_verifies _ _ _ _ _ }

theorem says_udp (hudp : hasUdp shape size = true) :
    SaysUdp (ethernetBytes shape ++ payloadBytes shape sequence state size) shape size := by
  obtain ⟨rest, hpayload, hrest⟩ := payloadBytes_eq shape sequence state hsize
  obtain ⟨random, rfl⟩ := hrest hudp
  have hlong := long_of_hasUdp hudp
  have hbefore : (ethernetBytes shape ++ payloadHeader shape sequence size).length = 34 := by
    rw [List.length_append, length_ethernetBytes, payloadHeader, length_ipv4Header]
  rw [hpayload, ← List.append_assoc]
  have hu16 (k : Nat) (hk : k + 1 < 8) :
      u16At ((ethernetBytes shape ++ payloadHeader shape sequence size) ++
        (udpHeader shape.sourcePort shape.destinationPort (.ofNat (size - 20)) ++ random)) (34 + k) =
        u16At (udpHeader shape.sourcePort shape.destinationPort (.ofNat (size - 20))) k := by
    have hwithin := u16At_within (ethernetBytes shape ++ payloadHeader shape sequence size)
      (udpHeader shape.sourcePort shape.destinationPort (.ofNat (size - 20))) random hk
    rwa [hbefore] at hwithin
  exact {
    sourcePort := (hu16 0 (by decide)).trans (u16At_networkU16 shape.sourcePort [])
    destinationPort := (hu16 2 (by decide)).trans (u16At_networkU16 shape.destinationPort [])
    length := by
      rw [hu16 4 (by decide), udpHeader_length, UInt16.toNat_ofNat', Nat.mod_eq_of_lt (by omega)] }

end

end Traffic
end WireLab
