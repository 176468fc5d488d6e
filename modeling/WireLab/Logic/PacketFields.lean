import WireLab.Model.DevicePacketParsers

/-!
# What a packet says

The parsers answer the same questions about the same bytes, each in its own
integers. Here the questions are put in natural numbers: `analysisOf` is the answer
to all of them, and each parser computes it (`parsePacket_eq`,
`parseDevicePacket_eq`), without a read outside of the packet.
-/

namespace WireLab

open Base

/-! ## The fields of a packet -/

section
variable (bytes : Bytes)

def byteAt (k : Nat) : UInt8 := bytes.getD k 0

def u16At (k : Nat) : UInt16 :=
  (byteAt bytes k).toUInt16 <<< 8 ||| (byteAt bytes (k + 1)).toUInt16

def u32At (k : Nat) : UInt32 :=
  (byteAt bytes k).toUInt32 <<< 24 ||| (byteAt bytes (k + 1)).toUInt32 <<< 16 |||
    (byteAt bytes (k + 2)).toUInt32 <<< 8 ||| (byteAt bytes (k + 3)).toUInt32

def macAt (k : Nat) : MacAddress where
  bytes := [byteAt bytes k, byteAt bytes (k + 1), byteAt bytes (k + 2), byteAt bytes (k + 3),
    byteAt bytes (k + 4), byteAt bytes (k + 5)]
  size := rfl

/-- The size of the IPv4 header, as it says. -/
def ipv4HeaderSize : Nat := (byteAt bytes 14 &&& 0x0f).toNat * 4

/-- The size of the IPv4 packet, as it says. -/
def ipv4TotalSize : Nat := (u16At bytes 16).toNat

/-- Where the transport header begins. -/
def transportStart : Nat := 14 + ipv4HeaderSize bytes

def transportSize : Nat := ipv4TotalSize bytes - ipv4HeaderSize bytes

/-- The size of a UDP datagram, as it says. -/
def udpLength : Nat := (u16At bytes (transportStart bytes + 4)).toNat

/-- The size of a TCP header, as it says. -/
def tcpHeaderSize : Nat := (byteAt bytes (transportStart bytes + 12) >>> 4).toNat * 4

/-- A header of version 4 whose sizes fit into each other and into the packet. -/
structure Ipv4Intact : Prop where
  fits : 34 ≤ bytes.length
  version : byteAt bytes 14 >>> 4 = ipv4Version
  header : 20 ≤ ipv4HeaderSize bytes
  total : ipv4HeaderSize bytes ≤ ipv4TotalSize bytes
  within : 14 + ipv4TotalSize bytes ≤ bytes.length

theorem ipv4Intact_iff : Ipv4Intact bytes ↔
    34 ≤ bytes.length ∧ byteAt bytes 14 >>> 4 = ipv4Version ∧ 20 ≤ ipv4HeaderSize bytes ∧
      ipv4HeaderSize bytes ≤ ipv4TotalSize bytes ∧ 14 + ipv4TotalSize bytes ≤ bytes.length :=
  ⟨fun h => ⟨h.fits, h.version, h.header, h.total, h.within⟩,
    fun ⟨fits, version, header, total, within⟩ => ⟨fits, version, header, total, within⟩⟩

instance : Decidable (Ipv4Intact bytes) := decidable_of_iff' _ (ipv4Intact_iff bytes)

/-- The fragment of a packet that is not its first has no transport header. -/
def Fragment : Prop := u16At bytes 20 &&& 0x1fff ≠ 0

instance : Decidable (Fragment bytes) := inferInstanceAs (Decidable (_ ≠ _))

/-- The protocol, if its header is read. -/
inductive Transport
  | udp
  | tcp
  | icmp
  | other
  deriving DecidableEq

def transport : Transport :=
  if byteAt bytes 23 = udpProtocol then .udp
  else if byteAt bytes 23 = tcpProtocol then .tcp
  else if byteAt bytes 23 = icmpProtocol then .icmp
  else .other

/-- A transport header whose sizes fit into the IPv4 packet. -/
def TransportIntact : Prop :=
  (transport bytes = .udp →
    8 ≤ transportSize bytes ∧ 8 ≤ udpLength bytes ∧ udpLength bytes ≤ transportSize bytes) ∧
  (transport bytes = .tcp →
    20 ≤ transportSize bytes ∧ 20 ≤ tcpHeaderSize bytes ∧
      tcpHeaderSize bytes ≤ transportSize bytes) ∧
  (transport bytes = .icmp → 4 ≤ transportSize bytes)

instance : Decidable (TransportIntact bytes) :=
  inferInstanceAs (Decidable ((_ → _ ∧ _) ∧ (_ → _ ∧ _) ∧ (_ → _)))

end

/-! ## The analysis of a packet -/

/-- The record of a valid packet of a flow. -/
def PacketAnalysis.hashed (analysis : PacketAnalysis) : PacketAnalysis :=
  { analysis with flowHash := hashFlowKey (makeFlowKey analysis) }

section
variable (bytes : Bytes)

def withIpv4 (analysis : PacketAnalysis) : PacketAnalysis :=
  { analysis with
    sourceIpv4 := u32At bytes 26
    destinationIpv4 := u32At bytes 30
    protocol := byteAt bytes 23 }

def withTransport (analysis : PacketAnalysis) : PacketAnalysis :=
  let start := transportStart bytes
  match transport bytes with
  | .udp =>
      { analysis with sourcePort := u16At bytes start, destinationPort := u16At bytes (start + 2) }
  | .tcp =>
      { analysis with
        sourcePort := u16At bytes start
        destinationPort := u16At bytes (start + 2)
        tcpFlags := byteAt bytes (start + 13) }
  | .icmp | .other => analysis

variable (ingressPort : UInt32)

/-- The transport header says nothing of the rest. -/
theorem withTransport_ethertype (analysis : PacketAnalysis) :
    (withTransport bytes analysis).ethertype = analysis.ethertype := by
  unfold withTransport
  cases transport bytes <;> rfl

theorem withTransport_valid (analysis : PacketAnalysis) :
    (withTransport bytes analysis).validity = analysis.validity := by
  unfold withTransport
  cases transport bytes <;> rfl

theorem withTransport_validity (analysis : PacketAnalysis) (validity : PacketValidity) :
    { withTransport bytes analysis with validity } =
      withTransport bytes { analysis with validity } := by
  unfold withTransport
  cases transport bytes <;> rfl

/-- What is known of a packet without a whole Ethernet header. -/
def shortAnalysis : PacketAnalysis :=
  { ingressPort, frameLength := .ofNat (min bytes.length 65535) }

def ethernetAnalysis : PacketAnalysis :=
  { shortAnalysis bytes ingressPort with
    destinationMac := macAt bytes 0
    sourceMac := macAt bytes 6
    ethertype := u16At bytes 12
    validity := .valid }

def ipv4Analysis : PacketAnalysis := withIpv4 bytes (ethernetAnalysis bytes ingressPort)

def transportAnalysis : PacketAnalysis := withTransport bytes (ipv4Analysis bytes ingressPort)

/-- **The analysis of a packet.** -/
def analysisOf : PacketAnalysis :=
  if bytes.length < 14 then shortAnalysis bytes ingressPort
  else if u16At bytes 12 ≠ ethertypeIpv4 then ethernetAnalysis bytes ingressPort
  else if ¬ Ipv4Intact bytes then
    { ethernetAnalysis bytes ingressPort with validity := .malformedIpv4 }
  else if Fragment bytes then (ipv4Analysis bytes ingressPort).hashed
  else if TransportIntact bytes then (transportAnalysis bytes ingressPort).hashed
  else { ipv4Analysis bytes ingressPort with validity := .malformedTransport }

end

/-! ## Reading the fields -/

section
variable {memory : Memory} {start : Nat} {bytes : Bytes} (h : memory.Shows start bytes)
include h

theorem read_byte (address k : Nat) (ha : address = start + k) (hk : k < bytes.length) :
    memory address = some (byteAt bytes k) := by
  rw [ha, h k hk, byteAt, List.getD_eq_getElem?_getD, List.getElem?_eq_getElem hk]
  rfl

theorem read_u16 (address k : Nat) (ha : address = start + k)
    (hk : k + 1 < bytes.length) : readNetworkU16 memory address = some (u16At bytes k) := by
  rw [readNetworkU16, read_byte h _ k ha (by omega), read_byte h _ (k + 1) (by omega) hk]
  rfl

theorem read_u32 (address k : Nat) (ha : address = start + k)
    (hk : k + 3 < bytes.length) : readNetworkU32 memory address = some (u32At bytes k) := by
  rw [readNetworkU32, read_byte h _ k ha (by omega), read_byte h _ (k + 1) (by omega) (by omega),
    read_byte h _ (k + 2) (by omega) (by omega), read_byte h _ (k + 3) (by omega) hk]
  rfl

theorem read_mac (address k : Nat) (ha : address = start + k)
    (hk : k + 5 < bytes.length) : readMacAddress memory address = some (macAt bytes k) := by
  rw [readMacAddress, read_byte h _ k ha (by omega), read_byte h _ (k + 1) (by omega) (by omega),
    read_byte h _ (k + 2) (by omega) (by omega), read_byte h _ (k + 3) (by omega) (by omega),
    read_byte h _ (k + 4) (by omega) (by omega), read_byte h _ (k + 5) (by omega) hk]
  rfl

end

/-! ## Sizes in machine integers -/

section
variable {w : Nat} (hw : 16 ≤ w)
include hw

private theorem two_pow_le : 2 ^ 16 ≤ 2 ^ w := Nat.pow_le_pow_right (by decide) hw

private theorem toNat_constant {c : Nat} (hc : c < 2 ^ 16) : (BitVec.ofNat w c).toNat = c := by
  rw [BitVec.toNat_ofNat, Nat.mod_eq_of_lt (hc.trans_le (two_pow_le hw))]

private theorem toNat_u16 (value : UInt16) : (value.toBitVec.setWidth w).toNat = value.toNat := by
  rw [BitVec.toNat_setWidth, UInt16.toNat_toBitVec,
    Nat.mod_eq_of_lt (value.toNat_lt.trans_le (two_pow_le hw))]

/-- Four times a byte. -/
private theorem toNat_words (value : UInt8) :
    (value.toBitVec.setWidth w * 4).toNat = value.toNat * 4 := by
  have hbound := two_pow_le hw
  have hvalue := value.toNat_lt
  have hfour : (4 : BitVec w).toNat = 4 := toNat_constant hw (by decide)
  have hbyte : value.toNat % 2 ^ w = value.toNat := Nat.mod_eq_of_lt (by omega)
  rw [BitVec.toNat_mul, hfour, BitVec.toNat_setWidth, UInt8.toNat_toBitVec, hbyte,
    Nat.mod_eq_of_lt (by omega)]

variable {bytes : Bytes}

/-- The check of the IPv4 header. -/
private theorem ipv4_checked {payload : BitVec w} (hpayload : payload.toNat = bytes.length - 14)
    (hfits : 34 ≤ bytes.length) :
    (byteAt bytes 14 >>> 4 ≠ ipv4Version ∨
      (byteAt bytes 14 &&& 0x0f).toBitVec.setWidth w * 4 < .ofNat w ipv4MinimumHeaderSize ∨
      payload < (byteAt bytes 14 &&& 0x0f).toBitVec.setWidth w * 4 ∨
      (u16At bytes 16).toBitVec.setWidth w < (byteAt bytes 14 &&& 0x0f).toBitVec.setWidth w * 4 ∨
      payload < (u16At bytes 16).toBitVec.setWidth w) ↔ ¬ Ipv4Intact bytes := by
  have hheader : ((byteAt bytes 14 &&& 0x0f).toBitVec.setWidth w * 4).toNat =
      ipv4HeaderSize bytes := toNat_words hw _
  have htotal : ((u16At bytes 16).toBitVec.setWidth w).toNat = ipv4TotalSize bytes := toNat_u16 hw _
  have hminimum : (BitVec.ofNat w ipv4MinimumHeaderSize).toNat = 20 := toNat_constant hw (by decide)
  simp only [BitVec.lt_def, hheader, htotal, hpayload, hminimum, ipv4Intact_iff]
  by_cases hversion : byteAt bytes 14 >>> 4 = ipv4Version
  · simp only [hversion, ne_eq, not_true_eq_false, false_or, true_and]
    omega
  · simp [hversion]

/-- The difference of the sizes. -/
private theorem toNat_transportSize (hintact : Ipv4Intact bytes) :
    ((u16At bytes 16).toBitVec.setWidth w - (byteAt bytes 14 &&& 0x0f).toBitVec.setWidth w * 4).toNat =
      transportSize bytes := by
  have hle : (byteAt bytes 14 &&& 0x0f).toBitVec.setWidth w * 4 ≤
      (u16At bytes 16).toBitVec.setWidth w := by
    rw [BitVec.le_def, toNat_words hw, toNat_u16 hw]
    exact hintact.total
  rw [BitVec.toNat_sub_of_le hle, toNat_words hw, toNat_u16 hw]
  rfl

/-- The check of a UDP header, after the check that there is one. -/
private theorem udp_checked {size : BitVec w} (hsize : size.toNat = transportSize bytes) :
    (size < .ofNat w udpHeaderSize ↔ transportSize bytes < 8) ∧
      ((u16At bytes (transportStart bytes + 4)).toBitVec.setWidth w < .ofNat w udpHeaderSize ∨
        size < (u16At bytes (transportStart bytes + 4)).toBitVec.setWidth w ↔
        ¬ (8 ≤ udpLength bytes ∧ udpLength bytes ≤ transportSize bytes)) := by
  have hminimum : (BitVec.ofNat w udpHeaderSize).toNat = 8 := toNat_constant hw (by decide)
  have hlength : ((u16At bytes (transportStart bytes + 4)).toBitVec.setWidth w).toNat =
      udpLength bytes := toNat_u16 hw _
  simp only [BitVec.lt_def, hsize, hminimum, hlength, true_and]
  omega

/-- The check of a TCP header, after the check that there is one. -/
private theorem tcp_checked {size : BitVec w} (hsize : size.toNat = transportSize bytes) :
    (size < .ofNat w tcpMinimumHeaderSize ↔ transportSize bytes < 20) ∧
      ((byteAt bytes (transportStart bytes + 12) >>> 4).toBitVec.setWidth w * 4 <
          .ofNat w tcpMinimumHeaderSize ∨
        size < (byteAt bytes (transportStart bytes + 12) >>> 4).toBitVec.setWidth w * 4 ↔
        ¬ (20 ≤ tcpHeaderSize bytes ∧ tcpHeaderSize bytes ≤ transportSize bytes)) := by
  have hminimum : (BitVec.ofNat w tcpMinimumHeaderSize).toNat = 20 :=
    toNat_constant hw (by decide)
  have hheader : ((byteAt bytes (transportStart bytes + 12) >>> 4).toBitVec.setWidth w * 4).toNat =
      tcpHeaderSize bytes := toNat_words hw _
  simp only [BitVec.lt_def, hsize, hminimum, hheader, true_and]
  omega

private theorem icmp_checked {size : BitVec w} (hsize : size.toNat = transportSize bytes) :
    size < .ofNat w icmpMinimumHeaderSize ↔ transportSize bytes < 4 := by
  have hminimum : (BitVec.ofNat w icmpMinimumHeaderSize).toNat = 4 :=
    toNat_constant hw (by decide)
  rw [BitVec.lt_def, hsize, hminimum]

end

/-- The transport header lies in the packet. -/
private theorem transport_within {bytes : Bytes} (hintact : Ipv4Intact bytes) :
    transportStart bytes + transportSize bytes ≤ bytes.length := by
  have htotal := hintact.total
  have hwithin := hintact.within
  unfold transportStart transportSize
  omega

section
variable {bytes : Bytes}

private theorem intact_udp (h : transport bytes = .udp) : TransportIntact bytes ↔
    8 ≤ transportSize bytes ∧ 8 ≤ udpLength bytes ∧ udpLength bytes ≤ transportSize bytes := by
  simp [TransportIntact, h]

private theorem intact_tcp (h : transport bytes = .tcp) : TransportIntact bytes ↔
    20 ≤ transportSize bytes ∧ 20 ≤ tcpHeaderSize bytes ∧
      tcpHeaderSize bytes ≤ transportSize bytes := by
  simp [TransportIntact, h]

private theorem intact_icmp (h : transport bytes = .icmp) :
    TransportIntact bytes ↔ 4 ≤ transportSize bytes := by
  simp [TransportIntact, h]

private theorem intact_other (h : transport bytes = .other) : TransportIntact bytes := by
  simp [TransportIntact, h]

end

private theorem some_bind {α β : Type} (a : α) (next : α → Option β) :
    (some a >>= next) = next a := rfl

/-! ## The transport header -/

/-- What the parsers have in common where they read the transport header: they check
it and read from it, and go on as they each do. -/
private def readTransport {β : Type} (w : Nat) (memory : Memory) (address : Nat) (size : BitVec w)
    (protocol : UInt8) (malformed : β) (udp : UInt16 → UInt16 → β)
    (tcp : UInt16 → UInt16 → UInt8 → β) (other : β) : Option β := do
  if protocol = udpProtocol then
    if size < .ofNat w udpHeaderSize then
      return malformed
    let length ← readNetworkU16 memory (address + 4)
    if length.toBitVec.setWidth w < .ofNat w udpHeaderSize ∨ size < length.toBitVec.setWidth w then
      return malformed
    let sourcePort ← readNetworkU16 memory address
    let destinationPort ← readNetworkU16 memory (address + 2)
    return udp sourcePort destinationPort
  else if protocol = tcpProtocol then
    if size < .ofNat w tcpMinimumHeaderSize then
      return malformed
    let offset ← memory (address + 12)
    let headerSize := (offset >>> 4).toBitVec.setWidth w * 4
    if headerSize < .ofNat w tcpMinimumHeaderSize ∨ size < headerSize then
      return malformed
    let sourcePort ← readNetworkU16 memory address
    let destinationPort ← readNetworkU16 memory (address + 2)
    let tcpFlags ← memory (address + 13)
    return tcp sourcePort destinationPort tcpFlags
  else if protocol = icmpProtocol ∧ size < .ofNat w icmpMinimumHeaderSize then
    return malformed
  else
    return other

/-- Where the sizes of the header fit, its fields are read; where they do not, nothing
outside of the packet is. -/
private theorem readTransport_eq {β : Type} {w : Nat} (hw : 16 ≤ w) {memory : Memory}
    {start address : Nat} {bytes : Bytes} (hshows : memory.Shows start bytes)
    (hintact : Ipv4Intact bytes) (haddress : address = start + transportStart bytes)
    {size : BitVec w} (hsize : size.toNat = transportSize bytes) (malformed : β)
    (udp : UInt16 → UInt16 → β) (tcp : UInt16 → UInt16 → UInt8 → β) (other : β) :
    let ports := transportStart bytes
    readTransport w memory address size (byteAt bytes 23) malformed udp tcp other = some (
      if TransportIntact bytes then
        match transport bytes with
        | .udp => udp (u16At bytes ports) (u16At bytes (ports + 2))
        | .tcp => tcp (u16At bytes ports) (u16At bytes (ports + 2)) (byteAt bytes (ports + 13))
        | .icmp | .other => other
      else malformed) := by
  have hwithin := transport_within hintact
  dsimp only
  unfold readTransport
  by_cases hudp : byteAt bytes 23 = udpProtocol
  · have htransport : transport bytes = .udp := if_pos hudp
    obtain ⟨hheader, hlengths⟩ := udp_checked hw hsize
    rw [if_pos hudp, if_congr (intact_udp htransport) rfl rfl, htransport]
    -- a UDP header has to fit, and its length has to lie between that and the payload
    by_cases hroom : transportSize bytes < 8
    · rw [if_pos (hheader.mpr hroom), if_neg (by omega)]
      rfl
    rw [if_neg (mt hheader.mp hroom),
      read_u16 hshows _ (transportStart bytes + 4) (by omega) (by omega), some_bind]
    by_cases hlength : 8 ≤ udpLength bytes ∧ udpLength bytes ≤ transportSize bytes
    · rw [if_neg fun hbad => hlengths.mp hbad hlength, if_pos ⟨by omega, hlength⟩,
        read_u16 hshows _ (transportStart bytes) (by omega) (by omega), some_bind,
        read_u16 hshows _ (transportStart bytes + 2) (by omega) (by omega), some_bind]
      rfl
    · rw [if_pos (hlengths.mpr hlength), if_neg fun hfits => hlength hfits.2]
      rfl
  by_cases htcp : byteAt bytes 23 = tcpProtocol
  · have htransport : transport bytes = .tcp := (if_neg hudp).trans (if_pos htcp)
    obtain ⟨hheader, hlengths⟩ := tcp_checked hw hsize
    rw [if_neg hudp, if_pos htcp, if_congr (intact_tcp htransport) rfl rfl, htransport]
    -- the data offset of TCP says how long its header is
    by_cases hroom : transportSize bytes < 20
    · rw [if_pos (hheader.mpr hroom), if_neg (by omega)]
      rfl
    rw [if_neg (mt hheader.mp hroom),
      read_byte hshows _ (transportStart bytes + 12) (by omega) (by omega), some_bind]
    by_cases hlength : 20 ≤ tcpHeaderSize bytes ∧ tcpHeaderSize bytes ≤ transportSize bytes
    · rw [if_neg fun hbad => hlengths.mp hbad hlength, if_pos ⟨by omega, hlength⟩,
        read_u16 hshows _ (transportStart bytes) (by omega) (by omega), some_bind,
        read_u16 hshows _ (transportStart bytes + 2) (by omega) (by omega), some_bind,
        read_byte hshows _ (transportStart bytes + 13) (by omega) (by omega), some_bind]
      rfl
    · rw [if_pos (hlengths.mpr hlength), if_neg fun hfits => hlength hfits.2]
      rfl
  rw [if_neg hudp, if_neg htcp]
  by_cases hicmp : byteAt bytes 23 = icmpProtocol
  · have htransport : transport bytes = .icmp :=
      (if_neg hudp).trans ((if_neg htcp).trans (if_pos hicmp))
    rw [if_congr (intact_icmp htransport) rfl rfl, htransport]
    by_cases hroom : transportSize bytes < 4
    · rw [if_pos ⟨hicmp, (icmp_checked hw hsize).mpr hroom⟩, if_neg (by omega)]
      rfl
    · rw [if_neg fun hbad => hroom ((icmp_checked hw hsize).mp hbad.2), if_pos (by omega)]
      rfl
  · have htransport : transport bytes = .other :=
      (if_neg hudp).trans ((if_neg htcp).trans (if_neg hicmp))
    rw [if_neg fun hbad => hicmp hbad.1, if_pos (intact_other htransport), htransport]
    rfl

/-! ## The packet parser of the CPU -/

private theorem toNat_size {packet : PacketView} (hsize : packet.bytes.length < 2 ^ 64) :
    packet.size.toNat = packet.bytes.length := by
  rw [PacketView.size, BitVec.toNat_ofNat, Nat.mod_eq_of_lt hsize]

private theorem toNat_payload {packet : PacketView} (hsize : packet.bytes.length < 2 ^ 64)
    (hethernet : 14 ≤ packet.bytes.length) :
    (packet.size - .ofNat 64 ethernetHeaderSize).toNat = packet.bytes.length - 14 := by
  have hle : BitVec.ofNat 64 ethernetHeaderSize ≤ packet.size := by
    rw [BitVec.le_def, toNat_size hsize]
    exact hethernet
  rw [BitVec.toNat_sub_of_le hle, toNat_size hsize]
  rfl

/-- What the parser makes of an IPv4 packet. -/
theorem parseIpv4_eq {packet : PacketView} (hsize : packet.bytes.length < 2 ^ 64)
    (hethernet : 14 ≤ packet.bytes.length) (analysis : PacketAnalysis) :
    let bytes := packet.bytes
    parseIpv4 packet analysis = some (
      if ¬ Ipv4Intact bytes then (.malformedIpv4, analysis)
      else if Fragment bytes then (.valid, withIpv4 bytes analysis)
      else if TransportIntact bytes then (.valid, withTransport bytes (withIpv4 bytes analysis))
      else (.malformedTransport, withIpv4 bytes analysis)) := by
  have hpayload := toNat_payload hsize hethernet
  have hshows := Memory.shows_ofBytes packet.bytes
  unfold parseIpv4
  generalize packet.size - .ofNat 64 ethernetHeaderSize = payload at hpayload
  generalize packet.bytes = bytes at hpayload hshows hethernet ⊢
  dsimp only
  -- no room for the smallest header
  by_cases hfits : 34 ≤ bytes.length
  swap
  · have hshort : payload < .ofNat 64 ipv4MinimumHeaderSize := by
      rw [BitVec.lt_def, hpayload]
      show bytes.length - 14 < 20
      omega
    rw [if_pos hshort, if_pos fun hintact : Ipv4Intact bytes => hfits hintact.fits]
    rfl
  have hlong : ¬ payload < .ofNat 64 ipv4MinimumHeaderSize := by
    rw [BitVec.lt_def, hpayload]
    show ¬ bytes.length - 14 < 20
    omega
  rw [if_neg hlong, read_byte hshows ethernetHeaderSize 14 rfl (by omega), some_bind,
    read_u16 hshows (ethernetHeaderSize + 2) 16 rfl (by omega), some_bind]
  by_cases hintact : Ipv4Intact bytes
  swap
  · rw [if_pos ((ipv4_checked (by decide) hpayload hfits).mpr hintact), if_pos hintact]
    rfl
  rw [if_neg fun hbad => (ipv4_checked (by decide) hpayload hfits).mp hbad hintact,
    if_neg (not_not.mpr hintact), read_u32 hshows (ethernetHeaderSize + 12) 26 rfl (by omega),
    some_bind, read_u32 hshows (ethernetHeaderSize + 16) 30 rfl (by omega), some_bind,
    read_byte hshows (ethernetHeaderSize + 9) 23 rfl (by omega), some_bind,
    read_u16 hshows (ethernetHeaderSize + 6) 20 rfl (by omega), some_bind]
  -- a later fragment has no transport header
  by_cases hfragment : Fragment bytes
  · have hlater : u16At bytes 20 &&& 0x1fff ≠ 0 := hfragment
    rw [if_pos hlater, if_pos hfragment]
    rfl
  have hfirst : ¬ u16At bytes 20 &&& 0x1fff ≠ 0 := hfragment
  have hsize := toNat_transportSize (w := 64) (by decide) hintact
  have hstart : ethernetHeaderSize + ((byteAt bytes 14 &&& 0x0f).toBitVec.setWidth 64 * 4).toNat =
      transportStart bytes := by
    rw [toNat_words (by decide)]
    rfl
  rw [if_neg hfirst, if_neg hfragment]
  refine (readTransport_eq (by decide) hshows hintact (by rw [hstart, Nat.zero_add]) hsize
    (PacketValidity.malformedTransport, withIpv4 bytes analysis)
    (fun sourcePort destinationPort =>
      (.valid, { withIpv4 bytes analysis with sourcePort, destinationPort }))
    (fun sourcePort destinationPort tcpFlags =>
      (.valid, { withIpv4 bytes analysis with sourcePort, destinationPort, tcpFlags }))
    (.valid, withIpv4 bytes analysis)).trans ?_
  rw [withTransport]
  cases transport bytes <;> rfl

private theorem frameLength_eq {packet : PacketView} (hsize : packet.bytes.length < 2 ^ 64) :
    UInt16.ofBitVec ((if packet.size < 65535 then packet.size else 65535).setWidth 16) =
      .ofNat (min packet.bytes.length 65535) := by
  have hlimit : (65535 : SizeT).toNat = 65535 := rfl
  have hcheck : packet.size < 65535 ↔ packet.bytes.length < 65535 := by
    rw [BitVec.lt_def, toNat_size hsize, hlimit]
  apply UInt16.toNat_inj.mp
  rw [UInt16.toNat_ofBitVec, BitVec.toNat_setWidth, UInt16.toNat_ofNat']
  by_cases hshort : packet.bytes.length < 65535
  · rw [if_pos (hcheck.mpr hshort), toNat_size hsize, Nat.min_eq_left (by omega)]
  · rw [if_neg (mt hcheck.mp hshort), hlimit, Nat.min_eq_right (by omega)]

/-- **The CPU computes the analysis of a packet.** -/
theorem parsePacket_eq {packet : PacketView} (hsize : packet.bytes.length < 2 ^ 64) :
    parsePacket packet = some (analysisOf packet.bytes packet.ingressPort) := by
  have hshows := Memory.shows_ofBytes packet.bytes
  have hcheck : packet.size < .ofNat 64 ethernetHeaderSize ↔ packet.bytes.length < 14 := by
    rw [BitVec.lt_def, toNat_size hsize]
    rfl
  unfold parsePacket analysisOf
  simp only [frameLength_eq hsize]
  by_cases hshort : packet.bytes.length < 14
  · rw [if_pos (hcheck.mpr hshort), if_pos hshort]
    rfl
  rw [if_neg (mt hcheck.mp hshort), if_neg hshort, read_mac hshows 0 0 rfl (by omega), some_bind,
    read_mac hshows macAddressSize 6 rfl (by omega), some_bind,
    read_u16 hshows (macAddressSize * 2) 12 rfl (by omega), some_bind]
  by_cases hipv4 : u16At packet.bytes 12 = ethertypeIpv4
  swap
  · rw [if_neg hipv4, if_pos hipv4]
    exact if_neg fun hboth => hipv4 hboth.1
  rw [if_pos hipv4, if_neg (not_not.mpr hipv4), parseIpv4_eq hsize (by omega)]
  by_cases hintact : Ipv4Intact packet.bytes
  swap
  · rw [if_pos hintact, if_pos hintact, some_bind, if_neg (by simp)]
    rfl
  rw [if_neg (not_not.mpr hintact), if_neg (not_not.mpr hintact)]
  by_cases hfragment : Fragment packet.bytes
  · rw [if_pos hfragment, if_pos hfragment, some_bind, if_pos ⟨hipv4, rfl⟩]
    rfl
  rw [if_neg hfragment, if_neg hfragment]
  by_cases htransport : TransportIntact packet.bytes
  · rw [if_pos htransport, if_pos htransport, some_bind,
      if_pos ⟨(withTransport_ethertype ..).trans hipv4, rfl⟩]
    exact congrArg (fun analysis => some analysis.hashed)
      (withTransport_validity packet.bytes (withIpv4 packet.bytes {
        shortAnalysis packet.bytes packet.ingressPort with
        destinationMac := macAt packet.bytes 0
        sourceMac := macAt packet.bytes 6
        ethertype := u16At packet.bytes 12 }) .valid)
  · rw [if_neg htransport, if_neg htransport, some_bind, if_neg (by simp)]
    rfl

/-! ## The packet parsers of the devices -/

/-- The record of an analysis. -/
def PacketAnalysis.toDevice (analysis : PacketAnalysis) : DevicePacketAnalysis where
  sourceMac := ⟨analysis.sourceMac.bytes.toArray, analysis.sourceMac.size⟩
  destinationMac := ⟨analysis.destinationMac.bytes.toArray, analysis.destinationMac.size⟩
  sourceIpv4 := analysis.sourceIpv4
  destinationIpv4 := analysis.destinationIpv4
  ingressPort := analysis.ingressPort
  sourcePort := analysis.sourcePort
  destinationPort := analysis.destinationPort
  ethertype := analysis.ethertype
  frameLength := analysis.frameLength
  protocol := analysis.protocol
  tcpFlags := analysis.tcpFlags
  validity := analysis.validity.code
  flowHash := analysis.flowHash

/-- The host reads an analysis back from its record; it classifies no packet yet. -/
theorem toPacketAnalysis_toDevice {analysis : PacketAnalysis}
    (h : analysis.classification = .malformed) :
    analysis.toDevice.toPacketAnalysis = some analysis := by
  have hcode : PacketValidity.ofCode analysis.validity.code = some analysis.validity := by
    cases analysis.validity <;> rfl
  simp only [DevicePacketAnalysis.toPacketAnalysis, PacketAnalysis.toDevice, hcode, some_bind]
  rw [← h]
  rfl

private theorem withHash_classification (analysis : PacketAnalysis) (flowHash : UInt64) :
    { analysis with flowHash }.classification = analysis.classification := rfl

theorem hashed_classification (analysis : PacketAnalysis) :
    analysis.hashed.classification = analysis.classification := withHash_classification _ _

theorem withTransport_classification (bytes : Bytes) (analysis : PacketAnalysis) :
    (withTransport bytes analysis).classification = analysis.classification := by
  unfold withTransport
  cases transport bytes <;> rfl

/-- No parser classifies a packet. -/
theorem analysisOf_classification (bytes : Bytes) (ingressPort : UInt32) :
    (analysisOf bytes ingressPort).classification = .malformed := by
  unfold analysisOf
  split_ifs
  · rfl
  · rfl
  · rw [hashed_classification]
    rfl
  · rw [hashed_classification, transportAnalysis, withTransport_classification]
    rfl
  · rfl
  · rfl

theorem hashFlowKey_toDevice (analysis : PacketAnalysis) :
    analysis.toDevice.hashFlowKey = hashFlowKey (makeFlowKey analysis) := rfl

private theorem withHash_toDevice (analysis : PacketAnalysis) (flowHash : UInt64) :
    { analysis with flowHash }.toDevice = { analysis.toDevice with flowHash } := rfl

theorem hashed_toDevice (analysis : PacketAnalysis) :
    analysis.hashed.toDevice =
      { analysis.toDevice with flowHash := hashFlowKey (makeFlowKey analysis) } :=
  withHash_toDevice _ _

section
variable {w : Nat} (hw : 16 ≤ w) {memory : Memory} {start : Nat} {bytes : Bytes}
  (hshows : memory.Shows start bytes) (ingressPort : UInt32)

include hshows in
/-- The loop fills both addresses of a record whose bytes were zero. -/
private theorem copyMacAddresses_eq (hethernet : 14 ≤ bytes.length) (ingressPort : UInt32)
    (frameLength : UInt16) :
    copyMacAddresses memory start { ingressPort, frameLength } = some {
      ingressPort, frameLength
      sourceMac := ⟨(macAt bytes 6).bytes.toArray, rfl⟩
      destinationMac := ⟨(macAt bytes 0).bytes.toArray, rfl⟩ } := by
  have hread (k : Nat) (hk : k < 14) : memory (start + k) = some (byteAt bytes k) :=
    read_byte hshows _ k rfl (by omega)
  have hturn (analysis : DevicePacketAnalysis) (i : Fin macAddressSize) : (do
      let destination ← memory (start + i)
      let source ← memory (start + (macAddressSize + i))
      return { analysis with
        destinationMac := analysis.destinationMac.set i destination
        sourceMac := analysis.sourceMac.set i source }) =
      some { analysis with
        destinationMac := analysis.destinationMac.set i (byteAt bytes i)
        sourceMac := analysis.sourceMac.set i (byteAt bytes (macAddressSize + i)) } := by
    have hi : (i : Nat) < 6 := i.isLt
    rw [hread i (by omega), some_bind,
      hread (macAddressSize + i) (show 6 + (i : Nat) < 14 by omega), some_bind]
    rfl
  have hindices : List.finRange macAddressSize = [0, 1, 2, 3, 4, 5] := rfl
  rw [copyMacAddresses, hindices]
  simp only [List.foldlM_cons, List.foldlM_nil, hturn, some_bind]
  rfl

include hw hshows

/-- What a kernel makes of the transport header. -/
private theorem parseDeviceTransport_eq {size : BitVec w} {address : Nat}
    (hintact : Ipv4Intact bytes) (haddress : address = start + transportStart bytes)
    (hsize : size.toNat = transportSize bytes) {analysis : PacketAnalysis}
    (hprotocol : analysis.protocol = byteAt bytes 23) :
    parseDeviceTransport w memory address size analysis.toDevice = some (
      if TransportIntact bytes then (withTransport bytes analysis).toDevice
      else { analysis with validity := .malformedTransport }.toDevice) := by
  have hread := readTransport_eq hw hshows hintact haddress hsize
    { analysis with validity := .malformedTransport }.toDevice
    (fun sourcePort destinationPort =>
      { analysis with sourcePort, destinationPort }.toDevice)
    (fun sourcePort destinationPort tcpFlags =>
      { analysis with sourcePort, destinationPort, tcpFlags }.toDevice)
    analysis.toDevice
  rw [← hprotocol] at hread
  refine hread.trans ?_
  rw [withTransport]
  cases transport bytes <;> rfl

/-- **A kernel computes the analysis of a packet**, in integers of 16 bits or more. -/
theorem parseDevicePacket_eq {packetLength : UInt16} (hlength : packetLength.toNat = bytes.length)
    (ingressPort : UInt32) :
    parseDevicePacket w memory start packetLength ingressPort =
      some (analysisOf bytes ingressPort).toDevice := by
  have hsize : (packetLength.toBitVec.setWidth w).toNat = bytes.length :=
    (toNat_u16 hw _).trans hlength
  have hframe : UInt16.ofBitVec ((packetLength.toBitVec.setWidth w).setWidth 16) =
      .ofNat (min bytes.length 65535) := by
    have hbound := packetLength.toNat_lt
    apply UInt16.toNat_inj.mp
    rw [UInt16.toNat_ofBitVec, BitVec.toNat_setWidth, hsize, UInt16.toNat_ofNat',
      Nat.min_eq_left (by omega)]
  have hethernet : (BitVec.ofNat w ethernetHeaderSize).toNat = 14 := toNat_constant hw (by decide)
  have hminimum : (BitVec.ofNat w ipv4MinimumHeaderSize).toNat = 20 :=
    toNat_constant hw (by decide)
  unfold parseDevicePacket analysisOf
  dsimp only
  rw [hframe]
  generalize packetLength.toBitVec.setWidth w = packetSize at hsize
  -- no room for an Ethernet header
  by_cases hshort : bytes.length < 14
  · have hcheck : packetSize < .ofNat w ethernetHeaderSize := by
      rw [BitVec.lt_def, hsize, hethernet]
      exact hshort
    rw [if_pos hcheck, if_pos hshort]
    rfl
  have hcheck : ¬ packetSize < .ofNat w ethernetHeaderSize := by
    rw [BitVec.lt_def, hsize, hethernet]
    exact hshort
  rw [if_neg hcheck, if_neg hshort, copyMacAddresses_eq hshows (by omega), some_bind,
    read_u16 hshows (start + macAddressSize * 2) 12 rfl (by omega), some_bind]
  -- the analysis of what is not IPv4 ends here
  by_cases hipv4 : u16At bytes 12 = ethertypeIpv4
  swap
  · rw [if_pos hipv4, if_pos hipv4]
    rfl
  have hpayload : (packetSize - .ofNat w ethernetHeaderSize).toNat = bytes.length - 14 := by
    have hle : .ofNat w ethernetHeaderSize ≤ packetSize := by
      rw [BitVec.le_def, hsize, hethernet]
      omega
    rw [BitVec.toNat_sub_of_le hle, hsize, hethernet]
  rw [if_neg (not_not.mpr hipv4), if_neg (not_not.mpr hipv4)]
  generalize packetSize - .ofNat w ethernetHeaderSize = payload at hpayload
  by_cases hfits : 34 ≤ bytes.length
  swap
  · have hroom : payload < .ofNat w ipv4MinimumHeaderSize := by
      rw [BitVec.lt_def, hpayload, hminimum]
      omega
    rw [if_pos hroom, if_pos fun hintact : Ipv4Intact bytes => hfits hintact.fits]
    rfl
  have hroom : ¬ payload < .ofNat w ipv4MinimumHeaderSize := by
    rw [BitVec.lt_def, hpayload, hminimum]
    omega
  rw [if_neg hroom, read_byte hshows (start + ethernetHeaderSize) 14 rfl (by omega), some_bind,
    read_u16 hshows (start + ethernetHeaderSize + 2) 16 rfl (by omega), some_bind]
  by_cases hintact : Ipv4Intact bytes
  swap
  · rw [if_pos ((ipv4_checked hw hpayload hfits).mpr hintact), if_pos hintact]
    rfl
  rw [if_neg fun hbad => (ipv4_checked hw hpayload hfits).mp hbad hintact,
    if_neg (not_not.mpr hintact),
    read_u32 hshows (start + ethernetHeaderSize + 12) 26 rfl (by omega), some_bind,
    read_u32 hshows (start + ethernetHeaderSize + 16) 30 rfl (by omega), some_bind,
    read_byte hshows (start + ethernetHeaderSize + 9) 23 rfl (by omega), some_bind,
    read_u16 hshows (start + ethernetHeaderSize + 6) 20 rfl (by omega), some_bind]
  -- a later fragment has no transport header
  by_cases hfragment : Fragment bytes
  · have hlater : u16At bytes 20 &&& 0x1fff ≠ 0 := hfragment
    rw [if_pos hlater, if_pos hfragment]
    rfl
  have hfirst : ¬ u16At bytes 20 &&& 0x1fff ≠ 0 := hfragment
  have haddress : start + ethernetHeaderSize +
      ((byteAt bytes 14 &&& 0x0f).toBitVec.setWidth w * 4).toNat =
        start + transportStart bytes := by
    rw [toNat_words hw, Nat.add_assoc]
    rfl
  have hprotocol : (ipv4Analysis bytes ingressPort).protocol = byteAt bytes 23 := rfl
  have hparse := parseDeviceTransport_eq hw hshows hintact haddress
    (toNat_transportSize hw hintact) hprotocol
  rw [if_neg hfirst, if_neg hfragment]
  refine (congrArg (· >>= _) hparse).trans ?_
  rw [some_bind]
  by_cases htransport : TransportIntact bytes
  · have hvalid : (withTransport bytes (ipv4Analysis bytes ingressPort)).toDevice.validity =
        PacketValidity.valid.code := congrArg PacketValidity.code (withTransport_valid ..)
    rw [if_pos htransport, if_pos htransport, if_pos hvalid, hashFlowKey_toDevice]
    exact congrArg some (hashed_toDevice _).symm
  · have hinvalid : ¬ PacketValidity.malformedTransport.code = PacketValidity.valid.code := by decide
    rw [if_neg htransport, if_neg htransport]
    exact if_neg hinvalid

end

end WireLab
