import WireLab.Base.Checked

/-!
# Capture files

`pcap.cpp`: reading classic libpcap and pcapng files into an index of packets,
and writing pcapng. Offsets and lengths within a file are natural numbers; what a
file declares is read at the width it has there. A read outside the file has no
outcome (`Checked`), and neither has a loop that does not end.
-/

namespace WireLab

open Base

inductive PcapError
  | fileRead
  | fileWrite
  | truncatedHeader
  | unknownMagic
  | unsupportedLinkType
  | truncatedPacket
  | oversizePacket
  deriving DecidableEq, Repr

def PcapError.toString : PcapError → Bytes
  | .fileRead => bytes "file could not be read"
  | .fileWrite => bytes "file could not be written"
  | .truncatedHeader => bytes "file is shorter than a pcap header"
  | .unknownMagic => bytes "not a classic pcap file"
  | .unsupportedLinkType => bytes "capture link type is not Ethernet"
  | .truncatedPacket => bytes "packet record runs past the end of the file"
  | .oversizePacket => bytes "packet record declares an implausible length"

def pcapMaximumSnaplen : UInt32 := 262144
def pcapLinktypeEthernet : UInt32 := 1

/-- A packet of a capture: when it was captured, and where it stands in the
file. -/
structure PcapPacket where
  timestampNs : UInt64 := 0
  offset : Nat := 0
  capturedLength : Nat := 0
  originalLength : Nat := 0
  deriving DecidableEq, Repr

structure PcapCapture where
  bytes : Bytes := []
  packets : List PcapPacket := []
  linkType : UInt32 := pcapLinktypeEthernet
  snaplen : UInt32 := pcapMaximumSnaplen
  nanosecondResolution : Bool := false
  pcapng : Bool := false
  deriving DecidableEq, Repr

/-- The bytes of a packet, in place. -/
def PcapCapture.frame (capture : PcapCapture) (packet : PcapPacket) : Bytes :=
  (capture.bytes.drop packet.offset).take packet.capturedLength

namespace Pcap

def magicMicroseconds : UInt32 := 0xa1b2c3d4
def magicNanoseconds : UInt32 := 0xa1b23c4d
def magicMicrosecondsSwapped : UInt32 := 0xd4c3b2a1
def magicNanosecondsSwapped : UInt32 := 0x4d3cb2a1

def fileHeaderSize : Nat := 24
def recordHeaderSize : Nat := 16

def blockSectionHeader : UInt32 := 0x0a0d0d0a
def blockInterfaceDescription : UInt32 := 1
def blockEnhancedPacket : UInt32 := 6
def blockSimplePacket : UInt32 := 3
def byteOrderMagic : UInt32 := 0x1a2b3c4d
def byteOrderMagicSwapped : UInt32 := 0x4d3c2b1a
def blockMinimumSize : Nat := 12
def defaultResolution : UInt8 := 6

def optionEnd : UInt16 := 0
def optionComment : UInt16 := 1
def optionInterfaceName : UInt16 := 2
def optionUserApplication : UInt16 := 4
def optionTimestampResolution : UInt16 := 9
def nanosecondResolution : UInt8 := 9

/-! ## Reading -/

def readU32 (data : Bytes) (offset : Nat) (swapped : Bool) : Checked PcapError UInt32 := do
  let first ← Checked.byte data offset
  let second ← Checked.byte data (offset + 1)
  let third ← Checked.byte data (offset + 2)
  let fourth ← Checked.byte data (offset + 3)
  let value := first.toUInt32 ||| second.toUInt32 <<< 8 ||| third.toUInt32 <<< 16 |||
    fourth.toUInt32 <<< 24
  if !swapped then pure value
  else
    pure (value >>> 24 ||| (value >>> 8 &&& (0x0000ff00 : UInt32)) |||
      (value <<< 8 &&& (0x00ff0000 : UInt32)) ||| value <<< 24)

def readU16 (data : Bytes) (offset : Nat) (swapped : Bool) : Checked PcapError UInt16 := do
  let first ← Checked.byte data offset
  let second ← Checked.byte data (offset + 1)
  let value := first.toUInt16 ||| second.toUInt16 <<< 8
  pure (if swapped then value >>> 8 ||| value <<< 8 else value)

/-- Where the option scan stands, and what it has found. -/
structure OptionScan where
  offset : Nat := 0
  resolution : Option UInt8 := none
  ended : Bool := false

/-- One option of a list of `length` bytes that starts at `options`. -/
def scanOption (data : Bytes) (options length : Nat) (swapped : Bool) (scan : OptionScan) :
    Checked PcapError OptionScan := do
  let code ← readU16 data (options + scan.offset) swapped
  let optionLength ← readU16 data (options + scan.offset + 2) swapped
  if code = optionEnd then pure { scan with ended := true }
  else if code = optionTimestampResolution ∧ 1 ≤ optionLength.toNat ∧
      scan.offset + 4 + optionLength.toNat ≤ length then do
    let resolution ← Checked.byte data (options + scan.offset + 4)
    pure { scan with resolution := some resolution, ended := true }
  else pure { scan with offset := scan.offset + (4 + (optionLength.toNat + 3) / 4 * 4) }

/-- The resolution an interface's options declare; microseconds without one. -/
def readTimestampResolution (data : Bytes) (options length : Nat) (swapped : Bool) :
    Checked PcapError UInt8 := do
  let scan ← Checked.loop (fun scan => !scan.ended && scan.offset + 4 ≤ length)
    (scanOption data options length swapped) (length + 1) {}
  pure (scan.resolution.getD defaultResolution)

/-- Ticks of a resolution as nanoseconds: a negative power of two where the high
bit is set, of ten where it is not. -/
def ticksToNanoseconds (ticks : UInt64) (resolution : UInt8) : UInt64 :=
  if resolution &&& 0x80 ≠ 0 then
    let power := resolution &&& 0x7f
    if 64 ≤ power then 0 else ticks * 1000000000 / ((1 : UInt64) <<< power.toUInt64)
  else
    let scaled := (fun nanoseconds : UInt64 => nanoseconds * 10)^[9 - resolution.toNat] ticks
    (fun nanoseconds : UInt64 => nanoseconds / 10)^[resolution.toNat - 9] scaled

/-! ## Classic captures -/

/-- Where the record loop stands. -/
structure RecordScan where
  offset : Nat := fileHeaderSize
  packets : List PcapPacket := []

/-- One record. -/
def readRecord (data : Bytes) (swapped nanoseconds : Bool) (scan : RecordScan) :
    Checked PcapError RecordScan :=
  if data.length - scan.offset < recordHeaderSize then throw .truncatedPacket
  else do
    let seconds ← readU32 data scan.offset swapped
    let fraction ← readU32 data (scan.offset + 4) swapped
    let capturedLength ← readU32 data (scan.offset + 8) swapped
    let originalLength ← readU32 data (scan.offset + 12) swapped
    let offset := scan.offset + recordHeaderSize
    if capturedLength > pcapMaximumSnaplen then throw .oversizePacket
    else if data.length - offset < capturedLength.toNat then throw .truncatedPacket
    else
      pure
        { offset := offset + capturedLength.toNat
          packets := scan.packets ++
            [{ timestampNs := seconds.toUInt64 * 1000000000 +
                (if nanoseconds then fraction.toUInt64 else fraction.toUInt64 * 1000)
               offset
               capturedLength := capturedLength.toNat
               originalLength := originalLength.toNat }] }

/-- The order and the resolution a magic number declares. -/
def magicOrder (magic : UInt32) : Option (Bool × Bool) :=
  if magic = magicMicroseconds then some (false, false)
  else if magic = magicNanoseconds then some (false, true)
  else if magic = magicMicrosecondsSwapped then some (true, false)
  else if magic = magicNanosecondsSwapped then some (true, true)
  else none

/-! ## pcapng captures -/

/-- Where the block loop stands: the packets so far, the interfaces and the byte
order of the section it is in, and what it has learnt of the capture. -/
structure BlockScan where
  offset : Nat := 0
  packets : List PcapPacket := []
  interfaceResolutions : List UInt8 := []
  swapped : Bool := false
  linkType : UInt32 := pcapLinktypeEthernet
  snaplen : UInt32 := 0
  nanosecondResolution : Bool := false

/-- The byte order a section declares, in its own order. -/
def readSectionOrder (data : Bytes) (offset : Nat) : Checked PcapError Bool :=
  if data.length - offset < 16 then throw .truncatedHeader
  else do
    let order ← readU32 data (offset + 8) false
    if order = byteOrderMagic then pure false
    else if order = byteOrderMagicSwapped then pure true
    else throw .unknownMagic

/-- An interface description of `bodyLength` bytes at `body`. -/
def readInterface (data : Bytes) (body bodyLength : Nat) (scan : BlockScan) :
    Checked PcapError BlockScan :=
  if bodyLength < 8 then throw .truncatedHeader
  else do
    let linkType ← readU16 data body scan.swapped
    if linkType.toUInt32 ≠ pcapLinktypeEthernet then throw .unsupportedLinkType
    else do
      let snaplen ← readU32 data (body + 4) scan.swapped
      let resolution ← readTimestampResolution data (body + 8) (bodyLength - 8) scan.swapped
      pure
        { scan with
          linkType := linkType.toUInt32
          snaplen := max scan.snaplen snaplen
          interfaceResolutions := scan.interfaceResolutions ++ [resolution]
          nanosecondResolution := scan.nanosecondResolution ||
            (resolution &&& 0x80 = 0 && defaultResolution < resolution) }

/-- An enhanced packet of `bodyLength` bytes at `body`. -/
def readEnhancedPacket (data : Bytes) (body bodyLength : Nat) (scan : BlockScan) :
    Checked PcapError BlockScan :=
  if bodyLength < 20 then throw .truncatedHeader
  else do
    let interfaceId ← readU32 data body scan.swapped
    let high ← readU32 data (body + 4) scan.swapped
    let low ← readU32 data (body + 8) scan.swapped
    let ticks := high.toUInt64 <<< 32 ||| low.toUInt64
    let capturedLength ← readU32 data (body + 12) scan.swapped
    let originalLength ← readU32 data (body + 16) scan.swapped
    if capturedLength > pcapMaximumSnaplen then throw .oversizePacket
    else
      match scan.interfaceResolutions[interfaceId.toNat]? with
      | none => throw .truncatedPacket
      | some resolution =>
          if bodyLength - 20 < capturedLength.toNat then throw .truncatedPacket
          else
            pure
              { scan with
                packets := scan.packets ++
                  [{ timestampNs := ticksToNanoseconds ticks resolution
                     offset := body + 20
                     capturedLength := capturedLength.toNat
                     originalLength := originalLength.toNat }] }

/-- A simple packet of `bodyLength` bytes at `body`: no timestamp, and interface
zero. -/
def readSimplePacket (data : Bytes) (body bodyLength : Nat) (scan : BlockScan) :
    Checked PcapError BlockScan :=
  if bodyLength < 4 ∨ scan.interfaceResolutions.isEmpty then throw .truncatedPacket
  else do
    let originalLength ← readU32 data body scan.swapped
    let capturedLength :=
      if scan.snaplen = 0 then originalLength else min originalLength scan.snaplen
    if capturedLength > pcapMaximumSnaplen then throw .oversizePacket
    else if bodyLength - 4 < capturedLength.toNat then throw .truncatedPacket
    else
      pure
        { scan with
          packets := scan.packets ++
            [{ offset := body + 4
               capturedLength := capturedLength.toNat
               originalLength := originalLength.toNat }] }

/-- What a block of a type does; types that carry no frame do nothing. -/
def readBody (data : Bytes) (blockType : UInt32) (body bodyLength : Nat) (scan : BlockScan) :
    Checked PcapError BlockScan :=
  if blockType = blockInterfaceDescription then readInterface data body bodyLength scan
  else if blockType = blockEnhancedPacket then readEnhancedPacket data body bodyLength scan
  else if blockType = blockSimplePacket then readSimplePacket data body bodyLength scan
  else pure scan

/-- A section header sets the byte order and forgets the interfaces. -/
def openSection (data : Bytes) (blockType : UInt32) (scan : BlockScan) :
    Checked PcapError BlockScan :=
  if blockType = blockSectionHeader then do
    let swapped ← readSectionOrder data scan.offset
    pure { scan with swapped, interfaceResolutions := [] }
  else pure scan

/-- One block. -/
def readBlock (data : Bytes) (scan : BlockScan) : Checked PcapError BlockScan :=
  if data.length - scan.offset < blockMinimumSize then throw .truncatedPacket
  else do
    let blockType ← readU32 data scan.offset scan.swapped
    let scan ← openSection data blockType scan
    let blockLength ← readU32 data (scan.offset + 4) scan.swapped
    if blockLength.toNat < blockMinimumSize ∨ blockLength.toNat % 4 ≠ 0 ∨
        data.length - scan.offset < blockLength.toNat then throw .truncatedPacket
    else do
      let scan ← readBody data blockType (scan.offset + 8) (blockLength.toNat - blockMinimumSize)
        scan
      let trailer ← readU32 data (scan.offset + blockLength.toNat - 4) scan.swapped
      if trailer ≠ blockLength then throw .truncatedPacket
      else pure { scan with offset := scan.offset + blockLength.toNat }

end Pcap

namespace PcapCapture

open Pcap

def fromPcapngBytes (data : Bytes) : Checked PcapError PcapCapture := do
  let scan ← Checked.loop (fun scan => scan.offset < data.length) (readBlock data)
    (data.length + 1) {}
  pure
    { bytes := data
      packets := scan.packets
      linkType := scan.linkType
      snaplen := if scan.snaplen = 0 then pcapMaximumSnaplen else scan.snaplen
      nanosecondResolution := scan.nanosecondResolution
      pcapng := true }

/-- The records of a classic capture, after its header. -/
def fromClassicBytes (data : Bytes) (swapped nanoseconds : Bool) :
    Checked PcapError PcapCapture := do
  let snaplen ← readU32 data 16 swapped
  let linkType ← readU32 data 20 swapped
  if linkType ≠ pcapLinktypeEthernet then throw .unsupportedLinkType
  else do
    let scan ← Checked.loop (fun scan => scan.offset < data.length)
      (readRecord data swapped nanoseconds) (data.length + 1) {}
    pure
      { bytes := data
        packets := scan.packets
        linkType
        snaplen
        nanosecondResolution := nanoseconds
        pcapng := false }

def fromBytes (data : Bytes) : Checked PcapError PcapCapture :=
  if data.length < 4 then throw .truncatedHeader
  else do
    let magic ← readU32 data 0 false
    if magic = blockSectionHeader then fromPcapngBytes data
    else if data.length < fileHeaderSize then throw .truncatedHeader
    else
      match magicOrder magic with
      | none => throw .unknownMagic
      | some (swapped, nanoseconds) => fromClassicBytes data swapped nanoseconds

end PcapCapture

/-! ## Writing -/

namespace Pcap

def appendU16 (buffer : Bytes) (value : UInt16) : Bytes :=
  buffer ++ [value.toUInt8, (value >>> 8).toUInt8]

def appendU32 (buffer : Bytes) (value : UInt32) : Bytes :=
  buffer ++ [value.toUInt8, (value >>> 8).toUInt8, (value >>> 16).toUInt8, (value >>> 24).toUInt8]

def appendU64 (buffer : Bytes) (value : UInt64) : Bytes :=
  appendU32 (appendU32 buffer value.toUInt32) (value >>> 32).toUInt32

/-- Zeros up to the next multiple of four. -/
def appendPadding (buffer : Bytes) (unpaddedLength : Nat) : Bytes :=
  if unpaddedLength % 4 ≠ 0 then buffer ++ List.replicate (4 - unpaddedLength % 4) 0 else buffer

/-- An option; a length past 16 bits wraps. -/
def appendOption (buffer : Bytes) (code : UInt16) (value : Bytes) : Bytes :=
  appendPadding (appendU16 (appendU16 buffer code) (.ofNat value.length) ++ value) value.length

def appendOptionEnd (buffer : Bytes) : Bytes := appendU16 (appendU16 buffer optionEnd) 0

/-- Patch the length of the block that starts at `blockStart`, and repeat it
behind the block. -/
def closeBlock (buffer : Bytes) (blockStart : Nat) : Bytes :=
  let totalLength := UInt32.ofNat (buffer.length - blockStart + 4)
  let patched :=
    (((buffer.set (blockStart + 4) totalLength.toUInt8).set (blockStart + 5)
      (totalLength >>> 8).toUInt8).set (blockStart + 6) (totalLength >>> 16).toUInt8).set
        (blockStart + 7) (totalLength >>> 24).toUInt8
  appendU32 patched totalLength

end Pcap

/-- A writer and what its file holds. -/
structure PcapNgWriter where
  stream : Bytes := []
  snaplen : UInt32 := pcapMaximumSnaplen
  writtenPackets : UInt64 := 0

namespace PcapNgWriter

open Pcap

/-- The section header and the description of the one interface. -/
def header (interfaceName : Bytes) (snaplen : UInt32) : Bytes :=
  let header := appendU32 [] blockSectionHeader
  let header := appendU32 header 0
  let header := appendU32 header byteOrderMagic
  let header := appendU16 header 1
  let header := appendU16 header 0
  let header := appendU64 header 0xffffffffffffffff
  let header := appendOption header optionUserApplication (bytes "WireLab")
  let header := appendOptionEnd header
  let header := closeBlock header 0
  let interfaceStart := header.length
  let header := appendU32 header blockInterfaceDescription
  let header := appendU32 header 0
  let header := appendU16 header pcapLinktypeEthernet.toUInt16
  let header := appendU16 header 0
  let header := appendU32 header snaplen
  let header := appendOption header optionInterfaceName interfaceName
  let header := appendOption header optionTimestampResolution [Pcap.nanosecondResolution]
  let header := appendOptionEnd header
  closeBlock header interfaceStart

/-- Open a file and write its header. The flags say whether the file opens and
whether it takes what is written. -/
def create (opens stores : Bool) (interfaceName : Bytes) (snaplen : UInt32) :
    Except PcapError PcapNgWriter :=
  if !opens then .error .fileWrite
  else if !stores then .error .fileWrite
  else .ok { stream := header interfaceName snaplen, snaplen }

/-- The block of a packet. -/
def packetBlock (timestampNs : UInt64) (frame : Bytes) (originalLength : Nat) (comment : Bytes) :
    Bytes :=
  let block := appendU32 [] blockEnhancedPacket
  let block := appendU32 block 0
  let block := appendU32 block 0
  let block := appendU32 block (timestampNs >>> 32).toUInt32
  let block := appendU32 block timestampNs.toUInt32
  let block := appendU32 block (.ofNat frame.length)
  let block := appendU32 block (.ofNat (max originalLength frame.length))
  let block := appendPadding (block ++ frame) frame.length
  let block :=
    if !comment.isEmpty then appendOptionEnd (appendOption block optionComment comment) else block
  closeBlock block 0

/-- Write one packet. -/
def write (stores : Bool) (writer : PcapNgWriter) (timestampNs : UInt64) (frame : Bytes)
    (originalLength : Nat) (comment : Bytes) : Except PcapError PcapNgWriter :=
  if frame.length > pcapMaximumSnaplen.toNat then .error .oversizePacket
  else if !stores then .error .fileWrite
  else .ok
    { writer with
      stream := writer.stream ++ packetBlock timestampNs frame originalLength comment
      writtenPackets := writer.writtenPackets + 1 }

end PcapNgWriter

end WireLab
