import WireLab.Base.JsonText
import WireLab.Model.PacketAnalysis

/-!
# Ethernet frames

`ethernet_frame.cpp`: the frame reader, and the reader of hardware addresses. The
numbers of an address are read by `std::stoi` in base 16, which follows the rules of
C's `strtol` (`stoi`); the addresses are written by `MacAddress.toString`.
-/

namespace WireLab

open Base Base.Json

/-! ## Numbers -/

def plusSign : UInt8 := 0x2B
def minusSign : UInt8 := 0x2D
def zeroDigit : UInt8 := 0x30

/-- `isspace`, in the locale of C. -/
def isWhiteSpace (c : UInt8) : Bool := c = 0x20 || (0x09 ≤ c && c ≤ 0x0D)

/-- Whether a character is a hexadecimal digit, in either case. -/
def isHexDigit (c : UInt8) : Bool := (hexValue c).isSome

/-- The number some hexadecimal digits spell. -/
def hexNumber (digits : Bytes) : Nat :=
  digits.foldl (fun value c => value * 16 + (hexValue c).getD 0) 0

/-- A sign, if there is one; the flag says whether it is a minus. -/
def readSign : Bytes → Bool × Bytes
  | [] => (false, [])
  | c :: text =>
      if c = minusSign then (true, text)
      else if c = plusSign then (false, text)
      else (false, c :: text)

/-- The text behind the prefix of a hexadecimal number, which is one only before a
digit. -/
def skipPrefix : Bytes → Bytes
  | zero :: x :: digit :: text =>
      if zero = zeroDigit ∧ (x = 0x78 ∨ x = 0x58) ∧ isHexDigit digit then digit :: text
      else zero :: x :: digit :: text
  | text => text

/-- `std::stoi` in base 16: white space, a sign and a prefix are passed over, and the
number ends at the first character that is no digit. `none` where it throws: there is
no digit, or the number is no `int`. -/
def stoi (text : Bytes) : Option Int :=
  let (negative, text) := readSign (text.dropWhile isWhiteSpace)
  let digits := (skipPrefix text).takeWhile isHexDigit
  if digits.isEmpty then none
  else
    let value : Int := if negative then -hexNumber digits else hexNumber digits
    if -2 ^ 31 ≤ value ∧ value < 2 ^ 31 then some value else none

/-! ## Hardware addresses -/

def dash : UInt8 := 0x2D

/-- Store one byte of an address. -/
def MacAddress.set (mac : MacAddress) (i : Nat) (byte : UInt8) : MacAddress where
  bytes := mac.bytes.set i byte
  size := by rw [List.length_set]; exact mac.size

/-- The byte of an address at `i`, behind its delimiter. -/
def MacAddress.readByte (str : Bytes) (delimiter : UInt8) (i : Nat) : Option UInt8 :=
  let pos := i * 3
  if i > 0 ∧ str.getD (pos - 1) 0 ≠ delimiter then none
  else (stoi ((str.drop pos).take 2)).map UInt8.ofInt

/-- Read an address; what cannot be read is the zero address. -/
def MacAddress.fromString (str : Bytes) : MacAddress :=
  if str.length ≠ 17 then .zero
  else
    let delimiter := str.getD 2 0
    if delimiter ≠ colon ∧ delimiter ≠ dash then .zero
    else
      ((List.range macAddressSize).foldlM
        (fun mac i => (readByte str delimiter i).map (mac.set i)) .zero).getD .zero

/-! ## Frames -/

inductive FrameParseError
  | tooShort
  deriving DecidableEq, Repr

structure EthernetFrame where
  dstMac : MacAddress
  srcMac : MacAddress
  ethertype : UInt16 := 0
  payload : Bytes := []
  deriving DecidableEq

/-- Read a frame; one without a whole header is refused. -/
def EthernetFrame.tryParse (data : Bytes) : Except FrameParseError EthernetFrame :=
  if hsize : data.length < ethernetHeaderSize then .error .tooShort
  else
    have hheader : 14 ≤ data.length := Nat.le_of_not_lt hsize
    .ok
      { dstMac :=
          { bytes := data.take macAddressSize
            size := by simp only [List.length_take, macAddressSize]; omega }
        srcMac :=
          { bytes := (data.drop macAddressSize).take macAddressSize
            size := by simp only [List.length_take, List.length_drop, macAddressSize]; omega }
        ethertype := (data.getD 12 0).toUInt16 <<< 8 ||| (data.getD 13 0).toUInt16
        payload := data.drop ethernetHeaderSize }

end WireLab
