import Mathlib.Data.List.Basic
import Mathlib.Logic.Function.Iterate

/-!
# Balboa envelopes and incremental framing

Model of `protocol/crc.py` and `protocol/frames.py`. A wire is
`7E L ADDR FAM TYPE PAYLOAD… CRC 7E` with `L` the payload length plus 5; the
checksum covers `L` through the payload.

`Frame` carries the constructor's checks in its types: the header fields are
octets and the payload has at most 120 bytes. The parser's `while` loop is
`FrameParser.scan`; each of its iterations that does not leave the loop removes
at least one byte, so the buffer length bounds the number of iterations.
-/

namespace BalboaRs485

/-- Python's `bytes`. -/
abbrev Bytes := List UInt8

/-! ## Checksum -/

/-- One pass of the inner loop of `crc8` (`protocol/crc.py` line 13). -/
def crcShift (register : UInt8) : UInt8 :=
  (register <<< 1) ^^^ (if register &&& 0x80 ≠ 0 then 0x07 else 0)

/-- `register ^= octet`, then eight shifts (`protocol/crc.py` lines 11–13). -/
def crcOctet (register octet : UInt8) : UInt8 := crcShift^[8] (register ^^^ octet)

/-- `crc8` (`protocol/crc.py` lines 7–14). -/
def crc8 (data : Bytes) : UInt8 := data.foldl crcOctet 0x02 ^^^ 0x02

/-! ## Envelopes -/

/-- `Frame` (`protocol/frames.py` lines 13–28). -/
structure Frame where
  address : UInt8
  family : UInt8
  messageType : UInt8
  payload : Bytes
  short : payload.length ≤ 120
deriving DecidableEq

/-- A frame with an empty payload, `Frame(address, family, message_type)`. -/
def Frame.bare (address family messageType : UInt8) : Frame :=
  ⟨address, family, messageType, [], by simp⟩

/-- A frame sent to another address, `replace(frame, address=address)`. -/
def Frame.readdress (frame : Frame) (address : UInt8) : Frame := { frame with address }

/-- The bytes the checksum covers. -/
def Frame.body (frame : Frame) : Bytes :=
  UInt8.ofNat (frame.payload.length + 5) :: frame.address :: frame.family :: frame.messageType ::
    frame.payload

/-- `encode_frame` (`protocol/frames.py` lines 31–35). -/
def encodeFrame (frame : Frame) : Bytes := 0x7E :: frame.body ++ [crc8 frame.body, 0x7E]

/-! ## Parser -/

/-- `FrameCounters` (`protocol/frames.py` lines 93–101). -/
structure FrameCounters where
  rxFrames : ℕ := 0
  crcErrors : ℕ := 0
  invalidLength : ℕ := 0
  invalidEnd : ℕ := 0
  discardedBytes : ℕ := 0
deriving DecidableEq

/-- `FrameParser`: the unconsumed bytes and the counters. -/
structure FrameParser where
  buffer : Bytes := []
  counters : FrameCounters := {}

namespace FrameParser

/-- `_discard(count)` on the counters. -/
def discard (counters : FrameCounters) (count : ℕ) : FrameCounters :=
  { counters with discardedBytes := counters.discardedBytes + count }

/-- The window at the start of a buffer that begins with a delimiter
    (`protocol/frames.py` lines 65–87). -/
inductive Window where
  /-- Fewer than `L + 2` bytes are there yet. -/
  | incomplete
  | badLength
  | badEnd
  | badCrc
  /-- A complete frame and the bytes behind it. -/
  | accepted (frame : Frame) (rest : Bytes)

/-- The checks on a window of `length + 2` bytes, in the source's order. -/
def window (buffer : Bytes) : Window :=
  match buffer with
  | d :: l :: _ =>
    let length := l.toNat
    if h : 5 ≤ length ∧ length ≤ 125 then
      if buffer.length < length + 2 then .incomplete
      else
        let wire := buffer.take (length + 2)
        if wire.getLastD d ≠ 0x7E then .badEnd
        else if crc8 ((wire.drop 1).take (length - 1)) ≠ wire.getD length 0 then .badCrc
        else
          .accepted ⟨wire.getD 2 0, wire.getD 3 0, wire.getD 4 0, (wire.drop 5).take (length - 5),
            Nat.le_trans (List.length_take_le _ _) (by omega)⟩ (buffer.drop (length + 2))
    else .badLength
  | _ => .incomplete

/-- The `while` loop of `feed` (`protocol/frames.py` lines 58–87). -/
def scan : ℕ → Bytes → FrameCounters → List Frame × FrameParser
  | 0, buffer, counters => ([], ⟨buffer, counters⟩)
  | fuel + 1, buffer, counters =>
    match buffer.dropWhile (· ≠ 0x7E) with
    | [] => ([], ⟨[], discard counters buffer.length⟩)
    | candidate =>
      let counters := discard counters (buffer.length - candidate.length)
      match window candidate with
      | .incomplete => ([], ⟨candidate, counters⟩)
      | .badLength =>
        scan fuel (candidate.drop 1)
          (discard { counters with invalidLength := counters.invalidLength + 1 } 1)
      | .badEnd =>
        scan fuel (candidate.drop 1)
          (discard { counters with invalidEnd := counters.invalidEnd + 1 } 1)
      | .badCrc =>
        scan fuel (candidate.drop 1)
          (discard { counters with crcErrors := counters.crcErrors + 1 } 1)
      | .accepted frame rest =>
        let (frames, parser) :=
          scan fuel rest { counters with rxFrames := counters.rxFrames + 1 }
        (frame :: frames, parser)

/-- `FrameParser.feed` (`protocol/frames.py` lines 54–88): the completed frames
    and the parser with the unfinished tail. -/
def feed (parser : FrameParser) (chunk : Bytes) : List Frame × FrameParser :=
  let buffer := parser.buffer ++ chunk
  scan buffer.length buffer parser.counters

/-- `FrameParser.reset` (`protocol/frames.py` lines 50–52). -/
def reset (parser : FrameParser) : FrameParser :=
  ⟨[], discard parser.counters parser.buffer.length⟩

/-- `buffered_bytes`. -/
def bufferedBytes (parser : FrameParser) : ℕ := parser.buffer.length

end FrameParser

end BalboaRs485
