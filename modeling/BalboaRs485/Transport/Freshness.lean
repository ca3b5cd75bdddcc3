import BalboaRs485.Protocol.Stream
import BalboaRs485.Transport.Slots

/-!
# Fresh batches

`_session` concludes from three facts that nothing has followed the last frame of a
batch: the batch has a frame, the parser keeps no byte, and the last 127 bytes end with
the wire of that frame.

* `Leftmost.ends`: where a scan leaves nothing behind a delimiter, it ends with a window.
* `Hearing`, `hearing`: what a connection has received, and what the parser has made of it.
* `batch_fresh_exact`: the three facts hold exactly where the last window of the stream ends
  with its last byte.
-/

namespace BalboaRs485

namespace FrameParser

variable {stream : Bytes} {i j : ℕ} {windows : List (ℕ × Frame)}

theorem WindowAt.le_length {frame : Frame} (h : WindowAt stream i frame) :
    i + (frame.payload.length + 7) ≤ stream.length := by
  obtain ⟨rest, hdrop⟩ := windowAt_iff.mp h
  have hlen := congrArg List.length hdrop
  rw [List.length_drop, List.length_append, length_encodeFrame] at hlen
  omega

/-- Behind the end of the stream there is no window. -/
theorem Leftmost.finished (h : Leftmost stream i windows j) (hi : stream.length ≤ i) :
    windows = [] :=
  (h.unique (.finish hi)).1

/-- **A scan that leaves nothing and passes a final delimiter ends with a window**: a lone
    delimiter waits, and what is skipped or rejected is not the last byte. -/
theorem Leftmost.ends (h : Leftmost stream i windows j) (hj : j = stream.length)
    (hi : i < stream.length) (hlast : stream.getLast? = some 0x7E) :
    ∃ earlier p frame, windows = earlier ++ [(p, frame)] ∧
      p + (encodeFrame frame).length = stream.length := by
  induction h with
  | finish hend => omega
  | incomplete hinc => omega
  | @accept i j frame windows hwin hnext ih =>
    rcases Nat.lt_or_ge (i + (frame.payload.length + 7)) stream.length with hlt | hge
    · obtain ⟨earlier, p, last, rfl, hp⟩ := ih hj hlt
      exact ⟨(i, frame) :: earlier, p, last, rfl, hp⟩
    · have hle := hwin.le_length
      rw [hnext.finished hge]
      refine ⟨[], i, frame, rfl, ?_⟩
      rw [length_encodeFrame]
      omega
  | @advance i j windows hi' hinc hwin hnext ih =>
    rcases Nat.lt_or_ge (i + 1) stream.length with hlt | hge
    · exact ih hj hlt
    · -- the last byte is a delimiter, and would wait for a length
      have hlone : stream.drop i = [0x7E] := by
        rw [List.getLast?_eq_getElem?] at hlast
        obtain ⟨hlt, hget⟩ := List.getElem?_eq_some_iff.mp hlast
        have hi₀ : i = stream.length - 1 := by omega
        rw [hi₀, List.drop_eq_getElem_cons hlt, hget, List.drop_eq_nil_of_le (by omega)]
      exact absurd (Or.inl hlone) hinc

end FrameParser

namespace Connection

open FrameParser

variable {cfg : ConnectionConfig} {nonce : Nonce} {l : List Op} {n : ℕ} {c : Connection}
  {i : Iteration}

/-! ## The tail of the wire -/

theorem lastBytes_append (data chunk : Bytes) (count : ℕ) :
    lastBytes (lastBytes data count ++ chunk) count = lastBytes (data ++ chunk) count := by
  have hdrop : lastBytes data count ++ chunk = (data ++ chunk).drop (data.length - count) :=
    (List.drop_append_of_le_length (Nat.sub_le _ _)).symm
  rw [hdrop, lastBytes, lastBytes, List.drop_drop]
  congr 1
  simp only [List.length_drop, List.length_append]
  omega

/-- A short wire at the end of the data is at the end of the last bytes. -/
theorem suffix_lastBytes {wire data : Bytes} {count : ℕ} (hlen : wire.length ≤ count) :
    wire <:+ lastBytes data count ↔ wire <:+ data := by
  have hsuffix : lastBytes data count <:+ data := List.drop_suffix _ _
  constructor
  · exact fun h => h.trans hsuffix
  · intro h
    rcases Nat.le_total data.length count with hle | hle
    · rw [lastBytes, Nat.sub_eq_zero_of_le hle, List.drop_zero]
      exact h
    · refine List.suffix_of_suffix_length_le h hsuffix ?_
      rw [lastBytes, List.length_drop]
      omega

/-! ## What a connection has received -/

/-- The bytes an iteration reads. -/
def bytes (i : Iteration) : Bytes :=
  match i.read with
  | .data chunk => chunk
  | _ => []

/-- The bytes of the open socket, and the frames the parser has completed from them. -/
structure Heard where
  stream : Bytes := []
  frames : List Frame := []

/-- What an operation adds: a socket that opens starts over. -/
def Heard.step (h : Heard) (c : Connection) : Op → Heard
  | .connect _ _ => if c.phase = .closed then {} else h
  | .iterate i =>
    if c.phase = .opened then ⟨h.stream ++ bytes i, h.frames ++ c.batch i⟩ else h

/-- What has been received on the current socket before operation `n`. -/
def heardAt (cfg : ConnectionConfig) (nonce : Nonce) (l : List Op) : ℕ → Heard
  | 0 => {}
  | n + 1 =>
    match l[n]? with
    | some op => (heardAt cfg nonce l n).step (connectionAt cfg nonce l n) op
    | none => heardAt cfg nonce l n

/-- An open connection holds the rest of a scan of what it has received, and its end; any
    other one has an empty parser. -/
structure Hearing (c : Connection) (h : Heard) : Prop where
  buffer : c.phase = .opened → c.parser.buffer = (frameScanner.run h.stream).2
  frames : c.phase = .opened →
    h.frames = (frameScanner.run h.stream).1.filterMap fun piece => piece.2.frame?
  tail : c.phase = .opened → c.wireTail = lastBytes h.stream 127
  reset : c.phase ≠ .opened → c.parser.buffer = []

theorem Hearing.of_shut {h : Heard} (hshut : c.phase ≠ .opened) (hbuffer : c.parser.buffer = []) :
    Hearing c h :=
  ⟨fun h => absurd h hshut, fun h => absurd h hshut, fun h => absurd h hshut, fun _ => hbuffer⟩

theorem receiveChunk_wireTail (c : Connection) (now : ℚ) (chunk : Bytes) :
    (c.receiveChunk now chunk).1.wireTail = lastBytes (c.wireTail ++ chunk) 127 := by
  simp only [receiveChunk]

/-- A read continues the scan. -/
theorem Hearing.read {h : Heard} (hc : Hearing c h) (hopen : c.phase = .opened) (i : Iteration) :
    (c.received i).parser.buffer = (frameScanner.run (h.stream ++ bytes i)).2 ∧
      h.frames ++ c.batch i = (frameScanner.run (h.stream ++ bytes i)).1.filterMap
        (fun piece => piece.2.frame?) ∧
      (c.received i).wireTail = lastBytes (h.stream ++ bytes i) 127 := by
  have hbuffer := hc.buffer hopen
  have hnone : bytes i = [] → c.received i = c ∧ c.batch i = [] := by
    unfold bytes received batch
    cases i.read with
    | data chunk =>
      rintro rfl
      exact ⟨if_pos rfl, if_pos rfl⟩
    | _ => exact fun _ => ⟨rfl, rfl⟩
  by_cases hchunk : bytes i = []
  · obtain ⟨hr, hb⟩ := hnone hchunk
    rw [hr, hb, hchunk, List.append_nil, List.append_nil]
    exact ⟨hbuffer, hc.frames hopen, hc.tail hopen⟩
  · have hr : c.received i = (c.receiveChunk i.now (bytes i)).1 ∧
        c.batch i = (c.receiveChunk i.now (bytes i)).2 := by
      revert hchunk
      unfold bytes received batch
      cases i.read with
      | data chunk => exact fun hchunk => ⟨if_neg hchunk, if_neg hchunk⟩
      | _ => exact fun hchunk => absurd rfl hchunk
    have hfeed := feed_eq c.parser (bytes i)
    rw [hbuffer] at hfeed
    rw [hr.1, hr.2, Scanner.run_append]
    refine ⟨?_, ?_, ?_⟩
    · show (c.parser.feed (bytes i)).2.buffer = _
      rw [hfeed]
      rfl
    · rw [List.filterMap_append, ← hc.frames hopen]
      show _ ++ (c.parser.feed (bytes i)).1 = _
      rw [hfeed]
      rfl
    · rw [receiveChunk_wireTail, hc.tail hopen, lastBytes_append]

/-- An exception resets the parser; otherwise the iteration keeps what it has read. -/
theorem iterate_bytes (hmode : c.policy.requested = cfg.requestedMode) (hopen : c.phase = .opened) :
    ((iterate cfg i c).1.phase ≠ .opened ∧ (iterate cfg i c).1.parser.buffer = []) ∨
      ((iterate cfg i c).1.phase = .opened ∧ (iterate cfg i c).1.parser = (c.received i).parser ∧
        (iterate cfg i c).1.wireTail = (c.received i).wireTail) := by
  have hrun := Proc.wp_run (iteration_writes (i := i) hmode)
  unfold iterate
  rcases hr : iteration cfg i c with ⟨d, effects, e | a⟩ <;> rw [hr] at hrun
  · refine Or.inl ⟨fun hphase : ConnectionError.phase e = .opened => ?_, rfl⟩
    cases e <;> cases hphase
  · exact Or.inr ⟨hrun.phase.trans hopen, hrun.parser, hrun.wireTail⟩

theorem Hearing.step {h : Heard} (hc : Hearing c h) (hmode : c.policy.requested = cfg.requestedMode)
    (op : Op) : Hearing (Connection.step cfg c op).1 (h.step c op) := by
  cases op with
  | connect nonce' opening =>
    simp only [Connection.step, Heard.step]
    split
    · next hclosed =>
      have hbuffer := hc.reset (by rw [hclosed]; decide)
      unfold connect
      split
      · exact .of_shut (by rw [hclosed]; decide) hbuffer
      · cases opening with
        | opened now => exact ⟨fun _ => hbuffer, fun _ => rfl, fun _ => rfl, fun h => absurd rfl h⟩
        | failed => exact .of_shut (show Phase.closed ≠ .opened by decide) rfl
        | cancelled => exact .of_shut (show Phase.stopped ≠ .opened by decide) rfl
    · exact hc
  | iterate i =>
    simp only [Connection.step, Heard.step]
    split
    · next hopen =>
      obtain ⟨hread, hframes, htail⟩ := hc.read hopen i
      rcases iterate_bytes (i := i) hmode hopen with ⟨hphase, hreset⟩ | ⟨hphase, hparser, hwire⟩
      · exact .of_shut hphase hreset
      · exact ⟨fun _ => hparser ▸ hread, fun _ => hframes, fun _ => hwire.trans htail,
          fun h => absurd hphase h⟩
    · exact hc

theorem hearing (cfg : ConnectionConfig) (nonce : Nonce) (l : List Op) (n : ℕ) :
    Hearing (connectionAt cfg nonce l n) (heardAt cfg nonce l n) := by
  induction n with
  | zero => exact .of_shut (show Phase.closed ≠ .opened by decide) rfl
  | succ n ih =>
    unfold heardAt
    cases hop : l[n]? with
    | none =>
      rw [connectionAt_succ_none hop]
      exact ih
    | some op =>
      rw [connectionAt_succ cfg nonce hop]
      exact ih.step (requested_eq cfg nonce l n) op

/-! ## Freshness -/

/-- The batch is not empty, and the last frame that was ever completed on the stream is the
    one whose final delimiter is the last byte: `windows` are the windows of the leftmost scan
    before it, `p` is its position. -/
def EndsStream (h : Heard) (batch : List Frame) : Prop :=
  batch ≠ [] ∧ ∃ windows p frame,
    Leftmost h.stream 0 (windows ++ [(p, frame)]) h.stream.length ∧
      h.frames = windows.map Prod.snd ++ [frame] ∧
      p + (encodeFrame frame).length = h.stream.length

/-- **`batch_fresh` is exact**: after every read of an open connection it says whether the
    batch has a frame and not a byte has followed the last one. -/
theorem batch_fresh_exact (cfg : ConnectionConfig) (nonce : Nonce) (l : List Op) (n : ℕ)
    (i : Iteration) (hopen : (connectionAt cfg nonce l n).phase = .opened) :
    BatchFresh (connectionAt cfg nonce l n) i ↔
      EndsStream ((heardAt cfg nonce l n).step (connectionAt cfg nonce l n) (.iterate i))
        ((connectionAt cfg nonce l n).batch i) := by
  have hc := hearing cfg nonce l n
  obtain ⟨hbuffer, hframes, htail⟩ := hc.read hopen i
  have hh : (heardAt cfg nonce l n).step (connectionAt cfg nonce l n) (.iterate i) =
      ⟨(heardAt cfg nonce l n).stream ++ bytes i,
        (heardAt cfg nonce l n).frames ++ (connectionAt cfg nonce l n).batch i⟩ := if_pos hopen
  rw [hh]
  generalize connectionAt cfg nonce l n = c at *
  generalize (heardAt cfg nonce l n).stream ++ bytes i = stream at *
  generalize (heardAt cfg nonce l n).frames = earlier at *
  obtain ⟨windows, j, hleft, hj, hwindows, hrest⟩ := leftmost_run (Nat.zero_le stream.length)
  rw [List.drop_zero] at hwindows hrest
  rw [hwindows] at hframes
  rw [hrest] at hbuffer
  unfold BatchFresh batchFresh FrameParser.bufferedBytes
  constructor
  · intro hfresh
    split at hfresh
    · cases hfresh
    next frame hlast =>
    simp only [Bool.decide_and, Bool.and_eq_true, decide_eq_true_eq] at hfresh
    obtain ⟨hempty, hwire⟩ := hfresh
    have hshort := frame.short
    rw [htail, suffix_lastBytes (by rw [length_encodeFrame]; omega)] at hwire
    -- nothing is left, and the stream ends with a delimiter
    have hdone : j = stream.length := by
      rw [hbuffer, List.length_drop] at hempty
      omega
    obtain ⟨before, rfl⟩ := hwire
    have hdelimiter : (before ++ encodeFrame frame).getLast? = some 0x7E := by
      have hwire : encodeFrame frame = 0x7E :: frame.body ++ [crc8 frame.body] ++ [0x7E] := by
        simp [encodeFrame]
      rw [hwire, ← List.append_assoc, List.getLast?_concat]
    obtain ⟨first, p, last, rfl, hp⟩ := hleft.ends hdone
      (by rw [List.length_append, length_encodeFrame]; omega) hdelimiter
    rw [hdone] at hleft
    have hne : c.batch i ≠ [] := by
      intro hnil
      rw [hnil] at hlast
      cases hlast
    refine ⟨hne, first, p, last, hleft, ?_, hp⟩
    rw [hframes, List.map_append]
    rfl
  · rintro ⟨hne, first, p, frame, hscan, hall, hp⟩
    obtain ⟨rfl, rfl⟩ := hscan.unique hleft
    have hlast : (c.batch i).getLast? = some frame := by
      have happend := congrArg List.getLast? hall
      rw [List.getLast?_append_of_ne_nil _ hne] at happend
      simpa using happend
    have hwin := hscan.windowAt (List.mem_append_right _ (List.mem_singleton_self _))
    obtain ⟨rest, hdrop⟩ := windowAt_iff.mp hwin
    have hlen := congrArg List.length hdrop
    rw [List.length_drop, List.length_append] at hlen
    have hnil : rest = [] := List.length_eq_zero_iff.mp (by omega)
    have hsuffix : encodeFrame frame <:+ stream := by
      rw [hnil, List.append_nil] at hdrop
      rw [← hdrop]
      exact List.drop_suffix _ _
    have hshort := frame.short
    rw [hlast]
    simp only [Bool.decide_and, Bool.and_eq_true, decide_eq_true_eq]
    refine ⟨?_, ?_⟩
    · rw [hbuffer, List.drop_length]
      rfl
    · rw [htail, suffix_lastBytes (by rw [length_encodeFrame]; omega)]
      exact hsuffix

/-- A socket opens, and the parser waits for its first bytes. -/
def openedRun : List Op := [.connect ⟨0xEE, 0x14⟩ (.opened 0)]

/-- An iteration that reads `chunk` and has nothing to send. -/
def readIteration (chunk : Bytes) : Iteration where
  read := .data chunk
  now := 1
  clock _ := 1
  drain _ := .done
  busy := false
  recovery := false
  outbound := none

def classicConfig : ConnectionConfig where
  requestedMode := .classicRs485
  sha256 := id

/-- A lone delimiter, then a frame. -/
theorem batch_fresh_sample :
    EndsStream
      ((heardAt classicConfig ⟨0xEE, 0x14⟩ openedRun 1).step
        (connectionAt classicConfig ⟨0xEE, 0x14⟩ openedRun 1)
        (.iterate (readIteration (0x7E :: encodeFrame (.cts 10)))))
      ((connectionAt classicConfig ⟨0xEE, 0x14⟩ openedRun 1).batch
        (readIteration (0x7E :: encodeFrame (.cts 10)))) :=
  (batch_fresh_exact classicConfig ⟨0xEE, 0x14⟩ openedRun 1
    (readIteration (0x7E :: encodeFrame (.cts 10))) rfl).mp
    (show (Connection.batchFresh _ _) = true by decide +kernel)

end Connection

end BalboaRs485
