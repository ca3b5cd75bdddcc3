import BalboaRs485.Protocol.Framing
import Mathlib.Algebra.Ring.Nat

/-!
# Frames in a byte stream

What `FrameParser` makes of a whole stream, in whatever chunks it arrives:

* `leftmost_run`: it finds the windows of the leftmost scan, and the scan is unique
  (`Leftmost.unique`).
* `Leftmost.finds`: a wire in the stream is found unless it overlaps an earlier window or
  waits behind an incomplete candidate.
* `framing`: chunks do not matter, the frames are those of the leftmost scan, and the
  residual is short.
* `codec`: round trip of lists of frames, and conservation of bytes across feeds and resets.
-/

namespace BalboaRs485

namespace FrameParser

/-! ## The leftmost scan -/

/-- A complete window at position `i`: `7E L ADDR FAM TYPE PAYLOAD CRC 7E` with a length
    in range, the right checksum and the final delimiter. -/
def WindowAt (stream : Bytes) (i : ℕ) (frame : Frame) : Prop :=
  ∃ (l c : UInt8) (rest : Bytes),
    stream.drop i = 0x7E :: l :: frame.address :: frame.family :: frame.messageType ::
      (frame.payload ++ c :: 0x7E :: rest) ∧
    5 ≤ l.toNat ∧ l.toNat ≤ 125 ∧ l.toNat = frame.payload.length + 5 ∧
    c = crc8 (l :: frame.address :: frame.family :: frame.messageType :: frame.payload)

/-- A candidate at position `i` whose window is not complete yet. -/
def IncompleteAt (stream : Bytes) (i : ℕ) : Prop :=
  stream.drop i = [0x7E] ∨
    ∃ (l : UInt8) (t : Bytes), stream.drop i = 0x7E :: l :: t ∧ 5 ≤ l.toNat ∧ l.toNat ≤ 125 ∧
      (stream.drop i).length < l.toNat + 2

/-- `Leftmost stream i windows j`: the leftmost scan of `stream` from position `i` finds
    `windows`, each with its position, and stops at position `j`. -/
inductive Leftmost (stream : Bytes) : ℕ → List (ℕ × Frame) → ℕ → Prop where
  /-- The stream ends. -/
  | finish {i : ℕ} (h : stream.length ≤ i) : Leftmost stream i [] i
  /-- The first position whose window is still incomplete. -/
  | incomplete {i : ℕ} (h : IncompleteAt stream i) : Leftmost stream i [] i
  /-- Accept a complete window and jump past it. -/
  | accept {i j : ℕ} {frame : Frame} {windows : List (ℕ × Frame)} (h : WindowAt stream i frame)
      (hnext : Leftmost stream (i + (frame.payload.length + 7)) windows j) :
      Leftmost stream i ((i, frame) :: windows) j
  /-- Otherwise advance one byte. -/
  | advance {i j : ℕ} {windows : List (ℕ × Frame)} (hi : i < stream.length)
      (hinc : ¬ IncompleteAt stream i) (hwin : ∀ frame, ¬ WindowAt stream i frame)
      (hnext : Leftmost stream (i + 1) windows j) : Leftmost stream i windows j

variable {stream : Bytes} {i : ℕ}

/-- A window is the wire of its frame. -/
theorem windowAt_iff {frame : Frame} :
    WindowAt stream i frame ↔ ∃ rest, stream.drop i = encodeFrame frame ++ rest := by
  constructor
  · rintro ⟨l, c, rest, hdrop, -, -, hl, hc⟩
    refine ⟨rest, ?_⟩
    have hlen : UInt8.ofNat (frame.payload.length + 5) = l := by
      rw [← hl, UInt8.ofNat_toNat]
    rw [hdrop, hc, encodeFrame_append]
    simp only [Frame.body, hlen]
  · rintro ⟨rest, hdrop⟩
    have hshort := frame.short
    have hl := toNat_length frame
    rw [encodeFrame_append] at hdrop
    exact ⟨_, _, rest, hdrop, by omega, by omega, hl, rfl⟩

theorem scanStep_encodeFrame (frame : Frame) (rest : Bytes) :
    scanStep (encodeFrame frame ++ rest) = some (.frame frame, (encodeFrame frame).length) := by
  have hcons : ∃ t, encodeFrame frame ++ rest = 0x7E :: t := ⟨_, encodeFrame_append frame rest⟩
  obtain ⟨t, ht⟩ := hcons
  have hw := window_encodeFrame frame rest
  rw [ht] at hw
  rw [ht, scanStep_window hw]
  rfl

/-- At a window the parser accepts its frame. -/
theorem WindowAt.scanStep {frame : Frame} (h : WindowAt stream i frame) :
    scanStep (stream.drop i) = some (.frame frame, frame.payload.length + 7) := by
  obtain ⟨rest, hdrop⟩ := windowAt_iff.mp h
  rw [hdrop, scanStep_encodeFrame, length_encodeFrame]

/-- The parser waits exactly at an incomplete window, or at the end. -/
theorem scanStep_eq_none :
    scanStep (stream.drop i) = none ↔ stream.length ≤ i ∨ IncompleteAt stream i := by
  constructor
  · intro h
    match hd : stream.drop i with
    | [] => exact Or.inl (List.drop_eq_nil_iff.mp hd)
    | x :: t =>
      right
      rw [hd] at h
      have hx : x = 0x7E := by
        by_contra hx
        rw [scanStep_skip t hx] at h
        cases h
      subst hx
      rw [scanStep_window rfl] at h
      have hcase := candidate t
      unfold IncompleteAt
      rw [hd]
      generalize window (0x7E :: t) = w at h hcase
      generalize 0x7E :: t = b at hcase
      cases hcase with
      | lone => exact Or.inl rfl
      | badLength => cases h
      | @short l t hl hs => exact Or.inr ⟨l, t, rfl, hl.1, hl.2, hs⟩
      | complete =>
        split at h
        · cases h
        · split at h
          · cases h
          · cases h
  · rintro (h | h)
    · rw [List.drop_eq_nil_of_le h]
      rfl
    · rcases h with hd | ⟨l, t, hd, hlo, hhi, hs⟩
      · rw [hd, scanStep_window (w := .incomplete) rfl]
        rfl
      · rw [hd] at hs ⊢
        rw [scanStep_window (window_short ⟨hlo, hhi⟩ hs)]
        rfl

/-- **The parser finds the windows of the leftmost scan**, and keeps what it leaves. -/
theorem leftmost_run (h : i ≤ stream.length) :
    ∃ windows j, Leftmost stream i windows j ∧ j ≤ stream.length ∧
      (frameScanner.run (stream.drop i)).1.filterMap (·.2.frame?) = windows.map Prod.snd ∧
      (frameScanner.run (stream.drop i)).2 = stream.drop j := by
  generalize hb : stream.drop i = b
  induction b using Scanner.run_induction (S := frameScanner) generalizing i with
  | hwait b hs =>
    rw [Scanner.run_of_none hs]
    refine ⟨[], i, ?_, h, rfl, hb.symm⟩
    rw [← hb] at hs
    rcases scanStep_eq_none.mp hs with hend | hinc
    · exact .finish hend
    · exact .incomplete hinc
  | hstep b e k hs ih =>
    rw [Scanner.run_of_some hs]
    have hwait : ¬ (stream.length ≤ i ∨ IncompleteAt stream i) := by
      intro hwait
      have hnone : frameScanner.step b = none := by
        rw [← hb]
        exact scanStep_eq_none.mpr hwait
      rw [hs] at hnone
      cases hnone
    have hle : i + k ≤ stream.length := by
      have hk := (frameScanner.consumes hs).2
      rw [← hb, List.length_drop] at hk
      omega
    have hdrop : stream.drop (i + k) = b.drop k := by
      rw [← hb, List.drop_drop]
    obtain ⟨windows, j, hleft, hj, hframes, hrest⟩ := ih hle hdrop
    rcases scanStep_some hs with ⟨hnone, rfl, -⟩ | ⟨frame, rest, rfl, rfl, hwire⟩
    · refine ⟨windows, j, .advance (by omega) (fun hinc => hwait (Or.inr hinc)) ?_ hleft, hj, ?_,
        hrest⟩
      · intro frame hwin
        have hframe := hwin.scanStep
        rw [hb] at hframe
        rw [show FrameParser.scanStep b = _ from hs] at hframe
        cases hframe
      · simp only [List.filterMap_cons, hnone]
        exact hframes
    · rw [length_encodeFrame] at hleft
      refine ⟨(i, frame) :: windows, j, .accept (windowAt_iff.mpr ⟨rest, hb.trans hwire⟩) hleft, hj,
        ?_, hrest⟩
      simp only [List.filterMap_cons, List.map_cons]
      exact congrArg (List.cons frame) hframes

theorem WindowAt.unique {frame frame' : Frame} (h : WindowAt stream i frame)
    (h' : WindowAt stream i frame') : frame = frame' := by
  have heq := h.scanStep
  rw [h'.scanStep] at heq
  cases heq
  rfl

/-- A window is complete, and not at the end of the stream. -/
theorem WindowAt.not_waiting {frame : Frame} (h : WindowAt stream i frame) :
    ¬ (stream.length ≤ i ∨ IncompleteAt stream i) := by
  intro hwait
  have heq := h.scanStep
  rw [scanStep_eq_none.mpr hwait] at heq
  cases heq

/-- The scan takes only complete windows. -/
theorem Leftmost.windowAt {j p : ℕ} {windows : List (ℕ × Frame)} {frame : Frame}
    (h : Leftmost stream i windows j) (hmem : (p, frame) ∈ windows) : WindowAt stream p frame := by
  induction h with
  | finish => cases hmem
  | incomplete => cases hmem
  | accept hwin hnext ih =>
    rcases List.mem_cons.mp hmem with heq | hmem
    · cases heq
      exact hwin
    · exact ih hmem
  | advance _ _ _ _ ih => exact ih hmem

/-- **The leftmost scan is unique.** -/
theorem Leftmost.unique {j j' : ℕ} {windows windows' : List (ℕ × Frame)}
    (h : Leftmost stream i windows j) (h' : Leftmost stream i windows' j') :
    windows = windows' ∧ j = j' := by
  induction h generalizing windows' j' with
  | finish hend =>
    cases h' with
    | finish => exact ⟨rfl, rfl⟩
    | incomplete => exact ⟨rfl, rfl⟩
    | accept hwin => exact absurd (Or.inl hend) hwin.not_waiting
    | advance hi => omega
  | incomplete hinc =>
    cases h' with
    | finish => exact ⟨rfl, rfl⟩
    | incomplete => exact ⟨rfl, rfl⟩
    | accept hwin => exact absurd (Or.inr hinc) hwin.not_waiting
    | advance hi hinc' => exact absurd hinc hinc'
  | accept hwin hnext ih =>
    cases h' with
    | finish hend => exact absurd (Or.inl hend) hwin.not_waiting
    | incomplete hinc => exact absurd (Or.inr hinc) hwin.not_waiting
    | accept hwin' hnext' =>
      obtain rfl := hwin.unique hwin'
      obtain ⟨rfl, rfl⟩ := ih hnext'
      exact ⟨rfl, rfl⟩
    | advance hi hinc hwin' => exact absurd hwin (hwin' _)
  | advance hi hinc hwin hnext ih =>
    cases h' with
    | finish hend => omega
    | incomplete hinc' => exact absurd hinc' hinc
    | accept hwin' => exact absurd hwin' (hwin _)
    | advance _ _ _ hnext' => exact ih hnext'

/-- **A wire in the stream is found**, unless it begins inside an earlier window or behind the
    incomplete candidate where the scan stopped. -/
theorem Leftmost.finds {j p : ℕ} {windows : List (ℕ × Frame)} {frame : Frame}
    (h : Leftmost stream i windows j) (hp : i ≤ p) (hwin : WindowAt stream p frame) :
    (p, frame) ∈ windows ∨
      (∃ k other, (k, other) ∈ windows ∧ k < p ∧ p < k + (encodeFrame other).length) ∨
      (IncompleteAt stream j ∧ j < p) := by
  induction h with
  | @finish i hend => exact absurd (Or.inl (by omega)) hwin.not_waiting
  | @incomplete i hinc =>
    rcases Nat.lt_or_eq_of_le hp with hlt | rfl
    · exact Or.inr (Or.inr ⟨hinc, hlt⟩)
    · exact absurd (Or.inr hinc) hwin.not_waiting
  | @accept i j other windows hother hnext ih =>
    rcases Nat.lt_or_eq_of_le hp with hlt | rfl
    · by_cases hin : p < i + (encodeFrame other).length
      · exact Or.inr (Or.inl ⟨i, other, by simp, hlt, hin⟩)
      · rw [length_encodeFrame] at hin
        rcases ih (by omega) with hmem | ⟨k, o, hmem, hk⟩ | hwait
        · exact Or.inl (List.mem_cons_of_mem _ hmem)
        · exact Or.inr (Or.inl ⟨k, o, List.mem_cons_of_mem _ hmem, hk⟩)
        · exact Or.inr (Or.inr hwait)
    · obtain rfl := hwin.unique hother
      exact Or.inl (by simp)
  | @advance i j windows hi hinc hno hnext ih =>
    rcases Nat.lt_or_eq_of_le hp with hlt | rfl
    · exact ih hlt
    · exact absurd hwin (hno frame)

/-- Where the parser waits, fewer than 127 bytes are left. -/
theorem length_of_waiting {b : Bytes} (h : scanStep b = none) : b.length ≤ 126 := by
  have hwait : scanStep (b.drop 0) = none := h
  rcases scanStep_eq_none.mp hwait with hend | hd | ⟨l, t, hd, hlo, hhi, hs⟩
  · omega
  · rw [List.drop_zero] at hd
    rw [hd]
    decide
  · rw [List.drop_zero] at hs
    omega

/-- After `feed` the parser waits. -/
theorem feed_waits (parser : FrameParser) (chunk : Bytes) :
    scanStep (feed parser chunk).2.buffer = none := by
  rw [feed_eq]
  exact Scanner.step_run (S := frameScanner) _

/-- **Framing does not depend on chunks and accepts exactly the frame grammar.** -/
theorem framing :
    (∀ chunks : List Bytes,
      feedAll {} chunks = feed {} chunks.flatten ∧
      ∃ windows j,
        (∀ windows' j', Leftmost chunks.flatten 0 windows' j' ↔ windows' = windows ∧ j' = j) ∧
        (feedAll {} chunks).1 = windows.map Prod.snd ∧
        (feedAll {} chunks).2.buffer = chunks.flatten.drop j ∧
        ∀ garbage frame rest, chunks.flatten = garbage ++ encodeFrame frame ++ rest →
          (garbage.length, frame) ∈ windows ∨
          (∃ k other, (k, other) ∈ windows ∧ k < garbage.length ∧
            garbage.length < k + (encodeFrame other).length) ∨
          (IncompleteAt chunks.flatten j ∧ j < garbage.length)) ∧
    ∀ parser chunk, (feed parser chunk).2.bufferedBytes ≤ 126 := by
  constructor
  · intro chunks
    have hall : feedAll {} chunks = outcome (frameScanner.run chunks.flatten) {} :=
      feedAll_eq (show scanStep ({} : FrameParser).buffer = none from rfl) chunks
    refine ⟨by rw [hall, feed_eq]; rfl, ?_⟩
    obtain ⟨windows, j, hleft, -, hframes, hrest⟩ :=
      leftmost_run (Nat.zero_le chunks.flatten.length)
    rw [List.drop_zero] at hframes hrest
    refine ⟨windows, j, ?_, ?_, ?_, ?_⟩
    · intro windows' j'
      constructor
      · intro h
        exact h.unique hleft
      · rintro ⟨rfl, rfl⟩
        exact hleft
    · rw [hall]
      exact hframes
    · rw [hall]
      exact hrest
    · intro garbage frame rest hstream
      refine hleft.finds (Nat.zero_le _) (windowAt_iff.mpr ⟨rest, ?_⟩)
      rw [hstream, List.append_assoc, List.drop_left]
  · intro parser chunk
    exact length_of_waiting (feed_waits parser chunk)

/-! ## Round trip and conservation -/

/-- Feeding the wires of a list of frames finds exactly these frames. -/
theorem outcome_encode (frames : List Frame) (counters : FrameCounters) :
    outcome (frameScanner.run (frames.flatMap encodeFrame)) counters =
      (frames, ⟨[], { counters with rxFrames := counters.rxFrames + frames.length }⟩) := by
  induction frames generalizing counters with
  | nil => rfl
  | cons frame frames ih =>
    have hstep : frameScanner.step (encodeFrame frame ++ frames.flatMap encodeFrame) =
        some (.frame frame, (encodeFrame frame).length) := scanStep_encodeFrame _ _
    rw [List.flatMap_cons, Scanner.run_of_some hstep, outcome_cons, List.drop_left, ih]
    simp only [FrameEvent.frame?, tally, Option.toList_some, List.singleton_append,
      List.length_cons]
    rw [Nat.add_assoc, Nat.add_comm 1]

/-- The calls a connection makes on its parser. -/
inductive ParserOp where
  | feed (chunk : Bytes)
  | reset

/-- The bytes fed by calls, in order. -/
def fed (ops : List ParserOp) : Bytes :=
  ops.flatMap fun op =>
    match op with
    | .feed chunk => chunk
    | .reset => []

/-- A sequence of calls: all frames in order, and the parser. -/
def runOps (parser : FrameParser) : List ParserOp → List Frame × FrameParser
  | [] => ([], parser)
  | .feed chunk :: ops =>
    ((feed parser chunk).1 ++ (runOps (feed parser chunk).2 ops).1,
      (runOps (feed parser chunk).2 ops).2)
  | .reset :: ops => runOps parser.reset ops

/-- The slices that calls remove from the buffer, in order, each with the frame it is
    emitted as or `none` where it is discarded. -/
def slices (parser : FrameParser) : List ParserOp → List (Bytes × Option Frame)
  | [] => []
  | .feed chunk :: ops =>
    (frameScanner.run (parser.buffer ++ chunk)).1.map (fun piece => (piece.1, piece.2.frame?)) ++
      slices (feed parser chunk).2 ops
  | .reset :: ops => (parser.buffer, none) :: slices parser.reset ops

/-- The number of bytes in discarded slices. -/
def discardedIn (pieces : List (Bytes × Option Frame)) : ℕ :=
  ((pieces.filter (·.2.isNone)).map (·.1.length)).sum

theorem discardedIn_append (ps qs : List (Bytes × Option Frame)) :
    discardedIn (ps ++ qs) = discardedIn ps + discardedIn qs := by
  simp [discardedIn]

/-- An event counts the bytes it discards, and the frame it emits. -/
theorem tally_piece {b piece : Bytes} {e : FrameEvent} (counters : FrameCounters)
    (h : scanStep (piece ++ b) = some (e, piece.length)) :
    (tally counters e).discardedBytes =
        counters.discardedBytes + discardedIn [(piece, e.frame?)] ∧
      (tally counters e).rxFrames = counters.rxFrames + e.frame?.toList.length := by
  rcases scanStep_some h with ⟨hnone, hlen, -⟩ | ⟨frame, rest, rfl, -, -⟩
  · cases e with
    | frame => cases hnone
    | _ => simp [tally, discard, discardedIn, FrameEvent.frame?, hlen]
  · simp [tally, discardedIn, FrameEvent.frame?]

theorem tally_pieces {ps : List (Bytes × FrameEvent)} (counters : FrameCounters)
    (h : ∀ piece e, (piece, e) ∈ ps → ∃ b, scanStep (piece ++ b) = some (e, piece.length)) :
    ((ps.map Prod.snd).foldl tally counters).discardedBytes =
        counters.discardedBytes + discardedIn (ps.map fun piece => (piece.1, piece.2.frame?)) ∧
      ((ps.map Prod.snd).foldl tally counters).rxFrames =
        counters.rxFrames + (ps.filterMap (·.2.frame?)).length := by
  induction ps generalizing counters with
  | nil => exact ⟨rfl, rfl⟩
  | cons p ps ih =>
    obtain ⟨piece, e⟩ := p
    obtain ⟨b, hb⟩ := h piece e (by simp)
    obtain ⟨hbytes, hframes⟩ := tally_piece counters hb
    obtain ⟨hbytes', hframes'⟩ := ih (tally counters e) fun piece' e' hmem =>
      h piece' e' (List.mem_cons_of_mem _ hmem)
    have hone : discardedIn (((piece, e) :: ps).map fun piece => (piece.1, piece.2.frame?)) =
        discardedIn [(piece, e.frame?)] +
          discardedIn (ps.map fun piece => (piece.1, piece.2.frame?)) :=
      discardedIn_append [(piece, e.frame?)] _
    have hcount : (((piece, e) :: ps).filterMap (·.2.frame?)).length =
        e.frame?.toList.length + (ps.filterMap (·.2.frame?)).length := by
      cases he : e.frame? with
      | none => simp [he]
      | some frame => simp [he, Nat.add_comm]
    rw [hone, hcount]
    show ((ps.map Prod.snd).foldl tally (tally counters e)).discardedBytes = _ ∧
      ((ps.map Prod.snd).foldl tally (tally counters e)).rxFrames = _
    omega

/-- What the slices of calls say about the bytes, the frames and the counters. -/
structure Accounts (parser : FrameParser) (ops : List ParserOp) : Prop where
  /-- The slices and the buffer are the bytes fed, in order. -/
  bytes : ((slices parser ops).map Prod.fst).flatten ++ (runOps parser ops).2.buffer =
    parser.buffer ++ fed ops
  frames : (slices parser ops).filterMap Prod.snd = (runOps parser ops).1
  wires : ∀ slice frame, (slice, some frame) ∈ slices parser ops → slice = encodeFrame frame
  discarded : (runOps parser ops).2.counters.discardedBytes =
    parser.counters.discardedBytes + discardedIn (slices parser ops)
  received : (runOps parser ops).2.counters.rxFrames =
    parser.counters.rxFrames + (runOps parser ops).1.length

theorem accounts (parser : FrameParser) (ops : List ParserOp) : Accounts parser ops := by
  induction ops generalizing parser with
  | nil => exact ⟨by simp [slices, runOps, fed], rfl, by simp [slices], rfl, rfl⟩
  | cons op ops ih =>
    cases op with
    | feed chunk =>
      obtain ⟨hbytes, hframes, hwires, hdiscarded, hreceived⟩ := ih (feed parser chunk).2
      have hpieces : ∀ piece e, (piece, e) ∈ (frameScanner.run (parser.buffer ++ chunk)).1 →
          ∃ b, scanStep (piece ++ b) = some (e, piece.length) := fun piece e hmem =>
        Scanner.piece_of_mem hmem
      obtain ⟨hd, hr⟩ := tally_pieces parser.counters hpieces
      have hfeed := feed_eq parser chunk
      constructor
      · have hcut := Scanner.run_flatten (S := frameScanner) (parser.buffer ++ chunk)
        have hbuffer : (feed parser chunk).2.buffer =
            (frameScanner.run (parser.buffer ++ chunk)).2 := by
          rw [hfeed]
          rfl
        rw [slices, runOps, List.map_append, List.flatten_append, List.append_assoc, hbytes,
          hbuffer, ← List.append_assoc, List.map_map]
        show (List.map Prod.fst _).flatten ++ _ ++ _ = _
        rw [hcut, List.append_assoc]
        rfl
      · rw [slices, runOps, List.filterMap_append, hframes, List.filterMap_map, hfeed]
        rfl
      · intro slice frame hmem
        rw [slices] at hmem
        rcases List.mem_append.mp hmem with hmem | hmem
        · obtain ⟨⟨piece, e⟩, hin, heq⟩ := List.mem_map.mp hmem
          obtain ⟨b, hb⟩ := hpieces piece e hin
          have hemitted : e.frame? = some frame := congrArg Prod.snd heq
          have hslice : piece = slice := congrArg Prod.fst heq
          rcases scanStep_some hb with ⟨hnone, -⟩ | ⟨frame', rest, rfl, hlen, hwire⟩
          · rw [hnone] at hemitted
            cases hemitted
          · cases hemitted
            rw [← hslice]
            exact (List.append_inj hwire hlen).1
        · exact hwires slice frame hmem
      · rw [slices, runOps, hdiscarded, discardedIn_append, hfeed]
        show ((List.map Prod.snd _).foldl tally parser.counters).discardedBytes + _ = _
        rw [hd, Nat.add_assoc]
      · rw [runOps, hreceived, List.length_append, hfeed]
        show ((List.map Prod.snd _).foldl tally parser.counters).rxFrames + _ = _
        rw [hr, Nat.add_assoc]
        rfl
    | reset =>
      obtain ⟨hbytes, hframes, hwires, hdiscarded, hreceived⟩ := ih parser.reset
      constructor
      · rw [slices, runOps, List.map_cons, List.flatten_cons, List.append_assoc, hbytes]
        rfl
      · rw [slices, runOps, List.filterMap_cons, hframes]
      · intro slice frame hmem
        rw [slices] at hmem
        rcases List.mem_cons.mp hmem with heq | hmem
        · cases heq
        · exact hwires slice frame hmem
      · rw [slices, runOps, hdiscarded]
        show _ = _ + discardedIn ([(parser.buffer, none)] ++ _)
        rw [discardedIn_append, ← Nat.add_assoc]
        simp [reset, discard, discardedIn]
      · rw [runOps, hreceived]
        rfl

/-- The bytes of accepted and discarded slices add up. -/
theorem length_slices {ps : List (Bytes × Option Frame)}
    (h : ∀ slice frame, (slice, some frame) ∈ ps → slice = encodeFrame frame) :
    (ps.map Prod.fst).flatten.length =
      discardedIn ps + ((ps.filterMap Prod.snd).map fun frame => (encodeFrame frame).length).sum := by
  induction ps with
  | nil => rfl
  | cons p ps ih =>
    have ih := ih fun slice frame hmem => h slice frame (List.mem_cons_of_mem _ hmem)
    obtain ⟨slice, frame⟩ := p
    rw [List.map_cons, List.flatten_cons, List.length_append, ih]
    have hsplit : discardedIn ((slice, frame) :: ps) =
        discardedIn [(slice, frame)] + discardedIn ps := discardedIn_append [(slice, frame)] ps
    rw [hsplit]
    cases frame with
    | none => simp [discardedIn, Nat.add_assoc]
    | some frame =>
      obtain rfl := h slice frame (by simp)
      simp [discardedIn]
      omega

/-- **Frames survive the wire, and every byte is accounted for**, across any chunks and
    resets. -/
theorem codec :
    (∀ (frames : List Frame) (chunks : List Bytes) (counters : FrameCounters),
      chunks.flatten = frames.flatMap encodeFrame →
      feedAll ⟨[], counters⟩ chunks =
        (frames, ⟨[], { counters with rxFrames := counters.rxFrames + frames.length }⟩)) ∧
    ∀ ops : List ParserOp,
      ((slices {} ops).map Prod.fst).flatten ++ (runOps {} ops).2.buffer = fed ops ∧
      (slices {} ops).filterMap Prod.snd = (runOps {} ops).1 ∧
      (∀ slice frame, (slice, some frame) ∈ slices {} ops → slice = encodeFrame frame) ∧
      (fed ops).length = (runOps {} ops).2.counters.discardedBytes +
        ((runOps {} ops).1.map fun frame => (encodeFrame frame).length).sum +
        (runOps {} ops).2.bufferedBytes := by
  constructor
  · intro frames chunks counters hstream
    have hempty : scanStep (⟨[], counters⟩ : FrameParser).buffer = none := rfl
    rw [feedAll_eq hempty, hstream]
    exact outcome_encode frames counters
  · intro ops
    obtain ⟨hbytes, hframes, hwires, hdiscarded, -⟩ := accounts {} ops
    have hbytes : ((slices {} ops).map Prod.fst).flatten ++ (runOps {} ops).2.buffer = fed ops :=
      hbytes
    refine ⟨hbytes, hframes, hwires, ?_⟩
    rw [← hbytes, List.length_append, length_slices hwires, hframes, hdiscarded]
    show _ = 0 + _ + _ + (runOps {} ops).2.buffer.length
    omega

end FrameParser

end BalboaRs485
