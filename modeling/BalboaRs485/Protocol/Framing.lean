import BalboaRs485.Lib.Scanner
import BalboaRs485.Protocol.Frames
import Mathlib.Data.List.TakeWhile

/-!
# The frame parser on a stream

`FrameParser` as an incremental scanner: at the front of its buffer it skips a byte,
rejects a candidate, accepts a window or waits. `window_eq` says what the checks on a
window amount to; from it follow the two directions of the codec:

* `window_encodeFrame`: the wire of a frame is accepted as that frame.
* `encodeFrame_of_window`: what is accepted is the wire of its frame.

The loop of `feed` is then a run of the scanner library:

* `scan_eq`: one call of `feed`.
* `feedAll_eq`: successive calls are one run on the stream.
-/

namespace BalboaRs485

namespace FrameParser

/-! ## Windows -/

/-- **The checks on a complete window**, in the source's order. -/
theorem window_eq {l a f m c e : UInt8} {p rest : Bytes} (hl : l.toNat = p.length + 5)
    (hp : p.length ≤ 120) :
    window (0x7E :: l :: a :: f :: m :: (p ++ c :: e :: rest)) =
      if e ≠ 0x7E then .badEnd
      else if crc8 (l :: a :: f :: m :: p) ≠ c then .badCrc
      else .accepted ⟨a, f, m, p, hp⟩ rest := by
  have hbounds : 5 ≤ l.toNat ∧ l.toNat ≤ 125 := by omega
  have hlen : ¬ (0x7E :: l :: a :: f :: m :: (p ++ c :: e :: rest)).length < l.toNat + 2 := by
    simp only [List.length_cons, List.length_append]
    omega
  have htake : (0x7E :: l :: a :: f :: m :: (p ++ c :: e :: rest)).take (l.toNat + 2) =
      0x7E :: l :: a :: f :: m :: (p ++ [c, e]) := by
    rw [hl]
    simp [List.take_append, List.take_of_length_le]
  have hdrop : (0x7E :: l :: a :: f :: m :: (p ++ c :: e :: rest)).drop (l.toNat + 2) = rest := by
    rw [hl]
    simp [List.drop_append]
  have hlast : (0x7E :: l :: a :: f :: m :: (p ++ [c, e])).getLastD 0x7E = e := by
    have hconcat : 0x7E :: l :: a :: f :: m :: (p ++ [c, e]) =
        (0x7E :: l :: a :: f :: m :: (p ++ [c])) ++ [e] := by simp
    rw [hconcat, List.getLastD_concat]
  have hbody : ((0x7E :: l :: a :: f :: m :: (p ++ [c, e])).drop 1).take (l.toNat - 1) =
      l :: a :: f :: m :: p := by
    rw [hl]
    simp
  have hcrc : (0x7E :: l :: a :: f :: m :: (p ++ [c, e])).getD l.toNat 0 = c := by
    rw [hl]
    simp
  have hpayload : ((0x7E :: l :: a :: f :: m :: (p ++ [c, e])).drop 5).take (l.toNat - 5) = p := by
    rw [hl]
    simp
  unfold window
  simp only [dif_pos hbounds, if_neg hlen, htake, hdrop, hlast, hbody, hcrc, hpayload]
  rfl

theorem window_badLength {d l : UInt8} {t : Bytes} (h : ¬ (5 ≤ l.toNat ∧ l.toNat ≤ 125)) :
    window (d :: l :: t) = .badLength := by
  unfold window
  simp only [dif_neg h]

theorem window_short {d l : UInt8} {t : Bytes} (h : 5 ≤ l.toNat ∧ l.toNat ≤ 125)
    (hs : (d :: l :: t).length < l.toNat + 2) : window (d :: l :: t) = .incomplete := by
  unfold window
  simp only [dif_pos h, if_pos hs]

/-- The buffers that begin with a delimiter, and what the checks say about them. -/
inductive Candidate : Bytes → Window → Prop where
  | lone : Candidate [0x7E] .incomplete
  | badLength {l : UInt8} {t : Bytes} (h : ¬ (5 ≤ l.toNat ∧ l.toNat ≤ 125)) :
      Candidate (0x7E :: l :: t) .badLength
  | short {l : UInt8} {t : Bytes} (h : 5 ≤ l.toNat ∧ l.toNat ≤ 125)
      (hs : (0x7E :: l :: t).length < l.toNat + 2) : Candidate (0x7E :: l :: t) .incomplete
  | complete {l a f m c e : UInt8} {p rest : Bytes} (hl : l.toNat = p.length + 5)
      (hp : p.length ≤ 120) :
      Candidate (0x7E :: l :: a :: f :: m :: (p ++ c :: e :: rest))
        (if e ≠ 0x7E then .badEnd
        else if crc8 (l :: a :: f :: m :: p) ≠ c then .badCrc
        else .accepted ⟨a, f, m, p, hp⟩ rest)

theorem candidate (t : Bytes) : Candidate (0x7E :: t) (window (0x7E :: t)) := by
  match t with
  | [] => exact .lone
  | l :: t =>
    by_cases h : 5 ≤ l.toNat ∧ l.toNat ≤ 125
    · by_cases hs : (0x7E :: l :: t).length < l.toNat + 2
      · rw [window_short h hs]
        exact .short h hs
      · -- cut a complete window into header, payload, checksum and end
        have hlen : l.toNat ≤ t.length := by
          simp only [List.length_cons] at hs
          omega
        match t with
        | a :: f :: m :: t =>
          simp only [List.length_cons] at hlen
          have htail : 2 ≤ (t.drop (l.toNat - 5)).length := by
            rw [List.length_drop]
            omega
          match hcut : t.drop (l.toNat - 5) with
          | c :: e :: rest =>
            have hp : (t.take (l.toNat - 5)).length = l.toNat - 5 := by
              rw [List.length_take]
              omega
            have ht : t = t.take (l.toNat - 5) ++ c :: e :: rest := by
              rw [← hcut, List.take_append_drop]
            rw [ht, window_eq (by omega) (by omega)]
            exact .complete (by omega) (by omega)
          | [_] => simp [hcut] at htail
          | [] => simp [hcut] at htail
        | [_, _] => simp at hlen; omega
        | [_] => simp at hlen; omega
        | [] => simp at hlen; omega
    · rw [window_badLength h]
      exact .badLength h

/-- The wire of a frame, byte by byte. -/
theorem encodeFrame_append (frame : Frame) (rest : Bytes) :
    encodeFrame frame ++ rest =
      0x7E :: UInt8.ofNat (frame.payload.length + 5) :: frame.address :: frame.family ::
        frame.messageType :: (frame.payload ++ crc8 frame.body :: 0x7E :: rest) := by
  simp [encodeFrame, Frame.body]

theorem length_encodeFrame (frame : Frame) :
    (encodeFrame frame).length = frame.payload.length + 7 := by
  simp [encodeFrame, Frame.body]

theorem toNat_length (frame : Frame) :
    (UInt8.ofNat (frame.payload.length + 5)).toNat = frame.payload.length + 5 := by
  have := frame.short
  rw [UInt8.toNat_ofNat']
  omega

/-- **The wire of a frame is accepted as that frame**, whatever its payload. -/
theorem window_encodeFrame (frame : Frame) (rest : Bytes) :
    window (encodeFrame frame ++ rest) = .accepted frame rest := by
  rw [encodeFrame_append, window_eq (toNat_length frame) frame.short, if_neg (by simp),
    if_neg (by simp [Frame.body])]

/-- **What is accepted is the wire of its frame.** -/
theorem encodeFrame_of_window {t rest : Bytes} {frame : Frame}
    (h : window (0x7E :: t) = .accepted frame rest) : 0x7E :: t = encodeFrame frame ++ rest := by
  have hcase := candidate t
  rw [h] at hcase
  generalize hb : 0x7E :: t = b at hcase
  generalize hw : Window.accepted frame rest = w at hcase
  cases hcase with
  | lone => cases hw
  | badLength => cases hw
  | short => cases hw
  | @complete l a f m c e p rest' hl hp =>
    split at hw
    · cases hw
    · next hend =>
      split at hw
      · cases hw
      · next hcrc =>
        cases hw
        have hlen : UInt8.ofNat (p.length + 5) = l := by
          rw [← hl, UInt8.ofNat_toNat]
        rw [encodeFrame_append]
        simp only [Frame.body, hlen, not_not.mp hend, not_not.mp hcrc]

/-! ## The parser as a scanner -/

/-- What the parser does at the front of its buffer. -/
inductive FrameEvent where
  /-- A byte that is not a delimiter is discarded. -/
  | skipped
  | badLength
  | badEnd
  | badCrc
  | frame (frame : Frame)

/-- The frame an event emits. -/
def FrameEvent.frame? : FrameEvent → Option Frame
  | .frame f => some f
  | _ => none

/-- One step of the loop of `feed`, byte by byte: a rejected candidate loses its
    delimiter only. -/
def scanStep (b : Bytes) : Option (FrameEvent × ℕ) :=
  match b with
  | [] => none
  | x :: _ =>
    if x ≠ 0x7E then some (.skipped, 1)
    else
      match window b with
      | .incomplete => none
      | .badLength => some (.badLength, 1)
      | .badEnd => some (.badEnd, 1)
      | .badCrc => some (.badCrc, 1)
      | .accepted frame _ => some (.frame frame, (encodeFrame frame).length)

/-- The event of a window. -/
def Window.event : Window → Option (FrameEvent × ℕ)
  | .incomplete => none
  | .badLength => some (.badLength, 1)
  | .badEnd => some (.badEnd, 1)
  | .badCrc => some (.badCrc, 1)
  | .accepted frame _ => some (.frame frame, (encodeFrame frame).length)

theorem scanStep_window {t : Bytes} {w : Window} (h : window (0x7E :: t) = w) :
    scanStep (0x7E :: t) = w.event := by
  subst h
  simp only [scanStep, ne_eq, not_true_eq_false, if_false, Window.event]

/-- A step discards one byte or consumes the wire of a frame. -/
theorem scanStep_some {b : Bytes} {e : FrameEvent} {k : ℕ} (h : scanStep b = some (e, k)) :
    (e.frame? = none ∧ k = 1 ∧ b ≠ []) ∨
      ∃ frame rest, e = .frame frame ∧ k = (encodeFrame frame).length ∧
        b = encodeFrame frame ++ rest := by
  unfold scanStep at h
  split at h
  · cases h
  · next x t =>
    split at h
    · cases h
      exact Or.inl ⟨rfl, rfl, by simp⟩
    · next hx =>
      obtain rfl := not_not.mp hx
      split at h
      · cases h
      · cases h
        exact Or.inl ⟨rfl, rfl, by simp⟩
      · cases h
        exact Or.inl ⟨rfl, rfl, by simp⟩
      · cases h
        exact Or.inl ⟨rfl, rfl, by simp⟩
      · next frame rest hw =>
        cases h
        exact Or.inr ⟨frame, rest, rfl, rfl, encodeFrame_of_window hw⟩

theorem scanStep_consumes {b : Bytes} {e : FrameEvent} {k : ℕ} (h : scanStep b = some (e, k)) :
    0 < k ∧ k ≤ b.length := by
  rcases scanStep_some h with ⟨-, rfl, hne⟩ | ⟨frame, rest, -, rfl, rfl⟩
  · exact ⟨Nat.one_pos, List.length_pos_of_ne_nil hne⟩
  · rw [List.length_append, length_encodeFrame]
    omega

/-- A verdict on a candidate does not depend on bytes that arrive later. -/
theorem event_stable {t c : Bytes} {r : FrameEvent × ℕ} (h : (window (0x7E :: t)).event = some r) :
    (window (0x7E :: t ++ c)).event = some r := by
  have hcase := candidate t
  generalize window (0x7E :: t) = w at h hcase
  generalize 0x7E :: t = b at hcase ⊢
  cases hcase with
  | lone => cases h
  | badLength hl =>
    rw [List.cons_append, List.cons_append, window_badLength hl]
    exact h
  | short => cases h
  | @complete l a f m c' e p rest hl hp =>
    have happ : 0x7E :: l :: a :: f :: m :: (p ++ c' :: e :: rest) ++ c =
        0x7E :: l :: a :: f :: m :: (p ++ c' :: e :: (rest ++ c)) := by simp
    rw [happ, window_eq hl hp]
    split at h
    · next he =>
      rw [if_pos he]
      exact h
    · next he =>
      rw [if_neg he]
      split at h
      · next hc =>
        rw [if_pos hc]
        exact h
      · next hc =>
        rw [if_neg hc]
        exact h

/-- A decision of the parser does not depend on bytes that arrive later. -/
theorem scanStep_stable {b : Bytes} {r : FrameEvent × ℕ} (c : Bytes) (h : scanStep b = some r) :
    scanStep (b ++ c) = some r := by
  match b with
  | [] => cases h
  | x :: t =>
    by_cases hx : x = 0x7E
    · subst hx
      rw [scanStep_window rfl] at h
      rw [List.cons_append, scanStep_window rfl]
      exact event_stable h
    · unfold scanStep at h ⊢
      simp only [List.cons_append, ne_eq, hx, not_false_iff, if_true] at h ⊢
      exact h

/-- The frame parser as an incremental scanner. -/
def frameScanner : Scanner UInt8 FrameEvent where
  step := scanStep
  consumes := scanStep_consumes
  stable := fun c h => scanStep_stable c h

/-! ## `feed` is a run of the scanner -/

/-- What an event does to the counters. -/
def tally (counters : FrameCounters) : FrameEvent → FrameCounters
  | .skipped => discard counters 1
  | .badLength => discard { counters with invalidLength := counters.invalidLength + 1 } 1
  | .badEnd => discard { counters with invalidEnd := counters.invalidEnd + 1 } 1
  | .badCrc => discard { counters with crcErrors := counters.crcErrors + 1 } 1
  | .frame _ => { counters with rxFrames := counters.rxFrames + 1 }

/-- What a run of the scanner means for the caller of `feed`. -/
def outcome (r : List (Bytes × FrameEvent) × Bytes) (counters : FrameCounters) :
    List Frame × FrameParser :=
  (r.1.filterMap (·.2.frame?), ⟨r.2, (r.1.map Prod.snd).foldl tally counters⟩)

theorem outcome_cons (piece : Bytes) (e : FrameEvent) (r : List (Bytes × FrameEvent) × Bytes)
    (counters : FrameCounters) :
    outcome ((piece, e) :: r.1, r.2) counters =
      (e.frame?.toList ++ (outcome r (tally counters e)).1, (outcome r (tally counters e)).2) := by
  cases e <;> rfl

theorem outcome_append (ps : List (Bytes × FrameEvent)) (r : List (Bytes × FrameEvent) × Bytes)
    (b : Bytes) (counters : FrameCounters) :
    outcome (ps ++ r.1, r.2) counters =
      ((outcome (ps, b) counters).1 ++ (outcome r (outcome (ps, b) counters).2.counters).1,
        (outcome r (outcome (ps, b) counters).2.counters).2) := by
  simp only [outcome, List.filterMap_append, List.map_append, List.foldl_append]

theorem discard_add (counters : FrameCounters) (m n : ℕ) :
    discard (discard counters m) n = discard counters (m + n) := by
  simp only [discard, Nat.add_assoc]

theorem scanStep_skip {x : UInt8} (t : Bytes) (h : x ≠ 0x7E) :
    scanStep (x :: t) = some (.skipped, 1) := by
  simp only [scanStep, if_pos h]

/-- The bytes before the first delimiter are skipped. -/
theorem outcome_skip {g : Bytes} (hg : ∀ x ∈ g, x ≠ 0x7E) (b : Bytes) (counters : FrameCounters) :
    outcome (frameScanner.run (g ++ b)) counters =
      outcome (frameScanner.run b) (discard counters g.length) := by
  induction g generalizing counters with
  | nil => rfl
  | cons x g ih =>
    have hstep : frameScanner.step (x :: (g ++ b)) = some (.skipped, 1) :=
      scanStep_skip _ (hg x (by simp))
    rw [List.cons_append, Scanner.run_of_some hstep, outcome_cons]
    show ([] ++ (outcome (frameScanner.run (g ++ b)) (discard counters 1)).1, _) = _
    rw [List.nil_append]
    show outcome (frameScanner.run (g ++ b)) (discard counters 1) = _
    rw [ih fun y hy => hg y (List.mem_cons_of_mem _ hy), discard_add, List.length_cons,
      Nat.add_comm]

/-- The iteration at a delimiter: a rejected candidate continues one byte further. -/
theorem outcome_reject {t : Bytes} {e : FrameEvent}
    (h : scanStep (0x7E :: t) = some (e, 1)) (he : e.frame? = none) (counters : FrameCounters) :
    outcome (frameScanner.run (0x7E :: t)) counters =
      outcome (frameScanner.run t) (tally counters e) := by
  have hstep : frameScanner.step (0x7E :: t) = some (e, 1) := h
  rw [Scanner.run_of_some hstep, outcome_cons, he]
  rfl

/-- **The `while` loop is a run of the scanner.** -/
theorem scan_eq {n : ℕ} {b : Bytes} (h : b.length ≤ n) (counters : FrameCounters) :
    scan n b counters = outcome (frameScanner.run b) counters := by
  induction n generalizing b counters with
  | zero =>
    obtain rfl : b = [] := List.eq_nil_of_length_eq_zero (by omega)
    rfl
  | succ n ih =>
    -- cut the buffer before its first delimiter
    have hg : ∀ x ∈ b.takeWhile (· ≠ 0x7E), x ≠ 0x7E := fun x hx =>
      by
      simpa using List.mem_takeWhile_imp hx
    have hcut : b.takeWhile (· ≠ 0x7E) ++ b.dropWhile (· ≠ 0x7E) = b :=
      List.takeWhile_append_dropWhile
    have hrun := outcome_skip hg (b.dropWhile (· ≠ 0x7E)) counters
    rw [hcut] at hrun
    have hlen := congrArg List.length hcut
    rw [List.length_append] at hlen
    rw [hrun]
    match hd : b.dropWhile (· ≠ 0x7E) with
    | [] =>
      rw [hd, List.length_nil, Nat.add_zero] at hlen
      unfold scan
      rw [hd, hlen]
      rfl
    | x :: t =>
      obtain rfl : x = 0x7E := by
        have hhead := List.head?_dropWhile_not (· ≠ 0x7E) b
        rw [hd] at hhead
        simpa using hhead
      rw [hd, List.length_cons] at hlen
      have hskipped : b.length - (0x7E :: t : Bytes).length =
          (b.takeWhile (· ≠ 0x7E)).length := by
        rw [List.length_cons]
        omega
      have hshort : t.length ≤ n := by omega
      unfold scan
      rw [hd]
      simp only [hskipped, List.drop_one, List.tail_cons]
      cases hw : window (0x7E :: t) with
      | incomplete =>
        have hstep : frameScanner.step (0x7E :: t) = none := scanStep_window hw
        rw [Scanner.run_of_none hstep]
        rfl
      | badLength => rw [outcome_reject (scanStep_window hw) rfl, ← ih hshort]; rfl
      | badEnd => rw [outcome_reject (scanStep_window hw) rfl, ← ih hshort]; rfl
      | badCrc => rw [outcome_reject (scanStep_window hw) rfl, ← ih hshort]; rfl
      | accepted frame rest =>
        have hwire := encodeFrame_of_window hw
        have hstep : frameScanner.step (0x7E :: t) =
            some (.frame frame, (encodeFrame frame).length) := scanStep_window hw
        have hrest : (0x7E :: t : Bytes).drop (encodeFrame frame).length = rest := by
          rw [hwire, List.drop_left]
        have hshorter : rest.length ≤ n := by
          have hl := congrArg List.length hwire
          rw [List.length_cons, List.length_append, length_encodeFrame] at hl
          omega
        rw [Scanner.run_of_some hstep, outcome_cons, hrest, ← ih hshorter]
        rfl

/-- `feed` on a buffer and a chunk. -/
theorem feed_eq (parser : FrameParser) (chunk : Bytes) :
    feed parser chunk =
      outcome (frameScanner.run (parser.buffer ++ chunk)) parser.counters :=
  scan_eq (Nat.le_refl _) _

/-- Successive calls of `feed`: all frames in order, and the parser. -/
def feedAll (parser : FrameParser) : List Bytes → List Frame × FrameParser
  | [] => ([], parser)
  | chunk :: chunks =>
    ((feed parser chunk).1 ++ (feedAll (feed parser chunk).2 chunks).1,
      (feedAll (feed parser chunk).2 chunks).2)

theorem feedAll_feeds (parser : FrameParser) (chunks : List Bytes) :
    feedAll parser chunks = outcome (frameScanner.feeds parser.buffer chunks) parser.counters := by
  induction chunks generalizing parser with
  | nil => rfl
  | cons chunk chunks ih =>
    rw [feedAll, ih, feed_eq, Scanner.feeds]
    rw [outcome_append _ _ (frameScanner.run (parser.buffer ++ chunk)).2]
    rfl

/-- **The chunks do not matter.** -/
theorem feedAll_eq {parser : FrameParser} (h : scanStep parser.buffer = none)
    (chunks : List Bytes) :
    feedAll parser chunks =
      outcome (frameScanner.run (parser.buffer ++ chunks.flatten)) parser.counters := by
  rw [feedAll_feeds, Scanner.feeds_eq (show frameScanner.step parser.buffer = none from h)]

end FrameParser

end BalboaRs485
