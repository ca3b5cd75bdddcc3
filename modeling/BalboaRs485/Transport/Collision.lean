import BalboaRs485.Protocol.Commands
import BalboaRs485.Transport.Assignment

/-!
# Client traffic on the owned channel

The frames this program can put on the bus as a client, and which of them
`ChannelSession.observe` takes for a second client when it reads them on the channel
it owns.

* `observe_client`, `observe_other`: a frame of the classifier's list revokes the
  channel; one that is in neither list changes nothing.
* `collision_detected`: exactly the clock and preference frames escape the classifier.
-/

namespace BalboaRs485

theorem setTemperature_type {value : ℚ} {unit : TemperatureUnit} {frame : Frame}
    (h : setTemperature value unit = .ok frame) : frame.family = 191 ∧ frame.messageType = 32 := by
  simp only [setTemperature] at h
  split_ifs at h <;>
    · cases h
      exact ⟨rfl, rfl⟩

theorem setClock_type {minuteOfDay : ℤ} {clock24h : Bool} {frame : Frame}
    (h : setClock minuteOfDay clock24h = .ok frame) :
    frame.family = 191 ∧ frame.messageType = 33 := by
  unfold setClock at h
  split at h
  · cases h
  cases h
  exact ⟨rfl, rfl⟩

/-- What this program sends as a client: commands, queries and the replies of the channel
    handshake. The filter record (BF23) is also a response and not in the list. -/
inductive ClientCommand where
  | toggle (item : ToggleItem)
  | setTemperature (value : ℚ) (unit : TemperatureUnit)
  | setClock (minuteOfDay : ℤ) (clock24h : Bool)
  | setTemperatureUnit (unit : TemperatureUnit)
  | setClockFormat (clock24h : Bool)
  | query (query : Query)
  | channelAck
  | probeReply
  | idleReply

namespace ClientCommand

/-- The frame of a command, sent on `channel`: the encoders write address 10, which the
    connection replaces (`transport/connection.py` lines 505–510 and 551–554). -/
def frame (channel : UInt8) : ClientCommand → Except EncodeError Frame
  | toggle item => .ok ((BalboaRs485.toggle item).readdress channel)
  | setTemperature value unit =>
    (BalboaRs485.setTemperature value unit).map fun frame => frame.readdress channel
  | setClock minuteOfDay clock24h =>
    (BalboaRs485.setClock minuteOfDay clock24h).map fun frame => frame.readdress channel
  | setTemperatureUnit unit => .ok ((BalboaRs485.setTemperatureUnit unit).readdress channel)
  | setClockFormat clock24h => .ok ((BalboaRs485.setClockFormat clock24h).readdress channel)
  | query q => .ok ((encodeQuery q).readdress channel)
  | channelAck => .ok (.channelAck channel)
  | probeReply => .ok (.probeReply channel)
  | idleReply => .ok (.bare channel 191 7)

/-- The commands that set the clock or a display preference. -/
def preference : ClientCommand → Bool
  | setClock .. | setTemperatureUnit .. | setClockFormat .. => true
  | _ => false

/-- The message type a command is sent with. -/
def messageType : ClientCommand → UInt8
  | toggle _ => 17
  | setTemperature .. => 32
  | setClock .. => 33
  | setTemperatureUnit _ | setClockFormat _ => 39
  | query _ => 34
  | channelAck => 3
  | probeReply => 5
  | idleReply => 7

theorem frame_spec {command : ClientCommand} {channel : UInt8} {frame : Frame}
    (h : command.frame channel = .ok frame) :
    frame.address = channel ∧ frame.family = 191 ∧ frame.messageType = command.messageType := by
  have hreaddressed : ∀ {result : Except EncodeError Frame} {messageType : UInt8},
      (∀ frame, result = .ok frame → frame.family = 191 ∧ frame.messageType = messageType) →
      (result.map fun frame => frame.readdress channel) = .ok frame →
      frame.address = channel ∧ frame.family = 191 ∧ frame.messageType = messageType := by
    intro result messageType hresult hmap
    cases result with
    | error e => cases hmap
    | ok encoded =>
      cases hmap
      exact ⟨rfl, hresult encoded rfl⟩
  cases command with
  | setTemperature value unit => exact hreaddressed (fun _ => setTemperature_type) h
  | setClock minuteOfDay clock24h => exact hreaddressed (fun _ => setClock_type) h
  | _ =>
    cases h
    exact ⟨rfl, rfl, rfl⟩

/-- Only the preferences are missing on the list of client frames; no command is a CTS or
    of another control family. -/
theorem frame_lists {command : ClientCommand} {channel : UInt8} {frame : Frame}
    (h : command.frame channel = .ok frame) :
    frame.clientType = !command.preference ∧ frame.alternateFamily = false ∧
      frame.messageType ≠ 6 := by
  obtain ⟨-, hfamily, htype⟩ := frame_spec h
  unfold Frame.clientType Frame.alternateFamily
  rw [hfamily, htype]
  cases command <;> exact ⟨rfl, rfl, by simp [messageType]⟩

end ClientCommand

namespace ChannelSession

/-- The session has failed and is not ready: nothing is sent on the channel any more. -/
def Revoked (s : ChannelSession) : Prop := s.failure ≠ none ∧ s.ready = false

/-- A client frame on the channel of the session fails it. -/
theorem observe_client {s : ChannelSession} {frame : Frame} (hclient : frame.clientType = true)
    (hchannel : s.channel = some frame.address) : (s.observe frame).Revoked := by
  have hkept : ((s.noteFamily frame).noteClient frame).channel = some frame.address := by
    have h := (noteFamily_observes s frame).trans (noteClient_observes _ frame)
    rw [h.channel, hchannel]
  have hcollision : (((s.noteFamily frame).noteClient frame).noteCollision frame).Revoked := by
    rw [noteCollision, if_pos ⟨hclient, hkept⟩]
    exact ⟨by simp, rfl⟩
  unfold observe noteCts
  rw [if_neg fun h => hcollision.1 h.1]
  exact hcollision

/-- A frame of neither list that is no CTS changes nothing. -/
theorem observe_other {s : ChannelSession} {frame : Frame} (hclient : frame.clientType = false)
    (hfamily : frame.alternateFamily = false) (hcts : frame.messageType ≠ 6) :
    s.observe frame = s := by
  have hno : frame ≠ .cts frame.address := fun h => hcts (by rw [h]; rfl)
  simp [observe, noteFamily, noteClient, noteCollision, noteCts, hclient, hfamily, hno]

/-- **A client frame on the owned channel revokes it, unless it sets the clock or a
    preference**; then the session is what it was. -/
theorem collision_detected (s : ChannelSession) (command : ClientCommand) (channel : UInt8)
    (frame : Frame) (hchannel : s.channel = some channel)
    (hframe : command.frame channel = .ok frame) :
    (s.observe frame).Revoked ↔ command.preference = false ∨ s.Revoked := by
  obtain ⟨haddress, -, -⟩ := ClientCommand.frame_spec hframe
  obtain ⟨hclient, hfamily, hcts⟩ := ClientCommand.frame_lists hframe
  cases hp : command.preference with
  | false =>
    rw [hp] at hclient
    rw [← haddress] at hchannel
    exact iff_of_true (observe_client hclient hchannel) (.inl rfl)
  | true =>
    rw [hp] at hclient
    rw [observe_other hclient hfamily hcts]
    simp

/-- A session that has taken channel 16 and is ready. -/
def readyRun : List ChannelOp :=
  [.reply [.bare 254 191 0] 0 true, .reply [.assignment 16 ⟨0xEE, 0x14⟩] 1 true,
    .observe (.cts 16)]

theorem collision_detected_sample :
    ((sessionAt ⟨0xEE, 0x14⟩ readyRun 3).observe ((toggle .pump1).readdress 16)).Revoked :=
  (collision_detected _ (.toggle .pump1) 16 _ (by decide +kernel) rfl).mpr (.inl rfl)

/-- Another client sets the clock on the channel of a ready session, which stays ready. -/
theorem clock_unnoticed :
    ¬ ∀ (nonce : Nonce) (l : List ChannelOp) (n : ℕ) (command : ClientCommand) (channel : UInt8)
      (frame : Frame), (sessionAt nonce l n).channel = some channel →
      command.frame channel = .ok frame → ((sessionAt nonce l n).observe frame).Revoked := by
  intro h
  have hrevoked := h ⟨0xEE, 0x14⟩ readyRun 3 (.setClock 720 true) 16
    ⟨16, 0xBF, 0x21, [0x8C, 0], by simp⟩ (by decide +kernel) (by decide +kernel)
  have hready : ((sessionAt ⟨0xEE, 0x14⟩ readyRun 3).observe
      ⟨16, 0xBF, 0x21, [0x8C, 0], by simp⟩).ready = true := by decide +kernel
  rw [hrevoked.2] at hready
  cases hready

end ChannelSession

end BalboaRs485
