import PcmFlowUdp.Rtp.PathIndependence

/-! # `RtpReceiver` is a bounded queue of frames beside a one-packet inbox

The purpose of the receiver, stated without its buffers: an `RtpInbox` holds whole frames of `c` channels and
at most one encoded payload. A packet of an L16 type appends its frames and drops the oldest that are too
many, a packet of another type replaces the payload held, anything else changes nothing. The receiver keeps
bytes in a ring with three counters and in a fixed buffer with a length and a flag; `Refines` relates the two.

* **`Refines.step`** — every call answers what the inbox answers, and keeps them related;
* **`rtp_inbox`** — so does every run since a successful `begin`, whatever datagrams arrive, as long as the
  L16 packets among them have `c` channels and the ring holds a whole number of such frames. -/

namespace PcmFlowUdp

open ByteTransport PcmFrame

/-! ## The inbox -/

/-- What an inbox answers. -/
inductive InboxAnswer
  | flag (ok : Bool)
  | frames (frames : List AudioFrame)
  | payload (payload : List UInt8)
  | count (frames : ℕ)
  | format (fmt : PCMFormat)

/-- The answer in memory. -/
def InboxAnswer.inMemory : InboxAnswer → RtpAnswer
  | .flag ok => .flag ok
  | .frames fs => .read fs.length (AudioFrame.hostImage fs)
  | .payload bytes => .read bytes.length bytes
  | .count n => .count n
  | .format fmt => .format fmt

/-- How an inbox is set up: the payload types that are L16, how many channels they have, and how many frames
there is room for. -/
structure InboxSetup where
  isL16 : UInt8 → Bool
  channels : UInt8
  room : ℕ

/-- A queue of frames and a place for one payload. -/
structure RtpInbox where
  format : PCMFormat
  /-- The frames, oldest first. -/
  frames : List AudioFrame := []
  held : Option (List UInt8) := none

/-- What follows the header of a packet, of which no more than 1452 bytes are looked at. -/
def payloadBehind (h : RtpHeader) (d : List UInt8) : List UInt8 :=
  (d.take kRtpMaxPacketBytes).drop h.payloadOffset

/-- The whole frames of `c` channels in an L16 payload. -/
def wholeL16 (c : ℕ) (payload : List UInt8) : List (PcmFrame c) :=
  netFrames c (wholeFrames (c * 2) payload)

/-- Taking out the payload that is held: all of it, or nothing. -/
def takeHeld (held : Option (List UInt8)) (nonNull : Bool) (maxBytes : ℕ) : List UInt8 × Option (List UInt8) :=
  match held with
  | none => ([], none)
  | some payload =>
      if nonNull && decide (payload.length ≤ maxBytes) then (payload, none) else ([], some payload)

/-- What was held is taken out, if it is not empty, or stays. -/
theorem takeHeld_sublist (held : Option (List UInt8)) (nonNull : Bool) (maxBytes : ℕ) :
    List.Sublist ((if (takeHeld held nonNull maxBytes).1 = [] then [] else [(takeHeld held nonNull maxBytes).1])
      ++ (takeHeld held nonNull maxBytes).2.toList) held.toList := by
  cases held with
  | none => simp [takeHeld]
  | some payload =>
    rw [takeHeld]
    split
    · by_cases hempty : payload = []
      · simp [hempty]
      · simp [hempty]
    · simp

namespace RtpInbox

variable (cfg : InboxSetup)

/-- Queue the frames of an L16 packet. -/
def queueL16 (q : RtpInbox) (payload : List UInt8) : RtpInbox :=
  { q with
    format :=
      { sampleRate := if q.format.sampleRate = 0 then 8000 else q.format.sampleRate
        channels := cfg.channels
        bitsPerSample := 16 }
    frames := keepLast cfg.room (q.frames ++ (wholeL16 cfg.channels.toNat payload).map audio) }

/-- The answer to a call, and the inbox afterwards. -/
def answer (q : RtpInbox) : RtpOp → InboxAnswer × RtpInbox
  | .poll d =>
      match RtpReceiver.headerOf d with
      | none => (.flag false, q)
      | some h =>
          (.flag true,
            if cfg.isL16 h.payloadType then q.queueL16 cfg (payloadBehind h d)
            else { q with held := some (payloadBehind h d) })
  | .readFrames nonNull frameCount =>
      let k := if nonNull then frameCount else 0
      (.frames (q.frames.take k), { q with frames := q.frames.drop k })
  | .availableFrames => (.count q.frames.length, q)
  | .format => (.format q.format, q)
  | .readEncoded nonNull maxBytes =>
      let (payload, held) := takeHeld q.held nonNull maxBytes
      (.payload payload, { q with held })
  | .hasEncoded => (.flag q.held.isSome, q)

/-- The frames that a call takes in. -/
def framesIn : RtpOp × InboxAnswer → List AudioFrame
  | (.poll d, _) =>
      match RtpReceiver.headerOf d with
      | none => []
      | some h =>
          if cfg.isL16 h.payloadType then (wholeL16 cfg.channels.toNat (payloadBehind h d)).map audio else []
  | _ => []

/-- The frames that a call hands out. -/
def framesOut : RtpOp × InboxAnswer → List AudioFrame
  | (_, .frames frames) => frames
  | _ => []

/-- The payload that a call takes in. -/
def payloadsIn : RtpOp × InboxAnswer → List (List UInt8)
  | (.poll d, _) =>
      match RtpReceiver.headerOf d with
      | none => []
      | some h => if cfg.isL16 h.payloadType then [] else [payloadBehind h d]
  | _ => []

/-- The payload that a call hands out, if it is not empty. -/
def payloadsOut : RtpOp × InboxAnswer → List (List UInt8)
  | (_, .payload payload) => if payload = [] then [] else [payload]
  | _ => []

/-- No step makes up a frame, tears one or changes the order. -/
theorem step_frames (q : RtpInbox) (op : RtpOp) :
    List.Sublist (framesOut (op, (q.answer cfg op).1) ++ (q.answer cfg op).2.frames)
      (q.frames ++ framesIn cfg (op, (q.answer cfg op).1)) := by
  cases op with
  | poll d =>
    cases hh : RtpReceiver.headerOf d with
    | none => simp [answer, framesIn, framesOut, hh]
    | some h =>
      by_cases hl16 : cfg.isL16 h.payloadType = true
      · simp only [answer, framesIn, framesOut, hh, hl16, if_true, List.nil_append]
        exact (keepLast_suffix _ _).sublist
      · simp [answer, framesIn, framesOut, hh, hl16]
  | readFrames nonNull frameCount => simp [answer, framesIn, framesOut]
  | availableFrames => simp [answer, framesIn, framesOut]
  | format => simp [answer, framesIn, framesOut]
  | readEncoded nonNull maxBytes => simp [answer, framesIn, framesOut]
  | hasEncoded => simp [answer, framesIn, framesOut]

/-- No step makes up a payload, hands one out twice or changes the order. -/
theorem step_payloads (q : RtpInbox) (op : RtpOp) :
    List.Sublist (payloadsOut (op, (q.answer cfg op).1) ++ (q.answer cfg op).2.held.toList)
      (q.held.toList ++ payloadsIn cfg (op, (q.answer cfg op).1)) := by
  cases op with
  | poll d =>
    cases hh : RtpReceiver.headerOf d with
    | none => simp [answer, payloadsIn, payloadsOut, hh]
    | some h =>
      by_cases hl16 : cfg.isL16 h.payloadType = true
      · simp [answer, payloadsIn, payloadsOut, hh, hl16, queueL16]
      · -- what was held before is lost
        simp [answer, payloadsIn, payloadsOut, hh, hl16]
  | readFrames nonNull frameCount => simp [answer, payloadsIn, payloadsOut]
  | availableFrames => simp [answer, payloadsIn, payloadsOut]
  | format => simp [answer, payloadsIn, payloadsOut]
  | readEncoded nonNull maxBytes =>
    show List.Sublist (_ ++ (takeHeld q.held nonNull maxBytes).2.toList) (q.held.toList ++ [])
    rw [List.append_nil]
    exact takeHeld_sublist q.held nonNull maxBytes
  | hasEncoded => simp [answer, payloadsIn, payloadsOut]

end RtpInbox

namespace RtpReceiver

/-! ## Well-formed packets -/

/-- A payload is no longer than the hold. -/
theorem length_payloadBehind {d : List UInt8} {h : RtpHeader} (hh : headerOf d = some h) :
    (payloadBehind h d).length ≤ kRtpMaxPayloadBytes := by
  have hoffset := (parseRtpHeader_offset (headerOf_eq_some hh)).2.1
  have hmax : kRtpMaxPacketBytes = 12 + kRtpMaxPayloadBytes := rfl
  rw [payloadBehind, List.length_drop, List.length_take]
  omega

/-! ## The hold -/

/-- The receiver holds this payload, or none. -/
def Holds (r : RtpReceiver) : Option (List UInt8) → Prop
  | none => r.encodedReady = false
  | some payload => r.encodedReady = true ∧ r.encodedBytes = payload.length ∧
      r.encoded.slice 0 payload.length = payload

/-- What is held once a datagram was polled. -/
def heldAfter (r : RtpReceiver) (held : Option (List UInt8)) (d : List UInt8) : Option (List UInt8) :=
  match headerOf d with
  | none => held
  | some h => if r.treatsAsL16 h.payloadType then held else some (payloadBehind h d)

/-- A payload that fits the hold replaces what was held. -/
theorem holds_hold (r : RtpReceiver) {payload : List UInt8} (hmax : payload.length ≤ kRtpMaxPayloadBytes) :
    (r.hold payload).Holds (some payload) :=
  ⟨rfl, rfl, Buffer.slice_blit_same _ (by rwa [Nat.zero_add])⟩

section Hold

variable {r₀ r : RtpReceiver} {held : Option (List UInt8)} (h : r.Holds held)

include h

/-- What is held depends on three members. -/
theorem Holds.congr {r' : RtpReceiver} (hencoded : r'.encoded = r.encoded)
    (hbytes : r'.encodedBytes = r.encodedBytes) (hready : r'.encodedReady = r.encodedReady) :
    r'.Holds held := by
  cases held with
  | none => exact hready.trans h
  | some payload =>
    obtain ⟨hheld, hlen, hslice⟩ := h
    exact ⟨hready.trans hheld, hbytes.trans hlen, by rw [hencoded, hslice]⟩

/-- `hasEncoded` says whether something is held. -/
theorem Holds.hasEncoded : r.hasEncoded = held.isSome := by
  cases held with
  | none => exact h
  | some payload => exact h.1

/-- A poll, whatever arrives: only a packet that is no L16 packet changes what is held. -/
theorem Holds.poll [PCMFlow] (hconfig : ConfiguredAs r₀ r) (mem : RtpPollMemory) (d : List UInt8) :
    ConfiguredAs r₀ (r.poll mem (Inbound.ofDatagram d)).2.1 ∧
      (r.poll mem (Inbound.ofDatagram d)).2.1.Holds (r₀.heldAfter held d) := by
  cases hh : headerOf d with
  | none =>
    obtain ⟨error, hpoll⟩ := poll_malformed hconfig.ready mem hh
    rw [hpoll, heldAfter, hh]
    exact ⟨hconfig.congr rfl rfl rfl, h.congr rfl rfl rfl⟩
  | some hd =>
    rw [poll_headerOf hconfig.ready mem hh, dispatch, hconfig.treatsAsL16, heldAfter, hh]
    dsimp only
    split
    · exact ⟨hconfig.congr rfl rfl rfl, h.congr rfl rfl rfl⟩
    · exact ⟨hconfig.congr rfl rfl rfl, holds_hold _ (length_payloadBehind hh)⟩

/-- A read takes out what is held. -/
theorem Holds.readEncoded (nonNull : Bool) (maxBytes : ℕ) :
    ∃ r', r.readEncoded nonNull maxBytes = ((takeHeld held nonNull maxBytes).1.length,
        (takeHeld held nonNull maxBytes).1, r') ∧ r'.Holds (takeHeld held nonNull maxBytes).2 ∧
      r' = { r with encodedReady := r'.encodedReady, encodedBytes := r'.encodedBytes } := by
  cases held with
  | none =>
    have hready : r.encodedReady = false := h
    refine ⟨r, ?_, h, rfl⟩
    rw [RtpReceiver.readEncoded, hready]
    rfl
  | some payload =>
    obtain ⟨hready, hbytes, hslice⟩ := h
    rw [readEncoded_of_held hready, hbytes, hslice, takeHeld]
    split
    · exact ⟨_, rfl, rfl, rfl⟩
    · exact ⟨r, rfl, ⟨hready, hbytes, hslice⟩, rfl⟩

end Hold

/-! ## Refinement -/

/-- The setup of an inbox for a receiver and frames of `channels` channels. -/
def inboxSetup (r : RtpReceiver) (channels : UInt8) : InboxSetup where
  isL16 := r.treatsAsL16
  channels
  room := r.queue.cap / (channels.toNat * 2)

/-- The L16 packets that arrive have `channels` channels. -/
def OfChannels (r : RtpReceiver) (channels : UInt8) : RtpOp → Prop
  | .poll d => ∀ h ∈ headerOf d, r.treatsAsL16 h.payloadType = true → r.l16Channels h.payloadType = channels
  | _ => True

instance (r : RtpReceiver) (channels : UInt8) (op : RtpOp) : Decidable (r.OfChannels channels op) := by
  unfold OfChannels
  split <;> infer_instance

/-- The receiver, set up as `r₀`, holds what the inbox holds: the bytes of its frames are the contents of the
ring, whose three counters are at the boundaries of frames, and the payload is at the start of the hold. -/
structure Refines (r₀ : RtpReceiver) (channels : UInt8) (r : RtpReceiver) (q : RtpInbox) : Prop where
  config : ConfiguredAs r₀ r
  format : r.format = q.format
  cap : r.queue.cap = r₀.queue.cap
  contents : ∃ fs : List (PcmFrame channels.toNat), r.queue.contents = hostImage fs ∧ q.frames = fs.map audio
  aligned : r.queue.Aligned (channels.toNat * 2)
  /-- Queued frames are read in their own channel count. -/
  locked : q.frames ≠ [] → q.format.channels = channels ∧ q.format.bitsPerSample = 16
  hold : r.Holds q.held

/-- A receiver that was just bound is empty. -/
theorem refines_begin (r₀ : RtpReceiver) (channels : UInt8) :
    Refines r₀ channels (r₀.begin 1).2 { format := r₀.format } where
  config := ⟨rfl, rfl, rfl⟩
  format := rfl
  cap := rfl
  contents := ⟨[], RingBuffer.contents_clear _, rfl⟩
  aligned := RingBuffer.aligned_clear _ _
  locked hne := absurd rfl hne
  hold := rfl

section Steps

variable {r₀ r : RtpReceiver} {channels : UInt8} {q : RtpInbox} (h : Refines r₀ channels r q)

include h

/-- A change of what neither path looks at. -/
theorem Refines.congr {r' : RtpReceiver} (hconfig : ConfiguredAs r₀ r') (hformat : r'.format = r.format)
    (hqueue : r'.queue = r.queue) (hencoded : r'.encoded = r.encoded)
    (hbytes : r'.encodedBytes = r.encodedBytes) (hready : r'.encodedReady = r.encodedReady) :
    Refines r₀ channels r' q where
  config := hconfig
  format := hformat.trans h.format
  cap := by rw [hqueue, h.cap]
  contents := by rw [hqueue]; exact h.contents
  aligned := by rw [hqueue]; exact h.aligned
  locked := h.locked
  hold := h.hold.congr hencoded hbytes hready

/-- The number of frames queued, in the words of the counters. -/
theorem Refines.count : r.queue.count = q.frames.length * (channels.toNat * 2) := by
  obtain ⟨fs, hcont, hframes⟩ := h.contents
  rw [count_frames hcont, hframes, List.length_map]

variable [PCMFlow]

/-- Queued frames are counted in their own size. -/
theorem Refines.bytesPerFrame (hne : q.frames ≠ []) : r.format.bytesPerFrame = channels.toNat * 2 := by
  obtain ⟨hch, hbits⟩ := h.locked hne
  rw [h.format, PCMFormat.bytesPerFrame_pcm16 hbits, hch]

/-- Queueing an L16 packet queues its frames. -/
theorem Refines.queueL16 (hc : 0 < channels.toNat) (hcap : channels.toNat * 2 ∣ r₀.queue.cap)
    {hd : RtpHeader} (hch : r₀.l16Channels hd.payloadType = channels) (payload : List UInt8) :
    Refines r₀ channels ((r.noteHeader hd).queueL16 hd.payloadType payload)
      (q.queueL16 (r₀.inboxSetup channels) payload) := by
  have hchannels : (r.noteHeader hd).l16Channels hd.payloadType = channels :=
    (h.config.l16Channels hd.payloadType).trans hch
  have hbpf : ((r.noteHeader hd).l16Format hd.payloadType).bytesPerFrame = channels.toNat * 2 := by
    rw [bytesPerFrame_l16Format, hchannels]
  have hdvd : channels.toNat * 2 ∣ r.queue.cap := by rw [h.cap]; exact hcap
  -- what is pushed are the bytes of the frames
  have hpush : swapPairs (payload.take (payload.length - payload.length
      % ((r.noteHeader hd).l16Format hd.payloadType).bytesPerFrame))
        = hostImage (wholeL16 channels.toNat payload) := by
    rw [hbpf, wholeL16, netFrames, hostImage_hostFrames hc]
    · rfl
    · rw [length_swapPairs, length_wholeFrames]
      exact Nat.dvd_mul_left _ _
  obtain ⟨fs, hcont, hframes⟩ := h.contents
  rw [RtpReceiver.queueL16, hpush]
  refine ⟨h.config.congr rfl rfl rfl, ?_, (RingBuffer.cap_push _ _).trans h.cap, ?_, ?_, fun _ => ⟨rfl, rfl⟩,
    h.hold⟩
  · rw [l16Format, hchannels]
    show _ = (q.queueL16 (r₀.inboxSetup channels) payload).format
    rw [RtpInbox.queueL16, ← h.format]
    rfl
  · refine ⟨_, push_frames_of_dvd hcont hdvd _, ?_⟩
    show keepLast (r₀.queue.cap / (channels.toNat * 2)) _ = _
    rw [map_keepLast, List.map_append, ← hframes, ← h.cap]
    rfl
  · refine h.aligned.push hdvd ?_
    rw [length_hostImage]
    exact Nat.dvd_mul_left _ _

omit [PCMFlow] in
/-- Holding the payload of a packet replaces the one before. -/
theorem Refines.holdPayload {hd : RtpHeader} {payload : List UInt8}
    (hmax : payload.length ≤ kRtpMaxPayloadBytes) :
    Refines r₀ channels ((r.noteHeader hd).hold payload) { q with held := some payload } where
  config := h.config.congr rfl rfl rfl
  format := h.format
  cap := h.cap
  contents := h.contents
  aligned := h.aligned
  locked := h.locked
  hold := holds_hold _ hmax

/-- Polling, matched. -/
theorem Refines.poll (hc : 0 < channels.toNat) (hcap : channels.toNat * 2 ∣ r₀.queue.cap)
    (mem : RtpPollMemory) {d : List UInt8} (hop : r₀.OfChannels channels (.poll d)) :
    (r.poll mem (Inbound.ofDatagram d)).1 = (headerOf d).isSome ∧
      Refines r₀ channels (r.poll mem (Inbound.ofDatagram d)).2.1
        (q.answer (r₀.inboxSetup channels) (.poll d)).2 := by
  cases hh : headerOf d with
  | none =>
    obtain ⟨error, hpoll⟩ := poll_malformed h.config.ready mem hh
    have hsame : (q.answer (r₀.inboxSetup channels) (.poll d)).2 = q := by
      rw [RtpInbox.answer, hh]
    rw [hpoll, hsame]
    exact ⟨by rw [poll_accepts h.config.ready, hh], h.congr (h.config.congr rfl rfl rfl) rfl rfl rfl rfl rfl⟩
  | some hd =>
    have hpoll := poll_headerOf h.config.ready mem hh
    have hanswer : (q.answer (r₀.inboxSetup channels) (.poll d)).2
        = if r₀.treatsAsL16 hd.payloadType = true
          then q.queueL16 (r₀.inboxSetup channels) (payloadBehind hd d)
          else { q with held := some (payloadBehind hd d) } := by
      rw [RtpInbox.answer, hh]
      rfl
    refine ⟨by rw [poll_accepts h.config.ready, hh], ?_⟩
    rw [hpoll, hanswer, dispatch, h.config.treatsAsL16]
    by_cases hl16 : r₀.treatsAsL16 hd.payloadType = true
    · rw [if_pos hl16, if_pos hl16]
      exact h.queueL16 hc hcap (hop hd hh hl16) _
    · rw [if_neg hl16, if_neg hl16]
      exact h.holdPayload (length_payloadBehind hh)

/-- Reading frames, matched. -/
theorem Refines.readFrames (hc : 0 < channels.toNat) (hcap : channels.toNat * 2 ∣ r₀.queue.cap)
    (nonNull : Bool) (frameCount : ℕ) :
    ∃ queue,
      r.readFrames nonNull frameCount
        = ((q.frames.take (if nonNull then frameCount else 0)).length,
            AudioFrame.hostImage (q.frames.take (if nonNull then frameCount else 0)),
            { r with queue }) ∧
      Refines r₀ channels { r with queue }
        (q.answer (r₀.inboxSetup channels) (.readFrames nonNull frameCount)).2 := by
  obtain ⟨fs, hcont, hframes⟩ := h.contents
  have hbpf : fs ≠ [] → 0 < channels.toNat ∧ r.format.bytesPerFrame = channels.toNat * 2 := fun hne =>
    ⟨hc, h.bytesPerFrame fun hnil => hne (List.map_eq_nil_iff.mp (hframes ▸ hnil))⟩
  obtain ⟨queue, hread, hrest, hsize, haligned⟩ := readQueue_min hcont hbpf nonNull frameCount
  refine ⟨queue, ?_, h.config.congr rfl rfl rfl, h.format, hsize.trans h.cap, ⟨_, hrest, ?_⟩, ?_, ?_, h.hold⟩
  · rw [RtpReceiver.readFrames, h.config.ready, hread, hframes, ← List.map_take, List.length_map,
      AudioFrame.hostImage_map_audio]
  · show q.frames.drop _ = _
    rw [hframes, List.map_drop]
  · exact haligned (.inr (by rw [h.cap]; exact hcap)) h.aligned
  · intro hne
    refine h.locked fun hnil => hne ?_
    show q.frames.drop _ = []
    rw [hnil, List.drop_nil]

omit [PCMFlow] in
/-- Reading a payload, matched. -/
theorem Refines.readEncoded (nonNull : Bool) (maxBytes : ℕ) :
    RtpAnswer.read (r.readEncoded nonNull maxBytes).1 (r.readEncoded nonNull maxBytes).2.1
        = (q.answer (r₀.inboxSetup channels) (.readEncoded nonNull maxBytes)).1.inMemory ∧
      Refines r₀ channels (r.readEncoded nonNull maxBytes).2.2
        (q.answer (r₀.inboxSetup channels) (.readEncoded nonNull maxBytes)).2 := by
  obtain ⟨r', hread, hhold, hsame⟩ := h.hold.readEncoded nonNull maxBytes
  rw [hread]
  refine ⟨rfl, ?_⟩
  rw [hsame] at hhold ⊢
  exact ⟨h.config.congr rfl rfl rfl, h.format, h.cap, h.contents, h.aligned, h.locked, hhold⟩

/-- **One call.** It answers what the inbox answers, and the receiver goes on holding what the inbox holds. -/
theorem Refines.step (hc : 0 < channels.toNat) (hcap : channels.toNat * 2 ∣ r₀.queue.cap)
    (mem : RtpPollMemory) {op : RtpOp} (hop : r₀.OfChannels channels op) :
    (answer (r, mem) op).1 = (q.answer (r₀.inboxSetup channels) op).1.inMemory ∧
      Refines r₀ channels (answer (r, mem) op).2.1 (q.answer (r₀.inboxSetup channels) op).2 := by
  cases op with
  | poll d =>
    obtain ⟨hok, hrest⟩ := h.poll hc hcap mem hop
    refine ⟨?_, hrest⟩
    show RtpAnswer.flag (r.poll mem (Inbound.ofDatagram d)).1 = _
    rw [hok, RtpInbox.answer]
    cases headerOf d <;> rfl
  | readFrames nonNull frameCount =>
    obtain ⟨queue, hread, hrest⟩ := h.readFrames hc hcap nonNull frameCount
    rw [answer, hread]
    exact ⟨rfl, hrest⟩
  | availableFrames =>
    refine ⟨?_, h⟩
    show RtpAnswer.count r.availableFrames = .count q.frames.length
    rw [availableFrames, h.count]
    rcases eq_or_ne q.frames [] with hnil | hne
    · simp [hnil]
    · rw [h.bytesPerFrame hne, if_neg (by omega), Nat.mul_div_cancel _ (by omega)]
  | format => exact ⟨congrArg RtpAnswer.format h.format, h⟩
  | readEncoded nonNull maxBytes => exact h.readEncoded nonNull maxBytes
  | hasEncoded =>
    refine ⟨?_, h⟩
    exact congrArg RtpAnswer.flag h.hold.hasEncoded

end Steps

/-- **A receiver is a bounded queue of frames beside a one-packet inbox.** Bind a receiver in any state that it
can be in; let its ring hold a whole number of frames of `channels` channels, and let whatever datagrams arrive,
those among them that it treats as L16 packets having that many channels. Then every call answers as the inbox
does, the receiver holds what the inbox holds, with all three counters of the ring at the boundaries of frames,
and what `readFrames` and `readEncoded` return are whole frames and whole payloads of packets that arrived, in
the order in which they arrived, none of them twice. Of a datagram no more than the first 1452 bytes are looked
at: what lies behind the header in these is its payload, and a longer one was cut there. -/
theorem rtp_inbox [PCMFlow] (r : RtpReceiver) (mem : RtpPollMemory) {channels : UInt8} (hc : channels ≠ 0)
    (hcap : channels.toNat * 2 ∣ r.queue.cap) {ops : List RtpOp}
    (hops : ∀ op ∈ ops, r.OfChannels channels op) :
    let s := (r.begin 1).2
    let cfg := r.inboxSetup channels
    let q : RtpInbox := { format := r.format }
    transcript answer (s, mem) ops
        = (transcript (RtpInbox.answer cfg) q ops).map (Prod.map id InboxAnswer.inMemory) ∧
      Refines r channels (after answer (s, mem) ops).1 (after (RtpInbox.answer cfg) q ops) ∧
      List.Sublist ((transcript (RtpInbox.answer cfg) q ops).flatMap RtpInbox.framesOut)
        ((transcript (RtpInbox.answer cfg) q ops).flatMap (RtpInbox.framesIn cfg)) ∧
      List.Sublist ((transcript (RtpInbox.answer cfg) q ops).flatMap RtpInbox.payloadsOut)
        ((transcript (RtpInbox.answer cfg) q ops).flatMap (RtpInbox.payloadsIn cfg)) := by
  intro s cfg q
  have hpos : 0 < channels.toNat := UInt8.lt_iff_toNat_lt.mp (UInt8.pos_iff_ne_zero.mpr hc)
  have hstep : ∀ (s : RtpReceiver × RtpPollMemory) q op, r.OfChannels channels op →
      Refines r channels s.1 q → (answer s op).1 = (q.answer cfg op).1.inMemory ∧
        Refines r channels (answer s op).2.1 (q.answer cfg op).2 :=
    fun s q op hop h => h.step hpos hcap s.2 hop
  have hstart : Refines r channels (s, mem).1 q := refines_begin r channels
  obtain ⟨htr, hend⟩ := transcript_simulates_of hstep hstart hops
  have hframes := transcript_sublist (RtpInbox.step_frames cfg) q ops
  have hpayloads := @transcript_sublist _ _ _ _ (RtpInbox.answer cfg) (fun q => q.held.toList) _ _
    (RtpInbox.step_payloads cfg) q ops
  exact ⟨htr, hend, (List.sublist_append_left _ _).trans hframes,
    (List.sublist_append_left _ _).trans hpayloads⟩

/-- A stereo packet, an encoded one and a malformed one, and a read on each path. -/
theorem rtp_inbox_stereo :
    let r : RtpReceiver := {}
    let s := (r.begin 1).2
    let cfg := r.inboxSetup 2
    let q : RtpInbox := { format := r.format }
    let ops : List RtpOp :=
      [.poll ([0x80, 10, 0, 1] ++ List.replicate 8 0 ++ [1, 2, 3, 4]),
        .poll ([0x80, 96, 0, 2] ++ List.replicate 8 0 ++ [7]), .poll [0x80], .readFrames true 9,
        .readEncoded true 9]
    transcript (@answer PCMFlow.documented) (s, {}) ops
        = (transcript (RtpInbox.answer cfg) q ops).map (Prod.map id InboxAnswer.inMemory) ∧
      Refines r 2 (after (@answer PCMFlow.documented) (s, {}) ops).1 (after (RtpInbox.answer cfg) q ops) ∧
      List.Sublist ((transcript (RtpInbox.answer cfg) q ops).flatMap RtpInbox.framesOut)
        ((transcript (RtpInbox.answer cfg) q ops).flatMap (RtpInbox.framesIn cfg)) ∧
      List.Sublist ((transcript (RtpInbox.answer cfg) q ops).flatMap RtpInbox.payloadsOut)
        ((transcript (RtpInbox.answer cfg) q ops).flatMap (RtpInbox.payloadsIn cfg)) :=
  have hcap : ({} : RtpReceiver).queue.cap = kRtpQueueBytes := RingBuffer.cap_empty kRtpQueueBytes (by decide) 0
  @rtp_inbox PCMFlow.documented {} {} 2 (by decide) (by rw [hcap]; decide) _ (by decide +kernel)

end RtpReceiver

end PcmFlowUdp
