import PcmFlowUdp.ByteTransport.Playback
import PcmFlowUdp.Rtp.Inbox
import PcmFlowUdp.Vban.FrameQueue

/-! # What a listener hears, and how late

Both receivers drop the oldest frames when their ring is full. Read off the log of what arrived and of what was
asked for: a listener that reads slowly or not at all hears the stream with gaps, each gap no larger than it has
to be, and never falls back by more than the ring holds.

* `VbanReceiver.playEvent`, `RtpReceiver.playEvent` — what a call is to the log;
* **`receivers_play`** — the bytes that reads return and the bytes queued are what the log plays and leaves to
  play. -/

namespace PcmFlowUdp

open ByteTransport PcmFrame

/-- The bytes queued and the bytes read so far are those of a sound log. -/
structure Plays (room : ℕ) (log : PlayLog AudioFrame) (queued out : List UInt8) : Prop where
  sound : log.Sound room
  queued : queued = AudioFrame.hostImage log.window
  out : out = AudioFrame.hostImage log.played

/-- The bytes of groups of frames lie one behind the other. -/
theorem AudioFrame.hostImage_flatMap {β : Type*} (l : List β) (f : β → List AudioFrame) :
    AudioFrame.hostImage (l.flatMap f) = l.flatMap fun x => AudioFrame.hostImage (f x) := by
  simp only [AudioFrame.hostImage, List.flatMap_assoc]

/-! ## `VbanReceiver` -/

namespace VbanReceiver

/-- What a call is to the log: an audio packet that was accepted arrives, a read plays what it asks for. -/
def playEvent : VbanOp × VbanAnswer → PlayEvent AudioFrame
  | (.poll d, .poll true) =>
      if SpeaksVban .audio d then
        let e := d.take kVbanMaxPacketBytes
        .arrive (kVbanQueueBytes / ((wireFormat e).channels.toNat * 2)) ((packetFrames e).map audio)
      else .play 0
  | (.readFrames nonNull frameCount, _) => .play (if nonNull then frameCount else 0)
  | _ => .play 0

/-- The log of a run. -/
def playLog (es : List (VbanOp × VbanAnswer)) : PlayLog AudioFrame :=
  es.foldl (fun l e => l.record (playEvent e)) {}

/-- The bytes that a read returned. -/
def frameBytes : VbanOp × VbanAnswer → List UInt8
  | (.readFrames _ _, .readFrames _ out) => out
  | _ => []

end VbanReceiver

/-- A frame queue is a drop-oldest queue. -/
theorem FrameQueue.follows (q : FrameQueue) (op : VbanOp) :
    (VbanReceiver.playEvent (op, (q.answer op).1.inMemory)).Follows q.frames
      (kVbanQueueBytes / (q.format.channels.toNat * 2)) (FrameQueue.returned [(op, (q.answer op).1)])
      (q.answer op).2.frames (kVbanQueueBytes / ((q.answer op).2.format.channels.toNat * 2)) := by
  cases op with
  | poll d =>
    by_cases hacc : AcceptedBy q.filter q.format d
    · have hok : (q.answer (.poll d)).1 = .poll true := by simp [answer, hacc]
      have hq : (q.answer (.poll d)).2 = q.accept (d.take kVbanMaxPacketBytes) := if_pos hacc
      rw [hok, hq]
      simp only [FrameAnswer.inMemory, VbanReceiver.playEvent, if_pos hacc.audio]
      exact ⟨by simp [returned], rfl, rfl⟩
    · have hq : (q.answer (.poll d)).2 = q := if_neg hacc
      have hevent : VbanReceiver.playEvent (.poll d, (q.answer (.poll d)).1.inMemory) = .play 0 := by
        by_cases hservice : SpeaksVban .service d
        · have hnot : ¬ SpeaksVban .audio d := fun haudio => by cases hservice.unique haudio
          simp [answer, FrameAnswer.inMemory, VbanReceiver.playEvent, hservice, hnot]
        · simp [answer, FrameAnswer.inMemory, VbanReceiver.playEvent, hservice, hacc]
      rw [hevent, hq]
      exact ⟨by simp [returned, answer], rfl, rfl⟩
  | readFrames nonNull frameCount => exact ⟨by simp [returned, answer], rfl, rfl⟩

/-- The bytes of the frames that a frame queue returned. -/
theorem FrameQueue.frameBytes (q : FrameQueue) (op : VbanOp) :
    VbanReceiver.frameBytes (op, (q.answer op).1.inMemory)
      = AudioFrame.hostImage (FrameQueue.returned [(op, (q.answer op).1)]) := by
  cases op with
  | poll d => rfl
  | readFrames nonNull frameCount => simp [VbanReceiver.frameBytes, answer, FrameAnswer.inMemory, returned]

/-- **A VBAN receiver plays its log.** -/
theorem VbanReceiver.plays [PCMFlow] {r : VbanReceiver} {buf : VbanPollMemory} (hr : Reachable (r, buf))
    (streamName : Option (List UInt8)) (ops : List VbanOp) :
    let s := ((r.begin streamName 1).2, buf)
    let es := transcript answer s ops
    let t := (after answer s ops).1
    Plays (kVbanQueueBytes / (t.format.channels.toNat * 2)) (playLog es) t.queue.contents
      (es.flatMap VbanReceiver.frameBytes) := by
  intro s es t
  have hstart : s.1.Refines { filter := s.1.filter } := refines_begin hr.inv streamName
  have hstep : ∀ (s : VbanReceiver × VbanPollMemory) (q : FrameQueue) op, s.1.Refines q →
      (answer s op).1 = (q.answer op).1.inMemory ∧ (answer s op).2.1.Refines (q.answer op).2 :=
    fun s q op h => h.step s.2 op
  obtain ⟨htr, hend⟩ := transcript_simulates hstep hstart ops
  have hes : es = _ := htr
  obtain ⟨hsound, hwindow, hplayed⟩ := transcript_plays FrameQueue.frames
    (fun q => kVbanQueueBytes / (q.format.channels.toNat * 2)) (fun e => FrameQueue.returned [e])
    (fun e => playEvent (Prod.map id FrameAnswer.inMemory e)) FrameQueue.follows
    (s := { filter := s.1.filter }) (PlayLog.sound_new _) rfl ops
  have hlog : playLog es = (transcript FrameQueue.answer { filter := s.1.filter } ops).foldl
      (fun l e => l.record (playEvent (Prod.map id FrameAnswer.inMemory e))) {} := by
    rw [playLog, hes, List.foldl_map]
  rw [← hlog] at hsound hwindow hplayed
  obtain ⟨fs, hcontents, hframes⟩ := hend.contents
  refine ⟨?_, ?_, ?_⟩
  · rw [hend.format]
    exact hsound
  · rw [← hwindow, hframes, AudioFrame.hostImage_map_audio]
    exact hcontents
  · rw [hplayed, hes, List.flatMap_map, List.nil_append, AudioFrame.hostImage_flatMap]
    exact transcript_flatMap (fun q op => q.frameBytes op) _ ops

/-! ## `RtpReceiver` -/

namespace RtpReceiver

/-- What a call is to the log: an L16 packet arrives, a read plays what it asks for. -/
def playEvent (cfg : InboxSetup) : RtpOp × RtpAnswer → PlayEvent AudioFrame
  | (.poll d, _) =>
      match headerOf d with
      | none => .play 0
      | some h =>
          if cfg.isL16 h.payloadType then
            .arrive cfg.room ((wholeL16 cfg.channels.toNat (payloadBehind h d)).map audio)
          else .play 0
  | (.readFrames nonNull frameCount, _) => .play (if nonNull then frameCount else 0)
  | _ => .play 0

/-- The log of a run. -/
def playLog (cfg : InboxSetup) (es : List (RtpOp × RtpAnswer)) : PlayLog AudioFrame :=
  es.foldl (fun l e => l.record (playEvent cfg e)) {}

/-- The bytes that a read of frames returned. -/
def frameBytes : RtpOp × RtpAnswer → List UInt8
  | (.readFrames _ _, .read _ out) => out
  | _ => []

end RtpReceiver

/-- The frames of an inbox are a drop-oldest queue. -/
theorem RtpInbox.follows (cfg : InboxSetup) (q : RtpInbox) (op : RtpOp) :
    (RtpReceiver.playEvent cfg (op, (q.answer cfg op).1.inMemory)).Follows q.frames cfg.room
      (framesOut (op, (q.answer cfg op).1)) (q.answer cfg op).2.frames cfg.room := by
  cases op with
  | poll d =>
    cases hh : RtpReceiver.headerOf d with
    | none => simp [RtpReceiver.playEvent, answer, hh, PlayEvent.Follows, framesOut]
    | some h =>
      by_cases hl16 : cfg.isL16 h.payloadType = true
      · simp only [RtpReceiver.playEvent, answer, hh, hl16, if_true]
        exact ⟨rfl, rfl, rfl⟩
      · simp [RtpReceiver.playEvent, answer, hh, hl16, PlayEvent.Follows, framesOut]
  | readFrames nonNull frameCount => exact ⟨rfl, rfl, rfl⟩
  | availableFrames => exact ⟨rfl, rfl, rfl⟩
  | format => exact ⟨rfl, rfl, rfl⟩
  | readEncoded nonNull maxBytes => exact ⟨rfl, rfl, rfl⟩
  | hasEncoded => exact ⟨rfl, rfl, rfl⟩

/-- The bytes of the frames that an inbox handed out. -/
theorem RtpInbox.frameBytes (cfg : InboxSetup) (q : RtpInbox) (op : RtpOp) :
    RtpReceiver.frameBytes (op, (q.answer cfg op).1.inMemory)
      = AudioFrame.hostImage (framesOut (op, (q.answer cfg op).1)) := by
  cases op with
  | poll d =>
    rw [answer]
    cases RtpReceiver.headerOf d <;> rfl
  | _ => rfl

/-- **An RTP receiver plays its log.** -/
theorem RtpReceiver.plays [PCMFlow] (r : RtpReceiver) (mem : RtpPollMemory) {channels : UInt8}
    (hc : channels ≠ 0) (hcap : channels.toNat * 2 ∣ r.queue.cap) {ops : List RtpOp}
    (hops : ∀ op ∈ ops, r.OfChannels channels op) :
    let s := ((r.begin 1).2, mem)
    let es := transcript answer s ops
    Plays (r.queue.cap / (channels.toNat * 2)) (playLog (r.inboxSetup channels) es)
      (after answer s ops).1.queue.contents (es.flatMap RtpReceiver.frameBytes) := by
  intro s es
  have hpos : 0 < channels.toNat := UInt8.lt_iff_toNat_lt.mp (UInt8.pos_iff_ne_zero.mpr hc)
  have hstart : Refines r channels s.1 { format := r.format } := refines_begin r channels
  have hstep : ∀ (s : RtpReceiver × RtpPollMemory) q op, r.OfChannels channels op → Refines r channels s.1 q →
      (answer s op).1 = (q.answer (r.inboxSetup channels) op).1.inMemory ∧
        Refines r channels (answer s op).2.1 (q.answer (r.inboxSetup channels) op).2 :=
    fun s q op hop h => h.step hpos hcap s.2 hop
  -- the receiver answers as the list of frames does, and for the list the positions are known
  obtain ⟨htr, hend⟩ := transcript_simulates_of hstep hstart hops
  have hes : es = _ := htr
  obtain ⟨hsound, hwindow, hplayed⟩ := transcript_plays RtpInbox.frames
    (fun _ => (r.inboxSetup channels).room) RtpInbox.framesOut
    (fun e => playEvent (r.inboxSetup channels) (Prod.map id InboxAnswer.inMemory e))
    (RtpInbox.follows (r.inboxSetup channels)) (s := { format := r.format }) (PlayLog.sound_new _) rfl ops
  have hlog : playLog (r.inboxSetup channels) es
      = (transcript (RtpInbox.answer (r.inboxSetup channels)) { format := r.format } ops).foldl
        (fun l e => l.record (playEvent (r.inboxSetup channels) (Prod.map id InboxAnswer.inMemory e))) {} := by
    rw [playLog, hes, List.foldl_map]
  rw [← hlog] at hsound hwindow hplayed
  obtain ⟨fs, hcontents, hframes⟩ := hend.contents
  refine ⟨hsound, ?_, ?_⟩
  · rw [← hwindow, hframes, AudioFrame.hostImage_map_audio]
    exact hcontents
  · rw [hplayed, hes, List.flatMap_map, List.nil_append, AudioFrame.hostImage_flatMap]
    exact transcript_flatMap (fun q op => q.frameBytes _ op) _ ops

/-! ## Both -/

/-- **What a listener hears, and how late.** From a successful `begin` on, whatever datagrams arrive and
whatever is read, in any order: the bytes queued are the frames accepted from a position on, and never more than
the ring holds lie behind it; a read returns the frames from that position on, as many as it asks for and are
there; the position is moved on otherwise only by an arrival, by as much as leaves the ring full. So what was
returned is the stream in order with the skipped frames left out, and every frame in front of the position was
returned or skipped. This holds for a VBAN receiver in every reachable state, and for an RTP receiver whose L16
packets have a channel count that divides its ring. -/
theorem receivers_play [PCMFlow] :
    (∀ (r : VbanReceiver) (buf : VbanPollMemory), VbanReceiver.Reachable (r, buf) →
      ∀ (streamName : Option (List UInt8)) (ops : List VbanOp),
        let s := ((r.begin streamName 1).2, buf)
        let es := transcript VbanReceiver.answer s ops
        let t := (after VbanReceiver.answer s ops).1
        Plays (kVbanQueueBytes / (t.format.channels.toNat * 2)) (VbanReceiver.playLog es) t.queue.contents
          (es.flatMap VbanReceiver.frameBytes)) ∧
      (∀ (r : RtpReceiver) (mem : RtpPollMemory) (channels : UInt8), channels ≠ 0 →
        channels.toNat * 2 ∣ r.queue.cap →
        ∀ ops : List RtpOp, (∀ op ∈ ops, r.OfChannels channels op) →
          let s := ((r.begin 1).2, mem)
          let es := transcript RtpReceiver.answer s ops
          Plays (r.queue.cap / (channels.toNat * 2)) (RtpReceiver.playLog (r.inboxSetup channels) es)
            (after RtpReceiver.answer s ops).1.queue.contents (es.flatMap RtpReceiver.frameBytes)) :=
  ⟨fun _ _ hr streamName ops => VbanReceiver.plays hr streamName ops,
    fun r mem _ hc hcap _ hops => r.plays mem hc hcap hops⟩

/-- A VBAN receiver that is read between two packets, and an RTP receiver with a ring of two mono frames that
three arrive at. -/
theorem receivers_play_overflow :
    (let ops : List VbanOp :=
        [.poll (kVbanSignature ++ [3, 1, 0, 1] ++ List.replicate 20 0 ++ [1, 0, 2, 0]), .readFrames true 1,
          .poll (kVbanSignature ++ [3, 0, 0, 1] ++ List.replicate 20 0 ++ [3, 0]), .readFrames true 9]
      let s : VbanReceiver × VbanPollMemory := ((VbanReceiver.begin {} none 1).2, Buffer.filled _ 0)
      let es := transcript (@VbanReceiver.answer PCMFlow.documented) s ops
      let t := (after (@VbanReceiver.answer PCMFlow.documented) s ops).1
      Plays (kVbanQueueBytes / (t.format.channels.toNat * 2)) (VbanReceiver.playLog es) t.queue.contents
        (es.flatMap VbanReceiver.frameBytes)) ∧
      (let r : RtpReceiver := (RtpReceiver.setPcmBuffer {} true 4).2
        let ops : List RtpOp :=
          [.poll ([0x80, 11, 0, 1] ++ List.replicate 8 0 ++ [0, 1, 0, 2, 0, 3]), .readFrames true 9]
        let s : RtpReceiver × RtpPollMemory := ((r.begin 1).2, {})
        let es := transcript (@RtpReceiver.answer PCMFlow.documented) s ops
        Plays (r.queue.cap / ((1 : UInt8).toNat * 2)) (RtpReceiver.playLog (r.inboxSetup 1) es)
          (after (@RtpReceiver.answer PCMFlow.documented) s ops).1.queue.contents
          (es.flatMap RtpReceiver.frameBytes)) :=
  ⟨(@receivers_play PCMFlow.documented).1 {} _ ⟨[], rfl⟩ none _,
    (@receivers_play PCMFlow.documented).2 _ {} 1 (by decide) (by decide) _ (by decide +kernel)⟩

/-- Of three frames the first is skipped, the other two are played. -/
example :
    let r : RtpReceiver := (RtpReceiver.setPcmBuffer {} true 4).2
    let ops : List RtpOp :=
      [.poll ([0x80, 11, 0, 1] ++ List.replicate 8 0 ++ [0, 1, 0, 2, 0, 3]), .readFrames true 9]
    let log := RtpReceiver.playLog (r.inboxSetup 1)
      (transcript (@RtpReceiver.answer PCMFlow.documented) ((r.begin 1).2, {}) ops)
    log.played.map AudioFrame.samples = [[2], [3]] ∧ log.skipped = 1 ∧ log.next = 3 := by
  decide +kernel

end PcmFlowUdp
