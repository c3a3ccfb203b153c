import PcmFlowUdp.ByteTransport.Answers
import PcmFlowUdp.Vban.Classification

/-! # `VbanReceiver` is a bounded queue of frames

The purpose of a receiver, stated without its ring: `FrameQueue` holds whole frames of the locked format.
A packet that is accepted appends its frames and drops the oldest that are too many, a read takes frames
off the front, and nothing else touches the queue. The receiver keeps bytes in a ring of 2048 cells with
three counters; `Refines` relates the two.

* **`Refines.step`** — every call answers what the frame queue answers, and keeps them related;
* **`vban_frame_queue`** — so does every run since a successful `begin`, and what a run returns are frames
  of accepted packets, whole and in order. -/

namespace PcmFlowUdp

open ByteTransport PcmFrame

/-- What happens to a receiver once it is bound. -/
inductive VbanOp
  /-- `poll`, with this datagram arrived. -/
  | poll (d : List UInt8)
  /-- `readFrames`; `nonNull` says that the output pointer is not null. -/
  | readFrames (nonNull : Bool) (frameCount : ℕ)

/-- What the receiver answers: the result of `poll`, or the count and the bytes of `readFrames`. -/
inductive VbanAnswer
  | poll (ok : Bool)
  | readFrames (frames : ℕ) (out : List UInt8)
  deriving DecidableEq, Repr

/-- The call and its answer. -/
def VbanReceiver.answer [PCMFlow] (s : VbanReceiver × VbanPollMemory) :
    VbanOp → VbanAnswer × VbanReceiver × VbanPollMemory
  | .poll d =>
      let (ok, s') := s.1.poll s.2 (Inbound.ofDatagram d)
      (.poll ok, s')
  | .readFrames nonNull frameCount =>
      let (k, out, r) := s.1.readFrames nonNull frameCount
      (.readFrames k out, r, s.2)

/-! ## The frame queue -/

/-- What a frame queue answers: the result of `poll`, or the frames of `readFrames`. -/
inductive FrameAnswer
  | poll (ok : Bool)
  | readFrames (frames : List AudioFrame)

/-- The answer in memory. -/
def FrameAnswer.inMemory : FrameAnswer → VbanAnswer
  | .poll ok => .poll ok
  | .readFrames frames => .readFrames frames.length (AudioFrame.hostImage frames)

/-- A bounded queue of frames. -/
structure FrameQueue where
  /-- The stream name to filter by, if any. -/
  filter : Option (List UInt8)
  /-- The format that the queue is locked to, if its rate is not zero. -/
  format : PCMFormat := {}
  /-- The frames, oldest first. -/
  frames : List AudioFrame := []

namespace FrameQueue

/-- Append the frames of a packet; of all frames the last are kept that fit 2048 bytes. -/
def accept (q : FrameQueue) (e : List UInt8) : FrameQueue :=
  { q with
    format := wireFormat e
    frames := keepLast (kVbanQueueBytes / ((wireFormat e).channels.toNat * 2))
      (q.frames ++ (packetFrames e).map audio) }

/-- The answer to a call, and the queue afterwards. No more than 1436 bytes of a datagram are looked
at. -/
def answer (q : FrameQueue) : VbanOp → FrameAnswer × FrameQueue
  | .poll d =>
      (.poll (decide (SpeaksVban .service d ∨ AcceptedBy q.filter q.format d)),
        if AcceptedBy q.filter q.format d then q.accept (d.take kVbanMaxPacketBytes) else q)
  | .readFrames nonNull frameCount =>
      let k := if nonNull then frameCount else 0
      (.readFrames (q.frames.take k), { q with frames := q.frames.drop k })

/-- The frames that reads returned. -/
def returned (es : List (VbanOp × FrameAnswer)) : List AudioFrame :=
  es.flatMap fun e => match e.2 with
    | .readFrames frames => frames
    | .poll _ => []

/-- The frames of the audio packets accepted. -/
def accepted (es : List (VbanOp × FrameAnswer)) : List AudioFrame :=
  es.flatMap fun e => match e with
    | (.poll d, .poll true) =>
        if SpeaksVban .audio d then (packetFrames (d.take kVbanMaxPacketBytes)).map audio else []
    | _ => []

/-- What is returned adds up over the answers. -/
@[simp] theorem returned_cons (e : VbanOp × FrameAnswer) (es : List (VbanOp × FrameAnswer)) :
    returned (e :: es) = returned [e] ++ returned es := by simp [returned]

/-- So does what is accepted. -/
@[simp] theorem accepted_cons (e : VbanOp × FrameAnswer) (es : List (VbanOp × FrameAnswer)) :
    accepted (e :: es) = accepted [e] ++ accepted es := by simp [accepted]

/-- No step makes up a frame, tears one or changes the order. -/
theorem step_sublist (q : FrameQueue) (op : VbanOp) :
    List.Sublist (returned [(op, (q.answer op).1)] ++ (q.answer op).2.frames)
      (q.frames ++ accepted [(op, (q.answer op).1)]) := by
  cases op with
  | poll d =>
    by_cases hacc : AcceptedBy q.filter q.format d
    · have hq : (q.answer (.poll d)).2 = q.accept (d.take kVbanMaxPacketBytes) := if_pos hacc
      have hnew : accepted [(VbanOp.poll d, (q.answer (.poll d)).1)]
          = (packetFrames (d.take kVbanMaxPacketBytes)).map audio := by
        simp [accepted, answer, hacc, hacc.audio]
      rw [hq, hnew]
      exact (keepLast_suffix _ _).sublist
    · have hq : (q.answer (.poll d)).2 = q := if_neg hacc
      rw [hq]
      exact List.sublist_append_left _ _
  | readFrames nonNull frameCount =>
    have hall : returned [(VbanOp.readFrames nonNull frameCount,
        (q.answer (.readFrames nonNull frameCount)).1)]
          ++ (q.answer (.readFrames nonNull frameCount)).2.frames = q.frames := by
      simp [returned, answer]
    rw [hall]
    exact List.sublist_append_left _ _

/-- **What a run returns came in**, whole and in order: frames are lost, and that is all. -/
theorem run_sublist (q : FrameQueue) (ops : List VbanOp) :
    List.Sublist (returned (transcript answer q ops) ++ (after answer q ops).frames)
      (q.frames ++ accepted (transcript answer q ops)) := by
  induction ops generalizing q with
  | nil => simp [returned, accepted]
  | cons op ops ih =>
    rw [transcript_cons, after_cons, returned_cons, accepted_cons, List.append_assoc]
    have hrest := (ih (q.answer op).2).append_left (returned [(op, (q.answer op).1)])
    rw [← List.append_assoc (returned [(op, (q.answer op).1)])] at hrest
    have hstep := (q.step_sublist op).append_right (accepted (transcript answer (q.answer op).2 ops))
    rw [← List.append_assoc q.frames]
    rw [List.append_assoc (returned [(op, (q.answer op).1)])] at hstep hrest
    exact hrest.trans hstep

end FrameQueue

/-! ## Refinement -/

namespace VbanReceiver

/-- The receiver holds the frames of the queue: their bytes are the contents of the ring, and its three
counters are at the boundaries of frames. -/
structure Refines (r : VbanReceiver) (q : FrameQueue) : Prop where
  ready : r.ready = true
  inv : r.Inv
  filter : r.filter = q.filter
  format : r.format = q.format
  contents : ∃ fs : List (PcmFrame q.format.channels.toNat),
    r.queue.contents = hostImage fs ∧ q.frames = fs.map audio
  /-- Without a lock there is nothing to hold. -/
  unlocked : q.format = {} → q.frames = []
  aligned : r.queue.Aligned (q.format.channels.toNat * 2)

/-- A frame of an audio format has bytes, and the ring holds a whole number of frames. -/
theorem IsAudioFormat.frame {fmt : PCMFormat} (h : IsAudioFormat fmt) :
    0 < fmt.channels.toNat ∧ fmt.channels.toNat * 2 ∣ kVbanQueueBytes := by
  rcases h.channels with hc | hc <;> rw [hc] <;> decide

/-- Frames are only there once the format is locked. -/
theorem Refines.nil_or_locked {r : VbanReceiver} {q : FrameQueue} (h : r.Refines q) :
    q.frames = [] ∨ IsAudioFormat q.format := by
  rw [← h.format]
  rcases h.inv.lock with hnone | hset
  · exact .inl (h.unlocked (h.format ▸ hnone))
  · exact .inr hset

/-- The number of frames queued, in the words of the counters. -/
theorem Refines.count {r : VbanReceiver} {q : FrameQueue} (h : r.Refines q) :
    r.queue.count = q.frames.length * (q.format.channels.toNat * 2) := by
  obtain ⟨fs, hcont, hframes⟩ := h.contents
  rw [count_frames hcont, hframes, List.length_map]

/-- A receiver that was just bound is empty. -/
theorem refines_begin {r : VbanReceiver} (hinv : r.Inv) (streamName : Option (List UInt8)) :
    (r.begin streamName 1).2.Refines { filter := (r.begin streamName 1).2.filter } where
  ready := rfl
  inv := ⟨.inl rfl, hinv.cap⟩
  filter := rfl
  format := rfl
  contents := ⟨[], RingBuffer.contents_clear _, rfl⟩
  unlocked _ := rfl
  aligned := RingBuffer.aligned_clear _ _

section Steps

variable {r : VbanReceiver} {q : FrameQueue} (h : r.Refines q)

include h

/-- What is queued is of the format of every packet that is accepted, or nothing is queued. -/
theorem Refines.queued {e : List UInt8} (hacc : AcceptedBy r.filter r.format e) :
    ∃ fs : List (PcmFrame (wireFormat e).channels.toNat),
      r.queue.contents = hostImage fs ∧ q.frames = fs.map audio ∧
        r.queue.Aligned ((wireFormat e).channels.toNat * 2) := by
  have hlock := h.inv.lock.format_eq hacc
  by_cases hzero : r.format.sampleRate = 0
  · have hnone : q.format = {} := by
      rcases h.inv.lock with hnone | hset
      · rw [← h.format, hnone]
      · exact absurd hzero hset.rate_ne_zero
    have hempty : q.frames = [] := h.unlocked hnone
    have hcount := h.count
    rw [hempty, List.length_nil, Nat.zero_mul] at hcount
    have haligned := h.aligned
    rw [hnone] at haligned
    -- all three counters are zero
    have hzeros : ∀ n : ℕ, 0 ∣ n → (wireFormat e).channels.toNat * 2 ∣ n := fun n hn => by
      rw [Nat.eq_zero_of_zero_dvd hn]
      exact Nat.dvd_zero _
    refine ⟨[], ?_, hempty, hzeros _ haligned.head, hzeros _ haligned.tail, hzeros _ haligned.count⟩
    exact List.length_eq_zero_iff.mp (by rw [RingBuffer.length_contents, hcount])
  · rw [if_neg hzero, h.format] at hlock
    obtain ⟨fs, hcont, hframes⟩ := h.contents
    rw [← hlock]
    exact ⟨fs, hcont, hframes, h.aligned⟩

/-- Accepting a packet queues its frames. -/
theorem Refines.accept {e : List UInt8} (hacc : AcceptedBy r.filter r.format e) :
    (r.accept e).Refines (q.accept e) := by
  have haudio : IsAudioFormat (wireFormat e) := isAudioFormat_wireFormat hacc
  have hcap : (wireFormat e).channels.toNat * 2 ∣ r.queue.cap := by
    rw [h.inv.cap]
    exact haudio.frame.2
  obtain ⟨fs, hcont, hframes, haligned⟩ := h.queued hacc
  refine ⟨h.ready, ⟨.inr haudio, (RingBuffer.cap_push _ _).trans h.inv.cap⟩, h.filter, rfl, ?_, ?_, ?_⟩
  · refine ⟨_, push_frames_of_dvd hcont hcap (packetFrames e), ?_⟩
    have hmap : ((keepLast (r.queue.cap / ((wireFormat e).channels.toNat * 2))
        (fs ++ packetFrames e)).map audio) = (q.accept e).frames := by
      rw [map_keepLast, List.map_append, ← hframes, h.inv.cap]
      rfl
    exact hmap.symm
  · intro hnone
    exact absurd (congrArg PCMFormat.sampleRate hnone) haudio.rate_ne_zero
  · refine haligned.push hcap ?_
    rw [length_hostImage]
    exact Nat.dvd_mul_left _ _

/-- A change of what no read and no audio packet looks at. -/
theorem Refines.congr {r' : VbanReceiver} (hready : r'.ready = r.ready) (hfilter : r'.filter = r.filter)
    (hformat : r'.format = r.format) (hqueue : r'.queue = r.queue) : r'.Refines q where
  ready := hready.trans h.ready
  inv := ⟨by rw [LockOk, hformat]; exact h.inv.lock, by rw [hqueue, h.inv.cap]⟩
  filter := hfilter.trans h.filter
  format := hformat.trans h.format
  contents := by rw [hqueue]; exact h.contents
  unlocked := h.unlocked
  aligned := by rw [hqueue]; exact h.aligned

variable [PCMFlow]

/-- Polling, matched. -/
theorem Refines.poll (buf : VbanPollMemory) (d : List UInt8) :
    (r.poll buf (Inbound.ofDatagram d)).1
        = decide (SpeaksVban .service d ∨ AcceptedBy q.filter q.format d) ∧
      (r.poll buf (Inbound.ofDatagram d)).2.1.Refines (q.answer (.poll d)).2 := by
  rw [← h.filter, ← h.format]
  have hkept : ¬ AcceptedBy r.filter r.format d → (q.answer (.poll d)).2 = q := fun hacc => by
    rw [h.filter, h.format] at hacc
    exact if_neg hacc
  rcases eq_or_ne d [] with rfl | hd
  · -- nothing has arrived
    have hnothing : ∀ sub, ¬ SpeaksVban sub [] := fun sub hs => absurd hs.length (by decide)
    have hacc : ¬ AcceptedBy r.filter r.format [] := fun ha => hnothing _ ha.audio
    rw [r.poll_none buf (show (Inbound.ofDatagram []).parsePacket ≤ 0 from le_rfl), hkept hacc]
    exact ⟨(decide_eq_false (not_or.mpr ⟨hnothing _, hacc⟩)).symm, h⟩
  have hpolled := poll_cases h.inv.lock h.ready buf hd
  generalize (r.poll buf (Inbound.ofDatagram d)).1 = ok at hpolled
  generalize (r.poll buf (Inbound.ofDatagram d)).2.1 = r' at hpolled
  cases hpolled with
  | service hservice hparse =>
    rw [hkept fun hacc => hacc.not_service hservice]
    exact ⟨(decide_eq_true (.inl hservice)).symm, h.congr rfl rfl rfl rfl⟩
  | audio hacc =>
    have hq : (q.answer (.poll d)).2 = q.accept (d.take kVbanMaxPacketBytes) :=
      if_pos (h.filter ▸ h.format ▸ hacc)
    rw [hq]
    exact ⟨(decide_eq_true (.inr hacc)).symm, h.accept (acceptedBy_take.mpr hacc)⟩
  | dropped hservice hacc error =>
    rw [hkept hacc]
    exact ⟨(decide_eq_false (not_or.mpr ⟨hservice, hacc⟩)).symm, h.congr rfl rfl rfl rfl⟩

/-- Reading, matched. -/
theorem Refines.read (nonNull : Bool) (frameCount : ℕ) :
    ∃ queue,
      r.readFrames nonNull frameCount
        = ((q.frames.take (if nonNull then frameCount else 0)).length,
            AudioFrame.hostImage (q.frames.take (if nonNull then frameCount else 0)),
            { r with queue }) ∧
      ({ r with queue } : VbanReceiver).Refines (q.answer (.readFrames nonNull frameCount)).2 := by
  obtain ⟨fs, hcont, hframes⟩ := h.contents
  -- frames are queued only once a format is locked
  have haudio : fs ≠ [] → IsAudioFormat q.format := fun hne =>
    h.nil_or_locked.resolve_left fun hnil => hne (List.map_eq_nil_iff.mp (hframes ▸ hnil))
  have hbpf : fs ≠ [] → 0 < q.format.channels.toNat ∧
      r.format.bytesPerFrame = q.format.channels.toNat * 2 := fun hne => by
    rw [h.format]
    exact ⟨(haudio hne).frame.1, PCMFormat.bytesPerFrame_pcm16 (haudio hne).bits⟩
  have hdvd : fs = [] ∨ q.format.channels.toNat * 2 ∣ r.queue.cap := by
    rw [h.inv.cap]
    exact (eq_or_ne fs []).imp_right fun hne => (haudio hne).frame.2
  obtain ⟨queue, hread, hrest, hcap, haligned⟩ := readQueue_min hcont hbpf nonNull frameCount
  refine ⟨queue, ?_, h.ready, ⟨h.inv.lock, hcap.trans h.inv.cap⟩, h.filter, h.format, ?_, ?_, ?_⟩
  · rw [VbanReceiver.readFrames, h.ready, hread, hframes, ← List.map_take, List.length_map,
      AudioFrame.hostImage_map_audio]
  · have hmap : (fs.drop (if nonNull then frameCount else 0)).map audio
        = (q.answer (.readFrames nonNull frameCount)).2.frames := by
      rw [List.map_drop, ← hframes]
      rfl
    exact ⟨_, hrest, hmap.symm⟩
  · intro hnone
    show q.frames.drop _ = []
    rw [h.unlocked hnone, List.drop_nil]
  · exact haligned hdvd h.aligned

/-- **One call.** It answers what the frame queue answers, and the receiver goes on holding the frames of
the queue. -/
theorem Refines.step (buf : VbanPollMemory) (op : VbanOp) :
    (answer (r, buf) op).1 = (q.answer op).1.inMemory ∧
      (answer (r, buf) op).2.1.Refines (q.answer op).2 := by
  cases op with
  | poll d =>
    obtain ⟨hok, hrest⟩ := h.poll buf d
    exact ⟨congrArg VbanAnswer.poll hok, hrest⟩
  | readFrames nonNull frameCount =>
    obtain ⟨queue, hread, hrest⟩ := h.read nonNull frameCount
    rw [answer, hread]
    exact ⟨rfl, hrest⟩

end Steps

/-- **A receiver is a bounded queue of frames.** Whatever datagrams arrive and whatever is read since a
successful `begin`, it answers as the frame queue does and holds its frames, with all three counters of
the ring at the boundaries of frames; and every frame that was returned is one of an accepted packet, in
the order in which they came. -/
theorem vban_frame_queue [PCMFlow] {r : VbanReceiver} {buf : VbanPollMemory} (hr : Reachable (r, buf))
    (streamName : Option (List UInt8)) (ops : List VbanOp) :
    let s := (r.begin streamName 1).2
    let q : FrameQueue := { filter := s.filter }
    transcript answer (s, buf) ops
        = (transcript FrameQueue.answer q ops).map (Prod.map id FrameAnswer.inMemory) ∧
      (after answer (s, buf) ops).1.Refines (after FrameQueue.answer q ops) ∧
      List.Sublist (FrameQueue.returned (transcript FrameQueue.answer q ops))
        (FrameQueue.accepted (transcript FrameQueue.answer q ops)) := by
  intro s q
  have hstart : s.Refines q := refines_begin hr.inv streamName
  obtain ⟨htr, hend⟩ := transcript_simulates
    (R := fun (s : VbanReceiver × VbanPollMemory) q => s.1.Refines q)
    (fun s q op h => h.step s.2 op) (s := (s, buf)) hstart ops
  refine ⟨htr, hend, ?_⟩
  exact (List.sublist_append_left _ _).trans (q.run_sublist ops)

/-- A packet of two mono frames that announces three, in the first stream of a new receiver. -/
theorem vban_frame_queue_short :
    let s := (begin {} none 1).2
    let q : FrameQueue := { filter := s.filter }
    let ops : List VbanOp :=
      [.poll (kVbanSignature ++ [3, 2, 0, 1] ++ List.replicate 20 0 ++ [1, 0, 2, 0]), .readFrames true 9]
    transcript (@answer PCMFlow.documented) (s, Buffer.filled _ 0) ops
        = (transcript FrameQueue.answer q ops).map (Prod.map id FrameAnswer.inMemory) ∧
      (after (@answer PCMFlow.documented) (s, Buffer.filled _ 0) ops).1.Refines
        (after FrameQueue.answer q ops) ∧
      List.Sublist (FrameQueue.returned (transcript FrameQueue.answer q ops))
        (FrameQueue.accepted (transcript FrameQueue.answer q ops)) :=
  @vban_frame_queue PCMFlow.documented _ _ ⟨[], rfl⟩ none _

end VbanReceiver

end PcmFlowUdp
