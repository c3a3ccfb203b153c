import PcmFlowUdp.Rtp.Stream

/-! # The sequence law of an RTP stream

An `RtpStream` is a sender since `begin`, with the log of what happened on its stream. Whatever the calls
on either path and whatever becomes of the sends,

* **`step_streams`** — every call stamps what it offers to the UDP object;
* **`rtp_sequence_law`** — so the packets sent carry consecutive sequence numbers and timestamps, and the
  marker is on the first one and on the first one after each `setMarker(true)`. -/

namespace PcmFlowUdp

open ByteTransport PcmFrame

/-- A sender with the log of its stream. -/
structure RtpStream where
  sender : RtpSender
  events : List StreamEvent := []

namespace RtpSender

/-- The calls that leave SSRC, timestamp and sequence number to the sender. -/
def Call.keepsCounters : Call → Bool
  | .begin _ _ _ => false
  | .setSsrc _ => false
  | .setTimestamp _ => false
  | .setSequenceNumber _ => false
  | _ => true

/-- The calls of a stream once it has begun: no counter is set, and the marker only ever armed. -/
def Call.inStream : Call → Bool
  | .begin _ _ _ => false
  | .end_ => false
  | .setPayloadType _ _ => true
  | .setFormat _ => true
  | .setTimestampIncrement _ => true
  | .setMarker m => m
  | .setSsrc _ => false
  | .setTimestamp _ => false
  | .setSequenceNumber _ => false
  | .writeFrames _ _ => true
  | .writeEncoded _ _ => true
  | .flush => true

/-- The number of frames in the payload of a packet, in the sender's format. -/
def frameCount (s : RtpSender) (packet : List UInt8) : ℕ :=
  (packet.length - kRtpHeaderBytes) / (s.format.channels.toNat * 2)

/-- A call of a stream leaves the counters to the sender. -/
theorem Call.keepsCounters_of_inStream {call : Call} (h : call.inStream = true) : call.keepsCounters = true := by
  cases call <;> first | rfl | cases h

/-- What a call that takes `s` to `s'` adds to the log. A packet of the L16 path advances the timestamp by
the frames it carries, one of the encoded path by the increment in force. -/
def eventsOf (s s' : RtpSender) : Call → List StreamEvent
  | .setMarker m => [if m then .armed else .disarmed]
  | .writeEncoded _ _ => (s.attemptsSince s').map fun a => .offered a s.tsIncrement
  | _ => (s.attemptsSince s').map fun a => .offered a (UInt32.ofNat (s.frameCount a.packet))

/-- A call of a stream never takes the marker back. -/
theorem disarmed_notMem_eventsOf (s s' : RtpSender) {call : Call} (h : call.inStream = true) :
    .disarmed ∉ s.eventsOf s' call := by
  cases call with
  | setMarker m =>
    obtain rfl : m = true := h
    simp [eventsOf]
  | _ => simp [eventsOf]

/-- A call that leaves the UDP object and the stamp alone adds nothing to the log. -/
theorem streams_of_eq {s s' : RtpSender} (hudp : s'.udp = s.udp)
    (hstamp : s'.nextHeader.stamp = s.nextHeader.stamp) (event : SendAttempt → StreamEvent) :
    Streams s.outlet ((s.attemptsSince s').map event) s'.outlet := by
  have hnone : s.attemptsSince s' = [] :=
    attemptsSince_eq (by rw [hudp, List.append_nil])
  rw [hnone]
  exact Streams.of_eq hudp hstamp

/-- **The L16 path** advances the timestamp by the frames of each packet. -/
theorem Emits.streams_frameCount {s s' : RtpSender}
    {packets : List (List (PcmFrame s.format.channels.toNat))} (h : Emits s packets s')
    (hmode : L16Mode s.format.channels.toNat s) :
    Streams s.outlet
      ((s.attemptsSince s').map fun a => .offered a (UInt32.ofNat (s.frameCount a.packet)))
      s'.outlet := by
  obtain ⟨es, -, hes⟩ := h.streams hmode
  have hevents : (s.attemptsSince s').map
      (fun a => StreamEvent.offered a (UInt32.ofNat (s.frameCount a.packet)))
        = es.map Emission.event := by
    rw [attemptsSince_eq hes.attempts, Emission.filterMap_attempt, List.map_map]
    apply List.map_congr_left
    intro e _
    rw [Emission.event, e.length_frames hmode.channels_pos]
    rfl
  rw [hevents]
  exact hes

/-- The setters of the payload type touch neither the UDP object nor the stamp. -/
theorem setPayloadType_stream (s : RtpSender) (pt : UInt8) (clockRate : UInt32) :
    (s.setPayloadType pt clockRate).2.udp = s.udp ∧
      (s.setPayloadType pt clockRate).2.nextHeader.stamp = s.nextHeader.stamp := by
  rw [setPayloadType]
  split <;> exact ⟨rfl, rfl⟩

/-- `setFormat` sends nothing and leaves the next sequence number and timestamp alone. -/
theorem setFormat_stream [PCMFlow] (s : RtpSender) (fmt : PCMFormat) :
    (s.setFormat fmt).2.udp = s.udp ∧ (s.setFormat fmt).2.nextHeader.stamp = s.nextHeader.stamp := by
  rw [setFormat]
  split
  · exact ⟨rfl, rfl⟩
  · have hset := s.setPayloadType_stream (if fmt.channels = 2 then ptL16Stereo else ptL16Mono)
      fmt.sampleRate
    dsimp only
    generalize s.setPayloadType (if fmt.channels = 2 then ptL16Stereo else ptL16Mono)
      fmt.sampleRate = res at hset ⊢
    obtain ⟨ok, t⟩ := res
    cases ok <;> exact hset

/-- **One call.** Whatever it is and whatever becomes of its sends, it stamps what it offers. -/
theorem step_streams [PCMFlow] {s : RtpSender} (h : s.WF) {call : Call}
    (hcall : call.keepsCounters = true) :
    ∃ s', step s call = some s' ∧ s'.WF ∧ Streams s.outlet (s.eventsOf s' call) s'.outlet := by
  obtain ⟨s', hstep, hwf⟩ := wf_step h call
  refine ⟨s', hstep, hwf, ?_⟩
  cases call with
  | begin destPort ssrc rnd => exact absurd hcall Bool.false_ne_true
  | end_ =>
    obtain rfl := Option.some.inj hstep
    exact streams_of_eq rfl rfl _
  | setPayloadType pt clockRate =>
    obtain rfl := Option.some.inj hstep
    -- the payload type is no part of the stamp
    obtain ⟨hudp, hstamp⟩ := s.setPayloadType_stream pt clockRate
    exact streams_of_eq hudp hstamp _
  | setFormat fmt =>
    obtain rfl := Option.some.inj hstep
    obtain ⟨hudp, hstamp⟩ := s.setFormat_stream fmt
    exact streams_of_eq hudp hstamp _
  | setTimestampIncrement inc =>
    obtain rfl := Option.some.inj hstep
    exact streams_of_eq rfl rfl _
  | setMarker m =>
    obtain rfl := Option.some.inj hstep
    cases m <;> exact ⟨(List.append_nil _).symm, ⟨trivial, trivial⟩, rfl⟩
  | setSsrc ssrc => exact absurd hcall Bool.false_ne_true
  | setTimestamp ts => exact absurd hcall Bool.false_ne_true
  | setSequenceNumber seq => exact absurd hcall Bool.false_ne_true
  | writeFrames src frameCount =>
    rcases writeFrames_cases h src frameCount with ⟨error, heq⟩ | ⟨mem, rfl, hready, hmode⟩
    · rw [step, heq] at hstep
      obtain rfl := Option.some.inj hstep
      exact streams_of_eq rfl rfl _
    · obtain ⟨packets, t, heq, hemits, -, -⟩ :=
        writeFrames_spec hmode hready (h.pending_lt hmode) mem frameCount
      rw [step, heq] at hstep
      obtain rfl := Option.some.inj hstep
      exact hemits.streams_frameCount hmode
  | writeEncoded bytes count =>
    rcases writeEncoded_cases h bytes count with ⟨error, heq⟩ | ⟨mem, rfl, hready, hpt, hpos, hmax⟩
    · rw [step, heq] at hstep
      obtain rfl := Option.some.inj hstep
      exact streams_of_eq rfl rfl _
    · rw [step, writeEncoded_eq hready hpt mem hpos hmax] at hstep
      obtain rfl := Option.some.inj hstep
      have hlen := length_readMem mem 0 count
      have hsend := RtpOutlet.send_streams (o := s.outlet) hpt (by rw [hlen]; exact hpos)
        (by rw [hlen]; exact hmax) s.tsIncrement
      rw [← outlet_attempt] at hsend
      rw [eventsOf, attemptsSince_eq hsend.attempts]
      exact hsend
  | flush =>
    obtain rfl := Option.some.inj hstep
    rcases flush_cases h with ⟨error, heq⟩ | ⟨hready, hmode, hlt⟩
    · rw [heq]
      exact streams_of_eq rfl rfl _
    · obtain ⟨packets, hemits, -, -⟩ := flush_spec hmode hready hlt
      exact hemits.streams_frameCount hmode

end RtpSender

namespace RtpStream

/-- One call. -/
def step [PCMFlow] (m : RtpStream) (call : RtpSender.Call) : Option RtpStream :=
  (m.sender.step call).map fun sender =>
    { sender, events := m.events ++ m.sender.eventsOf sender call }

/-- The law of the packets sent on a stream. -/
structure SequenceLaw (ssrc : UInt32) (events : List StreamEvent) : Prop where
  /-- Every packet sent is an RTP packet of the stream. -/
  packets : ∀ a advance, .offered a advance ∈ events → a.ok = true →
    ∃ h, IsRtpPacket a.packet h ∧ h.ssrc = ssrc
  /-- The first packet sent is marked. -/
  first : ∀ pre a advance post, events = pre ++ .offered a advance :: post →
    (∀ e ∈ pre, ¬ e.IsSent) → a.ok = true → ∃ h, IsRtpPacket a.packet h ∧ h.marker = true
  /-- A packet sent goes on from the one sent before it, and is marked exactly if there was a
  `setMarker(true)` in between. -/
  next : ∀ pre a advance mid b advance' post,
    events = pre ++ .offered a advance :: (mid ++ .offered b advance' :: post) →
    a.ok = true → (∀ e ∈ mid, ¬ e.IsSent) → b.ok = true →
    ∃ h k, IsRtpPacket a.packet h ∧ IsRtpPacket b.packet k ∧
      k.sequenceNumber = h.sequenceNumber + 1 ∧ k.timestamp = h.timestamp + advance ∧
      (k.marker = true ↔ .armed ∈ mid)

/-- A stamped log that starts with the marker armed, and in which nobody takes it back, obeys the law. -/
theorem sequenceLaw_of_stamped {st : RtpStamp} {events : List StreamEvent} (harmed : st.marker = true)
    (hkept : .disarmed ∉ events) (h : Stamped RtpStamp.next RtpStamp.On st events) :
    SequenceLaw st.ssrc events where
  packets a advance hmem _ := by
    obtain ⟨pre, post, rfl⟩ := List.append_of_mem hmem
    obtain ⟨hdr, hpacket, hstamp⟩ := h.carries
    refine ⟨hdr, hpacket, ?_⟩
    rw [← RtpStamp.foldl_next_ssrc pre st, ← hstamp]
    rfl
  first pre a advance post hevents hpre _ := by
    subst hevents
    obtain ⟨hdr, hpacket, hstamp⟩ := h.carries
    refine ⟨hdr, hpacket, ?_⟩
    -- nothing before it has cleared the marker
    obtain ⟨-, -, hmarker⟩ := RtpStamp.foldl_next_of_not_sent hpre
      (fun hmem => hkept (List.mem_append_left _ hmem)) st
    rw [← hstamp] at hmarker
    exact hmarker.mpr (.inl harmed)
  next pre a advance mid b advance' post hevents ha hmid _ := by
    subst hevents
    obtain ⟨⟨hdr, hpacket, hstamp⟩, ⟨hdr', hpacket', hstamp'⟩⟩ := h.pair
    rw [List.foldl_cons, ← hstamp] at hstamp'
    have hmid' : .disarmed ∉ mid := fun hmem =>
      hkept (List.mem_append_right _ (List.mem_cons_of_mem _ (List.mem_append_left _ hmem)))
    obtain ⟨hseq, hts, hmarker⟩ :=
      RtpStamp.foldl_next_of_not_sent hmid hmid' (hdr.stamp.next (.offered a advance))
    rw [← hstamp', RtpStamp.next, if_pos ha] at hseq hts hmarker
    refine ⟨hdr, hdr', hpacket, hpacket', hseq, hts, hmarker.trans ?_⟩
    simp

/-- What every call keeps, from the state in which the stream began. -/
structure Inv (start : RtpSender) (m : RtpStream) : Prop where
  wf : m.sender.WF
  streams : Streams start.outlet m.events m.sender.outlet

/-- **The RTP sequence law.** From every reachable state, after a `begin`, whatever the calls of the stream
and whatever becomes of the sends: the log of the stream holds every attempt since then, and the packets
sent obey the law. -/
theorem rtp_sequence_law [PCMFlow] {s₀ : RtpSender} (h₀ : s₀.Reachable) (destPort : UInt16)
    (ssrc : UInt32) (rnd : RtpRandom) {calls : List RtpSender.Call}
    (hcalls : ∀ call ∈ calls, call.inStream = true) :
    ∃ m, run step { sender := (s₀.begin destPort ssrc rnd).2 } calls = some m ∧
      m.events.filterMap StreamEvent.attempt
        = (s₀.begin destPort ssrc rnd).2.attemptsSince m.sender ∧
      SequenceLaw (s₀.begin destPort ssrc rnd).2.ssrc m.events := by
  set start := (s₀.begin destPort ssrc rnd).2 with hstart
  have hwf : start.WF := by
    obtain ⟨s', hstep, hwf⟩ := RtpSender.wf_step h₀.wf (.begin destPort ssrc rnd)
    obtain rfl := Option.some.inj hstep
    exact hwf
  have hinv : Inv start { sender := start } := ⟨hwf, Streams.of_eq rfl rfl⟩
  obtain ⟨m, hrun, h, hkept⟩ := run_total (fun m call (h : Inv start m ∧ .disarmed ∉ m.events) hcall => by
      obtain ⟨s', hstep, hwf', hstreams⟩ :=
        RtpSender.step_streams h.1.wf (RtpSender.Call.keepsCounters_of_inStream hcall)
      have hstep' : step m call = some ⟨s', m.events ++ m.sender.eventsOf s' call⟩ := by
        rw [step, hstep]
        rfl
      refine ⟨_, hstep', ⟨hwf', h.1.streams.trans hstreams⟩, fun hmem => ?_⟩
      rcases List.mem_append.mp hmem with hold | hnew
      · exact h.2 hold
      · exact m.sender.disarmed_notMem_eventsOf s' hcall hnew)
    ⟨hinv, List.not_mem_nil⟩ (admissible_of_mem hcalls _)
  refine ⟨m, hrun, (RtpSender.attemptsSince_eq h.streams.attempts).symm, ?_⟩
  have harmed : start.nextHeader.stamp.marker = true := rfl
  exact sequenceLaw_of_stamped harmed hkept h.streams.stamped

/-- Both paths, with a send that fails while the marker is armed. -/
theorem rtp_sequence_law_failed_send :
    ∃ m, run (@step PCMFlow.documented)
        { sender := ((RtpSender.new fun k => if k = 1 then { endPacket := 0 } else {}).begin 5004 1
            ⟨2, 3, 4⟩).2 }
        [.setFormat ⟨50, 1, 16⟩, .writeFrames (some [1, 0]) 1, .setMarker true,
          .writeFrames (some [2, 0]) 1, .setTimestampIncrement 160, .writeEncoded (some [9]) 1, .flush]
          = some m ∧
      m.events.filterMap StreamEvent.attempt = (((RtpSender.new fun k => if k = 1 then { endPacket := 0 }
        else {}).begin 5004 1 ⟨2, 3, 4⟩).2.attemptsSince m.sender) ∧
      SequenceLaw 1 m.events :=
  @rtp_sequence_law PCMFlow.documented _ ⟨_, [], rfl⟩ 5004 1 ⟨2, 3, 4⟩ _ (by decide)

end RtpStream

end PcmFlowUdp
