import PcmFlowUdp.Rtp.Stream
import PcmFlowUdp.Rtp.StreamIdentity

/-! # The media clock of an L16 stream

A sender in L16 mode discards the frames of a packet that it could not send, and its timestamp only moves
on when a packet is sent. So

* **`rtp_media_clock`** — between two packets that were sent, the timestamps tell the frames accepted in
  between exactly if the frames lost in between are a multiple of 2^32, in particular if none are;
* `lost_frame_hidden` — a frame that is lost in between and leaves no trace in the timestamps. -/

namespace PcmFlowUdp

open ByteTransport PcmFrame

/-- One call. -/
inductive MediaOp
  | writeFrames (src : Option (List UInt8)) (frameCount : ℕ)
  | flush

/-- A sender with the frames that `writeFrames` accepted. -/
structure MediaSession (c : ℕ) where
  sender : RtpSender
  accepted : List (PcmFrame c) := []

/-- The frames that the packets of some attempts carry. -/
def carried (c : ℕ) (attempts : List SendAttempt) : List (PcmFrame c) :=
  attempts.flatMap fun a => l16Frames c a.packet

/-- The frames of the packets that were not sent. -/
def lost (c : ℕ) (attempts : List SendAttempt) : List (PcmFrame c) :=
  carried c (attempts.filter fun a => !a.ok)

/-- From attempt `a` to attempt `b`, with the attempts `mid` in between, the timestamp moves by the number
of frames from the first frame of `a` up to the first frame of `b`. -/
def ClockKept (c : ℕ) (a : SendAttempt) (mid : List SendAttempt) (b : SendAttempt) : Prop :=
  ∃ h k, IsRtpPacket a.packet h ∧ IsRtpPacket b.packet k ∧
    k.timestamp - h.timestamp = UInt32.ofNat (carried c (a :: mid)).length

/-! ## Counting frames -/

/-- Counts that agree modulo 2^32 differ by a multiple of it. -/
theorem ofNat_eq_ofNat_add_iff (x y : ℕ) : UInt32.ofNat x = UInt32.ofNat (x + y) ↔ 2 ^ 32 ∣ y := by
  rw [← UInt32.toNat_inj, UInt32.toNat_ofNat', UInt32.toNat_ofNat']
  omega

namespace Emission

variable {c : ℕ}

/-- The frames of an emission are those its packet carries. -/
theorem l16Frames_packet (hc : 0 < c) (e : Emission c) : l16Frames c e.attempt.packet = e.frames := by
  rw [l16Frames, e.carries, netFrames_netImage hc]

/-- The frames in the packets attempted. -/
theorem carried_attempts (hc : 0 < c) (es : List (Emission c)) :
    carried c (es.map attempt) = es.flatMap frames := by
  rw [carried, List.flatMap_map]
  congr 1
  funext e
  exact e.l16Frames_packet hc

/-- The frames in those that failed. -/
theorem lost_attempts (hc : 0 < c) (es : List (Emission c)) :
    lost c (es.map attempt) = (es.filter fun e => !e.ok).flatMap frames := by
  rw [lost, List.filter_map, carried_attempts hc]
  rfl

/-- Every frame was sent or lost. -/
theorem length_sent_add_lost (es : List (Emission c)) :
    (es.flatMap frames).length = ((es.filter ok).flatMap frames).length
      + ((es.filter fun e => !e.ok).flatMap frames).length := by
  have hperm := (List.filter_append_perm ok es).flatMap_right frames
  rw [← hperm.length_eq, List.flatMap_append, List.length_append]

/-- **Two packets that were sent.** -/
theorem clockKept_iff (hc : 0 < c) {st : RtpStamp} {pre : List (Emission c)} {a : Emission c}
    {mid : List (Emission c)} {b : Emission c} {post : List (Emission c)}
    (h : Stamped RtpStamp.next RtpStamp.On st
      ((pre ++ a :: (mid ++ b :: post)).map event)) (ha : a.ok = true) :
    ClockKept c a.attempt (mid.map attempt) b.attempt ↔
      2 ^ 32 ∣ (lost c (mid.map attempt)).length := by
  rw [List.map_append, List.map_cons, List.map_append, List.map_cons] at h
  obtain ⟨⟨hdr, hpacket, hstamp⟩, ⟨hdr', hpacket', hstamp'⟩⟩ := h.pair
  rw [← hstamp, ← List.map_cons] at hstamp'
  -- the timestamp counts what was sent
  have hts : hdr'.timestamp
      = hdr.timestamp + UInt32.ofNat (((a :: mid).filter ok).flatMap frames).length :=
    (congrArg RtpStamp.timestamp hstamp').trans (foldl_next_timestamp (a :: mid) hdr.stamp)
  have hsplit := length_sent_add_lost (a :: mid)
  have hlost : (a :: mid).filter (fun e => !e.ok) = mid.filter fun e => !e.ok :=
    List.filter_cons_of_neg (by rw [ha]; exact Bool.false_ne_true)
  rw [hlost, ← lost_attempts hc] at hsplit
  rw [← ofNat_eq_ofNat_add_iff (((a :: mid).filter ok).flatMap frames).length, ← hsplit,
    ClockKept, ← List.map_cons, carried_attempts hc]
  constructor
  · rintro ⟨h₁, h₂, hp₁, hp₂, heq⟩
    obtain rfl := Except.ok.inj (hp₁.parse.symm.trans hpacket.parse)
    obtain rfl := Except.ok.inj (hp₂.parse.symm.trans hpacket'.parse)
    rw [← heq, hts]
    grind
  · intro heq
    refine ⟨hdr, hdr', hpacket, hpacket', ?_⟩
    rw [← heq, hts]
    grind

end Emission

namespace MediaSession

variable {c : ℕ}

/-- One call. -/
def step [PCMFlow] (m : MediaSession c) : MediaOp → Option (MediaSession c)
  | .writeFrames src frameCount =>
      (m.sender.writeFrames src frameCount).map fun (n, sender) =>
        { sender, accepted := m.accepted ++ memFrames c (src.getD []) n }
  | .flush => some { m with sender := m.sender.flush.2 }

/-- What every call keeps, from the sender with which the stream began. -/
structure Inv (start : RtpSender) (m : MediaSession c) : Prop where
  ready : m.sender.ready = true
  pending_lt : m.sender.pendingFrames < m.sender.samplesPerPacket.toNat
  /-- What was emitted and what is pending is what was accepted. -/
  emits : ∃ packets : List (List (PcmFrame c)), RtpSender.Emits start packets m.sender ∧
    packets.flatten ++ RtpSender.scratch.pending c m.sender = m.accepted

/-- **One call.** -/
theorem Inv.step [PCMFlow] {start : RtpSender} (hstart : RtpSender.L16Mode c start)
    {m : MediaSession c} (h : Inv start m) (op : MediaOp) :
    ∃ m', MediaSession.step m op = some m' ∧ Inv start m' := by
  obtain ⟨packets, hemits, haccepted⟩ := h.emits
  have hmode := hemits.setup.l16Mode hstart
  cases op with
  | writeFrames src frameCount =>
    obtain ⟨n, new, s', heq, hnew, hflat, hlt⟩ :=
      RtpSender.writeFrames_accepted hmode h.ready h.pending_lt src frameCount
    rw [MediaSession.step, heq]
    refine ⟨_, rfl, hnew.setup.ready.trans h.ready, hlt, packets ++ new, hemits.trans hnew, ?_⟩
    dsimp only
    rw [List.flatten_append, List.append_assoc, hflat, ← List.append_assoc, haccepted]
  | flush =>
    obtain ⟨new, hnew, hflat, hzero⟩ := RtpSender.flush_spec hmode h.ready h.pending_lt
    have hmode' := hnew.setup.l16Mode hmode
    refine ⟨_, rfl, hnew.setup.ready.trans h.ready, ?_, packets ++ new, hemits.trans hnew, ?_⟩
    · dsimp only
      rw [hzero]
      exact hmode'.samplesPerPacket_pos
    · dsimp only
      rw [List.flatten_append, hflat, RtpSender.scratch.pending_eq_nil hmode.channels_pos hzero,
        List.append_nil, haccepted]

/-- **The RTP media clock.** For a sender opened in L16 mode, whatever is written and flushed and whatever
becomes of the sends: the packets offered and what is pending carry the frames accepted, in order; and
between any two packets that were sent the timestamp moves by the frames accepted in between exactly if
the frames lost in between are a multiple of 2^32. -/
theorem rtp_media_clock [PCMFlow] {fmt : PCMFormat} {s : RtpSender} (hopen : s.Opened fmt)
    (ops : List MediaOp) :
    ∃ m, run step ({ sender := s } : MediaSession fmt.channels.toNat) ops = some m ∧
      carried fmt.channels.toNat (s.attemptsSince m.sender)
        ++ RtpSender.scratch.pending fmt.channels.toNat m.sender = m.accepted ∧
      ∀ pre a mid b post, s.attemptsSince m.sender = pre ++ a :: (mid ++ b :: post) →
        a.ok = true → b.ok = true →
        (ClockKept fmt.channels.toNat a mid b ↔ 2 ^ 32 ∣ (lost fmt.channels.toNat mid).length) := by
  obtain ⟨hmode, hready, hpend, -⟩ := hopen.spec
  have hc := hmode.channels_pos
  have hstart : Inv s ({ sender := s } : MediaSession fmt.channels.toNat) := by
    refine ⟨hready, ?_, [], RtpSender.Emits.refl s, ?_⟩
    · rw [hpend]
      exact hmode.samplesPerPacket_pos
    · exact RtpSender.scratch.pending_eq_nil hc hpend
  obtain ⟨m, hrun, h⟩ := run_total (fun m op h _ => Inv.step hmode h op) hstart
    (admissible_of_forall (fun _ _ => trivial) _ ops)
  obtain ⟨packets, hemits, haccepted⟩ := h.emits
  obtain ⟨es, hframes, hstreams⟩ := hemits.streams hmode
  have hattempts : s.attemptsSince m.sender = es.map Emission.attempt := by
    rw [RtpSender.attemptsSince_eq hstreams.attempts, Emission.filterMap_attempt]
  refine ⟨m, hrun, ?_, ?_⟩
  · rw [hattempts, Emission.carried_attempts hc, List.flatMap_def, hframes, haccepted]
  · intro pre a mid b post hsplit ha hb
    -- the emissions split where their attempts do
    rw [hattempts] at hsplit
    obtain ⟨pre', rest, rfl, rfl, hrest⟩ := List.map_eq_append_iff.mp hsplit
    obtain ⟨a', rest', rfl, rfl, hrest'⟩ := List.map_eq_cons_iff.mp hrest
    obtain ⟨mid', rest'', rfl, rfl, hrest''⟩ := List.map_eq_append_iff.mp hrest'
    obtain ⟨b', post', rfl, rfl, -⟩ := List.map_eq_cons_iff.mp hrest''
    exact Emission.clockKept_iff hc hstreams.stamped ha

/-- A sender of packets of one frame each, whose second send fails. -/
def flakySender : RtpSender :=
  (@RtpSender.setFormat PCMFlow.documented
    ((RtpSender.new fun k => if k = 1 then { endPacket := 0 } else {}).begin 5004 1 ⟨2, 3, 4⟩).2
    ⟨50, 1, 16⟩).2

/-- It was opened. -/
theorem opened_flakySender : @RtpSender.Opened PCMFlow.documented ⟨50, 1, 16⟩ flakySender :=
  ⟨RtpSender.new fun k => if k = 1 then { endPacket := 0 } else {}, 5004, 1, ⟨2, 3, 4⟩, by decide,
    by decide, .inl rfl⟩

/-- Three frames, of which the second is lost. -/
theorem rtp_media_clock_flaky :
    ∃ m, run (@step 1 PCMFlow.documented) { sender := flakySender }
        [.writeFrames (some [1, 0, 2, 0, 3, 0]) 3, .flush] = some m ∧
      carried 1 (flakySender.attemptsSince m.sender) ++ RtpSender.scratch.pending 1 m.sender
        = m.accepted ∧
      ∀ pre a mid b post, flakySender.attemptsSince m.sender = pre ++ a :: (mid ++ b :: post) →
        a.ok = true → b.ok = true → (ClockKept 1 a mid b ↔ 2 ^ 32 ∣ (lost 1 mid).length) :=
  @rtp_media_clock PCMFlow.documented ⟨50, 1, 16⟩ flakySender opened_flakySender _

/-- Between the first and the third of three frames the timestamp moves by one only: the loss of the second
does not show. -/
theorem lost_frame_hidden :
    ∃ m, run (@step 1 PCMFlow.documented) { sender := flakySender }
        [.writeFrames (some [1, 0, 2, 0, 3, 0]) 3] = some m ∧
      ∃ a x b, flakySender.attemptsSince m.sender = [a, x, b] ∧ a.ok = true ∧ b.ok = true ∧
        ¬ ClockKept 1 a [x] b := by
  set a : SendAttempt := ⟨[0x80, 0x8B, 0, 3, 0, 0, 0, 4, 0, 0, 0, 1, 0, 1], {}⟩ with ha
  set x : SendAttempt :=
    ⟨[0x80, 0x0B, 0, 4, 0, 0, 0, 5, 0, 0, 0, 1, 0, 2], { endPacket := 0 }⟩ with hx
  set b : SendAttempt := ⟨[0x80, 0x0B, 0, 4, 0, 0, 0, 5, 0, 0, 0, 1, 0, 3], {}⟩ with hb
  have hrun : (run (@step 1 PCMFlow.documented) { sender := flakySender }
      [.writeFrames (some [1, 0, 2, 0, 3, 0]) 3]).map
        (fun m => flakySender.attemptsSince m.sender) = some [a, x, b] := by
    decide +kernel
  obtain ⟨m, hm, hattempts⟩ := Option.map_eq_some_iff.mp hrun
  refine ⟨m, hm, a, x, b, hattempts, rfl, rfl, ?_⟩
  rintro ⟨h, k, hp, hq, hts⟩
  have hh : (parseRtpHeader a.packet a.packet.length).toOption.map RtpHeader.timestamp = some 4 := by
    decide +kernel
  have hk : (parseRtpHeader b.packet b.packet.length).toOption.map RtpHeader.timestamp = some 5 := by
    decide +kernel
  have hcount : (carried 1 [a, x]).length = 2 := by decide +kernel
  rw [hp.parse] at hh
  rw [hq.parse] at hk
  rw [hcount, Option.some.inj hh, Option.some.inj hk] at hts
  exact absurd hts (by decide)

end MediaSession

end PcmFlowUdp
