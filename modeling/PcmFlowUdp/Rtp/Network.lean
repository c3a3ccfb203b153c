import PcmFlowUdp.ByteTransport.Arrivals
import PcmFlowUdp.Rtp.Inbox
import PcmFlowUdp.Rtp.L16Packets

/-! # An RTP sender and a receiver on a network

An `RtpSender` sends to an `RtpReceiver` over a network that may lose, repeat and reorder datagrams; sends may
fail, `write` may cut packets short, and others may send datagrams too. The receiver looks at no SSRC and at no
sequence number: what keeps a stream apart is the payload type.

* **`headerOf_cut`** — what is left of a packet that was cut short parses as that packet, or not at all;
* **`L16Only.step`** — what a sender offers that is only used for L16 audio of one channel count;
* **`rtp_l16_network`** — the frames that the receiver returns or holds are frames that `writeFrames` accepted,
  in the order of arrival, as long as no other traffic passes for L16. -/

namespace PcmFlowUdp

open ByteTransport PcmFrame

/-! ## Packets that were cut short -/

/-- What is left of a packet lacks a part of the header, or has the header and the first of the payload. -/
theorem cut_cases {h : RtpHeader} {payload d : List UInt8} (hd : d <+: rtpHeaderBytes h ++ payload) :
    d.length < kRtpHeaderBytes ∨ ∃ rest, rest <+: payload ∧ d = rtpHeaderBytes h ++ rest := by
  have hhead : (rtpHeaderBytes h).length = kRtpHeaderBytes := length_rtpHeaderBytes _
  rcases Nat.lt_or_ge d.length kRtpHeaderBytes with hshort | hlong
  · exact .inl hshort
  · obtain ⟨rest, rfl⟩ :=
      List.prefix_of_prefix_length_le (List.prefix_append _ _) hd (hhead.trans_le hlong)
    exact .inr ⟨rest, (List.prefix_append_right_inj _).mp hd, rfl⟩

namespace RtpReceiver

/-- A packet from the encoder parses, with as much of its payload as is looked at. -/
theorem headerOf_encoded {h : RtpHeader} (hpt : h.payloadType ≤ 0x7F) (payload : List UInt8) :
    headerOf (rtpHeaderBytes h ++ payload) = some h.emitted ∧
      payloadBehind h.emitted (rtpHeaderBytes h ++ payload) = payload.take kRtpMaxPayloadBytes := by
  have hhead : (rtpHeaderBytes h).length = 12 := length_rtpHeaderBytes _
  have htake : (rtpHeaderBytes h ++ payload).take kRtpMaxPacketBytes
      = rtpHeaderBytes h ++ payload.take kRtpMaxPayloadBytes := by
    have hsplit := @List.take_length_add_append UInt8 (rtpHeaderBytes h) payload kRtpMaxPayloadBytes
    rw [hhead] at hsplit
    exact hsplit
  constructor
  · rw [headerOf, htake, parseRtpHeader_encoded hpt _ (by rw [List.length_append, hhead]; omega)]
  · rw [payloadBehind, htake]
    exact List.drop_left' hhead

/-- What is shorter than the header does not parse. -/
theorem headerOf_short {d : List UInt8} (hd : d.length < kRtpHeaderBytes) : headerOf d = none := by
  have hlen : (d.take kRtpMaxPacketBytes).length < kRtpHeaderBytes :=
    (List.length_take_le' _ _).trans_lt hd
  rw [headerOf, parseRtpHeader, if_pos hlen]

/-- **What is left of a packet** does not parse, or parses as the packet, with the first of its payload. -/
theorem headerOf_cut {h : RtpHeader} (hpt : h.payloadType ≤ 0x7F) {payload d : List UInt8}
    (hd : d <+: rtpHeaderBytes h ++ payload) :
    headerOf d = none ∨ headerOf d = some h.emitted ∧ payloadBehind h.emitted d <+: payload := by
  rcases cut_cases hd with hshort | ⟨rest, hrest, rfl⟩
  · exact .inl (headerOf_short hshort)
  · obtain ⟨hparse, hbehind⟩ := headerOf_encoded hpt rest
    refine .inr ⟨hparse, ?_⟩
    rw [hbehind]
    exact (List.take_prefix _ _).trans hrest

end RtpReceiver

/-- A payload that was cut short holds the first of its frames. -/
theorem wholeL16_cut {c : ℕ} (hc : 0 < c) {p p' : List UInt8} (h : p <+: p') :
    wholeL16 c p <+: wholeL16 c p' := by
  obtain ⟨rest, rfl⟩ := h
  have hcut := wholeFrames_take (c * 2) p.length (p ++ rest)
  rw [List.take_left] at hcut
  have heven : 2 ∣ p.length / (c * 2) * (c * 2) := by
    rw [← Nat.mul_assoc]
    exact Nat.dvd_mul_left _ _
  have hdvd : c * 2 ∣ (swapPairs (wholeFrames (c * 2) (p ++ rest))).length := by
    rw [length_swapPairs, length_wholeFrames]
    exact Nat.dvd_mul_left _ _
  rw [wholeL16, wholeL16, netFrames, netFrames, hcut, swapPairs_take _ _ heven, hostFrames_take hc hdvd]
  exact List.take_prefix _ _

/-- The frames of a payload of whole frames. -/
theorem wholeL16_netImage {c : ℕ} (hc : 0 < c) (fs : List (PcmFrame c)) : wholeL16 c (netImage fs) = fs := by
  have hwhole : wholeFrames (c * 2) (netImage fs) = netImage fs := by
    rw [wholeFrames, length_netImage, Nat.mul_mod_left, Nat.sub_zero, ← length_netImage, List.take_length]
  rw [wholeL16, hwhole, netFrames_netImage hc]

/-- The frames in the payload of a packet without CSRCs and extension. -/
def packetL16 (c : ℕ) (packet : List UInt8) : List AudioFrame :=
  (wholeL16 c (packet.drop kRtpHeaderBytes)).map audio

/-! ## The network -/

/-- What happens on the network. -/
inductive RtpNetworkOp
  /-- A call of the sender. -/
  | call (call : RtpSender.Call)
  /-- `poll`, with the datagram of the `k`-th attempt of the sender arrived, if one left. -/
  | arrive (k : ℕ)
  /-- A call of the receiver; what is polled here comes from someone else. -/
  | receive (op : RtpOp)

/-- A sender and a receiver, with what went in and came out. -/
structure RtpNetwork where
  sender : RtpSender
  receiver : RtpReceiver × RtpPollMemory
  /-- The frames that `writeFrames` accepted. -/
  accepted : List AudioFrame := []
  /-- The bytes handed to `writeEncoded`, each with the payload type then. -/
  written : List (UInt8 × List UInt8) := []
  /-- The numbers of the attempts whose datagrams arrived, in the order of arrival. -/
  arrived : List ℕ := []
  /-- The frames that `readFrames` returned. -/
  returned : List AudioFrame := []
  /-- The payloads that `readEncoded` returned. -/
  payloads : List (List UInt8) := []

/-- The frames that a call returned to a caller who knows the format. -/
def framesRead (fmt : PCMFormat) : RtpOp → RtpAnswer → List AudioFrame
  | .readFrames _ _, .read _ out => (hostFrames fmt.channels.toNat out).map audio
  | _, _ => []

/-- The payload that a call returned. -/
def payloadsRead : RtpOp → RtpAnswer → List (List UInt8)
  | .readEncoded _ _, .read _ out => if out = [] then [] else [out]
  | _, _ => []

/-- What a call hands to `writeEncoded` that is offered to the UDP object, with its payload type. -/
def RtpSender.writes (s : RtpSender) : RtpSender.Call → List (UInt8 × List UInt8)
  | .writeEncoded (some bytes) count =>
      if s.ready && s.payloadType != 0xFF && count != 0 && decide (count ≤ kRtpMaxPayloadBytes) then
        [(s.payloadType, readMem bytes 0 count)]
      else []
  | _ => []

namespace RtpNetwork

variable [PCMFlow]

/-- A new sender, and a receiver that was just bound. -/
def start (script : ℕ → UdpTx) (r : RtpReceiver) (mem : RtpPollMemory) : RtpNetwork :=
  { sender := .new script, receiver := ((r.begin 1).2, mem) }

/-- A call of the receiver. -/
def receive (n : RtpNetwork) (op : RtpOp) : RtpNetwork :=
  let (a, receiver) := RtpReceiver.answer n.receiver op
  { n with
    receiver
    returned := n.returned ++ framesRead n.receiver.1.format op a
    payloads := n.payloads ++ payloadsRead op a }

/-- One step. -/
def step (n : RtpNetwork) : RtpNetworkOp → Option RtpNetwork
  | .call call =>
      (n.sender.step call).map fun sender =>
        { n with
          sender
          accepted := n.accepted ++ n.sender.accepted call
          written := n.written ++ n.sender.writes call }
  | .arrive k =>
      match (n.sender.udp.attempts[k]?).bind SendAttempt.datagram with
      | none => some n
      | some d => some { n.receive (.poll d) with arrived := n.arrived ++ [k] }
  | .receive op => some (n.receive op)

omit [PCMFlow] in
/-- The frames queued. -/
def queued (n : RtpNetwork) : List AudioFrame :=
  (hostFrames n.receiver.1.format.channels.toNat n.receiver.1.queue.contents).map audio

end RtpNetwork

/-! ## A sender of L16 audio -/

/-- The payload type that `setFormat` sets for `channels` channels. -/
def payloadTypeFor (channels : UInt8) : UInt8 := if channels = 2 then ptL16Stereo else ptL16Mono

/-- The call keeps to L16 audio of `channels` channels. -/
def RtpSender.Call.KeepsToL16 (channels : UInt8) : RtpSender.Call → Prop
  | .setFormat fmt => fmt.channels = channels
  | .setPayloadType pt _ => pt = ptL16Mono ∨ pt = ptL16Stereo → pt = payloadTypeFor channels
  | .writeEncoded _ _ => False
  | _ => True

instance (channels : UInt8) (c : RtpSender.Call) : Decidable (c.KeepsToL16 channels) := by
  unfold RtpSender.Call.KeepsToL16
  split <;> infer_instance

/-- Dealing frames out makes none up. -/
theorem deal_append (es : List RtpSender) (fs : List AudioFrame) :
    (deal es fs).1.flatMap L16Packet.frames ++ (deal es fs).2 = fs := by
  induction es generalizing fs with
  | nil => rfl
  | cons e es ih =>
    rw [deal, List.flatMap_cons, List.append_assoc, ih, List.take_append_drop]

namespace RtpSender

/-- If the sender can emit, it has `channels` channels, and the payload type for them. -/
def L16Configured (channels : UInt8) (s : RtpSender) : Prop :=
  s.samplesPerPacket ≠ 0 → s.format.channels = channels ∧ s.payloadType = payloadTypeFor channels

/-- Whether a sender is configured so depends on its configuration only. -/
theorem L16Configured.congr {channels : UInt8} {s s' : RtpSender} (h : s.L16Configured channels)
    (hfmt : s'.format = s.format) (hspp : s'.samplesPerPacket = s.samplesPerPacket)
    (hpt : s'.payloadType = s.payloadType) : s'.L16Configured channels := by
  rw [L16Configured, hfmt, hspp, hpt]
  exact h

/-- The configuration stays in every call that keeps to it. -/
theorem L16Configured.step [PCMFlow] {channels : UInt8} {s s' : RtpSender} (h : s.L16Configured channels)
    (hwf : s.WF) {call : Call} (hcall : call.KeepsToL16 channels) (hstep : step s call = some s') :
    s'.L16Configured channels := by
  cases call with
  | setPayloadType pt clockRate =>
    obtain rfl := Option.some.inj hstep
    rw [setPayloadType]
    split
    · exact h
    · intro hspp
      -- only an L16 type leaves a packet size
      by_cases hl16 : pt = ptL16Mono ∨ pt = ptL16Stereo
      · have htrue : (pt == ptL16Mono || pt == ptL16Stereo) = true := by simpa using hl16
        simp only [htrue, if_true] at hspp
        exact ⟨(h hspp).1, hcall hl16⟩
      · have hfalse : (pt == ptL16Mono || pt == ptL16Stereo) = false := by simpa using hl16
        simp [hfalse] at hspp
  | setFormat fmt =>
    obtain rfl := Option.some.inj hstep
    rcases s.setFormat_cases fmt with ⟨error, heq⟩ | ⟨hvalid, hbits⟩
    · rw [heq]
      exact h
    · obtain ⟨-, -, hfmt, -, -, -, hpt⟩ := s.setFormat_spec hvalid hbits
      obtain rfl : fmt.channels = channels := hcall
      exact fun _ => ⟨by rw [hfmt], hpt⟩
  | writeFrames src frameCount =>
    obtain ⟨n, s₁, heq, hoffers⟩ := writeFrames_emissions hwf src frameCount
    rw [RtpSender.step, heq] at hstep
    obtain rfl := Option.some.inj hstep
    exact h.congr hoffers.setup.format hoffers.setup.samplesPerPacket hoffers.setup.payloadType
  | writeEncoded bytes count => exact absurd hcall id
  | flush =>
    obtain rfl := Option.some.inj hstep
    have hsetup := (flush_emissions hwf).setup
    exact h.congr hsetup.format hsetup.samplesPerPacket hsetup.payloadType
  | _ =>
    obtain rfl := Option.some.inj hstep
    exact h

/-- A sender that was only used for L16 audio of `channels` channels, with the books of its packets. -/
structure L16Only (channels : UInt8) (accepted : List AudioFrame) (l : L16History) : Prop where
  inv : l.Inv
  /-- Every packet names the channels that it has. -/
  labelled : ∀ p ∈ l.emitted, p.state.format.channels = channels ∧ p.state.payloadType = payloadTypeFor channels
  configured : l.sender.L16Configured channels
  /-- What was written for the packets, and what is pending, was accepted in that order. -/
  account : List.Sublist (l.emitted.flatMap L16Packet.frames ++ l.pending) accepted

/-- A new sender has sent nothing. -/
theorem l16Only_new (channels : UInt8) (script : ℕ → UdpTx) :
    L16Only channels [] { sender := new script } where
  inv := L16History.inv_new script
  labelled _ hp := absurd hp List.not_mem_nil
  configured h := absurd rfl h
  account := List.Sublist.refl []

namespace L16Only

variable {channels : UInt8} {accepted : List AudioFrame} {l : L16History} (h : L16Only channels accepted l)

include h

/-- **What a packet carries**: the frames written for it, behind a header with the payload type. -/
theorem packet {p : L16Packet} (hp : p ∈ l.emitted) :
    ∃ hd fs, p.state.nextPacket = rtpHeaderBytes hd ++ netImage (fs : List (PcmFrame channels.toNat)) ∧
      hd.payloadType = payloadTypeFor channels ∧ p.frames = fs.map audio ∧ 0 < channels.toNat := by
  obtain ⟨hemitting, hframes⟩ := h.inv.carried p hp
  obtain ⟨hch, hpt⟩ := h.labelled p hp
  subst hch
  refine ⟨p.state.nextHeader, scratch.pending p.state.format.channels.toNat p.state, ?_, hpt, hframes,
    hemitting.mode.channels_pos⟩
  rw [hemitting.nextPacket_eq, framesPending, AudioFrame.netImage_map_audio]

/-- What was offered is what was accepted, with gaps. -/
theorem offered : List.Sublist (l.sender.offered.flatMap (packetL16 channels.toNat)) accepted := by
  have hframes : l.sender.offered.flatMap (packetL16 channels.toNat) = l.emitted.flatMap L16Packet.frames := by
    rw [h.inv.offered, List.flatMap_map, List.flatMap_def, List.flatMap_def]
    refine congrArg List.flatten (List.map_congr_left fun p hp => ?_)
    obtain ⟨hd, fs, hpacket, -, hfs, hc⟩ := h.packet hp
    have hdrop : (rtpHeaderBytes hd ++ netImage fs).drop kRtpHeaderBytes = netImage fs :=
      List.drop_left' (length_rtpHeaderBytes hd)
    rw [hpacket, packetL16, hdrop, wholeL16_netImage hc, hfs]
  rw [hframes]
  exact (List.sublist_append_left _ _).trans h.account

/-- **One call.** -/
theorem step [PCMFlow] {call : Call} (hcall : call.KeepsToL16 channels) :
    ∃ l', l.Steps call l' ∧ L16Only channels (accepted ++ l.sender.accepted call) l' := by
  have hpath : call.encoded = false := by
    cases call with
    | writeEncoded bytes count => exact absurd hcall id
    | _ => rfl
  obtain ⟨l', hsteps⟩ := h.inv.step hpath
  refine ⟨l', hsteps, hsteps.inv, ?_, h.configured.step h.inv.wf hcall hsteps.sender, ?_⟩
  · intro p hp
    have hmode := (hsteps.inv.carried p hp).1.mode
    rw [hsteps.emitted] at hp
    rcases List.mem_append.mp hp with hold | hnew
    · exact h.labelled p hold
    · obtain ⟨e, he, rfl⟩ := List.mem_map.mp hnew
      have hsetup := hsteps.setup e he
      rw [hsetup.format, hsetup.payloadType]
      exact h.configured (hsetup.samplesPerPacket ▸ hmode.samplesPerPacket_ne_zero)
  · -- what is dealt out and what is left is what was pending and what is new
    have hstep := hsteps.step
    rw [L16History.step, hsteps.sender] at hstep
    have hbooks := (Option.some.inj hstep).symm
    have hdeal := deal_append (l.sender.emissions call) (l.pending ++ l.sender.accepted call)
    have hemitted : l'.emitted
        = l.emitted ++ (deal (l.sender.emissions call) (l.pending ++ l.sender.accepted call)).1 := by
      rw [hbooks]
    have hpending : List.Sublist l'.pending
        (deal (l.sender.emissions call) (l.pending ++ l.sender.accepted call)).2 := by
      rw [hbooks]
      dsimp only
      split
      · exact List.nil_sublist _
      · exact List.Sublist.refl _
    have hnew := h.account.append_right (l.sender.accepted call)
    rw [List.append_assoc, ← hdeal] at hnew
    refine List.Sublist.trans ?_ hnew
    rw [hemitted, List.flatMap_append, List.append_assoc]
    exact (List.Sublist.refl _).append ((List.Sublist.refl _).append hpending)

end L16Only

end RtpSender

/-! ## The receiver -/

namespace RtpReceiver

variable {r₀ r : RtpReceiver} {channels : UInt8} {q : RtpInbox} (h : Refines r₀ channels r q)

include h

/-- Frames that are queued are read back from their bytes. -/
theorem Refines.readBack (hc : 0 < channels.toNat) (k : ℕ) :
    (hostFrames r.format.channels.toNat (AudioFrame.hostImage (q.frames.take k))).map audio
      = q.frames.take k := by
  obtain ⟨fs, -, hfs⟩ := h.contents
  rcases eq_or_ne q.frames [] with hnil | hne
  · simp [hnil, AudioFrame.hostImage]
  · rw [h.format, (h.locked hne).1, hfs, ← List.map_take, AudioFrame.hostImage_map_audio,
      hostFrames_hostImage hc]

/-- So is what is in the ring. -/
theorem Refines.queued (hc : 0 < channels.toNat) :
    (hostFrames r.format.channels.toNat r.queue.contents).map audio = q.frames := by
  have hback := h.readBack hc q.frames.length
  obtain ⟨fs, hcont, hfs⟩ := h.contents
  rw [List.take_length] at hback
  rw [hcont, ← AudioFrame.hostImage_map_audio, ← hfs, hback]

/-- What a call returns to the reader of frames is what the inbox hands out. -/
theorem Refines.framesRead_eq (hc : 0 < channels.toNat) (op : RtpOp) :
    framesRead r.format op (q.answer (r₀.inboxSetup channels) op).1.inMemory
      = RtpInbox.framesOut (op, (q.answer (r₀.inboxSetup channels) op).1) := by
  cases op with
  | poll d =>
    rw [RtpInbox.answer]
    cases headerOf d <;> rfl
  | readFrames nonNull frameCount => exact h.readBack hc _
  | _ => rfl

end RtpReceiver

/-! ## Runs -/

namespace RtpNetworkOp

/-- The sender is used for L16 audio of `channels` channels, and no one else's datagram is an L16 packet to the
receiver. -/
def KeepsToL16 (r : RtpReceiver) (channels : UInt8) : RtpNetworkOp → Prop
  | .call c => c.KeepsToL16 channels
  | .receive (.poll d) => r.isL16 d = false
  | _ => True

instance (r : RtpReceiver) (channels : UInt8) (op : RtpNetworkOp) : Decidable (op.KeepsToL16 r channels) := by
  unfold KeepsToL16
  split <;> infer_instance

end RtpNetworkOp

namespace RtpNetwork

/-- What holds at every moment for the frames of the stream, where the receiver is set up as `r₀`. -/
structure L16Inv [PCMFlow] (r₀ : RtpReceiver) (channels : UInt8) (n : RtpNetwork) : Prop where
  sender : ∃ l : L16History, l.sender = n.sender ∧ RtpSender.L16Only channels n.accepted l
  /-- What has arrived was sent. -/
  arrived : ∀ k ∈ n.arrived, k < n.sender.offered.length
  /-- What was returned and is held are frames that arrived, in the order of arrival. -/
  queue : ∃ q : RtpInbox, RtpReceiver.Refines r₀ channels n.receiver.1 q ∧
    List.Sublist (n.returned ++ q.frames)
      (arrivals (packetL16 channels.toNat) n.sender.offered n.arrived)

section Steps

variable [PCMFlow] {r₀ : RtpReceiver} {channels : UInt8} {n : RtpNetwork}

/-- A call of the receiver takes in what a datagram has of L16 frames, and makes up none. -/
theorem receive_frames (hc : 0 < channels.toNat) (hcap : channels.toNat * 2 ∣ r₀.queue.cap) {q : RtpInbox}
    (h : RtpReceiver.Refines r₀ channels n.receiver.1 q) {op : RtpOp} (hop : r₀.OfChannels channels op) :
    ∃ q', RtpReceiver.Refines r₀ channels (n.receive op).receiver.1 q' ∧
      List.Sublist ((n.receive op).returned ++ q'.frames)
        (n.returned ++ q.frames ++ RtpInbox.framesIn (r₀.inboxSetup channels)
          (op, (q.answer (r₀.inboxSetup channels) op).1)) := by
  obtain ⟨hanswer, hrest⟩ := h.step hc hcap n.receiver.2 hop
  refine ⟨_, hrest, ?_⟩
  show List.Sublist (n.returned ++ framesRead n.receiver.1.format op (RtpReceiver.answer n.receiver op).1
    ++ (q.answer (r₀.inboxSetup channels) op).2.frames) _
  rw [show (RtpReceiver.answer n.receiver op).1 = _ from hanswer, h.framesRead_eq hc op, List.append_assoc,
    List.append_assoc]
  exact (RtpInbox.step_frames (r₀.inboxSetup channels) q op).append_left n.returned

omit [PCMFlow] in
/-- Someone else's datagram takes in nothing. -/
theorem framesIn_of_not_l16 {d : List UInt8} (hd : r₀.isL16 d = false) (a : InboxAnswer) :
    RtpInbox.framesIn (r₀.inboxSetup channels) (.poll d, a) = [] := by
  cases hh : RtpReceiver.headerOf d with
  | none => simp [RtpInbox.framesIn, hh]
  | some h =>
    have hother : r₀.treatsAsL16 h.payloadType = false := by simpa [RtpReceiver.isL16, hh] using hd
    simp [RtpInbox.framesIn, hh, RtpReceiver.inboxSetup, hother]

omit [PCMFlow] in
/-- **A datagram of the stream** is read with the channels it was written with, and what is taken in of it are
the first of its frames. -/
theorem framesIn_of_l16Only (hc : 0 < channels.toNat)
    (hlabel : r₀.l16Channels (payloadTypeFor channels) = channels) {accepted : List AudioFrame} {l : L16History}
    (h : RtpSender.L16Only channels accepted l) {packet d : List UInt8} (hpacket : packet ∈ l.sender.offered)
    (hd : d <+: packet) :
    r₀.OfChannels channels (.poll d) ∧ ∀ a, RtpInbox.framesIn (r₀.inboxSetup channels) (.poll d, a)
      <+: packetL16 channels.toNat packet := by
  rw [h.inv.offered] at hpacket
  obtain ⟨p, hp, rfl⟩ := List.mem_map.mp hpacket
  obtain ⟨hdr, fs, hwire, hpt, -, -⟩ := h.packet hp
  have hle : hdr.payloadType ≤ 0x7F := by
    rw [hpt, payloadTypeFor]
    split <;> decide
  have hdrop : packetL16 channels.toNat p.state.nextPacket
      = (wholeL16 channels.toNat (netImage fs)).map audio := by
    have hbehind : (rtpHeaderBytes hdr ++ netImage fs).drop kRtpHeaderBytes = netImage fs :=
      List.drop_left' (length_rtpHeaderBytes hdr)
    rw [packetL16, hwire, hbehind]
  rw [hwire] at hd
  rw [hdrop]
  rcases RtpReceiver.headerOf_cut hle hd with hnone | ⟨hsome, hcut⟩
  · refine ⟨fun k hk => ?_, fun a => ?_⟩
    · rw [hnone] at hk
      exact absurd hk (Option.not_mem_none k)
    · simp [RtpInbox.framesIn, hnone]
  · refine ⟨fun k hk _ => ?_, fun a => ?_⟩
    · rw [hsome] at hk
      obtain rfl := Option.some.inj hk
      rw [show hdr.emitted.payloadType = payloadTypeFor channels from hpt, hlabel]
    · simp only [RtpInbox.framesIn, hsome]
      split
      · exact (wholeL16_cut hc hcut).map audio
      · exact List.nil_prefix

/-- **One step.** Whatever happens at either end or on the way, what was returned and is held are frames of the
stream that arrived. -/
theorem L16Inv.step (h : n.L16Inv r₀ channels) (hc : 0 < channels.toNat)
    (hcap : channels.toNat * 2 ∣ r₀.queue.cap)
    (hlabel : r₀.l16Channels (payloadTypeFor channels) = channels) {op : RtpNetworkOp}
    (hop : op.KeepsToL16 r₀ channels) : ∃ n', n.step op = some n' ∧ n'.L16Inv r₀ channels := by
  obtain ⟨l, hl, honly⟩ := h.sender
  obtain ⟨q, href, hsub⟩ := h.queue
  cases op with
  | call call =>
    have hkeeps : call.KeepsToL16 channels := hop
    obtain ⟨l', hsteps, honly'⟩ := honly.step hkeeps
    have hsender := hsteps.sender
    rw [hl] at hsender honly'
    have hgrows : l'.sender.offered
        = n.sender.offered ++ (l.sender.emissions call).map RtpSender.nextPacket := by
      rw [hsteps.inv.offered, hsteps.emitted, List.map_append, ← honly.inv.offered, hl, List.map_map]
      rfl
    rw [RtpNetwork.step, hsender]
    refine ⟨_, rfl, ⟨l', rfl, honly'⟩, ?_, q, href, ?_⟩
    · intro k hk
      show k < l'.sender.offered.length
      rw [hgrows, List.length_append]
      exact (h.arrived k hk).trans_le (Nat.le_add_right _ _)
    · show List.Sublist _ (arrivals _ l'.sender.offered n.arrived)
      rw [hgrows, arrivals_append_log h.arrived]
      exact hsub
  | arrive k =>
    cases hdatagram : (n.sender.udp.attempts[k]?).bind SendAttempt.datagram with
    | none => exact ⟨n, by rw [RtpNetwork.step, hdatagram], h⟩
    | some d =>
      obtain ⟨a, hget, ha⟩ := Option.bind_eq_some_iff.mp hdatagram
      have hpacket : n.sender.offered[k]? = some a.packet := by
        rw [RtpSender.offered, List.getElem?_map, hget]
        rfl
      have hmem : a.packet ∈ l.sender.offered := hl ▸ List.mem_of_getElem? hpacket
      obtain ⟨hof, hin⟩ := framesIn_of_l16Only hc hlabel honly hmem (SendAttempt.datagram_prefix ha)
      obtain ⟨q', href', hflow⟩ := receive_frames hc hcap href hof
      rw [RtpNetwork.step, hdatagram]
      refine ⟨_, rfl, ⟨l, hl, honly⟩, ?_, q', href', ?_⟩
      · intro k' hk'
        rcases List.mem_append.mp hk' with hold | hnew
        · exact h.arrived k' hold
        · obtain rfl := List.mem_singleton.mp hnew
          exact (List.getElem?_eq_some_iff.mp hpacket).1
      · show List.Sublist ((n.receive (.poll d)).returned ++ q'.frames)
          (arrivals (packetL16 channels.toNat) n.sender.offered (n.arrived ++ [k]))
        rw [arrivals_snoc hpacket]
        exact hflow.trans (hsub.append (hin _).sublist)
  | receive op =>
    have hquiet : r₀.OfChannels channels op ∧
        ∀ a, RtpInbox.framesIn (r₀.inboxSetup channels) (op, a) = [] := by
      cases op with
      | poll d =>
        refine ⟨fun k hk hl16 => ?_, framesIn_of_not_l16 hop⟩
        -- no one else sends L16 packets
        have hd : r₀.isL16 d = false := hop
        rw [RtpReceiver.isL16, Option.mem_def.mp hk] at hd
        exact absurd (hl16.symm.trans hd) (by decide)
      | _ => exact ⟨trivial, fun _ => rfl⟩
    obtain ⟨q', href', hflow⟩ := receive_frames hc hcap href hquiet.1
    rw [hquiet.2, List.append_nil] at hflow
    exact ⟨_, rfl, ⟨l, hl, honly⟩, h.arrived, q', href', hflow.trans hsub⟩

end Steps

/-- **An L16 stream on a network.** A sender that is only used for L16 audio of `channels` channels makes any
calls, whatever becomes of its sends; the network loses, repeats, reorders and cuts short what it likes; anybody
else sends what he likes but L16 packets; and the receiver, whose ring holds a whole number of such frames and
which reads the payload type with that many channels, polls and reads on both paths in any order, its ring
overflowing or not. Every frame that it returns or holds is one that `writeFrames` accepted, whole, in the order
in which its datagrams arrived; and if they arrived in the order of sending, the frames are those accepted, in
order, with gaps. -/
theorem rtp_l16_network [PCMFlow] (script : ℕ → UdpTx) (r : RtpReceiver) (mem : RtpPollMemory) {channels : UInt8}
    (hc : channels ≠ 0) (hcap : channels.toNat * 2 ∣ r.queue.cap)
    (hlabel : r.l16Channels (payloadTypeFor channels) = channels) {ops : List RtpNetworkOp}
    (hops : ∀ op ∈ ops, op.KeepsToL16 r channels) :
    ∃ n, run step (start script r mem) ops = some n ∧
      List.Sublist (n.returned ++ n.queued)
        (arrivals (packetL16 channels.toNat) n.sender.offered n.arrived) ∧
      (∀ f ∈ n.returned ++ n.queued, f ∈ n.accepted) ∧
      (n.arrived.Pairwise (· < ·) → List.Sublist (n.returned ++ n.queued) n.accepted) := by
  have hpos : 0 < channels.toNat := UInt8.lt_iff_toNat_lt.mp (UInt8.pos_iff_ne_zero.mpr hc)
  have hstart : (start script r mem).L16Inv r channels :=
    ⟨⟨_, rfl, RtpSender.l16Only_new channels script⟩, fun k hk => absurd hk List.not_mem_nil, _,
      RtpReceiver.refines_begin r channels, List.Sublist.refl []⟩
  obtain ⟨n, hrun, h⟩ := run_total (fun n op hinv hop => L16Inv.step hinv hpos hcap hlabel hop) hstart
    (admissible_of_mem hops _)
  obtain ⟨l, hl, honly⟩ := h.sender
  obtain ⟨q, href, hsub⟩ := h.queue
  have hoffered : List.Sublist (n.sender.offered.flatMap (packetL16 channels.toNat)) n.accepted :=
    hl ▸ honly.offered
  have hqueued : n.queued = q.frames := href.queued hpos
  refine ⟨n, hrun, ?_⟩
  rw [hqueued]
  exact ⟨hsub, fun f hf => hoffered.subset (mem_of_mem_arrivals (hsub.subset hf)),
    fun hsorted => hsub.trans ((arrivals_sublist hsorted).trans hoffered)⟩

/-- A stereo sender, of whose three packets the second is cut short and the third overtakes it; someone else
sends a packet of a dynamic payload type. -/
def stereoStream : List RtpNetworkOp :=
  [.call (.begin 5004 7 ⟨0, 1, 2⟩), .call (.setFormat ⟨48000, 2, 16⟩),
    .call (.writeFrames (some [1, 2, 3, 4]) 1), .call .flush,
    .call (.writeFrames (some [5, 6, 7, 8, 9, 10, 11, 12]) 2), .call .flush,
    .call (.writeFrames (some [13, 14, 15, 16]) 1), .call .flush,
    .arrive 0, .arrive 2, .receive (.poll ([0x80, 96] ++ List.replicate 10 0 ++ [7])), .arrive 1,
    .receive (.readFrames true 9)]

/-- One frame of the second packet is left. -/
theorem rtp_l16_network_stereo :
    let start := @start (fun k => if k = 1 then { write := some 17 } else {}) {} {}
    ((run (@step PCMFlow.documented) start stereoStream).map RtpNetwork.returned)
        = some [⟨2, [0x201, 0x403]⟩, ⟨2, [0xE0D, 0x100F]⟩, ⟨2, [0x605, 0x807]⟩] ∧
      ∃ n, run (@step PCMFlow.documented) start stereoStream = some n ∧
        List.Sublist (n.returned ++ n.queued)
          (arrivals (packetL16 (2 : UInt8).toNat) n.sender.offered n.arrived) ∧
        (∀ f ∈ n.returned ++ n.queued, f ∈ n.accepted) ∧
        (n.arrived.Pairwise (· < ·) → List.Sublist (n.returned ++ n.queued) n.accepted) :=
  have hcap : ({} : RtpReceiver).queue.cap = kRtpQueueBytes := RingBuffer.cap_empty kRtpQueueBytes (by decide) 0
  ⟨by decide +kernel,
    @rtp_l16_network PCMFlow.documented _ {} {} 2 (by decide) (by rw [hcap]; decide) (by decide) stereoStream
      (by decide +kernel)⟩

end RtpNetwork

end PcmFlowUdp
