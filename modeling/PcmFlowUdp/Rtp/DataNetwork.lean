import PcmFlowUdp.Rtp.Network
import PcmFlowUdp.Rtp.SequenceLaw

/-! # Encoded payloads on a network

The payloads that `writeEncoded` sends pass through a one-packet hold at the receiver. On a network that loses,
repeats, reorders and cuts short datagrams, whatever else the sender sends and whatever goes on on the L16 path,

* **`step_data`** — a call of the sender offers the payload that it hands over, whole and alone, or none;
* **`receive_data`** — a call of the receiver takes in the payload of one datagram, or hands out the one held;
* **`rtp_data_network`** — so the payloads read are first parts of payloads written, each read at most as often
  as it arrived; in the order of writing if they arrived in that order, and whole if nothing is cut short. -/

namespace PcmFlowUdp

open ByteTransport PcmFrame

/-! ## The payload of a datagram -/

namespace RtpReceiver

/-- The payload that goes into the hold, if the datagram is an RTP packet and no L16 packet to the receiver. -/
def dataIn (r : RtpReceiver) (d : List UInt8) : List (List UInt8) :=
  match headerOf d with
  | none => []
  | some h => if r.treatsAsL16 h.payloadType then [] else [payloadBehind h d]

/-- Of what was written, with its payload type, what is no L16 audio to the receiver. -/
def dataOf (r : RtpReceiver) (written : List (UInt8 × List UInt8)) : List (List UInt8) :=
  (written.filter fun w => !r.treatsAsL16 w.1).map Prod.snd

/-- The payload in the datagram that an attempt to send a packet led to. -/
def dataBehind (r : RtpReceiver) (a : SendAttempt) : List (List UInt8) := a.datagram.elim [] r.dataIn

/-- What was written adds up. -/
@[simp] theorem dataOf_append (r : RtpReceiver) (written more : List (UInt8 × List UInt8)) :
    r.dataOf (written ++ more) = r.dataOf written ++ r.dataOf more := by
  simp [dataOf]

/-- Someone else's datagram has no payload for the hold. -/
theorem dataIn_of_not_encoded {r : RtpReceiver} {d : List UInt8} (hd : r.isEncoded d = false) :
    r.dataIn d = [] := by
  cases hh : headerOf d with
  | none => simp [dataIn, hh]
  | some h =>
    have hl16 : r.treatsAsL16 h.payloadType = true := by simpa [isEncoded, hh] using hd
    simp [dataIn, hh, hl16]

/-- A poll keeps what is held, or replaces it by what comes in. -/
theorem heldAfter_sublist (r : RtpReceiver) (held : Option (List UInt8)) (d : List UInt8) :
    List.Sublist (r.heldAfter held d).toList (held.toList ++ r.dataIn d) := by
  rw [heldAfter, dataIn]
  cases headerOf d with
  | none => simp
  | some h =>
    by_cases hl16 : r.treatsAsL16 h.payloadType = true
    · simp [hl16]
    · simp [hl16]

end RtpReceiver

/-- A packet of a sender: its own header, and no more behind it than fits. -/
def IsSenderPacket (packet : List UInt8) : Prop :=
  ∃ h payload, h.payloadType ≤ 0x7F ∧ payload.length ≤ kRtpMaxPayloadBytes ∧
    packet = rtpHeaderBytes h ++ payload

/-- The payload of a packet that arrives whole. -/
theorem RtpReceiver.dataIn_packet (r : RtpReceiver) {h : RtpHeader} (hpt : h.payloadType ≤ 0x7F)
    {payload : List UInt8} (hmax : payload.length ≤ kRtpMaxPayloadBytes) :
    r.dataIn (rtpHeaderBytes h ++ payload) = r.dataOf [(h.payloadType, payload)] := by
  obtain ⟨hparse, hbehind⟩ := headerOf_encoded hpt payload
  rw [List.take_of_length_le hmax] at hbehind
  have hsame : h.emitted.payloadType = h.payloadType := rfl
  by_cases hl16 : r.treatsAsL16 h.payloadType = true
  · simp [dataIn, dataOf, hparse, hsame, hl16]
  · simp [dataIn, dataOf, hparse, hsame, hl16, hbehind]

/-- What an attempt leads to is nothing, or the first of the payload of its packet. -/
theorem IsSenderPacket.dataBehind {a : SendAttempt} (h : IsSenderPacket a.packet) (r : RtpReceiver) :
    List.SublistForall₂ (· <+: ·) (r.dataBehind a) (r.dataIn a.packet) := by
  rw [RtpReceiver.dataBehind]
  cases hd : a.datagram with
  | none => exact .nil
  | some d =>
    obtain ⟨hdr, payload, hpt, hmax, hpacket⟩ := h
    have hcut : d <+: rtpHeaderBytes hdr ++ payload := hpacket ▸ SendAttempt.datagram_prefix hd
    rw [hpacket, r.dataIn_packet hpt hmax]
    show List.SublistForall₂ _ (r.dataIn d) _
    rcases RtpReceiver.headerOf_cut hpt hcut with hnone | ⟨hsome, hbehind⟩
    · rw [RtpReceiver.dataIn, hnone]
      exact .nil
    · have hsame : hdr.emitted.payloadType = hdr.payloadType := rfl
      cases hl16 : r.treatsAsL16 hdr.payloadType with
      | true =>
        have hnothing : r.dataIn d = [] := by simp [RtpReceiver.dataIn, hsome, hsame, hl16]
        rw [hnothing]
        exact .nil
      | false =>
        have hcutshort : r.dataIn d = [payloadBehind hdr.emitted d] := by
          simp [RtpReceiver.dataIn, hsome, hsame, hl16]
        have hwhole : r.dataOf [(hdr.payloadType, payload)] = [payload] := by
          simp [RtpReceiver.dataOf, hl16]
        rw [hcutshort, hwhole]
        exact .cons hbehind .nil

/-- If `write` accepts everything, it is nothing or the payload. -/
theorem SendAttempt.dataBehind_whole {a : SendAttempt} (h : a.tx.write = none) (r : RtpReceiver) :
    List.Sublist (r.dataBehind a) (r.dataIn a.packet) := by
  rw [RtpReceiver.dataBehind, SendAttempt.datagram, h]
  split
  · exact List.Sublist.refl _
  · exact List.nil_sublist _

/-! ## The sender -/

namespace RtpSender

/-- On the L16 path the payload type is one of the two for L16. -/
def L16Typed (s : RtpSender) : Prop :=
  s.isL16 = true → s.payloadType = ptL16Mono ∨ s.payloadType = ptL16Stereo

/-- This is so after `setPayloadType`. -/
theorem L16Typed.setPayloadType {s : RtpSender} (h : s.L16Typed) (pt : UInt8) (clockRate : UInt32) :
    (s.setPayloadType pt clockRate).2.L16Typed := by
  rw [RtpSender.setPayloadType]
  split
  · exact h
  · intro hl16
    simpa using hl16

/-- And after `setFormat`. -/
theorem L16Typed.setFormat [PCMFlow] {s : RtpSender} (h : s.L16Typed) (fmt : PCMFormat) :
    (s.setFormat fmt).2.L16Typed := by
  rcases s.setFormat_cases fmt with ⟨error, heq⟩ | ⟨hvalid, hbits⟩
  · rw [heq]
    exact h
  · obtain ⟨-, -, -, -, -, -, hpt⟩ := s.setFormat_spec hvalid hbits
    intro _
    rw [hpt]
    split
    · exact .inr rfl
    · exact .inl rfl

/-- What is emitted on the L16 path is a packet, and no data to any receiver. -/
theorem Emitting.no_data {s e : RtpSender} (h : e.Emitting) (htyped : s.L16Typed) (hsetup : SameSetup s e)
    (r : RtpReceiver) : IsSenderPacket e.nextPacket ∧ r.dataIn e.nextPacket = [] := by
  have hmax : (AudioFrame.netImage e.framesPending).length ≤ kRtpMaxPayloadBytes := by
    rw [framesPending, AudioFrame.netImage_map_audio, length_netImage,
      PacketScratch.length_pending (h.mode.room h.le) h.mode.channels_pos]
    exact (Nat.mul_le_mul_right _ h.le).trans h.mode.fits
  have hl16 : r.treatsAsL16 e.nextHeader.payloadType = true := by
    show r.treatsAsL16 e.payloadType = true
    rw [hsetup.payloadType, RtpReceiver.treatsAsL16]
    rcases htyped (hsetup.isL16 ▸ h.mode.isL16) with hmono | hstereo
    · simp [hmono]
    · simp [hstereo]
  have hpt : e.nextHeader.payloadType ≤ 0x7F := h.mode.payloadType_le
  rw [h.nextPacket_eq, r.dataIn_packet hpt hmax]
  exact ⟨⟨_, _, hpt, hmax, rfl⟩, by simp [RtpReceiver.dataOf, hl16]⟩

/-- A call of `writeEncoded` is rejected and writes nothing, or hands over valid bytes. -/
theorem writeEncoded_writes {s : RtpSender} (h : s.WF) (bytes : Option (List UInt8)) (count : ℕ) :
    ((∃ error, s.writeEncoded bytes count = (false, { s with error })) ∧
        s.writes (.writeEncoded bytes count) = []) ∨
      ∃ mem, bytes = some mem ∧ s.ready = true ∧ s.payloadType ≤ 0x7F ∧ 0 < count ∧
        count ≤ kRtpMaxPayloadBytes ∧
        s.writes (.writeEncoded bytes count) = [(s.payloadType, readMem mem 0 count)] := by
  by_cases hready : s.ready = true
  swap
  · refine .inl ⟨⟨.notReady, by simp [writeEncoded, hready]⟩, ?_⟩
    cases bytes <;> simp [writes, hready]
  by_cases hunset : s.payloadType = 0xFF
  · refine .inl ⟨⟨.wrongPath, by simp [writeEncoded, hready, hunset]⟩, ?_⟩
    cases bytes <;> simp [writes, hunset]
  have hpt : s.payloadType ≤ 0x7F := h.payloadType_le.resolve_left hunset
  cases bytes with
  | none => exact .inl ⟨⟨.unsupportedFormat, by simp [writeEncoded, hready, hunset]⟩, rfl⟩
  | some mem =>
    by_cases hcount : count = 0 ∨ kRtpMaxPayloadBytes < count
    · refine .inl ⟨⟨.unsupportedFormat, by simp [writeEncoded, hready, hunset, hcount]⟩, ?_⟩
      rcases hcount with hzero | hlong
      · simp [writes, hzero]
      · simp [writes, Nat.not_le.mpr hlong]
    · obtain ⟨hpos, hmax⟩ := not_or.mp hcount
      refine .inr ⟨mem, rfl, hready, hpt, Nat.pos_of_ne_zero hpos, Nat.not_lt.mp hmax, ?_⟩
      simp [writes, hready, hunset, hpos, Nat.not_lt.mp hmax]

/-- The attempts made stay in the log. -/
theorem step_attempts [PCMFlow] {s s' : RtpSender} (h : s.WF) {call : Call} (hstep : step s call = some s') :
    ∃ new, s'.udp.attempts = s.udp.attempts ++ new := by
  cases hcall : call.keepsCounters with
  | true =>
    obtain ⟨t, hstep', -, hstreams⟩ := step_streams h hcall
    rw [hstep] at hstep'
    obtain rfl := Option.some.inj hstep'
    exact ⟨_, hstreams.attempts⟩
  | false =>
    refine ⟨[], ?_⟩
    cases call with
    | setPayloadType pt clockRate => exact absurd hcall.symm Bool.false_ne_true
    | setFormat fmt => exact absurd hcall.symm Bool.false_ne_true
    | writeFrames src frameCount => exact absurd hcall.symm Bool.false_ne_true
    | writeEncoded bytes count => exact absurd hcall.symm Bool.false_ne_true
    | flush => exact absurd hcall.symm Bool.false_ne_true
    | _ =>
      obtain rfl := Option.some.inj hstep
      exact (List.append_nil _).symm

/-- What a call that takes `s` to `s'` offers as data is what it hands over. -/
structure OffersData (r : RtpReceiver) (s : RtpSender) (call : Call) (s' : RtpSender) : Prop where
  wf : s'.WF
  typed : s'.L16Typed
  offers : ∃ new, s'.offered = s.offered ++ new ∧ (∀ p ∈ new, IsSenderPacket p) ∧
    new.flatMap r.dataIn = r.dataOf (s.writes call)

/-- A call that offers nothing. -/
theorem OffersData.silent {r : RtpReceiver} {s s' : RtpSender} {call : Call} (hwf : s'.WF) (htyped : s'.L16Typed)
    (hoffered : s'.offered = s.offered) (hwrites : s.writes call = []) : OffersData r s call s' where
  wf := hwf
  typed := htyped
  offers := ⟨[], by rw [hoffered, List.append_nil], fun p hp => absurd hp List.not_mem_nil,
    by rw [hwrites]; rfl⟩

/-- A call of the L16 path. -/
theorem Offers.data {r : RtpReceiver} {s s' : RtpSender} {es : List RtpSender} {accepted : List AudioFrame}
    {call : Call} (h : Offers s es accepted s') (htyped : s.L16Typed) (hwrites : s.writes call = []) :
    OffersData r s call s' where
  wf := h.wf
  typed hl16 := by
    rw [h.setup.payloadType]
    exact htyped (h.setup.isL16 ▸ hl16)
  offers := by
    refine ⟨es.map nextPacket, h.offered, fun p hp => ?_, ?_⟩
    · obtain ⟨e, he, rfl⟩ := List.mem_map.mp hp
      exact ((h.emitting e he).2.no_data htyped (h.emitting e he).1 r).1
    · rw [hwrites, List.flatMap_map]
      refine List.flatMap_eq_nil_iff.mpr fun e he => ?_
      exact ((h.emitting e he).2.no_data htyped (h.emitting e he).1 r).2

/-- **One call.** It offers the payload that it hands over, or none, whatever it offers on the L16 path. -/
theorem step_data [PCMFlow] (r : RtpReceiver) {s : RtpSender} (h : s.WF) (htyped : s.L16Typed) (call : Call) :
    ∃ s', step s call = some s' ∧ OffersData r s call s' := by
  obtain ⟨s', hstep, hwf⟩ := wf_step h call
  refine ⟨s', hstep, ?_⟩
  cases call with
  | setPayloadType pt clockRate =>
    -- a call that only configures offers nothing
    obtain rfl := Option.some.inj hstep
    have hudp : (s.setPayloadType pt clockRate).2.udp = s.udp := by
      rw [setPayloadType]
      split <;> rfl
    exact .silent hwf (htyped.setPayloadType pt clockRate) (by rw [offered, hudp]; rfl) rfl
  | setFormat fmt =>
    obtain rfl := Option.some.inj hstep
    have hudp : (s.setFormat fmt).2.udp = s.udp := by
      rcases s.setFormat_cases fmt with ⟨error, heq⟩ | ⟨hvalid, hbits⟩
      · rw [heq]
      · exact (s.setFormat_spec hvalid hbits).2.2.2.2.2.1
    exact .silent hwf (htyped.setFormat fmt) (by rw [offered, hudp]; rfl) rfl
  | writeFrames src frameCount =>
    -- the PCM path offers packets that the receiver does not take for data
    obtain ⟨n, s₁, heq, hoffers⟩ := writeFrames_emissions h src frameCount
    rw [step, heq] at hstep
    obtain rfl := Option.some.inj hstep
    exact hoffers.data htyped rfl
  | flush =>
    obtain rfl := Option.some.inj hstep
    exact (flush_emissions h).data htyped rfl
  | writeEncoded bytes count =>
    obtain rfl := Option.some.inj hstep
    -- `writeEncoded` rejects the payload, or offers it as one packet
    rcases writeEncoded_writes h bytes count with
      ⟨⟨error, heq⟩, hnone⟩ | ⟨mem, rfl, hready, hpt, hpos, hmax, hwrites⟩
    · refine .silent hwf ?_ ?_ hnone
      · rw [heq]
        exact htyped
      · rw [heq]
        rfl
    · have hlen : (readMem mem 0 count).length ≤ kRtpMaxPayloadBytes := by
        rw [length_readMem]
        exact hmax
      refine ⟨hwf, ?_, [rtpHeaderBytes s.nextHeader ++ readMem mem 0 count], ?_, ?_, ?_⟩
      · rw [writeEncoded_eq hready hpt mem hpos hmax]
        exact htyped
      · rw [writeEncoded_eq hready hpt mem hpos hmax]
        simp [offered, attempt]
      · rintro p hp
        obtain rfl := List.mem_singleton.mp hp
        exact ⟨_, _, hpt, hlen, rfl⟩
      · rw [List.flatMap_singleton, r.dataIn_packet hpt hlen, hwrites]
        rfl
  | _ =>
    obtain rfl := Option.some.inj hstep
    exact .silent hwf htyped rfl rfl

end RtpSender

/-! ## The network -/

/-- The datagram of someone else that is polled. -/
def RtpNetworkOp.foreign : RtpNetworkOp → Option (List UInt8)
  | .receive (.poll d) => some d
  | _ => none

/-- No one else's datagram is a packet for the hold; the sender and the L16 path may do what they like. -/
def RtpNetworkOp.KeepsToData (r : RtpReceiver) (op : RtpNetworkOp) : Prop :=
  ∀ d ∈ op.foreign, r.isEncoded d = false

instance (r : RtpReceiver) (op : RtpNetworkOp) : Decidable (op.KeepsToData r) :=
  inferInstanceAs (Decidable (∀ d ∈ op.foreign, r.isEncoded d = false))

namespace RtpNetwork

/-- The payload held, if any. -/
def held (n : RtpNetwork) : List (List UInt8) :=
  if n.receiver.1.encodedReady then [n.receiver.1.encoded.slice 0 n.receiver.1.encodedBytes] else []

/-- What is held is what lies in the slot. -/
theorem held_eq {n : RtpNetwork} {slot : Option (List UInt8)} (h : n.receiver.1.Holds slot) :
    n.held = slot.toList := by
  cases slot with
  | none =>
    have hready : n.receiver.1.encodedReady = false := h
    simp [held, hready]
  | some payload =>
    obtain ⟨hready, hbytes, hslice⟩ := h
    simp [held, hready, hbytes, hslice]

/-- What holds at every moment for the payloads of the stream, where the receiver is set up as `r₀`. -/
structure DataInv [PCMFlow] (r₀ : RtpReceiver) (n : RtpNetwork) : Prop where
  wf : n.sender.WF
  typed : n.sender.L16Typed
  packets : ∀ a ∈ n.sender.udp.attempts, IsSenderPacket a.packet
  /-- The payloads offered are those written. -/
  books : n.sender.offered.flatMap r₀.dataIn = r₀.dataOf n.written
  /-- What has arrived was sent. -/
  arrived : ∀ k ∈ n.arrived, k < n.sender.udp.attempts.length
  config : RtpReceiver.ConfiguredAs r₀ n.receiver.1
  /-- What was read and is held are payloads that arrived, in the order of arrival. -/
  hold : ∃ slot, n.receiver.1.Holds slot ∧
    List.Sublist (n.payloads ++ slot.toList) (arrivals r₀.dataBehind n.sender.udp.attempts n.arrived)

section Steps

variable [PCMFlow] {r₀ : RtpReceiver} {n : RtpNetwork}

/-- What a call of the receiver takes in for the hold. -/
def dataOfOp (r₀ : RtpReceiver) : RtpOp → List (List UInt8)
  | .poll d => r₀.dataIn d
  | _ => []

/-- **A call of the receiver** makes up no payload. -/
theorem receive_data (hconfig : RtpReceiver.ConfiguredAs r₀ n.receiver.1) {slot : Option (List UInt8)}
    (h : n.receiver.1.Holds slot) (op : RtpOp) :
    ∃ slot', RtpReceiver.ConfiguredAs r₀ (n.receive op).receiver.1 ∧ (n.receive op).receiver.1.Holds slot' ∧
      List.Sublist ((n.receive op).payloads ++ slot'.toList)
        (n.payloads ++ slot.toList ++ dataOfOp r₀ op) := by
  cases op with
  | poll d =>
    obtain ⟨hconfig', hhold⟩ := h.poll hconfig n.receiver.2 d
    refine ⟨_, hconfig', hhold, ?_⟩
    show List.Sublist (n.payloads ++ [] ++ _) _
    rw [List.append_nil, List.append_assoc]
    exact (r₀.heldAfter_sublist slot d).append_left n.payloads
  | readEncoded nonNull maxBytes =>
    obtain ⟨r', hread, hhold, hsame⟩ := h.readEncoded nonNull maxBytes
    have hreceive : (n.receive (.readEncoded nonNull maxBytes)).receiver.1 = r' ∧
        (n.receive (.readEncoded nonNull maxBytes)).payloads = n.payloads
          ++ if (takeHeld slot nonNull maxBytes).1 = [] then [] else [(takeHeld slot nonNull maxBytes).1] := by
      simp [receive, RtpReceiver.answer, hread, payloadsRead]
    rw [hreceive.1, hreceive.2]
    refine ⟨_, ?_, hhold, ?_⟩
    · rw [hsame]
      exact hconfig.congr rfl rfl rfl
    · show List.Sublist _ (n.payloads ++ slot.toList ++ [])
      rw [List.append_nil, List.append_assoc]
      exact (takeHeld_sublist slot nonNull maxBytes).append_left n.payloads
  | readFrames nonNull frameCount =>
    refine ⟨slot, hconfig.congr rfl rfl rfl, h.congr rfl rfl rfl, ?_⟩
    simp [receive, RtpReceiver.answer, payloadsRead, dataOfOp]
  | _ => exact ⟨slot, hconfig, h, by simp [receive, RtpReceiver.answer, payloadsRead, dataOfOp]⟩

/-- **One step.** Whatever happens at either end or on the way, what was read and is held are payloads of the
stream that arrived. -/
theorem DataInv.step (h : n.DataInv r₀) {op : RtpNetworkOp} (hop : op.KeepsToData r₀) :
    ∃ n', n.step op = some n' ∧ n'.DataInv r₀ := by
  obtain ⟨slot, hhold, hsub⟩ := h.hold
  cases op with
  | call call =>
    -- new packets extend the log behind every index that has arrived, so what arrived stays the same
    obtain ⟨s', hstep, hdata⟩ := RtpSender.step_data r₀ h.wf h.typed call
    obtain ⟨new, hoffered, hpackets, hbooks⟩ := hdata.offers
    obtain ⟨more, hmore⟩ := RtpSender.step_attempts h.wf hstep
    obtain rfl : more.map SendAttempt.packet = new := by
      rw [RtpSender.offered, hmore, List.map_append] at hoffered
      exact List.append_cancel_left hoffered
    rw [RtpNetwork.step, hstep]
    refine ⟨_, rfl, hdata.wf, hdata.typed, ?_, ?_, ?_, h.config, slot, hhold, ?_⟩
    · show ∀ a ∈ s'.udp.attempts, IsSenderPacket a.packet
      rw [hmore]
      intro a ha
      rcases List.mem_append.mp ha with hold | hnew
      · exact h.packets a hold
      · exact hpackets _ (List.mem_map_of_mem hnew)
    · show s'.offered.flatMap r₀.dataIn = r₀.dataOf (n.written ++ n.sender.writes call)
      rw [hoffered, List.flatMap_append, h.books, hbooks, RtpReceiver.dataOf_append]
    · intro k hk
      show k < s'.udp.attempts.length
      rw [hmore, List.length_append]
      exact (h.arrived k hk).trans_le (Nat.le_add_right _ _)
    · show List.Sublist _ (arrivals _ s'.udp.attempts n.arrived)
      rw [hmore, arrivals_append_log h.arrived]
      exact hsub
  | arrive k =>
    -- a payload joins what has arrived, and the slot passes on no more than that
    cases hdatagram : (n.sender.udp.attempts[k]?).bind SendAttempt.datagram with
    | none => exact ⟨n, by rw [RtpNetwork.step, hdatagram], h⟩
    | some d =>
      obtain ⟨a, hget, ha⟩ := Option.bind_eq_some_iff.mp hdatagram
      obtain ⟨slot', hconfig, hhold', hflow⟩ := receive_data h.config hhold (.poll d)
      rw [RtpNetwork.step, hdatagram]
      refine ⟨_, rfl, h.wf, h.typed, h.packets, h.books, ?_, hconfig, slot', hhold', ?_⟩
      · intro k' hk'
        rcases List.mem_append.mp hk' with hold | hnew
        · exact h.arrived k' hold
        · obtain rfl := List.mem_singleton.mp hnew
          exact (List.getElem?_eq_some_iff.mp hget).1
      · show List.Sublist ((n.receive (.poll d)).payloads ++ slot'.toList)
          (arrivals r₀.dataBehind n.sender.udp.attempts (n.arrived ++ [k]))
        have hbehind : r₀.dataBehind a = r₀.dataIn d := by rw [RtpReceiver.dataBehind, ha, Option.elim_some]
        rw [arrivals_snoc hget, hbehind]
        exact hflow.trans (hsub.append_right _)
  | receive op =>
    -- a datagram of somebody else brings no data, so the receiver only moves what it holds
    obtain ⟨slot', hconfig, hhold', hflow⟩ := receive_data h.config hhold op
    have hquiet : dataOfOp r₀ op = [] := by
      cases op with
      | poll d => exact RtpReceiver.dataIn_of_not_encoded (hop d rfl)
      | _ => rfl
    rw [hquiet, List.append_nil] at hflow
    exact ⟨_, rfl, h.wf, h.typed, h.packets, h.books, h.arrived, hconfig, slot', hhold', hflow.trans hsub⟩

end Steps

/-- **Encoded payloads on a network.** A sender makes any calls on both paths, whatever becomes of its sends;
the network loses, repeats, reorders and cuts short what it likes; anybody else sends what he likes that does
not go into the hold; and the receiver polls and reads on both paths in any order. What `readEncoded` returns,
and what is held, are payloads of datagrams that arrived, in the order of arrival and each at most as often as
it arrived, and first parts of payloads that `writeEncoded` was given under a payload type that is not L16 to
the receiver. If `write` accepted all it was offered, they are whole, in whatever order they arrived. If the
datagrams arrived in the order of sending, so are the payloads, with gaps. -/
theorem rtp_data_network [PCMFlow] (script : ℕ → UdpTx) (r : RtpReceiver) (mem : RtpPollMemory)
    {ops : List RtpNetworkOp} (hops : ∀ op ∈ ops, op.KeepsToData r) :
    ∃ n, run step (start script r mem) ops = some n ∧
      List.Sublist (n.payloads ++ n.held) (arrivals r.dataBehind n.sender.udp.attempts n.arrived) ∧
      (∀ p ∈ n.payloads ++ n.held, ∃ w ∈ r.dataOf n.written, p <+: w) ∧
      ((∀ a ∈ n.sender.udp.attempts, a.tx.write = none) → ∀ p ∈ n.payloads ++ n.held, p ∈ r.dataOf n.written) ∧
      (n.arrived.Pairwise (· < ·) →
        List.SublistForall₂ (· <+: ·) (n.payloads ++ n.held) (r.dataOf n.written) ∧
          ((∀ a ∈ n.sender.udp.attempts, a.tx.write = none) →
            List.Sublist (n.payloads ++ n.held) (r.dataOf n.written))) := by
  have hstart : (start script r mem).DataInv r :=
    ⟨RtpSender.wf_new script, fun hl16 => absurd hl16 Bool.false_ne_true, fun a ha => absurd ha List.not_mem_nil,
      rfl, fun k hk => absurd hk List.not_mem_nil, ⟨rfl, rfl, rfl⟩, none, rfl, List.Sublist.refl []⟩
  obtain ⟨n, hrun, h⟩ := run_total (fun n op hinv hop => DataInv.step hinv hop) hstart
    (admissible_of_mem hops _)
  obtain ⟨slot, hhold, hsub⟩ := h.hold
  rw [← held_eq hhold] at hsub
  -- the payloads of the packets offered are those written
  have hbooks : n.sender.udp.attempts.flatMap (fun a => r.dataIn a.packet) = r.dataOf n.written := by
    rw [← h.books, RtpSender.offered, List.flatMap_map]
  -- each of them is the payload of an attempt
  have hfrom : ∀ p ∈ n.payloads ++ n.held, ∃ a ∈ n.sender.udp.attempts, p ∈ r.dataBehind a :=
    fun p hp => List.mem_flatMap.mp (mem_of_mem_arrivals (hsub.subset hp))
  refine ⟨n, hrun, hsub, fun p hp => ?_, fun hwhole p hp => ?_, fun hsorted => ⟨?_, fun hwhole => ?_⟩⟩
  · obtain ⟨a, ha, hpa⟩ := hfrom p hp
    obtain ⟨w, hw, hpw⟩ := exists_mem_of_sublistForall₂ ((h.packets a ha).dataBehind r) hpa
    exact ⟨w, hbooks ▸ List.mem_flatMap.mpr ⟨a, ha, hw⟩, hpw⟩
  · obtain ⟨a, ha, hpa⟩ := hfrom p hp
    exact hbooks ▸ List.mem_flatMap.mpr ⟨a, ha, (SendAttempt.dataBehind_whole (hwhole a ha) r).subset hpa⟩
  · rw [← hbooks]
    exact arrivals_sublistForall₂ (fun a ha => (h.packets a ha).dataBehind r) hsorted hsub
  · rw [← hbooks]
    refine (hsub.trans (arrivals_sublist hsorted)).trans ?_
    exact List.Sublist.flatMap_right _ fun a ha => SendAttempt.dataBehind_whole (hwhole a ha) r

/-- Two payloads, of which the second is cut short and the first arrives twice, and a frame of the L16 path in
between. -/
def dataStream : List RtpNetworkOp :=
  [.call (.begin 5004 7 ⟨0, 1, 2⟩), .call (.setPayloadType 96 90000),
    .call (.writeEncoded (some [1, 2, 3]) 3), .call (.writeEncoded (some [4, 5, 6]) 3),
    .call (.setFormat ⟨8000, 1, 16⟩), .call (.writeFrames (some [7, 7]) 1), .call .flush,
    .arrive 1, .receive (.readEncoded true 9), .arrive 0, .arrive 2, .receive (.readEncoded true 9), .arrive 0]

/-- One octet of the second payload is left, and the first is read and held. -/
theorem rtp_data_network_cut :
    let start := @start (fun k => if k = 1 then { write := some 13 } else {}) {} {}
    ((run (@step PCMFlow.documented) start dataStream).map fun n => (n.payloads, n.held))
        = some ([[4], [1, 2, 3]], [[1, 2, 3]]) ∧
      ∃ n, run (@step PCMFlow.documented) start dataStream = some n ∧
        List.Sublist (n.payloads ++ n.held)
          (arrivals ({} : RtpReceiver).dataBehind n.sender.udp.attempts n.arrived) ∧
        (∀ p ∈ n.payloads ++ n.held, ∃ w ∈ ({} : RtpReceiver).dataOf n.written, p <+: w) ∧
        ((∀ a ∈ n.sender.udp.attempts, a.tx.write = none) →
          ∀ p ∈ n.payloads ++ n.held, p ∈ ({} : RtpReceiver).dataOf n.written) ∧
        (n.arrived.Pairwise (· < ·) →
          List.SublistForall₂ (· <+: ·) (n.payloads ++ n.held) (({} : RtpReceiver).dataOf n.written) ∧
            ((∀ a ∈ n.sender.udp.attempts, a.tx.write = none) →
              List.Sublist (n.payloads ++ n.held) (({} : RtpReceiver).dataOf n.written))) :=
  ⟨by decide +kernel, @rtp_data_network PCMFlow.documented _ {} {} dataStream (by decide)⟩

end RtpNetwork

end PcmFlowUdp
