import PcmFlowUdp.Rtp.EncodedPath
import PcmFlowUdp.Rtp.PathIndependence
import PcmFlowUdp.Rtp.SequenceLaw

/-! # Loss on an RTP stream is visible to the receiver

The sender advances its sequence number and its timestamp with every packet that it sends, and the receiver
reports both of the last packet that it accepted. A `HeardLink` notes what the getters report after every
datagram of the stream that `poll` accepted; the network may lose, repeat and reorder the datagrams and the UDP
object may fail any send or cut any datagram short.

* **`poll_stamp`** — an accepted datagram shows the stamp of the packet that it is left of;
* **`rtp_loss_observability`** — so what the getters report counts the packets sent: between two accepted
  datagrams the sequence number moves by one and the packets sent in between, the timestamp by what they
  advance it. -/

namespace PcmFlowUdp

open ByteTransport PcmFrame

/-! ## What is left of a packet -/

namespace RtpReceiver

variable [PCMFlow]

/-- **Polling what is left of a packet.** If it is accepted, the getters report the stamp of the packet. -/
theorem poll_stamp (r : RtpReceiver) (mem : RtpPollMemory) {packet d : List UInt8} {h : RtpHeader}
    (hpacket : IsRtpPacket packet h) (hd : d <+: packet)
    (haccepted : (r.poll mem (Inbound.ofDatagram d)).1 = true) :
    (r.poll mem (Inbound.ofDatagram d)).2.1.lastHeader.stamp = h.stamp := by
  have hready : r.ready = true := by
    cases hready : r.ready with
    | false => simp [poll, hready] at haccepted
    | true => rfl
  cases hh : headerOf d with
  | none =>
    rw [poll_accepts hready, hh] at haccepted
    exact absurd haccepted Bool.false_ne_true
  | some k =>
    -- both headers are read from the same first octets
    obtain ⟨hk, hlong, hshort⟩ := parseRtpHeader_offset (headerOf_eq_some hh)
    have hfixed : fixedHeader (d.take kRtpMaxPacketBytes) = fixedHeader packet := by
      have hlen : 12 ≤ (d.take kRtpMaxPacketBytes).length := hlong.trans hshort
      refine fixedHeader_congr (List.take_length.trans ?_) hlen
      exact List.prefix_iff_eq_take.mp ((List.take_prefix _ _).trans hd)
    have hstamp : k.stamp = h.stamp := by
      rw [hk, (parseRtpHeader_offset hpacket.parse).1, hfixed]
      rfl
    rw [poll_headerOf hready mem hh, ← hstamp, dispatch]
    split <;> rfl

end RtpReceiver

/-! ## Counting what was sent -/

namespace StreamEvent

/-- The packet offered, and what it advances the timestamp by if it is sent. -/
def offer : StreamEvent → Option (SendAttempt × UInt32)
  | .armed => none
  | .disarmed => none
  | .offered a advance => some (a, advance)

/-- The attempts are the packets offered. -/
theorem filterMap_attempt (events : List StreamEvent) :
    events.filterMap attempt = (events.filterMap offer).map Prod.fst := by
  rw [List.map_filterMap]
  refine List.filterMap_congr fun e _ => ?_
  cases e <;> rfl

/-- The event with offer number `k`. -/
theorem split_offer {events : List StreamEvent} {k : ℕ} {o : SendAttempt × UInt32}
    (hk : (events.filterMap offer)[k]? = some o) :
    ∃ pre post, events = pre ++ .offered o.1 o.2 :: post ∧
      pre.filterMap offer = (events.filterMap offer).take k := by
  induction events generalizing k with
  | nil => simp at hk
  | cons e events ih =>
    cases e with
    | armed =>
      obtain ⟨pre, post, rfl, hpre⟩ := ih hk
      exact ⟨.armed :: pre, post, rfl, hpre⟩
    | disarmed =>
      obtain ⟨pre, post, rfl, hpre⟩ := ih hk
      exact ⟨.disarmed :: pre, post, rfl, hpre⟩
    | offered a advance =>
      have hcons : (StreamEvent.offered a advance :: events).filterMap offer
          = (a, advance) :: events.filterMap offer := rfl
      rw [hcons] at hk ⊢
      cases k with
      | zero =>
        obtain rfl : (a, advance) = o := by simpa using hk
        exact ⟨[], events, rfl, rfl⟩
      | succ k =>
        obtain ⟨pre, post, rfl, hpre⟩ := ih (by simpa using hk)
        refine ⟨.offered a advance :: pre, post, rfl, ?_⟩
        rw [List.take_succ_cons, ← hpre]
        rfl

end StreamEvent

/-- How many of the packets offered were sent. -/
def sentCount (offers : List (SendAttempt × UInt32)) : ℕ := offers.countP fun o => o.1.ok

/-- What the packets sent advance the timestamp by. -/
def sentAdvance (offers : List (SendAttempt × UInt32)) : UInt32 :=
  offers.foldr (fun o sum => if o.1.ok then o.2 + sum else sum) 0

/-- The packets sent are counted on. -/
theorem sentCount_append (offers more : List (SendAttempt × UInt32)) :
    sentCount (offers ++ more) = sentCount offers + sentCount more := List.countP_append

/-- And so is what they advance the timestamp by. -/
theorem sentAdvance_append (offers more : List (SendAttempt × UInt32)) :
    sentAdvance (offers ++ more) = sentAdvance offers + sentAdvance more := by
  induction offers with
  | nil => exact (UInt32.zero_add _).symm
  | cons o offers ih =>
    simp only [sentAdvance, List.cons_append, List.foldr_cons] at ih ⊢
    rw [ih]
    split
    · rw [UInt32.add_assoc]
    · rfl

/-- The running stamp counts the packets sent. -/
theorem RtpStamp.foldl_next (events : List StreamEvent) (st : RtpStamp) :
    (events.foldl RtpStamp.next st).sequenceNumber
        = st.sequenceNumber + UInt16.ofNat (sentCount (events.filterMap StreamEvent.offer)) ∧
      (events.foldl RtpStamp.next st).timestamp
        = st.timestamp + sentAdvance (events.filterMap StreamEvent.offer) := by
  -- only a packet that was sent moves the stamp
  induction events generalizing st with
  | nil => exact ⟨(UInt16.add_zero _).symm, (UInt32.add_zero _).symm⟩
  | cons e events ih =>
    obtain ⟨hseq, hts⟩ := ih (st.next e)
    rw [List.foldl_cons, hseq, hts]
    cases e with
    | armed => exact ⟨rfl, rfl⟩
    | disarmed => exact ⟨rfl, rfl⟩
    | offered a advance =>
      have hcons : (StreamEvent.offered a advance :: events).filterMap StreamEvent.offer
          = (a, advance) :: events.filterMap StreamEvent.offer := rfl
      rw [hcons]
      by_cases hok : a.ok = true
      · have hcount : sentCount ((a, advance) :: events.filterMap StreamEvent.offer)
            = 1 + sentCount (events.filterMap StreamEvent.offer) := by
          simp [sentCount, hok, Nat.add_comm]
        have hadvance : sentAdvance ((a, advance) :: events.filterMap StreamEvent.offer)
            = advance + sentAdvance (events.filterMap StreamEvent.offer) := if_pos hok
        rw [hcount, hadvance, RtpStamp.next, if_pos hok, UInt16.ofNat_add, ← UInt16.add_assoc,
          ← UInt32.add_assoc]
        exact ⟨rfl, rfl⟩
      · have hcount : sentCount ((a, advance) :: events.filterMap StreamEvent.offer)
            = sentCount (events.filterMap StreamEvent.offer) := by
          simp [sentCount, hok]
        have hadvance : sentAdvance ((a, advance) :: events.filterMap StreamEvent.offer)
            = sentAdvance (events.filterMap StreamEvent.offer) := if_neg hok
        rw [hcount, hadvance, RtpStamp.next, if_neg hok]
        exact ⟨rfl, rfl⟩

/-! ## A link on which some are heard -/

/-- A call at either end of the link. -/
inductive HeardOp
  | call (call : RtpSender.Call)
  /-- `poll`, with the datagram of the `k`-th attempt of the stream arrived, if one left. -/
  | arrive (k : ℕ)
  /-- Any other call of the receiver; what is polled here comes from someone else. -/
  | receive (call : RtpReceiver.Call)

/-- The calls of a stream once it has begun: no counter is set; the receiver is free. -/
def HeardOp.inStream : HeardOp → Bool
  | .call senderCall => senderCall.keepsCounters
  | .arrive _ => true
  | .receive _ => true

/-- A stream and a receiver, with what the receiver reported. -/
structure HeardLink where
  stream : RtpStream
  receiver : RtpReceiver × RtpPollMemory
  /-- The attempts made before the stream began. -/
  base : ℕ
  /-- The attempts whose datagrams `poll` accepted, with what the getters reported right after. -/
  heard : List (ℕ × RtpStamp) := []

namespace HeardLink

/-- A stream that has just begun. -/
def start (sender : RtpSender) (receiver : RtpReceiver × RtpPollMemory) : HeardLink :=
  { stream := { sender }, receiver, base := sender.udp.attempts.length }

/-- The attempts of the stream, in order. -/
def attempts (l : HeardLink) : List SendAttempt := l.stream.sender.udp.attempts.drop l.base

/-- One call. -/
def step [PCMFlow] (l : HeardLink) : HeardOp → Option HeardLink
  | .call call => (l.stream.step call).map fun stream => { l with stream }
  | .arrive k =>
      match (l.attempts[k]?).bind SendAttempt.datagram with
      | none => some l
      | some d =>
          let (ok, receiver) := l.receiver.1.poll l.receiver.2 (Inbound.ofDatagram d)
          some
            { l with
              receiver
              heard := if ok then l.heard ++ [(k, receiver.1.lastHeader.stamp)] else l.heard }
  | .receive call => some { l with receiver := RtpReceiver.step l.receiver call }

/-- The packets offered since the stream began, each with what it advances the timestamp by. -/
def offers (l : HeardLink) : List (SendAttempt × UInt32) := l.stream.events.filterMap StreamEvent.offer

/-- What was offered from attempt `i` on, before attempt `j`. -/
def between (l : HeardLink) (i j : ℕ) : List (SendAttempt × UInt32) := (l.offers.take j).drop i

/-- What a receiver that accepts attempt `k` of a stream must report. -/
structure Reports (start : RtpStamp) (offers : List (SendAttempt × UInt32)) (k : ℕ) (st : RtpStamp) : Prop where
  sent : ∃ o, offers[k]? = some o ∧ o.1.ok = true
  ssrc : st.ssrc = start.ssrc
  sequenceNumber : st.sequenceNumber = start.sequenceNumber + UInt16.ofNat (sentCount (offers.take k))
  timestamp : st.timestamp = start.timestamp + sentAdvance (offers.take k)

/-- What is offered later changes nothing. -/
theorem Reports.append {start st : RtpStamp} {offers : List (SendAttempt × UInt32)} {k : ℕ}
    (h : Reports start offers k st) (more : List (SendAttempt × UInt32)) :
    Reports start (offers ++ more) k st := by
  obtain ⟨o, ho, hok⟩ := h.sent
  have hk : k < offers.length := (List.getElem?_eq_some_iff.mp ho).1
  have htake : (offers ++ more).take k = offers.take k := List.take_append_of_le_length hk.le
  refine ⟨⟨o, (List.getElem?_append_left hk).trans ho, hok⟩, h.ssrc, ?_, ?_⟩
  · rw [htake, h.sequenceNumber]
  · rw [htake, h.timestamp]

/-- What the packets from `i` on add to the stamp. -/
theorem Reports.later {start st st' : RtpStamp} {offers : List (SendAttempt × UInt32)} {i j : ℕ}
    (h : Reports start offers i st) (h' : Reports start offers j st') (hij : i ≤ j) :
    st'.ssrc = st.ssrc ∧
      st'.sequenceNumber = st.sequenceNumber + UInt16.ofNat (sentCount ((offers.take j).drop i)) ∧
      st'.timestamp = st.timestamp + sentAdvance ((offers.take j).drop i) := by
  have hsplit : offers.take j = offers.take i ++ (offers.take j).drop i := by
    have htake : (offers.take j).take i = offers.take i := by
      rw [List.take_take, Nat.min_eq_left hij]
    rw [← htake, List.take_append_drop]
  refine ⟨h'.ssrc.trans h.ssrc.symm, ?_, ?_⟩
  · rw [h'.sequenceNumber, h.sequenceNumber, UInt16.add_assoc, ← UInt16.ofNat_add, ← sentCount_append, ← hsplit]
  · rw [h'.timestamp, h.timestamp, UInt32.add_assoc, ← sentAdvance_append, ← hsplit]

/-- What every step keeps, from the sender that the stream began with. -/
structure Inv (sender : RtpSender) (l : HeardLink) : Prop where
  stream : RtpStream.Inv sender l.stream
  base : l.base = sender.udp.attempts.length
  heard : ∀ e ∈ l.heard, Reports sender.nextHeader.stamp l.offers e.1 e.2

namespace Inv

variable {sender : RtpSender} {l : HeardLink} (h : Inv sender l)

include h

/-- The attempts of the stream are its offers. -/
theorem attempts_eq : l.attempts = l.offers.map Prod.fst := by
  have hattempts : l.stream.sender.udp.attempts
      = sender.udp.attempts ++ l.stream.events.filterMap StreamEvent.attempt := h.stream.streams.attempts
  rw [attempts, h.base, hattempts, List.drop_left, StreamEvent.filterMap_attempt]
  rfl

/-- **An attempt of the stream** carries the stamp of a packet that is sent then. -/
theorem packet {k : ℕ} {a : SendAttempt} (ha : l.attempts[k]? = some a) (hok : a.ok = true) :
    ∃ hd, IsRtpPacket a.packet hd ∧ Reports sender.nextHeader.stamp l.offers k hd.stamp := by
  rw [h.attempts_eq, List.getElem?_map] at ha
  obtain ⟨o, ho, rfl⟩ := Option.map_eq_some_iff.mp ha
  obtain ⟨pre, post, hevents, hpre⟩ := StreamEvent.split_offer ho
  have hstamped := h.stream.streams.stamped
  rw [hevents] at hstamped
  obtain ⟨hd, hpacket, hstamp⟩ := hstamped.carries
  obtain ⟨hseq, hts⟩ := RtpStamp.foldl_next pre sender.outlet.header.stamp
  refine ⟨hd, hpacket, ⟨o, ho, hok⟩, ?_, ?_, ?_⟩
  · rw [hstamp, RtpStamp.foldl_next_ssrc]
    rfl
  · rw [hstamp, hseq, hpre]
    rfl
  · rw [hstamp, hts, hpre]
    rfl

variable [PCMFlow]

/-- **One step.** -/
theorem step {op : HeardOp} (hop : op.inStream = true) : ∃ l', l.step op = some l' ∧ Inv sender l' := by
  cases op with
  | call call =>
    -- more packets are offered, and every report is about one offered before
    obtain ⟨s', hstep, hwf, hstreams⟩ := RtpSender.step_streams h.stream.wf hop
    have hstream : l.stream.step call = some ⟨s', l.stream.events ++ l.stream.sender.eventsOf s' call⟩ := by
      rw [RtpStream.step, hstep]
      rfl
    have hlink : l.step (.call call)
        = some { l with stream := ⟨s', l.stream.events ++ l.stream.sender.eventsOf s' call⟩ } := by
      rw [HeardLink.step, hstream]
      rfl
    refine ⟨_, hlink, ⟨hwf, h.stream.streams.trans hstreams⟩, h.base, fun e he => ?_⟩
    show Reports _ ((l.stream.events ++ _).filterMap StreamEvent.offer) e.1 e.2
    rw [List.filterMap_append]
    exact (h.heard e he).append _
  | arrive k =>
    cases hdatagram : (l.attempts[k]?).bind SendAttempt.datagram with
    | none => exact ⟨l, by rw [HeardLink.step, hdatagram], h⟩
    | some d =>
      obtain ⟨a, ha, hd⟩ := Option.bind_eq_some_iff.mp hdatagram
      -- the network delivers only what was sent, so the packet is one that the stream reports
      have hok : a.ok = true := by
        rw [SendAttempt.datagram] at hd
        by_contra hfailed
        rw [if_neg hfailed] at hd
        cases hd
      obtain ⟨hdr, hpacket, hreports⟩ := h.packet ha hok
      have hstamp := l.receiver.1.poll_stamp l.receiver.2 hpacket (SendAttempt.datagram_prefix hd)
      rw [HeardLink.step, hdatagram]
      dsimp only
      generalize l.receiver.1.poll l.receiver.2 (Inbound.ofDatagram d) = res at hstamp
      obtain ⟨ok, receiver⟩ := res
      refine ⟨_, rfl, h.stream, h.base, fun e he => ?_⟩
      cases ok with
      | false => exact h.heard e he
      | true =>
        rcases List.mem_append.mp he with hold | hnew
        · exact h.heard e hold
        · obtain rfl := List.mem_singleton.mp hnew
          dsimp only at hstamp ⊢
          rw [hstamp rfl]
          exact hreports
  | receive call => exact ⟨_, rfl, h.stream, h.base, h.heard⟩

end Inv

/-- **RTP loss observability.** After a `begin` from any reachable state, the sender makes any calls on both
paths but another `begin` and those that set SSRC, timestamp or sequence number, whatever becomes of its sends;
the network loses, repeats, reorders and cuts short what it likes; and the receiver makes any calls, also with
datagrams of others and with a `begin` in between. Whenever `poll` accepts a datagram of the stream, that
packet was sent; and if attempts `i ≤ j` were both heard, in whatever order, then their SSRCs are the same, the
sequence numbers differ by the number of packets sent from `i` on before `j`, and the timestamps by what these
packets advance it. -/
theorem rtp_loss_observability [PCMFlow] {s₀ : RtpSender} (h₀ : s₀.Reachable) (destPort : UInt16) (ssrc : UInt32)
    (rnd : RtpRandom) (r : RtpReceiver × RtpPollMemory) {ops : List HeardOp}
    (hops : ∀ op ∈ ops, op.inStream = true) :
    ∃ l, run step (start (s₀.begin destPort ssrc rnd).2 r) ops = some l ∧
      l.attempts = l.offers.map Prod.fst ∧
      (∀ e ∈ l.heard, ∃ a, l.attempts[e.1]? = some a ∧ a.ok = true) ∧
      ∀ e ∈ l.heard, ∀ e' ∈ l.heard, e.1 ≤ e'.1 →
        e'.2.ssrc = e.2.ssrc ∧
        e'.2.sequenceNumber = e.2.sequenceNumber + UInt16.ofNat (sentCount (l.between e.1 e'.1)) ∧
        e'.2.timestamp = e.2.timestamp + sentAdvance (l.between e.1 e'.1) := by
  have hwf : (s₀.begin destPort ssrc rnd).2.WF := by
    obtain ⟨s', hstep, hwf⟩ := RtpSender.wf_step h₀.wf (.begin destPort ssrc rnd)
    obtain rfl := Option.some.inj hstep
    exact hwf
  have hstart : Inv (s₀.begin destPort ssrc rnd).2 (start (s₀.begin destPort ssrc rnd).2 r) :=
    ⟨⟨hwf, Streams.of_eq rfl rfl⟩, rfl, fun e he => absurd he List.not_mem_nil⟩
  obtain ⟨l, hrun, h⟩ := run_total (fun l op hinv hop => Inv.step hinv hop) hstart (admissible_of_mem hops _)
  refine ⟨l, hrun, h.attempts_eq, fun e he => ?_,
    fun e he e' he' hle => (h.heard e he).later (h.heard e' he') hle⟩
  obtain ⟨o, ho, hok⟩ := (h.heard e he).sent
  refine ⟨o.1, ?_, hok⟩
  rw [h.attempts_eq, List.getElem?_map, ho]
  rfl

/-- Two frames and two payloads. The first send fails, and the last payload overtakes the one before it. -/
def overtaken : List HeardOp :=
  [.call (.setFormat ⟨50, 1, 16⟩), .call (.writeFrames (some [1, 0]) 1), .call (.writeFrames (some [2, 0]) 1),
    .call (.setTimestampIncrement 160), .call (.setPayloadType 96 8000), .call (.setMarker true),
    .call (.setMarker false), .call (.writeEncoded (some [9]) 1),
    .call (.writeEncoded (some [8]) 1), .receive (.begin 1), .arrive 0, .arrive 1, .arrive 3, .arrive 2]

/-- From the second attempt to the fourth two packets were sent, which advance the timestamp by 1 and 160. -/
theorem rtp_loss_observability_overtaken :
    let start := start ((RtpSender.new fun k => if k = 0 then { endPacket := 0 } else {}).begin 5004 1
      ⟨2, 3, 4⟩).2
      ({}, {})
    ((run (@step PCMFlow.documented) start overtaken).map HeardLink.heard)
        = some [(1, ⟨true, 3, 4, 1⟩), (3, ⟨false, 5, 165, 1⟩), (2, ⟨false, 4, 5, 1⟩)] ∧
      ∃ l, run (@step PCMFlow.documented) start overtaken = some l ∧
        l.attempts = l.offers.map Prod.fst ∧
        (∀ e ∈ l.heard, ∃ a, l.attempts[e.1]? = some a ∧ a.ok = true) ∧
        ∀ e ∈ l.heard, ∀ e' ∈ l.heard, e.1 ≤ e'.1 →
          e'.2.ssrc = e.2.ssrc ∧
          e'.2.sequenceNumber = e.2.sequenceNumber + UInt16.ofNat (sentCount (l.between e.1 e'.1)) ∧
          e'.2.timestamp = e.2.timestamp + sentAdvance (l.between e.1 e'.1) :=
  ⟨by decide +kernel, @rtp_loss_observability PCMFlow.documented _ ⟨_, [], rfl⟩ 5004 1 ⟨2, 3, 4⟩
    ({}, {}) overtaken
    (by decide)⟩

end HeardLink

end PcmFlowUdp
