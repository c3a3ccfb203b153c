import PcmFlowUdp.ByteTransport.Mailbox
import PcmFlowUdp.ByteTransport.Runs
import PcmFlowUdp.Rtp.Packetizer
import PcmFlowUdp.Rtp.Reception

/-! # The RTP encoded path end to end

An `EncodedLink` puts an `RtpSender` and an `RtpReceiver` at the two ends of a network that delivers
every datagram in order, with a payload type that the receiver does not treat as L16. `EncodedSpec`
says what the two are for: packets with consecutive headers go into a one-slot mailbox
(`Mailbox`), from which each is taken at most once.

* **`Refines.step`** — every call does to the link what it does to the abstract path, and returns the
  same;
* **`rtp_encoded_transparency`** — so every run does, no packet is read twice, and none is lost if
  `poll` is only called when nothing is held. -/

namespace PcmFlowUdp

open ByteTransport

/-! ## The abstract path -/

/-- A packet of the encoded path: its header and its payload. -/
structure EncodedPacket where
  header : RtpHeader
  payload : List UInt8
  deriving DecidableEq, Repr

/-- The packet on the wire. -/
def EncodedPacket.datagram (p : EncodedPacket) : List UInt8 := rtpHeaderBytes p.header ++ p.payload

/-- One call at either end of the path. -/
inductive EncodedOp
  /-- `writeEncoded` with all of these bytes. -/
  | write (bytes : List UInt8)
  /-- `poll`, with the next datagram if it has arrived. -/
  | poll (arrived : Bool)
  | hasEncoded
  | read (nonNull : Bool) (maxBytes : ℕ)

/-- The bytes that a call hands to `writeEncoded`. -/
def EncodedOp.written : EncodedOp → Option (List UInt8)
  | .write bytes => some bytes
  | _ => none

/-- A `writeEncoded` stays within the payload cap. -/
def EncodedOp.InRange : EncodedOp → Prop
  | .write bytes => 0 < bytes.length ∧ bytes.length ≤ kRtpMaxPayloadBytes
  | _ => True

instance (op : EncodedOp) : Decidable op.InRange :=
  match op with
  | .write bytes =>
      inferInstanceAs (Decidable (0 < bytes.length ∧ bytes.length ≤ kRtpMaxPayloadBytes))
  | .poll _ => isTrue trivial
  | .hasEncoded => isTrue trivial
  | .read _ _ => isTrue trivial

/-- What a call returns. -/
inductive EncodedEvent
  | wrote (ok : Bool)
  | polled (ok : Bool)
  | has (held : Bool)
  /-- The number of bytes that `readEncoded` returned and, if that is not zero, the bytes with what the
  metadata getters report then. -/
  | read (count : ℕ) (packet : Option EncodedPacket)
  deriving DecidableEq, Repr

/-- The packets that reads returned. -/
def returned (log : List EncodedEvent) : List EncodedPacket :=
  log.filterMap fun
    | .read _ packet => packet
    | _ => none

/-- What is returned adds up over the log. -/
@[simp] theorem returned_append (log events : List EncodedEvent) :
    returned (log ++ events) = returned log ++ returned events := List.filterMap_append

/-- What the encoded path is for: numbered packets, and a mailbox at the far end. -/
structure EncodedSpec where
  /-- The header of the next packet. -/
  next : RtpHeader
  tsIncrement : UInt32
  /-- The packets sent. -/
  written : List EncodedPacket := []
  mailbox : Mailbox EncodedPacket := {}
  /-- What the calls returned. -/
  log : List EncodedEvent := []

namespace EncodedSpec

/-- One call. -/
def step (a : EncodedSpec) : EncodedOp → EncodedSpec
  | .write bytes =>
      { a with
        next := a.next.advance a.tsIncrement
        written := a.written ++ [⟨a.next, bytes⟩]
        log := a.log ++ [.wrote true] }
  | .poll arrived =>
      match if arrived then a.written[a.mailbox.posted.length]? else none with
      | none => { a with log := a.log ++ [.polled false] }
      | some p => { a with mailbox := a.mailbox.post p, log := a.log ++ [.polled true] }
  | .hasEncoded => { a with log := a.log ++ [.has a.mailbox.slot.isSome] }
  | .read nonNull maxBytes =>
      let (packet, mailbox) :=
        a.mailbox.take fun p => nonNull && decide (p.payload.length ≤ maxBytes)
      { a with
        mailbox
        log := a.log ++ [.read ((packet.map fun p => p.payload.length).getD 0) packet] }

/-- The bytes written are those of the calls, in order. -/
theorem written_foldl (ops : List EncodedOp) (a : EncodedSpec) :
    (ops.foldl step a).written.map EncodedPacket.payload
      = a.written.map EncodedPacket.payload ++ ops.filterMap EncodedOp.written := by
  induction ops generalizing a with
  | nil => simp
  | cons op ops ih =>
    rw [List.foldl_cons, ih]
    cases op with
    | write bytes => simp [step, EncodedOp.written]
    | poll arrived =>
      simp only [step]
      split <;> rfl
    | hasEncoded => rfl
    | read nonNull maxBytes => rfl

/-- What every call keeps. -/
structure Inv (a : EncodedSpec) : Prop where
  /-- The packets polled are the first ones sent. -/
  posted : a.mailbox.posted <+: a.written
  kept : a.mailbox.Kept
  taken : a.mailbox.taken = returned a.log

/-- Every step keeps the invariant. -/
theorem Inv.step {a : EncodedSpec} (h : a.Inv) (op : EncodedOp) : (a.step op).Inv := by
  cases op with
  | write bytes =>
    exact ⟨h.posted.trans (List.prefix_append _ _), h.kept, by simp [EncodedSpec.step, h.taken, returned]⟩
  | poll arrived =>
    rw [EncodedSpec.step]
    split
    · exact ⟨h.posted, h.kept, by simp [h.taken, returned]⟩
    · -- the packet polled is the one behind those polled before
      rename_i p hnext
      have hget : a.written[a.mailbox.posted.length]? = some p := by
        cases arrived
        · simp at hnext
        · exact hnext
      obtain ⟨rest, hrest⟩ := h.posted
      rw [← hrest, List.getElem?_append_right le_rfl, Nat.sub_self] at hget
      refine ⟨?_, h.kept.post p, by simp [Mailbox.post, h.taken, returned]⟩
      cases rest with
      | nil => simp at hget
      | cons q rest =>
        obtain rfl : q = p := by simpa using hget
        exact ⟨rest, by rw [← hrest]; simp [Mailbox.post]⟩
  | hasEncoded => exact ⟨h.posted, h.kept, by simp [EncodedSpec.step, h.taken, returned]⟩
  | read nonNull maxBytes =>
    refine ⟨by simpa [EncodedSpec.step] using h.posted, h.kept.take _, ?_⟩
    -- the log gains what the mailbox hands out
    simp only [EncodedSpec.step, returned_append, ← h.taken, Mailbox.take]
    cases a.mailbox.slot with
    | none => simp [returned]
    | some p => by_cases hfits : (nonNull && decide (p.payload.length ≤ maxBytes)) = true <;>
        simp [hfits, returned]

/-- Calls that only poll into an empty mailbox lose no packet. -/
theorem complete_step {a : EncodedSpec} (h : a.mailbox.Complete) {op : EncodedOp}
    (hop : op = .poll true → a.mailbox.slot = none) : (a.step op).mailbox.Complete := by
  cases op with
  | write bytes => exact h
  | poll arrived =>
    rw [EncodedSpec.step]
    split
    · exact h
    · rename_i p hnext
      cases arrived
      · simp at hnext
      · exact h.post (hop rfl) p
  | hasEncoded => exact h
  | read nonNull maxBytes => exact h.take _

end EncodedSpec

/-! ## The link -/

/-- What the metadata getters `marker`, `payloadType`, `sequenceNumber`, `timestamp` and `ssrc`
report. -/
def RtpReceiver.lastHeader (r : RtpReceiver) : RtpHeader :=
  { marker := r.lastMarker, payloadType := r.lastPt, sequenceNumber := r.lastSeq,
    timestamp := r.lastTs, ssrc := r.lastSsrc }

/-- A sender and a receiver, with the history of the calls made. -/
structure EncodedLink where
  sender : RtpSender
  receiver : RtpReceiver × RtpPollMemory
  /-- The datagrams that left before. -/
  base : ℕ
  /-- How many datagrams `poll` has taken. -/
  polled : ℕ := 0
  /-- What the calls returned. -/
  log : List EncodedEvent := []

namespace EncodedLink

/-- A link over which nothing has been sent yet. -/
def start (sender : RtpSender) (receiver : RtpReceiver) (mem : RtpPollMemory) : EncodedLink :=
  { sender, receiver := (receiver, mem), base := sender.udp.datagrams.length }

/-- The datagrams sent, in order. -/
def sent (l : EncodedLink) : List (List UInt8) := l.sender.udp.datagrams.drop l.base

/-- One call. -/
def step [PCMFlow] (l : EncodedLink) : EncodedOp → Option EncodedLink
  | .write bytes =>
      let (ok, sender) := l.sender.writeEncoded (some bytes) bytes.length
      some { l with sender, log := l.log ++ [.wrote ok] }
  | .poll arrived =>
      match if arrived then l.sent[l.polled]? else none with
      | none =>
          let (ok, receiver) := l.receiver.1.poll l.receiver.2 Inbound.empty
          some { l with receiver, log := l.log ++ [.polled ok] }
      | some d =>
          let (ok, receiver) := l.receiver.1.poll l.receiver.2 (Inbound.ofDatagram d)
          some { l with receiver, polled := l.polled + 1, log := l.log ++ [.polled ok] }
  | .hasEncoded => some { l with log := l.log ++ [.has l.receiver.1.hasEncoded] }
  | .read nonNull maxBytes =>
      let (count, bytes, receiver) := l.receiver.1.readEncoded nonNull maxBytes
      let packet := if count = 0 then none else some ⟨receiver.lastHeader, bytes⟩
      some { l with receiver := (receiver, l.receiver.2), log := l.log ++ [.read count packet] }

/-- The receiver holds this packet, or none. -/
def Holds (r : RtpReceiver) : Option EncodedPacket → Prop
  | none => r.encodedReady = false
  | some p => r.encodedReady = true ∧ r.encodedBytes = p.payload.length ∧
      r.encoded.slice 0 p.payload.length = p.payload ∧ r.lastHeader = p.header

/-- `hasEncoded` says whether the slot is full. -/
theorem Holds.hasEncoded {r : RtpReceiver} {slot : Option EncodedPacket} (h : Holds r slot) :
    r.hasEncoded = slot.isSome := by
  cases slot with
  | none => exact h
  | some p => exact h.1

/-- A packet that the sender can have sent with payload type `pt`. -/
structure IsEncodedPacket (pt : UInt8) (p : EncodedPacket) : Prop where
  header : p.header.emitted = p.header
  payloadType : p.header.payloadType = pt
  payload_pos : 0 < p.payload.length
  payload_le : p.payload.length ≤ kRtpMaxPayloadBytes

/-- The link is where the abstract path is. -/
structure Refines (l : EncodedLink) (a : EncodedSpec) : Prop where
  base_le : l.base ≤ l.sender.udp.datagrams.length
  ready : l.sender.ready = true
  payloadType_le : l.sender.payloadType ≤ 0x7F
  reliable : l.sender.udp.Reliable
  next : l.sender.nextHeader = a.next
  tsIncrement : l.sender.tsIncrement = a.tsIncrement
  sent : l.sent = a.written.map EncodedPacket.datagram
  packets : ∀ p ∈ a.written, IsEncodedPacket l.sender.payloadType p
  polled : l.polled = a.mailbox.posted.length
  posted : ∀ p ∈ a.mailbox.slot, IsEncodedPacket l.sender.payloadType p
  receiving : l.receiver.1.ready = true
  notL16 : l.receiver.1.treatsAsL16 l.sender.payloadType = false
  holds : Holds l.receiver.1 a.mailbox.slot
  log : l.log = a.log

section Steps

variable [PCMFlow] {l : EncodedLink} {a : EncodedSpec} (h : Refines l a)

include h

/-- A write sends the next packet. -/
theorem Refines.write {bytes : List UInt8} (hpos : 0 < bytes.length)
    (hmax : bytes.length ≤ kRtpMaxPayloadBytes) :
    ∃ l', step l (.write bytes) = some l' ∧ Refines l' (a.step (.write bytes)) := by
  have hok := h.reliable.next_ok
  -- the whole of the caller's memory is sent
  have hmem : readMem bytes 0 bytes.length = bytes := by
    rw [readMem_eq (by omega), List.drop_zero, List.take_length]
  have hwrite := RtpSender.writeEncoded_eq h.ready h.payloadType_le bytes hpos hmax
  rw [hmem, hok] at hwrite
  set s' := l.sender.attempt bytes l.sender.tsIncrement
    ((l.sender.packet.blit 0 (rtpHeaderBytes l.sender.nextHeader)).blit kRtpHeaderBytes bytes)
    l.sender.pendingFrames with hs'
  -- the header moves on as on the abstract path
  have hout : s'.outlet = l.sender.outlet.send bytes l.sender.tsIncrement :=
    RtpSender.outlet_attempt _ _ _ _ _
  have hnext : s'.nextHeader = a.next.advance a.tsIncrement := by
    rw [show s'.nextHeader = s'.outlet.header from rfl, hout, RtpOutlet.send_of_ok hok, ← h.next,
      ← h.tsIncrement]
    rfl
  have hdata : s'.udp.datagrams
      = l.sender.udp.datagrams ++ [(⟨a.next, bytes⟩ : EncodedPacket).datagram] := by
    rw [← h.next]
    exact h.reliable.datagrams_transmit _
  have hpacket : IsEncodedPacket l.sender.payloadType ⟨a.next, bytes⟩ := by
    rw [← h.next]
    exact ⟨rfl, rfl, hpos, hmax⟩
  rw [step, hwrite]
  refine ⟨_, rfl, ?_⟩
  constructor
  · show l.base ≤ s'.udp.datagrams.length
    rw [hdata, List.length_append]
    exact Nat.le_add_right_of_le h.base_le
  · exact h.ready
  · exact h.payloadType_le
  · exact h.reliable
  · exact hnext
  · exact h.tsIncrement
  · show s'.udp.datagrams.drop l.base = _
    rw [hdata, List.drop_append_of_le_length h.base_le, ← EncodedLink.sent, h.sent,
      EncodedSpec.step, List.map_append]
    rfl
  · intro p hp
    rcases List.mem_append.mp hp with hold | hnew
    · exact h.packets p hold
    · obtain rfl := List.mem_singleton.mp hnew
      exact hpacket
  · exact h.polled
  · exact h.posted
  · exact h.receiving
  · exact h.notL16
  · exact h.holds
  · exact congrArg (· ++ [EncodedEvent.wrote true]) h.log

/-- A poll takes the next packet into the hold. -/
theorem Refines.poll (arrived : Bool) :
    ∃ l', step l (.poll arrived) = some l' ∧ Refines l' (a.step (.poll arrived)) := by
  have hnext : (if arrived then l.sent[l.polled]? else none)
      = (if arrived then a.written[a.mailbox.posted.length]? else none).map
          EncodedPacket.datagram := by
    rw [h.sent, h.polled, List.getElem?_map]
    cases arrived <;> rfl
  rw [step, EncodedSpec.step, hnext]
  cases hp : (if arrived then a.written[a.mailbox.posted.length]? else none) with
  | none =>
    simp only [Option.map_none, RtpReceiver.poll_empty]
    exact ⟨_, rfl, { h with log := congrArg (· ++ [EncodedEvent.polled false]) h.log }⟩
  | some p =>
    -- a packet only arrives if it was sent
    have hmem : p ∈ a.written := by
      cases arrived
      · simp at hp
      · exact List.mem_of_getElem? hp
    have hpacket := h.packets p hmem
    obtain ⟨hack, hrecv⟩ := RtpReceiver.poll_emitted h.receiving l.receiver.2
      (show p.header.payloadType ≤ 0x7F from hpacket.payloadType ▸ h.payloadType_le)
      hpacket.payload_le
    -- the payload type is not L16, so the payload goes into the hold
    have hnot : ¬ l.receiver.1.treatsAsL16 p.header.emitted.payloadType = true := by
      rw [show p.header.emitted.payloadType = l.sender.payloadType from hpacket.payloadType, h.notL16]
      exact Bool.false_ne_true
    rw [RtpReceiver.dispatch, if_neg hnot] at hrecv
    have hslice : ((l.receiver.1.encoded.blit 0 p.payload).slice 0 p.payload.length) = p.payload :=
      Buffer.slice_blit_same _ (by rw [Nat.zero_add]; exact hpacket.payload_le)
    change (l.receiver.1.poll l.receiver.2 (Inbound.ofDatagram p.datagram)).1 = true at hack
    change (l.receiver.1.poll l.receiver.2 (Inbound.ofDatagram p.datagram)).2.1 = _ at hrecv
    simp only [Option.map_some]
    generalize l.receiver.1.poll l.receiver.2 (Inbound.ofDatagram p.datagram) = res at hack hrecv
    obtain ⟨ok, receiver, mem⟩ := res
    dsimp only at hack hrecv
    subst hack hrecv
    refine ⟨_, rfl, ?_⟩
    constructor
    · exact h.base_le
    · exact h.ready
    · exact h.payloadType_le
    · exact h.reliable
    · exact h.next
    · exact h.tsIncrement
    · exact h.sent
    · exact h.packets
    · simp [Mailbox.post, h.polled]
    · intro q hq
      obtain rfl := Option.some.inj hq
      exact hpacket
    · exact h.receiving
    · exact h.notL16
    · exact ⟨rfl, rfl, hslice, hpacket.header⟩
    · exact congrArg (· ++ [EncodedEvent.polled true]) h.log

/-- A read takes the packet out of the hold, or leaves it there. -/
theorem Refines.read (nonNull : Bool) (maxBytes : ℕ) :
    ∃ l', step l (.read nonNull maxBytes) = some l' ∧
      Refines l' (a.step (.read nonNull maxBytes)) := by
  set fits : EncodedPacket → Bool := fun p => nonNull && decide (p.payload.length ≤ maxBytes)
    with hfitsDef
  have hholds := h.holds
  -- nothing is copied unless a packet is held and fits
  have hstay : l.receiver.1.readEncoded nonNull maxBytes = (0, [], l.receiver.1) →
      a.mailbox.take fits = (none, a.mailbox) →
      ∃ l', step l (.read nonNull maxBytes) = some l' ∧
        Refines l' (a.step (.read nonNull maxBytes)) := by
    intro hread htake
    rw [step, hread, EncodedSpec.step, ← hfitsDef, htake]
    exact ⟨_, rfl, { h with log := congrArg (· ++ [EncodedEvent.read 0 none]) h.log }⟩
  -- nothing held, a packet that fits, or one that does not
  cases hslot : a.mailbox.slot with
  | none =>
    rw [hslot] at hholds
    refine hstay ?_ (Mailbox.take_of_empty hslot fits)
    rw [RtpReceiver.readEncoded, show l.receiver.1.encodedReady = false from hholds]
    rfl
  | some p =>
    rw [hslot] at hholds
    obtain ⟨hready, hbytes, hslice, hlast⟩ := hholds
    have hread := l.receiver.1.readEncoded_of_held hready nonNull maxBytes
    rw [hbytes, hslice] at hread
    by_cases hfits : fits p = true
    · have hpos : ¬ p.payload.length = 0 := (h.posted p hslot).payload_pos.ne'
      rw [if_pos hfits] at hread
      rw [step, hread, EncodedSpec.step, ← hfitsDef, Mailbox.take_of_fits hslot hfits]
      simp only [if_neg hpos]
      refine ⟨_, rfl, ?_⟩
      constructor
      · exact h.base_le
      · exact h.ready
      · exact h.payloadType_le
      · exact h.reliable
      · exact h.next
      · exact h.tsIncrement
      · exact h.sent
      · exact h.packets
      · exact h.polled
      · exact fun q hq => absurd hq (Option.not_mem_none q)
      · exact h.receiving
      · exact h.notL16
      · exact rfl
      · -- the getters still report the packet's own header
        have hpacket : (⟨p.header, p.payload⟩ : EncodedPacket) = p := rfl
        simp only [h.log, Option.map_some, Option.getD_some]
        rw [← hpacket, ← hlast]
        rfl
    · rw [if_neg hfits] at hread
      exact hstay hread (Mailbox.take_of_not_fits hslot hfits)

/-- **One step.** Every call within the payload cap does to the link what it does to the abstract path,
and returns the same. -/
theorem Refines.step {op : EncodedOp} (hop : op.InRange) :
    ∃ l', EncodedLink.step l op = some l' ∧ Refines l' (a.step op) := by
  cases op with
  | write bytes => exact h.write hop.1 hop.2
  | poll arrived => exact h.poll arrived
  | hasEncoded =>
    refine ⟨_, rfl, { h with log := ?_ }⟩
    simp only [h.log, h.holds.hasEncoded]
    rfl
  | read nonNull maxBytes => exact h.read nonNull maxBytes

end Steps

/-- `poll` takes a datagram only if what came before it has been read. -/
def PollsWhenEmpty (l : EncodedLink) : EncodedOp → Prop
  | .poll true => l.receiver.1.hasEncoded = false
  | _ => True

instance (l : EncodedLink) (op : EncodedOp) : Decidable (l.PollsWhenEmpty op) :=
  match op with
  | .poll true => inferInstanceAs (Decidable (l.receiver.1.hasEncoded = false))
  | .poll false => isTrue trivial
  | .write _ => isTrue trivial
  | .hasEncoded => isTrue trivial
  | .read _ _ => isTrue trivial

/-- What the abstract path does over a link between this sender and a receiver. -/
def spec (s : RtpSender) (ops : List EncodedOp) : EncodedSpec :=
  ops.foldl EncodedSpec.step { next := s.nextHeader, tsIncrement := s.tsIncrement }

/-- A link between a sender and a freshly begun receiver starts where the abstract path starts. -/
theorem refines_start {s : RtpSender} (hs : s.WF) (hready : s.ready = true)
    (hset : s.payloadType ≠ 0xFF) (hrel : s.udp.Reliable) {r : RtpReceiver}
    (hpt : r.treatsAsL16 s.payloadType = false) (mem : RtpPollMemory) :
    Refines (start s (r.begin 1).2 mem) { next := s.nextHeader, tsIncrement := s.tsIncrement } := by
  have hle : s.payloadType ≤ 0x7F := hs.payloadType_le.resolve_left hset
  exact ⟨le_rfl, hready, hle, hrel, rfl, rfl, List.drop_length, fun p hp => absurd hp List.not_mem_nil,
    rfl, fun p hp => absurd hp (Option.not_mem_none p), rfl, hpt, rfl, rfl⟩

/-- Nothing has been sent, polled or read at the start. -/
theorem inv_start (s : RtpSender) :
    (EncodedSpec.Inv { next := s.nextHeader, tsIncrement := s.tsIncrement }) :=
  ⟨List.prefix_rfl, List.Sublist.refl [], rfl⟩

/-- **RTP encoded path transparency.** A sender with a payload type that the receiver does not treat as
L16, over a UDP object on which every send succeeds, and a freshly begun receiver: in every run of
`writeEncoded` within the payload cap, `poll`, `hasEncoded` and `readEncoded`

* every call returns what it returns on the abstract path, where `poll` puts the next packet written
  into a one-slot mailbox and `readEncoded` takes it out if it fits, with its metadata;
* the datagrams are the packets of that path, which carry exactly the bytes written;
* the packets read are among the packets polled, each at most once and in order;
* if `poll` only takes a datagram when nothing is held, the packets read and the one still held are all
  the packets polled. -/
theorem rtp_encoded_transparency [PCMFlow] {s : RtpSender} (hs : s.Reachable) (hready : s.ready = true)
    (hset : s.payloadType ≠ 0xFF) (hrel : s.udp.Reliable) {r : RtpReceiver}
    (hpt : r.treatsAsL16 s.payloadType = false) (mem : RtpPollMemory) (ops : List EncodedOp)
    (hops : ∀ op ∈ ops, op.InRange) :
    ∃ l, run step (start s (r.begin 1).2 mem) ops = some l ∧
      l.log = (spec s ops).log ∧
      l.sent = (spec s ops).written.map EncodedPacket.datagram ∧
      (spec s ops).written.map EncodedPacket.payload = ops.filterMap EncodedOp.written ∧
      List.Sublist (returned l.log) ((spec s ops).written.take l.polled) ∧
      (Admissible step PollsWhenEmpty (start s (r.begin 1).2 mem) ops →
        returned l.log ++ (spec s ops).mailbox.slot.toList = (spec s ops).written.take l.polled ∧
        (l.polled = l.sent.length → l.receiver.1.hasEncoded = false →
          (returned l.log).map EncodedPacket.payload = ops.filterMap EncodedOp.written)) := by
  have hstart := refines_start hs.wf hready hset hrel hpt mem
  have hrange : Admissible step _ (start s (r.begin 1).2 mem) ops := admissible_of_mem hops _
  have hwritten : (spec s ops).written.map EncodedPacket.payload
      = ops.filterMap EncodedOp.written := EncodedSpec.written_foldl ops _
  -- every call is matched by the abstract path
  obtain ⟨l, hrun, href, hinv⟩ := run_simulates
    (R := fun l a => Refines l a ∧ a.Inv) (f := EncodedSpec.step)
    (fun l a op hrel hop => by
      obtain ⟨l', hstep, href'⟩ := hrel.1.step hop
      exact ⟨l', hstep, href', hrel.2.step op⟩)
    ⟨hstart, inv_start s⟩ hrange
  have hposted : (spec s ops).mailbox.posted = (spec s ops).written.take l.polled := by
    rw [href.polled]
    exact List.prefix_iff_eq_take.mp hinv.posted
  have htaken : (spec s ops).mailbox.taken = returned l.log := by rw [href.log]; exact hinv.taken
  refine ⟨l, hrun, href.log, href.sent, hwritten, ?_, fun hempty => ?_⟩
  · rw [← hposted, ← htaken]
    exact hinv.kept.sublist
  · -- a poll that finds nothing held posts into an empty mailbox
    obtain ⟨l', hrun', -, hcomplete⟩ := run_simulates
      (R := fun l a => Refines l a ∧ a.mailbox.Complete) (f := EncodedSpec.step)
      (fun l a op hrel hop => by
        obtain ⟨l', hstep, href'⟩ := hrel.1.step hop.1
        refine ⟨l', hstep, href', EncodedSpec.complete_step hrel.2 fun hpoll => ?_⟩
        subst hpoll
        have hnone : l.receiver.1.hasEncoded = false := hop.2
        rw [hrel.1.holds.hasEncoded] at hnone
        simpa using hnone)
      ⟨hstart, rfl⟩ (hrange.and hempty)
    have hall : returned l.log ++ (spec s ops).mailbox.slot.toList
        = (spec s ops).written.take l.polled := by
      rw [← hposted, ← htaken]
      exact hcomplete
    refine ⟨hall, fun hpolled hnone => ?_⟩
    rw [href.holds.hasEncoded] at hnone
    have hslot : (spec s ops).mailbox.slot = none := by simpa [spec] using hnone
    have hlen : l.sent.length = (spec s ops).written.length := by
      rw [href.sent, List.length_map]
      rfl
    rw [hslot, Option.toList_none, List.append_nil, hpolled, hlen, List.take_length] at hall
    rw [hall, hwritten]

/-- Two packets, the first of which is asked for with too little room before it is read. -/
theorem rtp_encoded_transparency_pcmu :
    let s := ((RtpSender.new fun _ => {}).setPayloadType 0 8000).2.begin 5004 7 ⟨0, 65535, 9⟩
    let ops : List EncodedOp := [.write [1, 2, 3], .poll true, .read true 2, .hasEncoded,
      .write [4], .read true 3, .poll true, .read true 160, .poll false]
    ∃ l, run (@step PCMFlow.documented) (start s.2 (RtpReceiver.begin {} 1).2 {}) ops = some l ∧
      l.log = (spec s.2 ops).log ∧
      l.sent = (spec s.2 ops).written.map EncodedPacket.datagram ∧
      (spec s.2 ops).written.map EncodedPacket.payload = ops.filterMap EncodedOp.written ∧
      List.Sublist (returned l.log) ((spec s.2 ops).written.take l.polled) ∧
      returned l.log ++ (spec s.2 ops).mailbox.slot.toList
        = (spec s.2 ops).written.take l.polled ∧
      (l.polled = l.sent.length → l.receiver.1.hasEncoded = false →
        (returned l.log).map EncodedPacket.payload = ops.filterMap EncodedOp.written) := by
  intro s ops
  have hops : ∀ op ∈ ops, op.InRange := by
    simp [ops, EncodedOp.InRange, kRtpMaxPayloadBytes]
  obtain ⟨l, hrun, hlog, hsent, hwritten, hread, hall⟩ := @rtp_encoded_transparency
    PCMFlow.documented s.2 ⟨fun _ => {}, [.setPayloadType 0 8000, .begin 5004 7 ⟨0, 65535, 9⟩], rfl⟩ rfl
    (by simp only [s]; decide) (fun _ => ⟨rfl, rfl⟩) {} rfl {} ops hops
  exact ⟨l, hrun, hlog, hsent, hwritten, hread, hall (by simp only [s, ops]; decide +kernel)⟩

end EncodedLink

end PcmFlowUdp
