import PcmFlowUdp.RawUdp.Sink
import PcmFlowUdp.Rtp.L16Packets
import PcmFlowUdp.Vban.Packetizer

/-! # Whether success means that the whole packet went out

All four send routines check what `beginPacket` and `endPacket` return, and none looks at how many bytes
`write` accepted. `SendsWhole` says of one attempt that it counts as successful only if its datagram is the
whole packet.

* **`whole_packets`** — exactly when it does, for each routine in every state. The two `flush` of the PCM
  senders tell a failure by a change of the last error, which says nothing if that was `SendFailed`
  already. -/

namespace PcmFlowUdp

open ByteTransport

/-- If the attempt to send `n` bytes succeeds, `write` accepts them all. -/
def UdpTx.Whole (tx : UdpTx) (n : ℕ) : Prop := tx.ok = true → ∀ k, tx.write = some k → n ≤ k

/-- Between two states of the UDP object one attempt was made to send `packet`. If it was `counted` as
successful, the datagram is the packet, and a datagram that is cut short was `reported`. -/
def SendsWhole (before after : Udp) (packet : List UInt8) (counted reported : Prop) : Prop :=
  ∃ tx, after.attempts = before.attempts ++ [⟨packet, tx⟩] ∧
    (counted → (⟨packet, tx⟩ : SendAttempt).datagram = some packet) ∧
    ∀ d, (⟨packet, tx⟩ : SendAttempt).datagram = some d → d ≠ packet → reported

namespace SendAttempt

/-- The datagram of an attempt is the packet if the attempt succeeds and `write` accepts all of it. -/
theorem datagram_eq_packet (packet : List UInt8) (tx : UdpTx) :
    (⟨packet, tx⟩ : SendAttempt).datagram = some packet ↔ tx.ok = true ∧ tx.Whole packet.length := by
  by_cases hok : tx.ok = true
  · cases hwrite : tx.write <;> simp [datagram, SendAttempt.ok, UdpTx.Whole, hok, hwrite]
  · simp [datagram, SendAttempt.ok, hok]

/-- It is cut short if the attempt succeeds and `write` does not. -/
theorem datagram_cut_short (packet : List UInt8) (tx : UdpTx) :
    (∃ d, (⟨packet, tx⟩ : SendAttempt).datagram = some d ∧ d ≠ packet) ↔
      tx.ok = true ∧ ¬ tx.Whole packet.length := by
  by_cases hok : tx.ok = true
  · cases hwrite : tx.write <;> simp [datagram, SendAttempt.ok, UdpTx.Whole, hok, hwrite]
  · simp [datagram, SendAttempt.ok, hok]

end SendAttempt

section SendsWhole

variable {udp : Udp} {packet : List UInt8} {counted reported : Prop}

/-- One attempt. -/
theorem sendsWhole_transmit : SendsWhole udp (udp.transmit packet).2 packet counted reported ↔
    (counted → udp.next.ok = true ∧ udp.next.Whole packet.length) ∧
      (udp.next.ok = true ∧ ¬ udp.next.Whole packet.length → reported) := by
  rw [← SendAttempt.datagram_eq_packet, ← SendAttempt.datagram_cut_short]
  constructor
  · rintro ⟨tx, hattempts, hwhole, hreported⟩
    obtain rfl : udp.next = tx := by simpa [Udp.transmit] using hattempts
    refine ⟨hwhole, ?_⟩
    rintro ⟨d, hd, hne⟩
    exact hreported d hd hne
  · rintro ⟨hwhole, hreported⟩
    exact ⟨udp.next, rfl, hwhole, fun d hd hne => hreported ⟨d, hd, hne⟩⟩

/-- A routine that counts what `beginPacket` and `endPacket` say. -/
theorem sendsWhole_of_ok (hcounted : counted ↔ udp.next.ok = true) :
    SendsWhole udp (udp.transmit packet).2 packet counted reported ↔ udp.next.Whole packet.length := by
  rw [sendsWhole_transmit, hcounted]
  constructor
  · rintro ⟨hwhole, -⟩ hok
    exact (hwhole hok).2 hok
  · intro hwhole
    exact ⟨fun hok => ⟨hok, hwhole⟩, fun hcut => absurd hwhole hcut.2⟩

/-- A routine that counts an attempt also when an earlier failure is standing. -/
theorem sendsWhole_of_unchanged {standing : Prop} (hcounted : counted ↔ udp.next.ok = true ∨ standing) :
    SendsWhole udp (udp.transmit packet).2 packet counted reported ↔
      udp.next.Whole packet.length ∧ (standing → udp.next.ok = true) := by
  rw [sendsWhole_transmit, hcounted]
  constructor
  · rintro ⟨hwhole, -⟩
    exact ⟨fun hok => (hwhole (.inl hok)).2 hok, fun hstanding => (hwhole (.inr hstanding)).1⟩
  · rintro ⟨hwhole, hstanding⟩
    exact ⟨fun h => ⟨h.elim id hstanding, hwhole⟩, fun hcut => absurd hwhole hcut.2⟩

/-- A routine that counts an attempt by the last error. -/
theorem sendsWhole_of_error {standing : Prop} (hreported : reported ↔ ¬ udp.next.ok = true ∨ standing) :
    SendsWhole udp (udp.transmit packet).2 packet (¬ reported) reported ↔
      standing ∨ udp.next.Whole packet.length := by
  rw [sendsWhole_transmit, hreported]
  constructor
  · rintro ⟨hwhole, -⟩
    refine or_iff_not_imp_left.mpr fun hstanding hok => ?_
    exact (hwhole fun h => h.elim (fun hnot => hnot hok) hstanding).2 hok
  · rintro (hstanding | hwhole)
    · exact ⟨fun hnot => absurd (.inr hstanding) hnot, fun _ => .inr hstanding⟩
    · refine ⟨fun hnot => ⟨?_, hwhole⟩, fun hcut => absurd hwhole hcut.2⟩
      exact Classical.not_not.mp fun hok => hnot (.inl hok)

end SendsWhole

/-! ## The routines -/

/-- What the encoded path returns, and what it does to the UDP object. -/
theorem RtpSender.writeEncoded_udp {s : RtpSender} (hready : s.ready = true) (hset : s.payloadType ≠ 0xFF)
    (bytes : List UInt8) {count : ℕ} (hpos : 0 < count) (hmax : count ≤ kRtpMaxPayloadBytes) :
    (s.writeEncoded (some bytes) count).1 = s.udp.next.ok ∧
      (s.writeEncoded (some bytes) count).2.udp = (s.udp.transmit (s.encodedPacket bytes count)).2 := by
  rw [writeEncoded, if_neg (by rw [hready]; decide), if_neg (by rwa [beq_iff_eq])]
  simp only [if_neg (show ¬ (count = 0 ∨ kRtpMaxPayloadBytes < count) by omega), sendPacket_eq]
  cases s.udp.next.ok <;> simp [encodedPacket]

/-- The next sequence number is another one. -/
theorem succ_sequenceNumber_iff (seq : UInt16) (ok : Bool) :
    (if ok then seq + 1 else seq) = seq + 1 ↔ ok = true := by
  have hne : seq ≠ seq + 1 := by
    intro heq
    have hnat := congrArg UInt16.toNat heq
    rw [UInt16.toNat_add] at hnat
    have hlt := seq.toNat_lt
    have hone : (1 : UInt16).toNat = 1 := rfl
    omega
  cases ok <;> simp [hne]

/-- The last error is as it was if nothing failed or the same failure was standing. -/
theorem error_unchanged_iff {ε : Type} [BEq ε] [LawfulBEq ε] (ok : Bool) (error sendFailed : ε) :
    ((if ok then error else sendFailed) == error) = true ↔ ok = true ∨ error = sendFailed := by
  rw [beq_iff_eq]
  cases ok
  · simpa using ⟨Eq.symm, Eq.symm⟩
  · simp

/-- **When success means that the whole packet went out.** For each routine, in every state in which it makes
an attempt and whatever the UDP object answers, the exact condition on those answers and on the last
error. -/
theorem whole_packets [PCMFlow] :
    (∀ s : RawUdpSink, s.ready = true → s.used ≠ 0 →
      (SendsWhole s.udp s.flush.2.udp s.packet (s.flush.1 = true) (s.flush.2.error = .sendFailed) ↔
        s.udp.next.Whole s.packet.length)) ∧
    (∀ (s : RtpSender) (bytes : List UInt8) (count : ℕ), s.ready = true → s.payloadType ≠ 0xFF →
      0 < count → count ≤ kRtpMaxPayloadBytes →
      (SendsWhole s.udp (s.writeEncoded (some bytes) count).2.udp (s.encodedPacket bytes count)
          ((s.writeEncoded (some bytes) count).1 = true)
          ((s.writeEncoded (some bytes) count).2.error = .sendFailed) ↔
        s.udp.next.Whole (kRtpHeaderBytes + count))) ∧
    (∀ s : RtpSender, s.pendingFrames ≠ 0 →
      (SendsWhole s.udp s.emitL16Packet.udp s.nextPacket
          (s.emitL16Packet.sequenceNumber = s.sequenceNumber + 1)
          (s.emitL16Packet.error = .sendFailed) ↔
        s.udp.next.Whole s.nextPacket.length)) ∧
    (∀ s : RtpSender, s.ready = true → s.pendingFrames ≠ 0 →
      (SendsWhole s.udp s.flush.2.udp s.nextPacket (s.flush.1 = true) (s.flush.2.error = .sendFailed) ↔
        s.udp.next.Whole s.nextPacket.length ∧ (s.error = .sendFailed → s.udp.next.ok = true))) ∧
    (∀ s : VbanSender, s.pendingFrames ≠ 0 →
      (SendsWhole s.udp s.emitPacket.udp s.nextPacket (¬ s.emitPacket.error = .sendFailed)
          (s.emitPacket.error = .sendFailed) ↔
        s.error = .sendFailed ∨ s.udp.next.Whole s.nextPacket.length)) ∧
    (∀ s : VbanSender, s.ready = true → s.pendingFrames ≠ 0 →
      (SendsWhole s.udp s.flush.2.udp s.nextPacket (s.flush.1 = true) (s.flush.2.error = .sendFailed) ↔
        s.udp.next.Whole s.nextPacket.length ∧ (s.error = .sendFailed → s.udp.next.ok = true))) := by
  refine ⟨?_, ?_, ?_, ?_, ?_, ?_⟩
  · -- the sink and the encoded path return what `endPacket` says
    intro s hready hused
    rw [RawUdpSink.flush_eq hready hused]
    exact sendsWhole_of_ok Iff.rfl
  · intro s bytes count hready hset hpos hmax
    obtain ⟨hok, hudp⟩ := RtpSender.writeEncoded_udp hready hset bytes hpos hmax
    rw [hok, hudp, ← s.length_encodedPacket bytes hmax]
    exact sendsWhole_of_ok Iff.rfl
  · -- `emitL16Packet` returns nothing: the sequence number tells whether the packet was counted as sent
    intro s hpending
    obtain ⟨hudp, hseq, -⟩ := RtpSender.emitL16Packet_attempt hpending
    rw [hudp, hseq]
    exact sendsWhole_of_ok (succ_sequenceNumber_iff _ _)
  · -- `flush` compares the errors before and after, so an older `sendFailed` hides a new one
    intro s hready hpending
    obtain ⟨hudp, -, herror⟩ := RtpSender.emitL16Packet_attempt hpending
    rw [RtpSender.flush_eq hready hpending, hudp, herror]
    exact sendsWhole_of_unchanged (error_unchanged_iff _ _ _)
  · -- `emitPacket` counts every packet: only the error tells
    intro s hpending
    rw [VbanSender.emitPacket_eq hpending]
    refine sendsWhole_of_error ?_
    cases s.udp.next.ok <;> simp
  · intro s hready hpending
    rw [VbanSender.flush_eq hready hpending, VbanSender.emitPacket_eq hpending]
    exact sendsWhole_of_unchanged (error_unchanged_iff _ _ _)

/-- A sink with three zero bytes accumulated and a UDP object that takes everything. -/
def fullSink : RawUdpSink :=
  { RawUdpSink.new (fun _ => {}) with
    buf := some RawUdpSink.defaultBuf, cap := kDefaultCapacity, used := 3, ready := true, error := .none }

/-- An RTP sender with one mono frame pending, over such a UDP object. -/
def fullRtpSender : RtpSender :=
  { RtpSender.new (fun _ => {}) with
    payloadType := ptL16Mono, format := ⟨8000, 1, 16⟩, pendingFrames := 1, ready := true, error := .none }

/-- Both send everything. -/
theorem whole_packets_accepted :
    SendsWhole fullSink.udp fullSink.flush.2.udp fullSink.packet (fullSink.flush.1 = true)
        (fullSink.flush.2.error = .sendFailed) ∧
      SendsWhole fullRtpSender.udp fullRtpSender.flush.2.udp fullRtpSender.nextPacket
        (fullRtpSender.flush.1 = true) (fullRtpSender.flush.2.error = .sendFailed) := by
  have hall : ∀ n, (({} : UdpTx)).Whole n := fun n _ k hk => nomatch hk
  obtain ⟨hsink, -, -, hrtp, -⟩ := @whole_packets PCMFlow.documented
  exact ⟨(hsink fullSink rfl (by decide)).mpr (hall _),
    (hrtp fullRtpSender rfl (by decide)).mpr ⟨hall _, fun _ => rfl⟩⟩

/-! ## A datagram that is cut short -/

/-- A sink with three bytes accumulated, whose UDP object takes one byte of what it is offered. -/
def cutShortSink : Option RawUdpSink :=
  ((RawUdpSink.new fun _ => { write := some 1 }).begin 5004).2.write (some [1, 2, 3]) 3 |>.map Prod.snd

/-- **It counts as sent.** `flush` returns `true` and the last error stays clear, and the datagram is one byte
long. -/
theorem cut_short_counted : ∃ s, cutShortSink = some s ∧ s.ready = true ∧ s.packet = [1, 2, 3] ∧
    s.flush.1 = true ∧ s.flush.2.error = .none ∧ s.flush.2.udp.datagrams = [[1]] ∧
    ¬ SendsWhole s.udp s.flush.2.udp s.packet (s.flush.1 = true) (s.flush.2.error = .sendFailed) := by
  refine ⟨_, rfl, rfl, by decide +kernel, rfl, rfl, by decide +kernel, ?_⟩
  intro hwhole
  rw [RawUdpSink.flush_eq rfl (by decide)] at hwhole
  have haccepted := (sendsWhole_of_ok Iff.rfl).mp hwhole rfl 1 rfl
  exact absurd haccepted (by decide +kernel)

end PcmFlowUdp
