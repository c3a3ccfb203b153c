import PcmFlowUdp.Vban.Packetizer
import PcmFlowUdp.Vban.Reception

/-! # Loss on a VBAN stream is visible to the receiver

A `LossyLink` carries the datagrams of a sender to a receiver in order, but may lose any of them; the UDP
object may also fail any send or cut any datagram short. The sender numbers its emission attempts
(`Numbered`), the receiver records the number of the last packet it accepted, so

* **`vban_loss_observability`** — attempt `k` since `begin` carries the frame counter `k` whatever
  becomes of it, and from one accepted datagram to the next `lastFrameCounter` advances by one plus
  the number of attempts in between that were not accepted. -/

namespace PcmFlowUdp

open ByteTransport PcmFrame

/-! ## The sender numbers its attempts -/

/-- A packet with an audio header that the parser accepts and that carries this frame counter. -/
def CarriesCounter (counter : UInt32) (packet : List UInt8) : Prop :=
  ∃ (h : VbanAudioHeader) (payload : List UInt8), packet = audioHeaderBytes h ++ payload ∧
    h.sampleRateIndex ≤ 20 ∧ (1 ≤ h.numSamples ∧ h.numSamples ≤ 256) ∧
    (1 ≤ h.numChannels ∧ h.numChannels ≤ 256) ∧ h.frameCounter = counter

/-- Successive attempts carry successive frame counters. -/
def Numbered (start : UInt32) (attempts : List SendAttempt) : Prop :=
  ∀ k a, attempts[k]? = some a → CarriesCounter (start + UInt32.ofNat k) a.packet

/-- A packet with a counter is parsed to a header with this counter. -/
theorem CarriesCounter.parse {counter : UInt32} {packet : List UInt8}
    (h : CarriesCounter counter packet) :
    ∃ hdr, parseAudioHeader packet packet.length = .ok hdr ∧ hdr.frameCounter = counter := by
  obtain ⟨hdr, payload, rfl, hidx, hsamples, hchannels, hcounter⟩ := h
  refine ⟨_, parseAudioHeader_encoded hidx hsamples hchannels payload ?_, hcounter⟩
  rw [List.length_append]
  exact Nat.le_add_right_of_le (length_vbanHeaderBytes _ _ _ _ _ _).ge

/-- Attempts are numbered on. -/
theorem Numbered.append {start : UInt32} {as bs : List SendAttempt} (ha : Numbered start as)
    (hb : Numbered (start + UInt32.ofNat as.length) bs) : Numbered start (as ++ bs) := by
  intro k a hk
  rcases Nat.lt_or_ge k as.length with hlt | hge
  · rw [List.getElem?_append_left hlt] at hk
    exact ha k a hk
  · rw [List.getElem?_append_right hge] at hk
    have hcounter := hb _ a hk
    rwa [UInt32.add_assoc, ← UInt32.ofNat_add, Nat.add_sub_of_le hge] at hcounter

/-- The attempts from `s` to `s'` go on numbering from the frame counter of `s`. -/
def CountsOn (s s' : VbanSender) : Prop :=
  ∃ new, s'.udp.attempts = s.udp.attempts ++ new ∧ Numbered s.frameCounter new ∧
    s'.frameCounter = s.frameCounter + UInt32.ofNat new.length

/-- A call that sends nothing and leaves the counter alone. -/
theorem CountsOn.of_eq {s s' : VbanSender} (hudp : s'.udp = s.udp)
    (hcounter : s'.frameCounter = s.frameCounter) : CountsOn s s' :=
  ⟨[], by rw [hudp, List.append_nil], fun k a hk => by simp at hk, by
    rw [hcounter]
    simp⟩

/-- Every packet that a sender offers uses up one counter value. -/
theorem VbanOutlet.sendAll_attempts {c : ℕ} (packets : List (List (PcmFrame c))) (o : VbanOutlet)
    (hidx : o.header.sampleRateIndex ≤ 20)
    (hchannels : 1 ≤ o.header.numChannels ∧ o.header.numChannels ≤ 256)
    (hsizes : ∀ frames ∈ packets, frames ≠ [] ∧ frames.length ≤ 256) :
    ∃ new, (o.sendAll packets).udp.attempts = o.udp.attempts ++ new ∧
      Numbered o.header.frameCounter new ∧
      (o.sendAll packets).header.frameCounter
        = o.header.frameCounter + UInt32.ofNat new.length := by
  -- the counter moves by one for each packet, whatever becomes of it
  induction packets generalizing o with
  | nil =>
    exact ⟨[], by simp [sendAll], fun k a hk => by simp at hk, by simp [sendAll]⟩
  | cons frames packets ih =>
    obtain ⟨hne, hle⟩ := hsizes frames List.mem_cons_self
    obtain ⟨new, hnew, hnum, hcounter⟩ := ih (o.send frames) hidx hchannels
      fun fs hmem => hsizes fs (List.mem_cons_of_mem _ hmem)
    have hsamples := (numSamples_range (List.length_pos_iff.mpr hne) hle).2
    have hcons : o.sendAll (frames :: packets) = (o.send frames).sendAll packets := rfl
    refine ⟨⟨o.packet frames, o.udp.next⟩ :: new, ?_, ?_, ?_⟩
    · rw [hcons, hnew]
      show o.udp.attempts ++ [⟨o.packet frames, o.udp.next⟩] ++ new = _
      rw [List.append_assoc, List.singleton_append]
    · -- the first new attempt carries the counter of `o`, the others go on from the next
      intro k a hka
      cases k with
      | zero =>
        obtain rfl := Option.some.inj hka
        refine ⟨{ o.header with numSamples := UInt16.ofNat frames.length }, hostImage frames, rfl,
          hidx, hsamples, hchannels, ?_⟩
        simp
      | succ k =>
        have hrest := hnum k a hka
        have hshift : (o.send frames).header.frameCounter + UInt32.ofNat k
            = o.header.frameCounter + UInt32.ofNat (k + 1) := by
          show o.header.frameCounter + 1 + UInt32.ofNat k = _
          rw [UInt32.add_assoc, Nat.add_comm k 1, UInt32.ofNat_add]
          rfl
        rwa [hshift] at hrest
    · rw [hcons, hcounter, List.length_cons, Nat.add_comm new.length 1, UInt32.ofNat_add,
        ← UInt32.add_assoc]
      rfl

/-- An emitting call numbers what it emits. -/
theorem VbanSender.Emits.countsOn {c : ℕ} {s s' : VbanSender} {packets : List (List (PcmFrame c))}
    (h : VbanSender.Emits s packets s') (hmode : VbanSender.AudioMode c s) : CountsOn s s' := by
  obtain ⟨new, hnew, hnum, hcounter⟩ := s.outlet.sendAll_attempts packets
    hmode.sampleRateIndex_le hmode.channels_range fun frames hmem =>
      ⟨(h.sizes frames hmem).1, (h.sizes frames hmem).2.trans hmode.samplesPerPacket_le⟩
  rw [← h.outlet] at hnew hcounter
  exact ⟨new, hnew, hnum, hcounter⟩

/-- The calls that belong to a stream once it has begun. -/
def VbanSender.Call.inStream : VbanSender.Call → Bool
  | .writeFrames _ _ => true
  | .flush => true
  | .setFormat _ => true
  | .setStreamName _ => true
  | .begin _ _ => false
  | .end_ => false

/-- **Every call of a stream numbers what it emits**, in any order and whatever becomes of the
sends. -/
theorem VbanSender.step_countsOn [PCMFlow] {s : VbanSender} (h : s.WF) {call : VbanSender.Call}
    (hcall : call.inStream = true) :
    ∃ s', VbanSender.step s call = some s' ∧ s'.WF ∧ CountsOn s s' := by
  obtain ⟨s', hstep, hwf⟩ := VbanSender.wf_step h call
  refine ⟨s', hstep, hwf, ?_⟩
  cases call with
  | begin destPort streamName => exact absurd hcall Bool.false_ne_true
  | end_ => exact absurd hcall Bool.false_ne_true
  | setStreamName name =>
    obtain rfl := Option.some.inj hstep
    exact CountsOn.of_eq rfl rfl
  | setFormat fmt =>
    obtain rfl := Option.some.inj hstep
    rcases s.setFormat_cases fmt with ⟨error, heq⟩ | ⟨hvalid, hbits, hidx⟩
    · rw [heq]
      exact CountsOn.of_eq rfl rfl
    · rw [(s.setFormat_spec hvalid hbits hidx).2.2]
      exact CountsOn.of_eq rfl rfl
  | writeFrames src frameCount =>
    rcases VbanSender.writeFrames_cases h src frameCount with ⟨error, heq⟩ | ⟨mem, rfl, hready, hmode⟩
    · rw [VbanSender.step, heq] at hstep
      obtain rfl := Option.some.inj hstep
      exact CountsOn.of_eq rfl rfl
    · obtain ⟨packets, t, heq, hemits, -, -⟩ :=
        VbanSender.writeFrames_spec hmode hready (h.pending_lt hmode) mem frameCount
      rw [VbanSender.step, heq] at hstep
      obtain rfl := Option.some.inj hstep
      exact hemits.countsOn hmode
  | flush =>
    obtain rfl := Option.some.inj hstep
    rcases VbanSender.flush_cases h with ⟨error, heq⟩ | ⟨hready, hmode, hlt⟩
    · rw [heq]
      exact CountsOn.of_eq rfl rfl
    · obtain ⟨packets, hemits, -, -⟩ := VbanSender.flush_spec hmode hready hlt
      exact hemits.countsOn hmode

/-! ## The receiver records the number of what it accepts -/

/-- Polling a packet, whole or cut short, records its frame counter exactly if it is accepted. -/
theorem VbanReceiver.poll_frameCounter [PCMFlow] (r : VbanReceiver) (buf : VbanPollMemory)
    {counter : UInt32} {packet : List UInt8} (h : CarriesCounter counter packet) {d : List UInt8}
    (hd : d <+: packet) :
    (r.poll buf (Inbound.ofDatagram d)).2.1.lastFrameCounter
      = if (r.poll buf (Inbound.ofDatagram d)).1 = true then counter else r.lastFrameCounter := by
  cases hready : r.ready with
  | false => simp [poll, hready]
  | true =>
    rcases eq_or_ne d [] with rfl | hne
    · simp [poll, Inbound.ofDatagram]
    · have hpoll := poll_ofDatagram hready buf hne
      have hpre : d.take kVbanMaxPacketBytes <+: packet := (List.take_prefix _ _).trans hd
      generalize d.take kVbanMaxPacketBytes = e at hpoll hpre
      rw [show (r.poll buf (Inbound.ofDatagram d)).2.1 = (r.receive e).2 from congrArg Prod.snd hpoll,
        show (r.poll buf (Inbound.ofDatagram d)).1 = (r.receive e).1 from congrArg Prod.fst hpoll]
      by_cases hshort : e.length < kVbanHeaderBytes
      · rw [receive, if_pos hshort]
        rfl
      · -- the header survived whole
        obtain ⟨hdr, payload, rfl, hidx, hsamples, hchannels, hcounter⟩ := h
        have hhead : (audioHeaderBytes hdr).length = kVbanHeaderBytes :=
          length_vbanHeaderBytes _ _ _ _ _ _
        obtain ⟨rest, rfl⟩ : ∃ rest, e = audioHeaderBytes hdr ++ rest := by
          have hle : (audioHeaderBytes hdr).length ≤ e.length := by rw [hhead]; omega
          obtain ⟨rest, hrest⟩ :=
            List.prefix_of_prefix_length_le (List.prefix_append _ payload) hpre hle
          exact ⟨rest, hrest.symm⟩
        rw [r.receive_emitted hidx hsamples hchannels, pollAudio_frameCounter, ← hcounter]

/-! ## The lossy link -/

/-- One call at either end of a lossy link. -/
inductive LossOp
  | call (call : VbanSender.Call)
  /-- `poll`, after so many of the attempts not yet passed over have been lost on the way. -/
  | arrive (lost : ℕ)
  /-- `poll` while nothing has arrived. -/
  | idle
  | read (nonNull : Bool) (frameCount : ℕ)

/-- The calls of a stream: all but a new `begin` or `end` of the sender. -/
def LossOp.inStream : LossOp → Bool
  | .call senderCall => senderCall.inStream
  | .arrive _ => true
  | .idle => true
  | .read _ _ => true

/-- A sender and a receiver with what has passed between them. -/
structure LossyLink where
  sender : VbanSender
  receiver : VbanReceiver × VbanPollMemory
  /-- The attempts made before the stream began. -/
  base : ℕ
  /-- The attempts of the stream before this one have arrived or are lost. -/
  next : ℕ := 0
  /-- The attempts whose datagram `poll` accepted, with `lastFrameCounter()` right after. -/
  accepted : List (ℕ × UInt32) := []

namespace LossyLink

/-- The emission attempts of the stream, in order. -/
def attempts (l : LossyLink) : List SendAttempt := l.sender.udp.attempts.drop l.base

/-- A link on which nothing has been sent yet. -/
def start (sender : VbanSender) (receiver : VbanReceiver) (buf : VbanPollMemory) : LossyLink :=
  { sender, receiver := (receiver, buf), base := sender.udp.attempts.length }

/-- One call. -/
def step [PCMFlow] (l : LossyLink) : LossOp → Option LossyLink
  | .call call => (VbanSender.step l.sender call).map fun sender => { l with sender }
  | .arrive lost =>
      match (l.attempts[l.next + lost]?).bind SendAttempt.datagram with
      | none => some l
      | some d =>
          let (ok, receiver, buf) := l.receiver.1.poll l.receiver.2 (Inbound.ofDatagram d)
          some
            { l with
              receiver := (receiver, buf)
              next := l.next + lost + 1
              accepted :=
                if ok then l.accepted ++ [(l.next + lost, receiver.lastFrameCounter)]
                else l.accepted }
  | .idle =>
      let (_, receiver, buf) := l.receiver.1.poll l.receiver.2 Inbound.empty
      some { l with receiver := (receiver, buf) }
  | .read nonNull frameCount =>
      let (_, _, receiver) := l.receiver.1.readFrames nonNull frameCount
      some { l with receiver := (receiver, l.receiver.2) }

/-- The number of attempts strictly between `i` and `j` that were not accepted. -/
def unaccepted (l : LossyLink) (i j : ℕ) : ℕ :=
  (List.range j).countP fun k => decide (i < k) && !(l.accepted.map Prod.fst).contains k

/-- What every step keeps. -/
structure Inv (l : LossyLink) : Prop where
  wf : l.sender.WF
  base_le : l.base ≤ l.sender.udp.attempts.length
  numbered : Numbered 0 l.attempts
  counter : l.sender.frameCounter = UInt32.ofNat l.attempts.length
  increasing : (l.accepted.map Prod.fst).Pairwise (· < ·)
  passed : ∀ e ∈ l.accepted, e.1 < l.next
  recorded : ∀ e ∈ l.accepted, e.2 = UInt32.ofNat e.1
  last : ∀ e ∈ l.accepted.getLast?, l.receiver.1.lastFrameCounter = e.2

/-- Between two entries that were accepted one after the other every attempt is unaccepted. -/
theorem Inv.unaccepted_eq {l : LossyLink} (h : l.Inv) {pre post : List (ℕ × UInt32)} {i j : ℕ}
    {ci cj : UInt32} (hacc : l.accepted = pre ++ (i, ci) :: (j, cj) :: post) :
    i < j ∧ l.unaccepted i j = j - i - 1 := by
  have hsorted := h.increasing
  rw [hacc] at hsorted
  simp only [List.map_append, List.map_cons, List.pairwise_append, List.pairwise_cons,
    List.mem_cons] at hsorted
  obtain ⟨-, ⟨hi, hj, -⟩, hpre⟩ := hsorted
  have hij : i < j := hi j (.inl rfl)
  refine ⟨hij, ?_⟩
  -- the first `i + 1` attempts do not count, the others below `j` all do
  have hsplit : List.range j = List.range (i + 1) ++ List.range' (i + 1) (j - i - 1) := by
    have happ : List.range' 0 (i + 1) ++ List.range' (0 + (i + 1)) (j - i - 1)
        = List.range' 0 (i + 1 + (j - i - 1)) := List.range'_append_1
    rwa [Nat.zero_add, show i + 1 + (j - i - 1) = j by omega, eq_comm, ← List.range_eq_range',
      ← List.range_eq_range'] at happ
  rw [unaccepted, hsplit, List.countP_append, List.countP_eq_zero.mpr, Nat.zero_add,
    List.countP_eq_length.mpr, List.length_range']
  · intro k hk
    obtain ⟨hlo, hhi⟩ := List.mem_range'_1.mp hk
    have hnot : k ∉ l.accepted.map Prod.fst := by
      rw [hacc]
      simp only [List.map_append, List.map_cons, List.mem_append, List.mem_cons]
      rintro (hp | rfl | rfl | hp)
      · have := hpre k hp i (.inl rfl)
        omega
      · omega
      · omega
      · have := hj k hp
        omega
    simpa [hnot] using Nat.lt_of_succ_le hlo
  · intro k hk
    have hlt := List.mem_range.mp hk
    simp only [Bool.and_eq_true, decide_eq_true_eq, not_and]
    omega

/-- A sender call goes on numbering. -/
theorem Inv.call {l : LossyLink} (h : l.Inv) {s' : VbanSender} (hwf : s'.WF)
    (hcounts : CountsOn l.sender s') : ({ l with sender := s' } : LossyLink).Inv := by
  obtain ⟨new, hnew, hnum, hcounter⟩ := hcounts
  have hattempts : ({ l with sender := s' } : LossyLink).attempts = l.attempts ++ new := by
    rw [attempts, hnew, List.drop_append_of_le_length h.base_le]
    rfl
  -- the receiver is not concerned
  refine { h with wf := hwf, base_le := ?_, numbered := ?_, counter := ?_ }
  · rw [hnew, List.length_append]
    exact Nat.le_add_right_of_le h.base_le
  · rw [hattempts]
    rw [h.counter] at hnum
    exact h.numbered.append (by rwa [UInt32.zero_add])
  · rw [hattempts, hcounter, h.counter, List.length_append, UInt32.ofNat_add]

section Steps

variable [PCMFlow]

/-- An accepted datagram is recorded under its own number, a rejected one leaves no trace. -/
theorem Inv.arrive {l : LossyLink} (h : l.Inv) {lost : ℕ} {a : SendAttempt} {d : List UInt8}
    (ha : l.attempts[l.next + lost]? = some a) (hd : a.datagram = some d) :
    ∃ l', step l (.arrive lost) = some l' ∧ l'.Inv := by
  -- attempt `k` carries the counter `k` later than the first, and an accepting poll records it
  have hcarries := h.numbered _ a ha
  rw [UInt32.zero_add] at hcarries
  have hrecord := l.receiver.1.poll_frameCounter l.receiver.2 hcarries (SendAttempt.datagram_prefix hd)
  rw [step, ha, Option.bind_some, hd]
  dsimp only
  generalize l.receiver.1.poll l.receiver.2 (Inbound.ofDatagram d) = res at hrecord
  obtain ⟨ok, receiver, buf⟩ := res
  refine ⟨_, rfl, ?_⟩
  dsimp only at hrecord ⊢
  have hpassed : ∀ e ∈ l.accepted, e.1 < l.next + lost + 1 := fun e he =>
    (h.passed e he).trans_le (by omega)
  cases ok with
  | false =>
    exact ⟨h.wf, h.base_le, h.numbered, h.counter, h.increasing, hpassed, h.recorded,
      fun e he => hrecord.trans (h.last e he)⟩
  | true =>
    rw [if_pos rfl] at hrecord
    refine ⟨h.wf, h.base_le, h.numbered, h.counter, ?_, fun e he => ?_, fun e he => ?_,
      fun e he => ?_⟩
    · -- the new entry is past all the others
      show ((l.accepted ++ [(l.next + lost, receiver.lastFrameCounter)]).map Prod.fst).Pairwise _
      rw [List.map_append, List.pairwise_append]
      refine ⟨h.increasing, List.pairwise_singleton _ _, fun i hi j hj => ?_⟩
      obtain ⟨e, he, rfl⟩ := List.mem_map.mp hi
      obtain rfl := List.mem_singleton.mp hj
      exact (h.passed e he).trans_le (Nat.le_add_right _ _)
    · rcases List.mem_append.mp he with hold | hnew
      · exact hpassed e hold
      · obtain rfl := List.mem_singleton.mp hnew
        exact Nat.lt_succ_self _
    · rcases List.mem_append.mp he with hold | hnew
      · exact h.recorded e hold
      · obtain rfl := List.mem_singleton.mp hnew
        exact hrecord
    · have hlast : e ∈ (l.accepted ++ [(l.next + lost, receiver.lastFrameCounter)]).getLast? := he
      rw [List.getLast?_concat] at hlast
      obtain rfl := Option.some.inj hlast
      rfl

/-- **One step.** Every call of a stream completes and keeps the invariant. -/
theorem Inv.step {l : LossyLink} (h : l.Inv) {op : LossOp} (hop : op.inStream = true) :
    ∃ l', LossyLink.step l op = some l' ∧ l'.Inv := by
  cases op with
  | call call =>
    obtain ⟨s', hstep, hwf, hcounts⟩ := VbanSender.step_countsOn h.wf hop
    exact ⟨_, by rw [LossyLink.step, hstep]; rfl, h.call hwf hcounts⟩
  | arrive lost =>
    cases ha : l.attempts[l.next + lost]? with
    | none => exact ⟨l, by rw [LossyLink.step, ha]; rfl, h⟩
    | some a =>
      cases hd : a.datagram with
      | none => exact ⟨l, by rw [LossyLink.step, ha, Option.bind_some, hd], h⟩
      | some d => exact h.arrive ha hd
  | idle =>
    refine ⟨_, rfl, { h with last := fun e he => ?_ }⟩
    show (l.receiver.1.poll l.receiver.2 Inbound.empty).2.1.lastFrameCounter = e.2
    rw [VbanReceiver.poll_empty]
    exact h.last e he
  | read nonNull frameCount => exact ⟨_, rfl, { h with }⟩

/-- At the start of a stream nothing is numbered yet. -/
theorem inv_start {s : VbanSender} (h : s.WF) (destPort : UInt16) (streamName : Option (List UInt8))
    (r : VbanReceiver) (buf : VbanPollMemory) :
    (start (s.begin destPort streamName).2 r buf).Inv := by
  obtain ⟨s', hstep, hwf⟩ := VbanSender.wf_step h (.begin destPort streamName)
  obtain rfl := Option.some.inj hstep
  have hnil : (start (s.begin destPort streamName).2 r buf).attempts = [] := List.drop_length
  refine ⟨hwf, le_rfl, fun k a hk => ?_, ?_, List.Pairwise.nil, ?_, ?_, ?_⟩
  · rw [hnil, List.getElem?_nil] at hk
    cases hk
  · rw [hnil]
    rfl
  · exact fun e he => absurd he List.not_mem_nil
  · exact fun e he => absurd he List.not_mem_nil
  · exact fun e he => absurd he (Option.not_mem_none e)

/-- **VBAN loss observability.** In every run of a sender since `begin`, with any pattern of send
failures, whose datagrams reach a receiver in order but with arbitrary ones lost: attempt `k` carries
the frame counter `k`; from one accepted datagram to the next `lastFrameCounter` advances by one plus
the number of attempts in between that were not accepted; and it stays put in between. -/
theorem vban_loss_observability {s₀ : VbanSender} (hs₀ : s₀.Reachable) (destPort : UInt16)
    (streamName : Option (List UInt8)) (r : VbanReceiver) (buf : VbanPollMemory) (ops : List LossOp)
    (hops : ∀ op ∈ ops, op.inStream = true) :
    ∃ l, run LossyLink.step (start (s₀.begin destPort streamName).2 r buf) ops = some l ∧
      (∀ k a, l.attempts[k]? = some a → ∃ h,
        parseAudioHeader a.packet a.packet.length = .ok h ∧ h.frameCounter = UInt32.ofNat k) ∧
      (∀ pre i ci j cj post, l.accepted = pre ++ (i, ci) :: (j, cj) :: post →
        cj - ci = 1 + UInt32.ofNat (l.unaccepted i j)) ∧
      (∀ e ∈ l.accepted.getLast?, l.receiver.1.lastFrameCounter = e.2) := by
  obtain ⟨l, hrun, h⟩ := run_total (fun l op hinv hop => Inv.step hinv hop)
    (inv_start hs₀.wf destPort streamName r buf) (admissible_of_mem hops _)
  refine ⟨l, hrun, fun k a hk => ?_, fun pre i ci j cj post hacc => ?_, h.last⟩
  · have hcarries := h.numbered k a hk
    rw [UInt32.zero_add] at hcarries
    exact hcarries.parse
  · obtain ⟨hij, hcount⟩ := h.unaccepted_eq hacc
    have hci : ci = UInt32.ofNat i := h.recorded (i, ci) (by rw [hacc]; simp)
    have hcj : cj = UInt32.ofNat j := h.recorded (j, cj) (by rw [hacc]; simp)
    -- the numbers recorded are the positions, so their difference is a distance
    have hsum : UInt32.ofNat j = 1 + UInt32.ofNat (j - i - 1) + UInt32.ofNat i := by
      rw [show j = 1 + (j - i - 1) + i by omega, UInt32.ofNat_add, UInt32.ofNat_add]
      congr 3
      omega
    rw [hcount, hci, hcj, hsum, UInt32.add_sub_cancel]

end Steps

/-- Four packets, of which the second fails to send and the third is lost on the way. -/
theorem vban_loss_observability_gap :
    let start := start ((VbanSender.new fun k => if k = 1 then { endPacket := 0 } else {}).begin 6980
      none).2 (VbanReceiver.begin {} none 1).2 (Buffer.filled _ 0)
    let ops : List LossOp := [.call (.setFormat ⟨48000, 1, 16⟩),
      .call (.writeFrames (some [1, 2]) 1), .call .flush,
      .call (.writeFrames (some [3, 4]) 1), .call .flush,
      .call (.writeFrames (some [5, 6]) 1), .call .flush,
      .call (.writeFrames (some [7, 8]) 1), .call .flush, .arrive 0, .arrive 2]
    ((run (@LossyLink.step PCMFlow.documented) start ops).map fun l => l.accepted)
        = some [(0, 0), (3, 3)] ∧
      ∃ l, run (@LossyLink.step PCMFlow.documented) start ops = some l ∧
        (∀ k a, l.attempts[k]? = some a → ∃ h,
          parseAudioHeader a.packet a.packet.length = .ok h ∧ h.frameCounter = UInt32.ofNat k) ∧
        (∀ pre i ci j cj post, l.accepted = pre ++ (i, ci) :: (j, cj) :: post →
          cj - ci = 1 + UInt32.ofNat (l.unaccepted i j)) ∧
        (∀ e ∈ l.accepted.getLast?, l.receiver.1.lastFrameCounter = e.2) :=
  ⟨by decide +kernel, @vban_loss_observability PCMFlow.documented _ ⟨_, [], rfl⟩ 6980 none _ _ _
    (by decide)⟩

end LossyLink

end PcmFlowUdp
