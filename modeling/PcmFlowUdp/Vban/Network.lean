import PcmFlowUdp.ByteTransport.Arrivals
import PcmFlowUdp.Vban.Conservation
import PcmFlowUdp.Vban.FrameQueue
import PcmFlowUdp.Vban.StreamNames

/-! # VBAN senders and a receiver on one network

Any number of `VbanSender`s, told apart by `ι`, send to one `VbanReceiver` over a network that may lose,
repeat and reorder datagrams; sends may fail, `write` may cut packets short, and anybody else may send
datagrams too. VBAN tells streams apart by name and by nothing else, so what protects a stream is that no one
else uses a name that the receiver's filter lets through (`KeepsTo`).

* **`Inv.step`** — what every call at either end, and every arrival, keeps;
* **`vban_network`** — so whatever the receiver returns or holds are whole frames of that one stream, in the
  order in which its datagrams arrived; if that is the order of sending, they are the frames written, with
  gaps. -/

namespace PcmFlowUdp

open ByteTransport PcmFrame

/-- What happens on the network. -/
inductive VbanNetworkOp (ι : Type)
  /-- A call of sender `i`. -/
  | call (i : ι) (call : VbanSender.Call)
  /-- `poll`, with the datagram of the `k`-th attempt of sender `i` arrived, if one left. -/
  | arrive (i : ι) (k : ℕ)
  /-- `poll`, with a datagram of someone else, or with none. -/
  | foreign (d : List UInt8)
  | readFrames (nonNull : Bool) (frameCount : ℕ)

/-- The call gives no name that `filter` lets through. -/
def VbanSender.Call.KeepsOff (filter : Option (List UInt8)) : VbanSender.Call → Prop
  | .begin _ streamName => ¬ Passes filter (streamName.getD [])
  | .setStreamName streamName => ¬ Passes filter (streamName.getD [])
  | _ => True

instance (filter : Option (List UInt8)) (c : VbanSender.Call) : Decidable (c.KeepsOff filter) := by
  unfold VbanSender.Call.KeepsOff
  split <;> infer_instance

/-- The only one whose audio the filter `filter` lets through is sender `i`. -/
def VbanNetworkOp.KeepsTo {ι : Type} (i : ι) (filter : Option (List UInt8)) : VbanNetworkOp ι → Prop
  | .call j c => j ≠ i → c.KeepsOff filter
  | .foreign d => SpeaksVban .audio d → ¬ Passes filter (d.drop 8)
  | _ => True

instance {ι : Type} [DecidableEq ι] (i : ι) (filter : Option (List UInt8)) (op : VbanNetworkOp ι) :
    Decidable (op.KeepsTo i filter) := by
  unfold VbanNetworkOp.KeepsTo
  split <;> infer_instance

/-- Senders and a receiver, with what went in and came out. -/
structure VbanNetwork (ι : Type) where
  senders : ι → VbanSender
  receiver : VbanReceiver × VbanPollMemory
  /-- The frames that `writeFrames` of each sender accepted. -/
  accepted : ι → List AudioFrame := fun _ => []
  /-- The numbers of the attempts of each sender whose datagrams arrived, in the order of arrival. -/
  arrived : ι → List ℕ := fun _ => []
  /-- The frames that `readFrames` returned. -/
  returned : List AudioFrame := []

namespace VbanNetwork

variable {ι : Type} [DecidableEq ι] [PCMFlow]

/-- New senders, and a receiver that was just bound. -/
def start (script : ι → ℕ → UdpTx) (r : VbanReceiver) (buf : VbanPollMemory)
    (streamName : Option (List UInt8)) : VbanNetwork ι :=
  { senders := fun j => VbanSender.new (script j), receiver := ((r.begin streamName 1).2, buf) }

/-- The frames queued. -/
def queued (n : VbanNetwork ι) : List AudioFrame :=
  (hostFrames n.receiver.1.format.channels.toNat n.receiver.1.queue.contents).map audio

/-- One step. -/
def step (n : VbanNetwork ι) : VbanNetworkOp ι → Option (VbanNetwork ι)
  | .call i call =>
      (VbanSender.step (n.senders i) call).map fun sender =>
        { n with
          senders := Function.update n.senders i sender
          accepted := Function.update n.accepted i (n.accepted i ++ (n.senders i).accepts call) }
  | .arrive i k =>
      match ((n.senders i).udp.attempts[k]?).bind SendAttempt.datagram with
      | none => some n
      | some d =>
          some
            { n with
              receiver := (n.receiver.1.poll n.receiver.2 (Inbound.ofDatagram d)).2
              arrived := Function.update n.arrived i (n.arrived i ++ [k]) }
  | .foreign d => some { n with receiver := (n.receiver.1.poll n.receiver.2 (Inbound.ofDatagram d)).2 }
  | .readFrames nonNull frameCount =>
      let (_, out, receiver) := n.receiver.1.readFrames nonNull frameCount
      some
        { n with
          receiver := (receiver, n.receiver.2)
          returned := n.returned ++ (hostFrames n.receiver.1.format.channels.toNat out).map audio }

end VbanNetwork

/-! ## Names -/

/-- The filter of a receiver that was bound under a name. -/
def nameFilter (streamName : Option (List UInt8)) : Option (List UInt8) :=
  streamName.bind fun name => if byteAt name 0 = 0 then none else some (cName name)

/-- A datagram whose name does not pass is not accepted. -/
theorem AcceptedBy.passes {streamName : Option (List UInt8)} {locked : PCMFormat} {d : List UInt8}
    (h : AcceptedBy (nameFilter streamName) locked d) : Passes streamName (d.drop 8) := by
  cases streamName with
  | none => trivial
  | some name =>
    by_cases hempty : byteAt name 0 = 0
    · exact .inl hempty
    · refine .inr (h.name _ ?_)
      rw [nameFilter, Option.bind_some, if_neg hempty]
      rfl

/-- The name in a packet that was cut short behind its header. -/
theorem cName_cut {d p : List UInt8} (hpre : d <+: p) (hlen : kVbanHeaderBytes ≤ d.length) :
    cName (d.drop 8) = cName (p.drop 8) := by
  obtain ⟨rest, rfl⟩ := hpre
  have hk : kVbanHeaderBytes = 28 := rfl
  have h16 : kVbanStreamNameBytes = 16 := rfl
  rw [cName, cName, List.drop_append_of_le_length (by omega),
    List.take_append_of_le_length (by rw [List.length_drop]; omega)]

namespace VbanSender

section Ready

variable [PCMFlow]

/-- What a sender offers carries the name that it has then. -/
theorem EmittedIn.cName_eq {s e : VbanSender} (h : s.EmittedIn e) :
    cName (e.nextPacket.drop 8) = cName e.streamName.cells := by
  have hname := cName_nameField e.streamName.cells []
  rwa [List.append_nil, ← h.name_eq, cName, List.take_take] at hname

/-- Only `begin` makes a sender ready. -/
theorem step_ready {s s' : VbanSender} (h : s.WF) {call : Call} (hstep : step s call = some s')
    (hcall : ∀ destPort streamName, call ≠ .begin destPort streamName) (hready : s'.ready = true) :
    s.ready = true := by
  cases call with
  | begin destPort streamName => exact absurd rfl (hcall destPort streamName)
  | end_ =>
    obtain rfl := Option.some.inj hstep
    exact absurd hready Bool.false_ne_true
  | setFormat fmt =>
    obtain rfl := Option.some.inj hstep
    rcases s.setFormat_cases fmt with ⟨error, heq⟩ | ⟨hvalid, hbits, hidx⟩
    · rwa [heq] at hready
    · rwa [(s.setFormat_spec hvalid hbits hidx).2.2] at hready
  | setStreamName streamName =>
    obtain rfl := Option.some.inj hstep
    exact hready
  | writeFrames src frameCount =>
    obtain ⟨n, s₁, heq, hoffers⟩ := writeFrames_emissions h src frameCount
    rw [step, heq] at hstep
    obtain rfl := Option.some.inj hstep
    rwa [← hoffers.setup.ready]
  | flush =>
    obtain rfl := Option.some.inj hstep
    rwa [← (flush_emissions h).setup.ready]

/-- Only a ready sender offers anything. -/
theorem emissions_ready {s e : VbanSender} {call : Call} (he : e ∈ s.emissions call) : s.ready = true := by
  unfold emissions at he
  split at he
  · split at he
    · rename_i hguard
      simp only [Bool.and_eq_true] at hguard
      exact hguard.1.1
    · exact absurd he List.not_mem_nil
  · split at he
    · rename_i hguard
      simp only [Bool.and_eq_true] at hguard
      exact hguard.1
    · exact absurd he List.not_mem_nil
  · exact absurd he List.not_mem_nil

/-- No packet of the sender passes `filter`, nor will the next. -/
structure KeptOff (filter : Option (List UInt8)) (s : VbanSender) : Prop where
  name : ∃ name, s.streamName = storedName name ∧ (s.ready = true → ¬ Passes filter (name.getD []))
  offered : ∀ p ∈ s.offered, ¬ Passes filter (p.drop 8)

omit [PCMFlow] in
/-- A new sender has nothing to send. -/
theorem keptOff_new (filter : Option (List UInt8)) (script : ℕ → UdpTx) : (new script).KeptOff filter where
  name := ⟨none, rfl, fun hready => absurd hready Bool.false_ne_true⟩
  offered _ hp := absurd hp List.not_mem_nil

/-- **A sender under another name** is kept off by every call that gives it no name that passes. -/
theorem KeptOff.step {filter : Option (List UInt8)} {s s' : VbanSender} (h : s.KeptOff filter) (hwf : s.WF)
    {call : Call} (hstep : step s call = some s') (hcall : call.KeepsOff filter) : s'.KeptOff filter := by
  obtain ⟨-, hoffered, hemitted⟩ := step_emissions hwf hstep
  obtain ⟨name, hname, hoff⟩ := h.name
  refine ⟨⟨call.givenName name, step_streamName hwf hstep hname, fun hready => ?_⟩, fun p hp => ?_⟩
  · cases call with
    | begin destPort streamName => exact hcall
    | setStreamName streamName => exact hcall
    | end_ => exact hoff (step_ready hwf hstep nofun hready)
    | setFormat fmt => exact hoff (step_ready hwf hstep nofun hready)
    | writeFrames src frameCount => exact hoff (step_ready hwf hstep nofun hready)
    | flush => exact hoff (step_ready hwf hstep nofun hready)
  · rw [hoffered] at hp
    rcases List.mem_append.mp hp with hold | hnew
    · exact h.offered p hold
    · -- a new packet carries the name that the sender has
      obtain ⟨e, he, rfl⟩ := List.mem_map.mp hnew
      have hsame : cName (e.nextPacket.drop 8) = cName (name.getD []) := by
        rw [(hemitted e he).cName_eq, emissions_streamName hwf call e he, hname, cName_storedName]
      rw [Passes.congr hsame]
      exact hoff (emissions_ready he)

end Ready

end VbanSender

/-! ## The invariant -/

namespace VbanNetwork

variable {ι : Type}

/-- What holds at every moment, for the stream of sender `i` and a receiver that was bound under
`streamName`. -/
structure Inv [PCMFlow] (i : ι) (streamName : Option (List UInt8)) (n : VbanNetwork ι) : Prop where
  wf : ∀ j, (n.senders j).WF
  /-- What the sender offers and has pending is part of what it accepted, in order. -/
  account : List.Sublist ((n.senders i).offered.flatMap packetAudio ++ (n.senders i).pendingAudio)
    (n.accepted i)
  /-- The others use names that do not pass. -/
  keptOff : ∀ j, j ≠ i → (n.senders j).KeptOff streamName
  /-- What has arrived was sent. -/
  arrived : ∀ k ∈ n.arrived i, k < (n.senders i).offered.length
  /-- What was returned and is held are frames that arrived, in the order of arrival. -/
  queue : ∃ q : FrameQueue, n.receiver.1.Refines q ∧ q.filter = nameFilter streamName ∧
    List.Sublist (n.returned ++ q.frames) (arrivals packetAudio (n.senders i).offered (n.arrived i))

/-- What was queued is what the frame queue holds. -/
theorem queued_eq {n : VbanNetwork ι} {q : FrameQueue} (h : n.receiver.1.Refines q) :
    n.queued = q.frames := by
  obtain ⟨fs, hcont, hframes⟩ := h.contents
  rw [queued, hcont, h.format, hframes]
  rcases eq_or_ne fs [] with rfl | hne
  · rw [hostImage_nil, hostFrames_nil]
  · have haudio := h.nil_or_locked.resolve_left fun hnil => hne (List.map_eq_nil_iff.mp (hframes ▸ hnil))
    rw [hostFrames_hostImage haudio.frame.1]

section Runs

variable [PCMFlow]

/-- The first moment. -/
theorem inv_start (i : ι) (script : ι → ℕ → UdpTx) {r : VbanReceiver} (hinv : r.Inv) (buf : VbanPollMemory)
    (streamName : Option (List UInt8)) : (start script r buf streamName).Inv i streamName where
  wf j := VbanSender.wf_new (script j)
  account := by
    have hnone : (VbanSender.new (script i)).pendingAudio = [] := VbanSender.pendingAudio_eq_nil rfl
    show List.Sublist ([] ++ (VbanSender.new (script i)).pendingAudio) []
    rw [hnone]
    exact List.Sublist.refl _
  keptOff j _ := VbanSender.keptOff_new streamName (script j)
  arrived k hk := absurd hk List.not_mem_nil
  queue := ⟨_, VbanReceiver.refines_begin hinv streamName, r.filter_begin streamName 1, List.nil_sublist _⟩

section Steps

variable {i : ι} {streamName : Option (List UInt8)} {n : VbanNetwork ι} (h : n.Inv i streamName)

include h

/-- A datagram that does not pass changes nothing that matters. -/
theorem Inv.pollOther {d : List UInt8} (hd : SpeaksVban .audio d → ¬ Passes streamName (d.drop 8)) :
    ({ n with receiver := (n.receiver.1.poll n.receiver.2 (Inbound.ofDatagram d)).2 } : VbanNetwork ι).Inv
      i streamName := by
  obtain ⟨q, href, hfilter, hsub⟩ := h.queue
  obtain ⟨-, hpoll⟩ := href.poll n.receiver.2 d
  have hkept : (q.answer (.poll d)).2 = q :=
    if_neg fun hacc => hd hacc.audio (hfilter ▸ hacc).passes
  rw [hkept] at hpoll
  exact ⟨h.wf, h.account, h.keptOff, h.arrived, q, hpoll, hfilter, hsub⟩

/-- A read takes frames off the front. -/
theorem Inv.read (nonNull : Bool) (frameCount : ℕ) [DecidableEq ι] :
    ∃ n', n.step (.readFrames nonNull frameCount) = some n' ∧ n'.Inv i streamName := by
  obtain ⟨q, href, hfilter, hsub⟩ := h.queue
  obtain ⟨queue, hread, hrest⟩ := href.read nonNull frameCount
  generalize hk : (if nonNull then frameCount else 0) = k at hread
  have hframes : (q.answer (.readFrames nonNull frameCount)).2.frames = q.frames.drop k := by
    rw [← hk]
    rfl
  -- the bytes returned are those of the first frames
  have hout : (hostFrames n.receiver.1.format.channels.toNat
      (AudioFrame.hostImage (q.frames.take k))).map audio = q.frames.take k := by
    obtain ⟨fs, -, hfs⟩ := href.contents
    rw [href.format, hfs, ← List.map_take, AudioFrame.hostImage_map_audio]
    rcases eq_or_ne fs [] with rfl | hne
    · simp
    · have haudio := href.nil_or_locked.resolve_left fun hnil => hne (List.map_eq_nil_iff.mp (hfs ▸ hnil))
      rw [hostFrames_hostImage haudio.frame.1]
  rw [step, hread]
  refine ⟨_, rfl, ⟨h.wf, h.account, h.keptOff, h.arrived, _, hrest, hfilter, ?_⟩⟩
  show List.Sublist (n.returned ++ _ ++ _) _
  rw [hout, hframes, List.append_assoc, List.take_append_drop]
  exact hsub

variable [DecidableEq ι]

/-- A datagram of the stream is queued, if it is accepted. -/
theorem Inv.arrive (k : ℕ) : ∃ n', n.step (.arrive i k) = some n' ∧ n'.Inv i streamName := by
  cases hdatagram : ((n.senders i).udp.attempts[k]?).bind SendAttempt.datagram with
  | none => exact ⟨n, by rw [step, hdatagram], h⟩
  | some d =>
    obtain ⟨a, hget, ha⟩ := Option.bind_eq_some_iff.mp hdatagram
    have hpre : d <+: a.packet := SendAttempt.datagram_prefix ha
    have hpacket : (n.senders i).offered[k]? = some a.packet := by
      rw [VbanSender.offered, List.getElem?_map, hget]
      rfl
    obtain ⟨q, href, hfilter, hsub⟩ := h.queue
    obtain ⟨-, hpoll⟩ := href.poll n.receiver.2 d
    rw [step, hdatagram]
    refine ⟨_, rfl, ⟨h.wf, h.account, h.keptOff, ?_, _, hpoll, ?_, ?_⟩⟩
    · show ∀ k' ∈ Function.update n.arrived i (n.arrived i ++ [k]) i, k' < (n.senders i).offered.length
      rw [Function.update_self]
      intro k' hk'
      rcases List.mem_append.mp hk' with hold | hnew
      · exact h.arrived k' hold
      · obtain rfl := List.mem_singleton.mp hnew
        exact (List.getElem?_eq_some_iff.mp hpacket).1
    · rw [FrameQueue.answer]
      split <;> exact hfilter
    · show List.Sublist (n.returned ++ (q.answer (.poll d)).2.frames)
        (arrivals packetAudio (n.senders i).offered (Function.update n.arrived i (n.arrived i ++ [k]) i))
      rw [Function.update_self, arrivals_snoc hpacket]
      -- a packet that is not accepted has arrived for nothing, which the sublist allows
      by_cases hacc : AcceptedBy q.filter q.format d
      · -- the packet may have been cut short, and the ring may drop old frames
        have hframes : (q.answer (.poll d)).2 = q.accept (d.take kVbanMaxPacketBytes) := if_pos hacc
        have hcut : packetAudio (d.take kVbanMaxPacketBytes) <+: packetAudio a.packet :=
          packetAudio_cut ((List.take_prefix _ _).trans hpre) (speaksVban_take.mpr hacc.audio).length
        have hkept : List.Sublist (q.accept (d.take kVbanMaxPacketBytes)).frames
            (q.frames ++ packetAudio (d.take kVbanMaxPacketBytes)) := (keepLast_suffix _ _).sublist
        rw [hframes]
        refine (hkept.append_left n.returned).trans ?_
        rw [← List.append_assoc]
        exact hsub.append hcut.sublist
      · have hkept : (q.answer (.poll d)).2 = q := if_neg hacc
        rw [hkept]
        exact hsub.trans (List.sublist_append_left _ _)

/-- A datagram of another sender does not pass. -/
theorem Inv.arriveOther {j : ι} (hj : j ≠ i) (k : ℕ) :
    ∃ n', n.step (.arrive j k) = some n' ∧ n'.Inv i streamName := by
  cases hdatagram : ((n.senders j).udp.attempts[k]?).bind SendAttempt.datagram with
  | none => exact ⟨n, by rw [step, hdatagram], h⟩
  | some d =>
    obtain ⟨a, hget, ha⟩ := Option.bind_eq_some_iff.mp hdatagram
    have hpacket : a.packet ∈ (n.senders j).offered :=
      List.mem_map_of_mem (List.mem_of_getElem? hget)
    have hoff : SpeaksVban .audio d → ¬ Passes streamName (d.drop 8) := by
      intro haudio
      rw [Passes.congr (cName_cut (SendAttempt.datagram_prefix ha) haudio.length)]
      exact (h.keptOff j hj).offered _ hpacket
    have hpoll := h.pollOther hoff
    rw [step, hdatagram]
    refine ⟨_, rfl, ⟨hpoll.wf, hpoll.account, hpoll.keptOff, ?_, ?_⟩⟩
    · show ∀ k' ∈ Function.update n.arrived j (n.arrived j ++ [k]) i, k' < (n.senders i).offered.length
      rw [Function.update_of_ne hj.symm]
      exact h.arrived
    · obtain ⟨q, href, hfilter, hsub⟩ := hpoll.queue
      refine ⟨q, href, hfilter, ?_⟩
      show List.Sublist _ (arrivals _ _ (Function.update n.arrived j (n.arrived j ++ [k]) i))
      rw [Function.update_of_ne hj.symm]
      exact hsub

/-- A call of a sender. -/
theorem Inv.call {j : ι} {call : VbanSender.Call} (hcall : j ≠ i → call.KeepsOff streamName) :
    ∃ n', n.step (.call j call) = some n' ∧ n'.Inv i streamName := by
  obtain ⟨s', hstep, hwf⟩ := VbanSender.wf_step (h.wf j) call
  rw [step, hstep]
  refine ⟨_, rfl, ?_⟩
  -- only sender `j` changes
  have hwfs : ∀ j', (Function.update n.senders j s' j').WF := fun j' => by
    rcases eq_or_ne j' j with rfl | hne
    · rwa [Function.update_self]
    · rw [Function.update_of_ne hne]
      exact h.wf j'
  rcases eq_or_ne j i with rfl | hj
  · -- the stream goes on
    obtain ⟨-, hoffered, -⟩ := VbanSender.step_emissions (h.wf j) hstep
    have hframes := VbanSender.step_frames (h.wf j) hstep
    refine ⟨hwfs, ?_, ?_, ?_, ?_⟩
    · show List.Sublist ((Function.update n.senders j s' j).offered.flatMap packetAudio
        ++ (Function.update n.senders j s' j).pendingAudio) (Function.update n.accepted j _ j)
      rw [Function.update_self, Function.update_self, hoffered, List.flatMap_append, List.flatMap_map]
      have hnew := h.account.append_right ((n.senders j).accepts call)
      rw [List.append_assoc, ← hframes] at hnew
      refine List.Sublist.trans ?_ hnew
      rw [List.append_assoc, List.append_assoc]
      exact (List.Sublist.refl _).append ((List.Sublist.refl _).append (List.sublist_append_right _ _))
    · intro j' hj'
      show (Function.update n.senders j s' j').KeptOff streamName
      rw [Function.update_of_ne hj']
      exact h.keptOff j' hj'
    · intro k hk
      show k < (Function.update n.senders j s' j).offered.length
      rw [Function.update_self, hoffered, List.length_append]
      exact (h.arrived k hk).trans_le (Nat.le_add_right _ _)
    · obtain ⟨q, href, hfilter, hsub⟩ := h.queue
      refine ⟨q, href, hfilter, ?_⟩
      show List.Sublist _ (arrivals packetAudio (Function.update n.senders j s' j).offered (n.arrived j))
      rw [Function.update_self, hoffered, arrivals_append_log h.arrived]
      exact hsub
  · -- another sender calls: the stream and the queue are where they were
    have hi : i ≠ j := hj.symm
    refine ⟨hwfs, ?_, ?_, ?_, ?_⟩
    · show List.Sublist ((Function.update n.senders j s' i).offered.flatMap packetAudio
        ++ (Function.update n.senders j s' i).pendingAudio) (Function.update n.accepted j _ i)
      rw [Function.update_of_ne hi, Function.update_of_ne hi]
      exact h.account
    · intro j' hj'
      show (Function.update n.senders j s' j').KeptOff streamName
      rcases eq_or_ne j' j with rfl | hne
      · rw [Function.update_self]
        exact (h.keptOff j' hj').step (h.wf j') hstep (hcall hj)
      · rw [Function.update_of_ne hne]
        exact h.keptOff j' hj'
    · show ∀ k ∈ n.arrived i, k < (Function.update n.senders j s' i).offered.length
      rw [Function.update_of_ne hi]
      exact h.arrived
    · obtain ⟨q, href, hfilter, hsub⟩ := h.queue
      refine ⟨q, href, hfilter, ?_⟩
      show List.Sublist _ (arrivals packetAudio (Function.update n.senders j s' i).offered (n.arrived i))
      rw [Function.update_of_ne hi]
      exact hsub

/-- **One step.** Whatever happens at either end or on the way, what was returned and is held are frames of
the stream that arrived. -/
theorem Inv.step {op : VbanNetworkOp ι} (hop : op.KeepsTo i streamName) :
    ∃ n', n.step op = some n' ∧ n'.Inv i streamName := by
  cases op with
  | call j call => exact h.call hop
  | arrive j k =>
    rcases eq_or_ne j i with rfl | hj
    · exact h.arrive k
    · exact h.arriveOther hj k
  | foreign d => exact ⟨_, rfl, h.pollOther hop⟩
  | readFrames nonNull frameCount => exact h.read nonNull frameCount

end Steps

/-- **A stream on a network.** Any number of senders make any calls, whatever becomes of their sends; the
network loses, repeats, reorders and cuts short what it likes; anybody else sends whatever he likes; and the
receiver polls and reads in any order, its ring overflowing or not. As long as no one but sender `i` uses a
name that the receiver lets through, every frame that the receiver returns or holds is one that `writeFrames`
of sender `i` accepted, whole, in the order in which its datagrams arrived; and if they arrived in the order
of sending, the frames are those accepted, in order, with gaps. -/
theorem vban_network [DecidableEq ι] (i : ι) (script : ι → ℕ → UdpTx) {r : VbanReceiver} {buf : VbanPollMemory}
    (hr : VbanReceiver.Reachable (r, buf)) (streamName : Option (List UInt8)) {ops : List (VbanNetworkOp ι)}
    (hops : ∀ op ∈ ops, op.KeepsTo i streamName) :
    ∃ n, run step (start script r buf streamName) ops = some n ∧
      List.Sublist (n.returned ++ n.queued)
        (arrivals packetAudio (n.senders i).offered (n.arrived i)) ∧
      (∀ f ∈ n.returned ++ n.queued, f ∈ n.accepted i) ∧
      ((n.arrived i).Pairwise (· < ·) → List.Sublist (n.returned ++ n.queued) (n.accepted i)) := by
  obtain ⟨n, hrun, h⟩ := run_total (fun n op hinv hop => Inv.step hinv hop)
    (inv_start i script hr.inv buf streamName) (admissible_of_mem hops _)
  obtain ⟨q, href, -, hsub⟩ := h.queue
  rw [← queued_eq href] at hsub
  have hoffered : List.Sublist ((n.senders i).offered.flatMap packetAudio) (n.accepted i) :=
    (List.sublist_append_left _ _).trans h.account
  exact ⟨n, hrun, hsub, fun f hf => hoffered.subset (mem_of_mem_arrivals (hsub.subset hf)),
    fun hsorted => hsub.trans ((arrivals_sublist hsorted).trans hoffered)⟩

end Runs

/-- Sender `true` writes three frames, of which the second is cut short on the way out; sender `false` uses
another name. -/
def twoStreams : List (VbanNetworkOp Bool) :=
  [.call true (.begin 6980 (some [0x41])), .call true (.setFormat ⟨48000, 1, 16⟩),
    .call false (.begin 6980 (some [0x42])), .call false (.setFormat ⟨48000, 1, 16⟩),
    .call true (.writeFrames (some [1, 2]) 1), .call true .flush,
    .call false (.writeFrames (some [9, 9]) 1), .call false .flush,
    .call true (.writeFrames (some [3, 4]) 1), .call true .flush,
    .call true (.writeFrames (some [5, 6]) 1), .call true .flush,
    .arrive true 0, .arrive false 0, .foreign [1, 2, 3], .arrive true 1, .arrive true 2, .readFrames true 9]

/-- The frames that pass are the first and the third. -/
theorem vban_network_two_streams :
    let start := @start Bool (fun _ k => if k = 1 then { write := some 29 } else {}) {}
      (Buffer.filled _ 0) (some [0x41])
    ((run (@step Bool _ PCMFlow.documented) start twoStreams).map VbanNetwork.returned)
        = some [⟨1, [0x201]⟩, ⟨1, [0x605]⟩] ∧
      ∃ n, run (@step Bool _ PCMFlow.documented) start twoStreams = some n ∧
        List.Sublist (n.returned ++ n.queued)
          (arrivals packetAudio (n.senders true).offered (n.arrived true)) ∧
        (∀ f ∈ n.returned ++ n.queued, f ∈ n.accepted true) ∧
        ((n.arrived true).Pairwise (· < ·) →
          List.Sublist (n.returned ++ n.queued) (n.accepted true)) :=
  ⟨by decide +kernel,
    @vban_network Bool PCMFlow.documented _ true _ _ _ ⟨[], rfl⟩ (some [0x41]) twoStreams (by decide)⟩

end VbanNetwork

end PcmFlowUdp
