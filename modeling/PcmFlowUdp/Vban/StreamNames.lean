import PcmFlowUdp.Vban.HeaderCodec
import PcmFlowUdp.Vban.StreamIdentity
import PcmFlowUdp.Vban.ValidPackets

/-! # Stream names from end to end

A stream name is a C string that crosses four bounded copies: into the sender, into the packet, out of the
packet, and into the filter that it is compared with. Nothing but its first sixteen bytes up to a NUL, its
`cName`, gets through. The two ends meet at the name field of a datagram:

* `Sends.cName_eq` — a datagram names the stream as the sender was told to last (`givenName`);
* `poll_eq_true_iff` — a receiver takes a datagram if its filter (`givenFilter`) lets that name through;
* `SameUpToName` — what stands behind the name in its field is not looked at.

* **`vban_name_filter`** — an acceptable packet of a sender passes the filter exactly if there is none, it is
  empty, or the names agree. -/

namespace PcmFlowUdp

open ByteTransport PcmFrame

/-- The C string in a name array. -/
def VbanName.cString (name : VbanName) : List UInt8 := name.cells.takeWhile (· != 0)

/-- The name array of a sender or a filter holds the name that was stored. -/
theorem cName_storedName (streamName : Option (List UInt8)) :
    cName (storedName streamName).cells = cName (streamName.getD []) := by
  cases streamName with
  | none => decide
  | some name =>
    show cName (VbanName.ofCString name).cells = _
    rw [VbanName.cells_ofCString, cName_nameField]
    rfl

section Parsed

variable {d : List UInt8} (hlen : kVbanHeaderBytes ≤ d.length)

include hlen

/-- A parsed name is the name of the packet. -/
theorem cString_parsedName : (parsedName d).cString = cName (d.drop 8) := by
  have hk : kVbanHeaderBytes = 28 := rfl
  have hread : readMem d 8 16 = (d.drop 8).take 16 := readMem_eq (by omega)
  rw [VbanName.cString, cells_parsedName, hread, List.takeWhile_append, cName]
  split
  · -- no NUL in the field: the one behind it ends the name
    rename_i hfull
    rw [List.takeWhile_cons_of_neg (by decide), List.append_nil]
    exact ((List.takeWhile_prefix _).eq_of_length hfull).symm
  · rfl

end Parsed

/-! ## The sender's end -/

namespace VbanSender

/-- The name that is in force after a call. -/
def Call.givenName (name : Option (List UInt8)) : Call → Option (List UInt8)
  | .begin _ streamName => streamName
  | .setStreamName streamName => streamName
  | _ => name

/-- The stream name that the calls gave last, if any and if not null. -/
def givenName (calls : List Call) : Option (List UInt8) := calls.foldl Call.givenName none

/-- Packets do not change the name that they carry. -/
theorem Emits.streamName {c : ℕ} {s s' : VbanSender} {packets : List (List (PcmFrame c))}
    (h : Emits s packets s') : s'.streamName = s.streamName := by
  have hkept : ∀ o : VbanOutlet, (o.sendAll packets).header.streamName = o.header.streamName := by
    clear h
    induction packets with
    | nil => exact fun o => rfl
    | cons frames packets ih => exact fun o => ih (o.send frames)
  calc s'.streamName = s'.outlet.header.streamName := rfl
    _ = (s.outlet.sendAll packets).header.streamName := by rw [h.outlet]
    _ = s.outlet.header.streamName := hkept s.outlet

section Sending

variable [PCMFlow]

/-- An emission is made under the name of the sender. -/
theorem emissions_streamName {s : VbanSender} (h : s.WF) (call : Call) :
    ∀ e ∈ s.emissions call, e.streamName = s.streamName := by
  intro e he
  cases call with
  | writeFrames src frameCount =>
    rcases writeFrames_guard h src frameCount with ⟨-, hnone⟩ | ⟨mem, rfl, -, hmode, hemissions⟩
    · rw [hnone] at he
      exact absurd he List.not_mem_nil
    · obtain ⟨-, -, hall, -⟩ :=
        (scratch_lawful hmode.channels_pos).writeLoop_emissions (fun _ _ _ => rfl)
          (fun _ _ hpos _ => offered_emitPacket hpos) hmode (h.pending_lt hmode) mem frameCount
      rw [hemissions] at he
      obtain ⟨packets, hbefore⟩ := (hall e he).before
      exact hbefore.streamName
  | flush =>
    by_cases hsends : (s.ready && s.pendingFrames != 0) = true
    · rw [emissions, if_pos hsends, List.mem_singleton] at he
      rw [he]
    · rw [emissions, if_neg hsends] at he
      exact absurd he List.not_mem_nil
  | begin destPort streamName => exact absurd he List.not_mem_nil
  | end_ => exact absurd he List.not_mem_nil
  | setFormat fmt => exact absurd he List.not_mem_nil
  | setStreamName name => exact absurd he List.not_mem_nil

/-- A call that does not set the name keeps it. -/
theorem step_streamName {s s' : VbanSender} (h : s.WF) {call : Call} (hstep : step s call = some s')
    {name : Option (List UInt8)} (hname : s.streamName = storedName name) :
    s'.streamName = storedName (call.givenName name) := by
  cases call with
  | begin destPort streamName =>
    obtain rfl := Option.some.inj hstep
    cases streamName <;> rfl
  | end_ =>
    obtain rfl := Option.some.inj hstep
    exact hname
  | setFormat fmt =>
    obtain rfl := Option.some.inj hstep
    -- sending and configuring keep the name
    refine Eq.trans ?_ hname
    rcases s.setFormat_cases fmt with ⟨error, heq⟩ | ⟨hvalid, hbits, hidx⟩
    · rw [heq]
    · rw [(s.setFormat_spec hvalid hbits hidx).2.2]
  | setStreamName streamName =>
    obtain rfl := Option.some.inj hstep
    cases streamName <;> rfl
  | writeFrames src frameCount =>
    refine Eq.trans ?_ hname
    rcases writeFrames_cases h src frameCount with ⟨error, heq⟩ | ⟨mem, rfl, hready, hmode⟩
    · rw [step, heq] at hstep
      obtain rfl := Option.some.inj hstep
      rfl
    · obtain ⟨packets, s₁, heq, hemits, -⟩ :=
        writeFrames_spec hmode hready (h.pending_lt hmode) mem frameCount
      rw [step, heq] at hstep
      obtain rfl := Option.some.inj hstep
      exact hemits.streamName
  | flush =>
    obtain rfl := Option.some.inj hstep
    refine Eq.trans ?_ hname
    rcases flush_cases h with ⟨error, heq⟩ | ⟨hready, hmode, hlt⟩
    · rw [heq]
    · obtain ⟨packets, hemits, -⟩ := flush_spec hmode hready hlt
      exact hemits.streamName

/-- **The name of a sender** is the one given last. -/
theorem run_streamName {script : ℕ → UdpTx} {calls : List Call} {s : VbanSender}
    (hrun : run step (new script) calls = some s) : s.streamName = storedName (givenName calls) := by
  refine (run_history (P := fun past s => s.WF ∧ s.streamName = storedName (givenName past))
    (Q := fun _ => True) ?_ ⟨wf_new script, rfl⟩ (fun _ _ => trivial) hrun).2
  rintro past s call s' ⟨hwf, hname⟩ - hstep
  obtain ⟨s₁, hstep₁, hwf₁⟩ := wf_step hwf call
  obtain rfl := Option.some.inj (hstep₁.symm.trans hstep)
  rw [givenName, List.foldl_append]
  exact ⟨hwf₁, step_streamName hwf hstep hname⟩

/-- The run over `calls` puts the datagram `d` on the wire in its last call, which is `call`. -/
def Sends (script : ℕ → UdpTx) (calls : List Call) (call : Call) (d : List UInt8) : Prop :=
  ∃ s s' a, run step (new script) calls = some s ∧ step s call = some s' ∧
    a ∈ s'.udp.attempts.drop s.udp.attempts.length ∧ a.datagram = some d

/-- What an emission offers begins with a header under the name of the sender. -/
theorem EmittedIn.name_eq {s e : VbanSender} (h : s.EmittedIn e) :
    (e.nextPacket.drop 8).take 16 = nameField e.streamName.cells := by
  have hpacket := nextPacket_eq h.mode h.pos h.le
  rw [VbanOutlet.packet, audioHeaderBytes] at hpacket
  obtain ⟨-, -, -, hname⟩ := vbanHeaderBytes_getD _ _ _ _ _ _ (hostImage _)
  rw [← hpacket] at hname
  refine Eq.trans (readMem_eq ?_).symm hname
  rw [hpacket, List.length_append, length_vbanHeaderBytes]
  omega

/-- **A datagram of a sender names the stream** as the sender was told last. `write` may have cut it short
behind the header. -/
theorem Sends.cName_eq {script : ℕ → UdpTx} {calls : List Call} {call : Call} {d : List UInt8}
    (h : Sends script calls call d) (hlen : kVbanHeaderBytes ≤ d.length) :
    cName (d.drop 8) = cName ((givenName calls).getD []) := by
  obtain ⟨s, s', a, hrun, hstep, ha, hd⟩ := h
  have hwf : s.WF := Reachable.wf ⟨script, calls, hrun⟩
  obtain ⟨-, hoffered, hemitted⟩ := step_emissions hwf hstep
  -- the packet was offered in some state of the call
  have hnew : (s'.udp.attempts.drop s.udp.attempts.length).map SendAttempt.packet
      = (s.emissions call).map nextPacket := by
    rw [List.map_drop]
    have hdrop := congrArg (List.drop s.offered.length) hoffered
    rwa [List.drop_left, offered, offered, List.length_map] at hdrop
  have hpacket : a.packet ∈ (s.emissions call).map nextPacket := by
    rw [← hnew]
    exact List.mem_map_of_mem ha
  obtain ⟨e, he, heq⟩ := List.mem_map.mp hpacket
  have hprefix : d <+: e.nextPacket := heq ▸ SendAttempt.datagram_prefix hd
  obtain ⟨rest, hrest⟩ := hprefix
  have hk : kVbanHeaderBytes = 28 := rfl
  have hfield : (d.drop 8).take 16 = nameField e.streamName.cells := by
    rw [← (hemitted e he).name_eq, ← hrest, List.drop_append_of_le_length (by omega),
      List.take_append_of_le_length (by rw [List.length_drop]; omega)]
  have hname := cName_nameField e.streamName.cells []
  rw [List.append_nil, ← hfield, cName, List.take_take] at hname
  calc cName (d.drop 8) = cName e.streamName.cells := hname
    _ = cName s.streamName.cells := by rw [emissions_streamName hwf call e he]
    _ = cName (storedName (givenName calls)).cells := by rw [run_streamName hrun]
    _ = cName ((givenName calls).getD []) := cName_storedName _

end Sending

end VbanSender

/-! ## Names on the wire -/

/-- Two datagrams that differ at most behind the name in their name field. -/
structure SameUpToName (d d' : List UInt8) : Prop where
  before : d.take 8 = d'.take 8
  name : cName (d.drop 8) = cName (d'.drop 8)
  behind : d.drop 24 = d'.drop 24

instance (d d' : List UInt8) : Decidable (SameUpToName d d') :=
  decidable_of_iff (d.take 8 = d'.take 8 ∧ cName (d.drop 8) = cName (d'.drop 8) ∧ d.drop 24 = d'.drop 24)
    ⟨fun ⟨h1, h2, h3⟩ => ⟨h1, h2, h3⟩, fun h => ⟨h.1, h.2, h.3⟩⟩

namespace SameUpToName

variable {d d' : List UInt8} (h : SameUpToName d d')

include h

/-- They stay so when what does not fit the buffer is cut off. -/
theorem take : SameUpToName (d.take kVbanMaxPacketBytes) (d'.take kVbanMaxPacketBytes) where
  before := by
    have hmin : min 8 kVbanMaxPacketBytes = 8 := by decide
    rw [List.take_take, List.take_take, hmin, h.before]
  name := by rw [cName_take, cName_take, h.name]
  behind := by rw [List.drop_take, List.drop_take, h.behind]

/-- It does not matter which is first. -/
theorem symm : SameUpToName d' d := ⟨h.before.symm, h.name.symm, h.behind.symm⟩

/-- They are of one length, as far as the header goes. -/
theorem length_le (hlen : kVbanHeaderBytes ≤ d.length) : kVbanHeaderBytes ≤ d'.length := by
  have hk : kVbanHeaderBytes = 28 := rfl
  have hlast := congrArg List.length h.behind
  rw [List.length_drop, List.length_drop] at hlast
  omega

/-- The octets in front of the name are the same. -/
theorem byteAt_eq {i : ℕ} (hi : i < 8) : byteAt d i = byteAt d' i := byteAt_congr h.before hi

/-- They speak the same protocol. -/
theorem speaksVban {sub : VbanSubProtocol} (hsub : SpeaksVban sub d) : SpeaksVban sub d' := by
  obtain ⟨hlen, hsig, hcode⟩ := hsub
  refine ⟨h.length_le hlen, ?_, h.byteAt_eq (show 4 < 8 by decide) ▸ hcode⟩
  have htake := congrArg (List.take 4) h.before
  rw [List.take_take, List.take_take] at htake
  exact htake ▸ hsig

/-- They have the same payload. -/
theorem payload_eq : d.drop kVbanHeaderBytes = d'.drop kVbanHeaderBytes := by
  have hdrop := congrArg (List.drop 4) h.behind
  rwa [List.drop_drop, List.drop_drop] at hdrop

/-- They have the same counter. -/
theorem parsedCounter_eq : parsedCounter d = parsedCounter d' := by
  have hbyte : ∀ i, byteAt d (24 + i) = byteAt d' (24 + i) := by
    intro i
    have hdrop : ∀ mem : List UInt8, byteAt (mem.drop 24) i = byteAt mem (24 + i) := fun mem => by
      simp [byteAt, List.getElem?_drop]
    rw [← hdrop, ← hdrop, h.behind]
  rw [parsedCounter, parsedCounter, hbyte 0, hbyte 1, hbyte 2, hbyte 3]

/-- The audio headers differ in the name array at most. -/
theorem audioHeader_eq : audioHeader d' = { audioHeader d with streamName := parsedName d' } := by
  rw [audioHeader, audioHeader, h.byteAt_eq (show 4 < 8 by decide), h.byteAt_eq (show 5 < 8 by decide),
    h.byteAt_eq (show 6 < 8 by decide), h.byteAt_eq (show 7 < 8 by decide), h.parsedCounter_eq]

/-- The service headers differ in the name array at most. -/
theorem serviceHeader_eq : serviceHeader d' = { serviceHeader d with streamName := parsedName d' } := by
  rw [serviceHeader, serviceHeader, h.byteAt_eq (show 4 < 8 by decide),
    h.byteAt_eq (show 5 < 8 by decide), h.byteAt_eq (show 6 < 8 by decide),
    h.byteAt_eq (show 7 < 8 by decide), h.parsedCounter_eq]

end SameUpToName

/-! ## The receiver's end -/

/-- A receiver with the filter `filter` lets the stream `name` through: there is no filter, it is empty, or the
first 16 bytes agree as C strings. -/
def Passes (filter : Option (List UInt8)) (name : List UInt8) : Prop :=
  match filter with
  | none => True
  | some f => byteAt f 0 = 0 ∨ cName name = cName f

instance (filter : Option (List UInt8)) (name : List UInt8) : Decidable (Passes filter name) := by
  unfold Passes
  cases filter <;> infer_instance

/-- A filter looks at the C string only. -/
theorem Passes.congr {filter : Option (List UInt8)} {name name' : List UInt8} (h : cName name = cName name') :
    Passes filter name ↔ Passes filter name' := by
  cases filter with
  | none => exact Iff.rfl
  | some f => rw [Passes, Passes, h]

/-- A service packet, for a user who reads its name as a C string: the packet without the name, and the name. -/
def VbanServicePacket.view (pkt : VbanServicePacket) : VbanServicePacket × List UInt8 :=
  ({ pkt with header := { pkt.header with streamName := VbanName.zero } }, pkt.header.streamName.cString)

namespace VbanReceiver

/-- `currentStreamName`, as a C string. -/
def currentStreamName (r : VbanReceiver) : List UInt8 := r.currentStream.cString

/-- A receiver, for a user who reads names as C strings: the receiver without the names, and the names. -/
def view (r : VbanReceiver) : VbanReceiver × List UInt8 × List (VbanServicePacket × List UInt8) :=
  ({ r with currentStream := VbanName.zero, served := [] }, r.currentStreamName,
    r.served.map VbanServicePacket.view)

/-- The name filter that is in force after a call. -/
def Call.givenFilter (filter : Option (List UInt8)) : Call → Option (List UInt8)
  | .begin streamName _ => streamName
  | _ => filter

/-- The name filter that the last `begin` was given, if any and if not null. -/
def givenFilter (calls : List Call) : Option (List UInt8) := calls.foldl Call.givenFilter none

/-- An acceptable packet passes the filter, or is not accepted. -/
theorem acceptedBy_iff {filter : Option (List UInt8)} {locked : PCMFormat} {d : List UInt8} :
    AcceptedBy filter locked d ↔ AcceptedBy none locked d ∧ ∀ n ∈ filter, cName (d.drop 8) = n := by
  constructor
  · rintro ⟨haudio, hrate, hname, hcodec, hchannels, hlock⟩
    exact ⟨⟨haudio, hrate, by simp, hcodec, hchannels, hlock⟩, hname⟩
  · rintro ⟨⟨haudio, hrate, -, hcodec, hchannels, hlock⟩, hname⟩
    exact ⟨haudio, hrate, hname, hcodec, hchannels, hlock⟩

/-- What is accepted. -/
theorem Polled.accepts_iff {r r' : VbanReceiver} {d : List UInt8} {ok : Bool} (h : Polled r d ok r') :
    ok = true ↔ SpeaksVban .service d ∨ AcceptedBy r.filter r.format d := by
  cases h with
  | service hservice hparse => simp [hservice]
  | audio haudio => simp [haudio]
  | dropped hservice haudio error => simp [hservice, haudio]

section Polling

variable [PCMFlow]

/-- A filter stays until the next `begin`. -/
theorem step_filter (s : VbanReceiver × VbanPollMemory) {c : Call} (hc : c.isBegin = false) :
    (step s c).1.filter = s.1.filter := by
  obtain ⟨r, buf⟩ := s
  cases c with
  | begin streamName bound => exact absurd hc (by simp [Call.isBegin])
  | end_ => rfl
  | setServiceCallback cb => rfl
  | poll io =>
    refine poll_rule (P := fun r' => r'.filter = r.filter) (fun _ _ h => h) ?_ rfl buf io
    intro r' h payload hsame
    refine Eq.trans ?_ hsame
    unfold pollAudio
    dsimp only
    split
    · rfl
    split
    · rfl
    split
    · rfl
    split <;> rfl
  | readFrames nonNull frameCount => rfl

/-- **The filter of a receiver** is the one given last, unless that is null or empty. -/
theorem run_filter (calls : List Call) (buf : VbanPollMemory) :
    (calls.foldl step ({}, buf)).1.filter
      = (givenFilter calls).bind fun name => if byteAt name 0 = 0 then none else some (cName name) := by
  induction calls using List.reverseRecOn with
  | nil => rfl
  | append_singleton calls c ih =>
    rw [givenFilter, List.foldl_append, List.foldl_append]
    by_cases hc : c.isBegin = true
    · cases c with
      | begin streamName bound => exact filter_begin _ streamName bound
      | end_ => exact absurd hc Bool.false_ne_true
      | setServiceCallback cb => exact absurd hc Bool.false_ne_true
      | poll io => exact absurd hc Bool.false_ne_true
      | readFrames nonNull frameCount => exact absurd hc Bool.false_ne_true
    · rw [Bool.not_eq_true] at hc
      have hsame : ∀ filter, c.givenFilter filter = filter := by
        intro filter
        cases c <;> first | rfl | exact absurd hc (by simp [Call.isBegin])
      show (step _ c).1.filter = (c.givenFilter (givenFilter calls)).bind _
      rw [step_filter _ hc, hsame]
      exact ih

/-- **What passes.** -/
theorem poll_eq_true_iff {calls : List Call} {r : VbanReceiver} {buf : VbanPollMemory}
    (hr : calls.foldl step ({}, Buffer.filled _ 0) = (r, buf)) (hready : r.ready = true) {d : List UInt8}
    (hd : AcceptedBy none r.format d) :
    (r.poll buf (Inbound.ofDatagram d)).1 = true ↔ Passes (givenFilter calls) (d.drop 8) := by
  have hinv : r.Inv := Reachable.inv (s := (r, buf)) ⟨calls, hr⟩
  have hne : d ≠ [] := by
    rintro rfl
    exact absurd hd.audio.length (by decide)
  have hfilter := run_filter calls (Buffer.filled _ 0)
  rw [hr] at hfilter
  rw [(poll_cases hinv.lock hready buf hne).accepts_iff, or_iff_right hd.not_service, acceptedBy_iff,
    and_iff_right hd, hfilter]
  cases givenFilter calls with
  | none => simp [Passes]
  | some f =>
    by_cases hempty : byteAt f 0 = 0
    · simp [Passes, hempty]
    · simp [Passes, hempty]

/-- An audio packet that is accepted names the current stream. -/
theorem poll_currentStreamName {r : VbanReceiver} {buf : VbanPollMemory} (hinv : r.Inv)
    (hready : r.ready = true) {d : List UInt8} (haudio : SpeaksVban .audio d)
    (hok : (r.poll buf (Inbound.ofDatagram d)).1 = true) :
    (r.poll buf (Inbound.ofDatagram d)).2.1.currentStreamName = cName (d.drop 8) := by
  have hne : d ≠ [] := by
    rintro rfl
    exact absurd haudio.length (by decide)
  have hpolled := poll_cases hinv.lock hready buf hne
  generalize r.poll buf (Inbound.ofDatagram d) = result at hok hpolled
  obtain ⟨ok, r', buf'⟩ := result
  cases hpolled with
  | service hservice hparse => cases hservice.unique haudio
  | audio hacc =>
    have hlen : kVbanHeaderBytes ≤ (d.take kVbanMaxPacketBytes).length :=
      (speaksVban_take.mpr haudio).length
    exact (cString_parsedName hlen).trans (cName_take d)
  | dropped hservice haccepted error => exact absurd hok Bool.false_ne_true

/-- The audio branch looks at the name through the filter only, and shows it through the current stream only. -/
theorem pollAudio_view (r : VbanReceiver) (h : VbanAudioHeader) (name : VbanName) (payload : List UInt8)
    (hfilter : (r.filterEnabled && strncmp name.cells r.filterName.cells kVbanStreamNameBytes != 0)
      = (r.filterEnabled && strncmp h.streamName.cells r.filterName.cells kVbanStreamNameBytes != 0))
    (hname : name.cString = h.streamName.cString) :
    (r.pollAudio { h with streamName := name } payload).1 = (r.pollAudio h payload).1 ∧
      (r.pollAudio { h with streamName := name } payload).2.view = (r.pollAudio h payload).2.view := by
  unfold pollAudio
  dsimp only
  rw [hfilter]
  split
  · exact ⟨rfl, rfl⟩
  split
  · exact ⟨rfl, rfl⟩
  split
  · exact ⟨rfl, rfl⟩
  split
  · exact ⟨rfl, rfl⟩
  · simp [view, currentStreamName, hname]

/-- Receiving bytes that agree up to the name. -/
theorem receive_view (r : VbanReceiver) {d d' : List UInt8} (h : SameUpToName d d') :
    (r.receive d').1 = (r.receive d).1 ∧ (r.receive d').2.view = (r.receive d).2.view := by
  -- no branch reads what follows the first zero of the name, so both datagrams take the same one
  by_cases hlen : kVbanHeaderBytes ≤ d.length
  swap
  · rw [receive, receive, if_pos (Nat.not_le.mp hlen), if_pos (Nat.not_le.mp (mt h.symm.length_le hlen))]
    exact ⟨rfl, rfl⟩
  have hlen' := h.length_le hlen
  have hname : (parsedName d').cString = (parsedName d).cString := by
    rw [cString_parsedName hlen, cString_parsedName hlen', h.name]
  rw [receive, receive, if_neg hlen.not_gt, if_neg hlen'.not_gt, ← h.byteAt_eq (show 4 < 8 by decide),
    ← h.payload_eq]
  split
  · -- both are service packets, or neither
    by_cases hservice : SpeaksVban .service d
    · rw [parseServiceHeader_ok_iff.mpr ⟨hservice, rfl⟩,
        parseServiceHeader_ok_iff.mpr ⟨h.speaksVban hservice, rfl⟩, h.serviceHeader_eq]
      dsimp only
      split
      · simpa [view, VbanServicePacket.view] using ⟨rfl, hname⟩
      · exact ⟨rfl, rfl⟩
    · obtain ⟨err, herr⟩ := parseServiceHeader_error hservice
      obtain ⟨err', herr'⟩ := parseServiceHeader_error (mt h.symm.speaksVban hservice)
      rw [herr, herr']
      exact ⟨rfl, rfl⟩
  · -- so for audio packets
    by_cases haudio : SpeaksVban .audio d ∧ byteAt d 4 &&& 0x1F ≤ 20
    · have haudio' : SpeaksVban .audio d' ∧ byteAt d' 4 &&& 0x1F ≤ 20 :=
        ⟨h.speaksVban haudio.1, h.byteAt_eq (show 4 < 8 by decide) ▸ haudio.2⟩
      rw [parseAudioHeader_ok_iff.mpr ⟨haudio, rfl⟩, parseAudioHeader_ok_iff.mpr ⟨haudio', rfl⟩]
      have hpass := r.passes_iff hlen'
      rw [← h.name, ← r.passes_iff hlen] at hpass
      have hview := r.pollAudio_view (audioHeader d) (parsedName d') (d.drop kVbanHeaderBytes)
        (Bool.eq_iff_iff.mpr hpass) hname
      rwa [← h.audioHeader_eq] at hview
    · rcases parseAudioHeader_cases d with ⟨ha, hrate, -⟩ | ⟨-, err, herr⟩
      · exact absurd ⟨ha, hrate⟩ haudio
      rcases parseAudioHeader_cases d' with ⟨ha', hrate', -⟩ | ⟨-, err', herr'⟩
      · exact absurd ⟨h.symm.speaksVban ha', h.byteAt_eq (show 4 < 8 by decide) ▸ hrate'⟩ haudio
      rw [herr, herr']
      exact ⟨rfl, rfl⟩

/-- **What stands behind the name makes no difference.** -/
theorem poll_view {r : VbanReceiver} (hready : r.ready = true) (buf : VbanPollMemory) {d d' : List UInt8}
    (h : SameUpToName d d') :
    (r.poll buf (Inbound.ofDatagram d')).1 = (r.poll buf (Inbound.ofDatagram d)).1 ∧
      (r.poll buf (Inbound.ofDatagram d')).2.1.view = (r.poll buf (Inbound.ofDatagram d)).2.1.view := by
  by_cases hd : d = []
  · have hd' : d' = [] := by
      have htake := h.before
      rw [hd, List.take_nil, eq_comm, List.take_eq_nil_iff] at htake
      exact htake.resolve_left (by decide)
    rw [hd, hd']
    exact ⟨rfl, rfl⟩
  · have hd' : d' ≠ [] := by
      rintro rfl
      have htake := h.before
      rw [List.take_nil, List.take_eq_nil_iff] at htake
      exact hd (htake.resolve_left (by decide))
    obtain ⟨hok, hstate⟩ := Prod.ext_iff.mp (poll_ofDatagram hready buf hd)
    obtain ⟨hok', hstate'⟩ := Prod.ext_iff.mp (poll_ofDatagram hready buf hd')
    dsimp only at hok hok' hstate hstate'
    rw [hok, hok', hstate, hstate']
    exact r.receive_view h.take

/-- **Stream names, end to end.** In every state that a receiver can be in, an audio packet that is otherwise
acceptable is taken exactly if the filter given last lets the name in its name field through, and the name
field of a sender's packet holds the name given to the sender last. Of a name field nothing but the bytes up
to the first NUL or the sixteenth byte matters, and after an audio packet was taken `currentStreamName` is
that string. -/
theorem vban_name_filter {calls : List Call} {r : VbanReceiver} {buf : VbanPollMemory}
    (hr : calls.foldl step ({}, Buffer.filled _ 0) = (r, buf)) (hready : r.ready = true) :
    (∀ (script : ℕ → UdpTx) (sent : List VbanSender.Call) (call : VbanSender.Call) (d : List UInt8),
      VbanSender.Sends script sent call d → AcceptedBy none r.format d →
        ((r.poll buf (Inbound.ofDatagram d)).1 = true ↔
          Passes (givenFilter calls) ((VbanSender.givenName sent).getD []))) ∧
    (∀ d, AcceptedBy none r.format d →
      ((r.poll buf (Inbound.ofDatagram d)).1 = true ↔ Passes (givenFilter calls) (d.drop 8))) ∧
    (∀ d d', SameUpToName d d' →
      (r.poll buf (Inbound.ofDatagram d')).1 = (r.poll buf (Inbound.ofDatagram d)).1 ∧
        (r.poll buf (Inbound.ofDatagram d')).2.1.view = (r.poll buf (Inbound.ofDatagram d)).2.1.view) ∧
    (∀ d, SpeaksVban .audio d → (r.poll buf (Inbound.ofDatagram d)).1 = true →
      (r.poll buf (Inbound.ofDatagram d)).2.1.currentStreamName = cName (d.drop 8)) := by
  have hinv : r.Inv := Reachable.inv (s := (r, buf)) ⟨calls, hr⟩
  refine ⟨fun script sent call d hsent hd => ?_, fun d hd => poll_eq_true_iff hr hready hd,
    fun d d' h => poll_view hready buf h,
    fun d haudio hok => poll_currentStreamName hinv hready haudio hok⟩
  rw [poll_eq_true_iff hr hready hd]
  exact Passes.congr (hsent.cName_eq hd.audio.length)

end Polling

/-- Two names of twenty bytes that agree in the first sixteen. -/
def longName (rest : UInt8) : List UInt8 := List.replicate 16 0x41 ++ List.replicate 4 rest

/-- The calls of a sender with such a name that sends one frame with its next `flush`. -/
def longNameCalls : List VbanSender.Call :=
  [.begin 6980 (some (longName 0x42)), .setFormat ⟨48000, 1, 16⟩, .writeFrames (some [1, 2]) 1]

/-- The datagram that it sends. -/
def longNamePacket : List UInt8 :=
  audioHeaderBytes ⟨3, 1, 1, .pcm16, VbanName.ofCString (longName 0x42), 0⟩ ++ [1, 2]

/-- A receiver that filters by the other name takes the packet. -/
theorem vban_name_filter_sixteen :
    @VbanSender.Sends PCMFlow.documented (fun _ => {}) longNameCalls .flush longNamePacket ∧
      (@poll PCMFlow.documented (begin {} (some (longName 0x43)) 1).2 (Buffer.filled _ 0)
        (Inbound.ofDatagram longNamePacket)).1 = true := by
  have hsends : @VbanSender.Sends PCMFlow.documented (fun _ => {}) longNameCalls .flush longNamePacket :=
    ⟨_, _, ⟨longNamePacket, {}⟩, rfl, rfl, by decide +kernel, rfl⟩
  obtain ⟨hsent, -⟩ := @vban_name_filter PCMFlow.documented [.begin (some (longName 0x43)) 1] _ _ rfl rfl
  exact ⟨hsends, (hsent _ _ _ _ hsends (by decide +kernel)).mpr (by decide +kernel)⟩

end VbanReceiver

end PcmFlowUdp
