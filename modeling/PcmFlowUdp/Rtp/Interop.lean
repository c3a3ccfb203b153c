import Mathlib.Data.List.Flatten
import PcmFlowUdp.PcmValues
import PcmFlowUdp.Rtp.Labels
import PcmFlowUdp.Rtp.NetHelpers
import PcmFlowUdp.Rtp.Network

/-! # RTP audio and data between the library and Python

The rest of `tests/net_helpers/rtp.py` puts a payload behind a header and converts lists of numbers to L16
payloads and back. The tests let Python listen to an `RtpSender` (`rtp_dut_to_python`) and let an `RtpReceiver`
poll what Python sends (`rtp_python_loopback`).

* **`listen_encoded`** — Python reads a packet that the C++ encoder wrote;
* **`rtp_dut_to_python`** — Python hears every frame and every payload that a sender takes, in order, but for the
  frames thrown away or pending;
* **`rtp_python_to_dut`** — a receiver returns the samples and the payloads that Python sent, in order, and all
  of the samples if there is room in the ring. -/

namespace PcmFlowUdp

open ByteTransport PcmFrame

namespace NetHelpers

open Python

/-! ## Payloads -/

/-- `build_packet`. -/
def buildPacket (header : RtpHeader) (payload : List UInt8) : Except PyError (List UInt8) := do
  let head ← encodeRtpHeader header
  .ok (head ++ payload)

/-- `pcm_to_be_bytes`. -/
def pcmToBeBytes (samples : List ℤ) : Except PyError (List UInt8) := raising (packShorts .big samples)

/-- `be_bytes_to_pcm`. -/
def beBytesToPcm (data : List UInt8) : Except PyError (List ℤ) :=
  let n := data.length / 2
  raising (unpackShorts .big n (slice data 0 (n * 2 : ℕ)))

/-- An L16 packet with these samples, as the tests build it. -/
def announce (header : RtpHeader) (samples : List ℤ) : Except PyError (List UInt8) := do
  let pcm ← pcmToBeBytes samples
  buildPacket header pcm

/-- The header of a packet and what is behind it, as the tests take it apart. -/
def listen (data : List UInt8) : Except PyError (Option (RtpHeader × List UInt8)) := do
  match ← parseRtpHeader data with
  | none => .ok none
  | some h => .ok (some (h, slice data h.payloadOffset data.length))

/-- The header and the samples of an L16 packet, as the tests read them. -/
def listenL16 (data : List UInt8) : Except PyError (Option (RtpHeader × List ℤ)) := do
  match ← listen data with
  | none => .ok none
  | some (h, payload) => do
      let samples ← beBytesToPcm payload
      .ok (some (h, samples))

/-- Python reads the samples of frames. -/
theorem beBytesToPcm_netImage {c : ℕ} (fs : List (PcmFrame c)) :
    beBytesToPcm (netImage fs) = .ok (pcmValues (fs.map audio)) := by
  rw [beBytesToPcm, unpackShorts_netImage]
  rfl

/-- **Python reads a packet of the C++ encoder.** -/
theorem listen_encoded {h : PcmFlowUdp.RtpHeader} (hpt : h.payloadType ≤ 0x7F) (payload : List UInt8) :
    listen (PcmFlowUdp.rtpHeaderBytes h ++ payload) = .ok (some (h.emitted.toPython, payload)) := by
  have hhead := PcmFlowUdp.length_rtpHeaderBytes h
  have hlong : 12 ≤ (PcmFlowUdp.rtpHeaderBytes h ++ payload).length := by
    rw [List.length_append, hhead]
    exact Nat.le_add_right _ _
  have hparse := (parseRtpHeader_python (PcmFlowUdp.rtpHeaderBytes h ++ payload)).2 _
    (parseRtpHeader_encoded hpt payload hlong)
  have hpayload : slice (PcmFlowUdp.rtpHeaderBytes h ++ payload) (12 : ℕ)
      (PcmFlowUdp.rtpHeaderBytes h ++ payload).length = payload := by
    have hcut := slice_of_le (i := 12) hlong le_rfl
    rw [List.drop_left' hhead] at hcut
    refine hcut.trans (List.take_of_length_le ?_)
    rw [List.length_append, hhead]
    omega
  rw [listen, hparse]
  exact congrArg (fun octets => Except.ok (some (h.emitted.toPython, octets))) hpayload

/-- It reads the samples of an L16 packet. -/
theorem listenL16_encoded {h : PcmFlowUdp.RtpHeader} (hpt : h.payloadType ≤ 0x7F) {c : ℕ}
    (fs : List (PcmFrame c)) :
    listenL16 (PcmFlowUdp.rtpHeaderBytes h ++ netImage fs)
      = .ok (some (h.emitted.toPython, pcmValues (fs.map audio))) := by
  rw [listenL16, listen_encoded hpt]
  dsimp only [Bind.bind, Except.bind]
  rw [beBytesToPcm_netImage]

end NetHelpers

/-! ## From the library to Python -/

/-- What a sender takes from its caller. -/
inductive RtpItem
  /-- A frame that `writeFrames` accepts. -/
  | frame (f : AudioFrame)
  /-- A payload that `writeEncoded` tries to send. -/
  | payload (bytes : List UInt8)
  deriving DecidableEq

/-- What becomes of it. -/
inductive RtpFate
  /-- A packet with the frames was offered to the UDP object. -/
  | audio (packet : List UInt8) (frames : List AudioFrame)
  /-- A packet with the payload was. -/
  | data (packet : List UInt8) (payload : List UInt8)
  /-- The frames were pending when they were thrown away. -/
  | discarded (frames : List AudioFrame)

namespace RtpFate

/-- What it has become of. -/
def items : RtpFate → List RtpItem
  | .audio _ frames => frames.map .frame
  | .data _ payload => [.payload payload]
  | .discarded frames => frames.map .frame

/-- The packet that was offered, if any. -/
def packet : RtpFate → Option (List UInt8)
  | .audio packet _ => some packet
  | .data packet _ => some packet
  | .discarded _ => none

/-- Python reads the frames or the payload out of the packet, behind a header without CSRCs and extension. -/
def Heard : RtpFate → Prop
  | .audio packet frames => frames ≠ [] ∧ ∃ h : RtpHeader,
      NetHelpers.listenL16 packet = .ok (some (h.emitted.toPython, pcmValues frames))
  | .data packet payload => payload ≠ [] ∧ ∃ h : RtpHeader,
      NetHelpers.listen packet = .ok (some (h.emitted.toPython, payload))
  | .discarded _ => True

end RtpFate

namespace RtpSender

/-- A state that emits an L16 packet: Python hears the pending frames. -/
theorem Emitting.heard {e : RtpSender} (h : e.Emitting) :
    (RtpFate.audio e.nextPacket e.framesPending).Heard := by
  have hlen := h.length_framesPending
  refine ⟨fun hnil => ?_, e.nextHeader, ?_⟩
  · rw [hnil] at hlen
    exact absurd hlen.symm h.pos.ne'
  · rw [h.nextPacket_eq, framesPending, AudioFrame.netImage_map_audio]
    exact NetHelpers.listenL16_encoded h.mode.payloadType_le _

/-- The payload that a call tries to send. -/
def attempts (s : RtpSender) : Call → List (List UInt8)
  | .writeEncoded (some bytes) count =>
      if s.ready && s.payloadType != 0xFF && count != 0 && decide (count ≤ kRtpMaxPayloadBytes) then
        [readMem bytes 0 count]
      else []
  | _ => []

/-- No frames are pending when a payload is sent. -/
def Apart (s : RtpSender) (call : Call) : Prop := call.encoded = true → s.pendingFrames = 0

instance (s : RtpSender) (call : Call) : Decidable (s.Apart call) :=
  decidable_of_iff ((!call.encoded || s.pendingFrames == 0) = true) (by
    rw [Apart]
    cases call.encoded <;> simp)

/-- A payload that is not refused is offered in one packet, and Python hears it. -/
theorem offers_payload {s : RtpSender} (hready : s.ready = true) (hpt : s.payloadType ≤ 0x7F) (mem : List UInt8)
    {count : ℕ} (hpos : 0 < count) (hmax : count ≤ kRtpMaxPayloadBytes) :
    ∃ payload packet, s.attempts (.writeEncoded (some mem) count) = [payload] ∧
      (RtpFate.data packet payload).Heard ∧
      (s.writeEncoded (some mem) count).2.offered = s.offered ++ [packet] ∧
      (s.writeEncoded (some mem) count).2.pendingFrames = s.pendingFrames := by
  have hset : s.payloadType ≠ 0xFF := fun hff => absurd (hff ▸ hpt) (by decide)
  refine ⟨readMem mem 0 count, rtpHeaderBytes s.nextHeader ++ readMem mem 0 count, ?_, ⟨?_, s.nextHeader, ?_⟩,
    ?_, ?_⟩
  · simp [attempts, hready, hset, hpos.ne', hmax]
  · intro hnil
    have hlen := length_readMem mem 0 count
    rw [hnil] at hlen
    exact absurd hlen.symm hpos.ne'
  · exact NetHelpers.listen_encoded hpt _
  · rw [writeEncoded_eq hready hpt mem hpos hmax]
    simp [offered, attempt]
  · rw [writeEncoded_eq hready hpt mem hpos hmax]
    rfl

/-- A call of `writeEncoded` is refused, or offers one packet that Python hears. -/
theorem writeEncoded_offers {s : RtpSender} (h : s.WF) (bytes : Option (List UInt8)) (count : ℕ) :
    (s.attempts (.writeEncoded bytes count) = [] ∧
      ∃ error, s.writeEncoded bytes count = (false, { s with error })) ∨
      ∃ payload packet, s.attempts (.writeEncoded bytes count) = [payload] ∧
        (RtpFate.data packet payload).Heard ∧
        (s.writeEncoded bytes count).2.offered = s.offered ++ [packet] ∧
        (s.writeEncoded bytes count).2.pendingFrames = s.pendingFrames := by
  rcases writeEncoded_cases h bytes count with hrefused | ⟨mem, rfl, hready, hpt, hpos, hmax⟩
  · cases bytes with
    | none => exact .inl ⟨rfl, hrefused⟩
    | some mem =>
      by_cases hsends : s.ready = true ∧ s.payloadType ≠ 0xFF ∧ count ≠ 0 ∧ count ≤ kRtpMaxPayloadBytes
      · -- it is not refused then
        obtain ⟨hready, hset, hpos, hmax⟩ := hsends
        exact .inr (offers_payload hready (h.payloadType_le.resolve_left hset) mem
          (Nat.pos_of_ne_zero hpos) hmax)
      · refine .inl ⟨?_, hrefused⟩
        rw [attempts, if_neg]
        simpa [and_assoc] using hsends
  · exact .inr (offers_payload hready hpt mem hpos hmax)

/-! ## One call -/

section Calls

variable [PCMFlow]

/-- What a call takes. -/
def takes (s : RtpSender) (call : Call) : List RtpItem :=
  (s.accepted call).map .frame ++ (s.attempts call).map .payload

/-- The frames that a call throws away. -/
def discards (s : RtpSender) : Call → List AudioFrame
  | .begin _ _ _ => s.framesPending
  | .end_ => s.framesPending
  | .setPayloadType pt clockRate => if (s.setPayloadType pt clockRate).1 then s.framesPending else []
  | .setFormat fmt => if (s.setFormat fmt).1 then s.framesPending else []
  | _ => []

/-- What becomes of the items of a call that leads to `s'`: the packets are those that it added to the attempts
of the UDP object. -/
def fatesOf (s s' : RtpSender) (call : Call) : List RtpFate :=
  (s.emissions call).map (fun e => .audio e.nextPacket e.framesPending)
    ++ (List.zip (s'.offered.drop s.offered.length) (s.attempts call)).map (fun p => .data p.1 p.2)
    ++ [.discarded (s.discards call)]

/-- From `s` to `s'` a call kept the books. -/
structure Books (s s' : RtpSender) (call : Call) : Prop where
  offered : (s.fatesOf s' call).filterMap RtpFate.packet = s'.offered.drop s.offered.length
  kept : s.offered <+: s'.offered
  balance : (s.fatesOf s' call).flatMap RtpFate.items ++ s'.framesPending.map .frame
    = s.framesPending.map .frame ++ s.takes call
  heard : ∀ fate ∈ s.fatesOf s' call, fate.Heard

/-- A call that offers nothing and takes nothing. -/
theorem Books.of_silent {s s' : RtpSender} {call : Call} (hemissions : s.emissions call = [])
    (hattempts : s.attempts call = []) (haccepted : s.accepted call = []) (hoffered : s'.offered = s.offered)
    (hpending : s.discards call ++ s'.framesPending = s.framesPending) : Books s s' call where
  offered := by simp [fatesOf, hemissions, hattempts, hoffered, RtpFate.packet]
  kept := by rw [hoffered]
  balance := by
    rw [takes, haccepted, hattempts, ← hpending]
    simp [fatesOf, hemissions, hattempts, RtpFate.items]
  heard := by simp [fatesOf, hemissions, hattempts, RtpFate.Heard]

/-- A call that throws everything pending away. -/
theorem Books.of_discard {s s' : RtpSender} {call : Call} (hemissions : s.emissions call = [])
    (hattempts : s.attempts call = []) (haccepted : s.accepted call = []) (hoffered : s'.offered = s.offered)
    (hdiscards : s.discards call = s.framesPending) (hzero : s'.pendingFrames = 0) : Books s s' call :=
  Books.of_silent hemissions hattempts haccepted hoffered
    (by rw [framesPending_eq_nil hzero, List.append_nil, hdiscards])

/-- A call that emits. -/
theorem Books.of_offers {s s' : RtpSender} {call : Call} (hattempts : s.attempts call = [])
    (hdiscards : s.discards call = []) (ho : Offers s (s.emissions call) (s.accepted call) s') :
    Books s s' call where
  offered := by
    rw [fatesOf, hattempts, ho.offered, List.drop_left]
    simp [List.filterMap_map, Function.comp_def, RtpFate.packet]
  kept := by
    rw [ho.offered]
    exact List.prefix_append _ _
  balance := by
    rw [takes, hattempts, List.map_nil, List.append_nil, ← List.map_append, ← ho.frames]
    simp [fatesOf, hattempts, hdiscards, RtpFate.items, List.flatMap_def, Function.comp_def]
  heard := by
    intro fate hfate
    rw [fatesOf, hattempts, hdiscards, List.zip_nil_right, List.map_nil, List.append_nil] at hfate
    rcases List.mem_append.mp hfate with hemitted | hlast
    · obtain ⟨e, he, rfl⟩ := List.mem_map.mp hemitted
      exact (ho.emitting e he).2.heard
    · obtain rfl := List.mem_singleton.mp hlast
      trivial

/-- `setPayloadType` keeps the books. -/
theorem setPayloadType_books (s : RtpSender) (pt : UInt8) (clockRate : UInt32) :
    Books s (s.setPayloadType pt clockRate).2 (.setPayloadType pt clockRate) := by
  by_cases hrejected : pt > 0x7F ∨ clockRate = 0
  · have heq : s.setPayloadType pt clockRate = (false, { s with error := .unsupportedFormat }) :=
      if_pos hrejected
    refine Books.of_silent rfl rfl rfl (by rw [heq]; rfl) ?_
    rw [discards, heq]
    rfl
  · have hkeeps : (s.setPayloadType pt clockRate).1 = true ∧
        (s.setPayloadType pt clockRate).2.offered = s.offered ∧
        (s.setPayloadType pt clockRate).2.pendingFrames = 0 := by
      rw [setPayloadType, if_neg hrejected]
      exact ⟨rfl, rfl, rfl⟩
    exact Books.of_discard rfl rfl rfl hkeeps.2.1 (if_pos hkeeps.1) hkeeps.2.2

/-- So does `setFormat`. -/
theorem setFormat_books (s : RtpSender) (fmt : PCMFormat) : Books s (s.setFormat fmt).2 (.setFormat fmt) := by
  rcases s.setFormat_cases fmt with ⟨error, heq⟩ | ⟨hvalid, hbits⟩
  · refine Books.of_silent rfl rfl rfl (by rw [heq]; rfl) ?_
    rw [discards, heq]
    rfl
  · obtain ⟨hok, -, -, hpending, -, hudp, -⟩ := s.setFormat_spec hvalid hbits
    exact Books.of_discard rfl rfl rfl (by rw [offered, hudp]; rfl) (if_pos hok) hpending

/-- So does `writeEncoded`, if nothing is pending. -/
theorem writeEncoded_books {s : RtpSender} (h : s.WF) (bytes : Option (List UInt8)) (count : ℕ)
    (hpending : s.pendingFrames = 0) : Books s (s.writeEncoded bytes count).2 (.writeEncoded bytes count) := by
  have hzero : s.framesPending = [] := framesPending_eq_nil hpending
  rcases writeEncoded_offers h bytes count with ⟨hnone, error, heq⟩ |
    ⟨payload, packet, hone, hheard, hoffered, hkept⟩
  · refine Books.of_silent rfl hnone rfl (by rw [heq]; rfl) ?_
    rw [heq]
    rfl
  · have hzero' : (s.writeEncoded bytes count).2.framesPending = [] :=
      framesPending_eq_nil (hkept.trans hpending)
    have hfates : s.fatesOf (s.writeEncoded bytes count).2 (.writeEncoded bytes count)
        = [.data packet payload, .discarded []] := by
      rw [fatesOf, hone, hoffered, List.drop_left]
      rfl
    constructor
    · rw [hfates, hoffered, List.drop_left]
      rfl
    · rw [hoffered]
      exact List.prefix_append _ _
    · rw [hfates, hzero, hzero', takes, hone]
      rfl
    · rw [hfates]
      intro fate hfate
      rcases List.mem_cons.mp hfate with rfl | hlast
      · exact hheard
      · obtain rfl := List.mem_singleton.mp hlast
        trivial

/-- **One call** keeps the books, if nothing is pending when a payload is sent. -/
theorem step_books {s s' : RtpSender} (h : s.WF) {call : Call} (hapart : s.Apart call)
    (hstep : step s call = some s') : Books s s' call := by
  cases call with
  | writeFrames src frameCount =>
    obtain ⟨n, s₁, heq, hoffers⟩ := writeFrames_emissions h src frameCount
    rw [step, heq] at hstep
    obtain rfl := Option.some.inj hstep
    exact Books.of_offers rfl rfl hoffers
  | begin destPort ssrc rnd =>
    obtain rfl := Option.some.inj hstep
    exact Books.of_discard rfl rfl rfl rfl rfl rfl
  | end_ =>
    obtain rfl := Option.some.inj hstep
    exact Books.of_discard rfl rfl rfl rfl rfl rfl
  | setPayloadType pt clockRate => exact Option.some.inj hstep ▸ s.setPayloadType_books pt clockRate
  | setFormat fmt => exact Option.some.inj hstep ▸ s.setFormat_books fmt
  | writeEncoded bytes count => exact Option.some.inj hstep ▸ writeEncoded_books h bytes count (hapart rfl)
  | flush =>
    obtain rfl := Option.some.inj hstep
    exact Books.of_offers rfl rfl (flush_emissions h)
  | _ =>
    -- the other setters touch nothing that is sent or pending
    obtain rfl := Option.some.inj hstep
    exact Books.of_silent rfl rfl rfl rfl rfl

end Calls

end RtpSender

/-! ## Runs -/

/-- A sender with the books about what it took. -/
structure RtpAccount where
  sender : RtpSender
  /-- What it took from its caller. -/
  taken : List RtpItem := []
  /-- What became of that. -/
  fates : List RtpFate := []

namespace RtpAccount

variable [PCMFlow]

/-- One call. -/
def step (l : RtpAccount) (call : RtpSender.Call) : Option RtpAccount :=
  (l.sender.step call).map fun sender =>
    { sender, taken := l.taken ++ l.sender.takes call, fates := l.fates ++ l.sender.fatesOf sender call }

/-- What holds after every run in which payloads are sent apart from pending frames. -/
structure Inv (l : RtpAccount) : Prop where
  wf : l.sender.WF
  balance : l.taken = l.fates.flatMap RtpFate.items ++ l.sender.framesPending.map .frame
  packets : l.fates.filterMap RtpFate.packet = l.sender.offered
  heard : ∀ fate ∈ l.fates, fate.Heard

omit [PCMFlow] in
/-- A new sender keeps the books. -/
theorem inv_new (script : ℕ → UdpTx) : ({ sender := RtpSender.new script } : RtpAccount).Inv where
  wf := RtpSender.wf_new script
  balance := by rw [RtpSender.framesPending_eq_nil (s := RtpSender.new script) rfl]; rfl
  packets := rfl
  heard _ hfate := absurd hfate List.not_mem_nil

/-- **One call.** It completes, and the books stay balanced. -/
theorem Inv.step {l : RtpAccount} (h : l.Inv) {call : RtpSender.Call} (hapart : l.sender.Apart call) :
    ∃ l', l.step call = some l' ∧ l'.Inv := by
  obtain ⟨s', hstep, hwf⟩ := RtpSender.wf_step h.wf call
  have hbooks := RtpSender.step_books h.wf hapart hstep
  refine ⟨_, by rw [RtpAccount.step, hstep]; rfl, hwf, ?_, ?_, ?_⟩
  · show l.taken ++ _ = List.flatMap _ (_ ++ _) ++ _
    rw [h.balance, List.flatMap_append, List.append_assoc, List.append_assoc, hbooks.balance]
  · obtain ⟨more, hmore⟩ := hbooks.kept
    show List.filterMap _ (_ ++ _) = _
    rw [List.filterMap_append, h.packets, hbooks.offered, ← hmore, List.drop_left]
  · intro fate hfate
    rcases List.mem_append.mp hfate with hold | hnew
    · exact h.heard fate hold
    · exact hbooks.heard fate hnew

/-- The books leave the sender alone. -/
theorem run_sender (l : RtpAccount) (calls : List RtpSender.Call) :
    (run RtpAccount.step l calls).map RtpAccount.sender = run RtpSender.step l.sender calls := by
  refine run_map (fun l call => ?_) l calls
  rw [RtpAccount.step, Option.map_map]
  exact Option.map_id'

end RtpAccount

/-- **A sender talks, Python listens.** Take any run of an `RtpSender` from construction, on both paths,
whatever the calls and whatever becomes of the sends, in which no frames are pending when a payload is sent. The
frames that `writeFrames` accepts and the payloads that `writeEncoded` tries to send are, in order, those in the
packets offered, those thrown away and those still pending; and Python reads every packet offered: a header
without CSRCs and extension, and behind it the samples of the frames, or the payload, and nothing else. -/
theorem rtp_dut_to_python [PCMFlow] (script : ℕ → UdpTx) {calls : List RtpSender.Call}
    (hapart : Admissible RtpAccount.step (fun l call => l.sender.Apart call)
      { sender := RtpSender.new script } calls) :
    ∃ l : RtpAccount, run RtpAccount.step { sender := RtpSender.new script } calls = some l ∧
      run RtpSender.step (RtpSender.new script) calls = some l.sender ∧
      l.taken = l.fates.flatMap RtpFate.items ++ l.sender.framesPending.map .frame ∧
      l.fates.filterMap RtpFate.packet = l.sender.offered ∧
      ∀ fate ∈ l.fates, fate.Heard := by
  obtain ⟨l, hrun, hinv⟩ := run_total (fun l call hl hcall => RtpAccount.Inv.step hl hcall)
    (RtpAccount.inv_new script) hapart
  have hsender := RtpAccount.run_sender { sender := RtpSender.new script } calls
  rw [hrun] at hsender
  exact ⟨l, hrun, hsender.symm, hinv.balance, hinv.packets, hinv.heard⟩

/-- A packet of each path, a frame that is thrown away, and one that is pending. -/
def bothPaths : List RtpSender.Call :=
  [.begin 5004 1 ⟨2, 3, 4⟩, .setFormat ⟨50, 1, 16⟩, .writeFrames (some [1, 0, 2, 0]) 2, .setPayloadType 96 8000,
    .writeEncoded (some [9, 8]) 2, .setFormat ⟨100, 2, 16⟩, .writeFrames (some [3, 0, 4, 0]) 1, .end_,
    .begin 5004 1 ⟨2, 3, 4⟩, .writeFrames (some [5, 0, 6, 0]) 1]

/-- They are all in the books. -/
theorem rtp_dut_to_python_both :
    ((run (@RtpAccount.step PCMFlow.documented) { sender := RtpSender.new fun _ => {} } bothPaths).map
        RtpAccount.taken)
      = some [.frame ⟨1, [1]⟩, .frame ⟨1, [2]⟩, .payload [9, 8], .frame ⟨2, [3, 4]⟩, .frame ⟨2, [5, 6]⟩] ∧
    ∃ l : RtpAccount, run (@RtpAccount.step PCMFlow.documented) { sender := RtpSender.new fun _ => {} } bothPaths
        = some l ∧
      run (@RtpSender.step PCMFlow.documented) (RtpSender.new fun _ => {}) bothPaths = some l.sender ∧
      l.taken = l.fates.flatMap RtpFate.items ++ l.sender.framesPending.map .frame ∧
      l.fates.filterMap RtpFate.packet = l.sender.offered ∧
      ∀ fate ∈ l.fates, fate.Heard :=
  ⟨by decide +kernel, @rtp_dut_to_python PCMFlow.documented (fun _ => {}) bothPaths (by decide +kernel)⟩

/-! ## Packets that Python builds -/

namespace NetHelpers

open Python

/-- **A header that Python encodes** is one of the C++ structure: it has the payload type that Python was given,
and the low bits of the other fields. -/
theorem encodeRtpHeader_ok {hp : RtpHeader} {head : List UInt8} (h : encodeRtpHeader hp = .ok head) :
    ∃ hd : PcmFlowUdp.RtpHeader, hd.payloadType ≤ 0x7F ∧ hd.payloadType = UInt8.ofNat hp.payloadType.toNat ∧
      head = PcmFlowUdp.rtpHeaderBytes hd := by
  have hfit : 0 ≤ hp.payloadType ∧ hp.payloadType ≤ 127 := by
    by_contra hbad
    have hraise := (encodeRtpHeader_raises_iff hp _).mpr ⟨hbad, rfl⟩
    rw [h] at hraise
    cases hraise
  have hseq := land_mask_bounds hp.sequenceNumber 16
  have hts := land_mask_bounds hp.timestamp 32
  have hssrc := land_mask_bounds hp.ssrc 32
  -- masking what is masked changes nothing
  have hidem : ∀ (x : ℤ) (w : ℕ), Int.land (Int.land x ((2 ^ w - 1 : ℕ) : ℤ)) ((2 ^ w - 1 : ℕ) : ℤ)
      = Int.land x ((2 ^ w - 1 : ℕ) : ℤ) := by
    intro x w
    obtain ⟨hlow, hhigh⟩ := land_mask_bounds x w
    obtain ⟨n, hn⟩ := Int.eq_ofNat_of_zero_le hlow
    rw [hn] at hhigh ⊢
    exact land_mask_of_lt (by exact_mod_cast hhigh)
  obtain ⟨hd, hdenotes⟩ := (inWireRange_iff
    { hp with
      sequenceNumber := Int.land hp.sequenceNumber ((2 ^ 16 - 1 : ℕ) : ℤ)
      timestamp := Int.land hp.timestamp ((2 ^ 32 - 1 : ℕ) : ℤ)
      ssrc := Int.land hp.ssrc ((2 ^ 32 - 1 : ℕ) : ℤ) }).mp ⟨⟨hfit.1, by dsimp only; omega⟩, hseq, hts, hssrc⟩
  have hpt : hp.payloadType = hd.payloadType.toNat := hdenotes.payloadType
  have hle : hd.payloadType ≤ 0x7F := UInt8.le_iff_toNat_le.mpr (show hd.payloadType.toNat ≤ 127 by omega)
  refine ⟨hd, hle, ?_, ?_⟩
  · rw [hpt, Int.toNat_natCast, UInt8.ofNat_toNat]
  · have hsame := encodeRtpHeader_eq hdenotes hle
    have hmasks : encodeRtpHeader
        { hp with
          sequenceNumber := Int.land hp.sequenceNumber ((2 ^ 16 - 1 : ℕ) : ℤ)
          timestamp := Int.land hp.timestamp ((2 ^ 32 - 1 : ℕ) : ℤ)
          ssrc := Int.land hp.ssrc ((2 ^ 32 - 1 : ℕ) : ℤ) } = encodeRtpHeader hp := by
      have h16 := hidem hp.sequenceNumber 16
      have h32 := hidem hp.timestamp 32
      have h32' := hidem hp.ssrc 32
      norm_num at h16 h32 h32'
      simp only [encodeRtpHeader]
      norm_num [h16, h32, h32']
    rw [hmasks, h] at hsame
    exact Except.ok.inj hsame

/-- A packet that is built is an encoded header and the payload. -/
theorem buildPacket_ok {hp : RtpHeader} {payload d : List UInt8} (h : buildPacket hp payload = .ok d) :
    ∃ hd : PcmFlowUdp.RtpHeader, hd.payloadType ≤ 0x7F ∧ hd.payloadType = UInt8.ofNat hp.payloadType.toNat ∧
      d = PcmFlowUdp.rtpHeaderBytes hd ++ payload := by
  rw [buildPacket] at h
  cases hencode : encodeRtpHeader hp with
  | error e =>
    rw [hencode] at h
    cases h
  | ok head =>
    rw [hencode] at h
    obtain ⟨hd, hle, hpt, rfl⟩ := encodeRtpHeader_ok hencode
    exact ⟨hd, hle, hpt, (Except.ok.inj h).symm⟩

/-- An L16 packet that is built has shorts for a payload. -/
theorem announce_ok {hp : RtpHeader} {samples : List ℤ} {d : List UInt8} (h : announce hp samples = .ok d) :
    ∃ xs : List Int16, samples = xs.map Int16.toInt ∧ buildPacket hp (xs.flatMap netSample) = .ok d := by
  rw [announce, pcmToBeBytes] at h
  cases hpack : packShorts .big samples with
  | none =>
    rw [hpack] at h
    cases h
  | some pcm =>
    obtain ⟨xs, rfl⟩ := (packShorts_isSome_iff .big samples).mp ⟨pcm, hpack⟩
    rw [hpack] at h
    rw [packShorts_map] at hpack
    obtain rfl := Option.some.inj hpack
    exact ⟨xs, rfl, h⟩

end NetHelpers

/-! ## From Python to the library -/

/-- What happens at a receiver that Python sends to. -/
inductive RtpPythonOp
  /-- Python builds a packet from samples and sends it, and the receiver polls; if building it raises, nothing is
  sent. -/
  | sendAudio (header : NetHelpers.RtpHeader) (samples : List ℤ)
  /-- The same with a packet built from a payload. -/
  | sendData (header : NetHelpers.RtpHeader) (payload : List UInt8)
  /-- The receiver polls a datagram of someone else. -/
  | other (d : List UInt8)
  /-- `readFrames` into an array of `int16_t`. -/
  | readFrames (frameCount : ℕ)
  /-- `readEncoded`. -/
  | readEncoded (maxBytes : ℕ)

/-- What comes of it. -/
inductive RtpPythonAnswer
  | raised (e : NetHelpers.PyError)
  | polled (ok : Bool)
  | samples (values : List ℤ)
  | payload (bytes : List UInt8)

namespace RtpPythonAnswer

/-- The samples that were read. -/
def values : RtpPythonAnswer → List ℤ
  | .samples values => values
  | _ => []

/-- The payload that was read, if there was one. -/
def payloads : RtpPythonAnswer → List (List UInt8)
  | .payload bytes => if bytes = [] then [] else [bytes]
  | _ => []

end RtpPythonAnswer

namespace RtpPythonOp

/-- The samples that were sent. -/
def sentValues : RtpPythonOp → List ℤ
  | .sendAudio hp samples =>
      match NetHelpers.announce hp samples with
      | .ok _ => samples
      | .error _ => []
  | _ => []

/-- The payload that was sent. -/
def sentPayloads : RtpPythonOp → List (List UInt8)
  | .sendData hp payload =>
      match NetHelpers.buildPacket hp payload with
      | .ok _ => [payload]
      | .error _ => []
  | _ => []

/-- A packet that is built is accepted. -/
def Accepts : RtpPythonOp → RtpPythonAnswer → Prop
  | .sendAudio _ _, answer => answer ≠ .polled false
  | .sendData _ _, answer => answer ≠ .polled false
  | _, _ => True

/-- Python sends whole frames of `channels` channels under L16 types and payloads under others, as much as fits a
packet; others send nothing that is an RTP packet. -/
def Fits (r : RtpReceiver) (channels : UInt8) : RtpPythonOp → Prop
  | .sendAudio hp samples =>
      r.treatsAsL16 (UInt8.ofNat hp.payloadType.toNat) = true ∧
        r.l16Channels (UInt8.ofNat hp.payloadType.toNat) = channels ∧ channels.toNat ∣ samples.length ∧
        samples.length * 2 ≤ kRtpMaxPayloadBytes
  | .sendData hp payload =>
      r.treatsAsL16 (UInt8.ofNat hp.payloadType.toNat) = false ∧ payload ≠ [] ∧
        payload.length ≤ kRtpMaxPayloadBytes
  | .other d => RtpReceiver.headerOf d = none
  | _ => True

instance (r : RtpReceiver) (channels : UInt8) (op : RtpPythonOp) : Decidable (op.Fits r channels) := by
  unfold Fits
  split <;> infer_instance

end RtpPythonOp

namespace RtpReceiver

variable [PCMFlow]

/-- The call and what comes of it. -/
def hear (s : RtpReceiver × RtpPollMemory) (op : RtpPythonOp) : RtpPythonAnswer × RtpReceiver × RtpPollMemory :=
  let polled (d : List UInt8) : RtpPythonAnswer × RtpReceiver × RtpPollMemory :=
    let (ok, s') := s.1.poll s.2 (Inbound.ofDatagram d)
    (.polled ok, s')
  match op with
  | .sendAudio hp samples =>
      match NetHelpers.announce hp samples with
      | .error e => (.raised e, s)
      | .ok d => polled d
  | .sendData hp payload =>
      match NetHelpers.buildPacket hp payload with
      | .error e => (.raised e, s)
      | .ok d => polled d
  | .other d => polled d
  | .readFrames frameCount =>
      let (_, out, r) := s.1.readFrames true frameCount
      (.samples ((hostSamples out).map Int16.toInt), r, s.2)
  | .readEncoded maxBytes =>
      let (_, out, r) := s.1.readEncoded true maxBytes
      (.payload out, r, s.2)

omit [PCMFlow] in
/-- The values of the samples queued. -/
def queuedValues (r : RtpReceiver) : List ℤ := (hostSamples r.queue.contents).map Int16.toInt

omit [PCMFlow] in
/-- The payload held, if any. -/
def heldPayloads (r : RtpReceiver) : List (List UInt8) :=
  if r.hasEncoded then [r.encoded.slice 0 r.encodedBytes] else []

omit [PCMFlow] in
/-- There is room in the ring for the samples that are sent. -/
def RoomInRing (s : RtpReceiver × RtpPollMemory) (op : RtpPythonOp) : Prop :=
  (s.1.queuedValues ++ op.sentValues).length * 2 ≤ s.1.queue.cap

omit [PCMFlow] in
/-- No payload is held when one is sent. -/
def RoomInHold (s : RtpReceiver × RtpPollMemory) (op : RtpPythonOp) : Prop :=
  op.sentPayloads ≠ [] → s.1.hasEncoded = false

section Views

variable {r₀ r : RtpReceiver} {channels : UInt8} {q : RtpInbox}

omit [PCMFlow]

/-- What is queued are the samples of the inbox. -/
theorem Refines.queuedValues_eq (h : Refines r₀ channels r q) : r.queuedValues = pcmValues q.frames := by
  obtain ⟨fs, hcont, hframes⟩ := h.contents
  rw [queuedValues, hcont, hostSamples_hostImage, hframes, pcmValues_eq]

/-- What is held is the payload of the inbox. -/
theorem Holds.heldPayloads_eq {held : Option (List UInt8)} (h : r.Holds held) :
    r.heldPayloads = held.toList := by
  rw [heldPayloads, h.hasEncoded]
  cases held with
  | none => rfl
  | some payload =>
    obtain ⟨-, hbytes, hslice⟩ := h
    rw [hbytes, hslice]
    rfl

end Views

/-- The receiver holds what an inbox holds, which is no empty payload. -/
structure HearsRtp (r₀ : RtpReceiver) (channels : UInt8) (r : RtpReceiver) (q : RtpInbox) : Prop where
  refines : Refines r₀ channels r q
  held : ∀ payload ∈ q.held, payload ≠ []

/-- What one step does for a receiver that holds what `q` holds. A packet that was sent is accepted; the samples
queued and sent are those returned and those queued then, unless the ring has no room for them; the payload held
and the one sent are the one returned and the one held then, unless one is sent while another is held. -/
def Listens (r₀ : RtpReceiver) (channels : UInt8) (s : RtpReceiver × RtpPollMemory) (q : RtpInbox)
    (op : RtpPythonOp) :
    Prop :=
  ∃ q', HearsRtp r₀ channels (hear s op).2.1 q' ∧ op.Accepts (hear s op).1 ∧
    (List.Sublist ((hear s op).1.values ++ pcmValues q'.frames) (pcmValues q.frames ++ op.sentValues) ∧
      ((pcmValues q.frames ++ op.sentValues).length * 2 ≤ r₀.queue.cap →
        (hear s op).1.values ++ pcmValues q'.frames = pcmValues q.frames ++ op.sentValues)) ∧
    List.Sublist ((hear s op).1.payloads ++ q'.held.toList) (q.held.toList ++ op.sentPayloads) ∧
      ((op.sentPayloads ≠ [] → q.held = none) →
        (hear s op).1.payloads ++ q'.held.toList = q.held.toList ++ op.sentPayloads)

section Steps

variable {r₀ r : RtpReceiver} {channels : UInt8} {q : RtpInbox} (h : HearsRtp r₀ channels r q)
    (mem : RtpPollMemory)
  (hc : 0 < channels.toNat) (hcap : channels.toNat * 2 ∣ r₀.queue.cap)

include h hc hcap

/-- **An L16 packet** of whole frames is accepted and queues its samples; if the ring has no room for them, the
oldest go. -/
theorem HearsRtp.pollAudio {hd : RtpHeader} (hle : hd.payloadType ≤ 0x7F) {xs : List Int16}
    (hl16 : r₀.treatsAsL16 hd.payloadType = true) (hch : r₀.l16Channels hd.payloadType = channels)
    (hdvd : channels.toNat ∣ xs.length) (hmax : xs.length * 2 ≤ kRtpMaxPayloadBytes) :
    let polled := r.poll mem (Inbound.ofDatagram (rtpHeaderBytes hd ++ xs.flatMap netSample))
    polled.1 = true ∧ ∃ q', HearsRtp r₀ channels polled.2.1 q' ∧ q'.held = q.held ∧
      List.Sublist (pcmValues q'.frames) (pcmValues q.frames ++ xs.map Int16.toInt) ∧
      ((pcmValues q.frames ++ xs.map Int16.toInt).length * 2 ≤ r₀.queue.cap →
        pcmValues q'.frames = pcmValues q.frames ++ xs.map Int16.toInt) := by
  intro polled
  have hbytes : (xs.flatMap netSample).length = xs.length * 2 :=
    length_flatMap_uniform (show ∀ x, (netSample x).length = 2 from fun _ => rfl) xs
  obtain ⟨hheader, hbehind⟩ := headerOf_encoded hle (xs.flatMap netSample)
  rw [List.take_of_length_le (hbytes ▸ hmax)] at hbehind
  have hchannels : r₀.OfChannels channels (.poll (rtpHeaderBytes hd ++ xs.flatMap netSample)) := by
    intro k hk _
    rw [hheader] at hk
    obtain rfl := Option.some.inj hk
    exact hch
  obtain ⟨hok, hrest⟩ := h.refines.poll hc hcap mem hchannels
  -- the whole frames of the payload are those of the shorts
  have hwhole : wholeL16 channels.toNat (xs.flatMap netSample)
      = hostFrames channels.toNat (xs.flatMap hostSample) := by
    have hall : wholeFrames (channels.toNat * 2) (xs.flatMap netSample) = xs.flatMap netSample := by
      have hmod : (xs.flatMap netSample).length % (channels.toNat * 2) = 0 := by
        rw [hbytes]
        exact Nat.mod_eq_zero_of_dvd (Nat.mul_dvd_mul_right hdvd 2)
      rw [wholeFrames, hmod, Nat.sub_zero, List.take_length]
    rw [wholeL16, hall, netFrames, ← swapPairs_flatMap_hostSample, swapPairs_swapPairs]
  have hanswer : (q.answer (r₀.inboxSetup channels) (.poll (rtpHeaderBytes hd ++ xs.flatMap netSample))).2
      = q.queueL16 (r₀.inboxSetup channels) (xs.flatMap netSample) := by
    rw [RtpInbox.answer, hheader]
    dsimp only
    rw [hbehind, if_pos (show (r₀.inboxSetup channels).isL16 hd.emitted.payloadType = true from hl16)]
  rw [hanswer] at hrest
  have hnew : (q.queueL16 (r₀.inboxSetup channels) (xs.flatMap netSample)).frames
      = keepLast (r₀.queue.cap / (channels.toNat * 2))
          (q.frames ++ (hostFrames channels.toNat (xs.flatMap hostSample)).map audio) := by
    rw [← hwhole]
    rfl
  -- what is queued is of as many channels
  obtain ⟨fs, -, hframes⟩ := h.refines.contents
  have hsize : (pcmValues (q.frames ++ (hostFrames channels.toNat (xs.flatMap hostSample)).map audio)).length
      = (q.frames ++ (hostFrames channels.toNat (xs.flatMap hostSample)).map audio).length * channels.toNat := by
    rw [hframes, ← List.map_append, length_pcmValues, List.length_map]
  obtain ⟨hsub, hexact⟩ := pcmValues_keepLast hc hsize
  rw [← hnew, pcmValues_append, pcmValues_hostFrames hc hdvd] at hsub hexact
  exact ⟨by rw [hok, hheader]; rfl, _, ⟨hrest, h.held⟩, rfl, hsub, hexact⟩

/-- **A data packet** is accepted, and its payload is held in place of what was. -/
theorem HearsRtp.pollData {hd : RtpHeader} (hle : hd.payloadType ≤ 0x7F) {payload : List UInt8}
    (hdata : r₀.treatsAsL16 hd.payloadType = false) (hne : payload ≠ [])
    (hmax : payload.length ≤ kRtpMaxPayloadBytes) :
    let polled := r.poll mem (Inbound.ofDatagram (rtpHeaderBytes hd ++ payload))
    polled.1 = true ∧ HearsRtp r₀ channels polled.2.1 { q with held := some payload } := by
  intro polled
  obtain ⟨hheader, hbehind⟩ := headerOf_encoded hle payload
  rw [List.take_of_length_le hmax] at hbehind
  have hchannels : r₀.OfChannels channels (.poll (rtpHeaderBytes hd ++ payload)) := by
    intro k hk hl16
    rw [hheader] at hk
    obtain rfl := Option.some.inj hk
    rw [show hd.emitted.payloadType = hd.payloadType from rfl, hdata] at hl16
    cases hl16
  obtain ⟨hok, hrest⟩ := h.refines.poll hc hcap mem hchannels
  have hanswer : (q.answer (r₀.inboxSetup channels) (.poll (rtpHeaderBytes hd ++ payload))).2
      = { q with held := some payload } := by
    rw [RtpInbox.answer, hheader]
    dsimp only
    have hdata' : (r₀.inboxSetup channels).isL16 hd.emitted.payloadType = false := hdata
    rw [hbehind, hdata', if_neg Bool.false_ne_true]
  rw [hanswer] at hrest
  refine ⟨by rw [hok, hheader]; rfl, hrest, fun p hp => ?_⟩
  obtain rfl := Option.some.inj hp
  exact hne

/-- **What is no RTP packet** changes nothing. -/
theorem HearsRtp.pollOther {d : List UInt8} (hd : headerOf d = none) :
    HearsRtp r₀ channels (r.poll mem (Inbound.ofDatagram d)).2.1 q := by
  have hchannels : r₀.OfChannels channels (.poll d) := by
    intro k hk
    rw [hd] at hk
    cases hk
  have hrest := (h.refines.poll hc hcap mem hchannels).2
  rw [RtpInbox.answer, hd] at hrest
  exact ⟨hrest, h.held⟩

/-- Python sends audio, or fails to build the packet and sends nothing. -/
theorem HearsRtp.sendAudio {hp : NetHelpers.RtpHeader} {samples : List ℤ}
    (hfits : (RtpPythonOp.sendAudio hp samples).Fits r₀ channels) :
    Listens r₀ channels (r, mem) q (.sendAudio hp samples) := by
  cases hbuilt : NetHelpers.announce hp samples with
  | error e =>
    have hhear : hear (r, mem) (.sendAudio hp samples) = (.raised e, r, mem) := by simp only [hear, hbuilt]
    have hsent : (RtpPythonOp.sendAudio hp samples).sentValues = [] := by rw [RtpPythonOp.sentValues, hbuilt]
    rw [Listens, hhear, hsent]
    exact ⟨q, h, RtpPythonAnswer.noConfusion, by simp [RtpPythonAnswer.values],
      by simp [RtpPythonAnswer.payloads, RtpPythonOp.sentPayloads]⟩
  | ok d =>
    have hsent : (RtpPythonOp.sendAudio hp samples).sentValues = samples := by
      rw [RtpPythonOp.sentValues, hbuilt]
    obtain ⟨xs, rfl, hpacket⟩ := NetHelpers.announce_ok hbuilt
    obtain ⟨hd, hle, hpt, rfl⟩ := NetHelpers.buildPacket_ok hpacket
    obtain ⟨hl16, hch, hdvd, hmax⟩ := hfits
    rw [List.length_map] at hdvd hmax
    obtain ⟨hok, q', hrest, hheld, hflow⟩ := h.pollAudio mem hc hcap hle (hpt ▸ hl16) (hpt ▸ hch) hdvd hmax
    have hhear : hear (r, mem) (.sendAudio hp (xs.map Int16.toInt))
        = (.polled true, (r.poll mem (Inbound.ofDatagram (rtpHeaderBytes hd ++ xs.flatMap netSample))).2) := by
      simp only [hear, hbuilt, hok]
    rw [Listens, hhear, hsent]
    refine ⟨q', hrest, fun hfalse => (by cases hfalse), hflow, ?_⟩
    rw [hheld]
    simp [RtpPythonAnswer.payloads, RtpPythonOp.sentPayloads]

/-- Python sends a payload, or fails to build the packet and sends nothing. -/
theorem HearsRtp.sendData {hp : NetHelpers.RtpHeader} {payload : List UInt8}
    (hfits : (RtpPythonOp.sendData hp payload).Fits r₀ channels) :
    Listens r₀ channels (r, mem) q (.sendData hp payload) := by
  cases hbuilt : NetHelpers.buildPacket hp payload with
  | error e =>
    have hhear : hear (r, mem) (.sendData hp payload) = (.raised e, r, mem) := by simp only [hear, hbuilt]
    have hsent : (RtpPythonOp.sendData hp payload).sentPayloads = [] := by rw [RtpPythonOp.sentPayloads, hbuilt]
    rw [Listens, hhear, hsent]
    exact ⟨q, h, RtpPythonAnswer.noConfusion, by simp [RtpPythonAnswer.values, RtpPythonOp.sentValues],
      by simp [RtpPythonAnswer.payloads]⟩
  | ok d =>
    have hsent : (RtpPythonOp.sendData hp payload).sentPayloads = [payload] := by
      rw [RtpPythonOp.sentPayloads, hbuilt]
    obtain ⟨hd, hle, hpt, rfl⟩ := NetHelpers.buildPacket_ok hbuilt
    obtain ⟨hdata, hne, hmax⟩ := hfits
    obtain ⟨hok, hrest⟩ := h.pollData mem hc hcap hle (hpt ▸ hdata) hne hmax
    have hhear : hear (r, mem) (.sendData hp payload)
        = (.polled true, (r.poll mem (Inbound.ofDatagram (rtpHeaderBytes hd ++ payload))).2) := by
      simp only [hear, hbuilt, hok]
    rw [Listens, hhear, hsent]
    refine ⟨_, hrest, fun hfalse => (by cases hfalse),
      by simp [RtpPythonAnswer.values, RtpPythonOp.sentValues], ?_, fun hroom => ?_⟩
    · -- what was held is gone
      exact List.sublist_append_right _ _
    · rw [hroom (List.cons_ne_nil _ _)]
      rfl

/-- A datagram of someone else changes nothing. -/
theorem HearsRtp.other {d : List UInt8} (hd : headerOf d = none) :
    Listens r₀ channels (r, mem) q (.other d) := by
  have hhear : hear (r, mem) (.other d)
      = (.polled (r.poll mem (Inbound.ofDatagram d)).1, (r.poll mem (Inbound.ofDatagram d)).2) := rfl
  rw [Listens, hhear]
  exact ⟨q, h.pollOther mem hc hcap hd, trivial, by simp [RtpPythonAnswer.values, RtpPythonOp.sentValues],
    by simp [RtpPythonAnswer.payloads, RtpPythonOp.sentPayloads]⟩

/-- What is read is not queued any more. -/
theorem HearsRtp.readFrames (frameCount : ℕ) : Listens r₀ channels (r, mem) q (.readFrames frameCount) := by
  obtain ⟨queue, hread, hrest⟩ := h.refines.readFrames hc hcap true frameCount
  rw [if_pos rfl] at hread
  have hhear : hear (r, mem) (.readFrames frameCount)
      = (.samples (pcmValues (q.frames.take frameCount)), { r with queue }, mem) := by
    rw [← hostSamples_audio]
    simp only [hear, hread]
  have hvalues : (RtpPythonAnswer.samples (pcmValues (q.frames.take frameCount))).values
      ++ pcmValues (q.frames.drop frameCount) = pcmValues q.frames ++ [] := by
    have hall := pcmValues_append (q.frames.take frameCount) (q.frames.drop frameCount)
    rw [List.take_append_drop] at hall
    rw [List.append_nil, hall]
    rfl
  rw [Listens, hhear]
  exact ⟨_, ⟨hrest, h.held⟩, trivial, ⟨hvalues ▸ List.Sublist.refl _, fun _ => hvalues⟩,
    by simp [RtpPythonAnswer.payloads, RtpPythonOp.sentPayloads, RtpInbox.answer]⟩

omit hc hcap in
/-- What is read is not held any more. -/
theorem HearsRtp.readEncoded (maxBytes : ℕ) : Listens r₀ channels (r, mem) q (.readEncoded maxBytes) := by
  have hrest := (h.refines.readEncoded true maxBytes).2
  obtain ⟨r', hread, -, -⟩ := h.refines.hold.readEncoded true maxBytes
  have hhear : hear (r, mem) (.readEncoded maxBytes)
      = (.payload (takeHeld q.held true maxBytes).1, (r.readEncoded true maxBytes).2.2, mem) := by
    simp only [hear, hread]
  have hinbox : (q.answer (r₀.inboxSetup channels) (.readEncoded true maxBytes)).2
      = { q with held := (takeHeld q.held true maxBytes).2 } := rfl
  rw [hinbox] at hrest
  rw [Listens, hhear]
  -- what is held is returned or goes on being held
  have hpayloads : (RtpPythonAnswer.payload (takeHeld q.held true maxBytes).1).payloads
      ++ (takeHeld q.held true maxBytes).2.toList = q.held.toList ++ [] := by
    have hheld := h.held
    cases hq : q.held with
    | none => rfl
    | some payload =>
      rw [hq] at hheld
      have hne : payload ≠ [] := hheld payload rfl
      by_cases hroom : payload.length ≤ maxBytes <;> simp [takeHeld, hroom, RtpPythonAnswer.payloads, hne]
  refine ⟨_, ⟨hrest, fun payload hp => ?_⟩, trivial, by simp [RtpPythonAnswer.values, RtpPythonOp.sentValues],
    hpayloads ▸ List.Sublist.refl _, fun _ => hpayloads⟩
  have hmem : payload ∈ (takeHeld q.held true maxBytes).2.toList := Option.mem_toList.mpr hp
  refine h.held payload (Option.mem_toList.mp ?_)
  rw [List.append_nil] at hpayloads
  rw [← hpayloads]
  exact List.mem_append_right _ hmem

/-- **One step.** -/
theorem HearsRtp.step {op : RtpPythonOp} (hop : op.Fits r₀ channels) : Listens r₀ channels (r, mem) q op := by
  cases op with
  | sendAudio hp samples => exact h.sendAudio mem hc hcap hop
  | sendData hp payload => exact h.sendData mem hc hcap hop
  | other d => exact h.other mem hc hcap hop
  | readFrames frameCount => exact h.readFrames mem hc hcap frameCount
  | readEncoded maxBytes => exact h.readEncoded mem maxBytes

end Steps

/-- **Python sends, a receiver listens.** Bind a receiver in any state whose ring holds a whole number of frames
of `channels` channels, and let Python build packets for it, while others send what is no RTP packet: from whole
frames under types that the receiver reads as L16 with `channels` channels, and from payloads that are not empty
under types that it does not read as L16, in either case no more than 1440 octets; the numbers and the other
fields are any. Every packet that is built is accepted. The samples that were read and those queued are samples
that were sent, in that order, and all of them if there is room in the ring whenever some are sent; the payloads
that were read and the one held are payloads that were sent, in that order, and all of them if none is held
whenever one is sent. -/
theorem rtp_python_to_dut (r : RtpReceiver) (mem : RtpPollMemory) {channels : UInt8} (hc : channels ≠ 0)
    (hcap : channels.toNat * 2 ∣ r.queue.cap) {ops : List RtpPythonOp} (hops : ∀ op ∈ ops, op.Fits r channels) :
    let s := ((r.begin 1).2, mem)
    let values := (transcript hear s ops).flatMap fun e => e.2.values
    let payloads := (transcript hear s ops).flatMap fun e => e.2.payloads
    (∀ e ∈ transcript hear s ops, e.1.Accepts e.2) ∧
      (List.Sublist (values ++ (after hear s ops).1.queuedValues) (ops.flatMap RtpPythonOp.sentValues) ∧
        ((∀ past op, past ++ [op] <+: ops → RoomInRing (after hear s past) op) →
          values ++ (after hear s ops).1.queuedValues = ops.flatMap RtpPythonOp.sentValues)) ∧
      List.Sublist (payloads ++ (after hear s ops).1.heldPayloads) (ops.flatMap RtpPythonOp.sentPayloads) ∧
        ((∀ past op, past ++ [op] <+: ops → RoomInHold (after hear s past) op) →
          payloads ++ (after hear s ops).1.heldPayloads = ops.flatMap RtpPythonOp.sentPayloads) := by
  intro s values payloads
  -- `transcript_flow` runs the step lemma twice, once for the ring and once for the slot
  have hpos : 0 < channels.toNat := UInt8.lt_iff_toNat_lt.mp (UInt8.pos_iff_ne_zero.mpr hc)
  have hstart : HearsRtp r channels s.1 { format := r.format } :=
    ⟨refines_begin r channels, fun payload hp => (by cases hp)⟩
  have hqueued : s.1.queuedValues = [] := hstart.refines.queuedValues_eq
  have hheld : s.1.heldPayloads = [] := hstart.refines.hold.heldPayloads_eq
  obtain ⟨-, hgood, hring⟩ := transcript_flow (fun s => ∃ q, HearsRtp r channels s.1 q) RtpPythonOp.Accepts
    (fun s => s.1.queuedValues) RtpPythonOp.sentValues RtpPythonAnswer.values RoomInRing (fun s op hop hs => by
      obtain ⟨q, hq⟩ := hs
      obtain ⟨q', hrest, hok, hflow, -⟩ := hq.step s.2 hpos hcap hop
      rw [RoomInRing, hrest.refines.queuedValues_eq, hq.refines.queuedValues_eq, hq.refines.cap]
      exact ⟨⟨q', hrest⟩, hok, hflow⟩) ⟨_, hstart⟩ hops
  obtain ⟨-, -, hhold⟩ := transcript_flow (fun s => ∃ q, HearsRtp r channels s.1 q) RtpPythonOp.Accepts
    (fun s => s.1.heldPayloads) RtpPythonOp.sentPayloads RtpPythonAnswer.payloads RoomInHold
      (fun s op hop hs => by
        obtain ⟨q, hq⟩ := hs
        obtain ⟨q', hrest, hok, -, hflow, hexact⟩ := hq.step s.2 hpos hcap hop
        rw [hrest.refines.hold.heldPayloads_eq, hq.refines.hold.heldPayloads_eq]
        refine ⟨⟨q', hrest⟩, hok, hflow, fun hroom => hexact fun hne => ?_⟩
        have hnone := hroom hne
        rw [hq.refines.hold.hasEncoded] at hnone
        exact Option.isNone_iff_eq_none.mp (by simpa using hnone)) ⟨_, hstart⟩ hops
  rw [hqueued, List.nil_append] at hring
  rw [hheld, List.nil_append] at hhold
  exact ⟨hgood, hring, hhold⟩

/-- Two stereo frames, a payload that is read, a packet that is not built, and a frame and a payload that are not
read. -/
def pythonBoth : List RtpPythonOp :=
  [.sendAudio { payloadType := 10 } [1, -2, 3, 4],
    .sendData { payloadType := 96, sequenceNumber := 70000 } [9, 8], .readFrames 1, .readEncoded 9,
    .sendAudio { payloadType := 10 } [40000, 0], .other [0x80],
    .sendAudio { payloadType := 10, marker := true } [7, -32768], .readFrames 1,
    .sendData { payloadType := 0 } [7]]

omit [PCMFlow] in
/-- Nothing is lost. -/
theorem rtp_python_to_dut_both :
    let r : RtpReceiver := {}
    let s := ((r.begin 1).2, ({} : RtpPollMemory))
    let es := transcript (@hear PCMFlow.documented) s pythonBoth
    let values := es.flatMap fun e => e.2.values
    let payloads := es.flatMap fun e => e.2.payloads
    (values = [1, -2, 3, 4] ∧ payloads = [[9, 8]]) ∧
      (∀ e ∈ es, e.1.Accepts e.2) ∧
      (List.Sublist (values ++ (after (@hear PCMFlow.documented) s pythonBoth).1.queuedValues)
          (pythonBoth.flatMap RtpPythonOp.sentValues) ∧
        ((∀ past op, past ++ [op] <+: pythonBoth →
            RoomInRing (after (@hear PCMFlow.documented) s past) op) →
          values ++ (after (@hear PCMFlow.documented) s pythonBoth).1.queuedValues
            = pythonBoth.flatMap RtpPythonOp.sentValues)) ∧
      List.Sublist (payloads ++ (after (@hear PCMFlow.documented) s pythonBoth).1.heldPayloads)
          (pythonBoth.flatMap RtpPythonOp.sentPayloads) ∧
        ((∀ past op, past ++ [op] <+: pythonBoth →
            RoomInHold (after (@hear PCMFlow.documented) s past) op) →
          payloads ++ (after (@hear PCMFlow.documented) s pythonBoth).1.heldPayloads
            = pythonBoth.flatMap RtpPythonOp.sentPayloads) :=
  have hcap : ({} : RtpReceiver).queue.cap = kRtpQueueBytes := RingBuffer.cap_empty kRtpQueueBytes (by decide) 0
  ⟨by decide +kernel, @rtp_python_to_dut PCMFlow.documented {} {} 2 (by decide) (by rw [hcap]; decide) pythonBoth
    (by decide +kernel)⟩

end RtpReceiver

end PcmFlowUdp
