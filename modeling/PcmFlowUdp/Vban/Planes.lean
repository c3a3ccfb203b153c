import PcmFlowUdp.Restart
import PcmFlowUdp.Vban.Classification

/-! # The two planes of a `VbanReceiver`

Audio packets go into the ring, service packets to the callback, and `poll` reads both from one socket. An audio
listener reads frames and looks at the getters; the callback sees the packets that it is handed.

* `SameAudio`, `SameService` — receivers that are the same to one of them;
* **`vban_planes`** — what the audio listener sees is what it sees if nothing but VBAN audio arrives and no
  callback is ever set, and what the callback sees is what it sees if nothing but VBAN service packets arrives
  and nobody reads. -/

namespace PcmFlowUdp

open ByteTransport

namespace VbanReceiver

/-- The call is a poll that finds a packet of this sub-protocol. -/
def Call.delivers (sub : VbanSubProtocol) : Call → Bool
  | .poll io => (io.received kVbanMaxPacketBytes).any fun e => decide (SpeaksVban sub e)
  | _ => false

/-- Everything but the polls that find no audio packet, and the registrations of callbacks. -/
def Call.keepsAudio : Call → Bool
  | .poll io => (Call.poll io).delivers .audio
  | .setServiceCallback _ => false
  | _ => true

/-- Everything but the polls that find no service packet, and the reads. -/
def Call.keepsService : Call → Bool
  | .poll io => (Call.poll io).delivers .service
  | .readFrames _ _ => false
  | _ => true

/-- A call as the audio listener sees it: what it returns and what the getters show then. -/
def listen [PCMFlow] (s : VbanReceiver × VbanPollMemory) (c : Call) :
    (CallAnswer × VbanView) × VbanReceiver × VbanPollMemory :=
  ((s.1.returns s.2 c, (step s c).1.getters), step s c)

/-- A call as the service side sees it: what it returns and the packets that it hands to the callback. -/
def serve [PCMFlow] (s : VbanReceiver × VbanPollMemory) (c : Call) :
    (CallAnswer × List VbanServicePacket) × VbanReceiver × VbanPollMemory :=
  ((s.1.returns s.2 c, (step s c).1.served.drop s.1.served.length), step s c)

/-- The receivers are the same to the audio listener. -/
def SameAudio (r r' : VbanReceiver) : Prop :=
  ∃ serviceCb served, r' = { r with serviceCb, served }

/-- The receivers are the same to the callback. -/
structure SameService (r r' : VbanReceiver) : Prop where
  ready : r.ready = r'.ready
  serviceCb : r.serviceCb = r'.serviceCb

/-- A receiver is the same as itself. -/
theorem SameAudio.refl (r : VbanReceiver) : SameAudio r r := ⟨r.serviceCb, r.served, rfl⟩

/-- It makes no difference to whether they are bound. -/
theorem SameAudio.ready {r r' : VbanReceiver} (h : SameAudio r r') : r'.ready = r.ready := by
  obtain ⟨serviceCb, served, rfl⟩ := h
  rfl

/-! ## Receiving -/

section Receive

variable [PCMFlow] {r r' : VbanReceiver}

/-- Whatever is received, it does not change what the callback depends on. -/
theorem sameService_receive (r : VbanReceiver) (e : List UInt8) : SameService (r.receive e).2 r := by
  unfold receive
  split
  · exact ⟨rfl, rfl⟩
  split
  · cases parseServiceHeader e e.length with
    | error err => exact ⟨rfl, rfl⟩
    | ok header =>
      dsimp only
      split <;> exact ⟨rfl, rfl⟩
  · cases parseAudioHeader e e.length with
    | error err => exact ⟨rfl, rfl⟩
    | ok h =>
      dsimp only
      unfold pollAudio
      split
      · exact ⟨rfl, rfl⟩
      split
      · exact ⟨rfl, rfl⟩
      dsimp only
      split
      · exact ⟨rfl, rfl⟩
      split <;> exact ⟨rfl, rfl⟩

/-- Receivers that are the same to the audio listener receive alike. -/
theorem SameAudio.receive (h : SameAudio r r') (e : List UInt8) :
    (r.receive e).1 = (r'.receive e).1 ∧ SameAudio (r.receive e).2 (r'.receive e).2 := by
  obtain ⟨serviceCb, served, rfl⟩ := h
  unfold VbanReceiver.receive
  dsimp only
  split
  · exact ⟨rfl, serviceCb, served, rfl⟩
  split
  · cases parseServiceHeader e e.length with
    | error err => exact ⟨rfl, serviceCb, served, rfl⟩
    | ok header =>
      -- each of them may have a callback or not
      dsimp only
      split <;> split <;> exact ⟨rfl, serviceCb, _, rfl⟩
  · cases parseAudioHeader e e.length with
    | error err => exact ⟨rfl, serviceCb, served, rfl⟩
    | ok h =>
      dsimp only
      unfold pollAudio
      dsimp only
      split
      · exact ⟨rfl, serviceCb, served, rfl⟩
      split
      · exact ⟨rfl, serviceCb, served, rfl⟩
      split
      · exact ⟨rfl, serviceCb, served, rfl⟩
      split <;> exact ⟨rfl, serviceCb, served, rfl⟩

/-- What is not VBAN audio does not show to the audio listener. -/
theorem receive_not_audio (h : SameAudio r r') {e : List UInt8} (he : ¬ SpeaksVban .audio e) :
    SameAudio (r.receive e).2 r' := by
  obtain ⟨serviceCb, served, rfl⟩ := h
  unfold receive
  split
  · exact ⟨serviceCb, served, rfl⟩
  split
  · cases parseServiceHeader e e.length with
    | error err => exact ⟨serviceCb, served, rfl⟩
    | ok header =>
      dsimp only
      split <;> exact ⟨serviceCb, served, rfl⟩
  · rcases parseAudioHeader_cases e with ⟨haudio, -, -⟩ | ⟨-, err, hparse⟩
    · exact absurd haudio he
    · rw [hparse]
      exact ⟨serviceCb, served, rfl⟩

/-- What is not a VBAN service packet hands nothing over. -/
theorem served_receive_other (r : VbanReceiver) {e : List UInt8} (he : ¬ SpeaksVban .service e) :
    (r.receive e).2.served = r.served := by
  unfold receive
  split
  · rfl
  split
  · obtain ⟨err, hparse⟩ := parseServiceHeader_error he
    rw [hparse]
  · cases parseAudioHeader e e.length with
    | error err => rfl
    | ok h =>
      dsimp only
      unfold pollAudio
      split
      · rfl
      split
      · rfl
      dsimp only
      split
      · rfl
      split <;> rfl

/-- A service packet is accepted, and handed over if there is a callback. -/
theorem receive_handed {e : List UInt8} (he : SpeaksVban .service e) :
    ∃ packet : VbanServicePacket, ∀ r : VbanReceiver,
      (r.receive e).1 = true ∧
        (r.receive e).2.served.drop r.served.length = if r.serviceCb then [packet] else [] := by
  obtain ⟨header, hparse⟩ := parseServiceHeader_ok he
  refine ⟨{ header, payload := e.drop kVbanHeaderBytes }, fun r => ?_⟩
  rw [receive_service he hparse]
  refine ⟨rfl, ?_⟩
  dsimp only
  split <;> simp

end Receive

/-! ## Polling -/

section Poll

variable [PCMFlow] {r r' : VbanReceiver} {io : Inbound} (hio : io.Honest)

include hio

/-- They poll alike. -/
theorem SameAudio.poll (h : SameAudio r r') (buf buf' : VbanPollMemory) :
    (r.poll buf io).1 = (r'.poll buf' io).1 ∧ SameAudio (r.poll buf io).2.1 (r'.poll buf' io).2.1 := by
  obtain ⟨hok, hrest⟩ := Prod.ext_iff.mp (r.poll_received buf hio)
  obtain ⟨hok', hrest'⟩ := Prod.ext_iff.mp (r'.poll_received buf' hio)
  dsimp only at hok hrest hok' hrest'
  rw [hok, hrest, hok', hrest', h.ready]
  cases io.received kVbanMaxPacketBytes with
  | none => exact ⟨rfl, h⟩
  | some e =>
    dsimp only
    split
    · exact h.receive e
    · exact ⟨rfl, h⟩

/-- A poll that finds no audio packet does not show to the audio listener. -/
theorem SameAudio.poll_other (h : SameAudio r r') (buf : VbanPollMemory)
    (hother : (Call.poll io).delivers .audio = false) : SameAudio (r.poll buf io).2.1 r' := by
  obtain ⟨-, hrest⟩ := Prod.ext_iff.mp (r.poll_received buf hio)
  dsimp only at hrest
  rw [hrest]
  rw [Call.delivers] at hother
  cases hreceived : io.received kVbanMaxPacketBytes with
  | none => exact h
  | some e =>
    rw [hreceived] at hother
    dsimp only
    split
    · exact receive_not_audio h (of_decide_eq_false hother)
    · exact h

/-- A poll leaves receivers the same to the callback. -/
theorem sameService_poll (r : VbanReceiver) (buf : VbanPollMemory) : SameService (r.poll buf io).2.1 r := by
  obtain ⟨-, hrest⟩ := Prod.ext_iff.mp (r.poll_received buf hio)
  dsimp only at hrest
  rw [hrest]
  cases io.received kVbanMaxPacketBytes with
  | none => exact ⟨rfl, rfl⟩
  | some e =>
    dsimp only
    split
    · exact r.sameService_receive e
    · exact ⟨rfl, rfl⟩

/-- A poll that finds no service packet hands nothing over. -/
theorem served_poll_other (r : VbanReceiver) (buf : VbanPollMemory)
    (hother : (Call.poll io).delivers .service = false) : (r.poll buf io).2.1.served = r.served := by
  obtain ⟨-, hrest⟩ := Prod.ext_iff.mp (r.poll_received buf hio)
  dsimp only at hrest
  rw [hrest]
  rw [Call.delivers] at hother
  cases hreceived : io.received kVbanMaxPacketBytes with
  | none => rfl
  | some e =>
    rw [hreceived] at hother
    dsimp only
    split
    · exact r.served_receive_other (of_decide_eq_false hother)
    · rfl

/-- A service packet is answered alike, and the same is handed over. -/
theorem SameService.poll (h : SameService r r') (buf buf' : VbanPollMemory)
    (hservice : (Call.poll io).delivers .service = true) :
    (r.poll buf io).1 = (r'.poll buf' io).1 ∧
      (r.poll buf io).2.1.served.drop r.served.length = (r'.poll buf' io).2.1.served.drop r'.served.length := by
  obtain ⟨hok, hrest⟩ := Prod.ext_iff.mp (r.poll_received buf hio)
  obtain ⟨hok', hrest'⟩ := Prod.ext_iff.mp (r'.poll_received buf' hio)
  dsimp only at hok hrest hok' hrest'
  rw [hok, hrest, hok', hrest', h.ready]
  rw [Call.delivers] at hservice
  cases hreceived : io.received kVbanMaxPacketBytes with
  | none =>
    rw [hreceived] at hservice
    exact absurd hservice Bool.false_ne_true
  | some e =>
    rw [hreceived] at hservice
    obtain ⟨packet, hhanded⟩ := receive_handed (of_decide_eq_true hservice)
    dsimp only
    split
    · rw [(hhanded r).1, (hhanded r').1, (hhanded r).2, (hhanded r').2, h.serviceCb]
      exact ⟨rfl, rfl⟩
    · rw [List.drop_length, List.drop_length]
      exact ⟨rfl, rfl⟩

end Poll

/-! ## Calls -/

section Calls

variable [PCMFlow] {s t : VbanReceiver × VbanPollMemory} {c : Call} (hc : c.Honest)

include hc

/-- A call that is removed does not show to the audio listener. -/
theorem SameAudio.listen_removed (h : SameAudio s.1 t.1) (hremoved : c.keepsAudio = false) :
    SameAudio (listen s c).2.1 t.1 := by
  cases c with
  | poll io => exact h.poll_other hc s.2 hremoved
  | setServiceCallback cb =>
    obtain ⟨serviceCb, served, heq⟩ := h
    exact ⟨serviceCb, served, heq⟩
  | begin streamName bound => cases hremoved
  | end_ => cases hremoved
  | readFrames nonNull frameCount => cases hremoved

/-- A call that is kept shows the same to the audio listener. -/
theorem SameAudio.listen (h : SameAudio s.1 t.1) (hkept : c.keepsAudio = true) :
    (VbanReceiver.listen s c).1 = (VbanReceiver.listen t c).1 ∧
      SameAudio (VbanReceiver.listen s c).2.1 (VbanReceiver.listen t c).2.1 := by
  have hview : ∀ {r r' : VbanReceiver}, SameAudio r r' → r.getters = r'.getters := by
    rintro r r' ⟨serviceCb, served, rfl⟩
    rfl
  suffices hstep : s.1.returns s.2 c = t.1.returns t.2 c ∧ SameAudio (step s c).1 (step t c).1 by
    exact ⟨Prod.ext hstep.1 (hview hstep.2), hstep.2⟩
  cases c with
  | poll io =>
    obtain ⟨hok, hrest⟩ := h.poll hc s.2 t.2
    exact ⟨congrArg CallAnswer.flag hok, hrest⟩
  | setServiceCallback cb => cases hkept
  | begin streamName bound =>
    obtain ⟨serviceCb, served, heq⟩ := h
    simp only [returns, step, heq, VbanReceiver.begin]
    split
    · exact ⟨rfl, serviceCb, served, rfl⟩
    · exact ⟨rfl, serviceCb, served, rfl⟩
  | end_ =>
    obtain ⟨serviceCb, served, heq⟩ := h
    simp only [returns, step, heq]
    exact ⟨trivial, serviceCb, served, rfl⟩
  | readFrames nonNull frameCount =>
    obtain ⟨serviceCb, served, heq⟩ := h
    simp only [returns, step, heq, VbanReceiver.readFrames]
    exact ⟨trivial, serviceCb, served, rfl⟩

/-- A call that is removed does not show to the callback. -/
theorem SameService.serve_removed (h : SameService s.1 t.1) (hremoved : c.keepsService = false) :
    SameService (serve s c).2.1 t.1 := by
  cases c with
  | poll io =>
    have hsame := sameService_poll hc s.1 s.2
    exact ⟨hsame.ready.trans h.ready, hsame.serviceCb.trans h.serviceCb⟩
  | readFrames nonNull frameCount => exact ⟨h.ready, h.serviceCb⟩
  | begin streamName bound => cases hremoved
  | end_ => cases hremoved
  | setServiceCallback cb => cases hremoved

/-- A call that is kept shows the same to the callback. -/
theorem SameService.serve (h : SameService s.1 t.1) (hkept : c.keepsService = true) :
    (c.delivers .service = true → (VbanReceiver.serve s c).1 = (VbanReceiver.serve t c).1) ∧
      SameService (VbanReceiver.serve s c).2.1 (VbanReceiver.serve t c).2.1 := by
  cases c with
  | poll io =>
    obtain ⟨hok, hhanded⟩ := h.poll hc s.2 t.2 hkept
    have hs := sameService_poll hc s.1 s.2
    have ht := sameService_poll hc t.1 t.2
    refine ⟨fun _ => Prod.ext (congrArg CallAnswer.flag hok) hhanded, ?_, ?_⟩
    · exact hs.ready.trans (h.ready.trans ht.ready.symm)
    · exact hs.serviceCb.trans (h.serviceCb.trans ht.serviceCb.symm)
  | readFrames nonNull frameCount => cases hkept
  | begin streamName bound =>
    refine ⟨fun hdel => (by cases hdel), ?_⟩
    show SameService (s.1.begin streamName bound).2 (t.1.begin streamName bound).2
    unfold VbanReceiver.begin
    dsimp only
    split <;> exact ⟨rfl, h.serviceCb⟩
  | end_ => exact ⟨fun hdel => (by cases hdel), rfl, h.serviceCb⟩
  | setServiceCallback cb => exact ⟨fun hdel => (by cases hdel), h.ready, rfl⟩

/-- Only a poll that finds a service packet hands something over. -/
theorem serve_other (s : VbanReceiver × VbanPollMemory) (hother : c.delivers .service = false) :
    (serve s c).1.2 = [] := by
  suffices hsame : (step s c).1.served = s.1.served by
    show (step s c).1.served.drop s.1.served.length = []
    rw [hsame, List.drop_length]
  cases c with
  | poll io => exact served_poll_other hc s.1 s.2 hother
  | begin streamName bound =>
    show (s.1.begin streamName bound).2.served = _
    unfold VbanReceiver.begin
    dsimp only
    split <;> rfl
  | end_ => rfl
  | setServiceCallback cb => rfl
  | readFrames nonNull frameCount => rfl

end Calls

/-- **The planes do not interfere.** Whatever state a receiver is in, whatever is called and whatever its UDP
object delivers: remove every poll that finds anything but VBAN audio and every registration of a callback, and
each remaining call returns the same and every getter shows the same after it; remove every poll that finds
anything but a VBAN service packet and every read, and each service packet is answered alike and is handed to
the callback as before, or to none; no other call hands anything over. -/
theorem vban_planes [PCMFlow] (r : VbanReceiver) (buf : VbanPollMemory) {calls : List Call}
    (hcalls : ∀ c ∈ calls, c.Honest) :
    (transcript listen (r, buf) calls).filter (fun e => e.1.keepsAudio)
        = transcript listen (r, buf) (calls.filter Call.keepsAudio) ∧
      (transcript serve (r, buf) calls).filter (fun e => e.1.delivers .service)
        = (transcript serve (r, buf) (calls.filter Call.keepsService)).filter
            (fun e => e.1.delivers .service) ∧
      ∀ e ∈ transcript serve (r, buf) calls, e.1.delivers .service = false → e.2.2 = [] := by
  refine ⟨?_, ?_, ?_⟩
  · exact transcript_purge_seen (V := fun s t => SameAudio s.1 t.1)
      (fun s t c hc hremoved h => h.listen_removed hc hremoved) (fun s t c hc hkept h => h.listen hc hkept)
      (SameAudio.refl r) hcalls
  · refine transcript_purge_of (V := fun s t => SameService s.1 t.1) (fun c hdel => ?_)
      (fun s t c hc hremoved h => h.serve_removed hc hremoved) (fun s t c hc hkept h => h.serve hc hkept)
      ⟨rfl, rfl⟩ hcalls
    cases c <;> first | exact hdel | cases hdel
  · exact forall_mem_transcript_of
      (P := fun (c : Call) (o : CallAnswer × List VbanServicePacket) => c.delivers .service = false → o.2 = [])
      (fun s c hc => serve_other hc s) (r, buf) hcalls

/-- A service packet between two mono packets that are read, a callback that is registered for it, and bytes
that are no VBAN at all. -/
theorem vban_planes_mixed :
    let calls : List Call :=
      [.begin none 1, .poll (.ofDatagram (monoPacket [65])), .readFrames true 1, .setServiceCallback true,
        .poll (.ofDatagram (kVbanSignature ++ 0x60 :: List.replicate 23 0 ++ [7])),
        .poll (.ofDatagram [1, 2, 3]), .poll (.ofDatagram (monoPacket [65])), .readFrames true 1]
    (transcript (@listen PCMFlow.documented) ({}, Buffer.filled _ 0) calls).map (fun e => e.2.1)
        = [.flag true, .flag true, .read 1 [1, 2], .done, .flag true, .flag false, .flag true, .read 1 [1, 2]] ∧
    (transcript (@listen PCMFlow.documented) ({}, Buffer.filled _ 0) calls).filter (fun e => e.1.keepsAudio)
        = transcript (@listen PCMFlow.documented) ({}, Buffer.filled _ 0) (calls.filter Call.keepsAudio) ∧
      (transcript (@serve PCMFlow.documented) ({}, Buffer.filled _ 0) calls).filter
          (fun e => e.1.delivers .service)
        = (transcript (@serve PCMFlow.documented) ({}, Buffer.filled _ 0)
          (calls.filter Call.keepsService)).filter
            (fun e => e.1.delivers .service) ∧
      ∀ e ∈ transcript (@serve PCMFlow.documented) ({}, Buffer.filled _ 0) calls,
        e.1.delivers .service = false → e.2.2 = [] := by
  intro calls
  refine ⟨by decide +kernel, ?_⟩
  apply @vban_planes PCMFlow.documented
  simp [calls, Call.Honest, Inbound.honest_ofDatagram]

/-- The service packet is handed over, and it does not show to the audio listener. -/
example :
    (transcript (@serve PCMFlow.documented) ({ ready := true, serviceCb := true }, Buffer.filled _ 0)
      [.poll (.ofDatagram (kVbanSignature ++ 0x60 :: List.replicate 23 0 ++ [7]))]).map (·.2.2.map (·.payload))
      = [[[7]]] := by
  decide +kernel

end VbanReceiver

end PcmFlowUdp
