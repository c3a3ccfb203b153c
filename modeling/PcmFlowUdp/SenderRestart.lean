import PcmFlowUdp.ByteTransport.Answers
import PcmFlowUdp.Rtp.Packetizer
import PcmFlowUdp.Vban.Packetizer

/-! # What a sender forgets when it is opened again

`begin` sets counters and flags; it does not clear the packet scratch, and the UDP object goes on from where it
is. Two senders are `Alike` if they show the same, have the same header next and the same frames pending,
whatever else lies in their scratch and whatever they offered before. What the two classes have in common is
said once, of a `SwapWriter`, whose UDP object and scratch can be swapped for others.

* **`VbanSender.call_alike`**, **`RtpSender.call_alike`** — one call, whatever becomes of the sends;
* **`SwapWriter.forgets`** — a run that begins with a call that has the same effect on both;
* **`open_forgets`** — so nothing that happened before a `begin` shows after it but what was configured: every
  call returns, offers and leaves to the getters what it does on a sender with any other past. -/

namespace PcmFlowUdp

open ByteTransport

/-! ## The UDP object -/

namespace Udp

/-- The object after further attempts. -/
def later (udp : Udp) (made : List SendAttempt) : Udp := { udp with attempts := udp.attempts ++ made }

/-- Nothing attempted, nothing changed. -/
@[simp] theorem later_nil (udp : Udp) : udp.later [] = udp := by rw [later, List.append_nil]

/-- From now on the objects answer alike. -/
def AnswersLike (udp udp' : Udp) : Prop :=
  ∀ k, udp'.script (udp'.attempts.length + k) = udp.script (udp.attempts.length + k)

/-- After the same attempts the next answer is the same. -/
theorem AnswersLike.next {udp udp' : Udp} (h : udp.AnswersLike udp') (made : List SendAttempt) :
    (udp'.later made).next = (udp.later made).next := by
  rw [Udp.next, Udp.next, later, later, List.length_append, List.length_append]
  exact h made.length

/-- A transmission is one more attempt. -/
theorem transmit_later (udp : Udp) (made : List SendAttempt) (packet : List UInt8) :
    ((udp.later made).transmit packet).2 = udp.later (made ++ [⟨packet, (udp.later made).next⟩]) := by
  simp only [later, transmit, List.append_assoc]

/-- What was attempted in between does not depend on what was attempted before. -/
theorem drop_later (udp : Udp) (made made' : List SendAttempt) :
    (udp.later made').attempts.drop (udp.later made).attempts.length = made'.drop made.length := by
  rw [later, later, List.length_append, List.drop_length_add_append]

end Udp

/-- What a call on a sender returns. -/
inductive SenderAnswer
  | done
  | flag (ok : Bool)
  | wrote (frames : ℕ)
  deriving DecidableEq, Repr

/-! ## Senders of either class -/

/-- A sender of frames whose UDP object and scratch can be swapped for others. -/
structure SwapWriter (σ ε : Type) extends FrameWriter σ ε where
  udp : σ → Udp
  /-- The number of channels of a frame. -/
  channels : σ → ℕ
  swap : σ → Udp → Buffer UInt8 maxBytes → σ
  packet_swap : ∀ s u p, packet (swap s u p) = p := by intros; rfl
  pendingFrames_swap : ∀ s u p, pendingFrames (swap s u p) = pendingFrames s := by intros; rfl
  samplesPerPacket_swap : ∀ s u p, samplesPerPacket (swap s u p) = samplesPerPacket s := by intros; rfl
  udp_swap : ∀ s u p, udp (swap s u p) = u := by intros; rfl
  ready_swap : ∀ s u p, ready (swap s u p) = ready s := by intros; rfl
  error_swap : ∀ s u p, error (swap s u p) = error s := by intros; rfl
  unset_swap : ∀ s u p, unset (swap s u p) = unset s := by intros; rfl
  bytesPerFrame_swap : ∀ s u p, bytesPerFrame (swap s u p) = bytesPerFrame s := by intros; rfl
  setError_swap : ∀ s u p e, setError (swap s u p) e = swap (setError s e) u p := by intros; rfl
  /-- The scratch that is stored hides the one that is there. -/
  store_swap : ∀ s u p q r k, store (swap s u p) q k = swap (store s r k) u q := by intros; rfl
  udp_setError : ∀ s e, udp (setError s e) = udp s := by intros; rfl
  channels_setError : ∀ s e, channels (setError s e) = channels s := by intros; rfl
  udp_store : ∀ s p k, udp (store s p k) = udp s := by intros; rfl
  channels_store : ∀ s p k, channels (store s p k) = channels s := by intros; rfl

namespace SwapWriter

variable {σ ε : Type} (W : SwapWriter σ ε)

/-- Since their UDP objects were `udp` and `udp'` the senders attempted the same, and now they differ in the
scratch at most, where they have the same frames pending. -/
def Alike (udp udp' : Udp) (s t : σ) : Prop :=
  ∃ made packet, W.udp s = udp.later made ∧ t = W.swap s (udp'.later made) packet ∧
    W.pendingBytes (W.channels s) t = W.pendingBytes (W.channels s) s

variable {W} {udp udp' : Udp} {s t : σ}

/-- Senders with nothing pending have the same pending. -/
theorem alike_of_empty {made : List SendAttempt} {packet : Buffer UInt8 W.maxBytes}
    (hudp : W.udp s = udp.later made) (ht : t = W.swap s (udp'.later made) packet)
    (hzero : W.pendingFrames s = 0) :
    W.Alike udp udp' s t := by
  subst ht
  refine ⟨made, packet, hudp, rfl, ?_⟩
  simp only [PacketScratch.pendingBytes, W.pendingFrames_swap, hzero, Nat.zero_mul, Buffer.slice_zero]

/-- An error that is set shows on both. -/
theorem Alike.setError (h : W.Alike udp udp' s t) (error : ε) :
    W.Alike udp udp' (W.setError s error) (W.setError t error) := by
  obtain ⟨made, packet, hudp, rfl, hbytes⟩ := h
  refine ⟨made, packet, (W.udp_setError s error).trans hudp, W.setError_swap s _ _ error, ?_⟩
  simpa only [PacketScratch.pendingBytes, W.channels_setError, W.packet_setError, W.pendingFrames_setError]
    using hbytes

/-- What a sender of frames of `c` channels promises for the states of `Ok` whatever lies in its scratch: an
emission offers the same packet. -/
structure Oblivious (W : SwapWriter σ ε) (c : ℕ) (Ok : σ → Prop)
    (Emits : σ → List (List (PcmFrame c)) → σ → Prop) :
    Prop extends lawful : W.toFrameWriter.Lawful c Ok Emits where
  channels : ∀ s, Ok s → W.channels s = c
  ok_swap : ∀ s u p, Ok s → Ok (W.swap s u p)
  emit_alike : ∀ udp udp' s t, udp.AnswersLike udp' → Ok s → W.pendingFrames s ≤ W.samplesPerPacket s →
    W.Alike udp udp' s t → W.Alike udp udp' (W.emit s) (W.emit t)

/-- A sender that is ready to take or to send frames keeps this promise. -/
def Steady (W : SwapWriter σ ε) (s : σ) : Prop :=
  W.ready s = true → W.unset s = false ∨ W.pendingFrames s ≠ 0 →
    ∃ Ok Emits, W.Oblivious (W.channels s) Ok Emits ∧ W.Writing Ok s

variable {c : ℕ} {Ok : σ → Prop} {Emits : σ → List (List (PcmFrame c)) → σ → Prop} (hans : udp.AnswersLike udp')

include hans

/-- Accepting frames keeps senders alike. -/
theorem Alike.foldl_push (hst : W.Alike udp udp' s t) (h : W.Oblivious c Ok Emits) (hw : W.Writing Ok s)
    (fs : List (PcmFrame c)) :
    W.Alike udp udp' (fs.foldl (W.batcher c).push s) (fs.foldl (W.batcher c).push t) := by
  refine h.lawful.toLawful.foldl_push_rel ?_ ?_ ?_ ?_ hw.ok hw.pending hst fs
  · rintro s t ⟨made, packet, -, rfl, -⟩
    exact ⟨W.pendingFrames_swap s _ _, W.samplesPerPacket_swap s _ _⟩
  · rintro s t hs ⟨made, packet, -, rfl, hbytes⟩
    exact ⟨h.ok_swap s _ _ hs, h.channels s hs ▸ hbytes⟩
  · rintro s t p q k hs ⟨made, packet, hudp, rfl, -⟩ hslice
    refine ⟨made, q, (W.udp_store s p k).trans hudp, W.store_swap s _ _ _ _ _, ?_⟩
    rw [W.channels_store, h.channels s hs, PacketScratch.pendingBytes, PacketScratch.pendingBytes,
      h.packet_store, h.packet_store, h.pendingFrames_store, h.pendingFrames_store]
    exact hslice
  · exact fun s t hs hle hst => h.emit_alike udp udp' s t hans hs hle hst

/-- `writeFrames` accepts as many frames on both. -/
theorem Alike.writeFrames (hst : W.Alike udp udp' s t)
    (hmode : W.Steady s) (src : Option (List UInt8)) (frameCount : ℕ) :
    Option.Rel (fun a b => a.1 = b.1 ∧ W.Alike udp udp' a.2 b.2) (W.writeFrames s src frameCount)
      (W.writeFrames t src frameCount) := by
  have hrest := hst
  obtain ⟨made, packet, -, rfl, -⟩ := hst
  refine FrameWriter.writeFrames_rel (W.ready_swap s _ _) (W.unset_swap s _ _) (W.bytesPerFrame_swap s _ _) hrest
    hrest.setError src frameCount fun mem hready hset => ?_
  -- both accept the frames one by one
  obtain ⟨Ok, Emits, h, hw⟩ := hmode hready (.inl hset)
  have hlt : W.pendingFrames (W.swap s (udp'.later made) packet)
      < W.samplesPerPacket (W.swap s (udp'.later made) packet) := by
    rw [W.pendingFrames_swap, W.samplesPerPacket_swap]
    exact hw.pending
  rw [h.bytesPerFrame s hw.ok, h.lawful.toLawful.writeLoop_foldl hw.ok hw.pending,
    h.lawful.toLawful.writeLoop_foldl (h.ok_swap s _ _ hw.ok) hlt]
  exact .some ⟨rfl, hrest.foldl_push hans h hw _⟩

/-- `flush` reports the same on both. -/
theorem Alike.flush [BEq ε] (hst : W.Alike udp udp' s t) (hmode : W.Steady s) :
    (W.flush s).1 = (W.flush t).1 ∧ W.Alike udp udp' (W.flush s).2 (W.flush t).2 := by
  have hemit : W.ready s = true → W.pendingFrames s ≠ 0 → W.Alike udp udp' (W.emit s) (W.emit t) := by
    intro hready hpending
    obtain ⟨Ok, Emits, h, hw⟩ := hmode hready (.inr hpending)
    exact h.emit_alike udp udp' s t hans hw.ok hw.pending.le hst
  have hrest := hst
  obtain ⟨made, packet, -, rfl, -⟩ := hst
  have hready := W.ready_swap s (udp'.later made) packet
  have hpending := W.pendingFrames_swap s (udp'.later made) packet
  have hshow : ∀ a b, W.Alike udp udp' a b → W.error b = W.error a := by
    rintro a b ⟨made, packet, -, rfl, -⟩
    exact W.error_swap a _ _
  exact ⟨(Flusher.flush_report hready hpending hemit (W.error_swap s _ _) hshow).symm,
    Flusher.flush_rel hready hpending hrest hrest.setError hemit⟩

omit hans

/-! ### Runs -/

variable {ι ν : Type} (W) (call : σ → ι → Option (SenderAnswer × σ)) (getters : σ → ν)

/-- A call, with what it returns, what the getters show then and what it attempted to send. -/
def observe (s : σ) (c : ι) : Option ((SenderAnswer × ν × List SendAttempt) × σ) :=
  (call s c).map fun t => ((t.1, getters t.2, (W.udp t.2).attempts.drop (W.udp s).attempts.length), t.2)

/-- A call that has the same effect on two senders: it returns the same and leaves them alike. -/
def SameEffect (udp udp' : Udp) (s t : σ) (c : ι) : Prop :=
  Option.Rel (fun a b => a.1 = b.1 ∧ W.Alike udp udp' a.2 b.2) (call s c) (call t c)

variable {W call getters} (hgetters : ∀ s u p, getters (W.swap s u p) = getters s)

include hgetters

/-- **What is observed of such a call** is the same, if the senders attempted the same before. -/
theorem SameEffect.observe {c : ι} {made : List SendAttempt} (hudp : W.udp s = udp.later made)
    (hudp' : W.udp t = udp'.later made) (h : W.SameEffect call udp udp' s t c) {o : SenderAnswer × σ}
    (hs : call s c = some o) :
    ∃ seen t', W.observe call getters s c = some (seen, o.2) ∧ W.observe call getters t c = some (seen, t') ∧
      W.Alike udp udp' o.2 t' := by
  rw [SameEffect, hs] at h
  cases ht : call t c with
  | none =>
    rw [ht] at h
    cases h
  | some o' =>
    rw [ht] at h
    obtain ⟨hanswer, hrest⟩ : o.1 = o'.1 ∧ W.Alike udp udp' o.2 o'.2 := by cases h; assumption
    have halike := hrest
    obtain ⟨made', packet, hmade, hswap, -⟩ := hrest
    have hsame : (o'.1, getters o'.2, (W.udp o'.2).attempts.drop (W.udp t).attempts.length)
        = (o.1, getters o.2, (W.udp o.2).attempts.drop (W.udp s).attempts.length) := by
      -- what was attempted before is left out
      rw [hudp, hudp', hmade, hswap, hgetters, W.udp_swap, Udp.drop_later, Udp.drop_later, hanswer]
    refine ⟨_, o'.2, by rw [SwapWriter.observe, hs]; rfl, ?_, halike⟩
    rw [SwapWriter.observe, ht, Option.map_some, hsame]

/-- **The rule for what a sender forgets.** If the calls complete in the states of an invariant and have the
same effect on senders that are alike, and one call has the same effect on two senders, then no run that begins
with that call tells the senders apart. -/
theorem forgets (Inv : σ → Prop) (hinv : ∀ s c, Inv s → ∃ o, call s c = some o ∧ Inv o.2)
    (hcall : ∀ s t c, Inv s → W.Alike udp udp' s t → W.SameEffect call udp udp' s t c) (hs : Inv s) {b : ι}
    (hudp : W.udp s = udp) (hudp' : W.udp t = udp') (hfirst : W.SameEffect call udp udp' s t b)
    (calls : List ι) :
    ∃ es s' t', checked (W.observe call getters) s (b :: calls) = some (es, s') ∧
      checked (W.observe call getters) t (b :: calls) = some (es, t') := by
  obtain ⟨o, ho, hinv'⟩ := hinv s b hs
  obtain ⟨seen, t₁, hso, hto, halike⟩ := hfirst.observe hgetters
    (hudp.trans udp.later_nil.symm) (hudp'.trans udp'.later_nil.symm) ho
  have hstep : ∀ s t c, Inv s ∧ W.Alike udp udp' s t → ∃ seen s' t',
      W.observe call getters s c = some (seen, s') ∧ W.observe call getters t c = some (seen, t') ∧
        Inv s' ∧ W.Alike udp udp' s' t' := by
    rintro s t c ⟨hs, hst⟩
    obtain ⟨o, ho, hinv'⟩ := hinv s c hs
    have hsame := hcall s t c hs hst
    obtain ⟨made, packet, hmade, rfl, -⟩ := hst
    obtain ⟨seen, t', hso, hto, halike⟩ := hsame.observe hgetters hmade (W.udp_swap s _ _) ho
    exact ⟨seen, o.2, t', hso, hto, hinv', halike⟩
  obtain ⟨es, s', t', hes, het, -⟩ := checked_simulates hstep ⟨hinv', halike⟩ calls
  exact ⟨_, s', t', checked_cons hso hes, checked_cons hto het⟩

end SwapWriter

/-- Calls that accept as many frames return the same. -/
theorem rel_wrote {σ : Type} {R : σ → σ → Prop} {a b : Option (ℕ × σ)}
    (h : Option.Rel (fun a b => a.1 = b.1 ∧ R a.2 b.2) a b) :
    Option.Rel (fun a b => a.1 = b.1 ∧ R a.2 b.2) (a.map (Prod.map SenderAnswer.wrote id))
      (b.map (Prod.map SenderAnswer.wrote id)) := by
  cases h with
  | some h => exact .some ⟨congrArg SenderAnswer.wrote h.1, h.2⟩
  | none => exact .none

/-! ## `VbanSender` -/

/-- What the getters of a `VbanSender` show. -/
structure VbanSenderView where
  streamName : VbanName
  samplesPerPacket : UInt16
  format : PCMFormat
  isReady : Bool
  lastError : VbanSenderError

namespace VbanSender

/-- The getters. -/
def getters (s : VbanSender) : VbanSenderView where
  streamName := s.streamName
  samplesPerPacket := s.samplesPerPacket
  format := s.format
  isReady := s.ready
  lastError := s.error

/-- A call: what it returns, and the sender afterwards. -/
def call [PCMFlow] (s : VbanSender) : Call → Option (SenderAnswer × VbanSender)
  | .begin destPort streamName =>
      some (.flag (s.begin destPort streamName).1, (s.begin destPort streamName).2)
  | .end_ => some (.done, s.end_)
  | .setFormat fmt => some (.flag (s.setFormat fmt).1, (s.setFormat fmt).2)
  | .setStreamName name => some (.done, s.setStreamName name)
  | .writeFrames src frameCount => (s.writeFrames src frameCount).map (Prod.map .wrote id)
  | .flush => some (.flag s.flush.1, s.flush.2)

/-- A call leaves what `step` says. -/
theorem call_step [PCMFlow] (s : VbanSender) (c : Call) : (s.call c).map Prod.snd = step s c := by
  cases c with
  | writeFrames src frameCount =>
    rw [call, step, Option.map_map]
    rfl
  | _ => rfl

/-- A call completes, in states that keep the invariant. -/
theorem wf_call [PCMFlow] (s : VbanSender) (c : Call) (h : s.WF) : ∃ o, s.call c = some o ∧ o.2.WF := by
  obtain ⟨s', hstep, hwf⟩ := wf_step h c
  obtain ⟨o, ho, rfl⟩ := Option.map_eq_some_iff.mp ((call_step s c).trans hstep)
  exact ⟨o, ho, hwf⟩

/-- The UDP object and the scratch of a sender are members of their own. -/
def swapper [PCMFlow] : SwapWriter VbanSender VbanSenderError where
  toFrameWriter := writer
  udp s := s.udp
  channels s := s.format.channels.toNat
  swap s udp packet := { s with udp, packet }

/-- A call, with what it returns, what the getters show then and what it attempted to send. -/
def observe [PCMFlow] :
    VbanSender → Call → Option ((SenderAnswer × VbanSenderView × List SendAttempt) × VbanSender) :=
  (swapper).observe VbanSender.call getters

/-- The senders were configured alike. -/
structure SameConfig (s t : VbanSender) : Prop where
  format : t.format = s.format
  sampleRateIndex : t.sampleRateIndex = s.sampleRateIndex
  samplesPerPacket : t.samplesPerPacket = s.samplesPerPacket

section Alike

variable [PCMFlow] {udp udp' : Udp} {s t : VbanSender}

/-- Senders that are alike differ in the UDP object and the scratch at most. -/
theorem alike_cases (h : (swapper).Alike udp udp' s t) :
    ∃ made packet, s.udp = udp.later made ∧ t = { s with udp := udp'.later made, packet } ∧
      (scratch).pendingBytes s.format.channels.toNat t = (scratch).pendingBytes s.format.channels.toNat s := h

/-- **`begin` makes senders alike** that were configured alike. -/
theorem SameConfig.begin (h : SameConfig s t) (destPort : UInt16) (streamName : Option (List UInt8)) :
    (swapper).SameEffect VbanSender.call s.udp t.udp s t (.begin destPort streamName) := by
  have hsame : (t.begin destPort streamName).2
      = { (s.begin destPort streamName).2 with udp := t.udp.later [], packet := t.packet } := by
    simp only [VbanSender.begin, setStreamName, h.format, h.sampleRateIndex, h.samplesPerPacket, Udp.later_nil]
  exact .some ⟨rfl, SwapWriter.alike_of_empty (Udp.later_nil _).symm hsame rfl⟩

/-- An emission offers the same packet on both, and gets the same answer. -/
theorem emitPacket_alike {c : ℕ} (hans : udp.AnswersLike udp') (hmode : AudioMode c s)
    (hle : s.pendingFrames ≤ s.samplesPerPacket.toNat) (h : (swapper).Alike udp udp' s t) :
    (swapper).Alike udp udp' s.emitPacket t.emitPacket := by
  obtain ⟨made, packet, hudp, rfl, hbytes⟩ := alike_cases h
  by_cases hzero : s.pendingFrames = 0
  · rw [VbanSender.emitPacket, VbanSender.emitPacket, if_pos hzero, if_pos hzero]
    exact SwapWriter.alike_of_empty hudp rfl hzero
  have hnext : nextPacket { s with udp := udp'.later made, packet } = s.nextPacket := by
    rw [nextPacket_eq (s := { s with udp := udp'.later made, packet }) { hmode with }
      (Nat.pos_of_ne_zero hzero) hle, nextPacket_eq hmode (Nat.pos_of_ne_zero hzero) hle,
      PacketScratch.pending, ← hmode.channels, hbytes]
    rfl
  rw [emitPacket_eq hzero, emitPacket_eq (s := { s with udp := udp'.later made, packet }) hzero, hnext, hudp,
    Udp.transmit_later, Udp.transmit_later, hans.next]
  exact SwapWriter.alike_of_empty rfl rfl rfl

/-- **What else the scratch holds** does not matter to a sender that is set up. -/
theorem swapper_oblivious {c : ℕ} (hc : 0 < c) : (swapper).Oblivious c (AudioMode c) Emits where
  lawful := writer_lawful hc
  channels _ h := h.channels
  ok_swap _ _ _ h := { h with }
  emit_alike _ _ _ _ hans hmode hle hst := emitPacket_alike hans hmode hle hst

/-- A sender that can take or send frames is set up. -/
theorem WF.steady (hwf : s.WF) : (swapper).Steady s := by
  intro hready huse
  have hmode : AudioMode s.format.channels.toNat s := by
    rcases huse with hset | hpending
    · exact hwf.audioMode fun h0 => by simp [swapper, writer, h0] at hset
    · exact hwf.audioMode_of_pending hpending
  exact ⟨_, _, swapper_oblivious hmode.channels_pos, hmode, hready, hwf.pending_lt hmode⟩

/-- `setFormat` looks at its argument only. -/
theorem setFormat_alike (h : (swapper).Alike udp udp' s t) (fmt : PCMFormat) :
    (s.setFormat fmt).1 = (t.setFormat fmt).1 ∧
      (swapper).Alike udp udp' (s.setFormat fmt).2 (t.setFormat fmt).2 := by
  obtain ⟨made, packet, hudp, rfl, hbytes⟩ := alike_cases h
  unfold VbanSender.setFormat
  split
  · exact ⟨rfl, made, packet, hudp, rfl, hbytes⟩
  dsimp only
  split
  · exact ⟨rfl, made, packet, hudp, rfl, hbytes⟩
  · exact ⟨rfl, SwapWriter.alike_of_empty hudp rfl rfl⟩

/-- **No call tells the senders apart**, and none makes them differ. -/
theorem call_alike (hans : udp.AnswersLike udp') (hwf : s.WF) (h : (swapper).Alike udp udp' s t) (c : Call) :
    (swapper).SameEffect VbanSender.call udp udp' s t c := by
  cases c with
  | begin destPort streamName =>
    obtain ⟨made, packet, hudp, rfl, -⟩ := alike_cases h
    exact .some ⟨rfl, SwapWriter.alike_of_empty hudp rfl rfl⟩
  | end_ =>
    obtain ⟨made, packet, hudp, rfl, -⟩ := alike_cases h
    exact .some ⟨rfl, SwapWriter.alike_of_empty hudp rfl rfl⟩
  | setStreamName name =>
    obtain ⟨made, packet, hudp, rfl, hbytes⟩ := alike_cases h
    exact .some ⟨rfl, made, packet, hudp, rfl, hbytes⟩
  | setFormat fmt =>
    obtain ⟨hok, hrest⟩ := setFormat_alike h fmt
    exact .some ⟨congrArg SenderAnswer.flag hok, hrest⟩
  | writeFrames src frameCount =>
    rw [SwapWriter.SameEffect, VbanSender.call, VbanSender.call, writeFrames_writer, writeFrames_writer]
    exact rel_wrote (h.writeFrames hans hwf.steady src frameCount)
  | flush =>
    obtain ⟨hok, hrest⟩ := h.flush hans hwf.steady
    exact .some ⟨congrArg SenderAnswer.flag hok, hrest⟩

end Alike

end VbanSender

/-! ## `RtpSender` -/

/-- What the getters of an `RtpSender` show. -/
structure RtpSenderView where
  timestampIncrement : UInt32
  ssrc : UInt32
  timestamp : UInt32
  sequenceNumber : UInt16
  payloadType : UInt8
  clockRate : UInt32
  samplesPerPacket : UInt16
  format : PCMFormat
  isReady : Bool
  lastError : RtpSenderError

namespace RtpSender

/-- The getters. -/
def getters (s : RtpSender) : RtpSenderView where
  timestampIncrement := s.tsIncrement
  ssrc := s.ssrc
  timestamp := s.timestamp
  sequenceNumber := s.sequenceNumber
  payloadType := s.payloadType
  clockRate := s.clockRate
  samplesPerPacket := s.samplesPerPacket
  format := s.format
  isReady := s.ready
  lastError := s.error

/-- A call: what it returns, and the sender afterwards. -/
def call [PCMFlow] (s : RtpSender) : Call → Option (SenderAnswer × RtpSender)
  | .begin destPort ssrc rnd => some (.flag (s.begin destPort ssrc rnd).1, (s.begin destPort ssrc rnd).2)
  | .end_ => some (.done, s.end_)
  | .setPayloadType pt clockRate =>
      some (.flag (s.setPayloadType pt clockRate).1, (s.setPayloadType pt clockRate).2)
  | .setFormat fmt => some (.flag (s.setFormat fmt).1, (s.setFormat fmt).2)
  | .setTimestampIncrement inc => some (.done, s.setTimestampIncrement inc)
  | .setMarker m => some (.done, s.setMarker m)
  | .setSsrc ssrc => some (.done, s.setSsrc ssrc)
  | .setTimestamp ts => some (.done, s.setTimestamp ts)
  | .setSequenceNumber seq => some (.done, s.setSequenceNumber seq)
  | .writeFrames src frameCount => (s.writeFrames src frameCount).map (Prod.map .wrote id)
  | .writeEncoded bytes count => some (.flag (s.writeEncoded bytes count).1, (s.writeEncoded bytes count).2)
  | .flush => some (.flag s.flush.1, s.flush.2)

/-- A call leaves what `step` says. -/
theorem call_step [PCMFlow] (s : RtpSender) (c : Call) : (s.call c).map Prod.snd = step s c := by
  cases c with
  | writeFrames src frameCount =>
    rw [call, step, Option.map_map]
    rfl
  | _ => rfl

/-- A call completes, in states that keep the invariant. -/
theorem wf_call [PCMFlow] (s : RtpSender) (c : Call) (h : s.WF) : ∃ o, s.call c = some o ∧ o.2.WF := by
  obtain ⟨s', hstep, hwf⟩ := wf_step h c
  obtain ⟨o, ho, rfl⟩ := Option.map_eq_some_iff.mp ((call_step s c).trans hstep)
  exact ⟨o, ho, hwf⟩

/-- The UDP object and the scratch of a sender are members of their own. -/
def swapper [PCMFlow] : SwapWriter RtpSender RtpSenderError where
  toFrameWriter := writer
  udp s := s.udp
  channels s := s.format.channels.toNat
  swap s udp packet := { s with udp, packet }

/-- A call, with what it returns, what the getters show then and what it attempted to send. -/
def observe [PCMFlow] :
    RtpSender → Call → Option ((SenderAnswer × RtpSenderView × List SendAttempt) × RtpSender) :=
  (swapper).observe RtpSender.call getters

/-- The senders were configured alike. -/
structure SameConfig (s t : RtpSender) : Prop where
  format : t.format = s.format
  payloadType : t.payloadType = s.payloadType
  clockRate : t.clockRate = s.clockRate
  samplesPerPacket : t.samplesPerPacket = s.samplesPerPacket
  isL16 : t.isL16 = s.isL16
  tsIncrement : t.tsIncrement = s.tsIncrement

section Alike

variable [PCMFlow] {udp udp' : Udp} {s t : RtpSender}

/-- Senders that are alike differ in the UDP object and the scratch at most. -/
theorem alike_cases (h : (swapper).Alike udp udp' s t) :
    ∃ made packet, s.udp = udp.later made ∧ t = { s with udp := udp'.later made, packet } ∧
      scratch.pendingBytes s.format.channels.toNat t = scratch.pendingBytes s.format.channels.toNat s := h

/-- **`begin` makes senders alike** that were configured alike. -/
theorem SameConfig.begin (h : SameConfig s t) (destPort : UInt16) (ssrc : UInt32) (rnd : RtpRandom) :
    (swapper).SameEffect RtpSender.call s.udp t.udp s t (.begin destPort ssrc rnd) := by
  have hsame : (t.begin destPort ssrc rnd).2
      = { (s.begin destPort ssrc rnd).2 with udp := t.udp.later [], packet := t.packet } := by
    simp only [RtpSender.begin, h.format, h.payloadType, h.clockRate, h.samplesPerPacket, h.isL16, h.tsIncrement,
      Udp.later_nil]
  exact .some ⟨rfl, SwapWriter.alike_of_empty (Udp.later_nil _).symm hsame rfl⟩

/-- `setPayloadType` looks at its arguments and at the packet size. -/
theorem setPayloadType_alike (h : (swapper).Alike udp udp' s t) (pt : UInt8) (clockRate : UInt32) :
    (s.setPayloadType pt clockRate).1 = (t.setPayloadType pt clockRate).1 ∧
      (swapper).Alike udp udp' (s.setPayloadType pt clockRate).2 (t.setPayloadType pt clockRate).2 := by
  obtain ⟨made, packet, hudp, rfl, hbytes⟩ := alike_cases h
  unfold RtpSender.setPayloadType
  split
  · exact ⟨rfl, made, packet, hudp, rfl, hbytes⟩
  · exact ⟨rfl, SwapWriter.alike_of_empty hudp rfl rfl⟩

/-- `setFormat` looks at its argument. -/
theorem setFormat_alike (h : (swapper).Alike udp udp' s t) (fmt : PCMFormat) :
    (s.setFormat fmt).1 = (t.setFormat fmt).1 ∧
      (swapper).Alike udp udp' (s.setFormat fmt).2 (t.setFormat fmt).2 := by
  obtain ⟨made, packet, hudp, rfl, hbytes⟩ := alike_cases h
  unfold RtpSender.setFormat RtpSender.setPayloadType
  split
  · exact ⟨rfl, made, packet, hudp, rfl, hbytes⟩
  generalize (if fmt.channels = 2 then ptL16Stereo else ptL16Mono) = pt
  by_cases hbad : pt > 0x7F ∨ fmt.sampleRate = 0
  · simp only [if_pos hbad]
    exact ⟨rfl, made, packet, hudp, rfl, hbytes⟩
  · simp only [if_neg hbad]
    exact ⟨rfl, SwapWriter.alike_of_empty hudp rfl rfl⟩

section Sending

variable (hans : udp.AnswersLike udp')

include hans

/-- Offering a packet gets the same answer on both. -/
theorem attempt_alike (h : (swapper).Alike udp udp' s t) (payload : List UInt8) (advance : UInt32)
    {p q : Buffer UInt8 kRtpMaxPacketBytes} {k : ℕ}
    (hslice : q.slice kRtpHeaderBytes (k * (s.format.channels.toNat * 2))
      = p.slice kRtpHeaderBytes (k * (s.format.channels.toNat * 2))) :
    (swapper).Alike udp udp' (s.attempt payload advance p k) (t.attempt payload advance q k) := by
  obtain ⟨made, packet, hudp, rfl, -⟩ := alike_cases h
  refine ⟨made ++ [⟨rtpHeaderBytes s.nextHeader ++ payload, (udp.later made).next⟩], q, ?_, ?_, hslice⟩
  · show (s.attempt payload advance p k).udp = _
    rw [RtpSender.attempt, hudp, Udp.transmit_later]
  · simp only [RtpSender.attempt, hudp, Udp.transmit_later, hans.next, nextHeader]
    rfl

/-- An emission offers the same packet on both. -/
theorem emitL16Packet_alike {c : ℕ} (hmode : L16Mode c s) (hle : s.pendingFrames ≤ s.samplesPerPacket.toNat)
    (h : (swapper).Alike udp udp' s t) : (swapper).Alike udp udp' s.emitL16Packet t.emitL16Packet := by
  have hrest := h
  obtain ⟨made, packet, hudp, rfl, hbytes⟩ := alike_cases h
  by_cases hzero : s.pendingFrames = 0
  · rw [RtpSender.emitL16Packet, RtpSender.emitL16Packet, if_pos hzero, if_pos hzero]
    exact hrest
  have hmode' : L16Mode c { s with udp := udp'.later made, packet } := { hmode with }
  obtain ⟨p, hp⟩ := emitL16Packet_eq hmode (Nat.pos_of_ne_zero hzero) hle
  obtain ⟨q, hq⟩ := emitL16Packet_eq hmode' (Nat.pos_of_ne_zero hzero) hle
  rw [hp, hq, ← hmode.channels, hbytes]
  exact attempt_alike hans hrest _ _ (by rw [Nat.zero_mul, Buffer.slice_zero, Buffer.slice_zero])

/-- `writeEncoded` offers the same packet on both, and overwrites the same pending frames. -/
theorem writeEncoded_alike (hwf : s.WF) (h : (swapper).Alike udp udp' s t) (bytes : Option (List UInt8))
    (count : ℕ) :
    (s.writeEncoded bytes count).1 = (t.writeEncoded bytes count).1 ∧
      (swapper).Alike udp udp' (s.writeEncoded bytes count).2 (t.writeEncoded bytes count).2 := by
  have hrest := h
  obtain ⟨made, packet, hudp, rfl, hbytes⟩ := alike_cases h
  by_cases hsends : s.ready = true ∧ s.payloadType ≠ 0xFF ∧ bytes ≠ none ∧ 0 < count ∧
    count ≤ kRtpMaxPayloadBytes
  · obtain ⟨hready, hset, hsome, hpos, hmax⟩ := hsends
    obtain ⟨mem, rfl⟩ := Option.ne_none_iff_exists'.mp hsome
    have hpt := hwf.payloadType_le.resolve_left hset
    rw [writeEncoded_eq hready hpt mem hpos hmax,
      writeEncoded_eq (s := { s with udp := udp'.later made, packet }) hready hpt mem hpos hmax]
    refine ⟨by rw [hudp, hans.next], attempt_alike hans hrest _ _ ?_⟩
    -- the payload lies over the same pending bytes
    have hroom : kRtpHeaderBytes + s.pendingFrames * (s.format.channels.toNat * 2) ≤ kRtpMaxPacketBytes := by
      by_cases hzero : s.pendingFrames = 0
      · rw [hzero, Nat.zero_mul]
        exact Nat.le_add_right _ _
      · have hmode := hwf.l16Mode_of_pending hzero
        exact hmode.room (hwf.pending_lt hmode).le
    have hcopied : kRtpHeaderBytes + (readMem mem 0 count).length ≤ kRtpMaxPacketBytes := by
      rw [length_readMem]
      exact Nat.add_le_add_left hmax _
    have hhead : ∀ hd : RtpHeader, 0 + (rtpHeaderBytes hd).length ≤ kRtpHeaderBytes := fun _ => le_rfl
    rw [Buffer.slice_blit_over _ hcopied hroom, Buffer.slice_blit_over _ hcopied hroom,
      Buffer.slice_blit_after _ _ (hhead _), Buffer.slice_blit_after _ _ (hhead _)]
    exact congrArg (_ ++ List.drop _ ·) hbytes
  · -- neither of them sends anything
    unfold RtpSender.writeEncoded
    dsimp only
    split
    · exact ⟨rfl, made, packet, hudp, rfl, hbytes⟩
    split
    · exact ⟨rfl, made, packet, hudp, rfl, hbytes⟩
    cases bytes with
    | none => exact ⟨rfl, made, packet, hudp, rfl, hbytes⟩
    | some mem =>
      rename_i hready hset
      have hcount : count = 0 ∨ kRtpMaxPayloadBytes < count := by
        by_contra hok
        exact hsends ⟨by simpa using hready, by simpa using hset, Option.some_ne_none _, by omega, by omega⟩
      simp only [if_pos hcount]
      exact ⟨trivial, made, packet, hudp, rfl, hbytes⟩

end Sending

/-- **What else the scratch holds** does not matter to a sender in L16 mode. -/
theorem swapper_oblivious {c : ℕ} (hc : 0 < c) : (swapper).Oblivious c (L16Mode c) Emits where
  lawful := writer_lawful hc
  channels _ h := h.channels
  ok_swap _ _ _ h := { h with }
  emit_alike _ _ _ _ hans hmode hle hst := emitL16Packet_alike hans hmode hle hst

/-- A sender that can take or send frames is in L16 mode. -/
theorem WF.steady (hwf : s.WF) : (swapper).Steady s := by
  intro hready huse
  have hmode : L16Mode s.format.channels.toNat s := by
    rcases huse with hset | hpending
    · exact hwf.l16Mode fun h0 => by simp [swapper, writer, h0] at hset
    · exact hwf.l16Mode_of_pending hpending
  exact ⟨_, _, swapper_oblivious hmode.channels_pos, hmode, hready, hwf.pending_lt hmode⟩

/-- **No call tells the senders apart**, and none makes them differ. -/
theorem call_alike (hans : udp.AnswersLike udp') (hwf : s.WF) (h : (swapper).Alike udp udp' s t) (c : Call) :
    (swapper).SameEffect RtpSender.call udp udp' s t c := by
  cases c with
  | begin destPort ssrc rnd =>
    obtain ⟨made, packet, hudp, rfl, -⟩ := alike_cases h
    exact .some ⟨rfl, SwapWriter.alike_of_empty hudp rfl rfl⟩
  | end_ =>
    obtain ⟨made, packet, hudp, rfl, -⟩ := alike_cases h
    exact .some ⟨rfl, SwapWriter.alike_of_empty hudp rfl rfl⟩
  | setPayloadType pt clockRate =>
    obtain ⟨hok, hrest⟩ := setPayloadType_alike h pt clockRate
    exact .some ⟨congrArg SenderAnswer.flag hok, hrest⟩
  | setFormat fmt =>
    obtain ⟨hok, hrest⟩ := setFormat_alike h fmt
    exact .some ⟨congrArg SenderAnswer.flag hok, hrest⟩
  | writeFrames src frameCount =>
    rw [SwapWriter.SameEffect, RtpSender.call, RtpSender.call, writeFrames_writer, writeFrames_writer]
    exact rel_wrote (h.writeFrames hans hwf.steady src frameCount)
  | writeEncoded bytes count =>
    obtain ⟨hok, hrest⟩ := writeEncoded_alike hans hwf h bytes count
    exact .some ⟨congrArg SenderAnswer.flag hok, hrest⟩
  | flush =>
    obtain ⟨hok, hrest⟩ := h.flush hans hwf.steady
    exact .some ⟨congrArg SenderAnswer.flag hok, hrest⟩
  | _ =>
    -- the setters of single members
    obtain ⟨made, packet, hudp, rfl, hbytes⟩ := alike_cases h
    exact .some ⟨rfl, made, packet, hudp, rfl, hbytes⟩

end Alike

end RtpSender

/-! ## Runs -/

/-- **A sender forgets.** Take two senders of one class that were configured alike, one of them in a reachable
state and the other one in any, on UDP objects that answer alike from now on; open both again and make the same
calls, of any kind. All calls complete; each returns the same on both, offers the same packets and leaves
getters that show the same. So no frame that was pending, no packet that lies in the scratch and nothing that
was sent or went wrong before a `begin` is ever seen after it. -/
theorem open_forgets [PCMFlow] :
    (∀ {s t : VbanSender}, s.Reachable → VbanSender.SameConfig s t → s.udp.AnswersLike t.udp →
      ∀ (destPort : UInt16) (streamName : Option (List UInt8)) (calls : List VbanSender.Call),
        ∃ es s' t', checked VbanSender.observe s (.begin destPort streamName :: calls) = some (es, s') ∧
          checked VbanSender.observe t (.begin destPort streamName :: calls) = some (es, t')) ∧
      ∀ {s t : RtpSender}, s.Reachable → RtpSender.SameConfig s t → s.udp.AnswersLike t.udp →
        ∀ (destPort : UInt16) (ssrc : UInt32) (rnd : RtpRandom) (calls : List RtpSender.Call),
          ∃ es s' t', checked RtpSender.observe s (.begin destPort ssrc rnd :: calls) = some (es, s') ∧
            checked RtpSender.observe t (.begin destPort ssrc rnd :: calls) = some (es, t') := by
  constructor
  · intro s t hs hconfig hans destPort streamName calls
    exact SwapWriter.forgets (fun _ _ _ => rfl) VbanSender.WF VbanSender.wf_call
      (fun s t c hwf hst => VbanSender.call_alike hans hwf hst c) hs.wf rfl rfl
        (hconfig.begin destPort streamName) calls
  · intro s t hs hconfig hans destPort ssrc rnd calls
    exact SwapWriter.forgets (fun _ _ _ => rfl) RtpSender.WF RtpSender.wf_call
      (fun s t c hwf hst => RtpSender.call_alike hans hwf hst c) hs.wf rfl rfl
        (hconfig.begin destPort ssrc rnd) calls

/-- A sender that was configured only, and one with frames pending in a filled scratch, a failed send behind it
and other counters: after `begin` the same frames go out in the same packets. -/
theorem open_forgets_used :
    let udp : Udp := { script := fun _ => {}, attempts := [⟨[1, 2], { endPacket := 0 }⟩] }
    let s : VbanSender := (@VbanSender.setFormat PCMFlow.documented (VbanSender.new fun _ => {}) ⟨8000, 1, 16⟩).2
    let t : RtpSender := (@RtpSender.setFormat PCMFlow.documented (RtpSender.new fun _ => {}) ⟨8000, 2, 16⟩).2
    let s' : VbanSender :=
      { s with udp, packet := Buffer.filled _ 9, pendingFrames := 3, frameCounter := 7, error := .sendFailed }
    let t' : RtpSender :=
      { t with udp, packet := Buffer.filled _ 9, pendingFrames := 3, ssrc := 5, error := .sendFailed }
    let vban : List VbanSender.Call := [.writeFrames (some [1, 0, 2, 0]) 2, .flush, .end_]
    let rtp : List RtpSender.Call := [.writeFrames (some [1, 0, 2, 0]) 1, .writeEncoded (some [6]) 1, .flush]
    (∃ es u u', checked (@VbanSender.observe PCMFlow.documented) s (.begin 6980 none :: vban) = some (es, u) ∧
      checked (@VbanSender.observe PCMFlow.documented) s' (.begin 6980 none :: vban) = some (es, u')) ∧
      ∃ es u u', checked (@RtpSender.observe PCMFlow.documented) t (.begin 5004 1 ⟨2, 3, 4⟩ :: rtp)
        = some (es, u) ∧
        checked (@RtpSender.observe PCMFlow.documented) t' (.begin 5004 1 ⟨2, 3, 4⟩ :: rtp) = some (es, u') := by
  intro udp s t s' t' vban rtp
  constructor
  · exact (@open_forgets PCMFlow.documented).1 (s := s) (t := s') ⟨fun _ => {}, [.setFormat ⟨8000, 1, 16⟩], rfl⟩
      ⟨rfl, rfl, rfl⟩ (fun _ => rfl) 6980 none vban
  · exact (@open_forgets PCMFlow.documented).2 (s := t) (t := t') ⟨fun _ => {}, [.setFormat ⟨8000, 2, 16⟩], rfl⟩
      ⟨rfl, rfl, rfl, rfl, rfl, rfl⟩ (fun _ => rfl) 5004 1 ⟨2, 3, 4⟩ rtp

end PcmFlowUdp
