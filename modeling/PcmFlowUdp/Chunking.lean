import PcmFlowUdp.Rtp.Packetizer
import PcmFlowUdp.Vban.Packetizer

/-! # How a caller chunks its writes does not matter

A caller may hand its frames to `writeFrames` in one call or in many. One call accepts its frames as it
would accept them one by one (`writeFrames_foldl`), so a sequence of calls accepts all of them one by one,
and the calls can no longer be told apart.

* **`Lawful.chunk_independent`** — the argument, for a writer of either kind;
* **`writes_chunk_independent`** — for both senders: two sequences of calls that write the same frames
  offer the same packets and end in the same state, every packet being full. -/

namespace PcmFlowUdp

open ByteTransport

/-- The frames written by a sequence of calls; each is given its memory and its frame count. -/
def framesOf (c : ℕ) (chunks : List (List UInt8 × ℕ)) : List (PcmFrame c) :=
  chunks.flatMap fun chunk => memFrames c chunk.1 chunk.2

/-- The frames of the first write and of the others. -/
@[simp] theorem framesOf_cons (c : ℕ) (chunk : List UInt8 × ℕ) (chunks : List (List UInt8 × ℕ)) :
    framesOf c (chunk :: chunks) = memFrames c chunk.1 chunk.2 ++ framesOf c chunks := by
  simp [framesOf]

/-- **The chunking rule.** If, in the states of an invariant, a call accepts its frames one by one and keeps
the invariant, a sequence of calls accepts all its frames one by one. -/
theorem run_chunks {σ ι : Type*} {c : ℕ} {step : σ → ι → Option σ} {write : List UInt8 × ℕ → ι}
    {push : σ → PcmFrame c → σ} {Inv : σ → Prop}
    (hstep : ∀ s chunk, Inv s → step s (write chunk) = some ((memFrames c chunk.1 chunk.2).foldl push s))
    (hinv : ∀ s (fs : List (PcmFrame c)), Inv s → Inv (fs.foldl push s)) {s : σ} (hs : Inv s)
    (chunks : List (List UInt8 × ℕ)) :
    run step s (chunks.map write) = some ((framesOf c chunks).foldl push s) := by
  induction chunks generalizing s with
  | nil => rfl
  | cons chunk chunks ih =>
    rw [List.map_cons, run_cons_of_step (hstep s chunk hs), ih (hinv s _ hs), framesOf_cons,
      List.foldl_append]

/-- **Chunking never matters** to a lawful writer that is ready and short of a full packet. -/
theorem FrameWriter.Lawful.chunk_independent {σ ε ι : Type} {W : FrameWriter σ ε} {c : ℕ} {Ok : σ → Prop}
    {Emits : σ → List (List (PcmFrame c)) → σ → Prop} (h : W.Lawful c Ok Emits) {step : σ → ι → Option σ}
    {write : List UInt8 × ℕ → ι}
    (hstep : ∀ s chunk, step s (write chunk) = (W.writeFrames s (some chunk.1) chunk.2).map Prod.snd) {s : σ}
    (hs : W.Writing Ok s) {chunks chunks' : List (List UInt8 × ℕ)}
    (hsame : framesOf c chunks = framesOf c chunks') :
    ∃ s' packets, run step s (chunks.map write) = some s' ∧ run step s (chunks'.map write) = some s' ∧
      Emits s packets s' ∧ packets.flatten ++ W.pending c s' = W.pending c s ++ framesOf c chunks ∧
      (∀ frames ∈ packets, frames.length = W.samplesPerPacket s) ∧
        W.pendingFrames s' < W.samplesPerPacket s := by
  -- a call accepts its frames one by one, and so do any number of calls
  have hrun : ∀ chunks, run step s (chunks.map write)
      = some ((framesOf c chunks).foldl (W.batcher c).push s) := fun chunks =>
    run_chunks (fun s chunk (hs : W.Writing Ok s) => by rw [hstep, h.writeFrames_foldl hs]; rfl)
      (fun s fs hs => (h.foldl_push hs fs).1) hs chunks
  obtain ⟨hend, hlim, packets, hemits, hflat, hfull⟩ := h.foldl_push hs (framesOf c chunks)
  exact ⟨_, packets, hrun chunks, by rw [hrun chunks', hsame], hemits, hflat, hfull,
    lt_of_lt_of_eq hend.pending hlim⟩

/-- **Packetization does not depend on the chunking of the writes**, on either sender, in every state in
which it is ready and configured, whatever becomes of the sends: two sequences of calls that write the same
frames end in the same state, the packets offered to the UDP object included. Every packet offered is full,
what is offered and stays pending is what was pending and was written, and less than a packet stays
pending. -/
theorem writes_chunk_independent [PCMFlow] :
    (∀ s : VbanSender, s.Reachable → s.ready = true → s.samplesPerPacket ≠ 0 →
      ∀ chunks chunks' : List (List UInt8 × ℕ),
        framesOf s.format.channels.toNat chunks = framesOf s.format.channels.toNat chunks' →
      ∃ s' packets,
        run VbanSender.step s (chunks.map fun chunk => .writeFrames (some chunk.1) chunk.2) = some s' ∧
        run VbanSender.step s (chunks'.map fun chunk => .writeFrames (some chunk.1) chunk.2) = some s' ∧
        VbanSender.Emits s packets s' ∧
        packets.flatten ++ (VbanSender.scratch).pending _ s'
          = (VbanSender.scratch).pending _ s ++ framesOf s.format.channels.toNat chunks ∧
        (∀ frames ∈ packets, frames.length = s.samplesPerPacket.toNat) ∧
        s'.pendingFrames < s.samplesPerPacket.toNat) ∧
      (∀ s : RtpSender, s.Reachable → s.ready = true → s.samplesPerPacket ≠ 0 →
        ∀ chunks chunks' : List (List UInt8 × ℕ),
          framesOf s.format.channels.toNat chunks = framesOf s.format.channels.toNat chunks' →
        ∃ s' packets,
          run RtpSender.step s (chunks.map fun chunk => .writeFrames (some chunk.1) chunk.2) = some s' ∧
          run RtpSender.step s (chunks'.map fun chunk => .writeFrames (some chunk.1) chunk.2) = some s' ∧
          RtpSender.Emits s packets s' ∧
          packets.flatten ++ RtpSender.scratch.pending _ s'
            = RtpSender.scratch.pending _ s ++ framesOf s.format.channels.toNat chunks ∧
          (∀ frames ∈ packets, frames.length = s.samplesPerPacket.toNat) ∧
          s'.pendingFrames < s.samplesPerPacket.toNat) := by
  constructor
  · intro s hs hready hset chunks chunks' hsame
    have hmode := hs.wf.audioMode hset
    exact (VbanSender.writer_lawful hmode.channels_pos).chunk_independent
      (fun s chunk => by rw [VbanSender.step, VbanSender.writeFrames_writer])
      ⟨hmode, hready, hs.wf.pending_lt hmode⟩ hsame
  · intro s hs hready hset chunks chunks' hsame
    have hmode := hs.wf.l16Mode hset
    exact (RtpSender.writer_lawful hmode.channels_pos).chunk_independent
      (fun s chunk => by rw [RtpSender.step, RtpSender.writeFrames_writer])
      ⟨hmode, hready, hs.wf.pending_lt hmode⟩ hsame

/-- Three mono frames, at once and in two writes. -/
theorem writes_chunk_independent_three :
    let once : List (List UInt8 × ℕ) := [([1, 0, 2, 0, 3, 0], 3)]
    let twice : List (List UInt8 × ℕ) := [([1, 0], 1), ([2, 0, 3, 0], 2)]
    let s : VbanSender := (@VbanSender.setFormat PCMFlow.documented
      ((VbanSender.new fun _ => {}).begin 6980 none).2 ⟨8000, 1, 16⟩).2
    let t : RtpSender := (@RtpSender.setFormat PCMFlow.documented
      ((RtpSender.new fun _ => {}).begin 5004 1 ⟨2, 3, 4⟩).2 ⟨100, 1, 16⟩).2
    (∃ s' packets,
      run (@VbanSender.step PCMFlow.documented) s
        (once.map fun chunk => .writeFrames (some chunk.1) chunk.2) = some s' ∧
      run (@VbanSender.step PCMFlow.documented) s
        (twice.map fun chunk => .writeFrames (some chunk.1) chunk.2) = some s' ∧
      VbanSender.Emits s packets s' ∧
      packets.flatten ++ (@VbanSender.scratch PCMFlow.documented).pending _ s'
        = (@VbanSender.scratch PCMFlow.documented).pending _ s
          ++ framesOf s.format.channels.toNat once ∧
      (∀ frames ∈ packets, frames.length = s.samplesPerPacket.toNat) ∧
      s'.pendingFrames < s.samplesPerPacket.toNat) ∧
    ∃ t' packets,
      run (@RtpSender.step PCMFlow.documented) t
        (once.map fun chunk => .writeFrames (some chunk.1) chunk.2) = some t' ∧
      run (@RtpSender.step PCMFlow.documented) t
        (twice.map fun chunk => .writeFrames (some chunk.1) chunk.2) = some t' ∧
      RtpSender.Emits t packets t' ∧
      packets.flatten ++ RtpSender.scratch.pending _ t'
        = RtpSender.scratch.pending _ t ++ framesOf t.format.channels.toNat once ∧
      (∀ frames ∈ packets, frames.length = t.samplesPerPacket.toNat) ∧
      t'.pendingFrames < t.samplesPerPacket.toNat := by
  intro once twice s t
  constructor
  · exact (@writes_chunk_independent PCMFlow.documented).1 s
      ⟨fun _ => {}, [.begin 6980 none, .setFormat ⟨8000, 1, 16⟩], rfl⟩ rfl (by decide +kernel) once twice
      (by decide +kernel)
  · exact (@writes_chunk_independent PCMFlow.documented).2 t
      ⟨fun _ => {}, [.begin 5004 1 ⟨2, 3, 4⟩, .setFormat ⟨100, 1, 16⟩], rfl⟩ rfl (by decide +kernel)
      once twice (by decide +kernel)

end PcmFlowUdp
