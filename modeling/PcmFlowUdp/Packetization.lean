import PcmFlowUdp.ByteTransport.Batching
import PcmFlowUdp.ByteTransport.Buffer
import PcmFlowUdp.Pcm

/-! # Packing PCM frames into a packet scratch

Both senders keep the packet under construction in a scratch buffer: a header area, then the frames
that are pending. Their `writeFrames` run the same loop over it (`PacketScratch.writeLoop`): copy as
many frames as the packet has room for, emit if that filled it, go round again.

`PacketScratch.Lawful` says what the loop needs of a sender; `Emits s packets s'` is the sender's own
account of having emitted packets with the given frames. Under it the loop is batched accumulation
(`batcher`), and

* **`Lawful.writeLoop_foldl`** — the loop finishes and accepts the frames as it accepts them one by one;
* **`Lawful.writeLoop_spec`** — what it emits followed by what stays pending is what was pending followed
  by what was accepted. -/

namespace PcmFlowUdp

open ByteTransport PcmFrame

/-- The packet scratch of a sender whose member variables are a `σ`. -/
structure PacketScratch (σ : Type) where
  /-- Where the payload area begins. -/
  headerBytes : ℕ
  /-- The size of the scratch. -/
  maxBytes : ℕ
  packet : σ → Buffer UInt8 maxBytes
  pendingFrames : σ → ℕ
  samplesPerPacket : σ → ℕ
  /-- Replace the scratch and the number of pending frames. -/
  store : σ → Buffer UInt8 maxBytes → ℕ → σ
  /-- Emit the pending frames. -/
  emit : σ → σ

namespace PacketScratch

variable {σ : Type} (P : PacketScratch σ)

/-- The batching loop of `writeFrames`, for at most `fuel` iterations: the number of frames consumed
and the state afterwards. -/
def writeLoop (bytesPerFrame : ℕ) (src : List UInt8) (frameCount : ℕ) :
    ℕ → ℕ → σ → Option (ℕ × σ)
  | 0, consumed, s => if consumed < frameCount then none else some (consumed, s)
  | fuel + 1, consumed, s =>
      if consumed < frameCount then
        let roomFrames := P.samplesPerPacket s - P.pendingFrames s
        let batch := if frameCount - consumed < roomFrames then frameCount - consumed else roomFrames
        let s :=
          P.store s
            ((P.packet s).blit (P.headerBytes + P.pendingFrames s * bytesPerFrame)
              (readMem src (consumed * bytesPerFrame) (batch * bytesPerFrame)))
            (P.pendingFrames s + batch)
        let s := if P.samplesPerPacket s ≤ P.pendingFrames s then P.emit s else s
        writeLoop bytesPerFrame src frameCount fuel (consumed + batch) s
      else some (consumed, s)

/-- Related states that packetize alike loop alike, if copying and emitting keep them related. -/
theorem writeLoop_rel {R : σ → σ → Prop}
    (hread : ∀ s t, R s t → P.packet t = P.packet s ∧ P.pendingFrames t = P.pendingFrames s ∧
      P.samplesPerPacket t = P.samplesPerPacket s)
    (hstore : ∀ s t packet k, R s t → R (P.store s packet k) (P.store t packet k))
    (hemit : ∀ s t, R s t → R (P.emit s) (P.emit t)) (bytesPerFrame : ℕ) (src : List UInt8)
    (frameCount fuel consumed : ℕ) {s t : σ} (h : R s t) :
    Option.Rel (fun a b => a.1 = b.1 ∧ R a.2 b.2)
      (P.writeLoop bytesPerFrame src frameCount fuel consumed s)
      (P.writeLoop bytesPerFrame src frameCount fuel consumed t) := by
  induction fuel generalizing consumed s t with
  | zero =>
    rw [writeLoop, writeLoop]
    split
    · exact .none
    · exact .some ⟨rfl, h⟩
  | succ fuel ih =>
    rw [writeLoop, writeLoop]
    by_cases hlt : consumed < frameCount
    · obtain ⟨hpacket, hpending, hsamples⟩ := hread s t h
      rw [if_pos hlt, if_pos hlt]
      dsimp only
      rw [hpacket, hpending, hsamples]
      generalize (if frameCount - consumed < P.samplesPerPacket s - P.pendingFrames s then
        frameCount - consumed else P.samplesPerPacket s - P.pendingFrames s) = batch
      apply ih
      -- both emit, or neither
      have hcopied := hstore s t
        ((P.packet s).blit (P.headerBytes + P.pendingFrames s * bytesPerFrame)
          (readMem src (consumed * bytesPerFrame) (batch * bytesPerFrame)))
        (P.pendingFrames s + batch) h
      obtain ⟨-, hpending', hsamples'⟩ := hread _ _ hcopied
      rw [hpending', hsamples']
      split
      · exact hemit _ _ hcopied
      · exact hcopied
    · rw [if_neg hlt, if_neg hlt]
      exact .some ⟨rfl, h⟩

variable {c : ℕ}

/-- The pending frames as they lie in the scratch. -/
def pendingBytes (c : ℕ) (s : σ) : List UInt8 :=
  (P.packet s).slice P.headerBytes (P.pendingFrames s * (c * 2))

/-- The pending frames. -/
def pending (c : ℕ) (s : σ) : List (PcmFrame c) := hostFrames c (P.pendingBytes c s)

/-- Copy frames behind the pending ones. -/
def put (s : σ) (fs : List (PcmFrame c)) : σ :=
  P.store s
    ((P.packet s).blit (P.headerBytes + P.pendingFrames s * (c * 2)) (hostImage fs))
    (P.pendingFrames s + fs.length)

/-- The loop accumulates frames and emits full packets. -/
def batcher (c : ℕ) : Batcher σ (PcmFrame c) where
  pending := P.pendingFrames
  limit := P.samplesPerPacket
  put := P.put
  emit := P.emit

section Pending

variable {P} {s : σ} (hroom : P.headerBytes + P.pendingFrames s * (c * 2) ≤ P.maxBytes)

include hroom

/-- The pending frames take their bytes of the scratch. -/
theorem length_pendingBytes : (P.pendingBytes c s).length = P.pendingFrames s * (c * 2) :=
  Buffer.length_slice _ hroom

/-- The pending frames lie in the scratch in host byte order. -/
theorem hostImage_pending (hc : 0 < c) : hostImage (P.pending c s) = P.pendingBytes c s :=
  hostImage_hostFrames hc (by
    rw [length_pendingBytes hroom]
    exact Nat.dvd_mul_left _ _)

/-- There are as many of them as are counted. -/
theorem length_pending (hc : 0 < c) : (P.pending c s).length = P.pendingFrames s := by
  have hlen := length_hostImage (P.pending c s)
  rw [hostImage_pending hroom hc, length_pendingBytes hroom] at hlen
  exact (Nat.eq_of_mul_eq_mul_right (by omega) hlen).symm

end Pending

/-- None counted, none there. -/
theorem pending_eq_nil (hc : 0 < c) {s : σ} (hzero : P.pendingFrames s = 0) :
    P.pending c s = [] := by
  have hnil := hostFrames_hostImage hc ([] : List (PcmFrame c))
  rw [pending, pendingBytes, hzero, Nat.zero_mul, Buffer.slice_zero]
  rwa [hostImage_nil] at hnil

/-- What the loop needs of a sender on the states of `Ok`, where a frame has `c` channels.
`Emits s packets s'` is the sender's account of emitting the frames of `packets`. -/
structure Lawful (c : ℕ) (Ok : σ → Prop) (Emits : σ → List (List (PcmFrame c)) → σ → Prop) :
    Prop where
  channels_pos : 0 < c
  packet_store : ∀ s packet k, P.packet (P.store s packet k) = packet
  pendingFrames_store : ∀ s packet k, P.pendingFrames (P.store s packet k) = k
  samplesPerPacket_store : ∀ s packet k, P.samplesPerPacket (P.store s packet k) = P.samplesPerPacket s
  store_store : ∀ s packet k packet' k',
    P.store (P.store s packet k) packet' k' = P.store s packet' k'
  ok_store : ∀ s packet k, Ok s → Ok (P.store s packet k)
  /-- A packet holds at least one frame. -/
  samplesPerPacket_pos : ∀ s, Ok s → 0 < P.samplesPerPacket s
  /-- A full packet fits the scratch. -/
  fits : ∀ s, Ok s → P.headerBytes + P.samplesPerPacket s * (c * 2) ≤ P.maxBytes
  samplesPerPacket_emit : ∀ s, Ok s → P.samplesPerPacket (P.emit s) = P.samplesPerPacket s
  pendingFrames_emit : ∀ s, Ok s → P.pendingFrames (P.emit s) = 0
  ok_emit : ∀ s, Ok s → Ok (P.emit s)
  emits_refl : ∀ s, Emits s [] s
  emits_store : ∀ s packet k, Ok s → Emits s [] (P.store s packet k)
  emits_emit : ∀ s, Ok s → 0 < P.pendingFrames s → P.pendingFrames s ≤ P.samplesPerPacket s →
    Emits s [P.pending c s] (P.emit s)
  emits_trans : ∀ s t u ps qs, Emits s ps t → Emits t qs u → Emits s (ps ++ qs) u

variable {P} {Ok : σ → Prop} {Emits : σ → List (List (PcmFrame c)) → σ → Prop}

namespace Lawful

variable (h : P.Lawful c Ok Emits) {s : σ}

include h

/-- Any number of frames up to a full packet fits the scratch. -/
theorem room (hs : Ok s) {k : ℕ} (hk : k ≤ P.samplesPerPacket s) :
    P.headerBytes + k * (c * 2) ≤ P.maxBytes :=
  (Nat.add_le_add_left (Nat.mul_le_mul_right _ hk) _).trans (h.fits s hs)

/-- Frames are copied one behind the other. -/
theorem put_append (fs gs : List (PcmFrame c)) :
    P.put (P.put s fs) gs = P.put s (fs ++ gs) := by
  have hoff : P.headerBytes + (P.pendingFrames s + fs.length) * (c * 2)
      = P.headerBytes + P.pendingFrames s * (c * 2) + (hostImage fs).length := by
    rw [length_hostImage, Nat.add_mul, Nat.add_assoc]
  simp only [put, h.store_store, h.packet_store, h.pendingFrames_store, hoff, Buffer.blit_append,
    hostImage_append, List.length_append, Nat.add_assoc (P.pendingFrames s)]

/-- The loop is a lawful batcher. -/
theorem batcher_lawful : (P.batcher c).Lawful Ok where
  put_append _ fs gs _ := h.put_append fs gs
  pending_put _ _ _ := h.pendingFrames_store _ _ _
  limit_put _ _ _ := h.samplesPerPacket_store _ _ _
  pending_emit := h.pendingFrames_emit
  limit_emit := h.samplesPerPacket_emit
  ok_put _ _ hs := h.ok_store _ _ _ hs
  ok_emit := h.ok_emit

/-- The pending frames after copying frames that fit. -/
theorem pending_put (hs : Ok s) {fs : List (PcmFrame c)}
    (hfit : P.pendingFrames s + fs.length ≤ P.samplesPerPacket s) :
    P.pending c (P.put s fs) = P.pending c s ++ fs := by
  have hroom := h.room hs hfit
  rw [Nat.add_mul, ← length_hostImage, ← Nat.add_assoc] at hroom
  have hbytes : P.pendingBytes c (P.put s fs) = P.pendingBytes c s ++ hostImage fs := by
    have hext := Buffer.slice_blit_extend (P.packet s) hroom
    rw [pendingBytes, put, h.packet_store, h.pendingFrames_store, Nat.add_mul, ← length_hostImage]
    exact hext
  rw [pending, hbytes, ← hostImage_pending (h.room hs (by omega)) h.channels_pos, ← hostImage_append,
    hostFrames_hostImage h.channels_pos]

/-- Their bytes. -/
theorem pendingBytes_put (hs : Ok s) {fs : List (PcmFrame c)}
    (hfit : P.pendingFrames s + fs.length ≤ P.samplesPerPacket s) :
    P.pendingBytes c (P.put s fs) = P.pendingBytes c s ++ hostImage fs := by
  have hput : P.pendingFrames (P.put s fs) ≤ P.samplesPerPacket s :=
    (h.pendingFrames_store _ _ _).trans_le hfit
  rw [← hostImage_pending (h.room hs hput) h.channels_pos, h.pending_put hs hfit, hostImage_append,
    hostImage_pending (h.room hs (by omega)) h.channels_pos]

/-- Accepting a frame: it stays pending, or everything pending is emitted with it. -/
theorem push_spec (hs : Ok s) (hlt : P.pendingFrames s < P.samplesPerPacket s) (f : PcmFrame c) :
    ∃ packets, Emits s packets ((P.batcher c).push s f) ∧
      packets.flatten ++ P.pending c ((P.batcher c).push s f) = P.pending c s ++ [f] ∧
      ∀ frames ∈ packets, frames.length = P.samplesPerPacket s := by
  have hput : Emits s [] (P.put s [f]) := h.emits_store _ _ _ hs
  have hok : Ok (P.put s [f]) := h.ok_store _ _ _ hs
  have hcount : P.pendingFrames (P.put s [f]) = P.pendingFrames s + 1 := h.pendingFrames_store _ _ _
  have hlim : P.samplesPerPacket (P.put s [f]) = P.samplesPerPacket s :=
    h.samplesPerPacket_store _ _ _
  have hpend : P.pending c (P.put s [f]) = P.pending c s ++ [f] := h.pending_put hs hlt
  rw [Batcher.push, Batcher.settle]
  split
  · -- the frame filled the packet
    have hemit := h.emits_emit _ hok (by rw [hcount]; omega) (by rw [hcount, hlim]; exact hlt)
    have hnil : P.pending c (P.emit (P.put s [f])) = [] :=
      P.pending_eq_nil h.channels_pos (h.pendingFrames_emit _ hok)
    refine ⟨_, h.emits_trans _ _ _ _ _ hput hemit, ?_, ?_⟩
    · show ([] ++ [P.pending c (P.put s [f])]).flatten ++ P.pending c (P.emit (P.put s [f])) = _
      rw [hnil, hpend]
      simp
    · intro frames hmem
      obtain rfl : frames = P.pending c (P.put s [f]) := by simpa using hmem
      rename_i hfull
      have hfull' : P.samplesPerPacket (P.put s [f]) ≤ P.pendingFrames (P.put s [f]) := hfull
      rw [hcount, hlim] at hfull'
      rw [length_pending (h.room hok (by rw [hcount, hlim]; exact hlt)) h.channels_pos, hcount]
      omega
  · exact ⟨[], hput, hpend, by simp⟩

/-- Accepting frames one by one: full packets are emitted, and what is emitted and what stays pending is
everything, in order. -/
theorem foldl_push_spec (fs : List (PcmFrame c)) (hs : Ok s)
    (hlt : P.pendingFrames s < P.samplesPerPacket s) :
    ∃ packets, Emits s packets (fs.foldl (P.batcher c).push s) ∧
      packets.flatten ++ P.pending c (fs.foldl (P.batcher c).push s) = P.pending c s ++ fs ∧
      ∀ frames ∈ packets, frames.length = P.samplesPerPacket s := by
  induction fs generalizing s with
  | nil => exact ⟨[], h.emits_refl s, by simp, by simp⟩
  | cons f fs ih =>
    obtain ⟨ps, hps, hflat, hfull⟩ := h.push_spec hs hlt f
    obtain ⟨hok, hlim, hlt'⟩ := h.batcher_lawful.foldl_push_inv hs hlt [f]
    rw [List.foldl_cons, List.foldl_nil] at hok hlim hlt'
    obtain ⟨qs, hqs, hflat', hfull'⟩ := ih hok (lt_of_lt_of_eq hlt' hlim.symm)
    refine ⟨ps ++ qs, h.emits_trans _ _ _ _ _ hps hqs, ?_, ?_⟩
    · rw [List.foldl_cons, List.flatten_append, List.append_assoc, hflat', ← List.append_assoc, hflat,
        List.append_assoc, List.singleton_append]
    · intro frames hmem
      rcases List.mem_append.mp hmem with hp | hq
      · exact hfull frames hp
      · exact (hfull' frames hq).trans hlim

/-- **What else the scratch holds does not matter.** States that are related and have the same frames pending
stay so as they accept frames, if emitting keeps them related and so does a copy that leaves the same pending. -/
theorem foldl_push_rel {R : σ → σ → Prop}
    (hread : ∀ s t, R s t → P.pendingFrames t = P.pendingFrames s ∧ P.samplesPerPacket t = P.samplesPerPacket s)
    (hbytes : ∀ s t, Ok s → R s t → Ok t ∧ P.pendingBytes c t = P.pendingBytes c s)
    (hstore : ∀ s t p q k, Ok s → R s t →
      q.slice P.headerBytes (k * (c * 2)) = p.slice P.headerBytes (k * (c * 2)) →
        R (P.store s p k) (P.store t q k))
    (hemit : ∀ s t, Ok s → P.pendingFrames s ≤ P.samplesPerPacket s → R s t → R (P.emit s) (P.emit t)) {t : σ}
    (hs : Ok s) (hlt : P.pendingFrames s < P.samplesPerPacket s) (hrel : R s t) (fs : List (PcmFrame c)) :
    R (fs.foldl (P.batcher c).push s) (fs.foldl (P.batcher c).push t) := by
  refine h.batcher_lawful.foldl_push_rel hread ?_ hemit hs hlt hrel fs
  intro s t f hs (hlt : P.pendingFrames s < P.samplesPerPacket s) hrel
  obtain ⟨hpending, hsamples⟩ := hread s t hrel
  obtain ⟨ht, hsame⟩ := hbytes s t hs hrel
  have hfit : P.pendingFrames s + [f].length ≤ P.samplesPerPacket s := hlt
  have hs' := h.pendingBytes_put hs hfit
  have ht' := h.pendingBytes_put ht (by rw [hpending, hsamples]; exact hfit)
  -- the pending bytes are read back from the copies
  rw [pendingBytes, put, h.packet_store, h.pendingFrames_store] at hs' ht'
  rw [hsame, ← hs', hpending] at ht'
  show R (P.store s _ _) (P.store t _ _)
  rw [hpending]
  exact hstore s t _ _ _ hs hrel ht'

/-- The loop is the batched loop over the frames in the caller's memory. -/
theorem writeLoop_eq (src : List UInt8) (frameCount fuel : ℕ) {consumed : ℕ}
    (hle : consumed ≤ frameCount) (s : σ) :
    P.writeLoop (c * 2) src frameCount fuel consumed s
      = ((P.batcher c).loop fuel s ((memFrames c src frameCount).drop consumed)).map
          fun s' => (frameCount, s') := by
  have hc := h.channels_pos
  induction fuel generalizing consumed s with
  | zero =>
    -- the loop goes on exactly while frames are left
    have hlen : ((memFrames c src frameCount).drop consumed).length = frameCount - consumed := by
      rw [List.length_drop, length_memFrames hc]
    rw [writeLoop]
    cases hfs : (memFrames c src frameCount).drop consumed with
    | nil =>
      rw [hfs, List.length_nil] at hlen
      rw [if_neg (by omega), show consumed = frameCount by omega]
      rfl
    | cons f fs =>
      rw [hfs, List.length_cons] at hlen
      rw [if_pos (by omega)]
      rfl
  | succ fuel ih =>
    have hlen : ((memFrames c src frameCount).drop consumed).length = frameCount - consumed := by
      rw [List.length_drop, length_memFrames hc]
    rw [writeLoop]
    by_cases hlt : consumed < frameCount
    · rw [if_pos hlt]
      cases hfs : (memFrames c src frameCount).drop consumed with
      | nil =>
        rw [hfs, List.length_nil] at hlen
        omega
      | cons f fs =>
        rw [Batcher.loop, ← hfs, hlen]
        generalize hbatch : (if frameCount - consumed < (P.batcher c).limit s - (P.batcher c).pending s
          then frameCount - consumed else (P.batcher c).limit s - (P.batcher c).pending s) = batch
        have hbatch_le : consumed + batch ≤ frameCount := by
          rw [← hbatch]
          split <;> omega
        have hcode : (if frameCount - consumed < P.samplesPerPacket s - P.pendingFrames s
          then frameCount - consumed else P.samplesPerPacket s - P.pendingFrames s) = batch := hbatch
        have htake : (((memFrames c src frameCount).drop consumed).take batch).length = batch := by
          rw [List.length_take, hlen, min_eq_left (by omega)]
        -- one iteration copies `batch` frames and emits a full packet
        have hput : P.store s
            ((P.packet s).blit (P.headerBytes + P.pendingFrames s * (c * 2))
              (readMem src (consumed * (c * 2)) (batch * (c * 2))))
            (P.pendingFrames s + batch)
              = P.put s (((memFrames c src frameCount).drop consumed).take batch) := by
          rw [put, readMem_memFrames hc src hbatch_le, htake]
        simp only [hcode, hput]
        rw [List.drop_drop]
        exact ih hbatch_le _
    · have hfs : (memFrames c src frameCount).drop consumed = [] :=
        List.length_eq_zero_iff.mp (by omega)
      rw [if_neg hlt, hfs, show consumed = frameCount by omega]
      rfl

/-- **Chunking never matters.** From a scratch short of a full packet the loop finishes, accepts every frame
and leaves the state that accepting them one by one leaves. -/
theorem writeLoop_foldl (hs : Ok s) (hlt : P.pendingFrames s < P.samplesPerPacket s) (src : List UInt8)
    (frameCount : ℕ) :
    P.writeLoop (c * 2) src frameCount frameCount 0 s
      = some (frameCount, (memFrames c src frameCount).foldl (P.batcher c).push s) := by
  have hlen := length_memFrames h.channels_pos src frameCount
  rw [h.writeLoop_eq src frameCount frameCount (Nat.zero_le _), List.drop_zero,
    h.batcher_lawful.loop_eq_foldl frameCount hs hlt hlen.le]
  rfl

/-- What the loop emits and what stays pending is what was pending and what it accepted, in order. -/
theorem writeLoop_spec (hs : Ok s)
    (hlt : P.pendingFrames s < P.samplesPerPacket s) (src : List UInt8) (frameCount : ℕ) :
    ∃ packets s', P.writeLoop (c * 2) src frameCount frameCount 0 s = some (frameCount, s') ∧
      Emits s packets s' ∧
      packets.flatten ++ P.pending c s' = P.pending c s ++ memFrames c src frameCount ∧
      Ok s' ∧ P.pendingFrames s' < P.samplesPerPacket s' := by
  obtain ⟨packets, hemits, hflat, -⟩ := h.foldl_push_spec (memFrames c src frameCount) hs hlt
  obtain ⟨hok, hlim, hpend⟩ := h.batcher_lawful.foldl_push_inv hs hlt (memFrames c src frameCount)
  exact ⟨packets, _, h.writeLoop_foldl hs hlt src frameCount, hemits, hflat, hok,
    lt_of_lt_of_eq hpend hlim.symm⟩

end Lawful

end PacketScratch

end PcmFlowUdp
