import PcmFlowUdp.ByteTransport.Runs
import PcmFlowUdp.Packetization

/-! # What `writeFrames` and `flush` do around the packet scratch

Both senders make the same checks before they run the loop over their scratch, or emit what is pending in it: is
the sender ready, is it set up for frames, is there anything to do. A `Flusher` is a packet scratch with what
`flush` looks at, a `FrameWriter` has what `writeFrames` looks at besides, and the two functions are written
once more over these. Each sender is one of them by definition, and what follows from the checks and the loop is
said here for both:

* **`Flusher.flush_idle`**, **`FrameWriter.writeFrames_cases`** — a call that is turned down sets the last error
  at most;
* **`Flusher.flush_rel`**, **`FrameWriter.writeFrames_rel`** — related senders stay related;
* **`Lawful.writeFrames_spec`**, **`Lawful.flush_spec`** — what is sent and what stays pending is what was
  pending and what was accepted, in order. -/

namespace PcmFlowUdp

open ByteTransport PcmFrame

/-- A packet scratch that is flushed, with what `flush` looks at. The last error is a member of its own: setting
it changes nothing else. -/
structure Flusher (σ ε : Type) extends PacketScratch σ where
  ready : σ → Bool
  error : σ → ε
  setError : σ → ε → σ
  /-- What a sender that is not ready reports. -/
  notReady : ε
  setError_error : ∀ s, setError s (error s) = s := by intros; rfl
  setError_setError : ∀ s e e', setError (setError s e) e' = setError s e' := by intros; rfl
  ready_setError : ∀ s e, ready (setError s e) = ready s := by intros; rfl
  packet_setError : ∀ s e, packet (setError s e) = packet s := by intros; rfl
  pendingFrames_setError : ∀ s e, pendingFrames (setError s e) = pendingFrames s := by intros; rfl
  samplesPerPacket_setError : ∀ s e, samplesPerPacket (setError s e) = samplesPerPacket s := by intros; rfl
  store_setError : ∀ s e p k, store (setError s e) p k = setError (store s p k) e := by intros; rfl

namespace Flusher

variable {σ ε : Type} [BEq ε] (F : Flusher σ ε)

/-- `flush`: emit what is pending, and report whether the last error is as it was. -/
def flush (s : σ) : Bool × σ :=
  if !F.ready s then (false, F.setError s F.notReady)
  else if F.pendingFrames s = 0 then (true, s)
  else (F.error (F.emit s) == F.error s, F.emit s)

variable {F} {s t : σ}

/-- A `flush` with frames pending emits them. -/
theorem flush_eq (hready : F.ready s = true) (hpending : F.pendingFrames s ≠ 0) :
    F.flush s = (F.error (F.emit s) == F.error s, F.emit s) := by
  rw [flush, if_neg (by rw [hready]; decide), if_neg hpending]

/-- With nothing pending there is nothing to do. -/
theorem flush_empty (hready : F.ready s = true) (hzero : F.pendingFrames s = 0) : F.flush s = (true, s) := by
  rw [flush, if_neg (by rw [hready]; decide), if_pos hzero]

/-- A sender that is not ready reports it. -/
theorem flush_notReady (hready : F.ready s = false) : F.flush s = (false, F.setError s F.notReady) := by
  rw [flush, if_pos (by rw [hready]; rfl)]

/-- **Any `flush` that does not emit** leaves all but the last error alone. -/
theorem flush_idle (hidle : ¬ (F.ready s = true ∧ F.pendingFrames s ≠ 0)) :
    ∃ error, (F.flush s).2 = F.setError s error := by
  cases hready : F.ready s with
  | false =>
    rw [flush_notReady hready]
    exact ⟨_, rfl⟩
  | true =>
    have hzero : F.pendingFrames s = 0 := by simpa [hready] using hidle
    rw [flush_empty hready hzero]
    exact ⟨F.error s, (F.setError_error s).symm⟩

section Related

variable {R : σ → σ → Prop} (hready : F.ready t = F.ready s) (hpending : F.pendingFrames t = F.pendingFrames s)
  (hst : R s t) (herror : ∀ e, R (F.setError s e) (F.setError t e))
  (hemit : F.ready s = true → F.pendingFrames s ≠ 0 → R (F.emit s) (F.emit t))

include hready hpending hst herror hemit

/-- **Senders that are related** stay so when they are flushed, if an error and an emission keep them so. -/
theorem flush_rel : R (F.flush s).2 (F.flush t).2 := by
  rw [flush, flush, hready, hpending]
  cases hset : F.ready s with
  | false => exact herror _
  | true =>
    by_cases hzero : F.pendingFrames s = 0
    · simpa [hzero] using hst
    · simpa [hzero] using hemit hset hzero

omit hst herror in
/-- They report the same if they show the same error before and after. -/
theorem flush_report (hsame : F.error t = F.error s) (hshow : ∀ a b, R a b → F.error b = F.error a) :
    (F.flush t).1 = (F.flush s).1 := by
  rw [flush, flush, hready, hpending, hsame]
  cases hset : F.ready s with
  | false => rfl
  | true =>
    by_cases hzero : F.pendingFrames s = 0
    · simp [hzero]
    · simp [hzero, hshow _ _ (hemit hset hzero)]

end Related

end Flusher

/-- A sender of frames, with what `writeFrames` looks at. -/
structure FrameWriter (σ ε : Type) extends Flusher σ ε where
  /-- The sender has no packet size for frames, or no frame size. -/
  unset : σ → Bool
  /-- What it reports then. -/
  unsetError : ε
  bytesPerFrame : σ → ℕ
  unset_setError : ∀ s e, unset (setError s e) = unset s := by intros; rfl
  bytesPerFrame_setError : ∀ s e, bytesPerFrame (setError s e) = bytesPerFrame s := by intros; rfl

namespace FrameWriter

variable {σ ε : Type} (W : FrameWriter σ ε)

/-- `writeFrames`. -/
def writeFrames (s : σ) (src : Option (List UInt8)) (frameCount : ℕ) : Option (ℕ × σ) :=
  if !W.ready s then some (0, W.setError s W.notReady)
  else if W.unset s then some (0, W.setError s W.unsetError)
  else
    match src with
    -- a null pointer is no error
    | none => some (0, s)
    | some src =>
        if frameCount = 0 then some (0, s)
        else W.writeLoop (W.bytesPerFrame s) src frameCount frameCount 0 s

variable {W} {s t : σ}

/-- A sender that is ready and set up looks at its arguments. -/
theorem writeFrames_eq (hready : W.ready s = true) (hset : W.unset s = false) (src : Option (List UInt8))
    (frameCount : ℕ) :
    W.writeFrames s src frameCount = src.elim (some (0, s)) fun mem =>
      if frameCount = 0 then some (0, s) else W.writeLoop (W.bytesPerFrame s) mem frameCount frameCount 0 s := by
  unfold writeFrames
  rw [hready, hset]
  cases src <;> rfl

/-- **A call is turned down**, and sets the last error at most, or the sender is ready and set up. -/
theorem writeFrames_cases (s : σ) (src : Option (List UInt8)) (frameCount : ℕ) :
    (∃ error, W.writeFrames s src frameCount = some (0, W.setError s error)) ∨
      ∃ mem, src = some mem ∧ W.ready s = true ∧ W.unset s = false := by
  unfold writeFrames
  cases hready : W.ready s with
  | false => exact .inl ⟨W.notReady, rfl⟩
  | true =>
    cases hset : W.unset s with
    | true => exact .inl ⟨W.unsetError, rfl⟩
    | false =>
      cases src with
      | none => exact .inl ⟨W.error s, by rw [W.setError_error]; rfl⟩
      | some mem => exact .inr ⟨mem, rfl, rfl, rfl⟩

/-- A call for which there is a reason to turn it down accepts nothing. -/
theorem writeFrames_refused {src : Option (List UInt8)} {frameCount : ℕ}
    (h : W.ready s = false ∨ W.unset s = true ∨ src = none ∨ frameCount = 0) :
    ∃ error, W.writeFrames s src frameCount = some (0, W.setError s error) := by
  rcases writeFrames_cases s src frameCount with hdown | ⟨mem, rfl, hready, hset⟩
  · exact hdown
  · have hnone : frameCount = 0 := by simpa [hready, hset] using h
    exact ⟨W.error s, by rw [writeFrames_eq hready hset, W.setError_error]; exact if_pos hnone⟩

/-- **Senders that are related** stay so when they write, and accept alike, if an error and the loop keep them
so. -/
theorem writeFrames_rel {R : σ → σ → Prop} (hready : W.ready t = W.ready s) (hset : W.unset t = W.unset s)
    (hsize : W.bytesPerFrame t = W.bytesPerFrame s) (hst : R s t)
    (herror : ∀ e, R (W.setError s e) (W.setError t e)) (src : Option (List UInt8)) (frameCount : ℕ)
    (hloop : ∀ mem, W.ready s = true → W.unset s = false →
      Option.Rel (fun a b => a.1 = b.1 ∧ R a.2 b.2)
        (W.writeLoop (W.bytesPerFrame s) mem frameCount frameCount 0 s)
        (W.writeLoop (W.bytesPerFrame s) mem frameCount frameCount 0 t)) :
    Option.Rel (fun a b => a.1 = b.1 ∧ R a.2 b.2) (W.writeFrames s src frameCount)
      (W.writeFrames t src frameCount) := by
  unfold writeFrames
  rw [hready, hset, hsize]
  cases hs : W.ready s with
  | false => exact .some ⟨rfl, herror _⟩
  | true =>
    cases hu : W.unset s with
    | true => exact .some ⟨rfl, herror _⟩
    | false =>
      cases src with
      | none => exact .some ⟨rfl, hst⟩
      | some mem =>
        by_cases hzero : frameCount = 0
        · simpa [hzero] using hst
        · simpa [hzero] using hloop mem hs hu

/-! ## Senders with a lawful scratch -/

variable {c : ℕ} {Ok : σ → Prop} {Emits : σ → List (List (PcmFrame c)) → σ → Prop}

/-- What a sender of frames of `c` channels promises for the states of `Ok`. -/
structure Lawful (W : FrameWriter σ ε) (c : ℕ) (Ok : σ → Prop)
    (Emits : σ → List (List (PcmFrame c)) → σ → Prop) :
    Prop extends W.toPacketScratch.Lawful c Ok Emits where
  set : ∀ s, Ok s → W.unset s = false
  bytesPerFrame : ∀ s, Ok s → W.bytesPerFrame s = c * 2
  ready_of_emits : ∀ s packets s', Emits s packets s' → W.ready s' = W.ready s

/-- A sender that is ready and set up, and short of a full packet. -/
structure Writing (W : FrameWriter σ ε) (Ok : σ → Prop) (s : σ) : Prop where
  ok : Ok s
  ready : W.ready s = true
  pending : W.pendingFrames s < W.samplesPerPacket s

namespace Lawful

variable (h : W.Lawful c Ok Emits)

include h

/-- The checks passed, the loop runs. -/
theorem writeFrames_loop (hs : Ok s) (hready : W.ready s = true) (src : List UInt8) (frameCount : ℕ) :
    W.writeFrames s (some src) frameCount = W.writeLoop (c * 2) src frameCount frameCount 0 s := by
  rw [writeFrames_eq hready (h.set s hs), h.bytesPerFrame s hs, Option.elim_some]
  by_cases hzero : frameCount = 0
  · -- the loop would not do anything either
    subst hzero
    rfl
  · exact if_neg hzero

/-- `writeFrames` accepts frames as it accepts them one by one. -/
theorem writeFrames_foldl (hw : W.Writing Ok s) (src : List UInt8) (frameCount : ℕ) :
    W.writeFrames s (some src) frameCount
      = some (frameCount, (memFrames c src frameCount).foldl (W.batcher c).push s) := by
  rw [h.writeFrames_loop hw.ok hw.ready, h.writeLoop_foldl hw.ok hw.pending]

/-- **What `writeFrames` does.** It accepts everything; what it sends and what stays pending is what was
pending and everything accepted, in order. -/
theorem writeFrames_spec (hw : W.Writing Ok s) (src : List UInt8) (frameCount : ℕ) :
    ∃ packets s', W.writeFrames s (some src) frameCount = some (frameCount, s') ∧ Emits s packets s' ∧
      packets.flatten ++ W.pending c s' = W.pending c s ++ memFrames c src frameCount ∧
      W.pendingFrames s' < W.samplesPerPacket s' := by
  obtain ⟨packets, s', hloop, hemits, hflat, -, hlt'⟩ := h.writeLoop_spec hw.ok hw.pending src frameCount
  exact ⟨packets, s', (h.writeFrames_loop hw.ok hw.ready src frameCount).trans hloop, hemits, hflat, hlt'⟩

/-- **What `flush` does.** It sends what is pending. -/
theorem flush_spec [BEq ε] (hw : W.Writing Ok s) :
    ∃ packets, Emits s packets (W.flush s).2 ∧ packets.flatten = W.pending c s ∧
      W.pendingFrames (W.flush s).2 = 0 := by
  by_cases hzero : W.pendingFrames s = 0
  · rw [Flusher.flush_empty hw.ready hzero]
    exact ⟨[], h.emits_refl s, (W.pending_eq_nil h.channels_pos hzero).symm, hzero⟩
  · rw [Flusher.flush_eq hw.ready hzero]
    exact ⟨[W.pending c s], h.emits_emit s hw.ok (Nat.pos_of_ne_zero hzero) hw.pending.le, by simp,
      h.pendingFrames_emit s hw.ok⟩

/-- Accepting frames one by one: full packets leave, the rest stays pending. -/
theorem foldl_push (hw : W.Writing Ok s) (fs : List (PcmFrame c)) :
    W.Writing Ok (fs.foldl (W.batcher c).push s) ∧
      W.samplesPerPacket (fs.foldl (W.batcher c).push s) = W.samplesPerPacket s ∧
      ∃ packets, Emits s packets (fs.foldl (W.batcher c).push s) ∧
        packets.flatten ++ W.pending c (fs.foldl (W.batcher c).push s) = W.pending c s ++ fs ∧
        ∀ frames ∈ packets, frames.length = W.samplesPerPacket s := by
  obtain ⟨packets, hemits, hflat, hfull⟩ := h.foldl_push_spec fs hw.ok hw.pending
  obtain ⟨hok, hlim, hlt⟩ := h.batcher_lawful.foldl_push_inv hw.ok hw.pending fs
  exact ⟨⟨hok, (h.ready_of_emits _ _ _ hemits).trans hw.ready, lt_of_lt_of_eq hlt hlim.symm⟩, hlim,
    packets, hemits, hflat, hfull⟩

end Lawful

end FrameWriter

end PcmFlowUdp
