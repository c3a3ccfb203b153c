import PcmFlowUdp.Packetization

/-! # The emissions of a `writeFrames` loop

An emission depends on the state in the middle of a call, which no caller sees. `PacketScratch.logged` is
the packet scratch of a sender beside which a log is kept: the states in which the loop emits, in order.
The log changes nothing else (`writeLoop_logged`), and under the laws of the scratch

* **`Lawful.writeLoop_emissions`** — every state in the log has frames to emit that fit a packet, in the
  setup that the call was made in, and what was offered to be sent is one packet for each of them. -/

namespace PcmFlowUdp

open ByteTransport

namespace PacketScratch

variable {σ : Type} (P : PacketScratch σ)

/-- The scratch with a log of the states in which it emits. -/
def logged : PacketScratch (σ × List σ) where
  headerBytes := P.headerBytes
  maxBytes := P.maxBytes
  packet s := P.packet s.1
  pendingFrames s := P.pendingFrames s.1
  samplesPerPacket s := P.samplesPerPacket s.1
  store s packet pendingFrames := (P.store s.1 packet pendingFrames, s.2)
  emit s := (P.emit s.1, s.2 ++ [s.1])

/-- Without its log the loop is the loop of the sender. -/
theorem writeLoop_logged (bytesPerFrame : ℕ) (src : List UInt8) (frameCount fuel consumed : ℕ)
    (s : σ × List σ) :
    (P.logged.writeLoop bytesPerFrame src frameCount fuel consumed s).map (fun r => (r.1, r.2.1))
      = P.writeLoop bytesPerFrame src frameCount fuel consumed s.1 := by
  have hsettle : ∀ t : σ × List σ,
      (if P.logged.samplesPerPacket t ≤ P.logged.pendingFrames t then P.logged.emit t else t).1
        = if P.samplesPerPacket t.1 ≤ P.pendingFrames t.1 then P.emit t.1 else t.1 := by
    intro t
    show (if P.samplesPerPacket t.1 ≤ P.pendingFrames t.1 then P.logged.emit t else t).1 = _
    split <;> rfl
  induction fuel generalizing consumed s with
  | zero => simp only [writeLoop]; split <;> rfl
  | succ fuel ih =>
    rw [writeLoop, writeLoop]
    by_cases hlt : consumed < frameCount
    · rw [if_pos hlt, if_pos hlt]
      dsimp only
      rw [ih, hsettle]
      rfl
    · rw [if_neg hlt, if_neg hlt]
      rfl

/-- The states in which a call emits: those of the loop over `frameCount` frames at `src`. -/
def loopEmissions (bytesPerFrame : ℕ) (src : List UInt8) (frameCount : ℕ) (s : σ) : List σ :=
  ((P.logged.writeLoop bytesPerFrame src frameCount frameCount 0 (s, [])).map fun r => r.2.2).getD []

variable {P} {c : ℕ} {Ok : σ → Prop} {Emits : σ → List (List (PcmFrame c)) → σ → Prop}

/-- A state in the middle of a call that was made in state `s`, in which the frames pending are
emitted. -/
structure EmitsIn (P : PacketScratch σ) (Ok : σ → Prop)
    (Emits : σ → List (List (PcmFrame c)) → σ → Prop) (s e : σ) : Prop where
  ok : Ok e
  pos : 0 < P.pendingFrames e
  le : P.pendingFrames e ≤ P.samplesPerPacket e
  /-- Packets with these frames left in the call before. -/
  before : ∃ packets, Emits s packets e

/-- From `s` to `s'` the states `s'.2` were added to the log, and what was sent is one packet for each. -/
structure LogsEmissions (P : PacketScratch σ) (Ok : σ → Prop)
    (Emits : σ → List (List (PcmFrame c)) → σ → Prop) {β : Type} (sent : σ → List β) (offer : σ → β)
    (s : σ × List σ) (packets : List (List (PcmFrame c))) (s' : σ × List σ) : Prop where
  emits : Emits s.1 packets s'.1
  log : ∃ es, s'.2 = s.2 ++ es ∧ (∀ e ∈ es, EmitsIn P Ok Emits s.1 e) ∧
    es.map (P.pending c) = packets ∧ sent s'.1 = sent s.1 ++ es.map offer

namespace Lawful

variable (h : P.Lawful c Ok Emits) {β : Type} {sent : σ → List β} {offer : σ → β}
  (hstore : ∀ s packet k, sent (P.store s packet k) = sent s)
  (hemit : ∀ s, Ok s → 0 < P.pendingFrames s → P.pendingFrames s ≤ P.samplesPerPacket s →
    sent (P.emit s) = sent s ++ [offer s])

include h hstore hemit

/-- The scratch with a log is as lawful as the one without. -/
theorem logged : P.logged.Lawful c (fun s => Ok s.1) (LogsEmissions P Ok Emits sent offer) where
  channels_pos := h.channels_pos
  packet_store _ _ _ := h.packet_store _ _ _
  pendingFrames_store _ _ _ := h.pendingFrames_store _ _ _
  samplesPerPacket_store _ _ _ := h.samplesPerPacket_store _ _ _
  store_store s packet k packet' k' := Prod.ext (h.store_store s.1 packet k packet' k') rfl
  ok_store s packet k hs := h.ok_store s.1 packet k hs
  samplesPerPacket_pos s hs := h.samplesPerPacket_pos s.1 hs
  fits s hs := h.fits s.1 hs
  samplesPerPacket_emit s hs := h.samplesPerPacket_emit s.1 hs
  pendingFrames_emit s hs := h.pendingFrames_emit s.1 hs
  ok_emit s hs := h.ok_emit s.1 hs
  emits_refl s := ⟨h.emits_refl s.1, [], by simp⟩
  emits_store s packet k hs := by
    refine ⟨h.emits_store s.1 packet k hs, [], (List.append_nil _).symm, by simp, rfl, ?_⟩
    rw [List.map_nil, List.append_nil]
    exact hstore s.1 packet k
  emits_emit s hs hpos hle := by
    refine ⟨h.emits_emit s.1 hs hpos hle, [s.1], rfl, ?_, rfl, hemit s.1 hs hpos hle⟩
    intro e he
    obtain rfl := List.mem_singleton.mp he
    exact ⟨hs, hpos, hle, [], h.emits_refl s.1⟩
  emits_trans s t u ps qs hst htu := by
    -- the log of the second run starts behind that of the first
    obtain ⟨es, hlog, hall, hpend, hsent⟩ := hst.log
    obtain ⟨es', hlog', hall', hpend', hsent'⟩ := htu.log
    refine ⟨h.emits_trans _ _ _ _ _ hst.emits htu.emits, es ++ es', ?_, ?_, ?_, ?_⟩
    · rw [hlog', hlog, List.append_assoc]
    · intro e he
      rcases List.mem_append.mp he with hl | hr
      · exact hall e hl
      · obtain ⟨hok, hpos, hle, packets, hbefore⟩ := hall' e hr
        exact ⟨hok, hpos, hle, ps ++ packets, h.emits_trans _ _ _ _ _ hst.emits hbefore⟩
    · rw [List.map_append, hpend, hpend']
    · rw [hsent', hsent, List.map_append, List.append_assoc]

/-- **What the loop emits.** -/
theorem writeLoop_emissions {s : σ} (hs : Ok s) (hlt : P.pendingFrames s < P.samplesPerPacket s)
    (src : List UInt8) (frameCount : ℕ) :
    ∃ s', P.writeLoop (c * 2) src frameCount frameCount 0 s = some (frameCount, s') ∧
      (∀ e ∈ P.loopEmissions (c * 2) src frameCount s, EmitsIn P Ok Emits s e) ∧
      Emits s ((P.loopEmissions (c * 2) src frameCount s).map (P.pending c)) s' ∧
      sent s' = sent s ++ (P.loopEmissions (c * 2) src frameCount s).map offer ∧
      ((P.loopEmissions (c * 2) src frameCount s).map (P.pending c)).flatten ++ P.pending c s'
        = P.pending c s ++ memFrames c src frameCount ∧
      P.pendingFrames s' < P.samplesPerPacket s' := by
  obtain ⟨packets, ⟨s', log⟩, hloop, hlogs, hflat, -, hlt'⟩ :=
    (h.logged hstore hemit).writeLoop_spec (s := (s, [])) hs hlt src frameCount
  obtain ⟨es, hlog, hall, hpend, hsent⟩ := hlogs.log
  have hes : P.loopEmissions (c * 2) src frameCount s = es := by
    rw [loopEmissions, hloop]
    exact hlog
  have hplain := P.writeLoop_logged (c * 2) src frameCount frameCount 0 (s, [])
  rw [hloop] at hplain
  rw [hes, hpend]
  exact ⟨s', hplain.symm, hall, hlogs.emits, hsent, hflat, hlt'⟩

end Lawful

end PacketScratch

end PcmFlowUdp
