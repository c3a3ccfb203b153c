import PcmFlowUdp.WholePackets

/-! # What `flush` reports

`VbanSender.h` promises that `flush` returns `false` on a send failure, and both senders read this off the last
error: "unchanged means emit didn't set SendFailed". If an earlier failure is standing, `SendFailed` is what
the last error was already, and a failed send leaves it unchanged.

* `FlushReports` — the promise, for one `flush`;
* **`flush_reports`** — a run keeps it at every `flush` of a ready sender exactly if, whenever `SendFailed` is
  standing, the packet that is sent then goes out. -/

namespace PcmFlowUdp

open ByteTransport

/-- A `flush` that returns `result` tells the truth: with no frames pending it does nothing and succeeds, and
otherwise it offers `packet` once and succeeds exactly if the UDP object accepts it. -/
structure FlushReports (pendingFrames : ℕ) (packet : List UInt8) (before after : Udp) (result : Bool) :
    Prop where
  empty : pendingFrames = 0 → result = true ∧ after = before
  offers : pendingFrames ≠ 0 → after.attempts = before.attempts ++ [⟨packet, before.next⟩]
  truth : pendingFrames ≠ 0 → (result = true ↔ before.next.ok = true)

/-- **One `flush`** of a sender whose emission makes one attempt, and counts it as successful also when a
failure is standing. -/
theorem Flusher.flushReports_iff {σ ε : Type} [BEq ε] {F : Flusher σ ε} {udp : σ → Udp} {s : σ}
    {packet : List UInt8}
    {standing : Prop} (hready : F.ready s = true)
    (hemit : F.pendingFrames s ≠ 0 → udp (F.emit s) = ((udp s).transmit packet).2 ∧
      ((F.error (F.emit s) == F.error s) = true ↔ (udp s).next.ok = true ∨ standing)) :
    FlushReports (F.pendingFrames s) packet (udp s) (udp (F.flush s).2) (F.flush s).1 ↔
      (F.pendingFrames s ≠ 0 → standing → (udp s).next.ok = true) := by
  by_cases hzero : F.pendingFrames s = 0
  · -- nothing to send, nothing to report
    rw [Flusher.flush_empty hready hzero]
    constructor
    · intro _ hne
      exact absurd hzero hne
    · intro _
      exact ⟨fun _ => ⟨rfl, rfl⟩, fun hne => absurd hzero hne, fun hne => absurd hzero hne⟩
  · obtain ⟨hudp, hresult⟩ := hemit hzero
    rw [Flusher.flush_eq hready hzero, imp_iff_right hzero, hudp]
    constructor
    · intro h hstanding
      exact (h.truth hzero).mp (hresult.mpr (.inr hstanding))
    · intro hstanding
      refine ⟨fun h0 => absurd h0 hzero, fun _ => rfl, fun _ => hresult.trans ?_⟩
      exact or_iff_left_of_imp hstanding

/-! ## The senders -/

namespace VbanSender

variable [PCMFlow]

/-- This `flush` tells the truth. -/
def FlushTells (s : VbanSender) : Prop :=
  FlushReports s.pendingFrames s.nextPacket s.udp s.flush.2.udp s.flush.1

/-- A `flush` that sends while `SendFailed` is standing succeeds. -/
def FlushFits (s : VbanSender) : Call → Prop
  | .flush => s.ready = true → s.pendingFrames ≠ 0 → s.error = .sendFailed → s.udp.next.ok = true
  | _ => True

/-- **One `flush`.** -/
theorem flushTells_iff {s : VbanSender} (hready : s.ready = true) :
    s.FlushTells ↔ (s.pendingFrames ≠ 0 → s.error = .sendFailed → s.udp.next.ok = true) :=
  Flusher.flushReports_iff (F := (writer).toFlusher) hready fun hpending => by
    show s.emitPacket.udp = _ ∧ ((s.emitPacket.error == s.error) = true ↔ _)
    rw [emitPacket_eq hpending]
    exact ⟨rfl, error_unchanged_iff _ _ _⟩

omit [PCMFlow] in
/-- The condition is about `flush` alone. -/
theorem flushFits_other (s : VbanSender) (call : Call) (h : call ≠ .flush) : s.FlushFits call := by
  cases call with
  | flush => exact absurd rfl h
  | _ => trivial

end VbanSender

namespace RtpSender

/-- This `flush` tells the truth. -/
def FlushTells (s : RtpSender) : Prop :=
  FlushReports s.pendingFrames s.nextPacket s.udp s.flush.2.udp s.flush.1

/-- A `flush` that sends while `SendFailed` is standing succeeds. -/
def FlushFits (s : RtpSender) : Call → Prop
  | .flush => s.ready = true → s.pendingFrames ≠ 0 → s.error = .sendFailed → s.udp.next.ok = true
  | _ => True

/-- **One `flush`.** -/
theorem flushTells_iff {s : RtpSender} (hready : s.ready = true) :
    s.FlushTells ↔ (s.pendingFrames ≠ 0 → s.error = .sendFailed → s.udp.next.ok = true) :=
  Flusher.flushReports_iff (F := flusher) hready fun hpending => by
    obtain ⟨hudp, -, herror⟩ := emitL16Packet_attempt hpending
    show s.emitL16Packet.udp = _ ∧ ((s.emitL16Packet.error == s.error) = true ↔ _)
    rw [herror]
    exact ⟨hudp, error_unchanged_iff _ _ _⟩

/-- The condition is about `flush` alone. -/
theorem flushFits_other (s : RtpSender) (call : Call) (h : call ≠ .flush) : s.FlushFits call := by
  cases call with
  | flush => exact absurd rfl h
  | _ => trivial

end RtpSender

/-! ## Runs -/

/-- **When `flush` reports the truth.** For either sender, in every run from construction, whatever the calls
and the answers of the UDP object: every `flush` of a ready sender reports what became of the packet that it
sent exactly if each one that sends while `SendFailed` is standing succeeds. -/
theorem flush_reports [PCMFlow] (script : ℕ → UdpTx) :
    (∀ calls : List VbanSender.Call,
      Admissible VbanSender.step VbanSender.FlushFits (VbanSender.new script) calls ↔
        ∀ past, past ++ [.flush] <+: calls → ∀ s,
          run VbanSender.step (VbanSender.new script) past = some s → s.ready = true → s.FlushTells) ∧
    (∀ calls : List RtpSender.Call,
      Admissible RtpSender.step RtpSender.FlushFits (RtpSender.new script) calls ↔
        ∀ past, past ++ [.flush] <+: calls → ∀ s,
          run RtpSender.step (RtpSender.new script) past = some s → s.ready = true → s.FlushTells) := by
  constructor
  · intro calls
    refine admissible_iff_at VbanSender.Call.flush ?_ VbanSender.flushFits_other
    intro s
    exact imp_congr_right fun hready => (VbanSender.flushTells_iff hready).symm
  · intro calls
    refine admissible_iff_at RtpSender.Call.flush ?_ RtpSender.flushFits_other
    intro s
    exact imp_congr_right fun hready => (RtpSender.flushTells_iff hready).symm

/-- A UDP object that refuses every packet. -/
def refusing : ℕ → UdpTx := fun _ => { beginPacket := 0 }

/-- A mono stream of which two single frames are sent, the first of them by a `flush` that fails. -/
def twoFlushes : List VbanSender.Call :=
  [.begin 6980 none, .setFormat ⟨48000, 1, 16⟩, .writeFrames (some [1, 2]) 1, .flush,
    .writeFrames (some [3, 4]) 1]

/-- The same for RTP. -/
def twoRtpFlushes : List RtpSender.Call :=
  [.begin 5004 1 ⟨1, 0, 0⟩, .setFormat ⟨48000, 1, 16⟩, .writeFrames (some [1, 2]) 1, .flush,
    .writeFrames (some [3, 4]) 1]

/-- **The second failure is reported as success.** -/
theorem second_failure_unreported :
    (∃ s, run (@VbanSender.step PCMFlow.documented) (VbanSender.new refusing) twoFlushes = some s ∧
      s.ready = true ∧ s.pendingFrames = 1 ∧ s.udp.next.ok = false ∧
      (@VbanSender.flush PCMFlow.documented s).1 = true ∧ ¬ @VbanSender.FlushTells PCMFlow.documented s) ∧
    (∃ s, run (@RtpSender.step PCMFlow.documented) (RtpSender.new refusing) twoRtpFlushes = some s ∧
      s.ready = true ∧ s.pendingFrames = 1 ∧ s.udp.next.ok = false ∧ s.flush.1 = true ∧
      ¬ s.FlushTells) := by
  constructor
  · refine ⟨_, rfl, rfl, rfl, rfl, rfl, ?_⟩
    intro htells
    exact absurd ((htells.truth (by decide)).mp rfl) (by decide)
  · refine ⟨_, rfl, rfl, rfl, rfl, rfl, ?_⟩
    intro htells
    exact absurd ((htells.truth (by decide)).mp rfl) (by decide)

end PcmFlowUdp
