import PcmFlowUdp.Rtp.L16Packets
import PcmFlowUdp.Rtp.Receiver
import PcmFlowUdp.Rtp.Stream

/-! # The payload type of an L16 packet

Payload type 10 stands for two channels and 11 for one. `setFormat` sets it from the channel count but
takes every other count for one channel, and `setPayloadType` changes it under a format that stands.

* **`rtp_labels`** — the packets are labelled with the channel count that their frames were written with
  in every run whose configuration calls meet `ConfigFits`; after a call that does not meet it, frames can
  be written whose packet is labelled wrongly. -/

namespace PcmFlowUdp

open ByteTransport PcmFrame

/-- The payload type is the one for this channel count, which has one. -/
def LabelFits (pt channels : UInt8) : Prop :=
  channels = 1 ∧ pt = ptL16Mono ∨ channels = 2 ∧ pt = ptL16Stereo

namespace LabelFits

variable {pt channels : UInt8} (h : LabelFits pt channels)

include h

/-- PT 10 says that there are two channels. -/
theorem stereo_iff : pt = ptL16Stereo ↔ channels = 2 := by
  rcases h with ⟨hc, hpt⟩ | ⟨hc, hpt⟩ <;> simp [hc, hpt, ptL16Mono, ptL16Stereo]

/-- PT 11 says that there is one. -/
theorem mono_iff : pt = ptL16Mono ↔ channels = 1 := by
  rcases h with ⟨hc, hpt⟩ | ⟨hc, hpt⟩ <;> simp [hc, hpt, ptL16Mono, ptL16Stereo]

/-- A receiver that does not take the payload type for a dynamic one reads that many channels. -/
theorem receiver {r : RtpReceiver} (hr : r.dynamicL16Pt ≠ pt) :
    r.treatsAsL16 pt = true ∧ r.l16Channels pt = channels := by
  have hne : (pt == r.dynamicL16Pt) = false := beq_false_of_ne fun heq => hr heq.symm
  rw [RtpReceiver.treatsAsL16, RtpReceiver.l16Channels, hne]
  rcases h with ⟨hc, hpt⟩ | ⟨hc, hpt⟩ <;> simp [hc, hpt, ptL16Mono, ptL16Stereo]

end LabelFits

/-- The packet of the L16 path is an RTP packet whose header `h` names the channel count that its frames were
written with. -/
structure L16Packet.LabelledBy (p : L16Packet) (h : RtpHeader) : Prop where
  parses : IsRtpPacket p.state.nextPacket h
  payload : p.state.nextPacket.drop h.payloadOffset = AudioFrame.netImage p.frames
  stereo : h.payloadType = ptL16Stereo ↔ ∀ f ∈ p.frames, f.channels = 2
  mono : h.payloadType = ptL16Mono ↔ ∀ f ∈ p.frames, f.channels = 1
  channels : ∀ f ∈ p.frames, f.channels = 1 ∨ f.channels = 2
  /-- A receiver reads the packet with the channel count it was written with, unless it was told to take the
  payload type for a dynamic one. -/
  receiver : ∀ r : RtpReceiver, r.dynamicL16Pt ≠ h.payloadType →
    r.treatsAsL16 h.payloadType = true ∧
      ∀ f ∈ p.frames, (r.l16Channels h.payloadType).toNat = f.channels

/-- The packet is labelled with the channel count that its frames were written with. -/
def L16Packet.Labelled (p : L16Packet) : Prop := ∃ h, p.LabelledBy h

namespace RtpSender

/-- Every pending frame has the channels of the format. -/
theorem channels_framesPending {s : RtpSender} {f : AudioFrame} (h : f ∈ s.framesPending) :
    f.channels = s.format.channels.toNat := by
  obtain ⟨g, -, rfl⟩ := List.mem_map.mp h
  rfl

namespace Emitting

variable {e : RtpSender} (h : e.Emitting)

include h

/-- What is emitted is an RTP packet. -/
theorem isRtpPacket : IsRtpPacket e.nextPacket e.nextHeader.emitted := by
  have hlen : (AudioFrame.netImage e.framesPending).length
      = e.pendingFrames * (e.format.channels.toNat * 2) := by
    rw [framesPending, AudioFrame.netImage_map_audio, length_netImage,
      PacketScratch.length_pending (h.mode.room h.le) h.mode.channels_pos]
    rfl
  have hpos : 0 < (AudioFrame.netImage e.framesPending).length := by
    rw [hlen]
    exact Nat.mul_pos h.pos (Nat.mul_pos h.mode.channels_pos Nat.two_pos)
  have hmax : (AudioFrame.netImage e.framesPending).length ≤ kRtpMaxPayloadBytes := by
    rw [hlen]
    exact (Nat.mul_le_mul_right _ h.le).trans h.mode.fits
  rw [h.nextPacket_eq]
  exact isRtpPacket_encoded h.mode.payloadType_le hpos hmax

/-- A packet that is emitted holds a frame. -/
theorem exists_framesPending : ∃ f, f ∈ e.framesPending :=
  List.exists_mem_of_length_pos (by rw [h.length_framesPending]; exact h.pos)

/-- All its frames have the channel count of the format. -/
theorem channels_iff (n : UInt8) :
    (∀ f ∈ e.framesPending, f.channels = n.toNat) ↔ e.format.channels = n := by
  obtain ⟨f, hf⟩ := h.exists_framesPending
  constructor
  · intro hn
    exact UInt8.toNat_inj.mp ((channels_framesPending hf).symm.trans (hn f hf))
  · rintro rfl g hg
    exact channels_framesPending hg

/-- **What a label depends on.** The packet emitted in state `e` is labelled with the channels of its frames
exactly if the payload type fits the format. -/
theorem labelled_iff :
    (⟨e, e.framesPending⟩ : L16Packet).Labelled ↔ LabelFits e.payloadType e.format.channels := by
  constructor
  · -- the one header that the packet parses to decides, and its frames have the channels of the format
    rintro ⟨hdr, hby⟩
    have hdr_eq : hdr = e.nextHeader.emitted := by
      have hparse := h.isRtpPacket.parse
      rw [hby.parses.parse] at hparse
      exact Except.ok.inj hparse
    have hpt : hdr.payloadType = e.payloadType := by rw [hdr_eq]; rfl
    obtain ⟨f, hf⟩ := h.exists_framesPending
    rcases hby.channels f hf with hone | htwo
    · have hc : e.format.channels = 1 := UInt8.toNat_inj.mp ((channels_framesPending hf).symm.trans hone)
      exact .inl ⟨hc, hpt ▸ hby.mono.mpr ((h.channels_iff 1).mpr hc)⟩
    · have hc : e.format.channels = 2 := UInt8.toNat_inj.mp ((channels_framesPending hf).symm.trans htwo)
      exact .inr ⟨hc, hpt ▸ hby.stereo.mpr ((h.channels_iff 2).mpr hc)⟩
  · intro hfits
    refine ⟨e.nextHeader.emitted, h.isRtpPacket, ?_, ?_, ?_, ?_, ?_⟩
    · show e.nextPacket.drop kRtpHeaderBytes = _
      rw [h.nextPacket_eq]
      exact List.drop_left' (length_rtpHeaderBytes _)
    · exact hfits.stereo_iff.trans (h.channels_iff 2).symm
    · exact hfits.mono_iff.trans (h.channels_iff 1).symm
    · intro g hg
      rw [channels_framesPending hg]
      rcases hfits with ⟨hc, -⟩ | ⟨hc, -⟩ <;> simp [hc]
    · intro r hr
      obtain ⟨hl16, hchan⟩ := hfits.receiver hr
      refine ⟨hl16, fun g hg => ?_⟩
      rw [channels_framesPending hg]
      exact congrArg UInt8.toNat hchan

end Emitting

/-! ## Configuration -/

/-- In this configuration every packet is labelled with the channels of the format. -/
def ConfigLabels (s : RtpSender) : Prop :=
  s.samplesPerPacket ≠ 0 → LabelFits s.payloadType s.format.channels

/-- Whether the labels are right depends on the configuration only. -/
theorem ConfigLabels.congr {s s' : RtpSender} (hpt : s'.payloadType = s.payloadType)
    (hspp : s'.samplesPerPacket = s.samplesPerPacket) (hfmt : s'.format = s.format) :
    s'.ConfigLabels ↔ s.ConfigLabels := by
  rw [ConfigLabels, ConfigLabels, hpt, hspp, hfmt]

section Calls

variable [PCMFlow]

/-- What is asked of a configuration call: a format that `setFormat` accepts has one channel or two, and an
L16 payload type that `setPayloadType` accepts while a packet size stands is the one for the format. -/
def ConfigFits (s : RtpSender) : Call → Prop
  | .setFormat fmt =>
      fmt.isValid = true → fmt.bitsPerSample = 16 → fmt.channels = 1 ∨ fmt.channels = 2
  | .setPayloadType pt clockRate =>
      pt = ptL16Mono ∨ pt = ptL16Stereo → clockRate ≠ 0 → s.samplesPerPacket ≠ 0 →
        LabelFits pt s.format.channels
  | _ => True

/-- When they are right after `setPayloadType`. -/
theorem configLabels_setPayloadType {s : RtpSender} (h : s.ConfigLabels) (pt : UInt8) (clockRate : UInt32) :
    (s.setPayloadType pt clockRate).2.ConfigLabels ↔ s.ConfigFits (.setPayloadType pt clockRate) := by
  by_cases hrejected : pt > 0x7F ∨ clockRate = 0
  · rw [setPayloadType, if_pos hrejected]
    refine iff_of_true h fun hl16 hclock _ => ?_
    -- an L16 payload type takes seven bits
    rcases hrejected with hgt | hzero
    · rcases hl16 with rfl | rfl <;> exact absurd hgt (by decide)
    · exact absurd hzero hclock
  · have hclock : clockRate ≠ 0 := fun h0 => hrejected (.inr h0)
    rw [setPayloadType, if_neg hrejected]
    by_cases hl16 : pt = ptL16Mono ∨ pt = ptL16Stereo
    · have htrue : (pt == ptL16Mono || pt == ptL16Stereo) = true := by simpa using hl16
      simp [ConfigLabels, ConfigFits, htrue, hl16, hclock]
    · have hfalse : (pt == ptL16Mono || pt == ptL16Stereo) = false := by simpa using hl16
      simp [ConfigLabels, ConfigFits, hfalse, hl16]

/-- When they are right after `setFormat`. -/
theorem configLabels_setFormat {s : RtpSender} (h : s.ConfigLabels) (fmt : PCMFormat) :
    (s.setFormat fmt).2.ConfigLabels ↔ s.ConfigFits (.setFormat fmt) := by
  by_cases hok : fmt.isValid = true ∧ fmt.bitsPerSample = 16
  · obtain ⟨hvalid, hbits⟩ := hok
    obtain ⟨-, hmode, hfmt, -, -, -, hpt⟩ := s.setFormat_spec hvalid hbits
    have hiff : LabelFits (if fmt.channels = 2 then ptL16Stereo else ptL16Mono) fmt.channels
        ↔ fmt.channels = 1 ∨ fmt.channels = 2 := by
      by_cases htwo : fmt.channels = 2 <;> simp [LabelFits, htwo]
    rw [ConfigLabels, hpt, hfmt, hiff]
    exact ⟨fun hlabel _ _ => hlabel hmode.samplesPerPacket_ne_zero, fun hfits _ => hfits hvalid hbits⟩
  · rcases s.setFormat_cases fmt with ⟨error, heq⟩ | hcase
    · rw [heq]
      exact iff_of_true h fun hvalid hbits => absurd ⟨hvalid, hbits⟩ hok
    · exact absurd hcase hok

/-- **One call** keeps the labels right exactly if it meets `ConfigFits`. -/
theorem configLabels_step {s s' : RtpSender} (hwf : s.WF) (h : s.ConfigLabels) {call : Call}
    (hstep : step s call = some s') : s'.ConfigLabels ↔ s.ConfigFits call := by
  cases call with
  | setPayloadType pt clockRate =>
    obtain rfl := Option.some.inj hstep
    exact configLabels_setPayloadType h pt clockRate
  | setFormat fmt =>
    obtain rfl := Option.some.inj hstep
    exact configLabels_setFormat h fmt
  | writeFrames src frameCount =>
    obtain ⟨n, s'', heq, hoffers⟩ := writeFrames_emissions hwf src frameCount
    obtain rfl : s'' = s' := by
      rw [step, heq] at hstep
      exact Option.some.inj hstep
    exact iff_of_true ((ConfigLabels.congr hoffers.setup.payloadType hoffers.setup.samplesPerPacket
      hoffers.setup.format).mpr h) trivial
  | writeEncoded bytes count =>
    obtain rfl := Option.some.inj hstep
    refine iff_of_true ?_ trivial
    rcases writeEncoded_cases hwf bytes count with ⟨error, heq⟩ | ⟨mem, rfl, hready, hpt, hpos, hmax⟩
    · rw [heq]
      exact h
    · rw [writeEncoded_eq hready hpt mem hpos hmax]
      exact h
  | flush =>
    obtain rfl := Option.some.inj hstep
    have hsetup := (flush_emissions hwf).setup
    exact iff_of_true ((ConfigLabels.congr hsetup.payloadType hsetup.samplesPerPacket hsetup.format).mpr h)
      trivial
  | _ =>
    obtain rfl := Option.some.inj hstep
    exact iff_of_true h trivial

end Calls

end RtpSender

/-! ## Runs -/

namespace L16History

variable [PCMFlow]

/-- The calls by which a configured sender sends. -/
def probe : List RtpSender.Call := [.begin 1 1 ⟨0, 0, 0⟩, .writeFrames (some []) 1, .flush]

/-- **A wrong configuration shows.** From it a packet can be emitted that is labelled wrongly. -/
theorem probe_wrong {l : L16History} (h : l.Inv) (hbad : ¬ l.sender.ConfigLabels) :
    ∃ l', run step l probe = some l' ∧ ∃ p ∈ l'.emitted, ¬ p.Labelled := by
  obtain ⟨hspp, hfits⟩ := Classical.not_imp.mp hbad
  obtain ⟨l₁, h₁⟩ := h.step (show (RtpSender.Call.begin 1 1 ⟨0, 0, 0⟩).encoded = false from rfl)
  obtain ⟨l₂, h₂⟩ := h₁.inv.step (show (RtpSender.Call.writeFrames (some []) 1).encoded = false from rfl)
  obtain ⟨l₃, h₃⟩ := h₂.inv.step (show RtpSender.Call.flush.encoded = false from rfl)
  refine ⟨l₃, by rw [probe, run_cons_of_step h₁.step, run_cons_of_step h₂.step,
    run_cons_of_step h₃.step, run_nil], ?_⟩
  have hbegin : (l.sender.begin 1 1 ⟨0, 0, 0⟩).2 = l₁.sender := Option.some.inj h₁.sender
  have hready : l₁.sender.ready = true := by rw [← hbegin]; rfl
  have hmode : RtpSender.L16Mode l₁.sender.format.channels.toNat l₁.sender := by
    refine h₁.inv.wf.l16Mode ?_
    rw [← hbegin]
    exact hspp
  have hfits₁ : ¬ LabelFits l₁.sender.payloadType l₁.sender.format.channels := by
    rw [← hbegin]
    exact hfits
  -- a state in the setup after `begin` emits a packet that is labelled wrongly
  have hwrong : ∀ e : RtpSender, RtpSender.SameSetup l₁.sender e → e.Emitting →
      ¬ (⟨e, e.framesPending⟩ : L16Packet).Labelled := by
    intro e hsetup he hlabelled
    have hgood := he.labelled_iff.mp hlabelled
    rw [hsetup.payloadType, hsetup.format] at hgood
    exact hfits₁ hgood
  obtain ⟨n, s₂, hwrite, hoffers⟩ := RtpSender.writeFrames_emissions h₁.inv.wf (some []) 1
  obtain rfl : s₂ = l₂.sender := by
    have hstep := h₂.sender
    rw [RtpSender.step, hwrite] at hstep
    exact Option.some.inj hstep
  by_cases hnone : l₁.sender.emissions (.writeFrames (some []) 1) = []
  · -- the frame is pending, and the flush emits it
    have haccepted : l₁.sender.accepted (.writeFrames (some []) 1) ≠ [] := by
      have hlen := length_memFrames hmode.channels_pos [] 1
      rw [RtpSender.accepted_writeFrames h₁.inv.wf hmode hready]
      intro hnil
      rw [List.map_eq_nil_iff.mp hnil] at hlen
      simp at hlen
    have hpending : l₂.sender.pendingFrames ≠ 0 := by
      intro hzero
      have hframes := hoffers.frames
      rw [hnone, RtpSender.framesPending_eq_nil hzero] at hframes
      exact haccepted (List.append_eq_nil_iff.mp hframes.symm).2
    have hflush : l₂.sender.emissions .flush = [l₂.sender] := by
      simp [RtpSender.emissions, hoffers.setup.ready, hready, hpending]
    have hmem : ⟨l₂.sender, l₂.sender.framesPending⟩ ∈ l₃.emitted := by
      rw [h₃.emitted, hflush]
      simp
    exact ⟨_, hmem, hwrong l₂.sender hoffers.setup (h₃.inv.carried _ hmem).1⟩
  · obtain ⟨e, he⟩ := List.exists_mem_of_ne_nil _ hnone
    have hmem : ⟨e, e.framesPending⟩ ∈ l₃.emitted := by
      rw [h₃.emitted, h₂.emitted]
      exact List.mem_append_left _ (List.mem_append_right _ (List.mem_map_of_mem he))
    exact ⟨_, hmem, hwrong e (h₂.setup e he) (h₃.inv.carried _ hmem).1⟩

/-- Every packet so far is labelled rightly, and the next one would be. -/
def Right (l : L16History) : Prop :=
  l.Inv ∧ l.sender.ConfigLabels ∧ ∀ p ∈ l.emitted, p.Labelled

/-- A call that meets `ConfigFits` keeps the labels right. -/
theorem Right.step {l : L16History} (h : l.Right) {call : RtpSender.Call} (hpath : call.encoded = false)
    (hfits : l.sender.ConfigFits call) : ∃ l', l.step call = some l' ∧ l'.Right := by
  obtain ⟨hinv, hlabels, hall⟩ := h
  obtain ⟨l', hsteps⟩ := hinv.step hpath
  have hlabels' := (RtpSender.configLabels_step hinv.wf hlabels hsteps.sender).mpr hfits
  refine ⟨l', hsteps.step, hsteps.inv, hlabels', fun p hp => ?_⟩
  obtain ⟨hemitting, hframes⟩ := hsteps.inv.carried p hp
  rw [hsteps.emitted] at hp
  rcases List.mem_append.mp hp with hold | hnew
  · exact hall p hold
  · obtain ⟨e, he, rfl⟩ := List.mem_map.mp hnew
    refine hemitting.labelled_iff.mpr ?_
    have hsetup := hsteps.setup e he
    rw [hsetup.payloadType, hsetup.format]
    refine hlabels ?_
    -- frames are only pending while a packet size is set
    rw [← hsetup.samplesPerPacket]
    exact hemitting.mode.samplesPerPacket_ne_zero

/-- The calls that begin a stream and send on it. -/
def sends : RtpSender.Call → Bool
  | .begin _ _ _ => true
  | .writeFrames _ _ => true
  | .flush => true
  | _ => false

/-- They stay off the encoded path, and are not asked for anything. -/
theorem sends_fits {call : RtpSender.Call} (h : sends call = true) (s : RtpSender) :
    call.encoded = false ∧ s.ConfigFits call := by
  cases call <;> first | exact ⟨rfl, trivial⟩ | cases h

end L16History

/-- **Labels of L16 packets.** In every run off the encoded path, from construction, whatever the calls, their
arguments and the answers of the UDP object, the packets offered are those of the L16 path. Every call meets
`ConfigFits` exactly if, wherever the run stands, all packets emitted so far and all that further `begin`,
`writeFrames` and `flush` calls emit are labelled with the channel count that their frames were written
with. -/
theorem rtp_labels [PCMFlow] (script : ℕ → UdpTx) {calls : List RtpSender.Call}
    (hpath : ∀ call ∈ calls, call.encoded = false) :
    (∃ l : L16History, run L16History.step { sender := RtpSender.new script } calls = some l ∧
      run RtpSender.step (RtpSender.new script) calls = some l.sender ∧
      l.sender.offered = l.emitted.map fun p => p.state.nextPacket) ∧
    (Admissible L16History.step (fun l call => l.sender.ConfigFits call)
        { sender := RtpSender.new script } calls ↔
      ∀ past more, past <+: calls → (∀ call ∈ more, L16History.sends call = true) →
        ∃ l : L16History,
          run L16History.step { sender := RtpSender.new script } (past ++ more) = some l ∧
          ∀ p ∈ l.emitted, p.Labelled) := by
  set start : L16History := { sender := RtpSender.new script } with hstart
  have hinv : start.Inv := L16History.inv_new script
  have hlabels : start.sender.ConfigLabels := fun h0 => absurd rfl h0
  have hrun : ∀ {cs : List RtpSender.Call}, (∀ call ∈ cs, call.encoded = false) →
      ∃ l, run L16History.step start cs = some l ∧ l.Inv := by
    intro cs hcs
    exact run_total (fun l call hl hcall => by
      obtain ⟨l', hsteps⟩ := hl.step hcall
      exact ⟨l', hsteps.step, hsteps.inv⟩) hinv (admissible_of_mem hcs _)
  constructor
  · obtain ⟨l, hl, hinv'⟩ := hrun hpath
    have hsender := L16History.run_sender start calls
    rw [hl] at hsender
    exact ⟨l, hl, hsender.symm, hinv'.offered⟩
  constructor
  · intro hadm past more hpast hmore
    obtain ⟨rest, rfl⟩ := hpast
    have hright : start.Right := ⟨hinv, hlabels, by simp [hstart]⟩
    have hpast : ∀ call ∈ past, call.encoded = false := fun call hcall =>
      hpath call (List.mem_append_left _ hcall)
    obtain ⟨l, hl, hright'⟩ := run_total (fun l call (hl : l.Right) hok => hl.step hok.1 hok.2) hright
      ((admissible_of_mem hpast start).and ((admissible_append _ _ _).mp hadm).1)
    obtain ⟨l', hl', hright''⟩ := run_total (fun l call (hl : l.Right) hcall =>
      hl.step (L16History.sends_fits hcall l.sender).1 (L16History.sends_fits hcall l.sender).2) hright'
      (admissible_of_mem hmore l)
    exact ⟨l', by rw [run_append, hl, Option.bind_some, hl'], hright''.2.2⟩
  · intro hall
    have hstep : ∀ (l : L16History) (call : RtpSender.Call), l.Inv → l.sender.ConfigLabels →
        call.encoded = false → ∃ l', L16History.step l call = some l' ∧ l'.Inv ∧
          (l'.sender.ConfigLabels ↔ l.sender.ConfigFits call) := by
      intro l call hl hgood hcall
      obtain ⟨l', hsteps⟩ := hl.step hcall
      exact ⟨l', hsteps.step, hsteps.inv, RtpSender.configLabels_step hl.wf hgood hsteps.sender⟩
    refine (admissible_iff_good_states hstep hinv hlabels (admissible_of_mem hpath start)).mpr
      fun past hpast => ?_
    obtain ⟨l, hl, hinv'⟩ := hrun fun call hcall => hpath call (hpast.subset hcall)
    refine ⟨l, hl, Classical.not_not.mp fun hbad => ?_⟩
    -- otherwise a packet that follows is labelled wrongly
    obtain ⟨l', hl', p, hp, hwrong⟩ := L16History.probe_wrong hinv' hbad
    obtain ⟨l'', hl'', hlabelled⟩ := hall past L16History.probe hpast (by decide)
    rw [run_append, hl, Option.bind_some, hl', Option.some.injEq] at hl''
    subst hl''
    exact hwrong (hlabelled p hp)

/-- Stereo audio, and no other configuration. -/
theorem rtp_labels_stereo :
    (∃ l : L16History, run (@L16History.step PCMFlow.documented) { sender := RtpSender.new fun _ => {} }
        [.begin 5004 1 ⟨2, 3, 4⟩, .setFormat ⟨8000, 2, 16⟩, .writeFrames (some [1, 0, 2, 0]) 1, .flush]
          = some l ∧
      run (@RtpSender.step PCMFlow.documented) (RtpSender.new fun _ => {})
        [.begin 5004 1 ⟨2, 3, 4⟩, .setFormat ⟨8000, 2, 16⟩, .writeFrames (some [1, 0, 2, 0]) 1, .flush]
          = some l.sender ∧
      l.sender.offered = l.emitted.map fun p => p.state.nextPacket) ∧
    (Admissible (@L16History.step PCMFlow.documented)
        (fun l call => @RtpSender.ConfigFits PCMFlow.documented l.sender call)
        { sender := RtpSender.new fun _ => {} }
        [.begin 5004 1 ⟨2, 3, 4⟩, .setFormat ⟨8000, 2, 16⟩, .writeFrames (some [1, 0, 2, 0]) 1, .flush] ↔
      ∀ past more, past <+: [.begin 5004 1 ⟨2, 3, 4⟩, .setFormat ⟨8000, 2, 16⟩,
          .writeFrames (some [1, 0, 2, 0]) 1, .flush] →
        (∀ call ∈ more, L16History.sends call = true) →
        ∃ l : L16History,
          run (@L16History.step PCMFlow.documented) { sender := RtpSender.new fun _ => {} } (past ++ more)
            = some l ∧
          ∀ p ∈ l.emitted, p.Labelled) :=
  @rtp_labels PCMFlow.documented (fun _ => {}) _ (by decide)

/-- Audio of three channels leaves under the payload type of mono. -/
theorem three_channels_as_mono :
    ∃ l : L16History, run (@L16History.step PCMFlow.documented) { sender := RtpSender.new fun _ => {} }
        [.begin 5004 1 ⟨2, 3, 4⟩, .setFormat ⟨8000, 3, 16⟩, .writeFrames (some [1, 0, 2, 0, 3, 0]) 1, .flush]
          = some l ∧
      ∃ p, l.emitted = [p] ∧ p.frames = [⟨3, [1, 2, 3]⟩] ∧ p.state.payloadType = ptL16Mono ∧
        ¬ p.Labelled := by
  have hrun : (run (@L16History.step PCMFlow.documented) { sender := RtpSender.new fun _ => {} }
      [.begin 5004 1 ⟨2, 3, 4⟩, .setFormat ⟨8000, 3, 16⟩, .writeFrames (some [1, 0, 2, 0, 3, 0]) 1,
        .flush]).map (fun l => l.emitted.map fun p => (p.frames, p.state.payloadType))
        = some [([⟨3, [1, 2, 3]⟩], 11)] := by
    decide +kernel
  obtain ⟨l, hl, hemitted⟩ := Option.map_eq_some_iff.mp hrun
  obtain ⟨p, hp, hfields⟩ := List.map_eq_singleton_iff.mp hemitted
  obtain ⟨hframes, hpt⟩ := Prod.mk.inj hfields
  refine ⟨l, hl, p, hp, hframes, hpt, ?_⟩
  rintro ⟨h, hby⟩
  have hchannels := hby.channels ⟨3, [1, 2, 3]⟩ (by rw [hframes]; exact List.mem_singleton_self _)
  exact absurd hchannels (by decide)

end PcmFlowUdp
