import PcmFlowUdp.Rtp.PcmSession

/-! # The channel count of queued L16 audio

`poll` sets `format()` from every L16 packet and `setFormat` from the caller, while the ring keeps bytes
whose frames had the channel count of the packet they came in.

* **`rtp_channel_lock`** — as long as queued frames are read in the channel count of the packets that they
  came in, every frame returned is one frame of one packet;
* `mono_then_stereo` — otherwise two mono samples come out as a stereo frame. -/

namespace PcmFlowUdp

open ByteTransport

namespace PcmSession

/-- Every frame returned is one whole frame of one packet received, with the number of channels that
`format()` reported at the read. -/
def Faithful (s : PcmSession) : Prop := ∀ f ∈ s.returned, f ∈ s.received

/-- **Queued audio keeps its channel count.** From every reachable state with an empty ring: in every run
of polls of L16 packets, `setFormat` and reads whose calls keep the queue in step — while frames are
queued, only packets of their channel count are polled and reads are made in that channel count, a packet
that overflows the ring drops whole frames, and no padding passes for frames, but for packets whose header
is too long to be accepted — every frame returned is one whole frame of one packet, with the channels it was
received with. -/
theorem rtp_channel_lock [PCMFlow] {r : RtpReceiver} {mem : RtpPollMemory}
    (hr : RtpReceiver.Reachable (r, mem)) (hready : r.ready = true) (hempty : r.queue.count = 0)
    {ops : List PcmOp}
    (hops : Admissible step (fun s op => s.PollsL16 op ∧ s.Keeps op) { receiver := (r, mem) } ops) :
    ∃ s, run step { receiver := (r, mem) } ops = some s ∧ s.Faithful := by
  obtain ⟨s, hrun, hinv⟩ := run_total (fun s op (h : s.Inv) hop => h.step hop.1 hop.2)
    (inv_start hready hr.declared hempty mem) hops
  exact ⟨s, hrun, fun f hf => hinv.sublist.subset hf⟩

/-- Mono, then stereo once the mono frames are read. -/
theorem rtp_channel_lock_drained :
    ∃ s, run (@step PCMFlow.documented) { receiver := ((RtpReceiver.begin {} 1).2, {}) }
        [.poll (.plain ptL16Mono (by decide) [0, 1, 0, 2]), .setFormat ⟨16000, 2, 16⟩,
          .setFormat ⟨16000, 1, 16⟩, .read 2, .poll (.plain ptL16Stereo (by decide) [0, 3, 0, 4]),
          .read 1] = some s ∧ s.Faithful := by
  refine @rtp_channel_lock PCMFlow.documented _ _ ⟨[.begin 1], rfl⟩ rfl rfl _ ?_
  decide +kernel

/-- Two mono frames are queued when a stereo packet arrives: they are read as one stereo frame. -/
theorem mono_then_stereo :
    ∃ s, run (@step PCMFlow.documented) { receiver := ((RtpReceiver.begin {} 1).2, {}) }
        [.poll (.plain ptL16Mono (by decide) [0, 1, 0, 2]),
          .poll (.plain ptL16Stereo (by decide) [0, 3, 0, 4]), .read 1] = some s ∧
      s.returned = [⟨2, [1, 2]⟩] ∧ ¬ s.Faithful := by
  have hrun : (run (@step PCMFlow.documented) { receiver := ((RtpReceiver.begin {} 1).2, {}) }
      [.poll (.plain ptL16Mono (by decide) [0, 1, 0, 2]),
        .poll (.plain ptL16Stereo (by decide) [0, 3, 0, 4]), .read 1]).map
          (fun s => (s.returned, s.received))
        = some ([⟨2, [1, 2]⟩], [⟨1, [1]⟩, ⟨1, [2]⟩, ⟨2, [3, 4]⟩]) := by
    decide +kernel
  obtain ⟨s, hs, heq⟩ := Option.map_eq_some_iff.mp hrun
  obtain ⟨hreturned, hreceived⟩ := Prod.mk.inj heq
  refine ⟨s, hs, hreturned, fun hfaithful => ?_⟩
  rw [Faithful, hreturned, hreceived] at hfaithful
  exact absurd (hfaithful ⟨2, [1, 2]⟩ List.mem_cons_self) (by decide)

end PcmSession

end PcmFlowUdp
