import PcmFlowUdp.ByteTransport.Answers
import PcmFlowUdp.Rtp.Receiver
import PcmFlowUdp.Vban.Receiver

/-! # Receivers that share their static buffers

The function-static buffers of `poll` exist once for all receivers of a class, and are never cleared. A
program with several receivers is a family of machines over that memory. `poll_memory` says for each class
that what the buffers hold makes no difference to a poll, and no other call looks at them, so

* **`receivers_isolated`** — every receiver returns what it returns alone and is in the state in which it
  is alone, whatever the other ones are given, and in whatever order. -/

namespace PcmFlowUdp

open ByteTransport

/-- What a call returns to the caller. -/
inductive CallAnswer
  | done
  | flag (ok : Bool)
  | read (count : ℕ) (out : List UInt8)
  deriving DecidableEq, Repr

namespace RtpReceiver

/-- What a call returns. -/
def returns [PCMFlow] (r : RtpReceiver) (mem : RtpPollMemory) : Call → CallAnswer
  | .begin bound => .flag (r.begin bound).1
  | .end_ => .done
  | .setPcmBuffer nonNull bytes => .flag (r.setPcmBuffer nonNull bytes).1
  | .setFormat fmt => .flag (r.setFormat fmt).1
  | .setDynamicL16PayloadType payloadType channels =>
      .flag (r.setDynamicL16PayloadType payloadType channels).1
  | .poll io => .flag (r.poll mem io).1
  | .readFrames nonNull frameCount =>
      .read (r.readFrames nonNull frameCount).1 (r.readFrames nonNull frameCount).2.1
  | .readEncoded nonNull maxBytes =>
      .read (r.readEncoded nonNull maxBytes).1 (r.readEncoded nonNull maxBytes).2.1

/-- A call on a receiver: what it returns, the receiver and the static buffers afterwards. -/
def call [PCMFlow] (r : RtpReceiver) (mem : RtpPollMemory) (c : Call) :
    CallAnswer × RtpReceiver × RtpPollMemory :=
  (r.returns mem c, step (r, mem) c)

/-- The UDP object reads no more than it is asked for. -/
def Call.Honest : Call → Prop
  | .poll io => io.Honest
  | _ => True

/-- The static buffers make no difference to any call. -/
theorem call_memory [PCMFlow] (r : RtpReceiver) (mem mem' : RtpPollMemory) {c : Call} (hc : c.Honest) :
    (r.call mem c).1 = (r.call mem' c).1 ∧ (r.call mem c).2.1 = (r.call mem' c).2.1 := by
  cases c with
  | poll io =>
    obtain ⟨hok, hr⟩ := r.poll_memory mem mem' hc
    exact ⟨congrArg CallAnswer.flag hok, hr⟩
  | _ => exact ⟨rfl, rfl⟩

end RtpReceiver

namespace VbanReceiver

/-- What a call returns. -/
def returns [PCMFlow] (r : VbanReceiver) (buf : VbanPollMemory) : Call → CallAnswer
  | .begin streamName bound => .flag (r.begin streamName bound).1
  | .end_ => .done
  | .setServiceCallback _ => .done
  | .poll io => .flag (r.poll buf io).1
  | .readFrames nonNull frameCount =>
      .read (r.readFrames nonNull frameCount).1 (r.readFrames nonNull frameCount).2.1

/-- A call on a receiver: what it returns, the receiver and the static buffer afterwards. -/
def call [PCMFlow] (r : VbanReceiver) (buf : VbanPollMemory) (c : Call) :
    CallAnswer × VbanReceiver × VbanPollMemory :=
  (r.returns buf c, step (r, buf) c)

/-- The UDP object reads no more than it is asked for. -/
def Call.Honest : Call → Prop
  | .poll io => io.Honest
  | _ => True

/-- The static buffer makes no difference to any call. -/
theorem call_memory [PCMFlow] (r : VbanReceiver) (buf buf' : VbanPollMemory) {c : Call}
    (hc : c.Honest) :
    (r.call buf c).1 = (r.call buf' c).1 ∧ (r.call buf c).2.1 = (r.call buf' c).2.1 := by
  cases c with
  | poll io =>
    obtain ⟨hok, hr⟩ := r.poll_memory buf buf' hc
    exact ⟨congrArg CallAnswer.flag hok, hr⟩
  | _ => exact ⟨rfl, rfl⟩

end VbanReceiver

/-- **Receivers that share static buffers are isolated.** In every interleaving of calls on any number of
receivers of a class, receiver `k` returns and becomes what it does when it runs alone, from any content
of the buffers: its answers, the bytes read, the metadata and all other member variables, and with them
the service packets that a VBAN receiver handed to the callback. -/
theorem receivers_isolated [PCMFlow] {κ : Type*} [DecidableEq κ] (k : κ) :
    (∀ (rs : κ → RtpReceiver) (mem mem' : RtpPollMemory) (calls : List (κ × RtpReceiver.Call)),
      (∀ c ∈ calls, c.2.Honest) →
      transcriptOf k (transcript (family RtpReceiver.call) (rs, mem) calls)
          = transcript (alone RtpReceiver.call) (rs k, mem') (inputsOf k calls) ∧
        (after (family RtpReceiver.call) (rs, mem) calls).1 k
          = (after (alone RtpReceiver.call) (rs k, mem') (inputsOf k calls)).1) ∧
      (∀ (rs : κ → VbanReceiver) (buf buf' : VbanPollMemory) (calls : List (κ × VbanReceiver.Call)),
        (∀ c ∈ calls, c.2.Honest) →
        transcriptOf k (transcript (family VbanReceiver.call) (rs, buf) calls)
            = transcript (alone VbanReceiver.call) (rs k, buf') (inputsOf k calls) ∧
          (after (family VbanReceiver.call) (rs, buf) calls).1 k
            = (after (alone VbanReceiver.call) (rs k, buf') (inputsOf k calls)).1) := by
  constructor
  · intro rs mem mem' calls hcalls
    exact family_isolated (fun r m m' c hc => r.call_memory m m' hc) k hcalls rs mem mem'
  · intro rs buf buf' calls hcalls
    exact family_isolated (fun r m m' c hc => r.call_memory m m' hc) k hcalls rs buf buf'

/-- Two receivers of each class, over buffers that are full of old bytes: a long packet for one of them,
then a short one for the other, which finds what it would find in fresh buffers. Of the VBAN packets the first
has two stereo frames and the second a mono frame. -/
theorem receivers_isolated_two :
    (let calls : List (Bool × RtpReceiver.Call) :=
        [(true, .poll (.ofDatagram (rtpHeaderBytes { payloadType := 0 } ++ [1, 2, 3]))),
          (false, .poll (.ofDatagram (rtpHeaderBytes { payloadType := 0 } ++ [4]))),
          (false, .readEncoded true 160)]
      let rs : Bool → RtpReceiver := fun _ => (RtpReceiver.begin {} 1).2
      let mem : RtpPollMemory := { buf := Buffer.filled _ 0xFF, scratch := Buffer.filled _ 0xFF }
      transcriptOf false (transcript (family (@RtpReceiver.call PCMFlow.documented)) (rs, mem) calls)
          = transcript (alone (@RtpReceiver.call PCMFlow.documented)) (rs false, {})
              (inputsOf false calls) ∧
        (after (family (@RtpReceiver.call PCMFlow.documented)) (rs, mem) calls).1 false
          = (after (alone (@RtpReceiver.call PCMFlow.documented)) (rs false, {})
              (inputsOf false calls)).1) ∧
      (let calls : List (Bool × VbanReceiver.Call) :=
          [(true, .poll (.ofDatagram
              (audioHeaderBytes { numSamples := 2, numChannels := 2 } ++ [1, 2, 3, 4, 5, 6, 7, 8]))),
            (false, .poll (.ofDatagram (audioHeaderBytes {} ++ [9, 10]))), (false, .readFrames true 4)]
        let rs : Bool → VbanReceiver := fun _ => (VbanReceiver.begin {} none 1).2
        let buf : VbanPollMemory := Buffer.filled _ 0xFF
        (transcriptOf false (transcript (family (@VbanReceiver.call PCMFlow.documented)) (rs, buf) calls)).map
            Prod.snd = [.flag true, .read 1 [9, 10]] ∧
        transcriptOf false (transcript (family (@VbanReceiver.call PCMFlow.documented)) (rs, buf) calls)
            = transcript (alone (@VbanReceiver.call PCMFlow.documented)) (rs false, Buffer.filled _ 0)
                (inputsOf false calls) ∧
          (after (family (@VbanReceiver.call PCMFlow.documented)) (rs, buf) calls).1 false
            = (after (alone (@VbanReceiver.call PCMFlow.documented)) (rs false, Buffer.filled _ 0)
                (inputsOf false calls)).1) := by
  constructor
  · intro calls rs mem
    apply (@receivers_isolated PCMFlow.documented Bool _ false).1
    simp [calls, RtpReceiver.Call.Honest, Inbound.honest_ofDatagram]
  · intro calls rs buf
    refine ⟨by decide +kernel, ?_⟩
    apply (@receivers_isolated PCMFlow.documented Bool _ false).2
    simp [calls, VbanReceiver.Call.Honest, Inbound.honest_ofDatagram]

end PcmFlowUdp
