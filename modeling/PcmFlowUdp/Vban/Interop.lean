import PcmFlowUdp.PcmValues
import PcmFlowUdp.Vban.NetHelpers
import PcmFlowUdp.Vban.Network

/-! # VBAN audio between the library and Python

The rest of `tests/net_helpers/vban.py` builds audio packets from lists of numbers and reads the numbers of their
payloads. The tests let Python listen to a `VbanSender` (`vban_dut_to_python`) and let a `VbanReceiver` poll what
Python sends (`vban_python_loopback`).

* **`listen_encoded`** — Python reads a packet that the C++ encoder wrote;
* **`Built.polled`** — a receiver finds in a packet that Python built the samples that it was built from;
* **`vban_dut_to_python`** — Python hears every sample that was accepted, but for those thrown away or pending;
* **`vban_python_to_dut`** — a receiver returns the samples that Python sent, in order, and all of them as long
  as there is room in the ring. -/

namespace PcmFlowUdp

open ByteTransport PcmFrame

namespace NetHelpers.Vban

open Python

/-! ## The payload -/

/-- `pcm_to_le_bytes`. -/
def pcmToLeBytes (samples : List ℤ) : Except PyError (List UInt8) :=
  raising .structError (packShorts .little samples)

/-- `le_bytes_to_pcm`. -/
def leBytesToPcm (data : List UInt8) : Except PyError (List ℤ) :=
  let n := data.length / 2
  raising .structError (unpackShorts .little n (slice data 0 (n * 2 : ℕ)))

/-- `build_audio_packet`. -/
def buildAudioPacket (header : AudioHeader) (pcmLeBytes : List UInt8) : Except PyError (List UInt8) := do
  let head ← encodeAudioHeader header
  .ok (head ++ pcmLeBytes)

/-- A packet with these samples, as the tests build it. -/
def announce (header : AudioHeader) (samples : List ℤ) : Except PyError (List UInt8) := do
  let pcm ← pcmToLeBytes samples
  buildAudioPacket header pcm

/-- The header and the samples of a packet, as the tests read them. -/
def listen (data : List UInt8) : Except PyError (Option (AudioHeader × List ℤ)) := do
  match ← parseAudioHeader data with
  | none => .ok none
  | some h => do
      let samples ← leBytesToPcm (slice data vbanHeaderBytes data.length)
      .ok (some (h, samples))

/-- Python reads the samples of frames. -/
theorem leBytesToPcm_hostImage {c : ℕ} (fs : List (PcmFrame c)) :
    leBytesToPcm (hostImage fs) = .ok (pcmValues (fs.map audio)) := by
  rw [leBytesToPcm, unpackShorts_hostImage]
  rfl

/-- **Python reads a packet of the C++ encoder.** -/
theorem listen_encoded {c : ℕ} {h : VbanAudioHeader} (hidx : h.sampleRateIndex ≤ 20)
    (hsamples : 1 ≤ h.numSamples ∧ h.numSamples ≤ 256)
    (hchannels : 1 ≤ h.numChannels ∧ h.numChannels ≤ 256) (fs : List (PcmFrame c)) :
    listen (audioHeaderBytes h ++ hostImage fs)
      = .ok (some ({ h with streamName := VbanName.ofCString h.streamName.cells }.toPython,
          pcmValues (fs.map audio))) := by
  have hhead : (audioHeaderBytes h).length = 28 := length_vbanHeaderBytes _ _ _ _ _ _
  have hlong : 28 ≤ (audioHeaderBytes h ++ hostImage fs).length := by
    rw [List.length_append, hhead]
    exact Nat.le_add_right _ _
  have hparse := (parseAudioHeader_python (audioHeaderBytes h ++ hostImage fs)).1 _
    (parseAudioHeader_encoded hidx hsamples hchannels (hostImage fs) hlong)
  have hpayload : slice (audioHeaderBytes h ++ hostImage fs) vbanHeaderBytes
      (audioHeaderBytes h ++ hostImage fs).length = hostImage fs := by
    have hcut := slice_of_le (i := 28) hlong le_rfl
    rw [List.drop_left' hhead] at hcut
    refine hcut.trans (List.take_of_length_le ?_)
    rw [List.length_append, hhead]
    omega
  rw [listen, hparse]
  dsimp only [Bind.bind, Except.bind]
  rw [hpayload, leBytesToPcm_hostImage]

/-! ## Packets that Python builds -/

/-- What is built is a header in range, and the octets of shorts. -/
theorem announce_ok {hp : AudioHeader} {samples : List ℤ} {d : List UInt8} (h : announce hp samples = .ok d) :
    ∃ (text : List UInt8) (xs : List Int16), encodeAscii hp.streamName = some text ∧ hp.InRange ∧
      samples = xs.map Int16.toInt ∧ d = headerOctets hp text ++ xs.flatMap hostSample := by
  rw [announce, pcmToLeBytes] at h
  cases hpack : packShorts .little samples with
  | none =>
    rw [hpack] at h
    cases h
  | some pcm =>
    obtain ⟨xs, rfl⟩ := (packShorts_isSome_iff .little samples).mp ⟨pcm, hpack⟩
    rw [packShorts_map] at hpack
    obtain rfl := Option.some.inj hpack
    rw [packShorts_map] at h
    dsimp only [raising, buildAudioPacket, Bind.bind, Except.bind] at h
    cases hencode : encodeAudioHeader hp with
    | error e =>
      rw [hencode] at h
      cases h
    | ok head =>
      rw [hencode] at h
      have hrange := inRange_of_ok hencode
      -- a header in range is only refused for its name
      by_cases hascii : ∀ c ∈ hp.streamName, c < 128
      · have htext : encodeAscii hp.streamName = some (hp.streamName.map UInt8.ofNat) := if_pos hascii
        rw [encodeAudioHeader_ok hrange htext] at hencode
        obtain rfl := Except.ok.inj hencode
        exact ⟨_, xs, htext, hrange, rfl, (Except.ok.inj h).symm⟩
      · have hraise := (encodeAudioHeader_raises_iff hp .unicodeEncodeError).mpr
          (.inr (.inr (.inr ⟨hrange, by simpa using hascii, rfl⟩)))
        rw [hencode] at hraise
        cases hraise

/-- The fields of a header that Python encoded, whatever follows it. -/
theorem headerOctets_fields (hp : AudioHeader) (text rest : List UInt8) :
    (headerOctets hp text).length = 28 ∧
      (headerOctets hp text ++ rest).take 4 = kVbanSignature ∧
      byteAt (headerOctets hp text ++ rest) 4 = UInt8.ofNat hp.sampleRateIndex.toNat ∧
      byteAt (headerOctets hp text ++ rest) 5 = UInt8.ofNat (hp.numSamples - 1).toNat ∧
      byteAt (headerOctets hp text ++ rest) 6 = UInt8.ofNat (hp.numChannels - 1).toNat ∧
      byteAt (headerOctets hp text ++ rest) 7 = UInt8.ofNat (Int.land hp.subCodec 0xFF).toNat ∧
      cName ((headerOctets hp text ++ rest).drop 8) = cName text := by
  have hname := length_nameField text
  refine ⟨?_, rfl, rfl, rfl, rfl, rfl, ?_⟩
  · rw [headerOctets, List.length_append, List.length_append, hname, List.length_reverse, length_octets]
    rfl
  · -- the name field holds the first of the name, filled up with NULs
    have hdrop : (headerOctets hp text ++ rest).drop 8
        = ljust (text.take vbanStreamNameBytes) vbanStreamNameBytes 0
          ++ ((octets 4 (Int.land hp.frameCounter 0xFFFFFFFF).toNat).reverse ++ rest) := by
      rw [headerOctets, List.append_assoc, List.append_assoc]
      exact List.drop_left' rfl
    have htake : ((headerOctets hp text ++ rest).drop 8).take kVbanStreamNameBytes
        = ljust (text.take vbanStreamNameBytes) vbanStreamNameBytes 0 := by
      rw [hdrop]
      exact List.take_left' hname
    rw [cName, htake, ljust, List.takeWhile_append, cName]
    split
    · rename_i hfull
      have hnil : ∀ n : ℕ, (List.replicate n (0 : UInt8)).takeWhile (· != 0) = [] := by
        intro n
        cases n with
        | zero => rfl
        | succ n => rfl
      rw [hnil, List.append_nil]
      exact ((List.takeWhile_prefix _).eq_of_length hfull).symm
    · rfl

/-- A packet for a receiver that listens to the stream `streamName`: PCM16 at the rate with index `i`, with `c`
channels and as many samples as the header says, which fit a packet. -/
structure Fits (streamName : Option (List UInt8)) (i c : ℤ) (hp : AudioHeader) (samples : List ℤ) : Prop where
  rate : hp.sampleRateIndex = i
  channels : hp.numChannels = c
  codec : hp.subCodec = vbanSubcodecPcm16
  name : ∀ text ∈ encodeAscii hp.streamName, Passes streamName text
  size : (samples.length : ℤ) = hp.numSamples * c
  fits : samples.length * 2 ≤ kVbanMaxPayloadBytes

instance (streamName : Option (List UInt8)) (i c : ℤ) (hp : AudioHeader) (samples : List ℤ) :
    Decidable (Fits streamName i c hp samples) :=
  decidable_of_iff (hp.sampleRateIndex = i ∧ hp.numChannels = c ∧ hp.subCodec = vbanSubcodecPcm16 ∧
      (∀ text ∈ encodeAscii hp.streamName, Passes streamName text) ∧
      (samples.length : ℤ) = hp.numSamples * c ∧ samples.length * 2 ≤ kVbanMaxPayloadBytes)
    ⟨fun ⟨h1, h2, h3, h4, h5, h6⟩ => ⟨h1, h2, h3, h4, h5, h6⟩,
      fun h => ⟨h.1, h.2, h.3, h.4, h.5, h.6⟩⟩

/-- The format of such packets. -/
def formatOf (i c : ℤ) : PCMFormat where
  sampleRate := vbanSampleRateHz (UInt8.ofNat i.toNat)
  channels := UInt8.ofNat c.toNat
  bitsPerSample := 16

/-- The octet of a rate index. -/
theorem rateOctet_fields : ∀ n : Fin 21,
    UInt8.ofNat n &&& 0xE0 = VbanSubProtocol.audio.code ∧ UInt8.ofNat n &&& 0x1F = UInt8.ofNat n ∧
      UInt8.ofNat n ≤ 20 := by
  decide +kernel

section Built

variable {streamName : Option (List UInt8)} {i c : ℤ} {hp : AudioHeader} {samples : List ℤ} {d : List UInt8}
  (hfits : Fits streamName i c hp samples) (hc : c = 1 ∨ c = 2) (hbuilt : announce hp samples = .ok d)

include hfits hc hbuilt

/-- **The samples of a packet that Python built** are those that a receiver finds in it. -/
theorem Built.frames : d.length ≤ kVbanMaxPacketBytes ∧ wireFormat d = formatOf i c ∧
    ∃ fs : List (PcmFrame c.toNat), packetAudio d = fs.map audio ∧ pcmValues (fs.map audio) = samples := by
  obtain ⟨text, xs, -, ⟨hidx, hnum, -⟩, rfl, rfl⟩ := announce_ok hbuilt
  obtain ⟨hlen, -, h4, h5, h6, -, -⟩ := headerOctets_fields hp text (xs.flatMap hostSample)
  have hpayload : (headerOctets hp text ++ xs.flatMap hostSample).drop kVbanHeaderBytes
      = xs.flatMap hostSample :=
    List.drop_left' hlen
  have hsize := hfits.size
  have hcap := hfits.fits
  rw [List.length_map] at hsize hcap
  have hbytes : (xs.flatMap hostSample).length = xs.length * 2 := by
    rw [List.length_flatMap]
    simp [length_hostSample]
  -- octet 5 denotes the frames, and these are the whole list
  obtain ⟨n, hn⟩ := Int.eq_ofNat_of_zero_le (show 0 ≤ hp.numSamples by omega)
  have hcount : (byteAt (headerOctets hp text ++ xs.flatMap hostSample) 5).toNat + 1 = n := by
    rw [h5, UInt8.toNat_ofNat_of_lt' (show (hp.numSamples - 1).toNat < 2 ^ 8 by omega)]
    omega
  have hxs : xs.length = n * c.toNat := by
    have hcast : c = c.toNat := by omega
    rw [hn, hcast] at hsize
    exact_mod_cast hsize
  have hchan : (wireFormat (headerOctets hp text ++ xs.flatMap hostSample)).channels = UInt8.ofNat c.toNat := by
    show byteAt _ 6 + 1 = _
    rw [h6, hfits.channels]
    rcases hc with rfl | rfl <;> rfl
  have hpos : 0 < c.toNat := by omega
  refine ⟨?_, ?_, hostFrames c.toNat (xs.flatMap hostSample), ?_, ?_⟩
  · rw [List.length_append, hlen, hbytes]
    exact Nat.add_le_add_left hcap _
  · have hrate : byteAt (headerOctets hp text ++ xs.flatMap hostSample) 4 &&& 0x1F = UInt8.ofNat i.toNat := by
      rw [h4, hfits.rate]
      rw [hfits.rate] at hidx
      exact (rateOctet_fields ⟨i.toNat, by omega⟩).2.1
    rw [formatOf, ← hchan, ← hrate]
    rfl
  · -- the payload is what the header announces
    have hwire : (wireFormat (headerOctets hp text ++ xs.flatMap hostSample)).channels.toNat = c.toNat := by
      rw [hchan]
      rcases hc with rfl | rfl <;> rfl
    have hall : n * (c.toNat * 2) = (xs.flatMap hostSample).length := by rw [hbytes, hxs, Nat.mul_assoc]
    rw [packetAudio_eq hwire, hpayload, hcount, ← hall, Nat.mul_div_cancel _ (by omega), min_self, hall,
      List.take_length]
  · exact pcmValues_hostFrames hpos (hxs ▸ Nat.dvd_mul_left _ _)

/-- **A receiver of the stream accepts it**, unless it is locked to another format. -/
theorem Built.accepted {locked : PCMFormat} (hlock : locked = {} ∨ locked = formatOf i c) :
    AcceptedBy (nameFilter streamName) locked d := by
  obtain ⟨-, hwire, -⟩ := Built.frames hfits hc hbuilt
  obtain ⟨text, xs, htext, ⟨hidx, -, -⟩, rfl, rfl⟩ := announce_ok hbuilt
  obtain ⟨hlen, hsig, h4, -, -, h7, hname⟩ := headerOctets_fields hp text (xs.flatMap hostSample)
  obtain ⟨hsub, hrate, hle⟩ := rateOctet_fields ⟨hp.sampleRateIndex.toNat, by omega⟩
  refine ⟨⟨?_, hsig, ?_⟩, ?_, ?_, ?_, ?_, ?_⟩
  · rw [List.length_append, hlen]
    exact Nat.le_add_right _ _
  · rw [h4]
    exact hsub
  · rw [h4, hrate]
    exact hle
  · intro n hn
    rw [hname]
    obtain ⟨f, rfl, hf⟩ := Option.bind_eq_some_iff.mp hn
    have hpasses : Passes (some f) text := hfits.name text htext
    split at hf
    · cases hf
    · rename_i hfilter
      rw [← Option.some.inj hf]
      exact hpasses.resolve_left hfilter
  · rw [h7, hfits.codec]
    rfl
  · rw [hwire]
    rcases hc with rfl | rfl
    · exact .inl rfl
    · exact .inr rfl
  · rcases hlock with rfl | rfl
    · exact .inl rfl
    · rw [hwire]
      exact .inr ⟨rfl, rfl⟩

end Built

end NetHelpers.Vban

/-! ## From Python to the library -/

/-- What happens at a receiver that Python sends to. -/
inductive PythonOp
  /-- Python builds a packet and sends it, and the receiver polls; if building it raises, nothing is sent. -/
  | send (header : NetHelpers.Vban.AudioHeader) (samples : List ℤ)
  /-- The receiver polls a datagram of someone else. -/
  | other (d : List UInt8)
  /-- `readFrames` into an array of `int16_t`. -/
  | readFrames (frameCount : ℕ)

/-- What comes of it. -/
inductive PythonAnswer
  | raised (e : NetHelpers.Vban.PyError)
  | polled (ok : Bool)
  | samples (values : List ℤ)

/-- The samples that were read. -/
def PythonAnswer.values : PythonAnswer → List ℤ
  | .samples values => values
  | _ => []

namespace PythonOp

/-- The samples that were sent. -/
def sent : PythonOp → List ℤ
  | .send hp samples =>
      match NetHelpers.Vban.announce hp samples with
      | .ok _ => samples
      | .error _ => []
  | _ => []

/-- A packet that is built is accepted. -/
def Accepts : PythonOp → PythonAnswer → Prop
  | .send _ _, answer => answer ≠ .polled false
  | _, _ => True

/-- Python keeps to packets for the stream, and nobody else sends audio for it. -/
def Fits (streamName : Option (List UInt8)) (i c : ℤ) : PythonOp → Prop
  | .send hp samples => NetHelpers.Vban.Fits streamName i c hp samples
  | .other d => SpeaksVban .audio d → ¬ Passes streamName (d.drop 8)
  | .readFrames _ => True

instance (streamName : Option (List UInt8)) (i c : ℤ) (op : PythonOp) : Decidable (op.Fits streamName i c) :=
  match op with
  | .send hp samples => inferInstanceAs (Decidable (NetHelpers.Vban.Fits streamName i c hp samples))
  | .other d => inferInstanceAs (Decidable (SpeaksVban .audio d → ¬ Passes streamName (d.drop 8)))
  | .readFrames _ => inferInstanceAs (Decidable True)

end PythonOp

namespace VbanReceiver

/-- The call and what comes of it. -/
def hear [PCMFlow] (s : VbanReceiver × VbanPollMemory) :
    PythonOp → PythonAnswer × VbanReceiver × VbanPollMemory
  | .send hp samples =>
      match NetHelpers.Vban.announce hp samples with
      | .error e => (.raised e, s)
      | .ok d =>
          let (ok, s') := s.1.poll s.2 (Inbound.ofDatagram d)
          (.polled ok, s')
  | .other d =>
      let (ok, s') := s.1.poll s.2 (Inbound.ofDatagram d)
      (.polled ok, s')
  | .readFrames frameCount =>
      let (_, out, r) := s.1.readFrames true frameCount
      (.samples ((hostSamples out).map Int16.toInt), r, s.2)

/-- The values of the samples queued. -/
def queuedValues (r : VbanReceiver) : List ℤ := (hostSamples r.queue.contents).map Int16.toInt

/-- What is queued are the samples of the frame queue. -/
theorem Refines.queuedValues_eq {r : VbanReceiver} {q : FrameQueue} (h : r.Refines q) :
    r.queuedValues = pcmValues q.frames := by
  obtain ⟨fs, hcont, hframes⟩ := h.contents
  rw [queuedValues, hcont, hostSamples_hostImage, hframes, pcmValues_eq]

/-- There is room for what is sent: with it, what is queued does not take more than the ring. -/
def Room (s : VbanReceiver × VbanPollMemory) (op : PythonOp) : Prop :=
  (s.1.queuedValues ++ op.sent).length * 2 ≤ kVbanQueueBytes

/-- The receiver holds the frames of the queue, which are of one stream. -/
structure Hears (streamName : Option (List UInt8)) (i c : ℤ) (r : VbanReceiver) (q : FrameQueue) : Prop where
  refines : r.Refines q
  filter : q.filter = nameFilter streamName
  format : q.format = {} ∨ q.format = NetHelpers.Vban.formatOf i c

variable [PCMFlow]

/-- What one step does for a receiver that holds the frames of `q`. A packet that was sent is accepted; what was
queued and what is sent is what is returned and what is queued then, unless there is no room for it: then the
oldest of it is missing. -/
def Listens (streamName : Option (List UInt8)) (i c : ℤ) (s : VbanReceiver × VbanPollMemory) (q : FrameQueue)
    (op : PythonOp) : Prop :=
  ∃ q', Hears streamName i c (hear s op).2.1 q' ∧ op.Accepts (hear s op).1 ∧
    List.Sublist ((hear s op).1.values ++ pcmValues q'.frames) (pcmValues q.frames ++ op.sent) ∧
    ((pcmValues q.frames ++ op.sent).length * 2 ≤ kVbanQueueBytes →
      (hear s op).1.values ++ pcmValues q'.frames = pcmValues q.frames ++ op.sent)

section Steps

variable {streamName : Option (List UInt8)} {i c : ℤ} {r : VbanReceiver} {q : FrameQueue}
  (h : Hears streamName i c r q) (buf : VbanPollMemory)

include h

/-- **A packet that is built** is accepted and queues its samples. -/
theorem Hears.sent (hc : c = 1 ∨ c = 2) {hp : NetHelpers.Vban.AudioHeader} {samples : List ℤ} {d : List UInt8}
    (hfits : NetHelpers.Vban.Fits streamName i c hp samples)
    (hbuilt : NetHelpers.Vban.announce hp samples = .ok d) :
    let polled := r.poll buf (Inbound.ofDatagram d)
    polled.1 = true ∧ ∃ q', Hears streamName i c polled.2.1 q' ∧
      List.Sublist (pcmValues q'.frames) (pcmValues q.frames ++ samples) ∧
      ((pcmValues q.frames ++ samples).length * 2 ≤ kVbanQueueBytes →
        pcmValues q'.frames = pcmValues q.frames ++ samples) := by
  intro polled
  obtain ⟨hlen, hwire, fs, hframes, hvalues⟩ := NetHelpers.Vban.Built.frames hfits hc hbuilt
  have hacc : AcceptedBy q.filter q.format d := by
    rw [h.filter]
    exact NetHelpers.Vban.Built.accepted hfits hc hbuilt h.format
  have hchan : (wireFormat d).channels.toNat = c.toNat := by
    rw [hwire]
    rcases hc with rfl | rfl <;> rfl
  obtain ⟨hok, hrest⟩ := h.refines.poll buf d
  have hq : (q.answer (.poll d)).2 = q.accept d := by
    rw [FrameQueue.answer, List.take_of_length_le hlen]
    exact if_pos hacc
  rw [hq] at hrest
  have hnew : (q.accept d).frames = keepLast (kVbanQueueBytes / (c.toNat * 2)) (q.frames ++ fs.map audio) := by
    rw [← hframes, ← hchan]
    rfl
  -- what is queued is of the format of the packet
  obtain ⟨gs, -, hgs, -⟩ := h.refines.queued (h.refines.filter ▸ h.refines.format ▸ hacc)
  have hsize : (pcmValues (q.frames ++ fs.map audio)).length = (q.frames ++ fs.map audio).length * c.toNat := by
    have hlocked : gs.length * (wireFormat d).channels.toNat = gs.length * c.toNat :=
      congrArg (gs.length * ·) hchan
    rw [hgs, pcmValues_append, List.length_append, length_pcmValues, length_pcmValues, hlocked, ← Nat.add_mul,
      List.length_append, List.length_map, List.length_map]
  obtain ⟨hsub, hexact⟩ := pcmValues_keepLast (show 0 < c.toNat by omega) hsize
  rw [← hnew, pcmValues_append, hvalues] at hsub hexact
  exact ⟨hok.trans (decide_eq_true (.inr hacc)), q.accept d, ⟨hrest, h.filter, .inr hwire⟩, hsub, hexact⟩

/-- Python sends a packet, or fails to build it and sends nothing. -/
theorem Hears.send (hc : c = 1 ∨ c = 2) {hp : NetHelpers.Vban.AudioHeader} {samples : List ℤ}
    (hfits : NetHelpers.Vban.Fits streamName i c hp samples) :
      Listens streamName i c (r, buf) q (.send hp samples) := by
  cases hbuilt : NetHelpers.Vban.announce hp samples with
  | error e =>
    have hhear : hear (r, buf) (.send hp samples) = (.raised e, r, buf) := by rw [hear, hbuilt]
    have hsent : (PythonOp.send hp samples).sent = [] := by rw [PythonOp.sent, hbuilt]
    rw [Listens, hhear, hsent, List.append_nil]
    exact ⟨q, h, PythonAnswer.noConfusion, List.Sublist.refl _, fun _ => rfl⟩
  | ok d =>
    obtain ⟨hok, q', hrest, hsub, hexact⟩ := h.sent buf hc hfits hbuilt
    have hhear : hear (r, buf) (.send hp samples) = (.polled true, (r.poll buf (Inbound.ofDatagram d)).2) := by
      rw [hear, hbuilt, ← hok]
    have hsent : (PythonOp.send hp samples).sent = samples := by rw [PythonOp.sent, hbuilt]
    rw [Listens, hhear, hsent]
    exact ⟨q', hrest, fun heq => (by cases heq), hsub, hexact⟩

/-- A datagram of someone else changes nothing. -/
theorem Hears.other {d : List UInt8} (hother : SpeaksVban .audio d → ¬ Passes streamName (d.drop 8)) :
    Listens streamName i c (r, buf) q (.other d) := by
  have hkept : (q.answer (.poll d)).2 = q := if_neg fun hacc => hother hacc.audio (h.filter ▸ hacc).passes
  have hrest := (h.refines.poll buf d).2
  rw [hkept] at hrest
  have hsent : (PythonOp.other d).sent = [] := rfl
  rw [Listens, hsent, List.append_nil]
  exact ⟨q, ⟨hrest, h.filter, h.format⟩, trivial, List.Sublist.refl _, fun _ => rfl⟩

/-- What is read is not queued any more. -/
theorem Hears.readFrames (frameCount : ℕ) : Listens streamName i c (r, buf) q (.readFrames frameCount) := by
  obtain ⟨queue, hread, hrest⟩ := h.refines.read true frameCount
  rw [if_pos rfl] at hread
  have hvalues : (hear (r, buf) (.readFrames frameCount)).1.values = pcmValues (q.frames.take frameCount) := by
    rw [hear, hread]
    exact hostSamples_audio _
  have hafter : (hear (r, buf) (.readFrames frameCount)).2.1 = { r with queue } := by rw [hear, hread]
  have hq : (q.answer (.readFrames true frameCount)).2.frames = q.frames.drop frameCount := rfl
  have hsent : (PythonOp.readFrames frameCount).sent = [] := rfl
  have hall : pcmValues (q.frames.take frameCount) ++ pcmValues (q.frames.drop frameCount)
      = pcmValues q.frames := by
    rw [← pcmValues_append, List.take_append_drop]
  rw [Listens, hsent, List.append_nil, hvalues, hafter]
  refine ⟨_, ⟨hrest, h.filter, h.format⟩, trivial, ?_, fun _ => ?_⟩
  · rw [hq, hall]
  · rw [hq, hall]

/-- **One step.** -/
theorem Hears.step (hc : c = 1 ∨ c = 2) {op : PythonOp} (hop : op.Fits streamName i c) :
    Listens streamName i c (r, buf) q op := by
  cases op with
  | send hp samples => exact h.send buf hc hop
  | other d => exact h.other buf hop
  | readFrames frameCount => exact h.readFrames buf frameCount

end Steps

/-- **Python sends, a receiver listens.** Bind a receiver in any reachable state to a stream, and let Python
build packets for it, while others send whatever is not audio of the stream. The headers have one sample-rate
index, one or two channels, PCM16 and a name of the stream; each list has as many numbers as its header says and
no more than fit a packet, 1408 octets; the numbers and the other fields are any. Every packet that is built is
accepted. What was read and what is queued are samples that were sent, in that order; and it is all of them, if
there is room in the ring whenever a packet is sent. -/
theorem vban_python_to_dut {r : VbanReceiver} {buf : VbanPollMemory} (hr : Reachable (r, buf))
    (streamName : Option (List UInt8)) {i c : ℤ} (hc : c = 1 ∨ c = 2) {ops : List PythonOp}
    (hops : ∀ op ∈ ops, op.Fits streamName i c) :
    let s := ((r.begin streamName 1).2, buf)
    let read := (transcript hear s ops).flatMap fun e => e.2.values
    (∀ e ∈ transcript hear s ops, e.1.Accepts e.2) ∧
      List.Sublist (read ++ (after hear s ops).1.queuedValues) (ops.flatMap PythonOp.sent) ∧
      ((∀ past op, past ++ [op] <+: ops → Room (after hear s past) op) →
        read ++ (after hear s ops).1.queuedValues = ops.flatMap PythonOp.sent) := by
  intro s read
  have hstart : Hears streamName i c s.1 { filter := s.1.filter } :=
    ⟨refines_begin hr.inv streamName, r.filter_begin streamName 1, .inl rfl⟩
  have hempty : s.1.queuedValues = [] := by
    rw [hstart.refines.queuedValues_eq]
    rfl
  obtain ⟨-, hgood, hsub, hexact⟩ := transcript_flow (fun s => ∃ q, Hears streamName i c s.1 q) PythonOp.Accepts
    (fun s => s.1.queuedValues) PythonOp.sent PythonAnswer.values Room (fun s op hop hs => by
      obtain ⟨q, hq⟩ := hs
      obtain ⟨q', hrest, hok, hsub, hexact⟩ := hq.step s.2 hc hop
      rw [Room, hrest.refines.queuedValues_eq, hq.refines.queuedValues_eq]
      exact ⟨⟨q', hrest⟩, hok, hsub, hexact⟩) ⟨_, hstart⟩ hops
  rw [hempty, List.nil_append] at hsub hexact
  exact ⟨hgood, hsub, hexact⟩

/-- Two stereo packets and one that is not built, since a number is no `int16_t`. -/
def pythonStereo : List PythonOp :=
  [.send { sampleRateIndex := 3, numChannels := 2, streamName := [0x50, 0x79] } [1, -2],
    .send { sampleRateIndex := 3, numChannels := 2, streamName := [0x50, 0x79] } [40000, 0], .readFrames 1,
    .other [7], .send { sampleRateIndex := 3, numSamples := 2, numChannels := 2, streamName := [0x50, 0x79] }
      [3, 4, 5, -32768], .readFrames 1]

omit [PCMFlow] in
/-- They all are read but the last two, which are queued. -/
theorem vban_python_to_dut_stereo :
    let s := ((VbanReceiver.begin {} (some [0x50, 0x79, 0]) 1).2, Buffer.filled _ 0)
    let es := transcript (@hear PCMFlow.documented) s pythonStereo
    es.flatMap (fun e => e.2.values) = [1, -2, 3, 4] ∧
      (∀ e ∈ es, e.1.Accepts e.2) ∧
      List.Sublist (es.flatMap (fun e => e.2.values)
          ++ (after (@hear PCMFlow.documented) s pythonStereo).1.queuedValues)
        (pythonStereo.flatMap PythonOp.sent) ∧
      ((∀ past op, past ++ [op] <+: pythonStereo →
          Room (after (@hear PCMFlow.documented) s past) op) →
        es.flatMap (fun e => e.2.values) ++ (after (@hear PCMFlow.documented) s pythonStereo).1.queuedValues
          = pythonStereo.flatMap PythonOp.sent) :=
  ⟨by decide +kernel, @vban_python_to_dut PCMFlow.documented _ _ ⟨[], rfl⟩ (some [0x50, 0x79, 0]) 3 2 (.inr rfl)
    pythonStereo (by decide +kernel)⟩

end VbanReceiver

/-! ## From the library to Python -/

/-- The samples that Python hears in a packet, if it hears it. -/
def samplesHeard (packet : List UInt8) : Option (List ℤ) :=
  (NetHelpers.Vban.listen packet).toOption.join.map Prod.snd

/-- The samples that Python hears in a packet; those thrown away, as they were accepted. -/
def FrameFate.heard : FrameFate → Option (List ℤ)
  | .offered packet => samplesHeard packet
  | .discarded frames => some (pcmValues frames)

/-- Python reads the packet as PCM16, with a header in range and as many samples as it says. -/
def Heard (p : List UInt8) : Prop :=
  ∃ hp samples, NetHelpers.Vban.listen p = .ok (some (hp, samples)) ∧ hp.InRange ∧
    hp.subCodec = NetHelpers.Vban.vbanSubcodecPcm16 ∧ (samples.length : ℤ) = hp.numSamples * hp.numChannels ∧
    samples = pcmValues (packetAudio p)

/-- What is thrown away is known by its values. -/
@[simp] theorem FrameFate.heard_discarded (frames : List AudioFrame) :
    (FrameFate.discarded frames).heard = some (pcmValues frames) :=
  rfl

/-- What is heard in an offered packet is its audio. -/
theorem FrameFate.heard_offered {p : List UInt8} (h : Heard p) :
    (FrameFate.offered p).heard = some (pcmValues (FrameFate.offered p).frames) := by
  obtain ⟨hp, samples, hlisten, -, -, -, hsamples⟩ := h
  have hheard : samplesHeard p = some samples := by
    rw [samplesHeard, hlisten]
    rfl
  exact hheard.trans (congrArg some hsamples)

/-- The audio of fates in sequence is the audio of each, in sequence. -/
theorem FrameFate.values_fates (fates : List FrameFate) :
    pcmValues (fates.flatMap FrameFate.frames) = (fates.map fun f => pcmValues f.frames).flatten := by
  induction fates with
  | nil => rfl
  | cons f fates ih => rw [List.flatMap_cons, pcmValues_append, ih, List.map_cons, List.flatten_cons]

/-- A packet of the C++ encoder is heard. -/
theorem heard_encoded {c : ℕ} (hc : 0 < c) {h : VbanAudioHeader} (hidx : h.sampleRateIndex ≤ 20)
    (hsamples : 1 ≤ h.numSamples ∧ h.numSamples ≤ 256)
    (hchannels : 1 ≤ h.numChannels ∧ h.numChannels ≤ 256) (hcodec : h.subCodec = .pcm16) (hlt : c < 256)
    (hchan : h.numChannels.toNat = c) {fs : List (PcmFrame c)} (hnum : h.numSamples.toNat = fs.length) :
    Heard (audioHeaderBytes h ++ hostImage fs) := by
  have hrange : ∀ {k : UInt16}, 1 ≤ k ∧ k ≤ 256 → 1 ≤ (k.toNat : ℤ) ∧ (k.toNat : ℤ) ≤ 256 := by
    rintro k ⟨h1, h256⟩
    have h1' : 1 ≤ k.toNat := UInt16.le_iff_toNat_le.mp h1
    have h256' : k.toNat ≤ 256 := UInt16.le_iff_toNat_le.mp h256
    omega
  have hrate : h.sampleRateIndex.toNat ≤ 20 := UInt8.le_iff_toNat_le.mp hidx
  refine ⟨_, _, NetHelpers.Vban.listen_encoded hidx hsamples hchannels fs,
    ⟨⟨Int.natCast_nonneg _, Nat.cast_le.mpr hrate⟩, hrange hsamples, hrange hchannels⟩, ?_, ?_, ?_⟩
  · rw [VbanAudioHeader.toPython, hcodec]
    rfl
  · show ((pcmValues (fs.map audio)).length : ℤ) = (h.numSamples.toNat : ℤ) * h.numChannels.toNat
    rw [length_pcmValues, hnum, hchan, Nat.cast_mul]
  · rw [packetAudio_encoded hc hidx hsamples hchannels hlt hchan hnum]

namespace VbanSender

variable [PCMFlow]

/-- **What is emitted in the middle of a call** is heard. -/
theorem EmittedIn.heard {s e : VbanSender} (h : s.EmittedIn e) : Heard e.nextPacket := by
  have hlen : ((scratch).pending s.format.channels.toNat e).length = e.pendingFrames :=
    PacketScratch.length_pending (h.mode.room h.le) h.mode.channels_pos
  obtain ⟨hnum, hsamples⟩ := numSamples_range h.pos (h.le.trans h.mode.samplesPerPacket_le)
  rw [nextPacket_eq h.mode h.pos h.le, VbanOutlet.packet, hlen]
  exact heard_encoded h.mode.channels_pos h.mode.sampleRateIndex_le hsamples h.mode.channels_range rfl
    s.format.channels.toNat_lt ((UInt8.toNat_toUInt16 _).trans h.mode.channels) (hnum.trans hlen.symm)

end VbanSender

/-- **One call.** It completes, the books stay balanced, and what it offers is heard. -/
theorem VbanAccount.Inv.step_heard [PCMFlow] {l : VbanAccount} (h : l.Inv)
    (hheard : ∀ p ∈ l.sender.offered, Heard p) (call : VbanSender.Call) :
    ∃ l', l.step call = some l' ∧ l'.Inv ∧ ∀ p ∈ l'.sender.offered, Heard p := by
  obtain ⟨l', hstep, hinv⟩ := h.step call
  refine ⟨l', hstep, hinv, fun p hp => ?_⟩
  obtain ⟨s', hsender, rfl⟩ := Option.map_eq_some_iff.mp hstep
  obtain ⟨-, hoffered, hemitted⟩ := VbanSender.step_emissions h.wf hsender
  have hp : p ∈ s'.offered := hp
  rw [hoffered] at hp
  rcases List.mem_append.mp hp with hold | hnew
  · exact hheard p hold
  · obtain ⟨e, he, rfl⟩ := List.mem_map.mp hnew
    exact (hemitted e he).heard

/-- **A sender plays, Python listens.** In every run of a `VbanSender` from construction, whatever the calls and
whatever becomes of the sends: Python reads every packet offered as PCM16 audio, with as many samples as its
header says; and the samples that `writeFrames` accepted are, in order, those that Python hears, those thrown
away and those still pending. -/
theorem vban_dut_to_python [PCMFlow] (script : ℕ → UdpTx) (calls : List VbanSender.Call) :
    ∃ l : VbanAccount, run VbanAccount.step { sender := VbanSender.new script } calls = some l ∧
      run VbanSender.step (VbanSender.new script) calls = some l.sender ∧
      (∀ p ∈ l.sender.offered, Heard p) ∧
      l.fates.filterMap FrameFate.packet = l.sender.offered ∧
      ∃ parts : List (List ℤ), l.fates.map FrameFate.heard = parts.map some ∧
        pcmValues l.accepted = parts.flatten ++ pcmValues l.sender.pendingAudio := by
  have hstart : ({ sender := VbanSender.new script } : VbanAccount).Inv ∧
      ∀ p ∈ (VbanSender.new script).offered, Heard p :=
    ⟨VbanAccount.inv_new script, fun p hp => absurd hp List.not_mem_nil⟩
  obtain ⟨l, hrun, hinv, hheard⟩ := run_total
    (P := fun l : VbanAccount => l.Inv ∧ ∀ p ∈ l.sender.offered, Heard p)
    (fun l call h _ => h.1.step_heard h.2 call) hstart (admissible_of_forall (fun _ _ => trivial) _ calls)
  have hsender := VbanAccount.run_sender { sender := VbanSender.new script } calls
  rw [hrun] at hsender
  refine ⟨l, hrun, hsender.symm, hheard, hinv.packets, l.fates.map fun f => pcmValues f.frames, ?_, ?_⟩
  · rw [List.map_map]
    refine List.map_congr_left fun f hf => ?_
    cases f with
    | discarded frames => rfl
    | offered p =>
      have hp : p ∈ l.sender.offered := by
        rw [← hinv.packets]
        exact List.mem_filterMap.mpr ⟨_, hf, rfl⟩
      exact FrameFate.heard_offered (hheard p hp)
  · rw [hinv.balance, pcmValues_append, FrameFate.values_fates]

end PcmFlowUdp
