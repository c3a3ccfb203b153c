import PcmFlowUdp.Isolation

/-! # What a receiver forgets when it is bound again

`begin` resets counters and flags; it clears neither the ring storage nor the packet hold, and the static buffers
are never cleared. Two receivers are `Alike` if they show the same and hold the same, whatever lies in the cells
that the counters leave out; no call tells them apart, and none makes them differ.

* **`Alike.call`** — one call, of either class, whatever the UDP object answers;
* **`begin_forgets`** — so nothing that happened before a successful `begin` shows after it but the setup that
  it left: every call returns, and every getter shows, what it does on a receiver of that setup with any other
  past. -/

namespace PcmFlowUdp

open ByteTransport

/-! ## `RtpReceiver` -/

/-- What the getters of an `RtpReceiver` show. The metadata of the last packet is looked at only if there was
one, which is when the payload type is set. -/
structure RtpView where
  format : PCMFormat
  availableFrames : ℕ
  availableBytes : ℕ
  pcmBufferCapacityBytes : ℕ
  payloadType : UInt8
  isPcm : Bool
  hasEncoded : Bool
  isReady : Bool
  lastError : RtpReceiverError
  /-- Sequence number, timestamp, SSRC and marker. -/
  metadata : Option (UInt16 × UInt32 × UInt32 × Bool)

namespace RtpReceiver

/-- The metadata of the last packet, if there was one since the receiver was bound. -/
def lastMetadata (r : RtpReceiver) : Option (UInt16 × UInt32 × UInt32 × Bool) :=
  if r.lastPt = 0xFF then none else some (r.lastSeq, r.lastTs, r.lastSsrc, r.lastMarker)

/-- The getters. -/
def getters [PCMFlow] (r : RtpReceiver) : RtpView where
  format := r.format
  availableFrames := r.availableFrames
  availableBytes := r.queue.count
  pcmBufferCapacityBytes := r.queue.cap
  payloadType := r.lastPt
  isPcm := r.isPcm
  hasEncoded := r.hasEncoded
  isReady := r.ready
  lastError := r.error
  metadata := r.lastMetadata

/-- A call, what it returns and what the getters show then. -/
def observe [PCMFlow] (s : RtpReceiver × RtpPollMemory) (c : Call) :
    (CallAnswer × RtpView) × RtpReceiver × RtpPollMemory :=
  let (a, r, mem) := s.1.call s.2 c
  ((a, r.getters), r, mem)

/-- The receivers were configured alike: they have the same format, the same dynamic payload type and a ring of
the same size. -/
structure SameSetup (r r' : RtpReceiver) : Prop where
  format : r.format = r'.format
  dynamicL16Pt : r.dynamicL16Pt = r'.dynamicL16Pt
  dynamicL16Channels : r.dynamicL16Channels = r'.dynamicL16Channels
  cap : r.queue.cap = r'.queue.cap

/-- The receivers show and hold the same. -/
structure Alike (r r' : RtpReceiver) : Prop where
  setup : r.SameSetup r'
  ready : r.ready = r'.ready
  error : r.error = r'.error
  lastPt : r.lastPt = r'.lastPt
  metadata : r.lastPt ≠ 0xFF → r.lastSeq = r'.lastSeq ∧ r.lastTs = r'.lastTs ∧ r.lastSsrc = r'.lastSsrc ∧
    r.lastMarker = r'.lastMarker
  queue : r.queue.Alike r'.queue
  encodedReady : r.encodedReady = r'.encodedReady
  encodedBytes : r.encodedBytes = r'.encodedBytes
  /-- The bytes held are the same. -/
  encoded : r.encodedReady = true → r.encoded.slice 0 r.encodedBytes = r'.encoded.slice 0 r'.encodedBytes

/-- **`begin` makes receivers alike** that were configured alike. -/
theorem SameSetup.begin {r r' : RtpReceiver} (h : r.SameSetup r') : (r.begin 1).2.Alike (r'.begin 1).2 where
  setup := ⟨h.format, h.dynamicL16Pt, h.dynamicL16Channels, h.cap⟩
  ready := rfl
  error := rfl
  lastPt := rfl
  metadata hset := absurd rfl hset
  queue := RingBuffer.alike_clear h.cap
  encodedReady := rfl
  encodedBytes := rfl
  encoded hheld := absurd hheld Bool.false_ne_true

section Calls

variable [PCMFlow] {r r' : RtpReceiver} (h : Alike r r')

include h

/-- They show the same. -/
theorem Alike.getters : r.getters = r'.getters := by
  have hmeta : r.lastMetadata = r'.lastMetadata := by
    rw [lastMetadata, lastMetadata, ← h.lastPt]
    split
    · rfl
    · rename_i hset
      obtain ⟨hseq, hts, hssrc, hmarker⟩ := h.metadata hset
      rw [hseq, hts, hssrc, hmarker]
  simp only [RtpReceiver.getters, availableFrames, isPcm, treatsAsL16, hasEncoded, hmeta, h.setup.format,
    h.setup.dynamicL16Pt, h.setup.dynamicL16Channels, h.setup.cap, h.ready, h.error, h.lastPt, h.queue.count,
    h.encodedReady]

omit [PCMFlow] in
/-- Noting a header makes the metadata the same. -/
theorem Alike.noteHeader (hd : RtpHeader) : Alike (r.noteHeader hd) (r'.noteHeader hd) where
  setup := ⟨h.setup.format, h.setup.dynamicL16Pt, h.setup.dynamicL16Channels, h.setup.cap⟩
  ready := h.ready
  error := h.error
  lastPt := rfl
  metadata _ := ⟨rfl, rfl, rfl, rfl⟩
  queue := h.queue
  encodedReady := h.encodedReady
  encodedBytes := h.encodedBytes
  encoded := h.encoded

/-- Queueing the same payload. -/
theorem Alike.queueL16 (pt : UInt8) (payload : List UInt8) :
    Alike (r.queueL16 pt payload) (r'.queueL16 pt payload) := by
  have hfmt : r.l16Format pt = r'.l16Format pt := by
    rw [l16Format, l16Format, l16Channels, l16Channels, h.setup.format, h.setup.dynamicL16Pt,
      h.setup.dynamicL16Channels]
  rw [RtpReceiver.queueL16, RtpReceiver.queueL16, hfmt]
  have hqueue := h.queue.push (swapPairs (payload.take
    (payload.length - payload.length % (r'.l16Format pt).bytesPerFrame)))
  exact ⟨⟨rfl, h.setup.dynamicL16Pt, h.setup.dynamicL16Channels, hqueue.cap⟩, h.ready, h.error, h.lastPt,
    h.metadata, hqueue, h.encodedReady, h.encodedBytes, h.encoded⟩

omit [PCMFlow] in
/-- Holding the same payload, which fits. -/
theorem Alike.hold {payload : List UInt8} (hmax : payload.length ≤ kRtpMaxPayloadBytes) :
    Alike (r.hold payload) (r'.hold payload) where
  setup := ⟨h.setup.format, h.setup.dynamicL16Pt, h.setup.dynamicL16Channels, h.setup.cap⟩
  ready := h.ready
  error := h.error
  lastPt := h.lastPt
  metadata := h.metadata
  queue := h.queue
  encodedReady := rfl
  encodedBytes := rfl
  encoded _ := by
    have hfits : 0 + payload.length ≤ kRtpMaxPayloadBytes := by rwa [Nat.zero_add]
    exact (Buffer.slice_blit_same r.encoded hfits).trans (Buffer.slice_blit_same r'.encoded hfits).symm

omit [PCMFlow] in
/-- A change of the last error. -/
theorem Alike.withError (error : RtpReceiverError) : Alike { r with error } { r' with error } where
  setup := ⟨h.setup.format, h.setup.dynamicL16Pt, h.setup.dynamicL16Channels, h.setup.cap⟩
  ready := h.ready
  error := rfl
  lastPt := h.lastPt
  metadata := h.metadata
  queue := h.queue
  encodedReady := h.encodedReady
  encodedBytes := h.encodedBytes
  encoded := h.encoded

/-- Receiving the same bytes. -/
theorem Alike.receive {d : List UInt8} (hmax : d.length ≤ kRtpMaxPacketBytes) :
    (r.receive d).1 = (r'.receive d).1 ∧ Alike (r.receive d).2 (r'.receive d).2 := by
  rw [RtpReceiver.receive, RtpReceiver.receive]
  by_cases hshort : d.length < kRtpHeaderBytes
  · rw [if_pos hshort, if_pos hshort]
    exact ⟨rfl, h⟩
  · rw [if_neg hshort, if_neg hshort]
    cases hparse : parseRtpHeader d d.length with
    | error err => exact ⟨rfl, h.withError .badHeader⟩
    | ok hd =>
      refine ⟨rfl, ?_⟩
      have hl16 : r.treatsAsL16 hd.payloadType = r'.treatsAsL16 hd.payloadType := by
        rw [treatsAsL16, treatsAsL16, h.setup.dynamicL16Pt, h.setup.dynamicL16Channels]
      have hfits : (d.drop hd.payloadOffset).length ≤ kRtpMaxPayloadBytes := by
        have hoffset := (parseRtpHeader_offset hparse).2.1
        have hk : kRtpMaxPacketBytes = 12 + kRtpMaxPayloadBytes := rfl
        rw [List.length_drop]
        omega
      dsimp only
      rw [dispatch, dispatch, hl16]
      split
      · exact (h.noteHeader hd).queueL16 hd.payloadType _
      · exact (h.noteHeader hd).hold hfits

/-- Polling, whatever the UDP object answers and whatever is in the static buffers. -/
theorem Alike.poll (mem mem' : RtpPollMemory) {io : Inbound} (hio : io.Honest) :
    (r.poll mem io).1 = (r'.poll mem' io).1 ∧ Alike (r.poll mem io).2.1 (r'.poll mem' io).2.1 := by
  obtain ⟨hok, hr⟩ := Prod.ext_iff.mp (r.poll_received mem hio)
  obtain ⟨hok', hr'⟩ := Prod.ext_iff.mp (r'.poll_received mem' hio)
  dsimp only at hok hr hok' hr'
  rw [hok, hr, hok', hr', ← h.ready]
  cases hreceived : io.received kRtpMaxPacketBytes with
  | none => exact ⟨rfl, h⟩
  | some e =>
    dsimp only
    split
    · exact h.receive (hio.length_received hreceived)
    · exact ⟨rfl, h⟩

omit [PCMFlow] in
/-- Reading what is held. -/
theorem Alike.readEncoded (nonNull : Bool) (maxBytes : ℕ) :
    (r.readEncoded nonNull maxBytes).1 = (r'.readEncoded nonNull maxBytes).1 ∧
      (r.readEncoded nonNull maxBytes).2.1 = (r'.readEncoded nonNull maxBytes).2.1 ∧
      Alike (r.readEncoded nonNull maxBytes).2.2 (r'.readEncoded nonNull maxBytes).2.2 := by
  rw [RtpReceiver.readEncoded, RtpReceiver.readEncoded, h.encodedReady, h.encodedBytes]
  by_cases hnothing : (!r'.encodedReady || !nonNull || decide (maxBytes < r'.encodedBytes)) = true
  · rw [if_pos hnothing, if_pos hnothing]
    exact ⟨rfl, rfl, h⟩
  · have hheld : r.encodedReady = true := by
      rw [h.encodedReady]
      cases hready : r'.encodedReady with
      | false => simp [hready] at hnothing
      | true => rfl
    rw [if_neg hnothing, if_neg hnothing]
    refine ⟨rfl, ?_, ?_⟩
    · have hbytes := h.encoded hheld
      rwa [h.encodedBytes] at hbytes
    · exact ⟨⟨h.setup.format, h.setup.dynamicL16Pt, h.setup.dynamicL16Channels, h.setup.cap⟩, h.ready, h.error,
        h.lastPt, h.metadata, h.queue, rfl, rfl, fun hready => absurd hready Bool.false_ne_true⟩

omit [PCMFlow] in
/-- Binding. -/
theorem Alike.begin (bound : Int) :
    (r.begin bound).1 = (r'.begin bound).1 ∧ Alike (r.begin bound).2 (r'.begin bound).2 := by
  by_cases hbound : bound = 1
  · subst hbound
    exact ⟨rfl, h.setup.begin⟩
  · simp only [RtpReceiver.begin, if_pos hbound]
    exact ⟨trivial, ⟨h.setup.format, h.setup.dynamicL16Pt, h.setup.dynamicL16Channels, h.setup.cap⟩, rfl, rfl,
      h.lastPt, h.metadata, h.queue, h.encodedReady, h.encodedBytes, h.encoded⟩

omit [PCMFlow] in
/-- Changing the ring. -/
theorem Alike.setPcmBuffer (nonNull : Bool) (bytes : ℕ) :
    (r.setPcmBuffer nonNull bytes).1 = (r'.setPcmBuffer nonNull bytes).1 ∧
      Alike (r.setPcmBuffer nonNull bytes).2 (r'.setPcmBuffer nonNull bytes).2 := by
  rw [RtpReceiver.setPcmBuffer, RtpReceiver.setPcmBuffer]
  by_cases hready : r.ready = true
  · rw [if_pos hready, if_pos (h.ready.symm.trans hready)]
    exact ⟨rfl, h.withError .notReady⟩
  · rw [if_neg hready, if_neg (by rwa [← h.ready])]
    split <;>
      exact ⟨rfl, ⟨h.setup.format, h.setup.dynamicL16Pt, h.setup.dynamicL16Channels, rfl⟩, h.ready, h.error,
        h.lastPt, h.metadata, ⟨rfl, rfl⟩, h.encodedReady, h.encodedBytes, h.encoded⟩

/-- **One call.** -/
theorem Alike.call (mem mem' : RtpPollMemory) {c : Call} (hc : c.Honest) :
    (r.call mem c).1 = (r'.call mem' c).1 ∧ Alike (r.call mem c).2.1 (r'.call mem' c).2.1 := by
  cases c with
  | begin bound =>
    obtain ⟨hok, hrest⟩ := h.begin bound
    exact ⟨congrArg CallAnswer.flag hok, hrest⟩
  | end_ =>
    exact ⟨rfl, ⟨h.setup.format, h.setup.dynamicL16Pt, h.setup.dynamicL16Channels, h.setup.cap⟩, rfl, rfl,
      h.lastPt, h.metadata, RingBuffer.alike_clear h.setup.cap, rfl, rfl,
      fun hready => absurd hready Bool.false_ne_true⟩
  | setPcmBuffer nonNull bytes =>
    obtain ⟨hok, hrest⟩ := h.setPcmBuffer nonNull bytes
    exact ⟨congrArg CallAnswer.flag hok, hrest⟩
  | setFormat fmt =>
    simp only [RtpReceiver.call, returns, step, RtpReceiver.setFormat]
    split
    · exact ⟨rfl, h.withError .badHeader⟩
    · exact ⟨rfl, ⟨rfl, h.setup.dynamicL16Pt, h.setup.dynamicL16Channels, h.setup.cap⟩, h.ready, h.error,
        h.lastPt, h.metadata, h.queue, h.encodedReady, h.encodedBytes, h.encoded⟩
  | setDynamicL16PayloadType payloadType channels =>
    simp only [RtpReceiver.call, returns, step, RtpReceiver.setDynamicL16PayloadType]
    split
    · exact ⟨rfl, h.withError .badHeader⟩
    · exact ⟨rfl, ⟨h.setup.format, rfl, rfl, h.setup.cap⟩, h.ready, h.error, h.lastPt, h.metadata, h.queue,
        h.encodedReady, h.encodedBytes, h.encoded⟩
  | poll io =>
    obtain ⟨hok, hrest⟩ := h.poll mem mem' hc
    exact ⟨congrArg CallAnswer.flag hok, hrest⟩
  | readFrames nonNull frameCount =>
    -- equal contents give equal frames, wherever they lie in the two rings
    have hread := readQueue_alike h.queue r'.ready nonNull r'.format.bytesPerFrame frameCount
    simp only [RtpReceiver.call, returns, step, RtpReceiver.readFrames, h.ready, h.setup.format]
    refine ⟨by rw [hread.1, hread.2.1], ⟨rfl, h.setup.dynamicL16Pt, h.setup.dynamicL16Channels,
      hread.2.2.cap⟩, rfl, h.error, h.lastPt, h.metadata, hread.2.2, h.encodedReady, h.encodedBytes, h.encoded⟩
  | readEncoded nonNull maxBytes =>
    obtain ⟨hcount, hout, hrest⟩ := h.readEncoded nonNull maxBytes
    exact ⟨by rw [RtpReceiver.call, returns, RtpReceiver.call, returns, hcount, hout], hrest⟩

end Calls

end RtpReceiver

/-! ## `VbanReceiver` -/

/-- What the getters of a `VbanReceiver` show. -/
structure VbanView where
  format : PCMFormat
  currentStreamName : VbanName
  lastFrameCounter : UInt32
  isReady : Bool
  lastError : VbanReceiverError

namespace VbanReceiver

/-- The getters. -/
def getters (r : VbanReceiver) : VbanView where
  format := r.format
  currentStreamName := r.currentStream
  lastFrameCounter := r.lastFrameCounter
  isReady := r.ready
  lastError := r.error

/-- A call, what it returns, the service packets handed to the callback, and what the getters show then. -/
def observe [PCMFlow] (s : VbanReceiver × VbanPollMemory) (c : Call) :
    (CallAnswer × List VbanServicePacket × VbanView) × VbanReceiver × VbanPollMemory :=
  let (a, r, buf) := s.1.call s.2 c
  ((a, r.served.drop s.1.served.length, r.getters), r, buf)

/-- The receivers both have a service callback or both have none, and their rings have the same size. -/
structure SameSetup (r r' : VbanReceiver) : Prop where
  serviceCb : r.serviceCb = r'.serviceCb
  cap : r.queue.cap = r'.queue.cap

/-- The receivers are the same but for where the queue lies in the ring, and for what was handed to the callback
before. -/
def Alike (r r' : VbanReceiver) : Prop :=
  ∃ queue served, r.queue.Alike queue ∧ r' = { r with queue, served }

/-- Both calls hand these packets to the callback, and leave receivers that are alike. -/
def Serves (r r' : VbanReceiver) (packets : List VbanServicePacket) (s s' : VbanReceiver) : Prop :=
  s.served = r.served ++ packets ∧ s'.served = r'.served ++ packets ∧ Alike s s'

/-- **`begin` makes receivers alike** that were set up alike. -/
theorem SameSetup.begin {r r' : VbanReceiver} (h : r.SameSetup r') (streamName : Option (List UInt8)) :
    (r.begin streamName 1).2.Alike (r'.begin streamName 1).2 := by
  refine ⟨r'.queue.clear, r'.served, RingBuffer.alike_clear h.cap, ?_⟩
  simp [VbanReceiver.begin, h.serviceCb]

/-- Nothing is handed over. -/
theorem Alike.serves {r r' s s' : VbanReceiver} (h : Alike s s') (hserved : s.served = r.served)
    (hserved' : s'.served = r'.served) : Serves r r' [] s s' :=
  ⟨by rw [hserved, List.append_nil], by rw [hserved', List.append_nil], h⟩

section Calls

variable [PCMFlow] {r r' : VbanReceiver} (h : Alike r r')

include h

omit [PCMFlow] in
/-- They show the same. -/
theorem Alike.getters : r.getters = r'.getters := by
  obtain ⟨queue, served, -, rfl⟩ := h
  rfl

/-- An audio packet. -/
theorem Alike.pollAudio (hd : VbanAudioHeader) (payload : List UInt8) :
    (r.pollAudio hd payload).1 = (r'.pollAudio hd payload).1 ∧
      Serves r r' [] (r.pollAudio hd payload).2 (r'.pollAudio hd payload).2 := by
  obtain ⟨queue, served, hqueue, rfl⟩ := h
  unfold VbanReceiver.pollAudio
  dsimp only
  -- what decides is the same in both
  split
  · exact ⟨rfl, Alike.serves ⟨queue, served, hqueue, rfl⟩ rfl rfl⟩
  split
  · exact ⟨rfl, Alike.serves ⟨queue, served, hqueue, rfl⟩ rfl rfl⟩
  split
  · exact ⟨rfl, Alike.serves ⟨queue, served, hqueue, rfl⟩ rfl rfl⟩
  split
  · exact ⟨rfl, Alike.serves ⟨queue, served, hqueue, rfl⟩ rfl rfl⟩
  · exact ⟨rfl, Alike.serves ⟨_, served, hqueue.push _, rfl⟩ rfl rfl⟩

/-- Receiving the same bytes. -/
theorem Alike.receive (d : List UInt8) :
    (r.receive d).1 = (r'.receive d).1 ∧ ∃ packets, Serves r r' packets (r.receive d).2 (r'.receive d).2 := by
  have haudio := fun hd => h.pollAudio hd (d.drop kVbanHeaderBytes)
  obtain ⟨queue, served, hqueue, rfl⟩ := h
  have hsame : Serves r { r with queue, served } [] r { r with queue, served } :=
    Alike.serves ⟨queue, served, hqueue, rfl⟩ rfl rfl
  unfold VbanReceiver.receive
  dsimp only
  split
  · exact ⟨rfl, [], hsame⟩
  split
  · cases parseServiceHeader d d.length with
    | error err => exact ⟨rfl, [], hsame⟩
    | ok header =>
      dsimp only
      split
      · exact ⟨rfl, [{ header, payload := d.drop kVbanHeaderBytes }], rfl, rfl, queue, _, hqueue, rfl⟩
      · exact ⟨rfl, [], hsame⟩
  · cases parseAudioHeader d d.length with
    | error err => exact ⟨rfl, [], hsame⟩
    | ok hd => exact ⟨(haudio hd).1, [], (haudio hd).2⟩

/-- Polling, whatever the UDP object answers and whatever is in the static buffer. -/
theorem Alike.poll (buf buf' : VbanPollMemory) {io : Inbound} (hio : io.Honest) :
    (r.poll buf io).1 = (r'.poll buf' io).1 ∧
      ∃ packets, Serves r r' packets (r.poll buf io).2.1 (r'.poll buf' io).2.1 := by
  have hsame : Serves r r' [] r r' := h.serves rfl rfl
  have hready : r'.ready = r.ready := by
    obtain ⟨queue, served, -, rfl⟩ := h
    rfl
  obtain ⟨hok, hr⟩ := Prod.ext_iff.mp (r.poll_received buf hio)
  obtain ⟨hok', hr'⟩ := Prod.ext_iff.mp (r'.poll_received buf' hio)
  dsimp only at hok hr hok' hr'
  rw [hok, hr, hok', hr', hready]
  cases io.received kVbanMaxPacketBytes with
  | none => exact ⟨rfl, [], hsame⟩
  | some e =>
    dsimp only
    split
    · exact h.receive e
    · exact ⟨rfl, [], hsame⟩

/-- **One call.** -/
theorem Alike.call (buf buf' : VbanPollMemory) {c : Call} (hc : c.Honest) :
    (r.call buf c).1 = (r'.call buf' c).1 ∧
      ∃ packets, Serves r r' packets (r.call buf c).2.1 (r'.call buf' c).2.1 := by
  cases c with
  | poll io =>
    obtain ⟨hok, hrest⟩ := h.poll buf buf' hc
    exact ⟨congrArg CallAnswer.flag hok, hrest⟩
  | begin streamName bound =>
    obtain ⟨queue, served, hqueue, rfl⟩ := h
    by_cases hbound : bound = 1
    · subst hbound
      exact ⟨rfl, [], Alike.serves ⟨queue.clear, served, RingBuffer.alike_clear hqueue.cap, rfl⟩ rfl rfl⟩
    · simp only [VbanReceiver.call, returns, step, VbanReceiver.begin, if_pos hbound]
      exact ⟨trivial, [], Alike.serves ⟨queue, served, hqueue, rfl⟩ rfl rfl⟩
  | end_ =>
    obtain ⟨queue, served, hqueue, rfl⟩ := h
    exact ⟨rfl, [], Alike.serves ⟨queue.clear, served, RingBuffer.alike_clear hqueue.cap, rfl⟩ rfl rfl⟩
  | setServiceCallback cb =>
    obtain ⟨queue, served, hqueue, rfl⟩ := h
    exact ⟨rfl, [], Alike.serves ⟨queue, served, hqueue, rfl⟩ rfl rfl⟩
  | readFrames nonNull frameCount =>
    obtain ⟨queue, served, hqueue, rfl⟩ := h
    have hread := readQueue_alike hqueue r.ready nonNull r.format.bytesPerFrame frameCount
    refine ⟨?_, [], Alike.serves ⟨_, served, hread.2.2, rfl⟩ rfl rfl⟩
    simp only [VbanReceiver.call, returns, VbanReceiver.readFrames, hread.1, hread.2.1]

end Calls

end VbanReceiver

/-! ## Runs -/

/-- A call does not tell receivers that are alike apart. -/
theorem RtpReceiver.Alike.observe [PCMFlow] {s t : RtpReceiver × RtpPollMemory} (h : s.1.Alike t.1)
    {c : RtpReceiver.Call} (hc : c.Honest) :
    (RtpReceiver.observe s c).1 = (RtpReceiver.observe t c).1 ∧
      (RtpReceiver.observe s c).2.1.Alike (RtpReceiver.observe t c).2.1 := by
  obtain ⟨hanswer, hrest⟩ := h.call s.2 t.2 hc
  exact ⟨Prod.ext hanswer hrest.getters, hrest⟩

/-- A call does not tell receivers that are alike apart. -/
theorem VbanReceiver.Alike.observe [PCMFlow] {s t : VbanReceiver × VbanPollMemory} (h : s.1.Alike t.1)
    {c : VbanReceiver.Call} (hc : c.Honest) :
    (VbanReceiver.observe s c).1 = (VbanReceiver.observe t c).1 ∧
      (VbanReceiver.observe s c).2.1.Alike (VbanReceiver.observe t c).2.1 := by
  obtain ⟨hanswer, packets, hserved, hserved', hrest⟩ := h.call s.2 t.2 hc
  refine ⟨Prod.ext hanswer (Prod.ext ?_ hrest.getters), hrest⟩
  show (s.1.call s.2 c).2.1.served.drop _ = (t.1.call t.2 c).2.1.served.drop _
  rw [hserved, hserved', List.drop_left, List.drop_left]

/-- **A receiver forgets.** Take two receivers of one class that were configured alike and have nothing else in
common, over static buffers with anything in them; bind both, and make the same calls, of any kind, with the
same answers of the UDP object. Each call returns the same on both, hands the same service packets to the
callback, and leaves getters that show the same. So what arrived, was held or went wrong before a `begin` shows
after it at most in what counts as configuration here: an `RtpReceiver` keeps its format, which packets have a
part in, too. -/
theorem begin_forgets [PCMFlow] :
    (∀ {r r' : RtpReceiver}, r.SameSetup r' → ∀ (mem mem' : RtpPollMemory) {calls : List RtpReceiver.Call},
      (∀ c ∈ calls, c.Honest) →
      transcript RtpReceiver.observe (r, mem) (.begin 1 :: calls)
        = transcript RtpReceiver.observe (r', mem') (.begin 1 :: calls)) ∧
      ∀ {r r' : VbanReceiver}, r.SameSetup r' →
        ∀ (buf buf' : VbanPollMemory) (streamName : Option (List UInt8)) {calls : List VbanReceiver.Call},
        (∀ c ∈ calls, c.Honest) →
        transcript VbanReceiver.observe (r, buf) (.begin streamName 1 :: calls)
          = transcript VbanReceiver.observe (r', buf') (.begin streamName 1 :: calls) := by
  constructor
  · intro r r' h mem mem' calls hcalls
    have hanswer : (RtpReceiver.observe (r, mem) (.begin 1)).1 = (RtpReceiver.observe (r', mem') (.begin 1)).1 :=
      Prod.ext rfl h.begin.getters
    exact transcript_forgets RtpReceiver.observe (fun s t => s.1.Alike t.1) RtpReceiver.Call.Honest
      (fun _ _ _ hc halike => halike.observe hc) ⟨hanswer, h.begin⟩ hcalls
  · intro r r' h buf buf' streamName calls hcalls
    have hanswer : (VbanReceiver.observe (r, buf) (.begin streamName 1)).1
        = (VbanReceiver.observe (r', buf') (.begin streamName 1)).1 := by
      refine Prod.ext rfl (Prod.ext ?_ (h.begin streamName).getters)
      show r.served.drop r.served.length = r'.served.drop r'.served.length
      rw [List.drop_length, List.drop_length]
    exact transcript_forgets VbanReceiver.observe (fun s t => s.1.Alike t.1) VbanReceiver.Call.Honest
      (fun _ _ _ hc halike => halike.observe hc) ⟨hanswer, h.begin streamName⟩ hcalls

/-- A receiver that holds a payload and has octets in its ring, and a new one: after `begin` neither has
anything, and the next packet is the first. -/
theorem begin_forgets_used :
    let used : RtpReceiver :=
      { lastPt := 96, lastSeq := 7, encoded := Buffer.filled _ 9, encodedBytes := 3, encodedReady := true,
        queue := (pcmRing kRtpQueueBytes (by decide)).push [1, 2], error := .badHeader, ready := true }
    let served : VbanReceiver :=
      { format := ⟨48000, 2, 16⟩, queue := (RingBuffer.empty kVbanQueueBytes (by decide) 0).push [1, 2, 3, 4] }
    let rtp : List RtpReceiver.Call :=
      [.readEncoded true 9, .readFrames true 9, .poll (.ofDatagram (rtpHeaderBytes {} ++ [5])),
        .readEncoded true 9]
    let vban : List VbanReceiver.Call := [.readFrames true 9, .poll (.ofDatagram (List.replicate 29 0x56))]
    transcript (@RtpReceiver.observe PCMFlow.documented) (used, { buf := Buffer.filled _ 8 }) (.begin 1 :: rtp)
        = transcript (@RtpReceiver.observe PCMFlow.documented) ({}, {}) (.begin 1 :: rtp) ∧
      transcript (@VbanReceiver.observe PCMFlow.documented) (served, Buffer.filled _ 8) (.begin none 1 :: vban)
        = transcript (@VbanReceiver.observe PCMFlow.documented) ({}, Buffer.filled _ 0)
          (.begin none 1 :: vban) := by
  intro used served rtp vban
  have hrtp : used.SameSetup {} :=
    ⟨rfl, rfl, rfl, RingBuffer.cap_push (pcmRing kRtpQueueBytes (by decide)) [1, 2]⟩
  have hvban : served.SameSetup {} :=
    ⟨rfl, RingBuffer.cap_push (RingBuffer.empty kVbanQueueBytes (by decide) 0) [1, 2, 3, 4]⟩
  constructor
  · apply (@begin_forgets PCMFlow.documented).1 hrtp
    simp [rtp, RtpReceiver.Call.Honest, Inbound.honest_ofDatagram]
  · apply (@begin_forgets PCMFlow.documented).2 hvban
    simp [vban, VbanReceiver.Call.Honest, Inbound.honest_ofDatagram]

end PcmFlowUdp
