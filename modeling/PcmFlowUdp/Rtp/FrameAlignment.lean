import PcmFlowUdp.Rtp.PcmSession

/-! # Overflow and frame alignment of the PCM ring

The ring drops its oldest bytes when it overflows, and the reader counts in frames. With one L16 payload
type, whose frames have `c` channels,

* **`rtp_frame_alignment`** — frames come out whole and in order as long as a packet that overflows the
  ring finds a whole number of frames in its capacity; and a capacity of at least one frame that is not a
  whole number of them is misaligned by some run (`misaligned_run`). -/

namespace PcmFlowUdp

open ByteTransport PcmFrame

namespace PcmSession

/-- Every frame returned is one whole frame of a packet received, in the order in which they were
received. -/
def Ordered (s : PcmSession) : Prop := List.Sublist s.returned s.received

/-- Only packets of one payload type are polled, and the format is left to them. -/
def OfType (pt : UInt8) : PcmOp → Prop
  | .poll p => p.payloadType = pt
  | .setFormat _ => False
  | .read _ => True

/-- A packet that overflows a ring of at least one frame drops whole frames, and its padding does not
show. -/
def DropsFrames (s : PcmSession) : PcmOp → Prop
  | .poll p => s.receiver.1.PaddingHarmless p ∧ (s.FitsRing p ∨
      s.receiver.1.queue.cap < (s.receiver.1.l16Channels p.payloadType).toNat * 2)
  | _ => True

/-- The packet polled carries no padding. -/
def Unpadded : PcmOp → Prop
  | .poll p => p.paddingBytes = []
  | _ => True

/-! ## Sessions with one payload type -/

/-- A session of polls of packets with payload type `pt`, and of reads. -/
structure OneType (r₀ : RtpReceiver) (pt : UInt8) (s : PcmSession) : Prop where
  ready : s.receiver.1.ready = true
  dynamicPt : s.receiver.1.dynamicL16Pt = r₀.dynamicL16Pt
  dynamicChannels : s.receiver.1.dynamicL16Channels = r₀.dynamicL16Channels
  cap : s.receiver.1.queue.cap = r₀.queue.cap
  /-- Whatever is queued came in a packet of that type. -/
  locked : s.receiver.1.queue.count = 0 ∨ s.receiver.1.lastPt = pt ∧
    s.receiver.1.format.channels = r₀.l16Channels pt ∧ s.receiver.1.format.bitsPerSample = 16

namespace OneType

variable {r₀ : RtpReceiver} {pt : UInt8} {s : PcmSession}

/-- What a packet is taken to hold does not change over a run. -/
theorem l16Channels (h : OneType r₀ pt s) (pt' : UInt8) :
    s.receiver.1.l16Channels pt' = r₀.l16Channels pt' := by
  rw [RtpReceiver.l16Channels, RtpReceiver.l16Channels, h.dynamicPt, h.dynamicChannels]

/-- Nor does which types are read as L16. -/
theorem treatsAsL16 (h : OneType r₀ pt s) (pt' : UInt8) :
    s.receiver.1.treatsAsL16 pt' = r₀.treatsAsL16 pt' := by
  rw [RtpReceiver.treatsAsL16, RtpReceiver.treatsAsL16, h.dynamicPt, h.dynamicChannels]

/-- Nor does whether a dynamic type has channels. -/
theorem declared (h : OneType r₀ pt s) (hr₀ : r₀.Declared) : s.receiver.1.Declared := by
  rw [RtpReceiver.Declared, h.dynamicPt, h.dynamicChannels]
  exact hr₀

section Steps

variable [PCMFlow] (h : OneType r₀ pt s) (hr₀ : r₀.Declared) (hl16 : r₀.treatsAsL16 pt = true)

include h

/-- What a read leaves. -/
theorem read (frameCount : ℕ) {s' : PcmSession} (hstep : step s (.read frameCount) = some s') :
    OneType r₀ pt s' := by
  obtain ⟨out, queue, hread, hspec⟩ := s.receiver.1.readFrames_spec true frameCount
  rw [step, hread] at hstep
  obtain rfl := Option.some.inj hstep
  refine ⟨h.ready, h.dynamicPt, h.dynamicChannels, hspec.cap.trans h.cap, ?_⟩
  rcases h.locked with hempty | hlocked
  · -- nothing is left of an empty queue
    left
    have hcount := congrArg List.length hspec.contents
    rw [RingBuffer.length_contents, List.length_drop, RingBuffer.length_contents, hempty,
      Nat.zero_sub] at hcount
    exact hcount
  · exact .inr hlocked

include hr₀ hl16

/-- What polling a packet of the type leaves. -/
theorem poll {p : RtpPacket} (hp : p.payloadType = pt) (hpad : s.receiver.1.PaddingHarmless p)
    {s' : PcmSession} (hstep : step s (.poll p) = some s') : OneType r₀ pt s' := by
  have hl16' : s.receiver.1.treatsAsL16 p.payloadType = true := by rw [h.treatsAsL16, hp, hl16]
  obtain ⟨mem, ⟨-, hpoll⟩ | ⟨k, -, hpoll⟩⟩ := poll_l16 h.ready (h.declared hr₀) hl16' hpad
  · obtain rfl := Option.some.inj (hpoll.symm.trans hstep)
    exact ⟨h.ready, h.dynamicPt, h.dynamicChannels, h.cap, h.locked⟩
  · obtain rfl := Option.some.inj (hpoll.symm.trans hstep)
    refine ⟨h.ready, h.dynamicPt, h.dynamicChannels, (RingBuffer.cap_push _ _).trans h.cap, .inr ?_⟩
    refine ⟨hp, ?_, rfl⟩
    show s.receiver.1.l16Channels p.payloadType = _
    rw [h.l16Channels, hp]

/-- One call. -/
theorem step {op : PcmOp} (hop : OfType pt op) (hpad : s.DropsFrames op) :
    ∃ s', PcmSession.step s op = some s' ∧ OneType r₀ pt s' := by
  cases op with
  | poll p => exact ⟨_, rfl, h.poll hr₀ hl16 hop hpad.1 rfl⟩
  | setFormat fmt => exact absurd hop id
  | read frameCount => exact ⟨_, rfl, h.read frameCount rfl⟩

omit [PCMFlow] hr₀ in
/-- Such a call keeps the queue in step, if it drops whole frames. -/
theorem keeps {op : PcmOp} (hop : OfType pt op) (hdrops : s.DropsFrames op)
    (hcap : (r₀.l16Channels pt).toNat * 2 ≤ r₀.queue.cap) : s.PollsL16 op ∧ s.Keeps op := by
  have hlast : s.receiver.1.queue.count = 0 ∨
      s.receiver.1.lastPt = pt ∧ s.lastChannels = r₀.l16Channels pt := by
    rcases h.locked with hempty | ⟨hlast, -⟩
    · exact .inl hempty
    · exact .inr ⟨hlast, by rw [lastChannels, hlast, h.l16Channels]⟩
  cases op with
  | poll p =>
    have hpt : p.payloadType = pt := hop
    refine ⟨?_, .inr ⟨hdrops.1, ?_, ?_⟩⟩
    · show s.receiver.1.treatsAsL16 p.payloadType = true
      rw [h.treatsAsL16, hpt, hl16]
    · refine hdrops.2.resolve_right ?_
      rw [h.l16Channels, hpt, h.cap]
      omega
    · exact hlast.imp_right fun hl => by rw [h.l16Channels, hpt, hl.2]
  | setFormat fmt => exact absurd hop id
  | read frameCount =>
    refine ⟨trivial, ?_⟩
    rcases h.locked with hempty | ⟨hl, hch, -⟩
    · exact .inl hempty
    · exact .inr (by rw [hch, lastChannels, hl, h.l16Channels])

omit hr₀ hl16

/-- A ring smaller than a frame never returns any. -/
theorem returned_eq (hcap : r₀.queue.cap < (r₀.l16Channels pt).toNat * 2) {op : PcmOp}
    {s' : PcmSession} (hstep : PcmSession.step s op = some s') : s'.returned = s.returned := by
  cases op with
  | poll p =>
    obtain rfl := Option.some.inj hstep
    rfl
  | setFormat fmt =>
    obtain rfl := Option.some.inj hstep
    rfl
  | read frameCount =>
    obtain ⟨out, queue, hread, hspec⟩ := s.receiver.1.readFrames_spec true frameCount
    -- a frame is larger than the ring, so not one is ever complete
    have hnone : out = [] := by
      have hout := hspec.out
      have hle := framesToRead_mul_le s.receiver.1.ready true s.receiver.1.format.bytesPerFrame
        s.receiver.1.queue frameCount
      have hcount := s.receiver.1.queue.count_le
      generalize framesToRead s.receiver.1.ready true s.receiver.1.format.bytesPerFrame
        s.receiver.1.queue frameCount = k at hout hle
      have hlen : out.length ≤ k * s.receiver.1.format.bytesPerFrame := by
        rw [show out = _ from hout, List.length_take]
        exact min_le_left _ _
      apply List.length_eq_zero_iff.mp
      rcases h.locked with hempty | ⟨-, hch, hbits⟩
      · omega
      · rw [PCMFormat.bytesPerFrame_pcm16 hbits, hch] at hle hlen
        rcases Nat.eq_zero_or_pos k with hzero | hpos
        · rw [hzero, Nat.zero_mul] at hlen
          omega
        · have hone := Nat.le_mul_of_pos_left ((r₀.l16Channels pt).toNat * 2) hpos
          rw [h.cap] at hcount
          omega
    rw [PcmSession.step, hread] at hstep
    obtain rfl := Option.some.inj hstep
    rw [hnone, hostFrames_nil, List.map_nil, List.append_nil]

end Steps

end OneType

/-! ## A run that splits a frame -/

/-- A frame whose last sample is 256 and whose other samples are silent. -/
def markedFrame (c : ℕ) (hc : 0 < c) : PcmFrame c :=
  ⟨List.replicate (c - 1) 0 ++ [256],
    by rw [List.length_append, List.length_replicate]; exact Nat.sub_add_cancel hc⟩

/-- A silent frame. -/
def silentFrame (c : ℕ) : PcmFrame c := ⟨List.replicate c 0, List.length_replicate⟩

/-- Silence is zeros. -/
theorem flatMap_hostSample_replicate (n : ℕ) :
    (List.replicate n (0 : Int16)).flatMap hostSample = List.replicate (n * 2) 0 := by
  induction n with
  | zero => rfl
  | succ n ih =>
    rw [List.replicate_succ, List.flatMap_cons, ih, Nat.succ_mul, Nat.add_comm (n * 2) 2,
      List.replicate_add]
    rfl

/-- A silent frame is zeros. -/
theorem hostBytes_silentFrame (c : ℕ) : (silentFrame c).hostBytes = List.replicate (c * 2) 0 :=
  flatMap_hostSample_replicate c

/-- The only byte set is the last one. -/
theorem hostBytes_markedFrame (c : ℕ) (hc : 0 < c) :
    (markedFrame c hc).hostBytes = List.replicate (c * 2 - 1) 0 ++ [1] := by
  have hlast : ([256] : List Int16).flatMap hostSample = [0, 1] := by decide
  have hsplit : List.replicate (c * 2 - 1) (0 : UInt8) = List.replicate ((c - 1) * 2) 0 ++ [0] := by
    rw [← List.replicate_succ']
    congr 1
    omega
  rw [hostBytes, markedFrame, List.flatMap_append, flatMap_hostSample_replicate, hlast, hsplit,
    List.append_assoc]
  rfl

/-- So are any number of them. -/
theorem hostImage_replicate_silent (c m : ℕ) :
    hostImage (List.replicate m (silentFrame c)) = List.replicate (m * (c * 2)) 0 := by
  induction m with
  | zero => rw [Nat.zero_mul]; rfl
  | succ m ih =>
    rw [List.replicate_succ, hostImage, List.flatMap_cons, ← hostImage, ih, hostBytes_silentFrame,
      ← List.replicate_add]
    congr 1
    rw [Nat.succ_mul, Nat.add_comm]

/-- A marked frame before silent ones. -/
def markedFrames (c : ℕ) (hc : 0 < c) (m : ℕ) : List (PcmFrame c) :=
  markedFrame c hc :: List.replicate m (silentFrame c)

/-- The bytes of the marked frame and of the silent ones behind it. -/
theorem length_hostImage_markedFrames {c : ℕ} (hc : 0 < c) (m : ℕ) :
    (hostImage (markedFrames c hc m)).length = (m + 1) * (c * 2) := by
  rw [length_hostImage, markedFrames, List.length_cons, List.length_replicate]

/-- A frame's worth of bytes taken off the stream anywhere inside the marked frame is no frame of it. -/
theorem not_mem_markedFrames {c : ℕ} (hc : 0 < c) {m d : ℕ} (hd : 0 < d) (hlt : d < c * 2) (hm : 0 < m)
    {g : PcmFrame c}
    (hg : g.hostBytes = ((hostImage (markedFrames c hc m)).drop d).take (c * 2)) :
    g ∉ markedFrames c hc m := by
  have hdm : d ≤ m * (c * 2) := hlt.le.trans (Nat.le_mul_of_pos_left _ hm)
  have himage : hostImage (markedFrames c hc m)
      = List.replicate (c * 2 - 1) 0 ++ 1 :: List.replicate (m * (c * 2)) 0 := by
    rw [markedFrames, hostImage, List.flatMap_cons, ← hostImage, hostImage_replicate_silent,
      hostBytes_markedFrame]
    simp
  -- the byte that is set has moved forward by `d`
  have hbytes : g.hostBytes = List.replicate (c * 2 - 1 - d) 0 ++ 1 :: List.replicate d 0 := by
    rw [hg, himage, List.drop_append_of_le_length (by rw [List.length_replicate]; omega),
      List.drop_replicate, List.take_append,
      List.take_of_length_le (by rw [List.length_replicate]; omega), List.length_replicate,
      show c * 2 - (c * 2 - 1 - d) = d + 1 by omega, List.take_succ_cons, List.take_replicate,
      min_eq_left hdm]
  intro hmem
  rcases List.mem_cons.mp hmem with rfl | hsilent
  · rw [hostBytes_markedFrame] at hbytes
    have hlast := congrArg List.getLast? hbytes
    obtain ⟨e, rfl⟩ : ∃ e, d = e + 1 := ⟨d - 1, by omega⟩
    rw [List.replicate_succ', ← List.cons_append, ← List.append_assoc, List.getLast?_concat,
      List.getLast?_concat] at hlast
    exact absurd hlast (by decide)
  · obtain rfl := List.eq_of_mem_replicate hsilent
    rw [hostBytes_silentFrame] at hbytes
    have hone : (1 : UInt8) ∈ List.replicate (c * 2) 0 := by rw [hbytes]; simp
    exact absurd (List.eq_of_mem_replicate hone) (by decide)

/-- So that is what reading one frame there gives: a frame that was never in the stream. -/
theorem exists_torn_frame {c : ℕ} (hc : 0 < c) {m d : ℕ} (hd : 0 < d) (hlt : d < c * 2) (hm : 0 < m) :
    ∃ g, hostFrames c (((hostImage (markedFrames c hc m)).drop d).take (c * 2)) = [g] ∧
      g ∉ markedFrames c hc m := by
  set out := ((hostImage (markedFrames c hc m)).drop d).take (c * 2) with hout
  have houtlen : out.length = c * 2 := by
    have hle : c * 2 ≤ m * (c * 2) := Nat.le_mul_of_pos_left _ hm
    rw [hout, List.length_take, List.length_drop, length_hostImage_markedFrames, Nat.succ_mul]
    omega
  have himage := hostImage_hostFrames hc (Dvd.intro_left 1 (by rw [houtlen, Nat.one_mul]))
  obtain ⟨g, hg⟩ : ∃ g, hostFrames c out = [g] := by
    have hcard := length_hostImage (hostFrames c out)
    rw [himage, houtlen] at hcard
    exact List.length_eq_one_iff.mp (Nat.eq_of_mul_eq_mul_right (show 0 < c * 2 by omega)
      (by rw [Nat.one_mul]; exact hcard.symm))
  refine ⟨g, hg, not_mem_markedFrames hc hd hlt hm ?_⟩
  rw [hg, hostImage, List.flatMap_singleton] at himage
  exact himage

/-- An L16 packet of one frame. -/
def framePacket {c : ℕ} (pt : UInt8) (hpt : pt ≤ 0x7F) (f : PcmFrame c) : RtpPacket :=
  .plain pt hpt (netImage [f])

section Overflow

variable [PCMFlow] {r₀ : RtpReceiver} {pt : UInt8} (hr₀ : r₀.Declared)
  (hl16 : r₀.treatsAsL16 pt = true) (hpt : pt ≤ 0x7F)

include hr₀ hl16 hpt

/-- Polling a packet of one frame pushes the frame, dropping the oldest bytes if there is no room. -/
theorem OneType.poll_frame {s : PcmSession} (h : OneType r₀ pt s)
    (f : PcmFrame (r₀.l16Channels pt).toNat) :
    ∃ s', PcmSession.step s (.poll (framePacket pt hpt f)) = some s' ∧ OneType r₀ pt s' ∧
      s'.receiver.1.queue.contents
        = keepLast r₀.queue.cap (s.receiver.1.queue.contents ++ hostImage [f]) ∧
      s'.received = s.received ++ [f.audio] ∧ s'.returned = s.returned := by
  have hc := hr₀.l16Channels_pos hpt
  have hch := h.l16Channels pt
  have hnet : (netImage [f]).length = (r₀.l16Channels pt).toNat * 2 := by
    rw [length_netImage, List.length_singleton, Nat.one_mul]
  have hwhole : wholeFrames ((r₀.l16Channels pt).toNat * 2) (netImage [f]) = netImage [f] := by
    rw [wholeFrames, hnet, Nat.mod_self, Nat.sub_zero, ← hnet, List.take_length]
  have hpad : s.receiver.1.PaddingHarmless (framePacket pt hpt f) :=
    s.receiver.1.paddingHarmless_of_unpadded rfl
  have hl16' : s.receiver.1.treatsAsL16 (framePacket pt hpt f).payloadType = true :=
    (h.treatsAsL16 pt).trans hl16
  have hlen : (framePacket pt hpt f).wire.length ≤ kRtpMaxPacketBytes := by
    have hlt := (r₀.l16Channels pt).toNat_lt
    rw [framePacket, RtpPacket.length_wire_plain, hnet]
    show 12 + _ ≤ 1452
    omega
  obtain ⟨mem, ⟨hcut, -⟩ | ⟨k, hk, hpoll⟩⟩ := poll_l16 h.ready (h.declared hr₀) hl16' hpad
  · -- twelve octets of header fit the buffer
    have hwire := (framePacket pt hpt f).length_wire
    omega
  · -- the packet carries the frame and nothing else
    have hbytes : hostImage ((s.receiver.1.packetFrames (framePacket pt hpt f)).take k)
        = hostImage [f] := by
      rw [List.take_of_length_le (hk hlen),
        hostImage_packetFrames ((h.declared hr₀).l16Channels_pos (framePacket pt hpt f).payloadType_le)]
      show swapPairs (wholeFrames ((s.receiver.1.l16Channels pt).toNat * 2) (netImage [f])) = _
      rw [hch, hwhole, swapPairs_netImage]
    have haudio : (s.receiver.1.packetFrames (framePacket pt hpt f)).map audio = [f.audio] := by
      show (netFrames (s.receiver.1.l16Channels pt).toNat
        (wholeFrames ((s.receiver.1.l16Channels pt).toNat * 2) (netImage [f]))).map audio = _
      rw [hch, hwhole, netFrames_netImage hc]
      rfl
    rw [hbytes, haudio] at hpoll
    refine ⟨_, hpoll, h.poll hr₀ hl16 rfl hpad hpoll, ?_, rfl, rfl⟩
    rw [← h.cap]
    exact s.receiver.1.queue.contents_push _

/-- Polling packets of one frame each keeps as many of the last bytes as the ring holds. -/
theorem OneType.run_frames (fs : List (PcmFrame (r₀.l16Channels pt).toNat)) {s : PcmSession}
    (h : OneType r₀ pt s) :
    ∃ s', run PcmSession.step s (fs.map fun f => .poll (framePacket pt hpt f)) = some s' ∧
      OneType r₀ pt s' ∧
      s'.receiver.1.queue.contents
        = keepLast r₀.queue.cap (s.receiver.1.queue.contents ++ hostImage fs) ∧
      s'.received = s.received ++ fs.map audio ∧ s'.returned = s.returned := by
  induction fs generalizing s with
  | nil =>
    have hle : (s.receiver.1.queue.contents ++ hostImage ([] : List (PcmFrame
        (r₀.l16Channels pt).toNat))).length ≤ r₀.queue.cap := by
      rw [hostImage_nil, List.append_nil, RingBuffer.length_contents, ← h.cap]
      exact s.receiver.1.queue.count_le
    exact ⟨s, rfl, h, by rw [keepLast_of_le hle, hostImage_nil, List.append_nil], by simp, rfl⟩
  | cons f fs ih =>
    obtain ⟨s₁, hstep, h₁, hcont₁, hrec₁, hret₁⟩ := h.poll_frame hr₀ hl16 hpt f
    obtain ⟨s', hrun, h', hcont, hrec, hret⟩ := ih h₁
    refine ⟨s', by rw [List.map_cons, run_cons_of_step hstep, hrun], h', ?_, ?_, hret.trans hret₁⟩
    · rw [hcont, hcont₁, keepLast_append_keepLast, List.append_assoc, ← hostImage_append]
      rfl
    · rw [hrec, hrec₁, List.append_assoc]
      rfl

/-- A capacity of at least one frame that is not a whole number of frames is misaligned by as many frames
as do not fit: the first one to be read is split. -/
theorem misaligned_run {s : PcmSession} (h : OneType r₀ pt s)
    (hnil : s.receiver.1.queue.contents = []) (hreceived : s.received = [])
    (hreturned : s.returned = []) (hle : (r₀.l16Channels pt).toNat * 2 ≤ r₀.queue.cap)
    (hdvd : ¬ (r₀.l16Channels pt).toNat * 2 ∣ r₀.queue.cap) :
    ∃ ops s', (∀ op ∈ ops, OfType pt op ∧ Unpadded op) ∧
      run PcmSession.step s ops = some s' ∧ ¬ s'.Ordered := by
  have hc := hr₀.l16Channels_pos hpt
  set c := (r₀.l16Channels pt).toNat with hcdef
  set cap := r₀.queue.cap with hcapdef
  set m := cap / (c * 2) with hm
  have hmpos : 0 < m := Nat.div_pos hle (by omega)
  have hmod : 0 < cap % (c * 2) :=
    Nat.pos_of_ne_zero fun h0 => hdvd (Nat.dvd_of_mod_eq_zero h0)
  have hmodlt : cap % (c * 2) < c * 2 := Nat.mod_lt _ (by omega)
  have hdiv : c * 2 * m + cap % (c * 2) = cap := Nat.div_add_mod cap (c * 2)
  set fs := markedFrames c hc m with hfs
  have hlen : (hostImage fs).length = (m + 1) * (c * 2) := length_hostImage_markedFrames hc m
  have hmul : (m + 1) * (c * 2) = c * 2 * m + c * 2 := by rw [Nat.succ_mul, Nat.mul_comm m]
  obtain ⟨s₁, hrun, h₁, hcont, hrec, hret⟩ := h.run_frames hr₀ hl16 hpt fs
  rw [hnil, List.nil_append] at hcont
  -- the ring is full, and begins inside the marked frame
  have hcount : s₁.receiver.1.queue.count = cap := by
    rw [← RingBuffer.length_contents, hcont, length_keepLast, hlen]
    omega
  obtain ⟨-, hch, hbits⟩ := h₁.locked.resolve_left (by omega)
  have hbpf : s₁.receiver.1.format.bytesPerFrame = c * 2 := by
    rw [PCMFormat.bytesPerFrame_pcm16 hbits, hch]
  obtain ⟨out, queue, hread, hspec⟩ := s₁.receiver.1.readFrames_spec true 1
  have hone : framesToRead s₁.receiver.1.ready true (c * 2) s₁.receiver.1.queue 1 = 1 := by
    rw [framesToRead, h₁.ready, hcount]
    exact min_eq_left hmpos
  have hout : out = ((hostImage fs).drop ((m + 1) * (c * 2) - cap)).take (c * 2) := by
    have htake := hspec.out
    rw [hbpf, hone, Nat.one_mul, hcont, keepLast, hlen] at htake
    exact htake
  obtain ⟨g, hg, hnotin⟩ := exists_torn_frame hc (show 0 < (m + 1) * (c * 2) - cap by omega) (by omega) hmpos
  rw [← hfs, ← hout] at hg
  refine ⟨fs.map (fun f => .poll (framePacket pt hpt f)) ++ [.read 1],
    { s₁ with
      receiver := ({ s₁.receiver.1 with queue }, s₁.receiver.2)
      returned := s₁.returned ++ (hostFrames c out).map audio }, ?_, ?_, ?_⟩
  · intro op hop
    rcases List.mem_append.mp hop with hpoll | hread
    · obtain ⟨f, -, rfl⟩ := List.mem_map.mp hpoll
      exact ⟨rfl, rfl⟩
    · obtain rfl := List.mem_singleton.mp hread
      exact ⟨trivial, trivial⟩
  · rw [run_append, hrun, Option.bind_some]
    apply run_cons_of_step
    rw [PcmSession.step, hread, hch]
  · -- the frame that is read is none of those received
    intro hordered
    have hmem : g.audio ∈ fs.map audio := by
      have hsub : List.Sublist (s₁.returned ++ (hostFrames c out).map audio) s₁.received := hordered
      rw [hg, hret, hrec, hreturned, hreceived] at hsub
      exact hsub.subset (by simp)
    obtain ⟨f, hf, heq⟩ := List.mem_map.mp hmem
    have hsame : f = g := PcmFrame.ext (AudioFrame.mk.inj heq).2
    exact hnotin (hsame ▸ hf)

omit hpt

/-- If every call drops whole frames, frames come out whole and in order. -/
theorem ordered_of_dropsFrames {s : PcmSession} (h : OneType r₀ pt s) (hinv : s.Inv)
    (hreturned : s.returned = []) {ok : PcmSession → PcmOp → Prop}
    (hok : ∀ s op, OneType r₀ pt s → ok s op → OfType pt op ∧ s.DropsFrames op)
    {ops : List PcmOp} (hops : Admissible PcmSession.step ok s ops) :
    ∃ s', run PcmSession.step s ops = some s' ∧ s'.Ordered := by
  by_cases hcap : (r₀.l16Channels pt).toNat * 2 ≤ r₀.queue.cap
  · obtain ⟨s', hrun, -, hinv'⟩ := run_total (P := fun s => OneType r₀ pt s ∧ s.Inv)
      (fun s op hs hop => by
        obtain ⟨htype, hdrops⟩ := hok s op hs.1 hop
        obtain ⟨hpolls, hkeeps⟩ := hs.1.keeps hl16 htype hdrops hcap
        obtain ⟨s₁, hstep, hone⟩ := hs.1.step hr₀ hl16 htype hdrops
        obtain ⟨s₂, hstep', hinv₂⟩ := hs.2.step hpolls hkeeps
        obtain rfl := Option.some.inj (hstep.symm.trans hstep')
        exact ⟨s₁, hstep, hone, hinv₂⟩)
      ⟨h, hinv⟩ hops
    exact ⟨s', hrun, hinv'.sublist⟩
  · -- no read returns anything
    obtain ⟨s', hrun, -, hnone⟩ := run_total (P := fun s => OneType r₀ pt s ∧ s.returned = [])
      (fun s op hs hop => by
        obtain ⟨htype, hdrops⟩ := hok s op hs.1 hop
        obtain ⟨s₁, hstep, hone⟩ := hs.1.step hr₀ hl16 htype hdrops
        exact ⟨s₁, hstep, hone, (hs.1.returned_eq (Nat.lt_of_not_le hcap) hstep).trans hs.2⟩)
      ⟨h, hreturned⟩ hops
    exact ⟨s', hrun, by rw [Ordered, hnone]; exact List.nil_sublist _⟩

end Overflow

/-! ## Caller buffers -/

/-- The capacity of the ring after `setPcmBuffer`. -/
def pcmCapacity (nonNull : Bool) (bytes : ℕ) : ℕ :=
  if nonNull = false ∨ bytes = 0 then kRtpQueueBytes else bytes

/-- A session of a receiver begun over this buffer. -/
def opened (r₀ : RtpReceiver) (mem : RtpPollMemory) (nonNull : Bool) (bytes : ℕ) : PcmSession :=
  { receiver := (((r₀.setPcmBuffer nonNull bytes).2.begin 1).2, mem) }

/-- What opening leaves. -/
theorem opened_spec {r₀ : RtpReceiver} (hidle : r₀.ready = false) (mem : RtpPollMemory)
    (nonNull : Bool) (bytes : ℕ) :
    (opened r₀ mem nonNull bytes).receiver.1.ready = true ∧
      (opened r₀ mem nonNull bytes).receiver.1.dynamicL16Pt = r₀.dynamicL16Pt ∧
      (opened r₀ mem nonNull bytes).receiver.1.dynamicL16Channels = r₀.dynamicL16Channels ∧
      (opened r₀ mem nonNull bytes).receiver.1.queue.count = 0 ∧
      (opened r₀ mem nonNull bytes).receiver.1.queue.cap = pcmCapacity nonNull bytes := by
  have hnot : ¬ r₀.ready = true := by rw [hidle]; exact Bool.false_ne_true
  rw [opened, RtpReceiver.setPcmBuffer, if_neg hnot, pcmCapacity]
  by_cases hdefault : nonNull = false ∨ bytes = 0
  · rw [dif_pos hdefault, if_pos hdefault]
    exact ⟨rfl, rfl, rfl, rfl, RingBuffer.cap_empty kRtpQueueBytes (by decide) 0⟩
  · rw [dif_neg hdefault, if_neg hdefault]
    exact ⟨rfl, rfl, rfl, rfl, RingBuffer.cap_empty bytes (by omega) 0⟩

/-- **Frame alignment of the PCM ring.** For every reachable receiver that is not begun, every buffer
handed to `setPcmBuffer`, and every L16 payload type with the channel count the receiver takes it to
have, after `begin`:

* in every run of polls of packets of that type and of reads, whose packets have no padding that passes
  for frames and overflow the ring only if its capacity is a whole number of frames or less than one,
  frames come out whole and in the order in which they were received;
* this is so in all runs of polls of packets without padding and of reads exactly if the capacity is a
  whole number of frames or less than one. -/
theorem rtp_frame_alignment [PCMFlow] {r₀ : RtpReceiver} {mem : RtpPollMemory}
    (hr : RtpReceiver.Reachable (r₀, mem)) (hidle : r₀.ready = false) (nonNull : Bool) (bytes : ℕ)
    {pt : UInt8} (hpt : pt ≤ 0x7F) (hl16 : r₀.treatsAsL16 pt = true) :
    (∀ ops, Admissible step (fun s op => OfType pt op ∧ s.DropsFrames op)
        (opened r₀ mem nonNull bytes) ops →
      ∃ s, run step (opened r₀ mem nonNull bytes) ops = some s ∧ s.Ordered) ∧
    ((∀ ops, (∀ op ∈ ops, OfType pt op ∧ Unpadded op) →
        ∃ s, run step (opened r₀ mem nonNull bytes) ops = some s ∧ s.Ordered) ↔
      (r₀.l16Channels pt).toNat * 2 ∣ pcmCapacity nonNull bytes ∨
        pcmCapacity nonNull bytes < (r₀.l16Channels pt).toNat * 2) := by
  obtain ⟨hready, hdyn, hchannels, hcount, hcap⟩ := opened_spec hidle mem nonNull bytes
  set r := (opened r₀ mem nonNull bytes).receiver.1 with hrdef
  have hdeclared : r.Declared := by
    rw [RtpReceiver.Declared, hdyn, hchannels]
    exact hr.declared
  have hone : OneType r pt (opened r₀ mem nonNull bytes) :=
    ⟨hready, rfl, rfl, rfl, .inl hcount⟩
  have hsame : r.l16Channels pt = r₀.l16Channels pt := by
    rw [RtpReceiver.l16Channels, RtpReceiver.l16Channels, hdyn, hchannels]
  have hl16' : r.treatsAsL16 pt = true := by
    rw [RtpReceiver.treatsAsL16, hdyn, hchannels]
    exact hl16
  have hinv : (opened r₀ mem nonNull bytes).Inv := inv_start hready hdeclared hcount mem
  rw [← hsame, ← hcap]
  refine ⟨fun ops hops => ordered_of_dropsFrames hdeclared hl16' hone hinv rfl (fun _ _ _ h => h) hops,
    fun hall => ?_, fun haligned ops hops => ?_⟩
  · -- otherwise some run overfills the ring and returns what is no frame that was received
    by_contra hmis
    obtain ⟨hdvd, hle⟩ := not_or.mp hmis
    have hnil : r.queue.contents = [] :=
      List.length_eq_zero_iff.mp (by rw [RingBuffer.length_contents, hcount])
    obtain ⟨ops, s', hops, hrun, hnot⟩ :=
      misaligned_run hdeclared hl16' hpt hone hnil rfl rfl (Nat.le_of_not_lt hle) hdvd
    obtain ⟨s'', hrun', hordered⟩ := hall ops hops
    obtain rfl := Option.some.inj (hrun.symm.trans hrun')
    exact hnot hordered
  · -- the capacity alone makes every overflow drop whole frames
    refine ordered_of_dropsFrames hdeclared hl16' hone hinv rfl (fun s op hs hop => ?_)
      (admissible_of_mem hops _)
    refine ⟨hop.1, ?_⟩
    cases op with
    | poll p =>
      refine ⟨s.receiver.1.paddingHarmless_of_unpadded hop.2, ?_⟩
      have hch : s.receiver.1.l16Channels p.payloadType = r.l16Channels pt := by
        rw [hs.l16Channels, show p.payloadType = pt from hop.1]
      rcases haligned with hdvd | hlt
      · exact .inl (.inl (by rw [hch, hs.cap]; exact hdvd))
      · exact .inr (by rw [hch, hs.cap]; exact hlt)
    | setFormat fmt => trivial
    | read frameCount => trivial

/-- Mono audio in a ring of four bytes: the third packet pushes out the first. -/
theorem rtp_frame_alignment_even :
    ∃ s, run (@step PCMFlow.documented) (opened {} {} true 4)
        [.poll (.plain ptL16Mono (by decide) [1, 0]), .poll (.plain ptL16Mono (by decide) [0, 0]),
          .poll (.plain ptL16Mono (by decide) [0, 1]), .read 2] = some s ∧ s.Ordered := by
  have hall := (@rtp_frame_alignment PCMFlow.documented {} {} ⟨[], rfl⟩ rfl true 4 ptL16Mono
    (by decide) rfl).2.mpr (.inl (by decide))
  refine hall _ ?_
  simp only [List.forall_mem_cons, OfType, Unpadded]
  exact ⟨⟨rfl, rfl⟩, ⟨rfl, rfl⟩, ⟨rfl, rfl⟩, ⟨trivial, trivial⟩, List.forall_mem_nil _⟩

/-- Mono audio in a ring of five bytes: the third packet pushes out half a frame, and the sample that is
read is made of two. -/
theorem five_byte_ring :
    ∃ s, run (@step PCMFlow.documented) (opened {} {} true 5)
        [.poll (.plain ptL16Mono (by decide) [1, 0]), .poll (.plain ptL16Mono (by decide) [0, 0]),
          .poll (.plain ptL16Mono (by decide) [0, 0]), .read 1] = some s ∧
      s.returned = [⟨1, [1]⟩] ∧ ¬ s.Ordered := by
  have hrun : (run (@step PCMFlow.documented) (opened {} {} true 5)
      [.poll (.plain ptL16Mono (by decide) [1, 0]), .poll (.plain ptL16Mono (by decide) [0, 0]),
        .poll (.plain ptL16Mono (by decide) [0, 0]), .read 1]).map
          (fun s => (s.returned, s.received))
        = some ([⟨1, [1]⟩], [⟨1, [256]⟩, ⟨1, [0]⟩, ⟨1, [0]⟩]) := by
    decide +kernel
  obtain ⟨s, hs, heq⟩ := Option.map_eq_some_iff.mp hrun
  obtain ⟨hreturned, hreceived⟩ := Prod.mk.inj heq
  refine ⟨s, hs, hreturned, fun hordered => ?_⟩
  rw [Ordered, hreturned, hreceived] at hordered
  exact absurd (hordered.subset List.mem_cons_self) (by decide)

end PcmSession

end PcmFlowUdp
