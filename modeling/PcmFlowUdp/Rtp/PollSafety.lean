import PcmFlowUdp.ByteTransport.Checked
import PcmFlowUdp.Rtp.HeaderGrammar
import PcmFlowUdp.Rtp.Receiver

/-! # Polling is safe and atomic

A length from the network, a parsed offset, a declared channel count and a caller's ring size meet in `poll`
before anything is indexed. `poll?` is `poll` with every subtraction, remainder and access to an array checked;
that the parser reads no byte behind the packet is `parseRtpHeader_congr`.

* `poll?_eq` — the checks pass;
* `PolledPacket` — what an accepted packet changes: the ring and the format, or the hold;
* **`rtp_poll_safe`** — both, in every reachable state and for everything that the UDP object can deliver;
  what is not accepted changes nothing but the last error. -/

namespace PcmFlowUdp

open ByteTransport

namespace RtpReceiver

/-! ## The swap loop -/

/-- The swap loop of `poll`, checked: two bytes are read from the packet and two are written to the scratch. -/
def swapToScratch? {n m : ℕ} (buf : Buffer UInt8 n) (scratch : Buffer UInt8 m) (payloadStart aligned : ℕ) :
    Option (Buffer UInt8 m) :=
  (List.range (aligned / 2)).foldlM
    (fun s i => do
      let _ ← buf.slice? (payloadStart + 2 * i) 2
      s.blit? (2 * i)
        [byteAt buf.cells (payloadStart + 2 * i + 1), byteAt buf.cells (payloadStart + 2 * i)])
    scratch

section Swap

variable {n m : ℕ} (buf : Buffer UInt8 n) (scratch : Buffer UInt8 m) {start len : ℕ}
  (hbuf : start + len ≤ n) (hscratch : len ≤ m)

include hbuf hscratch

/-- The swap loop stays inside the packet and inside the scratch. -/
theorem swapToScratch?_eq :
    swapToScratch? buf scratch start len = some (swapToScratch buf scratch start len) := by
  refine foldlM_eq_foldl (fun s i hi => ?_) scratch
  have hlt := List.mem_range.mp hi
  rw [Buffer.slice?_eq buf (show start + 2 * i + 2 ≤ n by omega), Option.bind_eq_bind, Option.bind_some]
  exact Buffer.blit?_eq s (show 2 * i + 2 ≤ m by omega)

/-- **The swap loop fills exactly the bytes that are pushed**, and leaves the rest of the scratch alone. -/
theorem cells_swapToScratch (heven : 2 ∣ len) :
    (swapToScratch buf scratch start len).cells = swapPairs (buf.slice start len) ++ scratch.cells.drop len := by
  have htwo : 2 * (len / 2) = len := Nat.mul_div_cancel' heven
  have hfront : (swapToScratch buf scratch start len).cells.take len = swapPairs (buf.slice start len) := by
    have hloop := swapToScratch_slice buf scratch hbuf hscratch (len / 2) (by omega)
    rw [htwo, List.take_of_length_le (by rw [length_swapPairs, Buffer.length_slice _ hbuf])] at hloop
    exact hloop
  -- iteration `i` writes the pair at `2 * i`
  have hrest : ∀ k ≤ len / 2, ∀ j ≥ 2 * k, ((List.range k).foldl (fun s i => s.blit (2 * i)
      [byteAt buf.cells (start + 2 * i + 1), byteAt buf.cells (start + 2 * i)]) scratch).cells[j]?
        = scratch.cells[j]? := by
    intro k
    induction k with
    | zero => exact fun _ j _ => rfl
    | succ k ih =>
      intro hk j hj
      rw [List.range_succ, List.foldl_append, List.foldl_cons, List.foldl_nil, Buffer.blit_getElem?,
        if_neg (by simp only [List.length_cons, List.length_nil]; omega)]
      exact ih (by omega) j (by omega)
  have hback : (swapToScratch buf scratch start len).cells.drop len = scratch.cells.drop len := by
    apply List.ext_getElem?
    intro j
    rw [List.getElem?_drop, List.getElem?_drop]
    exact hrest (len / 2) le_rfl (len + j) (by omega)
  rw [← hfront, ← hback, List.take_append_drop]

end Swap

/-! ## Polling -/

section Poll

variable [PCMFlow]

/-- `poll`, checked. -/
def poll? (r : RtpReceiver) (mem : RtpPollMemory) (io : Inbound) :
    Option (Bool × RtpReceiver × RtpPollMemory) :=
  if !r.ready then some (false, r, mem)
  else if io.parsePacket ≤ 0 then some (false, r, mem)
  else
    let toRead :=
      if io.parsePacket.toNat < kRtpMaxPacketBytes then io.parsePacket.toNat else kRtpMaxPacketBytes
    match io.read toRead with
    | none => some (false, r, mem)
    | some bytes => do
        let buf ← mem.buf.blit? 0 bytes
        let mem := { mem with buf }
        let got := bytes.length
        if got < kRtpHeaderBytes then some (false, r, mem)
        else
          match parseRtpHeader mem.buf.cells got with
          | .error _ => some (false, { r with error := .badHeader }, mem)
          | .ok h => do
              let r := r.noteHeader h
              let payloadStart := h.payloadOffset
              let payloadBytes ← sub? got payloadStart
              if r.isPcm then do
                let format := r.l16Format h.payloadType
                let rest ← mod? payloadBytes format.bytesPerFrame
                let aligned ← sub? payloadBytes rest
                let scratch ← swapToScratch? mem.buf mem.scratch payloadStart aligned
                let pcm ← scratch.slice? 0 aligned
                -- the push is made if every index that it uses is below the capacity
                let _ ← r.queue.ring.push? pcm
                some (true, { r with format, queue := r.queue.push pcm }, { mem with scratch })
              else do
                let encodedBytes :=
                  if payloadBytes < kRtpMaxPayloadBytes then payloadBytes else kRtpMaxPayloadBytes
                let payload ← mem.buf.slice? payloadStart encodedBytes
                let encoded ← r.encoded.blit? 0 payload
                some (true, { r with encoded, encodedBytes, encodedReady := true }, mem)

/-- No remainder is taken by zero: the payload type that was parsed has channels. -/
theorem Declared.bytesPerFrame_l16Format_ne_zero {r : RtpReceiver} (h : r.Declared) {b : List UInt8} {n : ℕ}
    {hdr : RtpHeader} (hparse : parseRtpHeader b n = .ok hdr) :
    ((r.noteHeader hdr).l16Format hdr.payloadType).bytesPerFrame ≠ 0 := by
  have hpt : hdr.payloadType ≤ 0x7F := by
    rw [(parseRtpHeader_offset hparse).1]
    exact fixedHeader_payloadType_le _
  have hpos := h.l16Channels_pos hpt
  rw [bytesPerFrame_l16Format]
  show (r.l16Channels hdr.payloadType).toNat * 2 ≠ 0
  omega

/-- **The checks pass** in every state in which a declared payload type has channels. -/
theorem Declared.poll?_eq {r : RtpReceiver} (h : r.Declared) (mem : RtpPollMemory) {io : Inbound}
    (hio : io.Honest) : r.poll? mem io = some (r.poll mem io) := by
  unfold poll? poll
  split
  · rfl
  split
  · rfl
  dsimp only
  cases hread : io.read (if io.parsePacket.toNat < kRtpMaxPacketBytes then io.parsePacket.toNat
    else kRtpMaxPacketBytes) with
  | none => rfl
  | some bytes =>
    -- the datagram was clipped to the buffer, so the copy stays inside it
    have hk : kRtpMaxPacketBytes = 12 + kRtpMaxPayloadBytes := rfl
    have hcap := hio.length_le hread
    dsimp only
    rw [Buffer.blit?_eq _ (by rwa [Nat.zero_add]), Option.bind_eq_bind, Option.bind_some]
    split
    · rfl
    cases hparse : parseRtpHeader (mem.buf.blit 0 bytes).cells bytes.length with
    | error err => rfl
    | ok hdr =>
      -- the parser has checked that the payload starts within the datagram
      obtain ⟨-, hoff, hle⟩ := parseRtpHeader_offset hparse
      dsimp only
      rw [sub?_eq hle, Option.bind_eq_bind, Option.bind_some]
      simp only [Option.bind_eq_bind]
      split
      · -- a frame has at least one sample, and the payload fits the scratch
        have hbpf := h.bytesPerFrame_l16Format_ne_zero hparse
        generalize ((r.noteHeader hdr).l16Format hdr.payloadType).bytesPerFrame = bytesPerFrame at hbpf ⊢
        have haligned := Nat.sub_le (bytes.length - hdr.payloadOffset)
          ((bytes.length - hdr.payloadOffset) % bytesPerFrame)
        rw [mod?_eq hbpf, Option.bind_some, sub?_eq (Nat.mod_le _ _), Option.bind_some]
        generalize bytes.length - hdr.payloadOffset - (bytes.length - hdr.payloadOffset) % bytesPerFrame
          = aligned at haligned ⊢
        rw [swapToScratch?_eq _ _ (by omega) (by omega), Option.bind_some, Buffer.slice?_eq _ (by omega),
          Option.bind_some, Ring.push?_eq (r.noteHeader hdr).queue.wf, Option.bind_some]
      · -- so it does the hold
        have hmin : (if bytes.length - hdr.payloadOffset < kRtpMaxPayloadBytes then
            bytes.length - hdr.payloadOffset else kRtpMaxPayloadBytes) ≤ bytes.length - hdr.payloadOffset := by
          split <;> omega
        generalize (if bytes.length - hdr.payloadOffset < kRtpMaxPayloadBytes then
          bytes.length - hdr.payloadOffset else kRtpMaxPayloadBytes) = encodedBytes at hmin ⊢
        have hslice : hdr.payloadOffset + encodedBytes ≤ kRtpMaxPacketBytes := by omega
        rw [Buffer.slice?_eq _ hslice, Option.bind_some,
          Buffer.blit?_eq _ (by rw [Buffer.length_slice _ hslice]; omega), Option.bind_some]

/-- **What is not accepted** changes nothing but the last error. -/
theorem poll_dropped {r : RtpReceiver} {mem : RtpPollMemory} {io : Inbound} (h : (r.poll mem io).1 = false) :
    (r.poll mem io).2.1 = { r with error := (r.poll mem io).2.1.error } := by
  revert h
  unfold poll
  split
  · exact fun _ => rfl
  split
  · exact fun _ => rfl
  dsimp only
  split
  · exact fun _ => rfl
  split
  · exact fun _ => rfl
  split
  · exact fun _ => rfl
  split
  · exact fun h => absurd h.symm Bool.false_ne_true
  · exact fun h => absurd h.symm Bool.false_ne_true

/-- From the bytes `e` read, a packet with the header `h` was accepted: `r` and `mem` became `r'` and `mem'`. -/
structure PolledPacket (r : RtpReceiver) (mem : RtpPollMemory) (e : List UInt8) (h : RtpHeader)
    (r' : RtpReceiver) (mem' : RtpPollMemory) : Prop where
  parses : parseRtpHeader e e.length = .ok h
  offset_le : h.payloadOffset ≤ e.length
  /-- An L16 packet leaves the hold alone. -/
  hold : r.treatsAsL16 h.payloadType = true → r'.encoded = r.encoded ∧ r'.encodedBytes = r.encodedBytes ∧
    r'.encodedReady = r.encodedReady
  /-- What it pushes are its whole frames, swapped, and they are all that the swap loop wrote. -/
  pushed : r.treatsAsL16 h.payloadType = true → ∃ pcm : List UInt8,
    pcm = swapPairs ((e.drop h.payloadOffset).take ((e.length - h.payloadOffset)
      - (e.length - h.payloadOffset) % (r.l16Format h.payloadType).bytesPerFrame)) ∧
      mem'.scratch.cells = pcm ++ mem.scratch.cells.drop pcm.length ∧ r'.queue = r.queue.push pcm
  /-- Any other packet leaves the ring and the format alone. -/
  ring : r.treatsAsL16 h.payloadType = false → r'.queue = r.queue ∧ r'.format = r.format

/-- The scratch after an L16 packet. -/
theorem poll_scratch {r : RtpReceiver} (hready : r.ready = true) (mem : RtpPollMemory) {io : Inbound}
    (hsize : 0 < io.parsePacket) {e : List UInt8}
    (hread : io.read (if io.parsePacket.toNat < kRtpMaxPacketBytes then io.parsePacket.toNat
      else kRtpMaxPacketBytes) = some e) (hcap : e.length ≤ kRtpMaxPacketBytes) {h : RtpHeader}
    (hparse : parseRtpHeader e e.length = .ok h) (hl16 : r.treatsAsL16 h.payloadType = true) :
    (r.poll mem io).2.2.scratch.cells
      = swapPairs ((e.drop h.payloadOffset).take ((e.length - h.payloadOffset)
          - (e.length - h.payloadOffset) % (r.l16Format h.payloadType).bytesPerFrame))
        ++ mem.scratch.cells.drop ((e.length - h.payloadOffset)
          - (e.length - h.payloadOffset) % (r.l16Format h.payloadType).bytesPerFrame) := by
  have hk : kRtpMaxPacketBytes = 12 + kRtpMaxPayloadBytes := rfl
  have hnot : ¬ (!r.ready) = true := by rw [hready]; decide
  have hlong : ¬ e.length < kRtpHeaderBytes := fun hshort => by
    rw [parseRtpHeader, if_pos hshort] at hparse
    cases hparse
  obtain ⟨-, hoff, hle⟩ := parseRtpHeader_offset hparse
  have hcells : (mem.buf.blit 0 e).cells.take e.length = e.take e.length := by
    rw [mem.buf.take_cells_blit hcap, List.take_length]
  have hpcm : (r.noteHeader h).isPcm = true := hl16
  have hfmt : (r.noteHeader h).l16Format h.payloadType = r.l16Format h.payloadType := rfl
  simp only [poll, if_neg hnot, if_neg hsize.not_ge, hread, if_neg hlong, parseRtpHeader_congr hcells,
    hparse, if_pos hpcm, hfmt]
  have heven := r.two_dvd_aligned h.payloadType (e.length - h.payloadOffset)
  have haligned := Nat.sub_le (e.length - h.payloadOffset)
    ((e.length - h.payloadOffset) % (r.l16Format h.payloadType).bytesPerFrame)
  generalize e.length - h.payloadOffset
    - (e.length - h.payloadOffset) % (r.l16Format h.payloadType).bytesPerFrame = aligned at heven haligned ⊢
  -- the payload lies in the packet buffer
  rw [cells_swapToScratch _ _ (by omega) (by omega) heven, Buffer.slice_blit_within _ hcap (by omega)]

/-- **What an accepted packet changes.** -/
theorem poll_accepted {r : RtpReceiver} (mem : RtpPollMemory) {io : Inbound} (hio : io.Honest)
    (hok : (r.poll mem io).1 = true) :
    ∃ e h, io.read (if io.parsePacket.toNat < kRtpMaxPacketBytes then io.parsePacket.toNat
        else kRtpMaxPacketBytes) = some e ∧
      PolledPacket r mem e h (r.poll mem io).2.1 (r.poll mem io).2.2 := by
  -- `poll` returned true, so each of its early exits is ruled out in turn
  have hready : r.ready = true := by
    by_contra hnot
    rw [Bool.not_eq_true] at hnot
    simp [poll, hnot] at hok
  have hsize : 0 < io.parsePacket := by
    by_contra hnot
    rw [r.poll_none mem (Int.not_lt.mp hnot)] at hok
    exact Bool.false_ne_true hok
  cases hread : io.read (if io.parsePacket.toNat < kRtpMaxPacketBytes then io.parsePacket.toNat
      else kRtpMaxPacketBytes) with
  | none => simp [poll, hready, hsize.not_ge, hread] at hok
  | some e =>
    have hcap := hio.length_le hread
    have hpoll := poll_read hready mem hsize hread hcap
    obtain ⟨hfst, hsnd⟩ := Prod.ext_iff.mp hpoll
    dsimp only at hfst hsnd
    rw [hfst, receive] at hok
    rw [receive] at hsnd
    split at hok
    · exact absurd hok Bool.false_ne_true
    rename_i hlong
    rw [if_neg hlong] at hsnd
    cases hparse : parseRtpHeader e e.length with
    | error err =>
      rw [hparse] at hok
      exact absurd hok Bool.false_ne_true
    | ok h =>
      rw [hparse] at hsnd
      dsimp only at hsnd
      obtain ⟨-, -, hle⟩ := parseRtpHeader_offset hparse
      -- L16 leaves the encoded slot alone, the other types the scratch and the ring
      refine ⟨e, h, rfl, hparse, hle, fun hl16 => ?_, fun hl16 => ?_, fun hother => ?_⟩
      · rw [hsnd, dispatch, if_pos hl16]
        exact ⟨rfl, rfl, rfl⟩
      · have hscratch := poll_scratch hready mem hsize hread hcap hparse hl16
        refine ⟨_, rfl, ?_, ?_⟩
        · rw [hscratch, length_swapPairs, List.length_take, List.length_drop, min_eq_left (Nat.sub_le _ _)]
        · rw [hsnd, dispatch, if_pos hl16, queueL16, List.length_drop]
          rfl
      · rw [hsnd, dispatch, if_neg (by rw [hother]; decide)]
        exact ⟨rfl, rfl⟩

/-- **Polling is safe and atomic.** In every reachable state, with a UDP object that reads no more than it is
asked for, whatever it delivers: no subtraction wraps, no remainder is by zero and no access leaves its array;
what is not accepted changes nothing but the last error; and an accepted packet changes the ring and the
format, or the hold, and not the other. -/
theorem rtp_poll_safe {r : RtpReceiver} {mem : RtpPollMemory} (hr : Reachable (r, mem)) {io : Inbound}
    (hio : io.Honest) :
    r.poll? mem io = some (r.poll mem io) ∧
      ((r.poll mem io).1 = false →
        (r.poll mem io).2.1 = { r with error := (r.poll mem io).2.1.error }) ∧
      ((r.poll mem io).1 = true →
        ∃ e h, io.read (if io.parsePacket.toNat < kRtpMaxPacketBytes then io.parsePacket.toNat
            else kRtpMaxPacketBytes) = some e ∧
          PolledPacket r mem e h (r.poll mem io).2.1 (r.poll mem io).2.2) :=
  ⟨hr.declared.poll?_eq mem hio, poll_dropped, poll_accepted mem hio⟩

end Poll

/-- A datagram with one frame of three samples and a seventh byte. -/
def raggedPacket : List UInt8 := [0x80, 96, 0, 1, 0, 0, 0, 0, 0, 0, 0, 1, 1, 2, 3, 4, 5, 6, 7]

/-- The seventh byte is dropped, the frame overflows a ring of five bytes. -/
theorem rtp_poll_safe_ragged : ∃ s : RtpReceiver × RtpPollMemory,
    [.setPcmBuffer true 5, .setDynamicL16PayloadType 96 3, .begin 1].foldl (@step PCMFlow.documented) ({}, {})
      = s ∧
    @poll? PCMFlow.documented s.1 s.2 (Inbound.ofDatagram raggedPacket)
      = some (@poll PCMFlow.documented s.1 s.2 (Inbound.ofDatagram raggedPacket)) ∧
    (@poll PCMFlow.documented s.1 s.2 (Inbound.ofDatagram raggedPacket)).1 = true := by
  refine ⟨_, rfl, ?_, by decide +kernel⟩
  have hr := @rtp_poll_safe PCMFlow.documented _ _
    ⟨[.setPcmBuffer true 5, .setDynamicL16PayloadType 96 3, .begin 1], rfl⟩ _
    (Inbound.honest_ofDatagram raggedPacket)
  exact hr.1

end RtpReceiver

end PcmFlowUdp
