import PcmFlowUdp.ByteTransport.CircularBuffer
import PcmFlowUdp.Pcm

/-! # A byte ring that queues PCM frames

The receivers queue decoded PCM as untagged bytes. While the bytes queued are the image of whole
frames, the byte ring is a queue of frames: pushing an image appends its frames, as long as it fits
(`push_frames`) or the capacity is a whole number of frames (`push_frames_of_dvd`), and a read takes
frames off the front (`readQueue_frames`). -/

namespace PcmFlowUdp

open ByteTransport PcmFrame

/-- Dropping by bytes at a multiple of the frame size is dropping by frames. -/
theorem keepLast_hostImage {c cap : ℕ} (hcap : c * 2 ∣ cap) (fs : List (PcmFrame c)) :
    keepLast cap (hostImage fs) = hostImage (keepLast (cap / (c * 2)) fs) := by
  obtain ⟨k, rfl⟩ := hcap
  have hlen := length_hostImage fs
  rcases Nat.eq_zero_or_pos (c * 2) with hzero | hpos
  · rw [keepLast, hlen, hzero, Nat.mul_zero, Nat.zero_mul, Nat.sub_zero, List.drop_zero,
      Nat.zero_div, keepLast, Nat.sub_zero, List.drop_length]
    have hnil : (hostImage fs).length = 0 := by rw [hlen, hzero, Nat.mul_zero]
    rw [List.length_eq_zero_iff.mp hnil, hostImage_nil]
  · rw [Nat.mul_div_cancel_left _ hpos, keepLast, keepLast, ← hostImage_drop, hlen, Nat.sub_mul,
      Nat.mul_comm (c * 2)]

section Frames

variable {c : ℕ} {q : RingBuffer UInt8} {fs : List (PcmFrame c)} (h : q.contents = hostImage fs)

include h

/-- The count is that of the bytes of the frames. -/
theorem count_frames : q.count = fs.length * (c * 2) := by
  rw [← RingBuffer.length_contents, h, length_hostImage]

/-- Frames that fit are appended. -/
theorem push_frames {gs : List (PcmFrame c)} (hfit : q.count + gs.length * (c * 2) ≤ q.cap) :
    (q.push (hostImage gs)).contents = hostImage (fs ++ gs) := by
  rw [q.contents_push_of_le (by rwa [length_hostImage]), h, hostImage_append]

/-- A ring that holds a whole number of frames drops whole frames, oldest first. -/
theorem push_frames_of_dvd (hcap : c * 2 ∣ q.cap) (gs : List (PcmFrame c)) :
    (q.push (hostImage gs)).contents = hostImage (keepLast (q.cap / (c * 2)) (fs ++ gs)) := by
  rw [q.contents_push, h, ← hostImage_append, keepLast_hostImage hcap]

end Frames

/-! ## Reading frames -/

/-- The body of `readFrames` in both receivers, over the ring that it reads: the number of frames
returned, the bytes copied out, and the ring afterwards. One receiver tests for no bytes where the
other tests for no frames; a frame here has bytes, so the two tests agree. -/
def readQueue (ready nonNull : Bool) (bytesPerFrame : ℕ) (q : RingBuffer UInt8) (frameCount : ℕ) :
    ℕ × List UInt8 × RingBuffer UInt8 :=
  if !ready || !nonNull || frameCount == 0 then (0, [], q)
  else if bytesPerFrame = 0 then (0, [], q)
  else
    let availFrames := q.count / bytesPerFrame
    let takeFrames := if frameCount < availFrames then frameCount else availFrames
    if takeFrames = 0 then (0, [], q)
    else
      let (out, q) := q.pop (takeFrames * bytesPerFrame)
      (out.length / bytesPerFrame, out, q)

/-- The number of frames that a read returns: what was asked for, or what is there if that is less. -/
def framesToRead (ready nonNull : Bool) (bytesPerFrame : ℕ) (q : RingBuffer UInt8)
    (frameCount : ℕ) : ℕ :=
  if ready && nonNull then min frameCount (q.count / bytesPerFrame) else 0

/-- No more is read than is queued. -/
theorem framesToRead_mul_le (ready nonNull : Bool) (bytesPerFrame : ℕ) (q : RingBuffer UInt8)
    (frameCount : ℕ) :
    framesToRead ready nonNull bytesPerFrame q frameCount * bytesPerFrame ≤ q.count := by
  unfold framesToRead
  split
  · exact (Nat.mul_le_mul_right _ (min_le_right _ _)).trans (Nat.div_mul_le_self _ _)
  · rw [Nat.zero_mul]
    exact Nat.zero_le _

/-- What a read of `k` frames returns and leaves. -/
structure ReadsFrames (bytesPerFrame : ℕ) (q : RingBuffer UInt8) (k : ℕ)
    (res : ℕ × List UInt8 × RingBuffer UInt8) : Prop where
  frames : res.1 = k
  out : res.2.1 = q.contents.take (k * bytesPerFrame)
  contents : res.2.2.contents = q.contents.drop (k * bytesPerFrame)
  cap : res.2.2.cap = q.cap

/-- A read of no frames returns nothing and leaves the ring. -/
theorem readsFrames_zero (bytesPerFrame : ℕ) (q : RingBuffer UInt8) :
    ReadsFrames bytesPerFrame q 0 (0, [], q) := by
  constructor
  · rfl
  · rw [Nat.zero_mul, List.take_zero]
  · rw [Nat.zero_mul, List.drop_zero]
  · rfl

/-- **What a read does**, in every state: it takes whole frames off the front of the queue. -/
theorem readQueue_spec (ready nonNull : Bool) (bytesPerFrame : ℕ) (q : RingBuffer UInt8)
    (frameCount : ℕ) :
    ReadsFrames bytesPerFrame q (framesToRead ready nonNull bytesPerFrame q frameCount)
      (readQueue ready nonNull bytesPerFrame q frameCount) := by
  have hle := framesToRead_mul_le ready nonNull bytesPerFrame q frameCount
  unfold readQueue
  -- three early exits return nothing: the guard, a frame of no bytes, and nothing to copy
  by_cases hguard : (!ready || !nonNull || frameCount == 0) = true
  · have hk : framesToRead ready nonNull bytesPerFrame q frameCount = 0 := by
      cases ready <;> cases nonNull <;> simp_all [framesToRead]
    rw [if_pos hguard, hk]
    exact readsFrames_zero _ _
  · have hboth : (ready && nonNull) = true := by cases ready <;> cases nonNull <;> simp_all
    have hk : framesToRead ready nonNull bytesPerFrame q frameCount
        = min frameCount (q.count / bytesPerFrame) := if_pos hboth
    have hmin : (if frameCount < q.count / bytesPerFrame then frameCount
        else q.count / bytesPerFrame)
          = framesToRead ready nonNull bytesPerFrame q frameCount := by
      rw [hk]
      split <;> omega
    rw [if_neg hguard]
    by_cases hbpf : bytesPerFrame = 0
    · rw [if_pos hbpf, hk, hbpf, Nat.div_zero, Nat.min_zero]
      exact readsFrames_zero _ _
    · simp only [if_neg hbpf, hmin]
      generalize framesToRead ready nonNull bytesPerFrame q frameCount = k at hle
      by_cases hzero : k = 0
      · rw [if_pos hzero, hzero]
        exact readsFrames_zero _ _
      · rw [if_neg hzero]
        constructor
        · show (q.pop (k * bytesPerFrame)).1.length / bytesPerFrame = k
          rw [q.pop_fst, List.length_take, RingBuffer.length_contents, min_eq_left hle,
            Nat.mul_div_cancel _ (Nat.pos_of_ne_zero hbpf)]
        · exact q.pop_fst _
        · exact q.contents_pop _
        · exact q.cap_pop _

/-- Rings that hold the same are read alike. -/
theorem readQueue_alike {q q' : RingBuffer UInt8} (h : q.Alike q') (ready nonNull : Bool)
    (bytesPerFrame frameCount : ℕ) :
    (readQueue ready nonNull bytesPerFrame q frameCount).1
        = (readQueue ready nonNull bytesPerFrame q' frameCount).1 ∧
      (readQueue ready nonNull bytesPerFrame q frameCount).2.1
        = (readQueue ready nonNull bytesPerFrame q' frameCount).2.1 ∧
      (readQueue ready nonNull bytesPerFrame q frameCount).2.2.Alike
        (readQueue ready nonNull bytesPerFrame q' frameCount).2.2 := by
  have hspec := readQueue_spec ready nonNull bytesPerFrame q frameCount
  have hspec' := readQueue_spec ready nonNull bytesPerFrame q' frameCount
  have hk : framesToRead ready nonNull bytesPerFrame q frameCount
      = framesToRead ready nonNull bytesPerFrame q' frameCount := by
    rw [framesToRead, framesToRead, h.count]
  refine ⟨?_, ?_, ?_, ?_⟩
  · rw [hspec.frames, hspec'.frames, hk]
  · rw [hspec.out, hspec'.out, hk, h.contents]
  · rw [hspec.cap, hspec'.cap, h.cap]
  · rw [hspec.contents, hspec'.contents, hk, h.contents]

/-- **Reading frames.** While the queue holds frames of `c` channels and the reader counts in frames of
`c` channels, the oldest frames are returned, whole. -/
theorem readQueue_frames {c : ℕ} {q : RingBuffer UInt8} {fs : List (PcmFrame c)}
    (hq : q.contents = hostImage fs) {bytesPerFrame : ℕ} (hbpf : fs ≠ [] → bytesPerFrame = c * 2)
    (ready nonNull : Bool) (frameCount : ℕ) :
    ∃ k queue, k ≤ fs.length ∧
      readQueue ready nonNull bytesPerFrame q frameCount = (k, hostImage (fs.take k), queue) ∧
      queue.contents = hostImage (fs.drop k) ∧ queue.cap = q.cap := by
  obtain ⟨hk, hout, hcont, hcap⟩ := readQueue_spec ready nonNull bytesPerFrame q frameCount
  have hcount := count_frames hq
  have hle := framesToRead_mul_le ready nonNull bytesPerFrame q frameCount
  have hmin : framesToRead ready nonNull bytesPerFrame q frameCount ≤ q.count / bytesPerFrame := by
    unfold framesToRead
    split
    · exact min_le_right _ _
    · exact Nat.zero_le _
  generalize framesToRead ready nonNull bytesPerFrame q frameCount = k at *
  generalize readQueue ready nonNull bytesPerFrame q frameCount = res at *
  obtain ⟨k', out, queue⟩ := res
  dsimp only at hk hout hcont hcap
  subst hk
  rcases eq_or_ne fs [] with rfl | hne
  · -- nothing is queued, so nothing is returned
    have hz : k' = 0 := by
      rw [hcount, List.length_nil, Nat.zero_mul, Nat.zero_div] at hmin
      omega
    subst hz
    rw [hq, Nat.zero_mul] at hout hcont
    exact ⟨0, queue, le_rfl, by rw [hout]; rfl, hcont, hcap⟩
  · rw [hbpf hne, hq, hostImage_take] at hout
    rw [hbpf hne, hq, hostImage_drop] at hcont
    refine ⟨k', queue, ?_, by rw [hout], hcont, hcap⟩
    rw [hbpf hne, hcount] at hmin
    exact hmin.trans (Nat.div_le_of_le_mul (by rw [Nat.mul_comm]))

/-- Nothing is read from an empty queue. -/
theorem readQueue_empty {q : RingBuffer UInt8} (h : q.count = 0) (ready nonNull : Bool)
    (bytesPerFrame frameCount : ℕ) :
    readQueue ready nonNull bytesPerFrame q frameCount = (0, [], q) := by
  simp [readQueue, h]

/-- A read takes whole frames, and leaves the counters of the ring aligned. -/
theorem readQueue_aligned {bytesPerFrame : ℕ} {q : RingBuffer UInt8} (hq : q.Aligned bytesPerFrame)
    (hcap : bytesPerFrame ∣ q.cap) (ready nonNull : Bool) (frameCount : ℕ) :
    (readQueue ready nonNull bytesPerFrame q frameCount).2.2.Aligned bytesPerFrame := by
  unfold readQueue
  split
  · exact hq
  split
  · exact hq
  dsimp only
  generalize (if frameCount < q.count / bytesPerFrame then frameCount else q.count / bytesPerFrame) = k
  split
  · exact hq
  · exact hq.pop hcap (Nat.dvd_mul_left _ _)

/-- **Reading frames, how many.** A read returns as many frames as are asked for, or all that are queued
if they are fewer. -/
theorem readQueue_min {c : ℕ} {q : RingBuffer UInt8} {fs : List (PcmFrame c)}
    (hq : q.contents = hostImage fs) {bytesPerFrame : ℕ}
    (hbpf : fs ≠ [] → 0 < c ∧ bytesPerFrame = c * 2) (nonNull : Bool) (frameCount : ℕ) :
    ∃ queue,
      readQueue true nonNull bytesPerFrame q frameCount
        = ((fs.take (if nonNull then frameCount else 0)).length,
            hostImage (fs.take (if nonNull then frameCount else 0)), queue) ∧
      queue.contents = hostImage (fs.drop (if nonNull then frameCount else 0)) ∧
      queue.cap = q.cap ∧
      (fs = [] ∨ c * 2 ∣ q.cap → q.Aligned (c * 2) → queue.Aligned (c * 2)) := by
  have hcount := count_frames hq
  rcases eq_or_ne fs [] with rfl | hne
  · -- nothing is queued: the loop ends at once, whatever the frame size is
    refine ⟨q, ?_, ?_, rfl, fun _ h => h⟩
    · rw [readQueue_empty (by rw [hcount, List.length_nil, Nat.zero_mul])]
      simp
    · rw [hq]
      simp
  · obtain ⟨hc, rfl⟩ := hbpf hne
    have hspec := readQueue_spec true nonNull (c * 2) q frameCount
    have haligned := fun hcap (halign : q.Aligned (c * 2)) =>
      readQueue_aligned halign hcap true nonNull frameCount
    -- as many frames as asked for, or all of them
    have hk : framesToRead true nonNull (c * 2) q frameCount
        = (fs.take (if nonNull then frameCount else 0)).length := by
      have hdiv : q.count / (c * 2) = fs.length := by
        rw [hcount, Nat.mul_div_cancel _ (Nat.mul_pos hc Nat.two_pos)]
      cases nonNull <;> simp [framesToRead, hdiv]
    have htake : ∀ n : ℕ, fs.take (fs.take n).length = fs.take n := fun n => by
      rw [List.length_take, ← List.take_eq_take_min]
    have hdrop : ∀ n : ℕ, fs.drop (fs.take n).length = fs.drop n := fun n => by
      rw [List.length_take, ← List.drop_eq_drop_min]
    rw [hk] at hspec
    generalize readQueue true nonNull (c * 2) q frameCount = res at hspec haligned
    obtain ⟨k, out, queue⟩ := res
    obtain ⟨hframes, hout, hcont, hcap⟩ := hspec
    dsimp only at hframes hout hcont hcap haligned
    rw [hq, hostImage_take, htake] at hout
    rw [hq, hostImage_drop, hdrop] at hcont
    exact ⟨queue, by rw [hframes, hout], hcont, hcap,
      fun hdvd halign => haligned (hdvd.resolve_left hne) halign⟩

end PcmFlowUdp
