import PcmFlowUdp.ByteTransport.Runs
import PcmFlowUdp.RawUdp.Sink

/-! # The packet buffer of a `RawUdpSink`

`begin`, `end`, `setPacketBuffer`, `write` and `flush` in any order. Of the two calls that install a packet
buffer, `begin` replaces a null pointer by the internal buffer and `setPacketBuffer` does not: a null
pointer with a capacity that it is given while the sink is ready is what the next `write` copies to.

* **`Inv.step`** — what holds between the calls made so far and the sink: the fill level never exceeds the
  capacity, and the buffer installed, if any, has that capacity;
* **`raw_sink_buffer`** — every copy stays inside the buffer installed exactly if nothing is written behind
  a `setPacketBuffer` that cleared it. -/

namespace PcmFlowUdp

open ByteTransport

namespace RawUdpSink

/-- The public calls of a sink. -/
inductive Call
  | begin (destPort : UInt16)
  | end_
  | setPacketBuffer (buf : Option MemoryBlock) (capacity : ℕ)
  | write (src : Option (List UInt8)) (count : ℕ)
  | flush

/-- The sink after one call, `none` if the call writes to memory that is not there. -/
def step (s : RawUdpSink) : Call → Option RawUdpSink
  | .begin destPort => some (s.begin destPort).2
  | .end_ => some s.end_
  | .setPacketBuffer buf capacity => some (s.setPacketBuffer buf capacity)
  | .write src count => (s.write src count).map Prod.snd
  | .flush => some s.flush.2

/-- A caller that hands over a packet buffer has memory of the stated capacity there. A null pointer may
come with any capacity. -/
def Call.Valid : Call → Prop
  | .setPacketBuffer (some block) capacity => capacity ≤ block.size
  | _ => True

/-- The sink is ready: the latest of `begin` and `end` was a `begin` with a port. -/
def opened (calls : List Call) : Bool :=
  calls.foldl
    (fun ready call =>
      match call with
      | .begin destPort => destPort != 0
      | .end_ => false
      | _ => ready)
    false

/-- The buffer is cleared: the latest of `begin` and `setPacketBuffer` was a `setPacketBuffer` with a null
pointer and a capacity. -/
def cleared (calls : List Call) : Bool :=
  calls.foldl
    (fun c call =>
      match call with
      | .begin _ => false
      | .setPacketBuffer none capacity => capacity != 0
      | .setPacketBuffer (some _) _ => false
      | _ => c)
    false

/-- How many bytes `write` copies. -/
def copied (s : RawUdpSink) (src : Option (List UInt8)) (count : ℕ) : ℕ :=
  if s.ready = true ∧ src.isSome = true then min count (s.cap - s.used) else 0

/-- What `write` copies, if anything, goes to a packet buffer and stays inside it. -/
def CopiesInside (s : RawUdpSink) (src : Option (List UInt8)) (count : ℕ) : Prop :=
  0 < s.copied src count →
    ∃ block, s.buf = some block ∧ s.used + s.copied src count ≤ s.cap ∧ s.cap ≤ block.size

/-! ## What `write` does -/

/-- A `write` that copies nothing touches the last error only. -/
theorem write_none_copied {s : RawUdpSink} {src : Option (List UInt8)} {count : ℕ}
    (h : s.copied src count = 0) : ∃ error, s.write src count = some (0, { s with error }) := by
  unfold write
  by_cases hready : s.ready = true
  swap
  · rw [if_pos (by simpa using hready)]
    exact ⟨_, rfl⟩
  rw [if_neg (by rw [hready]; decide)]
  cases src with
  | none => exact ⟨s.error, rfl⟩
  | some src =>
    dsimp only
    by_cases hcount : count = 0
    · rw [if_pos hcount]
      exact ⟨s.error, rfl⟩
    · -- the buffer is full
      have hfull : s.cap ≤ s.used := by
        rw [copied, if_pos ⟨hready, rfl⟩] at h
        omega
      have hpos : 0 < count := by omega
      rw [if_neg hcount, if_neg (Nat.not_lt.mpr hfull)]
      simp [hpos]

/-- A `write` that copies something. -/
theorem write_copied {s : RawUdpSink} {src : Option (List UInt8)} {count : ℕ}
    (h : 0 < s.copied src count) :
    ∃ bytes : List UInt8, bytes.length = s.copied src count ∧
      s.write src count = (s.copy bytes).map fun t =>
        (s.copied src count,
          { t with
            used := t.used + s.copied src count
            error := if s.copied src count < count then .bufferOverflow else t.error }) := by
  have hcopied := h
  rw [copied] at hcopied
  split at hcopied
  swap
  · exact absurd hcopied (Nat.lt_irrefl 0)
  rename_i hcond
  obtain ⟨hready, hsrc⟩ := hcond
  obtain ⟨src, rfl⟩ := Option.isSome_iff_exists.mp hsrc
  have hn : s.copied (some src) count = min count (s.cap - s.used) := if_pos ⟨hready, rfl⟩
  refine ⟨readMem src 0 (s.copied (some src) count), length_readMem _ _ _, ?_⟩
  -- the number of bytes that the source computes
  have hsource : (if count < (if s.used < s.cap then s.cap - s.used else 0) then count
      else if s.used < s.cap then s.cap - s.used else 0) = s.copied (some src) count := by
    rw [hn]
    split_ifs <;> omega
  have hcount : count ≠ 0 := by omega
  unfold write
  rw [if_neg (by rw [hready]; decide)]
  dsimp only
  rw [if_neg hcount, hsource, if_pos h]

/-- A copy that fits the packet buffer leaves everything but its bytes as it was. -/
theorem copy_of_fits {s : RawUdpSink} {block : MemoryBlock} {bytes : List UInt8}
    (hbuf : s.buf = some block) (hfit : s.used + bytes.length ≤ block.size) :
    s.copy bytes = some { s with buf := some ⟨block.size, block.bytes.blit s.used bytes⟩ } := by
  rw [copy, hbuf]
  exact if_pos hfit

/-- There is nothing behind a null pointer to copy to. -/
theorem copy_null {s : RawUdpSink} (hbuf : s.buf = none) (bytes : List UInt8) :
    s.copy bytes = none := by
  rw [copy, hbuf]

/-! ## The invariant -/

/-- What holds between the calls made so far and the sink. -/
structure Inv (past : List Call) (s : RawUdpSink) : Prop where
  ready : s.ready = opened past
  used_le : s.used ≤ s.cap
  fits : ∀ block, s.buf = some block → s.cap ≤ block.size
  cleared_iff : cleared past = true ↔ s.buf = none ∧ s.cap ≠ 0
  empty : s.buf = none → s.used = 0

/-- A new sink keeps the invariant. -/
theorem inv_new (script : ℕ → UdpTx) : Inv [] (new script) where
  ready := rfl
  used_le := le_rfl
  fits := by simp [new]
  cleared_iff := by simp [new, cleared]
  empty := fun _ => rfl

/-- A write copies only what there is room for. -/
theorem Inv.room {past : List Call} {s : RawUdpSink} (h : Inv past s) (src : Option (List UInt8))
    (count : ℕ) : s.used + s.copied src count ≤ s.cap := by
  have hle := h.used_le
  rw [copied]
  split
  · omega
  · omega

/-- With a packet buffer installed a write completes, and it only writes to that buffer. -/
theorem Inv.write_installed {past : List Call} {s : RawUdpSink} (h : Inv past s) {block : MemoryBlock}
    (hbuf : s.buf = some block) (src : Option (List UInt8)) (count : ℕ) :
    ∃ (bytes : Buffer UInt8 block.size) (error : RawUdpSinkError),
      s.write src count = some (s.copied src count,
        { s with buf := some ⟨block.size, bytes⟩, used := s.used + s.copied src count, error }) := by
  rcases Nat.eq_zero_or_pos (s.copied src count) with hzero | hpos
  · obtain ⟨error, hwrite⟩ := write_none_copied hzero
    refine ⟨block.bytes, error, ?_⟩
    rw [hwrite, hzero, Nat.add_zero, ← hbuf]
  · obtain ⟨bytes, hlen, hwrite⟩ := write_copied hpos
    have hfit : s.used + bytes.length ≤ block.size := by
      rw [hlen]
      exact (h.room src count).trans (h.fits block hbuf)
    rw [hwrite, copy_of_fits hbuf hfit]
    exact ⟨_, _, rfl⟩

/-- Without one it completes if there is nothing to copy, and changes the last error only. -/
theorem write_null {s : RawUdpSink} (hbuf : s.buf = none)
    (src : Option (List UInt8)) (count : ℕ) :
    (s.copied src count = 0 ∧ ∃ error, s.write src count = some (0, { s with error })) ∨
      (0 < s.copied src count ∧ s.write src count = none) := by
  rcases Nat.eq_zero_or_pos (s.copied src count) with hzero | hpos
  · exact .inl ⟨hzero, write_none_copied hzero⟩
  · obtain ⟨bytes, -, hwrite⟩ := write_copied hpos
    rw [copy_null hbuf] at hwrite
    exact .inr ⟨hpos, hwrite⟩

/-- A call that keeps the packet buffer and adds nothing to it. -/
theorem Inv.frame {past past' : List Call} {s s' : RawUdpSink} (h : Inv past s)
    (hready : s'.ready = opened past') (hcleared : cleared past' = cleared past)
    (hbuf : s'.buf = s.buf) (hcap : s'.cap = s.cap) (hused : s'.used ≤ s.used) : Inv past' s' where
  ready := hready
  used_le := hused.trans (h.used_le.trans hcap.ge)
  fits := by rw [hbuf, hcap]; exact h.fits
  cleared_iff := by rw [hcleared, hbuf, hcap]; exact h.cleared_iff
  empty := by
    intro hnone
    rw [hbuf] at hnone
    exact Nat.le_zero.mp (hused.trans (h.empty hnone).le)

/-- `flush` keeps the packet buffer and leaves nothing in it that was not there. -/
theorem flush_frame (s : RawUdpSink) :
    s.flush.2.ready = s.ready ∧ s.flush.2.buf = s.buf ∧ s.flush.2.cap = s.cap ∧
      s.flush.2.used ≤ s.used := by
  by_cases hready : s.ready = true
  swap
  · rw [flush, if_pos (by simpa using hready)]
    exact ⟨rfl, rfl, rfl, le_rfl⟩
  by_cases hused : s.used = 0
  · rw [flush, if_neg (by rw [hready]; decide), if_pos hused]
    exact ⟨rfl, rfl, rfl, le_rfl⟩
  · rw [flush_eq hready hused]
    exact ⟨rfl, rfl, rfl, Nat.zero_le _⟩

/-- **Every call keeps the invariant.** -/
theorem Inv.step {past : List Call} {s s' : RawUdpSink} (h : Inv past s) {call : Call}
    (hvalid : call.Valid) (hstep : s.step call = some s') : Inv (past ++ [call]) s' := by
  have hopened := h.ready
  cases call with
  | begin destPort =>
    obtain rfl := Option.some.inj hstep
    cases hbuf : s.buf with
    | none =>
      -- the internal buffer is installed
      refine ⟨?_, ?_, ?_, ?_, ?_⟩ <;> simp [begin, hbuf, opened, cleared, defaultBuf]
    | some block =>
      have hfits := h.fits block hbuf
      refine ⟨?_, ?_, ?_, ?_, ?_⟩ <;> simp [begin, hbuf, opened, cleared, hfits]
  | end_ =>
    obtain rfl := Option.some.inj hstep
    exact h.frame (by simp [end_, opened]) (by simp [cleared]) rfl rfl (Nat.zero_le _)
  | setPacketBuffer buf capacity =>
    obtain rfl := Option.some.inj hstep
    cases buf with
    | none =>
      refine ⟨?_, ?_, ?_, ?_, ?_⟩ <;> simp [setPacketBuffer, opened, cleared]
      exact hopened
    | some block =>
      have hsize : capacity ≤ block.size := hvalid
      refine ⟨?_, ?_, ?_, ?_, ?_⟩ <;> simp [setPacketBuffer, opened, cleared, hsize]
      exact hopened
  | write src count =>
    cases hbuf : s.buf with
    | none =>
      rcases write_null hbuf src count with ⟨-, error, hwrite⟩ | ⟨-, hwrite⟩
      · rw [RawUdpSink.step, hwrite] at hstep
        obtain rfl := Option.some.inj hstep
        exact h.frame (by simpa [opened] using hopened) (by simp [cleared]) rfl rfl le_rfl
      · rw [RawUdpSink.step, hwrite] at hstep
        cases hstep
    | some block =>
      obtain ⟨bytes, error, hwrite⟩ := h.write_installed hbuf src count
      rw [RawUdpSink.step, hwrite] at hstep
      obtain rfl := Option.some.inj hstep
      have hcleared := h.cleared_iff
      refine ⟨by simpa [opened] using hopened, h.room src count, ?_, ?_, by simp⟩
      · intro block' hblock
        obtain rfl := Option.some.inj hblock
        exact h.fits block hbuf
      · rw [hbuf] at hcleared
        simpa [cleared] using hcleared
  | flush =>
    obtain rfl := Option.some.inj hstep
    obtain ⟨hready, hbuf, hcap, hused⟩ := s.flush_frame
    exact h.frame (hready.trans (by simpa [opened] using hopened)) (by simp [cleared]) hbuf hcap hused

/-- The invariant holds wherever a run of valid calls leads. -/
theorem inv_run (script : ℕ → UdpTx) {calls : List Call} (hvalid : ∀ call ∈ calls, call.Valid)
    {s : RawUdpSink} (hrun : run step (new script) calls = some s) : Inv calls s :=
  run_history (fun _ _ _ _ hinv hcall => hinv.step hcall) (inv_new script) hvalid hrun

/-! ## When every copy stays inside -/

/-- Nothing is written behind a `setPacketBuffer` that cleared the buffer: whenever `write` is given bytes on
a ready sink, the buffer is not cleared. -/
def WritesInstalled (calls : List Call) : Prop :=
  ∀ past src count, past ++ [Call.write (some src) count] <+: calls → 0 < count →
    opened past = true → cleared past = false

/-- A copy stays inside unless it goes to a cleared buffer. -/
theorem Inv.copiesInside_iff {past : List Call} {s : RawUdpSink} (h : Inv past s)
    (src : Option (List UInt8)) (count : ℕ) :
    s.CopiesInside src count ↔
      (src.isSome = true → 0 < count → opened past = true → cleared past = false) := by
  constructor
  · intro hinside hsrc hcount hopened
    by_contra hcleared
    -- a cleared buffer is empty, so there is room to copy to a null pointer
    obtain ⟨hbuf, hcap⟩ := h.cleared_iff.mp (by simpa using hcleared)
    have hpos : 0 < s.copied src count := by
      rw [copied, if_pos ⟨h.ready.trans hopened, hsrc⟩, h.empty hbuf]
      omega
    obtain ⟨block, hblock, -⟩ := hinside hpos
    rw [hbuf] at hblock
    cases hblock
  · intro hclear hpos
    have hroom := h.room src count
    have hready : s.ready = true ∧ src.isSome = true := by
      by_contra hnot
      rw [copied, if_neg hnot] at hpos
      exact absurd hpos (Nat.lt_irrefl 0)
    have hcount : 0 < count := by
      rw [copied, if_pos hready] at hpos
      omega
    have hnot := hclear hready.2 hcount (h.ready.symm.trans hready.1)
    have hsome : s.buf ≠ none := by
      intro hnone
      have hcleared := h.cleared_iff.mpr ⟨hnone, by omega⟩
      rw [hnot] at hcleared
      cases hcleared
    obtain ⟨block, hblock⟩ := Option.ne_none_iff_exists'.mp hsome
    exact ⟨block, hblock, hroom, h.fits block hblock⟩

/-- A call whose copy stays inside completes. -/
theorem Inv.step_completes {past : List Call} {s : RawUdpSink} (h : Inv past s) {call : Call}
    (hinside : ∀ src count, call = .write src count → s.CopiesInside src count) :
    ∃ s', s.step call = some s' := by
  cases call with
  | begin destPort => exact ⟨_, rfl⟩
  | end_ => exact ⟨_, rfl⟩
  | setPacketBuffer buf capacity => exact ⟨_, rfl⟩
  | flush => exact ⟨_, rfl⟩
  | write src count =>
    cases hbuf : s.buf with
    | none =>
      rcases write_null hbuf src count with ⟨-, error, hwrite⟩ | ⟨hpos, -⟩
      · exact ⟨_, by rw [RawUdpSink.step, hwrite]; rfl⟩
      · obtain ⟨block, hblock, -⟩ := hinside src count rfl hpos
        rw [hbuf] at hblock
        cases hblock
    | some block =>
      obtain ⟨bytes, error, hwrite⟩ := h.write_installed hbuf src count
      exact ⟨_, by rw [RawUdpSink.step, hwrite]; rfl⟩

/-- **The packet buffer.** In every run of calls with valid packet buffers or null pointers, the fill level
never exceeds the capacity. And every call completes, with every copy inside the packet buffer installed, if
and only if nothing is written behind a `setPacketBuffer` that cleared the buffer. -/
theorem raw_sink_buffer (script : ℕ → UdpTx) {calls : List Call} (hvalid : ∀ call ∈ calls, call.Valid) :
    (∀ past s, past <+: calls → run step (new script) past = some s → s.used ≤ s.cap) ∧
    (WritesInstalled calls ↔
      (∃ s, run step (new script) calls = some s) ∧
        ∀ past src count s, past ++ [Call.write src count] <+: calls →
          run step (new script) past = some s → s.CopiesInside src count) := by
  -- the invariant holds at every point of the calls up to which the run is defined
  have hpart : ∀ past s, past <+: calls → run step (new script) past = some s → Inv past s :=
    fun past s hpast hrun => inv_run script (fun call hmem => hvalid call (hpast.subset hmem)) hrun
  have hbefore : ∀ {past : List Call} {call : Call}, past ++ [call] <+: calls → past <+: calls :=
    fun h => (List.prefix_append _ _).trans h
  refine ⟨fun past s hpast hrun => (hpart past s hpast hrun).used_le, ?_⟩
  constructor
  · -- with a buffer for every write, each copy is inside it and so the run goes through
    intro hinstalled
    have hinside : ∀ past src count s, past ++ [Call.write src count] <+: calls → Inv past s →
        s.CopiesInside src count := by
      intro past src count s hpast hinv
      refine (hinv.copiesInside_iff src count).mpr fun hsrc hcount hopened => ?_
      obtain ⟨bytes, rfl⟩ := Option.isSome_iff_exists.mp hsrc
      exact hinstalled past bytes count hpast hcount hopened
    constructor
    · obtain ⟨s, hrun, -⟩ := run_complete (P := Inv) (fun past call s hpast hinv => by
        obtain ⟨s', hstep⟩ := hinv.step_completes fun src count hcall =>
          hinside past src count s (hcall ▸ hpast) hinv
        have hmem : call ∈ calls := hpast.subset (by simp)
        exact ⟨s', hstep, hinv.step (hvalid call hmem) hstep⟩) (inv_new script)
      exact ⟨s, hrun⟩
    · intro past src count s hpast hrun
      exact hinside past src count s hpast (hpart past s (hbefore hpast) hrun)
  · -- a write that copies inside has a buffer to copy to
    rintro ⟨⟨s, hrun⟩, hinside⟩ past src count hpast hcount hopened
    obtain ⟨s₁, hrun₁⟩ := run_prefix hrun (hbefore hpast)
    have hinv := hpart past s₁ (hbefore hpast) hrun₁
    exact (hinv.copiesInside_iff (some src) count).mp
      (hinside past (some src) count s₁ hpast hrun₁) rfl hcount hopened

/-- Calls without a null pointer clear no buffer. -/
theorem cleared_of_not_null {past : List Call}
    (h : ∀ capacity, Call.setPacketBuffer none capacity ∉ past) : cleared past = false := by
  induction past using List.reverseRecOn with
  | nil => rfl
  | append_singleton past call ih =>
    have hbefore := ih fun capacity hmem => h capacity (List.mem_append_left _ hmem)
    cases call with
    | setPacketBuffer buf capacity =>
      cases buf with
      | none => exact absurd (by simp) (h capacity)
      | some block => simp [cleared]
    | begin destPort => simp [cleared]
    | end_ => simpa [cleared] using hbefore
    | write src count => simpa [cleared] using hbefore
    | flush => simpa [cleared] using hbefore

/-- Callers that hand over no null pointer never write behind a cleared buffer. -/
theorem writesInstalled_of_not_null {calls : List Call}
    (h : ∀ capacity, Call.setPacketBuffer none capacity ∉ calls) : WritesInstalled calls := by
  intro past src count hpast _ _
  exact cleared_of_not_null fun capacity hmem =>
    h capacity (hpast.subset (List.mem_append_left _ hmem))

/-- With no packet buffer given, the internal one is written to. -/
theorem raw_sink_buffer_default :
    (∀ call ∈ [Call.begin 5004, .write (some [1, 2, 3]) 3], call.Valid) ∧
      ∃ s, run step (new fun _ => {}) [Call.begin 5004, .write (some [1, 2, 3]) 3] = some s := by
  have hvalid : ∀ call ∈ [Call.begin 5004, .write (some [1, 2, 3]) 3], call.Valid := by
    intro call hmem
    rcases List.mem_cons.mp hmem with rfl | hmem
    · trivial
    · obtain rfl := List.mem_singleton.mp hmem
      trivial
  have hinstalled : WritesInstalled [Call.begin 5004, .write (some [1, 2, 3]) 3] :=
    writesInstalled_of_not_null fun capacity => by simp
  exact ⟨hvalid, ((raw_sink_buffer (fun _ => {}) hvalid).2.mp hinstalled).1⟩

/-- A sink whose buffer is cleared while it is ready, with a capacity of 512 bytes. -/
def clearedWhileReady : List Call := [.begin 5004, .setPacketBuffer none 512]

/-- **The next write copies to a null pointer.** -/
theorem cleared_buffer_written :
    (∀ call ∈ clearedWhileReady ++ [.write (some [1, 2, 3]) 3], call.Valid) ∧
      (∃ s, run step (new fun _ => {}) clearedWhileReady = some s ∧ s.ready = true ∧ s.buf = none ∧
        s.cap = 512 ∧ s.copied (some [1, 2, 3]) 3 = 3 ∧ ¬ s.CopiesInside (some [1, 2, 3]) 3) ∧
      run step (new fun _ => {}) (clearedWhileReady ++ [.write (some [1, 2, 3]) 3]) = none := by
  refine ⟨?_, ⟨_, rfl, rfl, rfl, rfl, rfl, ?_⟩, rfl⟩
  · intro call hmem
    rcases List.mem_cons.mp hmem with rfl | hmem
    · trivial
    rcases List.mem_cons.mp hmem with rfl | hmem
    · trivial
    · obtain rfl := List.mem_singleton.mp hmem
      trivial
  · intro hinside
    obtain ⟨block, hblock, -⟩ := hinside (by decide)
    cases hblock

end RawUdpSink

end PcmFlowUdp
