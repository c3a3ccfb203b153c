import PcmFlowUdp.ByteTransport.Runs
import PcmFlowUdp.RawUdp.Stream

/-! # What a `RawUdpStream` delivers

A `StreamSession` keeps, beside a stream, a log of the reads that returned bytes: the position among the
arrivals of the datagram that was current, the bytes, and what `remoteIP()` and `remotePort()` say
afterwards.

* **`raw_stream_delivery`** — the log obeys the law of reading a queue of frames, and without explicit
  polls nothing is lost. -/

namespace PcmFlowUdp

open ByteTransport

/-- What happens on a bound stream: a datagram arrives, or one of the two calls. -/
inductive StreamOp
  | arrive (bytes : List UInt8) (sender : UdpSender)
  | poll
  | read (count : ℕ)

/-- What arrives in a step. -/
def StreamOp.arrival : StreamOp → Option (List UInt8 × UdpSender)
  | .arrive bytes sender => some (bytes, sender)
  | .poll => none
  | .read _ => none

/-- A stream with the log of its reads. -/
structure StreamSession where
  stream : RawUdpStream
  reads : List (FrameRead UInt8 UdpSender) := []

namespace StreamSession

/-- One step. A read that returns nothing is not logged. -/
def step (m : StreamSession) : StreamOp → StreamSession
  | .arrive bytes sender => { m with stream.udp := m.stream.udp.arrive (bytes, sender) }
  | .poll => { m with stream := m.stream.poll.2 }
  | .read count =>
      let (n, bytes, stream) := m.stream.read true count
      { stream
        reads := if n = 0 then m.reads else m.reads ++ [⟨stream.udp.next - 1, bytes, stream.remote⟩] }

/-- What holds between calls. -/
structure Inv (m : StreamSession) : Prop where
  ready : m.stream.ready = true
  reads : m.stream.udp.Reads m.reads
  /-- While bytes are left of the current datagram, the stream knows where it came from. -/
  remote : m.stream.udp.unread ≠ [] → ∃ k bytes, m.stream.udp.next = k + 1 ∧
    m.stream.udp.arrived[k]? = some (bytes, m.stream.remote)

variable {m : StreamSession}

/-- A poll captures the sender of the datagram that it makes current. -/
theorem Inv.poll (h : m.Inv) : ({ m with stream := m.stream.poll.2 } : StreamSession).Inv := by
  rw [RawUdpStream.poll_eq h.ready]
  refine ⟨h.ready, h.reads.advance, fun hne => ?_⟩
  obtain ⟨frame, hnext, hframe, hcurrent⟩ := FrameCursor.advance_current hne
  have hsender : UdpInbox.sender m.stream.udp.advance = frame.2 := by
    rw [UdpInbox.sender, hcurrent]
    rfl
  refine ⟨m.stream.udp.next, frame.1, hnext, hframe.trans ?_⟩
  dsimp only
  rw [if_neg hne, hsender]

/-- So does a read that finds nothing left of the current datagram. -/
theorem Inv.refill (h : m.Inv) : ({ m with stream := m.stream.refill } : StreamSession).Inv := by
  rw [RawUdpStream.refill]
  split
  · exact h.poll
  · exact h

/-- A read with a buffer of at least one byte takes from what is held after a refill, if anything is. -/
theorem step_read (hready : m.stream.ready = true) {count : ℕ} (hpos : 0 < count) :
    m.step (.read count) =
      { stream := { m.stream.refill with udp := m.stream.refill.udp.skip count }
        reads :=
          if m.stream.refill.udp.unread = [] then m.reads
          else m.reads ++ [⟨m.stream.refill.udp.next - 1, m.stream.refill.udp.unread.take count,
            m.stream.refill.remote⟩] } := by
  have hiff : (m.stream.refill.udp.unread.take count).length = 0 ↔ m.stream.refill.udp.unread = [] := by
    simp [hpos.ne']
  rw [step, RawUdpStream.read_eq hready hpos]
  dsimp only
  rw [if_congr hiff rfl rfl]
  rfl

/-- A read into no buffer does nothing. -/
theorem step_read_zero : m.step (.read 0) = m := by
  have hnothing : m.stream.read true 0 = (0, [], m.stream) := by simp [RawUdpStream.read]
  rw [step, hnothing]
  rfl

/-- A read takes from one datagram, whose sender the stream knows. -/
theorem Inv.read (h : m.Inv) (count : ℕ) : (m.step (.read count)).Inv := by
  rcases Nat.eq_zero_or_pos count with rfl | hpos
  · rwa [step_read_zero]
  obtain ⟨hready, hreads, hremote⟩ := h.refill
  dsimp only at hready hreads hremote
  rw [step_read h.ready hpos]
  by_cases hunread : m.stream.refill.udp.unread = []
  · rw [if_pos hunread, FrameCursor.skip_of_nil hunread]
    exact ⟨hready, hreads, hremote⟩
  · obtain ⟨k, bytes, hnext, hlabel⟩ := hremote hunread
    rw [if_neg hunread, hnext, Nat.add_sub_cancel]
    exact ⟨hready, hreads.take hnext hlabel count, fun _ => ⟨k, bytes, hnext, hlabel⟩⟩

/-- **One step.** -/
theorem Inv.step (h : m.Inv) (op : StreamOp) : (m.step op).Inv := by
  cases op with
  | arrive bytes sender =>
    refine ⟨h.ready, h.reads.arrive (bytes, sender), fun hne => ?_⟩
    obtain ⟨k, d, hnext, hlabel⟩ := h.remote hne
    refine ⟨k, d, hnext, ?_⟩
    have hlt := (List.getElem?_eq_some_iff.mp hlabel).1
    exact (List.getElem?_append_left hlt).trans hlabel
  | poll => exact h.poll
  | read count => exact h.read count

/-- Without explicit polls no datagram is given up before its end. -/
theorem sequential_step (h : m.Inv) (hseq : m.stream.udp.Sequential 0 m.reads) {op : StreamOp}
    (hop : op ≠ .poll) : (m.step op).stream.udp.Sequential 0 (m.step op).reads := by
  cases op with
  | arrive bytes sender => exact hseq.arrive (bytes, sender)
  | poll => exact absurd rfl hop
  | read count =>
    rcases Nat.eq_zero_or_pos count with rfl | hpos
    · rwa [step_read_zero]
    -- the next datagram is made current only when nothing is left
    have hrefill : m.stream.refill.udp.Sequential 0 m.reads := by
      rw [RawUdpStream.refill]
      split
      · rw [RawUdpStream.poll_eq h.ready]
        exact hseq.advance ‹_›
      · exact hseq
    rw [step_read h.ready hpos]
    dsimp only
    split
    · rwa [FrameCursor.skip_of_nil ‹_›]
    · exact hrefill.take _ count _

/-- Calls neither add to the arrivals nor take from them. -/
theorem arrived_step (hready : m.stream.ready = true) (op : StreamOp) :
    (m.step op).stream.udp.arrived = m.stream.udp.arrived ++ op.arrival.toList := by
  have hpoll : m.stream.poll.2.udp.arrived = m.stream.udp.arrived := by
    simp [RawUdpStream.poll_eq hready]
  cases op with
  | arrive bytes sender => rfl
  | poll => exact hpoll.trans (List.append_nil _).symm
  | read count =>
    rw [StreamOp.arrival, Option.toList_none, List.append_nil]
    rcases Nat.eq_zero_or_pos count with rfl | hpos
    · rw [step_read_zero]
    · rw [step_read hready hpos]
      show m.stream.refill.udp.arrived = _
      rw [RawUdpStream.refill]
      split
      · exact hpoll
      · rfl

/-! ## Runs -/

/-- A run keeps the invariant, and what arrives is appended. -/
theorem Inv.run (h : m.Inv) (ops : List StreamOp) :
    (ops.foldl StreamSession.step m).Inv ∧ (ops.foldl StreamSession.step m).stream.udp.arrived
      = m.stream.udp.arrived ++ ops.filterMap StreamOp.arrival := by
  induction ops generalizing m with
  | nil => exact ⟨h, (List.append_nil _).symm⟩
  | cons op ops ih =>
    obtain ⟨hinv, harrived⟩ := ih (h.step op)
    refine ⟨hinv, ?_⟩
    rw [List.foldl_cons, harrived, arrived_step h.ready, List.append_assoc]
    cases op <;> rfl

/-- Without polls everything is read in order. -/
theorem sequential_run (h : m.Inv) (hseq : m.stream.udp.Sequential 0 m.reads) {ops : List StreamOp}
    (hops : ∀ op ∈ ops, op ≠ .poll) :
    (ops.foldl StreamSession.step m).stream.udp.Sequential 0 (ops.foldl StreamSession.step m).reads := by
  induction ops generalizing m with
  | nil => exact hseq
  | cons op ops ih =>
    exact ih (h.step op) (sequential_step h hseq (hops op List.mem_cons_self))
      fun op' hop' => hops op' (List.mem_cons_of_mem _ hop')

end StreamSession

/-- `begin` has just succeeded. Datagrams may be waiting, but none has been made current. -/
structure RawUdpStream.Bound (s : RawUdpStream) : Prop where
  begun : ∃ (s₀ : RawUdpStream) (bound : Int), (s₀.begin bound).1 = true ∧ s = (s₀.begin bound).2
  next : s.udp.next = 0
  unread : s.udp.unread = []

/-- **What a stream delivers.** On a bound stream, whatever arrives and is called: every read returns bytes of
one datagram, whose sender `remoteIP()` and `remotePort()` then name; what is read from a datagram is a prefix
of it, in order, and datagrams are visited in the order of their arrival. Without explicit polls everything
read is a prefix of the datagrams in a row. -/
theorem raw_stream_delivery {s : RawUdpStream} (hbound : s.Bound) (ops : List StreamOp) :
    let m := ops.foldl StreamSession.step { stream := s }
    let arrived := s.udp.arrived ++ ops.filterMap StreamOp.arrival
    (∀ r ∈ m.reads, ∃ bytes, arrived[r.visit]? = some (bytes, r.label)) ∧
      (∀ k d, arrived[k]? = some d → takenFrom k m.reads <+: d.1) ∧
      m.reads.Pairwise (fun r r' => r.visit ≤ r'.visit) ∧
      ((∀ op ∈ ops, op ≠ .poll) → m.reads.flatMap FrameRead.items <+: arrived.flatMap Prod.fst) := by
  have hready : s.ready = true := by
    obtain ⟨s₀, bound, hbegin, rfl⟩ := hbound.begun
    rw [RawUdpStream.begin] at hbegin ⊢
    split at hbegin
    · cases hbegin
    · rw [if_neg ‹_›]
  have hnext : s.udp.next ≤ s.udp.arrived.length := by
    rw [hbound.next]
    exact Nat.zero_le _
  have hinv : ({ stream := s } : StreamSession).Inv :=
    ⟨hready, FrameCursor.reads_nil hnext hbound.unread, fun hne => absurd hbound.unread hne⟩
  have hseq : s.udp.Sequential 0 [] := hbound.next ▸ FrameCursor.sequential_nil hnext hbound.unread
  obtain ⟨hinv', harrived⟩ := hinv.run ops
  dsimp only at harrived ⊢
  rw [← harrived]
  refine ⟨hinv'.reads.labels, hinv'.reads.prefixes, hinv'.reads.sorted, fun hops => ?_⟩
  have hprefix := (StreamSession.sequential_run hinv hseq hops).isPrefix
  rwa [List.drop_zero] at hprefix

/-- A datagram read in two parts, and one that a poll passes over. -/
theorem raw_stream_delivery_two :
    let s : RawUdpStream := (RawUdpStream.begin {} 1).2
    let ops : List StreamOp := [.arrive [1, 2, 3] ⟨1, 5004⟩, .read 2, .read 2, .arrive [4, 5] ⟨2, 5004⟩,
      .poll, .arrive [6] ⟨1, 5004⟩, .read 1, .poll, .read 8]
    let m := ops.foldl StreamSession.step { stream := s }
    let arrived := s.udp.arrived ++ ops.filterMap StreamOp.arrival
    (∀ r ∈ m.reads, ∃ bytes, arrived[r.visit]? = some (bytes, r.label)) ∧
      (∀ k d, arrived[k]? = some d → takenFrom k m.reads <+: d.1) ∧
      m.reads.Pairwise (fun r r' => r.visit ≤ r'.visit) ∧
      ((∀ op ∈ ops, op ≠ .poll) → m.reads.flatMap FrameRead.items <+: arrived.flatMap Prod.fst) :=
  raw_stream_delivery ⟨⟨{}, 1, rfl, rfl⟩, rfl, rfl⟩ _

end PcmFlowUdp
