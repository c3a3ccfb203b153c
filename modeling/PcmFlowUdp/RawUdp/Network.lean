import PcmFlowUdp.ByteTransport.Arrivals
import PcmFlowUdp.RawUdp.Delivery
import PcmFlowUdp.RawUdp.Framing

/-! # Raw sinks and a stream on one network

Any number of `RawUdpSink`s, told apart by `ι`, send to the socket of one `RawUdpStream` over a network that may
lose, repeat and reorder datagrams; sends may fail, `write` may cut packets short, and anybody else may send
datagrams too. Raw datagrams carry nothing but bytes: what tells the senders apart is the address that
`remoteIP()` and `remotePort()` name after a read.

* **`Inv.step`** — what every call at either end, and every arrival, keeps;
* **`raw_network`** — so the bytes read under the address of a sink are bytes that its `write` accepted, in the
  order in which its datagrams arrived; if that is the order of sending, they are the bytes written, with gaps,
  and a prefix of them if each datagram arrives once and none is lost or given up. -/

namespace PcmFlowUdp

open ByteTransport

/-- What happens on the network. -/
inductive RawNetworkOp (ι : Type)
  /-- A call of sink `i`. -/
  | sink (i : ι) (op : SinkOp)
  /-- The datagram of the `k`-th attempt of sink `i` arrives, if one left. -/
  | arrive (i : ι) (k : ℕ)
  /-- A datagram of someone else arrives. -/
  | foreign (d : List UInt8) (sender : UdpSender)
  /-- `poll` of the stream. -/
  | poll
  /-- `read` of the stream. -/
  | read (count : ℕ)

/-- Nobody else sends from the address of a sink. -/
def RawNetworkOp.KeepsOff {ι : Type} (address : ι → UdpSender) : RawNetworkOp ι → Prop
  | .foreign _ sender => ∀ i, sender ≠ address i
  | _ => True

/-- The step at the stream, if it is one. -/
def RawNetworkOp.isPoll {ι : Type} : RawNetworkOp ι → Bool
  | .poll => true
  | _ => false

/-- Sinks and a stream, with what went in and came out. -/
structure RawNetwork (ι : Type) where
  sinks : ι → SinkSession
  stream : StreamSession
  /-- The numbers of the attempts of each sink whose datagrams arrived, in the order of arrival. -/
  arrived : ι → List ℕ := fun _ => []

namespace RawNetwork

section Defs

variable {ι : Type} [DecidableEq ι]

/-- Sinks and a stream that were just opened. -/
def start (opened : ι → RawUdpSink) (stream : RawUdpStream) : RawNetwork ι :=
  { sinks := fun i => { sink := opened i }, stream := { stream } }

/-- The attempts that sink `i` has made since it was opened. -/
def attempts (opened : ι → RawUdpSink) (n : RawNetwork ι) (i : ι) : List SendAttempt :=
  (n.sinks i).sink.udp.attempts.drop (opened i).udp.attempts.length

/-- One step; `address` is where the datagrams of a sink come from. -/
def step (opened : ι → RawUdpSink) (address : ι → UdpSender) (n : RawNetwork ι) :
    RawNetworkOp ι → Option (RawNetwork ι)
  | .sink i op =>
      ((n.sinks i).step op).map fun session => { n with sinks := Function.update n.sinks i session }
  | .arrive i k =>
      match ((n.attempts opened i)[k]?).bind SendAttempt.datagram with
      | none => some n
      | some d =>
          some
            { n with
              stream := n.stream.step (.arrive d (address i))
              arrived := Function.update n.arrived i (n.arrived i ++ [k]) }
  | .foreign d sender => some { n with stream := n.stream.step (.arrive d sender) }
  | .poll => some { n with stream := n.stream.step .poll }
  | .read count => some { n with stream := n.stream.step (.read count) }

/-- The bytes that were read under an address. -/
def readFrom (n : RawNetwork ι) (sender : UdpSender) : List UInt8 :=
  FrameCursor.takenOf (· == sender) n.stream.reads

/-- The bytes that `write` of a sink accepted. -/
def accepted (n : RawNetwork ι) (i : ι) : List UInt8 := (n.sinks i).framer.contents

/-- What left of an attempt. -/
def sent (a : SendAttempt) : List UInt8 := a.datagram.getD []

end Defs

end RawNetwork

/-! ## Calls -/

/-- A call of a sink keeps the attempts made before. -/
theorem SinkSession.step_attempts {capacity : ℕ} {start : Udp} {m m' : SinkSession}
    (h : RawUdpSink.Accumulates capacity start m.sink m.framer) {op : SinkOp} (hstep : m.step op = some m') :
    m.sink.udp.attempts <+: m'.sink.udp.attempts := by
  cases op with
  | write bytes =>
    obtain ⟨s', hwrite, -, hudp, -⟩ := h.write bytes
    rw [step, hwrite] at hstep
    obtain rfl := Option.some.inj hstep
    rw [← hudp]
  | flush =>
    obtain rfl := Option.some.inj hstep
    obtain ⟨-, hempty, hsends⟩ := h.flush
    show m.sink.udp.attempts <+: m.sink.flush.2.udp.attempts
    by_cases hpending : m.framer.pending = []
    · rw [hempty hpending]
    · rw [(hsends hpending).2]
      exact List.prefix_append _ _

namespace StreamSession

open FrameCursor

variable {m : StreamSession} {p : UdpSender → Bool} {R : List UInt8 → List UInt8 → Prop}

/-- A read takes from the datagram that is current after a refill, under the address that it came from. -/
theorem Inv.flows_read (h : m.Inv) (hflow : Flows p R m.stream.udp m.reads)
    (hrefill : Flows p R m.stream.refill.udp m.reads) (count : ℕ) :
    Flows p R (m.step (.read count)).stream.udp (m.step (.read count)).reads := by
  rcases Nat.eq_zero_or_pos count with rfl | hpos
  · rwa [step_read_zero]
  rw [step_read h.ready hpos]
  dsimp only
  by_cases hunread : m.stream.refill.udp.unread = []
  · rwa [if_pos hunread, skip_of_nil hunread]
  · obtain ⟨k, bytes, hnext, hlabel⟩ := h.refill.remote hunread
    rw [if_neg hunread]
    refine hrefill.take ⟨bytes, ?_⟩ _ count
    rw [FrameCursor.current, hnext]
    exact hlabel

/-- What was read under some addresses is what arrived from there, with gaps. -/
theorem Inv.flows_step (h : m.Inv) (hflow : Flows p List.Sublist m.stream.udp m.reads) (op : StreamOp) :
    Flows p List.Sublist (m.step op).stream.udp (m.step op).reads := by
  have hpoll : Flows p List.Sublist m.stream.poll.2.udp m.reads := by
    rw [RawUdpStream.poll_eq h.ready]
    exact hflow.advance
  cases op with
  | arrive bytes sender => exact hflow.arrive h.reads.next_le (bytes, sender)
  | poll => exact hpoll
  | read count =>
    refine h.flows_read hflow ?_ count
    rw [RawUdpStream.refill]
    split
    · exact hpoll
    · exact hflow

/-- Without explicit polls there are no gaps. -/
theorem Inv.flows_exact_step (h : m.Inv) (hflow : Flows p Eq m.stream.udp m.reads) {op : StreamOp}
    (hop : op ≠ .poll) :
    Flows p Eq (m.step op).stream.udp (m.step op).reads := by
  cases op with
  | arrive bytes sender => exact hflow.arrive h.reads.next_le (bytes, sender)
  | poll => exact absurd rfl hop
  | read count =>
    refine h.flows_read hflow ?_ count
    rw [RawUdpStream.refill]
    split
    · rw [RawUdpStream.poll_eq h.ready]
      exact hflow.advance_of_nil ‹_›
    · exact hflow

end StreamSession

/-! ## The network -/

namespace RawNetwork

open FrameCursor

variable {ι : Type} [DecidableEq ι]

/-- What holds between steps. -/
structure Inv (opened : ι → RawUdpSink) (capacity : ι → ℕ) (address : ι → UdpSender) (n : RawNetwork ι) :
    Prop where
  sinks : ∀ i, RawUdpSink.Accumulates (capacity i) (opened i).udp (n.sinks i).sink (n.sinks i).framer
  stream : n.stream.Inv
  /-- The datagrams that arrived had left. -/
  left : ∀ i, ∀ k ∈ n.arrived i, ∃ a d, (n.attempts opened i)[k]? = some a ∧ a.datagram = some d
  /-- What arrived from the address of a sink are its datagrams. -/
  inbox : ∀ i, heldBy (· == address i) n.stream.stream.udp.arrived
    = arrivals sent (n.attempts opened i) (n.arrived i)
  flows : ∀ i, Flows (· == address i) List.Sublist n.stream.stream.udp n.stream.reads

section Steps

variable {opened : ι → RawUdpSink} {capacity : ι → ℕ} {address : ι → UdpSender} {n : RawNetwork ι}
  (h : Inv opened capacity address n)

include h

omit [DecidableEq ι] in
/-- The attempts of a sink hold what it flushed. -/
theorem Inv.packets (i : ι) :
    (n.attempts opened i).map SendAttempt.packet = (n.sinks i).framer.frames := by
  obtain ⟨new, hnew, hpackets, -⟩ := (h.sinks i).offered.attempts
  rw [attempts, hnew, List.drop_left, hpackets]

omit [DecidableEq ι] in
/-- What arrived has a number in the log. -/
theorem Inv.arrived_lt (i : ι) : ∀ k ∈ n.arrived i, k < (n.attempts opened i).length := by
  intro k hk
  obtain ⟨a, d, ha, -⟩ := h.left i k hk
  exact (List.getElem?_eq_some_iff.mp ha).1

/-- **A call of a sink** adds to its attempts at most. -/
theorem Inv.sink (i : ι) (op : SinkOp) :
    ∃ n', n.step opened address (.sink i op) = some n' ∧ Inv opened capacity address n' ∧
      n'.stream = n.stream := by
  obtain ⟨session, hstep, hacc⟩ := SinkSession.step_accumulates (h.sinks i) op
  obtain ⟨more, hmore⟩ := SinkSession.step_attempts (h.sinks i) hstep
  refine ⟨{ n with sinks := Function.update n.sinks i session }, by rw [step, hstep]; rfl, ?_, rfl⟩
  -- a call of sink `i` extends its log only, and what has arrived is stated by index
  have hgrow : ∀ j, ∃ more, attempts opened { n with sinks := Function.update n.sinks i session } j
      = n.attempts opened j ++ more := by
    intro j
    rcases eq_or_ne j i with rfl | hne
    · obtain ⟨new, hnew, -⟩ := (h.sinks j).offered.attempts
      refine ⟨more, ?_⟩
      rw [attempts, attempts]
      dsimp only
      rw [Function.update_self, ← hmore, hnew, List.append_assoc, List.drop_left, List.drop_left]
    · refine ⟨[], ?_⟩
      rw [attempts, attempts]
      dsimp only
      rw [Function.update_of_ne hne, List.append_nil]
  constructor
  · intro j
    dsimp only
    rcases eq_or_ne j i with rfl | hne
    · rw [Function.update_self]
      exact hacc
    · rw [Function.update_of_ne hne]
      exact h.sinks j
  · exact h.stream
  · intro j k hk
    obtain ⟨more, hmore⟩ := hgrow j
    obtain ⟨a, d, ha, hd⟩ := h.left j k hk
    refine ⟨a, d, ?_, hd⟩
    rw [hmore, List.getElem?_append_left (h.arrived_lt j k hk)]
    exact ha
  · intro j
    obtain ⟨more, hmore⟩ := hgrow j
    rw [hmore]
    exact (h.inbox j).trans (arrivals_append_log (h.arrived_lt j) more).symm
  · exact h.flows

omit [DecidableEq ι] in
/-- **A call of the stream, or an arrival**, given what arrives under the address of each sink. -/
theorem Inv.receive (op : StreamOp) {arrived : ι → List ℕ}
    (hleft : ∀ i, ∀ k ∈ arrived i, ∃ a d, (n.attempts opened i)[k]? = some a ∧ a.datagram = some d)
    (hinbox : ∀ i, heldBy (· == address i) (n.stream.stream.udp.arrived ++ op.arrival.toList)
      = arrivals sent (n.attempts opened i) (arrived i)) :
    Inv opened capacity address { n with stream := n.stream.step op, arrived } where
  sinks := h.sinks
  stream := h.stream.step op
  left := hleft
  inbox i := by
    dsimp only
    rw [StreamSession.arrived_step h.stream.ready]
    exact hinbox i
  flows i := h.stream.flows_step (h.flows i) op

/-- **One step.** It completes and keeps the invariant. -/
theorem Inv.step (haddress : Function.Injective address) {op : RawNetworkOp ι} (hop : op.KeepsOff address) :
    ∃ n', n.step opened address op = some n' ∧ Inv opened capacity address n' ∧
      ∀ p : UdpSender → Bool, op.isPoll = false → Flows p Eq n.stream.stream.udp n.stream.reads →
        Flows p Eq n'.stream.stream.udp n'.stream.reads := by
  -- without an arrival the stream holds what it held
  have hkeeps : ∀ i, heldBy (· == address i) (n.stream.stream.udp.arrived ++ [])
      = arrivals sent (n.attempts opened i) (n.arrived i) := by
    intro i
    rw [List.append_nil]
    exact h.inbox i
  cases op with
  | sink i op =>
    -- a sink never touches the stream
    obtain ⟨n', hstep, hinv, hsame⟩ := h.sink i op
    refine ⟨n', hstep, hinv, fun p _ hflow => ?_⟩
    rw [hsame]
    exact hflow
  | arrive i k =>
    cases hdatagram : ((n.attempts opened i)[k]?).bind SendAttempt.datagram with
    | none => exact ⟨n, by rw [RawNetwork.step, hdatagram], h, fun p _ hflow => hflow⟩
    | some d =>
      obtain ⟨a, ha, hd⟩ := Option.bind_eq_some_iff.mp hdatagram
      refine ⟨_, by rw [RawNetwork.step, hdatagram], h.receive (.arrive d (address i)) ?_ ?_,
        fun p _ hflow => h.stream.flows_exact_step hflow (by simp)⟩
      · intro j k' hk'
        rcases eq_or_ne j i with rfl | hne
        · rw [Function.update_self] at hk'
          rcases List.mem_append.mp hk' with hold | hnew
          · exact h.left j k' hold
          · obtain rfl := List.mem_singleton.mp hnew
            exact ⟨a, d, ha, hd⟩
        · rw [Function.update_of_ne hne] at hk'
          exact h.left j k' hk'
      · intro j
        show heldBy _ (_ ++ [(d, address i)]) = _
        rw [heldBy_append, heldBy_singleton, h.inbox j]
        -- the sinks have different addresses, so the datagram counts for its own sink only
        rcases eq_or_ne j i with rfl | hne
        · rw [Function.update_self, arrivals_snoc ha, sent, hd, if_pos (by simp)]
          rfl
        · have hother : (address i == address j) = false :=
            beq_eq_false_iff_ne.mpr fun heq => hne (haddress heq).symm
          rw [Function.update_of_ne hne, hother]
          exact List.append_nil _
  | foreign d sender =>
    -- the sender of a foreign datagram is no sink, so no account changes
    refine ⟨_, rfl, h.receive (.arrive d sender) h.left fun i => ?_,
      fun p _ hflow => h.stream.flows_exact_step hflow (by simp)⟩
    show heldBy _ (_ ++ [(d, sender)]) = _
    have hother : (sender == address i) = false := beq_eq_false_iff_ne.mpr (hop i)
    rw [heldBy_append, heldBy_singleton, h.inbox i, hother]
    exact List.append_nil _
  | poll => exact ⟨_, rfl, h.receive .poll h.left hkeeps, fun p hpoll => (by cases hpoll)⟩
  | read count =>
    exact ⟨_, rfl, h.receive (.read count) h.left hkeeps,
      fun p _ hflow => h.stream.flows_exact_step hflow (by simp)⟩

omit [DecidableEq ι] in
/-- What leaves of the attempts of a sink is what it flushed, with gaps. -/
theorem Inv.sent_sublist (i : ι) :
    List.Sublist ((n.attempts opened i).flatMap sent) (n.sinks i).framer.frames.flatten := by
  rw [← h.packets i, ← List.flatMap_def]
  refine List.Sublist.flatMap_right _ fun a _ => ?_
  rw [sent]
  cases hd : a.datagram with
  | none => exact List.nil_sublist _
  | some d => exact (SendAttempt.datagram_prefix hd).sublist

omit [DecidableEq ι] in
/-- A reliable UDP object sends it all. -/
theorem Inv.sent_reliable {i : ι} (hreliable : (opened i).udp.Reliable) :
    ∀ a ∈ n.attempts opened i, sent a = a.packet := by
  obtain ⟨new, hnew, -, htx⟩ := (h.sinks i).offered.attempts
  rw [attempts, hnew, List.drop_left]
  intro a ha
  obtain ⟨k, hk⟩ := htx a ha
  obtain ⟨hok, hwrite⟩ := hreliable k
  simp [sent, SendAttempt.datagram, SendAttempt.ok, hk, hok, hwrite]

end Steps

/-- **What is read under the address of a sink is what was written to it.** Open any number of sinks, which send
from different addresses, and bind a stream; let nobody else use these addresses. In every run, whatever is
called at either end, whatever becomes of the sends, and whatever the network loses, repeats or reorders: the
datagrams of a sink that arrive are packets that it tried to send, or first parts of them; the bytes read under
its address are what these hold, in the order of their arrival, with gaps where a `poll` gave up a datagram; and
if they arrive in the order of sending they are bytes that `write` accepted, in order. Without explicit polls
there are no gaps; if then all sends succeed, and the datagrams that arrived are the first that were sent, each
once and in the order of sending, the bytes read are a prefix of the bytes accepted. -/
theorem raw_network {opened : ι → RawUdpSink} {capacity : ι → ℕ} (hopen : ∀ i, (opened i).Opened (capacity i))
    {s : RawUdpStream} (hbound : s.Bound) {address : ι → UdpSender} (haddress : Function.Injective address)
    (hquiet : ∀ frame ∈ s.udp.arrived, ∀ i, frame.2 ≠ address i) {ops : List (RawNetworkOp ι)}
    (hops : ∀ op ∈ ops, op.KeepsOff address) :
    ∃ n, run (step opened address) (start opened s) ops = some n ∧ ∀ i,
      (∀ k ∈ n.arrived i, ∃ a d, (n.attempts opened i)[k]? = some a ∧ a.datagram = some d ∧ d <+: a.packet) ∧
      List.Sublist (n.readFrom (address i)) (arrivals sent (n.attempts opened i) (n.arrived i)) ∧
      ((n.arrived i).Pairwise (· < ·) → List.Sublist (n.readFrom (address i)) (n.accepted i)) ∧
      ((∀ op ∈ ops, op.isPoll = false) →
        n.readFrom (address i) <+: arrivals sent (n.attempts opened i) (n.arrived i) ∧
        ((opened i).udp.Reliable → n.arrived i = List.range (n.arrived i).length →
          n.readFrom (address i) <+: n.accepted i)) := by
  have hready : s.ready = true := by
    obtain ⟨s₀, bound, hbegin, rfl⟩ := hbound.begun
    rw [RawUdpStream.begin] at hbegin ⊢
    split at hbegin
    · cases hbegin
    · rw [if_neg ‹_›]
  have hnext : s.udp.next ≤ s.udp.arrived.length := by
    rw [hbound.next]
    exact Nat.zero_le _
  -- nothing has been read, and nothing that waits comes from a sink
  have hflow : ∀ (p : UdpSender → Bool) (R : List UInt8 → List UInt8 → Prop), R [] [] → Flows p R s.udp [] := by
    intro p R hR
    have hleft : s.udp.unreadOf p = [] := by simp [unreadOf, hbound.unread]
    rw [Flows, hleft, hbound.next]
    exact hR
  have hwaiting : ∀ i, heldBy (· == address i) s.udp.arrived = [] := by
    intro i
    have hnone : s.udp.arrived.filter (fun frame => frame.2 == address i) = [] := by
      rw [List.filter_eq_nil_iff]
      intro frame hframe
      simpa using hquiet frame hframe i
    rw [heldBy, hnone]
    rfl
  have hstart : Inv opened capacity address (start opened s) :=
    ⟨fun i => (hopen i).accumulates,
      ⟨hready, FrameCursor.reads_nil hnext hbound.unread, fun hne => absurd hbound.unread hne⟩,
      fun i k hk => absurd hk List.not_mem_nil, hwaiting, fun i => hflow _ _ (List.Sublist.refl _)⟩
  set Quiet : Prop := ∀ op ∈ ops, op.isPoll = false with hQuiet
  obtain ⟨n, hrun, hinv, hexact⟩ := run_total
    (P := fun n => Inv opened capacity address n ∧
      (Quiet → ∀ p : UdpSender → Bool, Flows p Eq n.stream.stream.udp n.stream.reads))
    (fun n op hn hop => by
      obtain ⟨n', hstep, hinv, hflows⟩ := hn.1.step haddress hop.1
      exact ⟨n', hstep, hinv, fun hquiet p => hflows p (hop.2 hquiet) (hn.2 hquiet p)⟩)
    (⟨hstart, fun _ p => hflow p Eq rfl⟩ : _ ∧ _)
    (admissible_of_mem (fun op hop => (⟨hops op hop, fun hquiet => hquiet op hop⟩ : _ ∧ (Quiet → _))) _)
  refine ⟨n, hrun, fun i => ⟨fun k hk => ?_, ?_, fun hordered => ?_, fun hpolls => ?_⟩⟩
  · obtain ⟨a, d, ha, hd⟩ := hinv.left i k hk
    exact ⟨a, d, ha, hd, SendAttempt.datagram_prefix hd⟩
  · rw [← hinv.inbox i]
    exact (hinv.flows i).sublist
  · have hread := (hinv.flows i).sublist
    rw [hinv.inbox i] at hread
    exact (hread.trans (arrivals_sublist hordered)).trans
      ((hinv.sent_sublist i).trans (List.sublist_append_left _ _))
  · have hpre := (hexact hpolls (· == address i)).isPrefix
    rw [hinv.inbox i] at hpre
    refine ⟨hpre, fun hreliable hall => hpre.trans ?_⟩
    have hle : (n.arrived i).length ≤ (n.attempts opened i).length := by
      by_contra hlong
      have hlast := hinv.arrived_lt i (n.attempts opened i).length (by rw [hall, List.mem_range]; omega)
      exact absurd hlast (lt_irrefl _)
    have hsent : (n.attempts opened i).flatMap sent = (n.sinks i).framer.frames.flatten := by
      rw [← hinv.packets i, List.flatMap_def, List.map_congr_left (hinv.sent_reliable hreliable)]
    rw [hall, arrivals_range hle, accepted, Framer.contents, ← hsent]
    refine List.IsPrefix.trans ?_ (List.prefix_append _ _)
    refine ⟨((n.attempts opened i).drop (n.arrived i).length).flatMap sent, ?_⟩
    rw [← List.flatMap_append, List.take_append_drop]

/-- Two sinks with the default buffer. -/
def pair : Fin 2 → RawUdpSink := fun _ => ((RawUdpSink.new fun _ => {}).begin 5004).2

/-- Their addresses. -/
def pairAddress (i : Fin 2) : UdpSender := ⟨UInt32.ofNat i, 5004⟩

/-- Both write, the second one's last datagram overtakes its earlier ones, and somebody else sends in between. -/
def pairCalls : List (RawNetworkOp (Fin 2)) :=
  [.sink 0 (.write [1, 2, 3]), .sink 0 .flush, .sink 1 (.write [4]), .sink 1 .flush, .sink 1 (.write [5, 6]),
    .sink 1 .flush, .arrive 1 1, .arrive 0 0, .foreign [7] ⟨9, 9⟩, .arrive 1 0, .read 2, .read 2, .read 8,
    .read 8, .read 1]

/-- Nothing is mixed up. -/
theorem raw_network_pair :
    ((run (step pair pairAddress) (start pair (RawUdpStream.begin {} 1).2) pairCalls).map fun n =>
        (n.readFrom (pairAddress 0), n.readFrom (pairAddress 1))) = some ([1, 2, 3], [5, 6, 4]) ∧
    ∃ n, run (step pair pairAddress) (start pair (RawUdpStream.begin {} 1).2) pairCalls = some n ∧ ∀ i,
      (∀ k ∈ n.arrived i, ∃ a d, (n.attempts pair i)[k]? = some a ∧ a.datagram = some d ∧ d <+: a.packet) ∧
      List.Sublist (n.readFrom (pairAddress i)) (arrivals sent (n.attempts pair i) (n.arrived i)) ∧
      ((n.arrived i).Pairwise (· < ·) → List.Sublist (n.readFrom (pairAddress i)) (n.accepted i)) ∧
      ((∀ op ∈ pairCalls, op.isPoll = false) →
        n.readFrom (pairAddress i) <+: arrivals sent (n.attempts pair i) (n.arrived i) ∧
        ((pair i).udp.Reliable → n.arrived i = List.range (n.arrived i).length →
          n.readFrom (pairAddress i) <+: n.accepted i)) :=
  ⟨by decide +kernel,
    raw_network (fun _ => RawUdpSink.opened_default rfl (by decide)) ⟨⟨{}, 1, rfl, rfl⟩, rfl, rfl⟩
      (show ∀ i j : Fin 2, pairAddress i = pairAddress j → i = j by decide)
      (fun frame hframe => absurd hframe List.not_mem_nil) (by
        simp only [pairCalls, List.forall_mem_cons, RawNetworkOp.KeepsOff, true_and]
        exact ⟨by decide, fun op hop => absurd hop List.not_mem_nil⟩)⟩

end RawNetwork

end PcmFlowUdp
