import PcmFlowUdp.ByteTransport.Buffer
import PcmFlowUdp.Udp

/-! # `RawUdpSink`

`RawUdpSink.h` / `RawUdpSink.cpp`, member by member. `write` accumulates bytes in a packet buffer, and
`flush` sends them as one datagram.

Calls that return a value return it with the state afterwards. `write` is `none` if its `memcpy` would leave
the memory behind `buf_`; pointers are `Option`s, `none` for a null pointer. The destination address, which
no member reads, is left out. -/

namespace PcmFlowUdp

open ByteTransport

/-- `RawUdpSink::Error`. -/
inductive RawUdpSinkError
  | none
  | notReady
  | sendFailed
  | bufferOverflow
  deriving DecidableEq, Repr

/-- `kDefaultCapacity`: the size of the internal packet buffer. -/
def kDefaultCapacity : ℕ := 1500

/-- A block of memory. -/
structure MemoryBlock where
  size : ℕ
  bytes : Buffer UInt8 size

/-- `RawUdpSink`: the member variables. -/
structure RawUdpSink where
  udp : Udp
  destPort : UInt16 := 0
  /-- The memory behind `buf_`. -/
  buf : Option MemoryBlock := none
  cap : ℕ := 0
  used : ℕ := 0
  ready : Bool := false
  error : RawUdpSinkError := .notReady

namespace RawUdpSink

/-- A freshly constructed sink. -/
def new (script : ℕ → UdpTx) : RawUdpSink := { udp := { script } }

/-- `defaultBuf_`. What an earlier use has left in it is never sent, and it is installed with zeros. -/
def defaultBuf : MemoryBlock := ⟨kDefaultCapacity, Buffer.filled _ 0⟩

/-- `begin`. -/
def begin (s : RawUdpSink) (destPort : UInt16) : Bool × RawUdpSink :=
  let s := { s with destPort }
  let s :=
    match s.buf with
    | none => { s with buf := some defaultBuf, cap := kDefaultCapacity }
    | some _ => s
  let ready := destPort != 0
  (ready, { s with used := 0, ready, error := if ready then .none else .notReady })

/-- `end`. -/
def end_ (s : RawUdpSink) : RawUdpSink :=
  { s with used := 0, ready := false, error := .notReady }

/-- `setPacketBuffer`. -/
def setPacketBuffer (s : RawUdpSink) (buf : Option MemoryBlock) (capacity : ℕ) : RawUdpSink :=
  { s with buf, cap := capacity, used := 0 }

/-- `memcpy` to `buf_ + used_`. -/
def copy (s : RawUdpSink) (bytes : List UInt8) : Option RawUdpSink :=
  match s.buf with
  | none => none
  | some block =>
      if s.used + bytes.length ≤ block.size then
        some { s with buf := some ⟨block.size, block.bytes.blit s.used bytes⟩ }
      else none

/-- `write`. -/
def write (s : RawUdpSink) (src : Option (List UInt8)) (count : ℕ) : Option (ℕ × RawUdpSink) :=
  if !s.ready then some (0, { s with error := .notReady })
  else
    match src with
    -- a null pointer is no error
    | none => some (0, s)
    | some src =>
        if count = 0 then some (0, s)
        else
          let space := if s.used < s.cap then s.cap - s.used else 0
          let n := if count < space then count else space
          (if 0 < n then s.copy (readMem src 0 n) else some s).map fun s =>
            (n,
              { s with
                used := s.used + n
                error := if n < count then .bufferOverflow else s.error })

/-- The accumulated bytes, as `flush` passes them to the UDP object. -/
def packet (s : RawUdpSink) : List UInt8 :=
  match s.buf with
  | none => []
  | some block => block.bytes.slice 0 s.used

/-- `flush`. -/
def flush (s : RawUdpSink) : Bool × RawUdpSink :=
  if !s.ready then (false, { s with error := .notReady })
  else if s.used = 0 then (true, s)
  else
    let (ok, udp) := s.udp.transmit s.packet
    -- the bytes are gone whether or not they were sent
    if ok then (true, { s with udp, used := 0 })
    else (false, { s with udp, used := 0, error := .sendFailed })

/-- **What `flush` sends.** With bytes accumulated it makes one attempt, which says whether it succeeded, and
leaves nothing accumulated. -/
theorem flush_eq {s : RawUdpSink} (hready : s.ready = true) (hused : s.used ≠ 0) :
    s.flush = (s.udp.next.ok,
      { s with
        udp := (s.udp.transmit s.packet).2
        used := 0
        error := if s.udp.next.ok then s.error else .sendFailed }) := by
  rw [flush, if_neg (by rw [hready]; decide), if_neg hused]
  cases h : s.udp.next.ok <;> simp only [Udp.transmit, h] <;> rfl

end RawUdpSink

end PcmFlowUdp
