import PcmFlowUdp.ByteTransport.FrameCursor

/-! # `RawUdpStream`

`RawUdpStream.h` / `RawUdpStream.cpp`, member by member, over a UDP object that holds one datagram at a
time: `parsePacket` gives up what is left of it and makes the next one current.

Calls that return a value return it with the state afterwards, `read` with the bytes it copies in between.
What `UDP::begin` returns is an argument of `begin`; the local port, which no other member reads, is left
out. -/

namespace PcmFlowUdp

open ByteTransport

/-! ## The UDP object -/

/-- `IPAddress`. -/
abbrev IPAddress := UInt32

/-- Where a datagram came from. -/
structure UdpSender where
  remoteIP : IPAddress := 0
  remotePort : UInt16 := 0
  deriving DecidableEq, Repr

/-- The receiving side of a UDP object: the datagrams that have arrived, and the one that is current. -/
abbrev UdpInbox := FrameCursor UInt8 UdpSender

namespace UdpInbox

/-- `parsePacket`: make the next datagram current and return its size, `0` if there is none. -/
def parsePacket (udp : UdpInbox) : Int × UdpInbox := (udp.advance.unread.length, udp.advance)

/-- `available`: how much of the current datagram is left. -/
def available (udp : UdpInbox) : Int := udp.unread.length

/-- `read`: copy at most `count` bytes of what is left of the current datagram. -/
def read (udp : UdpInbox) (count : ℕ) : Int × List UInt8 × UdpInbox :=
  ((udp.unread.take count).length, udp.unread.take count, udp.skip count)

/-- `remoteIP` and `remotePort`: where the current datagram came from. -/
def sender (udp : UdpInbox) : UdpSender := (udp.current.map Prod.snd).getD {}

end UdpInbox

/-! ## The stream -/

/-- `RawUdpStream::Error`. -/
inductive RawUdpStreamError
  | none
  | notReady
  | bindFailed
  deriving DecidableEq, Repr

/-- `RawUdpStream`: the member variables. -/
structure RawUdpStream where
  udp : UdpInbox := {}
  ready : Bool := false
  error : RawUdpStreamError := .notReady
  /-- `remoteIp_` and `remotePort_`. -/
  remote : UdpSender := {}

namespace RawUdpStream

/-- `begin`, given what `UDP::begin` returns. -/
def begin (s : RawUdpStream) (bound : Int) : Bool × RawUdpStream :=
  if bound ≠ 1 then (false, { s with error := .bindFailed, ready := false })
  else (true, { s with ready := true, error := .none })

/-- `end`. Nothing is received on a closed socket. -/
def end_ (s : RawUdpStream) : RawUdpStream :=
  { s with udp := {}, ready := false, error := .notReady }

/-- `poll`. -/
def poll (s : RawUdpStream) : Bool × RawUdpStream :=
  if !s.ready then (false, s)
  else
    let (n, udp) := s.udp.parsePacket
    if n ≤ 0 then (false, { s with udp })
    else (true, { s with udp, remote := udp.sender })

/-- `read`; `nonNull` says whether `dst` is not a null pointer. -/
def read (s : RawUdpStream) (nonNull : Bool) (count : ℕ) : ℕ × List UInt8 × RawUdpStream :=
  if !s.ready || !nonNull || count == 0 then (0, [], s)
  else
    let (held, s) := if s.udp.available ≤ 0 then s.poll else (true, s)
    if !held then (0, [], s)
    else
      let (got, bytes, udp) := s.udp.read count
      (if 0 < got then got.toNat else 0, bytes, { s with udp })

/-! ## What the calls do -/

/-- What `read` copies from: the current datagram, or the next one if nothing is left of it. -/
def refill (s : RawUdpStream) : RawUdpStream := if s.udp.unread = [] then s.poll.2 else s

/-- A poll advances to the next datagram, and says whether it has bytes. -/
theorem poll_eq {s : RawUdpStream} (hready : s.ready = true) :
    s.poll = (!s.udp.advance.unread.isEmpty,
      { s with
        udp := s.udp.advance
        remote := if s.udp.advance.unread = [] then s.remote else UdpInbox.sender s.udp.advance }) := by
  rw [poll, if_neg (by rw [hready]; decide)]
  cases hunread : s.udp.advance.unread with
  | nil => simp [UdpInbox.parsePacket, hunread]
  | cons x xs =>
    have hpos : ¬ ((xs.length : Int) + 1 ≤ 0) := by omega
    simp [UdpInbox.parsePacket, hunread, hpos]

/-- **What `read` does.** It copies what fits of what is left of one datagram. -/
theorem read_eq {s : RawUdpStream} (hready : s.ready = true) {count : ℕ} (hpos : 0 < count) :
    s.read true count = ((s.refill.udp.unread.take count).length, s.refill.udp.unread.take count,
      { s.refill with udp := s.refill.udp.skip count }) := by
  have hguard : ¬ (!s.ready || !true || count == 0) = true := by
    simp [hready, hpos.ne']
  have hgot : ∀ bytes : List UInt8,
      (if 0 < (bytes.length : Int) then (bytes.length : Int).toNat else 0) = bytes.length := by
    intro bytes
    split <;> omega
  rw [read, if_neg hguard]
  by_cases hunread : s.udp.unread = []
  · have havailable : UdpInbox.available s.udp ≤ 0 := by simp [UdpInbox.available, hunread]
    have hrefill : s.refill = s.poll.2 := if_pos hunread
    rw [if_pos havailable, hrefill, poll_eq hready]
    by_cases hempty : s.udp.advance.unread = []
    · -- nothing has arrived
      simp [hempty, FrameCursor.skip_of_nil hempty]
    · have hheld : s.udp.advance.unread.isEmpty = false := by simpa using hempty
      rw [hheld]
      exact congrArg (fun n => (n, _, _)) (hgot (s.udp.advance.unread.take count))
  · have havailable : ¬ UdpInbox.available s.udp ≤ 0 := by
      have hlen := List.length_pos_iff.mpr hunread
      simp only [UdpInbox.available]
      omega
    have hrefill : s.refill = s := if_neg hunread
    rw [if_neg havailable, hrefill]
    exact congrArg (fun n => (n, _, _)) (hgot (s.udp.unread.take count))

end RawUdpStream

end PcmFlowUdp
