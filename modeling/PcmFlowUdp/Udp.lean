import Mathlib.Data.List.Basic

/-! # The injected UDP object

The carriers code against Arduino's abstract `UDP` class, which is not part of this repository. What
a carrier can observe of it is modelled here, with nothing assumed about how it answers.

* Sending: each datagram is one `beginPacket` / `write` / `endPacket` sequence. `Udp.script` holds
  the answers to the `k`-th of them and `Udp.attempts` records what was attempted.
* Receiving: each `poll` calls `parsePacket` once and then `read` once; an `Inbound` holds both
  answers. `Inbound.ofDatagram` is the object that has a datagram ready and reads as much of it as is
  asked for and present. -/

namespace PcmFlowUdp

/-! ## Sending -/

/-- The answers of the UDP object to one `beginPacket` / `write` / `endPacket` sequence. -/
structure UdpTx where
  /-- What `beginPacket` returns; `1` is success. -/
  beginPacket : Int := 1
  /-- How many of the offered bytes `write` accepts, `none` for all of them. -/
  write : Option ℕ := none
  /-- What `endPacket` returns; `1` is success. -/
  endPacket : Int := 1
  deriving DecidableEq, Repr

/-- Both calls that a carrier checks returned `1`. -/
def UdpTx.ok (tx : UdpTx) : Bool := tx.beginPacket == 1 && tx.endPacket == 1

/-- One attempt to send a packet: the bytes offered to `write` and the answers. -/
structure SendAttempt where
  packet : List UInt8
  tx : UdpTx
  deriving DecidableEq, Repr

/-- The attempt counted as successful. -/
def SendAttempt.ok (a : SendAttempt) : Bool := a.tx.ok

/-- The datagram that left, if the attempt was completed: the bytes that `write` accepted. -/
def SendAttempt.datagram (a : SendAttempt) : Option (List UInt8) :=
  if a.ok then
    some (match a.tx.write with
      | none => a.packet
      | some k => a.packet.take k)
  else none

/-- What leaves in a completed attempt is the packet or a first part of it. -/
theorem SendAttempt.datagram_prefix {a : SendAttempt} {d : List UInt8} (h : a.datagram = some d) :
    d <+: a.packet := by
  unfold SendAttempt.datagram at h
  split at h
  · obtain rfl := Option.some.inj h
    split
    · exact List.prefix_rfl
    · exact List.take_prefix _ _
  · cases h

/-- The sending side of a UDP object. -/
structure Udp where
  /-- The answers to the `k`-th attempt. -/
  script : ℕ → UdpTx
  /-- The attempts so far, in order. -/
  attempts : List SendAttempt := []

namespace Udp

/-- The answers to the next attempt. -/
def next (udp : Udp) : UdpTx := udp.script udp.attempts.length

/-- One `beginPacket` / `write` / `endPacket` sequence with the given bytes: whether both checked
calls returned `1`, and the object afterwards. -/
def transmit (udp : Udp) (packet : List UInt8) : Bool × Udp :=
  (udp.next.ok, { udp with attempts := udp.attempts ++ [⟨packet, udp.next⟩] })

/-- A transmission is one more attempt. -/
@[simp] theorem transmit_attempts (udp : Udp) (packet : List UInt8) :
    (udp.transmit packet).2.attempts = udp.attempts ++ [⟨packet, udp.next⟩] := rfl

/-- Every send succeeds and every datagram leaves whole. -/
def Reliable (udp : Udp) : Prop := ∀ k, (udp.script k).ok = true ∧ (udp.script k).write = none

/-- The datagrams that left, in order. -/
def datagrams (udp : Udp) : List (List UInt8) := udp.attempts.filterMap SendAttempt.datagram

/-- The next send succeeds. -/
theorem Reliable.next_ok {udp : Udp} (h : udp.Reliable) : udp.next.ok = true := (h _).1

/-- A reliable object puts the offered packet on the wire. -/
theorem Reliable.datagrams_transmit {udp : Udp} (h : udp.Reliable) (packet : List UInt8) :
    (udp.transmit packet).2.datagrams = udp.datagrams ++ [packet] := by
  have hd : (⟨packet, udp.next⟩ : SendAttempt).datagram = some packet := by
    simp only [SendAttempt.datagram, SendAttempt.ok, Udp.next, (h _).1, (h _).2, if_true]
  rw [datagrams, transmit_attempts, List.filterMap_append, List.filterMap_cons_some hd]
  rfl

end Udp

/-! ## Receiving -/

/-- The answers of the UDP object to `parsePacket` and to the `read` that follows it. -/
structure Inbound where
  /-- What `parsePacket` returns: the size of the datagram made current, or `≤ 0`. -/
  parsePacket : Int
  /-- The bytes `read` copies when asked for at most that many; `none` for a negative return. -/
  read : ℕ → Option (List UInt8)

namespace Inbound

/-- No datagram has arrived. -/
def empty : Inbound := { parsePacket := 0, read := fun _ => none }

/-- A datagram has arrived, and reads as much as is asked for and present. -/
def ofDatagram (d : List UInt8) : Inbound :=
  { parsePacket := d.length, read := fun len => some (d.take len) }

/-- `read` copies no more than it was asked for. -/
def Honest (io : Inbound) : Prop := ∀ len e, io.read len = some e → e.length ≤ len

/-- An object that reads what is there is honest. -/
theorem honest_ofDatagram (d : List UInt8) : (ofDatagram d).Honest := by
  intro len e he
  obtain rfl : d.take len = e := Option.some.inj he
  exact List.length_take_le _ _

/-- Asked for the size announced or for a cap, whichever is less, an honest `read` fits the cap. -/
theorem Honest.length_le {io : Inbound} (h : io.Honest) {cap : ℕ} {e : List UInt8}
    (hread : io.read (if io.parsePacket.toNat < cap then io.parsePacket.toNat else cap) = some e) :
    e.length ≤ cap := by
  refine Nat.le_trans (h _ _ hread) ?_
  split <;> omega

/-- What a poll with room for `cap` bytes reads of the datagram that has arrived, if there is one. -/
def received (io : Inbound) (cap : ℕ) : Option (List UInt8) :=
  if io.parsePacket ≤ 0 then none
  else io.read (if io.parsePacket.toNat < cap then io.parsePacket.toNat else cap)

/-- It fits the cap if `read` is honest. -/
theorem Honest.length_received {io : Inbound} (h : io.Honest) {cap : ℕ} {e : List UInt8}
    (he : io.received cap = some e) : e.length ≤ cap := by
  unfold received at he
  split at he
  · cases he
  · exact h.length_le he

/-- Asked for the size announced or for a cap, whichever is less, `read` yields what fits the cap. -/
theorem read_ofDatagram (d : List UInt8) (cap : ℕ) :
    (ofDatagram d).read
      (if (ofDatagram d).parsePacket.toNat < cap then (ofDatagram d).parsePacket.toNat else cap)
      = some (d.take cap) := by
  show some (d.take (if d.length < cap then d.length else cap)) = _
  split
  · rw [List.take_length, List.take_of_length_le (by omega)]
  · rfl

end Inbound

end PcmFlowUdp
