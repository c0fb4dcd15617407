import Wiznet.TcpRuns

/-! # The TCP echo loop

The loop of the firmware sends back what it reads. It keeps what `write` did not
take and reads no more before that is written out. Between the chip's RX buffer
and its TX buffer every byte is in exactly one place, so what goes out is the front
of what came in. -/

namespace Wiznet
open Resumption Resumption.Code SpscRing LiveChip

variable {w L size : Nat} {P : Type} {i : Fin 8}

/-- Where the loop stands. -/
inductive TcpEchoPoint where
  | asleep
  | top
  | reading
  | writing
  deriving DecidableEq, Repr

/-- The variables of the loop: `buf` is what was read last, and `off` bytes of it
are written out. -/
structure TcpEcho where
  point : TcpEchoPoint
  buf : List UInt8
  off : Nat
  deriving DecidableEq, Repr

namespace TcpEcho

/-- The length of `buf`. -/
def BUF : Nat := 128

/-- What has been read and not yet been written out. -/
def carry (e : TcpEcho) : List UInt8 := e.buf.drop e.off

/-- Once the `read` has returned; nothing means that the rx ring is drained. -/
def refilled (bs : List UInt8) : TcpEcho := ⟨if bs.length = 0 then .asleep else .top, bs, 0⟩

/-- Once the `write` has returned; nothing means that the tx ring is full. -/
def forwarded (n : Nat) (e : TcpEcho) : TcpEcho :=
  { e with point := if n = 0 then .asleep else .top, off := e.off + n }

def afterRead (reader : Thread (SpscRing w) ConsumerCall (List UInt8)) (e : TcpEcho) : TcpEcho :=
  match reader.active, reader.done.getLast? with
  | none, some f => refilled f.answer
  | _, _ => e

def afterWrite (writer : Thread (SpscRing w) (List UInt8) Nat) (e : TcpEcho) : TcpEcho :=
  match writer.active, writer.done.getLast? with
  | none, some f => e.forwarded f.answer
  | _, _ => e

end TcpEcho

namespace W6100

variable [OutputPin P]

/-- Runs of the loop on a socket opened in slot `i`, to where the connection is
over or the link is gone. It sleeps until the handle says `Established`. -/
inductive TcpEchoRun (i : Fin 8) (c₀ : LiveChip size) : W6100 w L (LiveChip size) P →
    Thread (SpscRing w) ConsumerCall (List UInt8) → Thread (SpscRing w) (List UInt8) Nat →
    TcpEcho → Prop
  | opened {s : W6100 w L (LiveChip size) P} {c : Call} (h : OpensStream i s c c₀) :
      TcpEchoRun i c₀ (s.apply c) .idle .idle ⟨.asleep, [], 0⟩
  | beside {s s' : W6100 w L (LiveChip size) P} {reader writer e}
      (h : TcpEchoRun i c₀ s reader writer e) (hb : Beside i s s') :
      TcpEchoRun i c₀ s' reader writer e
  | wake {s : W6100 w L (LiveChip size) P} {reader writer e}
      (h : TcpEchoRun i c₀ s reader writer e) (hp : e.point = .asleep)
      (hup : (exec TcpSocket.status (s.sockets i)).1 = .ok .established) :
      TcpEchoRun i c₀ s reader writer { e with point := .top }
  | refill {s : W6100 w L (LiveChip size) P} {reader writer e}
      (h : TcpEchoRun i c₀ s reader writer e) (hp : e.point = .top)
      (hoff : e.off = e.buf.length) :
      TcpEchoRun i c₀ s (reader.begin ConsumerCall.run (.read TcpEcho.BUF) ((readRing i).get s))
        writer { e with point := .reading }
  | forward {s : W6100 w L (LiveChip size) P} {reader writer e}
      (h : TcpEchoRun i c₀ s reader writer e) (hp : e.point = .top)
      (hoff : e.off ≠ e.buf.length) :
      TcpEchoRun i c₀ s reader (writer.begin SpscRing.write e.carry ((writeRing i).get s))
        { e with point := .writing }
  | stepRead {s : W6100 w L (LiveChip size) P} {reader writer e}
      (h : TcpEchoRun i c₀ s reader writer e) (hp : e.point = .reading) :
      TcpEchoRun i c₀ ((readRing i).set (reader.step ((readRing i).get s)).2 s)
        (reader.step ((readRing i).get s)).1 writer
        (e.afterRead (reader.step ((readRing i).get s)).1)
  | stepWrite {s : W6100 w L (LiveChip size) P} {reader writer e}
      (h : TcpEchoRun i c₀ s reader writer e) (hp : e.point = .writing) :
      TcpEchoRun i c₀ ((writeRing i).set (writer.step ((writeRing i).get s)).2 s) reader
        (writer.step ((writeRing i).get s)).1
        (e.afterWrite (writer.step ((writeRing i).get s)).1)

end W6100

/-! ## The loop between its calls -/

namespace TcpEcho

variable {reader : Thread (SpscRing w) ConsumerCall (List UInt8)}
  {writer : Thread (SpscRing w) (List UInt8) Nat} {e : TcpEcho} {r : SpscRing w}

/-- What was read is what was written and what is carried, and the loop is in one
call at a time. -/
structure Carries (reader : Thread (SpscRing w) ConsumerCall (List UInt8))
    (writer : Thread (SpscRing w) (List UInt8) Nat) (e : TcpEcho) : Prop where
  bytes : bytesRead reader.done = bytesWritten writer.done ++ e.carry
  reading : e.point = .reading →
    e.carry = [] ∧ ∃ a, reader.active = some a ∧ a.request = .read BUF
  writing : e.point = .writing → ∃ a, writer.active = some a ∧ a.request = e.carry
  readerIdle : e.point ≠ .reading → reader.active = none
  writerIdle : e.point ≠ .writing → writer.active = none

theorem Carries.stepRead (h : Carries reader writer e) (hp : e.point = .reading) (r : SpscRing w) :
    Carries (reader.step r).1 writer (e.afterRead (reader.step r).1) := by
  obtain ⟨hcarry, a, ha, hrequest⟩ := h.reading hp
  have hwriter : writer.active = none := h.writerIdle (by rw [hp]; nofun)
  rcases reader.step_active ha r with ⟨a', hsame, -, hstep⟩ | ⟨bs, hstep⟩
  · rw [hstep]
    exact ⟨h.bytes, fun _ => ⟨hcarry, a', rfl, hsame.trans hrequest⟩, fun hw => (by
      rw [show e.afterRead _ = e from rfl, hp] at hw; cases hw), fun hr => absurd hp hr,
      fun _ => hwriter⟩
  · have hafter : e.afterRead ⟨none, reader.done ++ [⟨a.request, a.start, bs⟩]⟩ = refilled bs := by
      simp [afterRead]
    have hpoint : (refilled bs).point ≠ .reading ∧ (refilled bs).point ≠ .writing := by
      rw [refilled]
      split <;> exact ⟨nofun, nofun⟩
    rw [hstep, hafter, hrequest]
    refine ⟨?_, fun hr => absurd hr hpoint.1, fun hw => absurd hw hpoint.2, fun _ => rfl,
      fun _ => hwriter⟩
    have hbytes := h.bytes
    rw [hcarry, List.append_nil] at hbytes
    simp [bytesRead, refilled, carry, ← hbytes]

theorem Carries.stepWrite (h : Carries reader writer e) (hp : e.point = .writing) (r : SpscRing w) :
    Carries reader (writer.step r).1 (e.afterWrite (writer.step r).1) := by
  obtain ⟨a, ha, hrequest⟩ := h.writing hp
  have hreader : reader.active = none := h.readerIdle (by rw [hp]; nofun)
  rcases writer.step_active ha r with ⟨a', hsame, -, hstep⟩ | ⟨n, hstep⟩
  · rw [hstep]
    exact ⟨h.bytes, fun hr => (by rw [show e.afterWrite _ = e from rfl, hp] at hr; cases hr),
      fun _ => ⟨a', rfl, hsame.trans hrequest⟩, fun _ => hreader, fun hw => absurd hp hw⟩
  · have hafter : e.afterWrite ⟨none, writer.done ++ [⟨a.request, a.start, n⟩]⟩ = e.forwarded n := by
      simp [afterWrite]
    have hpoint : (e.forwarded n).point ≠ .reading ∧ (e.forwarded n).point ≠ .writing := by
      rw [forwarded]
      dsimp only
      split <;> exact ⟨nofun, nofun⟩
    rw [hstep, hafter, hrequest]
    refine ⟨?_, fun hr => absurd hr hpoint.1, fun hw => absurd hw hpoint.2, fun _ => hreader,
      fun _ => rfl⟩
    have hsplit : e.carry.take n ++ (e.forwarded n).carry = e.carry := by
      rw [forwarded, carry, carry, ← List.drop_drop, List.take_append_drop]
    have hmore : bytesWritten (writer.done ++ [⟨e.carry, a.start, n⟩]) =
        bytesWritten writer.done ++ e.carry.take n := by simp [bytesWritten]
    rw [hmore, List.append_assoc, hsplit]
    exact h.bytes

end TcpEcho

namespace W6100

variable [OutputPin P] {c₀ : LiveChip size} {s : W6100 w L (LiveChip size) P}
  {reader : Thread (SpscRing w) ConsumerCall (List UInt8)}
  {writer : Thread (SpscRing w) (List UInt8) Nat} {e : TcpEcho}

theorem TcpEchoRun.carries (h : TcpEchoRun i c₀ s reader writer e) :
    TcpEcho.Carries reader writer e ∧ StreamRun i c₀ s reader writer := by
  induction h with
  | opened h => exact ⟨⟨rfl, nofun, nofun, fun _ => rfl, fun _ => rfl⟩, StreamRun.opened h⟩
  | beside _ hb ih => exact ⟨ih.1, ih.2.beside hb⟩
  | wake _ hp _ ih =>
    obtain ⟨h, hrun⟩ := ih
    refine ⟨⟨h.bytes, nofun, nofun, fun _ => ?_, fun _ => ?_⟩, hrun⟩
    · exact h.readerIdle (by rw [hp]; nofun)
    · exact h.writerIdle (by rw [hp]; nofun)
  | @refill _ _ _ e _ hp hoff ih =>
    obtain ⟨h, hrun⟩ := ih
    have hnone : e.carry = [] := by rw [TcpEcho.carry, hoff, List.drop_length]
    refine ⟨⟨h.bytes, fun _ => ⟨hnone, _, rfl, rfl⟩, nofun, fun hr => absurd rfl hr, fun _ => ?_⟩,
      hrun.beginRead (h.readerIdle (by rw [hp]; nofun)) _⟩
    exact h.writerIdle (by rw [hp]; nofun)
  | forward _ hp _ ih =>
    obtain ⟨h, hrun⟩ := ih
    refine ⟨⟨h.bytes, nofun, fun _ => ⟨_, rfl, rfl⟩, fun _ => ?_, fun hw => absurd rfl hw⟩,
      hrun.beginWrite (h.writerIdle (by rw [hp]; nofun)) _⟩
    exact h.readerIdle (by rw [hp]; nofun)
  | stepRead _ hp ih => exact ⟨ih.1.stepRead hp _, ih.2.stepRead⟩
  | stepWrite _ hp ih => exact ⟨ih.1.stepWrite hp _, ih.2.stepWrite⟩

/-- In every run of the echo loop, however it is interleaved with the interrupts,
what came in since the socket was opened is what went out, then what is on its way
through the chip's TX buffer, the tx ring, the loop's own buffer, the rx ring and
the chip's RX buffer, in this order. -/
theorem echo_conserved (hs : FifoSize size) (hL : 67 ≤ L) (h : TcpEchoRun i c₀ s reader writer e)
    (hrx : Sure (MovesRx i) c₀) (htx : Sure (MovesTx i) c₀) :
    ∃ c n received sent, s.device.value.transport.dev? = some c ∧
      c.received i = c₀.received i ++ received ∧ c.chip.sent i = c₀.chip.sent i ++ sent ∧
      received = sent ++ (c.chip.sockets i).tx.stored size ++
        (c.chip.sockets i).tx.staged size n ++ contents ((writeRing i).get s) ++ e.carry ++
        contents ((readRing i).get s) ++ c.unread i := by
  obtain ⟨hcarries, hrun⟩ := h.carries
  obtain ⟨c, hdev, hreceived⟩ := received_of_reads (hrun.reads hs hL hrx)
  obtain ⟨c', n, hdev', haccepted, -⟩ := accepted_of_writes (hrun.writes hs hL htx)
  obtain rfl : c' = c := Option.some.inj (hdev'.symm.trans hdev)
  obtain ⟨sent, hsent⟩ := hrun.sent_grown hL hdev
  have hwritten : bytesWritten writer.done = sent ++ (c'.chip.sockets i).tx.stored size ++
      (c'.chip.sockets i).tx.staged size n ++ contents ((writeRing i).get s) := by
    rw [hsent] at haccepted
    simp only [List.append_assoc] at haccepted ⊢
    exact List.append_cancel_left haccepted
  refine ⟨c', n, bytesRead reader.done ++ contents ((readRing i).get s) ++ c'.unread i, sent, hdev,
    ?_, hsent, ?_⟩
  · rw [hreceived]
    simp only [List.append_assoc]
  · rw [hcarries.bytes, hwritten]

theorem TcpEchoRun.round (h : TcpEchoRun i c₀ s reader writer e)
    (hup : (s.apply .service).linkUp = true ∧ ((s.apply .service).apply .dmaComplete).linkUp = true) :
    TcpEchoRun i c₀ ((s.apply .service).apply .dmaComplete) reader writer e :=
  (h.beside (.call .service nofun (not_resets nofun hup.1))).beside
    (.call .dmaComplete nofun (not_resets nofun hup.2))

/-- Three bytes come in and are read and written. -/
theorem echo_conserved_called :
    ∃ (c₀ c : LiveChip 16) (s : W6100 8 67 (LiveChip 16) Unit), ∃ reader writer e n received sent,
    TcpEchoRun 0 c₀ s reader writer e ∧
      bytesWritten writer.done = [1, 2, 3] ∧ s.device.value.transport.dev? = some c ∧
      c.received 0 = c₀.received 0 ++ received ∧ c.chip.sent 0 = c₀.chip.sent 0 ++ sent ∧
      received = sent ++ (c.chip.sockets 0).tx.stored 16 ++
        (c.chip.sockets 0).tx.staged 16 n ++ contents ((writeRing 0).get s) ++ e.carry ++
        contents ((readRing 0).get s) ++ c.unread 0 := by
  obtain ⟨c₀, hopens, hsure⟩ := answering_opens
  have hmoved := (TcpEchoRun.opened hopens).round (by decide +kernel) |>.round (by decide +kernel)
    |>.round (by decide +kernel) |>.round (by decide +kernel) |>.round (by decide +kernel)
  have hread := TcpEchoRun.refill (.wake hmoved rfl (by decide +kernel)) rfl rfl
    |>.stepRead (by decide +kernel) |>.stepRead (by decide +kernel) |>.stepRead (by decide +kernel)
    |>.stepRead (by decide +kernel) |>.stepRead (by decide +kernel) |>.stepRead (by decide +kernel)
    |>.stepRead (by decide +kernel)
  have hwritten := hread.forward (by decide +kernel) (by decide +kernel)
    |>.stepWrite (by decide +kernel) |>.stepWrite (by decide +kernel)
    |>.stepWrite (by decide +kernel) |>.stepWrite (by decide +kernel)
    |>.stepWrite (by decide +kernel) |>.stepWrite (by decide +kernel)
    |>.stepWrite (by decide +kernel)
  obtain ⟨c, n, received, sent, hdev, hc⟩ := echo_conserved ⟨by decide, by decide⟩ (by decide) hwritten
    (fun n mosi _ => hsure n mosi) fun n mosi _ => hsure n mosi
  exact ⟨c₀, c, _, _, _, _, n, received, sent, hwritten, by decide +kernel, hdev, hc⟩

end W6100

end Wiznet
