import Wiznet.Bus
import Wiznet.Socket
import Wiznet.RingQueue

/-! # A tick step by step

What the steps of a tick do to the state they share, when nobody interferes. -/

namespace Wiznet
open Resumption Resumption.Code

variable {w L : Nat} {D σ α β : Type}

namespace Tick

variable {s : σ} {cell : Transceiver L D} {rx tx : SpscRing w}

theorem exec_onRx (p : Prog (SpscRing w) α) :
    exec (onRx p) ((s, ⟨cell, rx, tx⟩) : Tick σ w L D) =
      (.ok (p.run rx).1, (s, ⟨cell, (p.run rx).2, tx⟩)) := by
  rw [onRx, exec_always, Prog.run_zoom]
  rfl

theorem exec_onTx (p : Prog (SpscRing w) α) :
    exec (onTx p) ((s, ⟨cell, rx, tx⟩) : Tick σ w L D) =
      (.ok (p.run tx).1, (s, ⟨cell, rx, (p.run tx).2⟩)) := by
  rw [onTx, exec_always, Prog.run_zoom]
  rfl

theorem exec_onBus (c : Code Error (Transceiver L D) α) :
    exec (onBus c) ((s, ⟨cell, rx, tx⟩) : Tick σ w L D) =
      ((exec c cell).1, (s, ⟨(exec c cell).2, rx, tx⟩)) := by
  rw [onBus, exec_zoom]
  rfl

theorem exec_onBus_bind (c : Code Error (Transceiver L D) α)
    (k : α → Code Error (Tick σ w L D) β) :
    exec (onBus c >>= k) ((s, ⟨cell, rx, tx⟩) : Tick σ w L D) =
      match exec c cell with
      | (.ok a, cell') => exec (k a) (s, ⟨cell', rx, tx⟩)
      | (.error e, cell') => (.error e, (s, ⟨cell', rx, tx⟩)) := by
  rw [exec_bind, exec_onBus]
  rcases exec c cell with ⟨e | a, cell'⟩ <;> rfl

/-- A bus operation that is known to succeed. -/
theorem exec_onBus_ok {c : Code Error (Transceiver L D) α} {a : α} {cell' : Transceiver L D}
    (h : exec c cell = (.ok a, cell')) (k : α → Code Error (Tick σ w L D) β) :
    exec (onBus c >>= k) ((s, ⟨cell, rx, tx⟩) : Tick σ w L D) =
      exec (k a) (s, ⟨cell', rx, tx⟩) := by rw [exec_onBus_bind, h]

theorem exec_onRx_bind (p : Prog (SpscRing w) α) (k : α → Code Error (Tick σ w L D) β) :
    exec (onRx p >>= k) ((s, ⟨cell, rx, tx⟩) : Tick σ w L D) =
      exec (k (p.run rx).1) (s, ⟨cell, (p.run rx).2, tx⟩) := by rw [exec_bind, exec_onRx]

theorem exec_onTx_bind (p : Prog (SpscRing w) α) (k : α → Code Error (Tick σ w L D) β) :
    exec (onTx p >>= k) ((s, ⟨cell, rx, tx⟩) : Tick σ w L D) =
      exec (k (p.run tx).1) (s, ⟨cell, rx, (p.run tx).2⟩) := by rw [exec_bind, exec_onTx]

variable {Q : β → Tick σ w L D → Prop} {E : Error → Tick σ w L D → Prop}

/-- A step on the rx ring does what it does to the ring. -/
theorem wp_onRx_bind {p : Prog (SpscRing w) α} {k : α → Code Error (Tick σ w L D) β} :
    wp (onRx p >>= k) Q E (s, ⟨cell, ⟨rx, tx⟩⟩) ↔
      wp (k (p.run rx).1) Q E (s, ⟨cell, ⟨(p.run rx).2, tx⟩⟩) := by
  rw [wp, wp, exec_onRx_bind]

theorem wp_onTx_bind {p : Prog (SpscRing w) α} {k : α → Code Error (Tick σ w L D) β} :
    wp (onTx p >>= k) Q E (s, ⟨cell, ⟨rx, tx⟩⟩) ↔
      wp (k (p.run tx).1) Q E (s, ⟨cell, ⟨rx, (p.run tx).2⟩⟩) := by
  rw [wp, wp, exec_onTx_bind]

/-- A step on the bus leaves the rings alone. -/
theorem wp_onBus_bind {c : Code Error (Transceiver L D) α} {k : α → Code Error (Tick σ w L D) β}
    {rings : SocketRings w} :
    wp (onBus c >>= k) Q E (s, ⟨cell, rings⟩) ↔
      wp c (fun a cell' => wp (k a) Q E (s, ⟨cell', rings⟩))
        (fun e cell' => E e (s, ⟨cell', rings⟩)) cell := by
  rw [wp_bind, onBus, wp_zoom]
  rfl

/-- The closure of the two `transmit`: the window of a bulk write is filled out
of the tx ring. -/
def drain (buf : List UInt8) : Prog (Tick σ w L D) (List UInt8) := do
  let got ← Prog.zoom Tick.tx (SpscRing.read buf.length)
  pure (copyFromSlice buf 0 got)

/-- Whatever it takes out of the tx ring, it changes nothing else. -/
theorem run_drain_frame (buf : List UInt8) : ∃ tx', ∃ got,
    (drain buf).run ((s, ⟨cell, rx, tx⟩) : Tick σ w L D) = (got, (s, ⟨cell, rx, tx'⟩)) := by
  simp only [drain, Prog.bind_eq, Prog.run_bind, Prog.run_zoom, Prog.pure_eq, Prog.run_ret]
  exact ⟨_, _, rfl⟩

theorem run_drain_window (hroom : (tx.tail - tx.head).toNat ≤ tx.cap.toNat) {buf : List UInt8}
    (hn : buf.length ≤ (tx.tail - tx.head).toNat) :
    (drain buf).run ((s, ⟨cell, rx, tx⟩) : Tick σ w L D) =
      (Cyclic.window tx.buf tx.cap.toNat tx.head.toNat buf.length,
        (s, ⟨cell, rx, SpscRing.popped buf.length tx⟩)) := by
  have hread := SpscRing.run_read_window hroom hn
  generalize hgot : Cyclic.window tx.buf tx.cap.toNat tx.head.toNat buf.length = got at hread ⊢
  have hlen : got.length = buf.length := by rw [← hgot, Cyclic.window_length]
  have hcopy : copyFromSlice buf 0 got = got := by
    rw [copyFromSlice_eq (by omega), List.take_zero, List.nil_append, Nat.zero_add, hlen,
      List.drop_length, List.append_nil]
  simp only [drain, Prog.bind_eq, Prog.run_bind, Prog.run_zoom, Prog.pure_eq, Prog.run_ret]
  change (copyFromSlice buf 0 ((SpscRing.read buf.length).run tx).1,
    (s, (⟨cell, rx, ((SpscRing.read buf.length).run tx).2⟩ : Io w L D))) = _
  rw [hread, hcopy]

theorem run_drain (hs : SpscRing.Sound tx) {buf : List UInt8}
    (hn : buf.length ≤ (SpscRing.contents tx).length) :
    (drain buf).run ((s, ⟨cell, rx, tx⟩) : Tick σ w L D) =
      ((SpscRing.contents tx).take buf.length,
        (s, ⟨cell, rx, SpscRing.popped buf.length tx⟩)) := by
  rw [SpscRing.length_contents] at hn
  rw [run_drain_window hs.room hn, SpscRing.contents, Cyclic.window_take _ _ _ hn]

end Tick

end Wiznet
