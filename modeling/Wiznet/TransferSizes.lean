import Wiznet.FaultFree
import Wiznet.Ownership
import Wiznet.Driver

/-! # Transfer sizes

Two of the three sizes that bound a transfer of an established connection go
into its length, the ring and the buffer on the chip. The third one, the
scratch, only decides whether the start fails: a length that does not fit is
tried again, and stored as an error again, in every tick. -/

namespace Wiznet
open Resumption Resumption.Code Tick

variable {w L : Nat} {D : Type} [SpiDmaDevice D]

namespace TcpSocketState

/-- What a tick of an established connection reads before it moves data. -/
structure Registers where
  interrupts : SocketInterrupt
  status : SocketStatusRegister
  /-- `Sn_RX_RSR`. -/
  received : UInt16
  /-- `Sn_TX_FSR`. -/
  free : UInt16

/-- The reads, in the order of a tick. -/
def look (block : BlockAddress) : Code Error (Transceiver L D) Registers := do
  let interrupts ← getInterrupts block
  (if interrupts.contains .DISCON then clearInterrupts block .DISCON else pure ())
  let status ← readStatus block
  let received ← getRxReceivedSize block
  let free ← getTxFreeSize block
  pure ⟨interrupts, status, received, free⟩

/-- How much can go from the chip into the rx ring. -/
def receivable (received : UInt16) (rings : SocketRings w) : Nat :=
  min received.toNat (SpscRing.free.run rings.rx).1.toNat

/-- How much can go from the tx ring to the chip. -/
def sendable (free : UInt16) (rings : SocketRings w) : Nat :=
  min (SpscRing.len.run rings.tx).1.toNat free.toNat

/-- The length of the transfer that a tick is after. -/
def transferLen (regs : Registers) (rings : SocketRings w) : Nat :=
  if 0 < receivable regs.received rings then receivable regs.received rings
  else sendable regs.free rings

/-- A tick that put a transfer of 1 to `bound` bytes on the bus. -/
def Starts (block : BlockAddress) (kind : BulkKind) (bound : Nat)
    (out : Except Error BulkAction × Tick TcpSocketState w L D) : Prop :=
  ∃ pointer len, out.1 = .ok (.started kind pointer len) ∧ 1 ≤ len ∧ len ≤ bound ∧
    Launched none block kind pointer len out.2.2.trans

/-- An established connection moves data when both sides have room, and does
not run into an error over it. -/
structure MovesData (block : BlockAddress) (regs : Registers) (t : TcpSocketState)
    (io : Io w L D) : Prop where
  receives : 0 < receivable regs.received io.rings →
    Starts block .receive (receivable regs.received io.rings) (exec (run block) (t, io))
  transmits : receivable regs.received io.rings = 0 → 0 < sendable regs.free io.rings →
    Starts block .transmit (sendable regs.free io.rings) (exec (run block) (t, io))
  fits : (exec (handleEstablished block) (t, io)).1 ≠ .error (.other .scratchBufferOverrun)
  noError : (exec (run block) (t, io)).2.1.pendingError = t.pendingError

/-! ## The two directions -/

section Directions

variable {I : D → Prop} {block : BlockAddress} {t : TcpSocketState} {cell cell₁ : Transceiver L D}
  {rings : SocketRings w}

/-- What may come of `n` bytes to move. -/
structure Settles (block : BlockAddress) (kind : BulkKind) (n : Nat) (t : TcpSocketState)
    (out : Except Error BulkAction × Tick TcpSocketState w L D) : Prop where
  pendingError : out.2.1.pendingError = t.pendingError
  none : n = 0 → out.1 = .ok .none
  started : 0 < n → HEADER + n ≤ L → Starts block kind n out
  overrun : L < HEADER + n → out.1 = .error (.other .scratchBufferOverrun)

theorem exec_receive (t : TcpSocketState) (rings : SocketRings w) (hI : Reliable I)
    (hL : 11 ≤ L) {received : UInt16}
    (hreceived : exec (getRxReceivedSize block) cell = (.ok received, cell₁))
    (hi : IdleOn I cell₁) :
    let out := exec (receive block) (t, ⟨cell, rings⟩)
    Settles block .receive (receivable received rings) t out ∧
      (receivable received rings = 0 → out.2 = (t, ⟨cell₁, rings⟩)) := by
  obtain ⟨rx, tx⟩ := rings
  have hn : receivable received (⟨rx, tx⟩ : SocketRings w) =
      min received.toNat (SpscRing.free.run rx).1.toNat := rfl
  dsimp only
  generalize receivable received (⟨rx, tx⟩ : SocketRings w) = n at hn ⊢
  rw [receive, exec_onBus_ok hreceived]
  by_cases hz : n = 0
  · -- nothing is there, or there is no room for it
    subst hz
    have hend : ∀ out : Except Error BulkAction × Tick TcpSocketState w L D,
        out = (.ok .none, (t, ⟨cell₁, rx, tx⟩)) →
        Settles block .receive 0 t out ∧ (0 = 0 → out.2 = (t, ⟨cell₁, rx, tx⟩)) := by
      rintro _ rfl
      exact ⟨⟨rfl, fun _ => rfl, fun h => absurd h (Nat.lt_irrefl 0),
        fun h => by simp only [HEADER] at h; omega⟩, fun _ => rfl⟩
    apply hend
    by_cases havailable : received.toNat = 0
    · rw [if_pos havailable]
      rfl
    · rw [if_neg havailable, exec_onRx_bind]
      dsimp only
      rw [if_pos hn.symm]
      rfl
  · have havailable : received.toNat ≠ 0 := by omega
    rw [if_neg havailable, exec_onRx_bind]
    dsimp only
    rw [← hn, if_neg hz]
    obtain ⟨pointer, cell₂, hpointer, hi₂⟩ :=
      hI.exec_readU16 ⟨SN_RX_RD0, block.reg⟩ hi hL
    rw [exec_onBus_ok (show exec (getRxReadPointer block) cell₁ = _ from hpointer),
      exec_onBus_bind]
    refine ⟨?_, fun h => absurd h hz⟩
    by_cases hfit : HEADER + n ≤ L
    · obtain ⟨txn, hstart, hcarries⟩ :=
        hI.exec_startRead ⟨pointer, block.rx⟩ hi₂ hfit
      rw [show exec (startReadRxBuffer block pointer n) cell₂ = _ from hstart]
      refine ⟨rfl, fun h => absurd h hz, fun hpos _ => ?_, fun h => by omega⟩
      exact ⟨pointer, n, rfl, hpos, Nat.le_refl n, rfl, txn, rfl, hcarries⟩
    · rw [show exec (startReadRxBuffer block pointer n) cell₂ = _ from
        hi₂.exec_startRead_overrun (Nat.lt_of_not_le hfit)]
      exact ⟨rfl, fun h => absurd h hz, fun _ h => absurd h hfit, fun _ => rfl⟩

theorem exec_transmit (t : TcpSocketState) (rings : SocketRings w) (hI : Reliable I)
    (hL : 11 ≤ L) {free : UInt16}
    (hfree : exec (getTxFreeSize block) cell = (.ok free, cell₁))
    (hi : IdleOn I cell) (hi₁ : IdleOn I cell₁) :
    let out := exec (transmit block) (t, ⟨cell, rings⟩)
    Settles block .transmit (sendable free rings) t out ∧
      (sendable free rings = 0 → IdleOn I out.2.2.trans) := by
  obtain ⟨rx, tx⟩ := rings
  have hn : sendable free (⟨rx, tx⟩ : SocketRings w) =
      min (SpscRing.len.run tx).1.toNat free.toNat := rfl
  dsimp only
  generalize sendable free (⟨rx, tx⟩ : SocketRings w) = n at hn ⊢
  obtain ⟨pending, hpending⟩ : ∃ pending, SpscRing.len.run tx = (pending, tx) :=
    ⟨_, SpscRing.run_len tx⟩
  rw [transmit, exec_onTx_bind, hpending]
  rw [hpending] at hn
  have hend : ∀ (cell' : Transceiver L D), IdleOn I cell' → n = 0 →
      Settles block .transmit n t
        ((.ok .none, (t, ⟨cell', rx, tx⟩)) :
          Except Error BulkAction × Tick TcpSocketState w L D) ∧ (n = 0 → IdleOn I cell') := by
    intro cell' hi' hz
    subst hz
    exact ⟨⟨rfl, fun _ => rfl, fun h => absurd h (Nat.lt_irrefl 0),
      fun h => by simp only [HEADER] at h; omega⟩, fun _ => hi'⟩
  dsimp only at hn ⊢
  by_cases hempty : pending = 0
  · -- nothing to send: the chip is not asked
    rw [if_pos hempty]
    refine hend cell hi ?_
    rw [hn, hempty]
    exact Nat.zero_min _
  rw [if_neg hempty, exec_onBus_ok hfree, ← hn]
  by_cases hz : n = 0
  · rw [if_pos hz]
    exact hend cell₁ hi₁ hz
  · rw [if_neg hz]
    obtain ⟨pointer, cell₂, hpointer, hi₂⟩ :=
      hI.exec_readU16 ⟨SN_TX_WR0, block.reg⟩ hi₁ hL
    rw [exec_onBus_ok (show exec (getTxWritePointer block) cell₁ = _ from hpointer)]
    refine ⟨?_, fun h => absurd h hz⟩
    generalize hfill : (fun buf => do
      let got ← Prog.zoom Tick.tx (SpscRing.read buf.length)
      pure (copyFromSlice buf 0 got) :
        List UInt8 → Prog (Tick TcpSocketState w L D) (List UInt8)) = fill
    by_cases hfit : HEADER + n ≤ L
    · obtain ⟨txn, buf, -, hstart, hcarries, -⟩ := hI.exec_startWrite bus ⟨pointer, block.tx⟩
        (s := (t, ⟨cell₂, rx, tx⟩)) hi₂ hfit fill
      rw [exec_bind_ok (show exec (startWriteTxBuffer bus block pointer n fill) _ = _ from hstart)]
      refine ⟨?_, fun h => absurd h hz, fun hpos _ => ?_, fun h => by omega⟩
      · subst hfill
        simp only [Prog.bind_eq, Prog.run_bind, Prog.run_zoom, Prog.pure_eq, Prog.run_ret]
        rfl
      · exact ⟨pointer, n, rfl, hpos, Nat.le_refl n, rfl, txn, rfl, hcarries⟩
    · rw [exec_bind_error (show exec (startWriteTxBuffer bus block pointer n fill) _ = _ from
        IdleOn.exec_startWrite_overrun bus hi₂ (Nat.lt_of_not_le hfit))]
      exact ⟨rfl, fun h => absurd h hz, fun _ h => absurd h hfit, fun _ => rfl⟩

end Directions

/-! ## The tick -/

section Whole

variable {I : D → Prop} {block : BlockAddress} {t : TcpSocketState} {cell cell' : Transceiver L D}
  {rings : SocketRings w} {regs : Registers}

omit [SpiDmaDevice D] in
/-- A direction that has something to move is the end of the tick. -/
theorem Settles.orElse {kind : BulkKind} {n : Nat} {io : Io w L D}
    {c d : Code Error (Tick TcpSocketState w L D) BulkAction}
    (hc : Settles block kind n t (exec c (t, io))) (hn : n ≠ 0) :
    Settles block kind n t (exec (do
      match ← c with
      | .started kind pointer len => pure (.started kind pointer len)
      | .none => d) (t, io)) := by
  have hpos : 0 < n := Nat.pos_of_ne_zero hn
  rw [exec_bind]
  by_cases hfit : HEADER + n ≤ L
  · obtain ⟨pointer, len, hok, hrest⟩ := hc.started hpos hfit
    rcases hx : exec c (t, io) with ⟨r, s⟩
    rw [hx] at hc hok hrest
    obtain rfl : r = .ok (.started kind pointer len) := hok
    exact ⟨hc.pendingError, fun h => absurd h hn, fun _ _ => ⟨pointer, len, rfl, hrest⟩,
      fun h => by omega⟩
  · have herr := hc.overrun (Nat.lt_of_not_le hfit)
    rcases hx : exec c (t, io) with ⟨r, s⟩
    rw [hx] at hc herr
    obtain rfl : r = .error (.other .scratchBufferOverrun) := herr
    exact ⟨hc.pendingError, fun h => absurd h hn, fun _ h => absurd h hfit, fun _ => rfl⟩

/-- Behind two directions without anything to move. -/
theorem exec_lastLook (hI : Reliable I) (hL : 11 ≤ L) {io : Io w L D} (hi : IdleOn I io.trans)
    {t' : TcpSocketState} (ht : t'.pendingError = t.pendingError) (kind : BulkKind) :
    Settles block kind 0 t (exec (do
      let txLen ← onTx SpscRing.len
      let rxLen ← onRx SpscRing.len
      if txLen = 0 ∧ rxLen = 0 then do
        let size ← onBus (getRxReceivedSize block)
        if size.toNat = 0 then do
          onBus (sendSockCommand block .disconnect)
          modifySelf (withStatus .closing)
          pure .none
        else pure .none
      else pure .none) (t', io)) := by
  have hend : ∀ t' : TcpSocketState, t'.pendingError = t.pendingError → ∀ io : Io w L D,
      Settles block kind 0 t
        ((.ok .none, (t', io)) : Except Error BulkAction × Tick TcpSocketState w L D) := by
    intro t' ht io
    exact ⟨ht, fun _ => rfl, fun h => absurd h (Nat.lt_irrefl 0),
      fun h => by simp only [HEADER] at h; omega⟩
  obtain ⟨cell, rx, tx⟩ := io
  rw [exec_onTx_bind, exec_onRx_bind]
  split
  · obtain ⟨size, cell₁, hsize, hi₁⟩ := hI.exec_readU16 ⟨SN_RX_RSR0, block.reg⟩ hi hL
    rw [exec_onBus_ok (show exec (getRxReceivedSize block) cell = _ from hsize)]
    split
    · obtain ⟨cell₂, hwrite, -⟩ := hI.exec_writeReg ⟨SN_CR, block.reg⟩
        SocketCommand.disconnect.bits.toNat hi₁ hL (show 1 ≤ 4 by omega)
      rw [exec_onBus_ok (show exec (sendSockCommand block .disconnect) cell₁ = _ from hwrite)]
      exact hend (withStatus .closing t') ht _
    · exact hend t' ht _
  · exact hend t' ht _

theorem exec_handleEstablished (t : TcpSocketState) (rings : SocketRings w)
    (hI : Reliable I) (hL : 11 ≤ L) (hi : IdleOn I cell)
    (hlook : exec (look block) cell = (.ok regs, cell'))
    (htimeout : regs.interrupts.contains .TIMEOUT = false)
    (hstatus : regs.status = .established ∨ regs.status = .closeWait) :
    Settles block (if 0 < receivable regs.received rings then .receive else .transmit)
      (transferLen regs rings) t (exec (handleEstablished block) (t, ⟨cell, rings⟩)) := by
  obtain ⟨interrupts, cell₁, hinterrupts, hlook⟩ := exec_bind_eq_ok.mp hlook
  obtain ⟨⟨⟩, cell₂, hclear, hlook⟩ := exec_bind_eq_ok.mp hlook
  obtain ⟨status, cell₃, hsr, hlook⟩ := exec_bind_eq_ok.mp hlook
  obtain ⟨received, cell₄, hreceived, hlook⟩ := exec_bind_eq_ok.mp hlook
  obtain ⟨free, cell₅, hfree, hlook⟩ := exec_bind_eq_ok.mp hlook
  cases hlook
  dsimp only at htimeout hstatus ⊢
  have hk := hI.toDeviceInvariant
  have hi₁ : IdleOn I cell₁ := (((keeps_idleOn_read hk _ _).map _).map _).ok hi hinterrupts
  have hi₂ : IdleOn I cell₂ := by
    refine Keeps.ok ?_ hi₁ hclear
    split
    · exact keeps_idleOn_write hk _ _
    · exact Keeps.pure _
  have hi₃ : IdleOn I cell₃ := (((keeps_idleOn_read hk _ _).map _).map _).ok hi₂ hsr
  have hi₄ : IdleOn I cell₄ := ((keeps_idleOn_read hk _ _).map _).ok hi₃ hreceived
  have hi' : IdleOn I cell' := ((keeps_idleOn_read hk _ _).map _).ok hi₄ hfree
  have hclear' : exec (if interrupts.contains .DISCON then
        onBus (clearInterrupts block .DISCON) else pure ()) (t, ⟨cell₁, rings⟩) =
      (.ok (), ((t, ⟨cell₂, rings⟩) : Tick TcpSocketState w L D)) := by
    split at hclear
    next hd => rw [if_pos hd, exec_onBus, hclear]
    next hd =>
      rw [if_neg hd]
      cases hclear
      rfl
  obtain ⟨hrecv, hstay⟩ := exec_receive t rings hI hL hreceived hi₄
  obtain ⟨hsend, hidle⟩ := exec_transmit t rings hI hL hfree hi₄ hi'
  have htimeout' : ¬ interrupts.contains .TIMEOUT = true := by
    rw [htimeout]
    exact nofun
  rw [handleEstablished, exec_onBus_ok hinterrupts, if_neg htimeout', exec_bind_ok hclear',
    exec_onBus_ok hsr, transferLen]
  by_cases hz : receivable received rings = 0
  · -- nothing came off the chip: the other direction has its turn
    have hz₀ : ¬ 0 < receivable received rings := by omega
    rw [if_neg hz₀, if_neg hz₀]
    have hnone : exec (receive block) (t, ⟨cell₃, rings⟩) = (.ok .none, (t, ⟨cell₄, rings⟩)) :=
      Prod.ext (hrecv.none hz) (hstay hz)
    rcases hstatus with rfl | rfl
    · dsimp only
      rw [exec_bind_ok hnone]
      exact hsend
    · dsimp only
      rw [exec_bind_ok hnone]
      dsimp only
      by_cases hz' : sendable free rings = 0
      · rcases hx : exec (transmit block) (t, ⟨cell₄, rings⟩) with ⟨r, t', io⟩
        rw [hx] at hsend hidle
        obtain rfl : r = .ok .none := hsend.none hz'
        rw [exec_bind_ok hx, hz']
        exact exec_lastLook hI hL (hidle hz') hsend.pendingError .transmit
      · exact hsend.orElse hz'
  · have hpos := Nat.pos_of_ne_zero hz
    rw [if_pos hpos, if_pos hpos]
    rcases hstatus with rfl | rfl <;> exact hrecv.orElse hz

theorem exec_run {io : Io w L D} (ht : t.status = .established) (hc : t.closeRequested = false) :
    exec (run block) (t, io) =
      match exec (handleEstablished block) (t, io) with
      | (.ok action, s) => (.ok action, s)
      | (.error .wouldBlock, s) => (.error .wouldBlock, s)
      | (.error e, s) => (.ok .none, ({ s.1 with pendingError := some e }, s.2)) := by
  have hself : exec self ((t, io) : Tick TcpSocketState w L D) = (.ok t, (t, io)) := rfl
  have hdispatch : dispatch (w := w) (L := L) (D := D) block t = handleEstablished block := by
    rw [dispatch, hc, ht]
    rfl
  rw [run, exec_bind_ok hself, exec_bind, exec_outcome, hdispatch]
  rcases exec (handleEstablished block) (t, io) with ⟨(_ | e) | action, s⟩ <;> rfl

/-- On a bus without faults an established connection moves data exactly as long
as the transfer it is after fits the scratch. -/
theorem movesData_iff (hI : Reliable I) (hL : 11 ≤ L) (hi : IdleOn I cell)
    (ht : t.status = .established) (hc : t.closeRequested = false)
    (hlook : exec (look block) cell = (.ok regs, cell'))
    (htimeout : regs.interrupts.contains .TIMEOUT = false)
    (hstatus : regs.status = .established ∨ regs.status = .closeWait) :
    MovesData block regs t ⟨cell, rings⟩ ↔ HEADER + transferLen regs rings ≤ L := by
  have hsettles := exec_handleEstablished t rings hI hL hi hlook htimeout hstatus
  constructor
  · intro h
    by_contra hlong
    exact h.fits (hsettles.overrun (Nat.lt_of_not_le hlong))
  · intro hfit
    -- nothing goes wrong, and so `run` adds nothing
    have hok : ∃ action s, exec (handleEstablished block) (t, ⟨cell, rings⟩) = (.ok action, s) := by
      rcases hx : exec (handleEstablished block) (t, ⟨cell, rings⟩) with ⟨r, s⟩
      rw [hx] at hsettles
      rcases Nat.eq_zero_or_pos (transferLen regs rings) with hz | hpos
      · exact ⟨_, s, Prod.ext (hsettles.none hz) rfl⟩
      · obtain ⟨pointer, len, hstarted, -⟩ := hsettles.started hpos hfit
        exact ⟨_, s, Prod.ext hstarted rfl⟩
    obtain ⟨action, s, hx⟩ := hok
    have hrun : exec (run block) (t, ⟨cell, rings⟩) = (.ok action, s) := by
      rw [exec_run ht hc, hx]
    rw [hx] at hsettles
    refine ⟨fun hpos => ?_, fun hz hpos => ?_, ?_, ?_⟩
    · rw [transferLen, if_pos hpos] at hsettles hfit
      rw [if_pos hpos] at hsettles
      rw [hrun]
      exact hsettles.started hpos hfit
    · have hz₀ : ¬ 0 < receivable regs.received rings := by
        dsimp only at hz
        omega
      rw [transferLen, if_neg hz₀] at hsettles hfit
      rw [if_neg hz₀] at hsettles
      rw [hrun]
      exact hsettles.started hpos hfit
    · rw [hx]
      exact nofun
    · rw [hrun]
      exact hsettles.pendingError

end Whole

/-! ## Ticks with the smallest scratch -/

/-- The chip has `n` bytes for a ring of 128 bytes, and a scratch of 67 bytes
lies between them. -/
def waitingBytes (n : UInt8) : Io 32 67 Scripted :=
  ⟨.idle ⟨[some [0], some [0x17], some [0, n]]⟩ (zeroScratch 67),
    { SocketRings.new with rx := { SpscRing.new with cap := 128 } }⟩

/-- What the tick reads of them. -/
def seenBytes (n : UInt8) : Registers := ⟨⟨0⟩, .established, n.toUInt16, 0⟩

def established : TcpSocketState := { TcpSocketState.listen 80 with status := .established }

/-- 64 bytes are what the scratch has room for. -/
theorem movesData_full :
    MovesData (socketBlock 0) (seenBytes 64) established (waitingBytes 64) ↔
      HEADER + transferLen (seenBytes 64) (waitingBytes 64).rings ≤ 67 :=
  movesData_iff reliable_scripted (by decide) ⟨_, _, rfl, by decide⟩ rfl rfl (Prod.ext rfl rfl)
    rfl (.inl rfl)

/-- 65 bytes are on the chip and the ring is empty, but the tick starts nothing
and stores an error. -/
theorem overrun_stored :
    (exec (look (socketBlock 0)) (waitingBytes 65).trans).1 = .ok (seenBytes 65) ∧
      receivable 65 (waitingBytes 65).rings = 65 ∧
      ¬ MovesData (socketBlock 0) (seenBytes 65) established (waitingBytes 65) := by
  refine ⟨rfl, by decide, fun h => ?_⟩
  exact absurd h.noError (by decide)

end TcpSocketState

end Wiznet
