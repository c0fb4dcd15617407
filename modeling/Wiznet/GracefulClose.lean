import Wiznet.ClosingTicks
import Wiznet.TcpRuns

/-! # The graceful close

When its peer has finished, a connection that nobody asked to close is shut down
by the driver itself, once both rings and the RX buffer are seen to be empty. At
the call that sends `DISCONNECT` nothing is left on the way in either direction. -/

namespace Wiznet
open Resumption Resumption.Code Tick SpscRing LiveChip

variable {w L size : Nat} {P : Type} {i : Fin 8} {n : Nat}

/-! ## The lane -/

/-- The machine of the slot is one that nobody asked to close, and what it has
left behind, the log of commands having been `n` long. -/
def ClosesWhole (n : Nat) (i : Fin 8) (st : BackendState) (rings : SocketRings w)
    (c : LiveChip size) : Prop :=
  ∃ t, st = .tcp t ∧ t.closeRequested = false ∧
    (Unissued n i c ∨ (t.status = .closing ∨ t.status = .closed) ∧ Drained n i rings c)

/-- The same while a transfer of the slot is in flight. -/
def ClosesLater (n : Nat) (i : Fin 8) (st : BackendState) (c : LiveChip size) : Prop :=
  ∃ t, st = .tcp t ∧ t.closeRequested = false ∧ Unissued n i c

theorem idleOn_closesWhole {t : TcpSocketState} {io : Io w L (LiveChip size)} :
    IdleOn (ClosesWhole n i (.tcp t) io.rings) io.trans ↔ TcpSocketState.AtRest n i (t, io) := by
  constructor
  · rintro ⟨dev, scratch, hdev, t, heq, hreq, h⟩
    cases heq
    refine ⟨hreq, h.imp (fun h => ⟨dev, scratch, hdev, h⟩) fun h => ⟨h.1, dev, scratch, hdev, h.2⟩⟩
  · rintro ⟨hreq, ⟨dev, scratch, hdev, h⟩ | ⟨hst, dev, scratch, hdev, h⟩⟩
    · exact ⟨dev, scratch, hdev, t, rfl, hreq, .inl h⟩
    · exact ⟨dev, scratch, hdev, t, rfl, hreq, .inr ⟨hst, h⟩⟩

/-- The epilogue of a transfer sends `RECV` or `SEND`. -/
theorem keeps_epilogue_unissued (hL : 67 ≤ L) {op : BulkOp} (hop : op.block = socketBlock i) :
    Keeps (IdleOn (L := L) (Unissued n i : LiveChip size → Prop)) (W6100.epilogue op) := by
  have hwrite {address : UInt16} {m v : Nat} (hm : m ≤ 4) (hcr : address ≠ SN_CR) :
      Keeps (IdleOn (L := L) (Unissued n i : LiveChip size → Prop))
        (write ⟨address, op.block.reg⟩ (BigEndian.encode m v)) := by
    rw [hop]
    exact TcpSocketState.keeps_going_write hL hm hcr
  have hcommand {command : SocketCommand} (hc : command ≠ .disconnect) :
      Keeps (IdleOn (L := L) (Unissued n i : LiveChip size → Prop))
        (sendSockCommand op.block command) := by
    rw [hop]
    exact (passive_unissued n i).keeps_write (fun _ => ⟨command, hc, rfl⟩)
      (by rw [BigEndian.encode_length, HEADER]; omega)
  have hcommit : Keeps (IdleOn (L := L) (Unissued n i : LiveChip size → Prop))
      (W6100.commitReceive op) :=
    (hwrite (by decide) (by decide)).bind fun _ => (hcommand (by decide)).bind fun _ =>
      hwrite (by decide) (by decide)
  unfold W6100.epilogue
  split
  · exact hcommit
  · exact hcommit
  · exact (hwrite (by decide) (by decide)).bind fun _ => hcommand (by decide)

def closeTcp (hL : 67 ≤ L) (n : Nat) (i : Fin 8) : Lane w L size i where
  protocol := .tcp
  spares := SparesRegister i
  rest := ClosesWhole n i
  flight st _ _ txn := ClosesLater n i st txn.dev
  spared _ _ h _ := h
  passive _ _ := Passive.any fun _ => (Passive.beside (((passive_unissued n i).spare
    fun _ _ h => h.close).or ((passive_drained n i _).beside _)) _).beside _
  stalled {st st'} h := by
    have hsame {t : TcpSocketState} (hst : st = .tcp t) (hreq : t.closeRequested = false) :
        ∃ t', st' = .tcp t' ∧ t'.closeRequested = false ∧ t'.status = t.status := by
      subst hst
      cases st' with
      | free | udp => exact h.status.elim
      | tcp t' => exact ⟨t', rfl, h.unrequested hreq, h.status⟩
    constructor
    · rintro rings c ⟨t, hst, hreq, hrest⟩
      obtain ⟨t', hst', hreq', hstatus⟩ := hsame hst hreq
      exact ⟨t', hst', hreq', by rwa [hstatus]⟩
    · rintro op rings txn ⟨t, hst, hreq, hf⟩
      obtain ⟨t', hst', hreq', -⟩ := hsame hst hreq
      exact ⟨t', hst', hreq', hf⟩
  tick b io hp hr hblock hidle := by
    obtain ⟨t, hst⟩ : ∃ t, b.state = .tcp t := by
      obtain ⟨dev, scratch, -, t, hst, -⟩ := hidle
      exact ⟨t, hst⟩
    rw [hst] at hidle
    have hends := TcpSocketState.ends_run hL _ (idleOn_closesWhole.mp hidle)
    rw [← hblock] at hends
    have hrun := SocketBackend.run_tcp hst hr hends
    rcases hb : b.run.run io with ⟨⟨result, b'⟩, io'⟩
    rw [hb] at hrun
    obtain ⟨t', hst', hr', hresult⟩ := hrun
    dsimp only
    rw [hst']
    refine ⟨⟨rfl, hr'⟩, ?_⟩
    rcases result with e | (_ | ⟨kind, pointer, len⟩)
    · exact idleOn_closesWhole.mpr hresult
    · exact idleOn_closesWhole.mpr hresult
    · obtain ⟨hreq, txn, htxn, hun⟩ := hresult
      exact ⟨txn, htxn, t', rfl, hreq, hun⟩
  finish st op txn io hi hop hbus hf := by
    obtain ⟨t, hst, hreq, hun⟩ := hf
    have hblock := hop.block
    rw [hi] at hblock
    refine (W6100.wp_finishBulk_iff hbus).mpr ?_
    have hend {cell : Transceiver L (LiveChip size)} {rings : SocketRings w}
        (h : IdleOn (Unissued n i) cell) : IdleOn (ClosesWhole n i st rings) cell := by
      obtain ⟨dev, scratch, hdev, h⟩ := h
      exact ⟨dev, scratch, hdev, t, hst, hreq, .inl h⟩
    exact wp_mono (keeps_epilogue_unissued hL hblock _ ⟨_, _, rfl, hun⟩) (fun _ _ h => hend h)
      fun _ _ h => hend h

/-! ## What is sent at once -/

namespace LiveChip

variable {c : LiveChip size}

/-- The frame that has socket `i` send. -/
def Sends (i : Fin 8) (mosi : List UInt8) : Prop :=
  mosi = createHeader ⟨SN_CR, .socketRegister i⟩ true ++
    BigEndian.encode 1 SocketCommand.send.bits.toNat

/-- Everything stored on socket `i` has gone out. -/
def TxClear (i : Fin 8) (c : LiveChip size) : Prop :=
  Sure (Sends i) c ∧ (c.chip.sockets i).tx.used = 0

/-- The writes that do not move `Sn_TX_WR` of socket `i`. -/
def SparesTxWr (i : Fin 8) (addr : Address) (_ : List UInt8) : Prop :=
  ¬ (addr.block = .socketRegister i ∧ addr.address = SN_TX_WR0)

theorem passive_txClear (i : Fin 8) : Passive (SparesTxWr i) (TxClear i : LiveChip size → Prop) where
  pass c h := ⟨(passive_sure (SparesTxWr i) _).pass c h.1, by rw [(pass_tx c).1]; exact h.2⟩
  write c addr data hW h := by
    refine ⟨h.1, ?_⟩
    by_cases hb : addr.block = .socketTxBuffer i
    · obtain ⟨a, block⟩ := addr
      obtain rfl : block = .socketTxBuffer i := hb
      have hpoke : (c.written ⟨a, .socketTxBuffer i⟩ data).chip = c.chip.pokeTx i a data :=
        ChipState.serve_pokeTx ..
      rw [hpoke]
      simp only [ChipState.pokeTx, ChipState.modifySocket, Function.update_self]
      exact h.2
    · rcases @written_tx size i c addr data ⟨hb, hW⟩ with ⟨htx, -⟩ | ⟨htx, -⟩
      · rw [htx]
        exact h.2
      · rw [htx]
        exact ChipBuffer.used_flushed _

/-- `SEND` gets through, and nothing stays stored. -/
theorem wp_sendAll (hL : 67 ≤ L) {cell : Transceiver L (LiveChip size)}
    (hc : IdleOn (Sure (Sends i)) cell) :
    wp (sendSockCommand (socketBlock i) .send) (fun _ => IdleOn (TxClear i)) (fun _ _ => False)
      cell := by
  refine wp_mono (wp_write (passive_sure (SparesTxWr i) _).pass ⟨SN_CR, .socketRegister i⟩
    (by rw [BigEndian.encode_length, HEADER]; omega) hc) ?_ ?_
  · rintro _ _ ⟨c, scratch, rfl, hsure⟩
    refine ⟨_, scratch, rfl, hsure, ?_⟩
    have hrun : (c.written ⟨SN_CR, .socketRegister i⟩
        (BigEndian.encode 1 SocketCommand.send.bits.toNat)).chip =
        ChipState.send i { c.chip with commands := c.chip.commands ++ [(i, SocketCommand.send.bits)] } := by
      rw [written_command, decode_command]
      rfl
    rw [hrun, ChipState.send_tx]
    exact UInt16.sub_self _
  · rintro _ _ ⟨-, c, hsure, hfails⟩
    rw [hsure 0 _ rfl] at hfails
    cases hfails

/-- The pointer moves, and what it moves over goes out. -/
theorem wp_moveAndSend (hL : 67 ≤ L) (pointer : UInt16) {cell : Transceiver L (LiveChip size)}
    (hc : IdleOn (TxClear i) cell) :
    wp (do setTxWritePointer (socketBlock i) pointer; sendSockCommand (socketBlock i) .send)
      (fun _ => IdleOn (TxClear i)) (fun _ => IdleOn (TxClear i)) cell := by
  rw [wp_bind]
  refine wp_mono (wp_write (passive_txClear i).pass ⟨SN_TX_WR0, .socketRegister i⟩
    (by rw [BigEndian.encode_length, HEADER]; omega) hc) ?_ fun _ _ h => h.1
  rintro _ _ ⟨c, scratch, rfl, hclear⟩
  exact wp_mono (wp_sendAll hL ⟨_, scratch, rfl, hclear.1⟩) (fun _ _ h => h) fun _ _ h => h.elim

end LiveChip

namespace TcpSocketState

variable {J : LiveChip size → Prop} {W : Address → List UInt8 → Prop}

theorem keeps_flushLoop_passing (hL : 67 ≤ L) (hp : Passive W J)
    (hW : ∀ addr data, addr.block = .socketTxBuffer i → W addr data) (toSend fuel : Nat)
    (pointer : UInt16) (staged : Nat) :
    Keeps (fun s : Tick TcpSocketState w L (LiveChip size) => IdleOn J s.2.trans)
      (flushLoop (socketBlock i) toSend fuel pointer staged) := by
  induction fuel generalizing pointer staged with
  | zero => exact Keeps.pure _
  | succ fuel ih =>
    unfold flushLoop
    split
    · rintro ⟨t, cell, rx, tx⟩ hc
      rw [wp_onTx_bind]
      split
      · exact hc
      · rw [wp_onBus_bind]
        have hlen := SpscRing.length_run_read (min 64 (toSend - staged)) tx
        refine wp_mono (hp.keeps_write (hW _ _ rfl) (by rw [HEADER]; omega) cell hc) ?_
          fun _ _ h => h
        exact fun _ cell' h => ih _ _ (t, ⟨cell', rx, _⟩) h
    · exact Keeps.pure _

theorem keeps_clear_flushSync (hL : 67 ≤ L) :
    Keeps (fun s : Tick TcpSocketState w L (LiveChip size) => IdleOn (TxClear i) s.2.trans)
      (flushSync (socketBlock i)) := by
  have hp : Passive (SparesTxWr i) (TxClear i : LiveChip size → Prop) := passive_txClear i
  have hbuffer (addr : Address) (data : List UInt8) (hb : addr.block = .socketTxBuffer i) :
      SparesTxWr i addr data := by
    rintro ⟨hreg, -⟩
    rw [hb] at hreg
    cases hreg
  rintro ⟨t, cell, rx, tx⟩ hc
  unfold flushSync
  rw [wp_onTx_bind, run_len]
  dsimp only
  split
  · exact hc
  rw [wp_onBus_bind]
  refine wp_mono (((hp.keeps_read _ (by rw [HEADER]; omega)).map _) cell hc) ?_ fun _ _ h => h
  intro free cell₁ hc₁
  split
  · exact hc₁
  rw [wp_onBus_bind]
  refine wp_mono (((hp.keeps_read _ (by rw [HEADER]; omega)).map _) cell₁ hc₁) ?_ fun _ _ h => h
  intro pointer cell₂ hc₂
  rw [wp_bind]
  refine wp_mono (keeps_flushLoop_passing hL hp hbuffer _ _ pointer 0 _ hc₂) ?_ fun _ _ h => h
  rintro pointer' ⟨t', cell₃, rings⟩ hc₃
  have hsend := wp_moveAndSend hL pointer' hc₃
  rw [wp_bind] at hsend
  rw [wp_onBus_bind]
  refine wp_mono hsend ?_ fun _ _ h => h
  intro _ cell₄ hc₄
  rw [onBus, wp_zoom]
  exact hc₄

/-- A tick, for an invariant that its writes and bursts spare; the flush apart. -/
theorem conducts_passing (hL : 67 ≤ L) (hp : Passive W J)
    (hcontrol : ∀ addr data, Control (socketBlock i) .tcp4 addr data → W addr data)
    (hW : ∀ addr data, addr.block = .socketTxBuffer i → W addr data)
    (hflush : Keeps (fun s : Tick TcpSocketState w L (LiveChip size) => IdleOn J s.2.trans)
      (flushSync (socketBlock i))) :
    Conducts (w := w) .blind (socketBlock i)
      (fun x : Io w L (LiveChip size) × Unit => IdleOn J x.1.trans)
      fun _ _ _ x => InFlightOn J x.1.trans where
  quiet _ := hp.quiet hL hcontrol
  flush := hflush.watch
  receive := by
    let Idle (s : Tick TcpSocketState w L (LiveChip size)) : Prop := IdleOn J s.2.trans
    let Done (a : BulkAction) (s : Tick TcpSocketState w L (LiveChip size)) : Prop :=
      Reports (fun x : Io w L (LiveChip size) × Unit => IdleOn J x.1.trans)
        (fun _ _ _ x => InFlightOn J x.1.trans) a (s.2, ())
    refine Triple.watch (P := Idle) (Q := Done) (E := fun _ => Idle) fun s hs => ?_
    refine wp_mono (triple_receive_passing hL hp.pass s ⟨⟨rfl, rfl⟩, hs⟩) ?_ fun _ _ h => h.2
    rintro (_ | ⟨kind, pointer, len⟩) s' ⟨-, hs'⟩
    · exact hs'.2
    · exact hs'
  transmit := by
    let Idle (s : Tick TcpSocketState w L (LiveChip size)) : Prop := IdleOn J s.2.trans
    let Done (a : BulkAction) (s : Tick TcpSocketState w L (LiveChip size)) : Prop :=
      Reports (fun x : Io w L (LiveChip size) × Unit => IdleOn J x.1.trans)
        (fun _ _ _ x => InFlightOn J x.1.trans) a (s.2, ())
    refine Triple.watch (P := Idle) (Q := Done) (E := fun _ => Idle) fun s hs => ?_
    refine wp_mono (triple_transmit_passing hL hp hW s ⟨⟨rfl, rfl⟩, hs⟩) ?_ fun _ _ h => h.2
    rintro (_ | ⟨kind, pointer, len⟩) s' ⟨-, hs'⟩
    · exact hs'.2
    · exact hs'

end TcpSocketState

/-- Between two transfers nothing stays stored on the chip. -/
def clearTcp (hL : 67 ≤ L) (i : Fin 8) : Lane w L size i where
  protocol := .tcp
  spares := SparesTxWr i
  rest _ _ := TxClear i
  flight _ _ _ txn := TxClear i txn.dev
  spared _ _ h _ h' := h h'.1
  passive _ _ := passive_txClear i
  stalled _ := ⟨fun _ _ h => h, fun _ _ _ h => h⟩
  tick b io hp hr hblock hidle := by
    have hconducts : TcpSocketState.Conducts (w := w) (L := L) .blind (socketBlock i)
        (fun x : Io w L (LiveChip size) × Unit => IdleOn (TxClear i) x.1.trans) _ :=
      TcpSocketState.conducts_passing hL (passive_txClear i) (fun _ _ hc h => hc.txPointer h.2)
        (fun addr data hb h => by rw [hb] at h; cases h.1) (TcpSocketState.keeps_clear_flushSync hL)
    rw [← hblock] at hconducts
    have htick := SocketBackend.run_conducts (J := fun io => IdleOn (TxClear i) io.trans)
      (R := fun _ _ _ io => InFlightOn (TxClear i) io.trans) hp hr hconducts hidle
    rcases hb : b.run.run io with ⟨⟨result, b'⟩, io'⟩
    rw [hb] at htick
    obtain ⟨hslot, hresult⟩ := htick
    refine ⟨hslot, ?_⟩
    rcases result with e | (_ | ⟨kind, pointer, len⟩) <;> exact hresult
  finish _ op txn io hi hop hbus hf := by
    have hblock := hop.block
    rw [hi] at hblock
    refine (W6100.wp_finishBulk_iff hbus).mpr ?_
    have hidle : IdleOn (TxClear i) (DmaState.idle txn.dev txn.buffers : Transceiver L (LiveChip size)) :=
      ⟨_, _, rfl, hf⟩
    cases hkind : op.kind with
    | transmit =>
      rw [W6100.epilogue, hkind, hblock]
      exact wp_moveAndSend hL _ hidle
    | receive | receiveDatagram =>
      refine (passive_txClear i).keeps_epilogue hL (fun addr data _ htx _ h => ?_) _ hidle
      have htransmit := htx h.2
      rw [hkind] at htransmit
      cases htransmit

namespace W6100

variable [OutputPin P] {c₀ : LiveChip size} {s : W6100 w L (LiveChip size) P}
  {reader : Thread (SpscRing w) ConsumerCall (List UInt8)}
  {writer : Thread (SpscRing w) (List UInt8) Nat}

theorem StreamRun.clears (hL : 67 ≤ L) (h : StreamRun i c₀ s reader writer)
    (hsure : Sure (Sends i) c₀) : (clearTcp hL i).Holds s.bulk.value s.view :=
  h.holds hL rfl (fun _ _ _ => ⟨fun _ _ h => h, fun _ _ _ h => h⟩)
    (fun _ _ hopens _ _ => ⟨hsure, hopens.tx⟩) (fun _ _ _ _ h => h) fun _ _ _ _ _ h => h

/-- Behind the peer's FIN, at the call that sends `DISCONNECT` of the driver's own
accord, everything that came in has been read and everything that was written has
been sent: neither ring, nor the RX or the TX buffer of the chip holds a byte. It is
the last command of the socket in the call, so nothing of that is sent behind it. -/
theorem closed_gracefully (hs : FifoSize size) (hL : 67 ≤ L) (h : StreamRun i c₀ s reader writer)
    (hrx : Sure (MovesRx i) c₀) (htx : Sure (MovesTx i) c₀) (hsend : Sure (Sends i) c₀)
    {c : Call} (hc : ∀ call, c ≠ .handle i call) (hr : ¬ Resets s c)
    (hreq : (s.view.backend i).state.closeRequested = false) {c₁ c₂ : LiveChip size}
    (hbefore : s.device.value.transport.dev? = some c₁)
    (hafter : (s.apply c).device.value.transport.dev? = some c₂)
    (hissued : (i, SocketCommand.disconnect.bits) ∈
      c₂.chip.commands.drop c₁.chip.commands.length) :
    c₂.received i = c₀.received i ++ bytesRead reader.done ∧
      c₂.chip.sent i = c₀.chip.sent i ++ bytesWritten writer.done ∧
      ∃ before after, c₂.chip.commands.drop c₁.chip.commands.length =
        before ++ (i, SocketCommand.disconnect.bits) :: after ∧ ∀ command ∈ after, command.1 ≠ i := by
  have hclear := h.clears hL hsend
  have hnone : Unissued c₁.chip.commands.length i c₁ := by
    rw [Unissued, List.drop_length]
    exact List.not_mem_nil
  obtain ⟨t, ht⟩ : ∃ t, (s.view.backend i).state = .tcp t := by
    have hp := hclear.protocol
    cases hst : (s.view.backend i).state with
    | free | udp => rw [hst] at hp; cases hp
    | tcp t => exact ⟨t, rfl⟩
  rw [ht] at hreq
  have hstart : (closeTcp hL c₁.chip.commands.length i).Holds s.bulk.value s.view := by
    refine hclear.start rfl (fun dev hdev => ?_) fun op txn hdev => ?_
    · obtain rfl : c₁ = dev := Option.some.inj (hbefore.symm.trans hdev)
      exact ⟨t, ht, hreq, .inl hnone⟩
    · obtain rfl : c₁ = txn.dev := Option.some.inj (hbefore.symm.trans hdev)
      exact ⟨t, ht, hreq, hnone⟩
  -- after the call the bus is at rest for the socket, and nothing is left of it
  have hrun' : StreamRun i c₀ (s.apply c) reader writer := h.beside (.call c hc hr)
  have hclose := hstart.call hL (h.settled settled_of_opensStream) hc hr
  obtain ⟨hdrained, hours⟩ : Drained c₁.chip.commands.length i ((s.apply c).view.rings i) c₂ ∧
      ∀ op, (s.apply c).bulk.value = some op → op.idx ≠ i := by
    obtain ⟨dev, hdev, ⟨⟨_, -, -, hend⟩, hours⟩ | ⟨op, txn, -, -, rfl, _, -, -, hun⟩⟩ := hclose.onChip
    · obtain rfl : c₂ = dev := Option.some.inj (hafter.symm.trans hdev)
      rcases hend with hun | ⟨-, hdrained⟩
      · exact absurd hissued hun
      · exact ⟨hdrained, hours⟩
    · obtain rfl : c₂ = txn.dev := Option.some.inj (hafter.symm.trans hdev)
      exact absurd hissued hun
  obtain ⟨⟨hrxNil, htxNil⟩, ⟨-, hused⟩, hparted⟩ := hdrained
  have hstored : (c₂.chip.sockets i).tx.used = 0 := by
    obtain ⟨dev, hdev, ⟨hrest, -⟩ | ⟨op, txn, -, -, rfl, hrest⟩⟩ := (hrun'.clears hL hsend).onChip <;>
      obtain rfl := Option.some.inj (hafter.symm.trans hdev) <;> exact hrest.2
  obtain ⟨dev, hdev, hreceived⟩ := received_of_reads (hrun'.reads hs hL hrx)
  obtain rfl : c₂ = dev := Option.some.inj (hafter.symm.trans hdev)
  obtain ⟨dev, n, hdev', hsent, hstaged⟩ := accepted_of_writes (hrun'.writes hs hL htx)
  obtain rfl : c₂ = dev := Option.some.inj (hafter.symm.trans hdev')
  have hempty {b : ChipBuffer} (h : b.used = 0) : b.stored size = [] :=
    List.eq_nil_of_length_eq_zero ((ChipBuffer.stored_length ..).trans (congrArg UInt16.toNat h))
  rw [show contents ((readRing i).get (s.apply c)) = [] from hrxNil,
    show c₂.unread i = [] from hempty hused] at hreceived
  rw [show contents ((writeRing i).get (s.apply c)) = [] from htxNil, hempty hstored,
    hstaged hours, show (c₂.chip.sockets i).tx.staged size 0 = [] from rfl] at hsent
  simp only [List.append_nil] at hreceived hsent
  exact ⟨hreceived, hsent.symm, hparted hissued⟩

/-- The peer hangs up, what it sent is read, and the driver closes the connection. -/
theorem closed_gracefully_conversed :
    ∃ (c₀ c₂ : LiveChip 16) (s : W6100 8 67 (LiveChip 16) Unit), ∃ reader writer,
    StreamRun 0 c₀ s reader writer ∧ bytesRead reader.done = [1, 2, 3] ∧
      (s.apply .service).device.value.transport.dev? = some c₂ ∧
      c₂.received 0 = c₀.received 0 ++ [1, 2, 3] ∧ c₂.chip.sent 0 = c₀.chip.sent 0 ++ [9, 8] ∧
      ∃ before after, c₂.chip.commands.drop 4 =
        before ++ (0, SocketCommand.disconnect.bits) :: after ∧ ∀ command ∈ after, command.1 ≠ 0 := by
  obtain ⟨c₀, hopens, hsure⟩ := answering_opens
  have hwritten := ((StreamRun.opened hopens).beginWrite rfl [9, 8]).stepWrites 6
  have hmoved := hwritten.round (by decide +kernel) |>.round (by decide +kernel)
    |>.round (by decide +kernel) |>.round (by decide +kernel) |>.round (by decide +kernel)
    |>.round (by decide +kernel)
  have hread := (hmoved.beginRead rfl (.read 4)).stepReads 7
  obtain ⟨s, reader, writer, hrun, hbytes, hwrote, hreq, hlink, hlog, hlog'⟩ :
      ∃ (s : W6100 8 67 (LiveChip 16) Unit), ∃ reader writer, StreamRun 0 c₀ s reader writer ∧
        bytesRead reader.done = [1, 2, 3] ∧ bytesWritten writer.done = [9, 8] ∧
        (s.view.backend 0).state.closeRequested = false ∧ (s.apply .service).linkUp = true ∧
        s.device.value.transport.dev?.map (·.chip.commands.length) = some 4 ∧
        (s.apply .service).device.value.transport.dev?.map (·.chip.commands.drop 4) =
          some [(0, SocketCommand.disconnect.bits)] :=
    ⟨_, _, _, hread, by decide +kernel, by decide +kernel, by decide +kernel, by decide +kernel,
      by decide +kernel, by decide +kernel⟩
  obtain ⟨c₁, hbefore, hlength⟩ := Option.map_eq_some_iff.mp hlog
  obtain ⟨c₂, hafter, hissued⟩ := Option.map_eq_some_iff.mp hlog'
  have hservice : ∀ call, Call.service ≠ .handle 0 call := nofun
  have hclosed := closed_gracefully ⟨by decide, by decide⟩ (by decide) hrun
    (fun n mosi _ => hsure n mosi) (fun n mosi _ => hsure n mosi) (fun n mosi _ => hsure n mosi)
    hservice (not_resets nofun hlink) hreq hbefore hafter (by rw [hlength, hissued]; exact .head _)
  rw [hbytes, hwrote, hlength] at hclosed
  exact ⟨c₀, c₂, s, reader, writer, hrun, hbytes, hafter, hclosed⟩

end W6100

end Wiznet
