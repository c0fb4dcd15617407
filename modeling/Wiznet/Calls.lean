import Wiznet.BulkRecord

/-! # Any sequence of calls

The entry points and the handle operations as one alphabet, each run to
completion. Whatever is called in whatever order, and however the bus and the
reset line fail, the driver is settled after every call. -/

namespace Wiznet
open Resumption Resumption.Code

variable {w L : Nat} {D P α : Type}

/-! ## Handle operations on a slot -/

theorem keeps_slot_withBackend {i : Fin 8} {f : SocketBackend → α × SocketBackend}
    (hf : ∀ b, (f b).2.block = b.block) :
    Keeps (SlotSettled i) (Socket.withBackend f : Code Error (Socket w) α) := by
  refine triple_holding (fun _ h => h.free) (Keeps.always fun x hx => ?_)
  rw [Prog.run_zoom]
  exact ⟨rfl, (hf _).trans hx.block⟩

theorem keeps_slot_ring {i : Fin 8} (l : Lens (SocketRings w) (SpscRing w))
    (p : Prog (SpscRing w) α) :
    Keeps (SlotSettled i)
      (Code.always (Prog.zoom (Socket.ringsLens.comp l) p) : Code Error (Socket w) α) :=
  Keeps.always fun x hx => by rw [Prog.run_zoom]; exact ⟨hx.free, hx.block⟩

namespace SocketBackend

@[simp] theorem mapTcp_block (f : TcpSocketState → TcpSocketState) (b : SocketBackend) :
    (b.mapTcp f).block = b.block := by
  unfold mapTcp
  split <;> rfl

@[simp] theorem mapUdp_block (f : UdpSocketState → UdpSocketState) (b : SocketBackend) :
    (b.mapUdp f).block = b.block := by
  unfold mapUdp
  split <;> rfl

@[simp] theorem claim_block (state : BackendState) (b : SocketBackend) :
    (claim state b).2.block = b.block := by
  unfold claim
  split <;> rfl

end SocketBackend

/-- A call that holds the slot, seen as if it were free. -/
theorem keeps_slot_held {i : Fin 8} {p : Prog (Socket w) α}
    (h : ∀ x, SlotSettled i (setBusy Socket.backendLens false x) →
      SlotSettled i (setBusy Socket.backendLens false (p.run x).2)) :
    Keeps (fun x => SlotSettled i (setBusy Socket.backendLens false x))
      (Code.always p : Code Error (Socket w) α) := Keeps.always h

theorem keeps_slot_tryOpen {i : Fin 8} (state : BackendState) (rx tx : List UInt8) :
    Keeps (SlotSettled i)
      (Socket.tryOpen (SocketBackend.claim state) rx tx : Code Error (Socket w) Bool) := by
  refine triple_holding (fun _ h => h.free) ?_
  refine Keeps.bind (keeps_slot_held fun _ h => h) fun b => ?_
  split
  · refine Keeps.bind (keeps_slot_held fun x h => ?_) fun _ =>
      Keeps.bind (keeps_slot_held fun x h => ?_) fun _ => Keeps.pure _
    · rw [Prog.run_zoom]
      exact ⟨h.free, h.block⟩
    · rw [Prog.run_zoom]
      exact ⟨rfl, (SocketBackend.claim_block state _).trans h.block⟩
  · exact Keeps.pure _

theorem keeps_slot_reconnect {i : Fin 8} :
    Keeps (SlotSettled i) (TcpSocket.reconnect : Code Error (Socket w) Unit) ∧
      Keeps (SlotSettled i) (UdpSocket.reconnect : Code Error (Socket w) Unit) := by
  constructor <;>
  · refine triple_holding (fun _ h => h.free) ?_
    refine Keeps.bind (keeps_slot_held fun _ h => h) fun b => ?_
    split
    · refine Keeps.bind (keeps_slot_held fun x h => ?_) fun _ => keeps_slot_held fun x h => ?_
      · rw [Prog.run_zoom]
        exact ⟨rfl, by simpa [cellValue, setBusy, Socket.backendLens] using h.block⟩
      · rw [Prog.run_zoom]
        exact ⟨h.free, h.block⟩
    · exact Keeps.pure _

namespace W6100

/-! ## One transfer, correctly recorded -/

/-- The transport is never left pending, it holds a transfer exactly when one is
recorded, and the record is the frame on the bus. -/
structure Recorded (s : W6100 w L D P) : Prop where
  notPending : s.device.value.transport ≠ .pending
  inFlight : (∃ txn, s.device.value.transport = .inFlight txn) ↔ s.bulk.value.isSome
  frame : ∀ op txn, s.bulk.value = some op → s.device.value.transport = .inFlight txn →
    op.block = socketBlock op.idx ∧ txn.buffers.len = HEADER + op.len ∧
      ∃ payload, payload.length = op.len ∧ txn.buffers.mosi =
        (match op.kind with
          | .receive | .receiveDatagram _ _ =>
            createHeader ⟨op.pointer, .socketRxBuffer op.idx⟩ false
          | .transmit => createHeader ⟨op.pointer, .socketTxBuffer op.idx⟩ true) ++ payload

theorem Settled.truthful {s : W6100 w L D P} (h : Settled s) : Recorded s := by
  obtain ⟨-, held, marker, ha, hi⟩ := h
  have hbulk : s.bulk.value = marker := by rw [hi.bulk]
  cases held with
  | none =>
    obtain ⟨dev, scratch, hidle⟩ := hi.bus
    cases marker with
    | some op => exact ha.elim
    | none => exact ⟨by simp [hidle], by simp [hidle, hbulk], by simp [hidle]⟩
  | some txn =>
    have hbus : s.device.value.transport = .inFlight txn := hi.bus
    cases marker with
    | none => exact ha.elim
    | some op =>
      refine ⟨by simp [hbus], by simp [hbus, hbulk], fun op' txn' hop htxn => ?_⟩
      rw [hbulk] at hop
      rw [hbus] at htxn
      cases hop
      cases htxn
      obtain ⟨payload, hlen, hmosi⟩ := ha.frame.frame
      refine ⟨ha.block, ha.frame.window, payload, hlen, ?_⟩
      rw [hmosi, ha.block]
      cases op.kind <;> rfl

end W6100

/-! ## The alphabet -/

/-- One call on a handle. -/
inductive HandleCall where
  | tcpRead (n : Nat)
  | tcpWrite (src : List UInt8)
  | tcpStatus
  | tcpClose
  | tcpReconnect
  | tcpDrop
  | udpRecvFrom (dstLen : Nat)
  | udpSendTo (src : List UInt8) (dst : SocketAddr)
  | udpStatus
  | udpClose
  | udpReconnect
  | udpDrop

/-- What a handle call does to its socket. -/
def HandleCall.apply (x : Socket w) : HandleCall → Socket w
  | .tcpRead n => (exec (TcpSocket.read n) x).2
  | .tcpWrite src => (exec (TcpSocket.write src) x).2
  | .tcpStatus => (exec TcpSocket.status x).2
  | .tcpClose => (exec TcpSocket.close x).2
  | .tcpReconnect => (exec TcpSocket.reconnect x).2
  | .tcpDrop => (exec TcpSocket.drop x).2
  | .udpRecvFrom dstLen => (exec (UdpSocket.recv dstLen) x).2
  | .udpSendTo src dst => (exec (UdpSocket.send src dst) x).2
  | .udpStatus => (exec UdpSocket.status x).2
  | .udpClose => (exec UdpSocket.close x).2
  | .udpReconnect => (exec UdpSocket.reconnect x).2
  | .udpDrop => (exec UdpSocket.drop x).2

/-- One call on the driver. -/
inductive Call where
  | service
  | run
  | dmaComplete
  | reset
  | isLinkUp
  | setupNetwork (sourceAddr gatewayAddress mask : UInt32)
  | setNetworkConfig (config : NetworkConfig)
  | openTcpConnect (addr : UInt32) (port srcPort : UInt16) (rx tx : List UInt8)
  | openTcpListen (port : UInt16) (rx tx : List UInt8)
  | openUdp (srcPort : UInt16) (rx tx : List UInt8)
  | handle (i : Fin 8) (call : HandleCall)

theorem SlotSettled.handleCall {i : Fin 8} {x : Socket w} (h : SlotSettled i x) (c : HandleCall) :
    SlotSettled i (c.apply x) := by
  cases c with
  | tcpRead n => exact (keeps_slot_ring _ _).exec h
  | tcpWrite src => exact (keeps_slot_ring _ _).exec h
  | tcpStatus => exact (keeps_slot_withBackend fun b => by split <;> rfl).exec h
  | tcpClose => exact (keeps_slot_withBackend fun b => b.mapTcp_block _).exec h
  | tcpReconnect => exact keeps_slot_reconnect.1.exec h
  | tcpDrop =>
    exact ((keeps_slot_withBackend fun _ => rfl).outcome.bind fun _ => Keeps.pure _).exec h
  | udpRecvFrom dstLen => exact (keeps_slot_ring _ _).exec h
  | udpSendTo src dst => exact (keeps_slot_ring _ _).exec h
  | udpStatus => exact (keeps_slot_withBackend fun b => by split <;> rfl).exec h
  | udpClose => exact (keeps_slot_withBackend fun b => b.mapUdp_block _).exec h
  | udpReconnect => exact keeps_slot_reconnect.2.exec h
  | udpDrop =>
    exact ((keeps_slot_withBackend fun _ => rfl).outcome.bind fun _ => Keeps.pure _).exec h

namespace W6100

variable {held : Option (Transaction L D)} {marker : Option BulkOp}

theorem Ready.setSocket {s : W6100 w L D P} (h : Ready held marker s) {i : Fin 8} {x : Socket w}
    (hx : SlotSettled i x) : Ready held marker ((socketLens i).set x s) :=
  ⟨h.device, h.inside.setSocket hx⟩

theorem keeps_ready_setNetworkConfig (config : NetworkConfig) :
    Keeps (Ready held marker) (setNetworkConfig config : Code Error (W6100 w L D P) Unit) := by
  refine Keeps.bind (triple_holding (fun _ h => h.inside.config) (Keeps.always fun s h => ?_))
    fun _ => Keeps.always fun s h => h.flags s.linkUp true
  exact ⟨h.device, h.inside.bus, h.inside.bulk, rfl, h.inside.slots⟩

theorem keeps_ready_openSlot (state : BackendState) (rx tx : List UInt8) (slots : List (Fin 8)) :
    Keeps (Ready held marker)
      (openSlot (SocketBackend.claim state) rx tx slots : Code Error (W6100 w L D P) (Fin 8)) := by
  induction slots with
  | nil => exact Keeps.throw _
  | cons i rest ih =>
    refine Keeps.bind (Keeps.outcome fun s hs => ?_) fun claimed => ?_
    · rw [wp_zoom]
      have hslot := keeps_slot_tryOpen (w := w) (i := i) state rx tx _ (hs.inside.slots i)
      exact wp_mono hslot (fun _ _ hx => hs.setSocket hx) fun _ _ hx => hs.setSocket hx
    · split
      · exact Keeps.pure _
      · exact ih

variable [SpiDmaDevice D] [OutputPin P]

/-- The driver after a call, whatever the call answers. -/
def apply (s : W6100 w L D P) : Call → W6100 w L D P
  | .service => (exec service s).2
  | .run => (exec run s).2
  | .dmaComplete => (exec dmaComplete s).2
  | .reset => (exec reset s).2
  | .isLinkUp => (exec isLinkUp s).2
  | .setupNetwork sourceAddr gatewayAddress mask =>
    (exec (setupNetwork sourceAddr gatewayAddress mask) s).2
  | .setNetworkConfig config => (exec (setNetworkConfig config) s).2
  | .openTcpConnect addr port srcPort rx tx => (exec (openTcpConnect addr port srcPort rx tx) s).2
  | .openTcpListen port rx tx => (exec (openTcpListen port rx tx) s).2
  | .openUdp srcPort rx tx => (exec (openUdp srcPort rx tx) s).2
  | .handle i call => (socketLens i).set (call.apply ((socketLens i).get s)) s

/-- A call other than the two that end a transfer, with what is on the bus. -/
theorem Ready.apply {s : W6100 w L D P} (h : Ready held marker s) (ha : Agree held marker)
    {c : Call} (hdma : c ≠ .dmaComplete) (hreset : c ≠ .reset) :
    (s.apply c).device.busy = false ∧ Served held marker (s.apply c) := by
  cases c with
  | service => exact wp_state (triple_service ha s h)
  | run => exact wp_state (triple_run ha s h)
  | dmaComplete => exact absurd rfl hdma
  | reset => exact absurd rfl hreset
  | isLinkUp => exact (keeps_ready_isLinkUp.exec h).served
  | setupNetwork a g m => exact ((keeps_ready_setupNetwork a g m).exec h).served
  | setNetworkConfig config => exact ((keeps_ready_setNetworkConfig config).exec h).served
  | openTcpConnect addr port srcPort rx tx =>
    exact ((keeps_ready_openSlot _ rx tx _).exec h).served
  | openTcpListen port rx tx => exact ((keeps_ready_openSlot _ rx tx _).exec h).served
  | openUdp srcPort rx tx => exact ((keeps_ready_openSlot _ rx tx _).exec h).served
  | handle i call => exact (h.setSocket ((h.inside.slots i).handleCall call)).served

/-- One call from a settled state, to a settled state. -/
theorem Settled.apply {s : W6100 w L D P} (h : Settled s) (c : Call) : Settled (s.apply c) := by
  by_cases hdma : c = .dmaComplete
  · subst hdma; exact keeps_settled_dmaComplete.exec h
  obtain ⟨hd, held, marker, ha, hi⟩ := h
  by_cases hreset : c = .reset
  · subst hreset
    exact (wp_state (triple_reset s ⟨hd, hi⟩) : Ready none none _).settled trivial
  · obtain ⟨hd', hs'⟩ := Ready.apply ⟨hd, hi⟩ ha hdma hreset
    exact hs'.settled hd' ha

/-- The driver after a sequence of calls. -/
def runCalls (s : W6100 w L D P) (calls : List Call) : W6100 w L D P := calls.foldl apply s

theorem Settled.runCalls {s : W6100 w L D P} (h : Settled s) (calls : List Call) :
    Settled (s.runCalls calls) := by
  induction calls generalizing s with
  | nil => exact h
  | cons c calls ih => exact ih (h.apply c)

/-- A driver that came out of `new` is settled. -/
theorem new_settled (spi : D) (rst : P) (scratch : DmaBuffers L)
    (mac : { bytes : List UInt8 // bytes.length = 6 }) :
    Settled (W6100.new spi rst scratch mac : Except Error Unit × W6100 w L D P).2 := by
  have hready : Ready none none (⟨.new ⟨.idle spi scratch, rst⟩, mac, .new none, false, false,
      fun n => makeSocket (socketBlock n), .new none⟩ : W6100 w L D P) :=
    ⟨rfl, ⟨spi, scratch, rfl⟩, rfl, rfl, fun i => ⟨rfl, rfl⟩⟩
  exact (wp_state (triple_reset _ hready) : Ready none none _).settled trivial

/-- After any calls on a new driver the record is right, and while a transfer is
recorded only `dma_complete` and `reset` touch the bus: every other call leaves
the very transfer in flight, and its record. -/
theorem bulk_transfer_recorded (spi : D) (rst : P) (scratch : DmaBuffers L)
    (mac : { bytes : List UInt8 // bytes.length = 6 }) (calls : List Call) :
    let s := (W6100.new spi rst scratch mac : Except Error Unit × W6100 w L D P).2.runCalls calls
    Recorded s ∧ ∀ c : Call, c ≠ .dmaComplete → c ≠ .reset → s.bulk.value.isSome →
      (s.apply c).device.value.transport = s.device.value.transport ∧
        (s.apply c).bulk.value = s.bulk.value := by
  intro s
  have hs : Settled s := (new_settled spi rst scratch mac).runCalls calls
  refine ⟨hs.truthful, fun c hdma hreset hsome => ?_⟩
  obtain ⟨hd, held, marker, ha, hi⟩ := hs
  rw [hi.bulk] at hsome
  cases marker with
  | none => cases hsome
  | some op =>
    cases held with
    | none => exact ha.elim
    | some txn =>
      obtain ⟨-, h | ⟨hnone, -⟩⟩ := Ready.apply ⟨hd, hi⟩ ha hdma hreset
      · exact ⟨h.bus.trans hi.bus.symm, by rw [h.bulk, hi.bulk]⟩
      · cases hnone

end W6100

end Wiznet
