import Wiznet.UdpThreads
import Wiznet.SlotOwners

/-! # Receiving datagrams

The rx ring of a UDP socket has two ends in two interrupt levels. A tick puts an
empty datagram into the ring at once; for any other it checks the room, and the
completion of the transfer fills it in a later interrupt. In between the
application only makes more room. -/

namespace Wiznet
open Resumption Resumption.Code Tick SpscRing

variable {w L : Nat} {D P : Type}

namespace SpscRing

/-- Whole frames have come behind the contents. -/
def Arrives (r r' : SpscRing w) : Prop := ∃ more, Grown more r r'

/-- The ring has room for what a transfer will bring. -/
def Fits (kind : BulkKind) (len : Nat) (r : SpscRing w) : Prop :=
  match kind with
  | .receive => False
  | .receiveDatagram _ _ => len < 2 ^ 16 ∧ FRAME_HEADER + len ≤ r.cap.toNat - (r.tail - r.head).toNat
  | .transmit => True

/-- What fits still fits where there is more room. -/
theorem Fits.mono {kind : BulkKind} {len : Nat} {r r' : SpscRing w} (h : Fits kind len r)
    (hroom : r.cap.toNat - (r.tail - r.head).toNat ≤ r'.cap.toNat - (r'.tail - r'.head).toNat) :
    Fits kind len r' := by
  cases kind with
  | receive => exact h.elim
  | receiveDatagram => exact ⟨h.1, h.2.trans hroom⟩
  | transmit => trivial

theorem Arrives.frame {r₀ r r' : SpscRing w} {f : Frame} (h : Arrives r₀ r)
    (ha : Appended f.bytes r r') : Arrives r₀ r' := by
  obtain ⟨more, hg⟩ := h
  exact ⟨more ++ [f], hg.trans ha.grown⟩

theorem Arrives.even {r r' : SpscRing w} (h : Arrives r r') (he : Even r) : Even r' := by
  obtain ⟨more, hg⟩ := h
  exact hg.even he

end SpscRing

/-! ## The tick -/

section Ticks

variable {J : SpscRing w → Prop} {α : Type}

theorem keeps_rx_onBus (c : Code Error (Transceiver L D) α) :
    Keeps (fun s : Tick UdpSocketState w L D => J s.2.rings.rx) (onBus c) :=
  Keeps.zoom_of_set fun _ _ h => h

theorem keeps_rx_onTx (p : Prog (SpscRing w) α) :
    Keeps (fun s : Tick UdpSocketState w L D => J s.2.rings.rx) (onTx p) := by
  refine Keeps.always fun s hs => ?_
  rw [Prog.run_zoom]
  exact hs

namespace UdpSocketState

variable [SpiDmaDevice D] {block : BlockAddress} {r₀ : SpscRing w}

theorem keeps_rx_startWrite (pointer : UInt16) (len : Nat) :
    Keeps (fun s : Tick UdpSocketState w L D => J s.2.rings.rx)
      (startWriteTxBuffer bus block pointer len fun buf => do
        let got ← Prog.zoom Tick.tx (SpscRing.read buf.length)
        pure (copyFromSlice buf 0 got)) := by
  have hbus : ∀ {c : Code Error (Transceiver L D) Unit},
      Keeps (fun s : Tick UdpSocketState w L D => J s.2.rings.rx) (Code.zoom bus c) :=
    Keeps.zoom_of_set fun _ _ h => h
  refine Keeps.bind (Keeps.zoom_of_set fun _ _ h => h) fun out => ?_
  dsimp only
  split
  · exact hbus
  · refine Keeps.bind (Keeps.always fun s hs => ?_) fun _ => hbus
    simp only [Prog.bind_eq, Prog.run_bind, Prog.run_zoom]
    exact hs

/-- Frames have arrived, and what was started will fit. -/
def Announces (r₀ : SpscRing w) (a : BulkAction) (s : Tick UdpSocketState w L D) : Prop :=
  Arrives r₀ s.2.rings.rx ∧ match a with
    | .none => True
    | .started kind _ len => Fits kind len s.2.rings.rx

omit [SpiDmaDevice D] in
/-- Behind what leaves the ring alone, a tick that starts nothing. -/
theorem announces_none {c : Code Error (Tick UdpSocketState w L D) α}
    (h : Keeps (fun s : Tick UdpSocketState w L D => Arrives r₀ s.2.rings.rx) c) :
    Triple (fun s => Arrives r₀ s.2.rings.rx) (do let _ ← c; pure BulkAction.none)
      (Announces r₀) fun _ s => Arrives r₀ s.2.rings.rx :=
  h.andThen fun _ _ hs => ⟨hs, trivial⟩

theorem announces_transmit :
    Triple (fun s : Tick UdpSocketState w L D => Arrives r₀ s.2.rings.rx) (transmit block)
      (Announces r₀) fun _ s => Arrives r₀ s.2.rings.rx := by
  refine (keeps_rx_onTx _).andThen fun frames => ?_
  split
  · exact fun _ hs => ⟨hs, trivial⟩
  refine (keeps_rx_onTx _).andThen fun head => ?_
  dsimp only
  refine (keeps_rx_onBus _).andThen fun free => ?_
  split
  · exact fun _ hs => ⟨hs, trivial⟩
  refine (keeps_rx_onTx _).andThen fun _ => (keeps_rx_onBus _).andThen fun _ => ?_
  refine (keeps_rx_onBus _).andThen fun _ => ?_
  split
  · exact (keeps_rx_onBus _).andThen fun _ => announces_none (keeps_rx_onTx _)
  · refine (keeps_rx_onBus _).andThen fun pointer => (keeps_rx_startWrite _ _).andThen fun _ => ?_
    exact (keeps_rx_onTx _).andThen fun _ _ hs => ⟨hs, trivial⟩

theorem announces_receive (he : Even r₀) :
    Triple (fun s : Tick UdpSocketState w L D => Arrives r₀ s.2.rings.rx) (receive block)
      (Announces r₀) fun _ s => Arrives r₀ s.2.rings.rx := by
  have hnone : Triple (fun s : Tick UdpSocketState w L D => Arrives r₀ s.2.rings.rx)
      (pure BulkAction.none : Code Error _ _) (Announces r₀) fun _ s => Arrives r₀ s.2.rings.rx :=
    fun _ hs => ⟨hs, trivial⟩
  refine (keeps_rx_onBus _).andThen fun available => ?_
  split
  · exact hnone
  refine (keeps_rx_onBus _).andThen fun start => (keeps_rx_onBus _).andThen fun head => ?_
  dsimp only
  generalize hp : (UInt16.ofNat (BigEndian.decode (head.take 2)) &&& PACKINFO_LEN_MASK).toNat =
    payloadLen
  generalize UInt32.ofNat (BigEndian.decode ((head.drop 2).take 4)) = srcIp
  generalize UInt16.ofNat (BigEndian.decode ((head.drop 6).take 2)) = srcPort
  have hlt : payloadLen < 2 ^ 16 := by rw [← hp]; exact UInt16.toNat_lt _
  split
  · exact hnone
  rintro ⟨u, cell, rx, tx⟩ hs
  have he' : Even rx := Arrives.even hs he
  rw [wp_onRx_bind, run_capacity]
  dsimp only
  split
  · exact (keeps_rx_onBus _).andThen (fun _ => hnone) _ hs
  rw [wp_onRx_bind, run_free, toNat_sub_le he'.room]
  dsimp only
  split
  · exact ⟨hs, trivial⟩
  next hroom =>
    split
    next hz =>
      -- an empty datagram goes in at once
      have hle := he'.room
      have hheader := frameHeader_length 0 ⟨srcIp, srcPort⟩
      have hfits : (rx.tail - rx.head).toNat + (frameHeader 0 ⟨srcIp, srcPort⟩).length ≤
          rx.cap.toNat := by
        rw [hheader]
        omega
      obtain ⟨r₁, r', hwrite, hcommit, ha⟩ := run_appended_once he'.sound hfits (.inl he'.dvd)
      have harrives : Arrives r₀ r' := by
        refine Arrives.frame (f := ⟨[], ⟨srcIp, srcPort⟩, Nat.two_pow_pos 16⟩) hs ?_
        rwa [Frame.bytes, stagedBytes, List.append_nil]
      rw [wp_onRx_bind, wp_onRx_bind, hwrite, hcommit]
      exact (keeps_rx_onBus _).andThen (fun _ => hnone) _ harrives
    · have hfits : Fits (.receiveDatagram srcIp srcPort) payloadLen rx :=
        ⟨hlt, Nat.le_of_not_lt hroom⟩
      have hstart : Keeps (fun s : Tick UdpSocketState w L D => Arrives r₀ s.2.rings.rx ∧
          Fits (.receiveDatagram srcIp srcPort) payloadLen s.2.rings.rx)
          (onBus (startReadRxBuffer block (start + UInt16.ofNat PACKINFO) payloadLen)) :=
        keeps_rx_onBus (J := fun r => Arrives r₀ r ∧ Fits _ payloadLen r) _
      rw [wp_bind]
      exact wp_mono (hstart _ ⟨hs, hfits⟩) (fun _ _ h => h) fun _ _ h => h.1

theorem announces_handleEstablished (he : Even r₀) :
    Triple (fun s : Tick UdpSocketState w L D => Arrives r₀ s.2.rings.rx)
      (handleEstablished block) (Announces r₀) fun _ s => Arrives r₀ s.2.rings.rx := by
  refine (keeps_rx_onBus _).andThen fun interrupts => Keeps.andThen ?_ fun _ => ?_
  · split
    · exact keeps_rx_onBus _
    · exact Keeps.pure _
  refine (announces_receive he).bind fun action => ?_
  cases action with
  | none => exact announces_transmit.consequence (fun _ h => h.1) (fun _ _ h => h) fun _ _ h => h
  | started kind pointer len => exact fun _ h => h

theorem announces_dispatch (he : Even r₀) (u : UdpSocketState) :
    Triple (fun s : Tick UdpSocketState w L D => Arrives r₀ s.2.rings.rx) (dispatch block u)
      (Announces r₀) fun _ s => Arrives r₀ s.2.rings.rx := by
  -- of the other handlers none looks at a ring
  have hquiet (rings : SocketRings w) : Quiet (L := L) (D := D) .blind block .udp4
      fun x => (fun y : Io w L D × Unit => Arrives r₀ y.1.rings.rx) (⟨x.1, rings⟩, x.2) := by
    have hconst {α : Type} (c : Code Error (Transceiver L D) α) :
        Keeps (fun _ => Arrives r₀ rings.rx) c :=
      fun _ h => wp_iff.mpr ⟨fun _ _ _ => h, fun _ _ _ => h⟩
    exact ⟨fun _ _ _ _ => (hconst _).watch, fun _ _ _ => (hconst _).watch⟩
  have hnone {c : Code Error (Tick UdpSocketState w L D) Unit}
      (h : Keeps (fun x => Arrives r₀ x.1.2.rings.rx) (c.watch (seen .blind))) :=
    announces_none (Keeps.of_watch h)
  unfold dispatch
  split
  · exact hnone (keeps_handleClose (J := fun y => Arrives r₀ y.1.rings.rx) hquiet)
  cases u.status with
  | init => exact hnone (keeps_handleInit (J := fun y => Arrives r₀ y.1.rings.rx) hquiet)
  | opening => exact hnone (keeps_handleOpening (J := fun y => Arrives r₀ y.1.rings.rx) hquiet)
  | established => exact announces_handleEstablished he
  | closingDueToError | closingDueToTimeout | closing =>
    exact hnone (keeps_handleClosing (J := fun y => Arrives r₀ y.1.rings.rx) hquiet)
  | connecting | listening | timeout | closed | error => exact fun _ h => ⟨h, trivial⟩

variable (block) in
/-- A tick puts whole frames into the rx ring, and starts what will fit. -/
theorem announces_run (he : Even r₀) :
    Triple (fun s : Tick UdpSocketState w L D => Arrives r₀ s.2.rings.rx) (run block)
      (Announces r₀) fun _ s => Arrives r₀ s.2.rings.rx := by
  intro s hs
  rw [run, wp_bind, self, wp_always]
  exact triple_stored_plain (announces_dispatch he s.1) (fun _ _ h => ⟨h, trivial⟩) s hs

end UdpSocketState

namespace SocketBackend

/-- A tick of a slot whose UDP handle is alive: the slot stays with it. -/
theorem run_announces [SpiDmaDevice D] {b : SocketBackend} {r₀ : SpscRing w} (he : Even r₀)
    (hp : b.state.protocol = some .udp) (hr : b.releaseRequested = false) (io : Io w L D)
    (ha : Arrives r₀ io.rings.rx) :
    let out := b.run.run io
    (out.1.2.state.protocol = some .udp ∧ out.1.2.releaseRequested = false) ∧
      Arrives r₀ out.2.rings.rx ∧
      ∀ kind pointer len, out.1.1 = .ok (.started kind pointer len) →
        Fits kind len out.2.rings.rx := by
  have hreap (st : BackendState) : reap { b with state := st } = { b with state := st } :=
    reap_kept hr
  cases hst : b.state with
  | free | tcp => rw [hst] at hp; cases hp
  | udp u =>
    have hu := run_withLocal_wp (UdpSocketState.announces_run b.block he (u, io) ha)
    unfold run
    simp only [hst, Prog.bind_eq, Prog.run_bind, Prog.pure_eq, Prog.run_ret, hreap]
    rcases hrun : (Prog.withLocal (ExceptT.run (UdpSocketState.run b.block)) u).run io with
      ⟨⟨e | action, u'⟩, io'⟩ <;> rw [hrun] at hu
    · exact ⟨⟨rfl, hr⟩, hu, nofun⟩
    · refine ⟨⟨rfl, hr⟩, hu.1, ?_⟩
      intro kind pointer len h
      cases h
      exact hu.2

end SocketBackend

end Ticks

/-! ## The completion -/

namespace W6100

variable [SpiDmaDevice D]

/-- What was announced comes as whole frames. -/
theorem arrives_deliver {op : BulkOp} {payload : List UInt8} {r₀ rx : SpscRing w} (he : Even r₀)
    (hr : Arrives r₀ rx) (hfits : Fits op.kind op.len rx) (hpayload : payload.length = op.len) :
    Arrives r₀ (op.deliver payload rx) := by
  unfold BulkOp.deliver
  cases hkind : op.kind with
  | receive =>
    rw [hkind] at hfits
    exact hfits.elim
  | transmit => exact hr
  | receiveDatagram srcIp srcPort =>
    rw [hkind] at hfits
    obtain ⟨hlen, hroom⟩ := hfits
    have he' := hr.even he
    have hle := he'.room
    have hheader := frameHeader_length (UInt16.ofNat op.len) ⟨srcIp, srcPort⟩
    obtain ⟨r₁, r₂, r', hwrite₁, hwrite₂, hcommit, ha⟩ := run_appended he'.sound
      (frameHeader (UInt16.ofNat op.len) ⟨srcIp, srcPort⟩) payload (by omega) (.inl he'.dvd)
    dsimp only
    rw [hwrite₁, hwrite₂, hcommit]
    rw [← hpayload] at hlen ha
    exact hr.frame (f := ⟨payload, ⟨srcIp, srcPort⟩, hlen⟩) ha

/-- The completion puts exactly the datagram that was announced into the ring. -/
theorem arrives_finishBulk {op : BulkOp} {txn : Transaction L D} {io : Io w L D}
    {r₀ : SpscRing w} (he : Even r₀) (hop : Describes op txn) (hbus : io.trans = .inFlight txn)
    (hr : Arrives r₀ io.rings.rx) (hfits : Fits op.kind op.len io.rings.rx) :
    Arrives r₀ (exec (finishBulk op) io).2.rings.rx := by
  have harrives := arrives_deliver he hr hfits hop.frame.rxWindow_length
  refine wp_state (J := fun io' : Io w L D => Arrives r₀ io'.rings.rx) ?_
  refine (wp_finishBulk_iff hbus).mpr ?_
  exact wp_iff.mpr ⟨fun _ _ _ => harrives, fun _ _ _ => harrives⟩

end W6100

end Wiznet
