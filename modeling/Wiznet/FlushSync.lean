import Wiznet.Chip
import Wiznet.FaultFree

/-! # Two ways to the chip

A closing connection stages its bytes with `flushSync`, in pieces of 64; an
established one in a single burst that `finishBulk` commits. The pieces look up
their place in the ring each on its own, so they and the burst part ways when
the read counter passes its maximum between two pieces and the capacity does not
divide `2 ^ w`. The pointer and the buffer of the chip may wrap anywhere. -/

namespace Wiznet
open Resumption Resumption.Code Cyclic SpscRing Tick

variable {w L size : Nat} {i : Fin 8}

/-! ## Places in the ring -/

/-- Where `flushSync` reads its `k`-th byte. -/
def flushCell (r : SpscRing w) (k : Nat) : Nat :=
  ((r.head + BitVec.ofNat w (k / 64 * 64)).toNat + k % 64) % r.cap.toNat

/-- Where a burst reads its `k`-th byte. -/
def burstCell (r : SpscRing w) (k : Nat) : Nat := (r.head.toNat + k) % r.cap.toNat

/-- What `flushSync` stages from byte `k` on. -/
def flushBytes (r : SpscRing w) (k n : Nat) : List UInt8 :=
  (List.range' k n).map fun k => r.buf (flushCell r k)

def burstBytes (r : SpscRing w) (n : Nat) : List UInt8 :=
  (List.range n).map fun k => r.buf (burstCell r k)

theorem burstBytes_eq (r : SpscRing w) (n : Nat) :
    burstBytes r n = window r.buf r.cap.toNat r.head.toNat n := rfl

@[simp] theorem flushBytes_length (r : SpscRing w) (k n : Nat) : (flushBytes r k n).length = n := by
  simp [flushBytes]

@[simp] theorem burstBytes_length (r : SpscRing w) (n : Nat) : (burstBytes r n).length = n := by
  simp [burstBytes]

theorem flushBytes_append (r : SpscRing w) (k n m : Nat) :
    flushBytes r k n ++ flushBytes r (k + n) m = flushBytes r k (n + m) := by
  simp only [flushBytes, ← List.map_append, List.range'_append_1]

/-- A piece is a window of the ring as it is by then. -/
theorem window_piece (r : SpscRing w) (j : Nat) {n : Nat} (hn : n ≤ 64) :
    window r.buf r.cap.toNat (popped (64 * j) r).head.toNat n = flushBytes r (64 * j) n := by
  rw [window, flushBytes, List.range'_eq_map_range, List.map_map]
  refine List.map_congr_left fun k hk => ?_
  have hlt := List.mem_range.mp hk
  have hdiv : (64 * j + k) / 64 * 64 = 64 * j := by omega
  have hmod : (64 * j + k) % 64 = k := by omega
  simp only [Function.comp, flushCell, hdiv, hmod, popped]

theorem flushCell_eq {r : SpscRing w} {n : Nat}
    (h : r.cap.toNat ∣ 2 ^ w ∨ r.head.toNat + (n - 1) / 64 * 64 < 2 ^ w) {k : Nat} (hk : k < n) :
    flushCell r k = burstCell r k := by
  have hmod : (r.head + BitVec.ofNat w (k / 64 * 64)).toNat % r.cap.toNat =
      (r.head.toNat + k / 64 * 64) % r.cap.toNat := by
    refine advance_mod (h.imp_right fun hlt => ?_)
    have hle : k / 64 * 64 ≤ (n - 1) / 64 * 64 :=
      Nat.mul_le_mul_right 64 (Nat.div_le_div_right (by omega))
    omega
  rw [flushCell, burstCell, Nat.add_mod, hmod, ← Nat.add_mod]
  congr 1
  omega

/-- Past the maximum, the two look for the last byte in different places. -/
theorem flushCell_ne {r : SpscRing w} {n : Nat} (hn : n ≤ r.cap.toNat)
    (h : ¬ (r.cap.toNat ∣ 2 ^ w ∨ r.head.toNat + (n - 1) / 64 * 64 < 2 ^ w)) :
    flushCell r (n - 1) ≠ burstCell r (n - 1) := by
  obtain ⟨hdvd, hmax⟩ := not_or.mp h
  have hcap := r.cap.isLt
  have hhead := r.head.isLt
  have hwrap : (r.head + BitVec.ofNat w ((n - 1) / 64 * 64)).toNat =
      r.head.toNat + (n - 1) / 64 * 64 - 2 ^ w := by
    rw [BitVec.toNat_add, BitVec.toNat_ofNat, Nat.add_mod_mod,
      Nat.mod_eq_sub_mod (Nat.le_of_not_lt hmax)]
    exact Nat.mod_eq_of_lt (by omega)
  intro heq
  rw [flushCell, burstCell, hwrap] at heq
  refine hdvd ?_
  have hdiff : r.head.toNat + (n - 1) -
      (r.head.toNat + (n - 1) / 64 * 64 - 2 ^ w + (n - 1) % 64) = 2 ^ w := by omega
  rw [← hdiff]
  exact Nat.dvd_of_mod_eq_zero (Nat.sub_mod_eq_zero_of_mod_eq heq.symm)

/-! ## The flush -/

section Runs

variable {t : TcpSocketState} {rx r : SpscRing w} {chip : ChipState size} {scratch : DmaBuffers L}

/-- The state of a tick with the chip on an idle bus. -/
abbrev onChip (t : TcpSocketState) (chip : ChipState size) (scratch : DmaBuffers L)
    (rx tx : SpscRing w) : Tick TcpSocketState w L (ChipState size) :=
  (t, ⟨.idle chip scratch, rx, tx⟩)

theorem room_popped {k : Nat} (hroom : (r.tail - r.head).toNat ≤ r.cap.toNat)
    (hk : k ≤ (r.tail - r.head).toNat) :
    ((popped k r).tail - (popped k r).head).toNat = (r.tail - r.head).toNat - k ∧
      ((popped k r).tail - (popped k r).head).toNat ≤ (popped k r).cap.toNat := by
  have hlen := toNat_sub_advance hk
  exact ⟨hlen, hlen.trans_le ((Nat.sub_le ..).trans hroom)⟩

theorem exec_flushLoop_done (block : BlockAddress) (n fuel : Nat) (pointer : UInt16)
    (s : Tick TcpSocketState w L (ChipState size)) :
    exec (TcpSocketState.flushLoop block n fuel pointer n) s = (.ok pointer, s) := by
  cases fuel with
  | zero => rfl
  | succ fuel =>
    rw [TcpSocketState.flushLoop, if_neg (Nat.lt_irrefl n)]
    rfl

variable (rx) in
/-- From a whole number of pieces on, the loop stages what is left of `n` bytes. -/
theorem exec_flushLoop (hsize : size ∣ 2 ^ 16) (hL : 67 ≤ L)
    (hroom : (r.tail - r.head).toNat ≤ r.cap.toNat) {n : Nat} (hn : n ≤ (r.tail - r.head).toNat)
    (fuel j : Nat) (hj : 64 * j ≤ n) (hfuel : n - 64 * j ≤ fuel) (pointer : UInt16)
    (chip : ChipState size) (scratch : DmaBuffers L) :
    ∃ scratch', exec (TcpSocketState.flushLoop (socketBlock i) n fuel pointer (64 * j))
        (onChip t chip scratch rx (popped (64 * j) r)) =
      (.ok (pointer + UInt16.ofNat (n - 64 * j)),
        onChip t (chip.pokeTx i pointer (flushBytes r (64 * j) (n - 64 * j))) scratch' rx
          (popped n r)) := by
  induction fuel generalizing j pointer chip scratch with
  | zero =>
    obtain rfl : n = 64 * j := by omega
    refine ⟨scratch, ?_⟩
    rw [exec_flushLoop_done, Nat.sub_self, flushBytes, List.range'_zero, List.map_nil,
      ChipState.pokeTx_nil]
    exact Prod.ext (congrArg Except.ok (UInt16.add_zero pointer).symm) rfl
  | succ fuel ih =>
    by_cases hlt : 64 * j < n
    · obtain ⟨hlen, hroom'⟩ := room_popped hroom (hj.trans hn)
      generalize hm : min 64 (n - 64 * j) = m
      have hpiece : (SpscRing.read m).run (popped (64 * j) r) =
          (flushBytes r (64 * j) m, popped (64 * j + m) r) := by
        rw [run_read_window hroom' (by omega), popped_popped]
        exact congrArg (·, _) (window_piece r j (by omega))
      obtain ⟨scratch₁, hwrite⟩ := chip.exec_write_tx i pointer (flushBytes r (64 * j) m) scratch
        (by rw [flushBytes_length, HEADER]; omega)
      rw [TcpSocketState.flushLoop, if_pos hlt, hm, exec_onTx_bind, hpiece]
      dsimp only
      rw [if_neg (by rw [flushBytes_length]; omega),
        exec_onBus_ok (show exec (writeTxBuffer (socketBlock i) pointer _) _ = _ from hwrite),
        flushBytes_length]
      rcases Nat.lt_or_ge (n - 64 * j) 64 with hlast | hfull
      · -- the last piece: the loop is through
        obtain rfl : m = n - 64 * j := by omega
        rw [Nat.add_sub_cancel' hj]
        exact ⟨scratch₁, exec_flushLoop_done ..⟩
      · obtain rfl : m = 64 := by omega
        have hnext : 64 * j + 64 = 64 * (j + 1) := by omega
        have hrest : 64 + (n - 64 * (j + 1)) = n - 64 * j := by omega
        rw [hnext]
        obtain ⟨scratch₂, hloop⟩ := ih (j + 1) (by omega) (by omega) (pointer + UInt16.ofNat 64)
          (chip.pokeTx i pointer (flushBytes r (64 * j) 64)) scratch₁
        refine ⟨scratch₂, hloop.trans ?_⟩
        have hpoke := ChipState.pokeTx_pokeTx hsize i pointer (flushBytes r (64 * j) 64)
          (flushBytes r (64 * (j + 1)) (n - 64 * (j + 1))) chip
        rw [flushBytes_length, ← hnext, flushBytes_append, hnext, hrest] at hpoke
        rw [hpoke, UInt16.add_assoc, ← UInt16.ofNat_add, hrest]
    · obtain rfl : n = 64 * j := by omega
      refine ⟨scratch, ?_⟩
      rw [exec_flushLoop_done, Nat.sub_self, flushBytes, List.range'_zero, List.map_nil,
        ChipState.pokeTx_nil]
      exact Prod.ext (congrArg Except.ok (UInt16.add_zero pointer).symm) rfl

/-- `n` bytes that `flushSync` and `transmit` find worth sending. -/
def sendLen (r : SpscRing w) (chip : ChipState size) (i : Fin 8) : Nat :=
  min (r.tail - r.head).toNat ((chip.sockets i).tx.free size).toNat

/-- The chip after `bytes` were staged and sent; for no bytes it is not asked. -/
def sendSome (i : Fin 8) (bytes : List UInt8) (chip : ChipState size) : ChipState size :=
  if bytes.length = 0 then chip else chip.sendTx i bytes

theorem exec_flushSync (t : TcpSocketState) (chip : ChipState size) (scratch : DmaBuffers L)
    (rx : SpscRing w) (hsize : size ∣ 2 ^ 16) (hL : 67 ≤ L)
    (hroom : (r.tail - r.head).toNat ≤ r.cap.toNat) :
    ∃ scratch', exec (TcpSocketState.flushSync (socketBlock i)) (onChip t chip scratch rx r) =
      (.ok (), onChip t (sendSome i (flushBytes r 0 (sendLen r chip i)) chip) scratch' rx
        (popped (sendLen r chip i) r)) := by
  have hL' : HEADER + 2 ≤ L := by simp only [HEADER]; omega
  generalize hn : sendLen r chip i = n
  rw [sendLen] at hn
  rw [TcpSocketState.flushSync, exec_onTx_bind, run_len]
  dsimp only
  by_cases hempty : r.tail - r.head = 0
  · rw [if_pos hempty]
    obtain rfl : n = 0 := by rw [← hn, hempty]; exact Nat.zero_min _
    rw [popped_zero]
    exact ⟨scratch, rfl⟩
  obtain ⟨scratch₁, hfree⟩ := chip.exec_getTxFreeSize i scratch hL'
  rw [if_neg hempty, exec_onBus_ok hfree, hn]
  by_cases hz : n = 0
  · rw [if_pos hz]
    subst hz
    rw [popped_zero]
    exact ⟨scratch₁, rfl⟩
  obtain ⟨scratch₂, hpointer⟩ := chip.exec_getTxWritePointer i scratch₁ hL'
  obtain ⟨scratch₃, hloop⟩ := exec_flushLoop (t := t) (i := i) rx hsize hL hroom
    (show n ≤ (r.tail - r.head).toNat by omega) n 0 (Nat.zero_le _) (Nat.sub_le ..)
    (chip.sockets i).tx.writePtr chip scratch₂
  rw [Nat.mul_zero, Nat.sub_zero, popped_zero] at hloop
  obtain ⟨scratch₄, hcommit⟩ := (chip.pokeTx i (chip.sockets i).tx.writePtr
    (flushBytes r 0 n)).exec_setTxWritePointer i ((chip.sockets i).tx.writePtr + UInt16.ofNat n)
    scratch₃ hL'
  obtain ⟨scratch₅, hsend⟩ := ChipState.exec_sendSockCommand i .send _ scratch₄
    (show HEADER + 1 ≤ L by omega)
  rw [if_neg hz, exec_onBus_ok hpointer, exec_bind_ok hloop, exec_onBus_ok hcommit, exec_onBus,
    hsend, sendSome, flushBytes_length, if_neg hz, ChipState.sendTx, flushBytes_length]
  exact ⟨scratch₅, rfl⟩

/-! ## The burst -/

/-- An asynchronous transmission from its start to its completion. -/
def sendBulk (idx : Fin 8) (block : BlockAddress) :
    Code Error (Tick TcpSocketState w L (ChipState size)) Unit := do
  match ← TcpSocketState.transmit block with
  | .none => pure ()
  | .started kind pointer len =>
    Code.zoom Lens.snd (W6100.finishBulk ⟨idx, kind, block, pointer, len⟩)

theorem exec_startBurst (t : TcpSocketState) (chip : ChipState size) (scratch : DmaBuffers L)
    (rx : SpscRing w) (pointer : UInt16) {n : Nat} (hfit : HEADER + n ≤ L)
    (hroom : (r.tail - r.head).toNat ≤ r.cap.toNat) (hn : n ≤ (r.tail - r.head).toNat) :
    ∃ buffers, exec (startWriteTxBuffer bus (socketBlock i) pointer n drain)
        (onChip t chip scratch rx r) =
      (.ok (), (t, ⟨.inFlight ⟨chip.pokeTx i pointer (burstBytes r n), buffers⟩, rx,
        popped n r⟩)) := by
  have hwindow : ((scratch.stage 0 (createHeader ⟨pointer, .socketTxBuffer i⟩ true)).txWindow
      HEADER n).length = n := by
    rw [DmaBuffers.txWindow, List.length_take, List.length_drop, DmaBuffers.tx_length]
    omega
  have hdrain : (drain _).run
      ((t, ⟨.pending, rx, r⟩) : Tick TcpSocketState w L (ChipState size)) = _ :=
    run_drain_window hroom (hn.trans' hwindow.le)
  rw [hwindow, ← burstBytes_eq] at hdrain
  have hstart := exec_startWrite bus (s := onChip t chip scratch rx r) rfl hfit hdrain
  have hmosi : (scratch.loaded (createHeader ⟨pointer, .socketTxBuffer i⟩ true) (burstBytes r n)
      (burstBytes r n).length).mosi = _ :=
    loaded_mosi (by rw [burstBytes_length]; exact hfit)
  have hserve := chip.transact_header ⟨pointer, .socketTxBuffer i⟩ true (burstBytes r n)
  rw [burstBytes_length] at hmosi
  obtain ⟨miso, hclock⟩ : ∃ miso, SpiDmaDevice.clock chip (scratch.loaded
      (createHeader ⟨pointer, .socketTxBuffer i⟩ true) (burstBytes r n) n).mosi .interrupt =
      (some miso, chip.pokeTx i pointer (burstBytes r n)) := by
    refine ⟨_, Prod.ext rfl ?_⟩
    simp only [SpiDmaDevice.clock, hmosi, hserve, ChipState.serve_pokeTx]
  rw [hclock] at hstart
  exact ⟨_, hstart⟩

theorem exec_finishBulk_transmit (idx : Fin 8) (pointer : UInt16) (n : Nat)
    (chip : ChipState size) (buffers : DmaBuffers L) (rings : SocketRings w)
    (hL : HEADER + 2 ≤ L) :
    ∃ scratch', exec (W6100.finishBulk ⟨idx, .transmit, socketBlock i, pointer, n⟩)
        ⟨.inFlight ⟨chip, buffers⟩, rings⟩ =
      (.ok (), ⟨.idle ((chip.writeReg i SN_TX_WR0
        (BigEndian.encode 2 (pointer + UInt16.ofNat n).toNat)).writeReg i SN_CR
          (BigEndian.encode 1 SocketCommand.send.bits.toNat)) scratch', rings⟩) := by
  obtain ⟨scratch₁, hcommit⟩ :=
    chip.exec_setTxWritePointer i (pointer + UInt16.ofNat n) buffers hL
  obtain ⟨scratch₂, hsend⟩ := ChipState.exec_sendSockCommand i .send
    (chip.writeReg i SN_TX_WR0 (BigEndian.encode 2 (pointer + UInt16.ofNat n).toNat)) scratch₁
    (show HEADER + 1 ≤ L by omega)
  refine ⟨scratch₂, ?_⟩
  have hfinish : exec (Code.zoom Io.transLens finishWrite)
      (⟨.inFlight ⟨chip, buffers⟩, rings⟩ : Io w L (ChipState size)) =
      (.ok (), ⟨.idle chip buffers, rings⟩) := rfl
  rw [W6100.finishBulk, exec_bind_ok hfinish, exec_bind, exec_zoom]
  simp only [Io.transLens, hcommit, exec_zoom, hsend]

theorem exec_sendBulk (t : TcpSocketState) (chip : ChipState size) (scratch : DmaBuffers L)
    (rx : SpscRing w) (idx : Fin 8) (hL : HEADER + 2 ≤ L) (hfit : HEADER + sendLen r chip i ≤ L)
    (hroom : (r.tail - r.head).toNat ≤ r.cap.toNat) :
    ∃ scratch', exec (sendBulk idx (socketBlock i)) (onChip t chip scratch rx r) =
      (.ok (), onChip t (sendSome i (burstBytes r (sendLen r chip i)) chip) scratch' rx
        (popped (sendLen r chip i) r)) := by
  generalize hn : sendLen r chip i = n at hfit ⊢
  rw [sendLen] at hn
  have hlen : n ≤ (r.tail - r.head).toNat := by omega
  obtain ⟨scratch₁, hfree⟩ := chip.exec_getTxFreeSize i scratch hL
  by_cases hz : n = 0
  · -- nothing to send, or no room for it
    have htransmit : ∃ scratch', exec (TcpSocketState.transmit (socketBlock i))
        (onChip t chip scratch rx r) = (.ok .none, onChip t chip scratch' rx r) := by
      rw [TcpSocketState.transmit, exec_onTx_bind, run_len]
      dsimp only
      by_cases hempty : r.tail - r.head = 0
      · rw [if_pos hempty]
        exact ⟨scratch, rfl⟩
      · rw [if_neg hempty, exec_onBus_ok hfree, hn, if_pos hz]
        exact ⟨scratch₁, rfl⟩
    obtain ⟨scratch', htransmit⟩ := htransmit
    subst hz
    rw [sendBulk, exec_bind_ok htransmit, popped_zero]
    exact ⟨scratch', rfl⟩
  have hempty : r.tail - r.head ≠ 0 := by
    intro hempty
    rw [hempty] at hlen
    exact hz (Nat.le_zero.mp hlen)
  obtain ⟨scratch₂, hpointer⟩ := chip.exec_getTxWritePointer i scratch₁ hL
  obtain ⟨buffers, hstart⟩ := exec_startBurst (i := i) t chip scratch₂ rx
    (chip.sockets i).tx.writePtr hfit hroom hlen
  have htransmit : exec (TcpSocketState.transmit (socketBlock i)) (onChip t chip scratch rx r) =
      (.ok (.started .transmit (chip.sockets i).tx.writePtr n), (t, ⟨.inFlight
        ⟨chip.pokeTx i (chip.sockets i).tx.writePtr (burstBytes r n), buffers⟩, rx,
          popped n r⟩)) := by
    rw [TcpSocketState.transmit, exec_onTx_bind, run_len]
    dsimp only
    rw [if_neg hempty, exec_onBus_ok hfree, hn, if_neg hz, exec_onBus_ok hpointer]
    exact exec_bind_ok hstart
  obtain ⟨scratch₃, hfinish⟩ := exec_finishBulk_transmit idx (i := i)
    (chip.sockets i).tx.writePtr n
    (chip.pokeTx i (chip.sockets i).tx.writePtr (burstBytes r n)) buffers ⟨rx, popped n r⟩ hL
  rw [sendBulk, exec_bind_ok htransmit]
  dsimp only
  rw [exec_zoom, Lens.snd_get, hfinish, sendSome, burstBytes_length, if_neg hz, ChipState.sendTx,
    burstBytes_length]
  exact ⟨scratch₃, rfl⟩

/-! ## Agreement -/

/-- A run that comes to its end, and what it leaves behind. -/
structure Leaves (chip : ChipState size) (rings : SocketRings w)
    (out : Except Error Unit × Tick TcpSocketState w L (ChipState size)) : Prop where
  returns : out.1 = .ok ()
  chip : IdleOn (· = chip) out.2.2.trans
  rings : out.2.2.rings = rings

/-- Two runs leave the same chip, with `Sn_TX_WR` moved on by `n` and one `SEND`
if there was anything to send, and have taken `n` bytes from the tx ring. -/
def PathsAgree (i : Fin 8) (n : Nat) (chip : ChipState size) (rings : SocketRings w)
    (flushed burst : Except Error Unit × Tick TcpSocketState w L (ChipState size)) : Prop :=
  ∃ chip' : ChipState size,
    Leaves chip' { rings with tx := popped n rings.tx } flushed ∧
    Leaves chip' { rings with tx := popped n rings.tx } burst ∧
    (chip'.sockets i).tx.writePtr = (chip.sockets i).tx.writePtr + UInt16.ofNat n ∧
    chip'.commands =
      chip.commands ++ if n = 0 then [] else [(i, SocketCommand.send.bits)]

/-- What the chip stores of `bytes`. -/
def stored (i : Fin 8) (chip : ChipState size) (bytes : List UInt8) : Nat → UInt8 :=
  put (chip.sockets i).tx.data size (chip.sockets i).tx.writePtr.toNat bytes

theorem sendSome_tx (i : Fin 8) (bytes : List UInt8) (chip : ChipState size) :
    ((sendSome i bytes chip).sockets i).tx.data = stored i chip bytes ∧
      ((sendSome i bytes chip).sockets i).tx.writePtr =
        (chip.sockets i).tx.writePtr + UInt16.ofNat bytes.length ∧
      (sendSome i bytes chip).commands = chip.commands ++
        if bytes.length = 0 then [] else [(i, SocketCommand.send.bits)] := by
  rw [sendSome, stored]
  by_cases hz : bytes.length = 0
  · obtain rfl := List.length_eq_zero_iff.mp hz
    simp only [List.length_nil, if_true, List.append_nil]
    exact ⟨rfl, (UInt16.add_zero _).symm, trivial⟩
  · rw [if_neg hz, if_neg hz, ChipState.sendTx_tx, ChipState.sendTx_commands]
    exact ⟨rfl, rfl, rfl⟩

/-- Whether the two ways agree is a question of the bytes they send. -/
theorem pathsAgree_iff_stored (hsize : size ∣ 2 ^ 16) (t : TcpSocketState) (chip : ChipState size)
    (scratch : DmaBuffers L) (rx : SpscRing w) (idx : Fin 8)
    (hroom : (r.tail - r.head).toNat ≤ r.cap.toNat) (hL : 67 ≤ L)
    (hfit : HEADER + sendLen r chip i ≤ L) :
    PathsAgree i (sendLen r chip i) chip ⟨rx, r⟩
        (exec (TcpSocketState.flushSync (socketBlock i)) (onChip t chip scratch rx r))
        (exec (sendBulk idx (socketBlock i)) (onChip t chip scratch rx r)) ↔
      stored i chip (flushBytes r 0 (sendLen r chip i)) =
        stored i chip (burstBytes r (sendLen r chip i)) := by
  obtain ⟨scratch₁, hflush⟩ := exec_flushSync (i := i) t chip scratch rx hsize hL hroom
  obtain ⟨scratch₂, hburst⟩ := exec_sendBulk (i := i) t chip scratch rx idx
    (show HEADER + 2 ≤ L by simp only [HEADER]; omega) hfit hroom
  rw [hflush, hburst]
  generalize sendLen r chip i = n at *
  constructor
  · intro h
    obtain ⟨chip', hf, hb, -, -⟩ := h
    obtain ⟨_, _, hcell, rfl⟩ := hf.chip
    obtain ⟨_, _, hcell', hsame⟩ := hb.chip
    cases hcell
    cases hcell'
    rw [← (sendSome_tx i (flushBytes r 0 n) chip).1, ← (sendSome_tx i (burstBytes r n) chip).1,
      hsame]
  · intro hstored
    have hpoke : chip.pokeTx i (chip.sockets i).tx.writePtr (flushBytes r 0 n) =
        chip.pokeTx i (chip.sockets i).tx.writePtr (burstBytes r n) := by
      rw [ChipState.pokeTx, ChipState.pokeTx, ChipState.modifySocket, ChipState.modifySocket]
      simp only [ChipBuffer.poke]
      rw [stored, stored] at hstored
      rw [hstored]
    have hsame : sendSome i (flushBytes r 0 n) chip = sendSome i (burstBytes r n) chip := by
      rw [sendSome, sendSome, ChipState.sendTx, ChipState.sendTx, hpoke, flushBytes_length,
        burstBytes_length]
    obtain ⟨-, hptr, hcommands⟩ := sendSome_tx i (burstBytes r n) chip
    rw [burstBytes_length] at hptr hcommands
    rw [hsame]
    exact ⟨_, ⟨rfl, ⟨_, _, rfl, rfl⟩, rfl⟩, ⟨rfl, ⟨_, _, rfl, rfl⟩, rfl⟩, hptr, hcommands⟩

/-- The last byte sent is where the pointer came to. -/
theorem stored_last (i : Fin 8) (chip : ChipState size) (front : List UInt8) (b : UInt8) :
    stored i chip (front ++ [b])
      (((chip.sockets i).tx.writePtr.toNat + front.length) % size) = b := put_last ..

theorem flushBytes_last (r : SpscRing w) {n : Nat} (hn : n ≠ 0) :
    flushBytes r 0 n = flushBytes r 0 (n - 1) ++ [r.buf (flushCell r (n - 1))] := by
  have happend := flushBytes_append r 0 (n - 1) 1
  rw [Nat.zero_add, Nat.sub_add_cancel (Nat.pos_of_ne_zero hn)] at happend
  exact happend.symm

theorem burstBytes_last (r : SpscRing w) {n : Nat} (hn : n ≠ 0) :
    burstBytes r n = burstBytes r (n - 1) ++ [r.buf (burstCell r (n - 1))] := by
  obtain ⟨k, rfl⟩ := Nat.exists_eq_succ_of_ne_zero hn
  exact window_succ ..

/-- The chip has the same last byte from both only if both read the same byte. -/
theorem last_of_stored {n : Nat} (hn : n ≠ 0)
    (h : stored i chip (flushBytes r 0 n) = stored i chip (burstBytes r n)) :
    r.buf (flushCell r (n - 1)) = r.buf (burstCell r (n - 1)) := by
  have hlast := congrFun h (((chip.sockets i).tx.writePtr.toNat + (n - 1)) % size)
  have hflush := stored_last i chip (flushBytes r 0 (n - 1)) (r.buf (flushCell r (n - 1)))
  have hburst := stored_last i chip (burstBytes r (n - 1)) (r.buf (burstCell r (n - 1)))
  rw [flushBytes_length, ← flushBytes_last r hn] at hflush
  rw [burstBytes_length, ← burstBytes_last r hn] at hburst
  rw [← hflush, ← hburst, hlast]

theorem sendLen_with (r : SpscRing w) (chip : ChipState size) (i : Fin 8)
    (cells data : Nat → UInt8) :
    sendLen { r with buf := cells }
      (chip.modifySocket i fun s => { s with tx := { s.tx with data := data } }) i =
      sendLen r chip i := by
  simp [sendLen, ChipState.modifySocket, ChipBuffer.free, ChipBuffer.used]

/-- The two ways agree on all contents of the ring and of the chip exactly as
long as no piece but the first starts behind the maximum of the read counter, or
the capacity divides `2 ^ w`. -/
theorem flushSync_agrees_iff (hsize : size ∣ 2 ^ 16) (t : TcpSocketState) (chip : ChipState size)
    (scratch : DmaBuffers L) (rx r : SpscRing w) (idx i : Fin 8)
    (hroom : (r.tail - r.head).toNat ≤ r.cap.toNat)
    (hL : max 67 (HEADER + sendLen r chip i) ≤ L) :
    (∀ cells data : Nat → UInt8,
      let tx := { r with buf := cells }
      let chip := chip.modifySocket i fun s => { s with tx := { s.tx with data := data } }
      PathsAgree i (sendLen tx chip i) chip ⟨rx, tx⟩
        (exec (TcpSocketState.flushSync (socketBlock i)) (onChip t chip scratch rx tx))
        (exec (sendBulk idx (socketBlock i)) (onChip t chip scratch rx tx))) ↔
      r.cap.toNat ∣ 2 ^ w ∨ r.head.toNat + (sendLen r chip i - 1) / 64 * 64 < 2 ^ w := by
  obtain ⟨hL, hfit⟩ := Nat.max_le.mp hL
  have hiff := fun cells data => pathsAgree_iff_stored (i := i) hsize t
    (chip.modifySocket i fun s => { s with tx := { s.tx with data := data } }) scratch rx idx
    (show ({ r with buf := cells }.tail - { r with buf := cells }.head).toNat ≤
      ({ r with buf := cells } : SpscRing w).cap.toNat from hroom) hL
    (by rw [sendLen_with]; exact hfit)
  simp only [sendLen_with] at hiff ⊢
  have hlen : sendLen r chip i ≤ r.cap.toNat := (Nat.min_le_left ..).trans hroom
  generalize sendLen r chip i = n at *
  constructor
  · intro h
    by_contra hcond
    have hn : n ≠ 0 := by
      rintro rfl
      exact hcond (.inr r.head.isLt)
    -- one marked cell: the burst sends it last, the flush sends another one
    have hlast : (if flushCell r (n - 1) = burstCell r (n - 1) then (1 : UInt8) else 0) =
        if burstCell r (n - 1) = burstCell r (n - 1) then 1 else 0 := last_of_stored hn
      ((hiff (fun k => if k = burstCell r (n - 1) then 1 else 0) fun _ => 0).mp (h _ _))
    rw [if_neg (flushCell_ne hlen hcond), if_pos rfl] at hlast
    exact absurd hlast (by decide)
  · intro hcond cells data
    refine (hiff cells data).mpr (congrArg _ ?_)
    rw [flushBytes, burstBytes, List.range_eq_range']
    refine List.map_congr_left fun k hk => ?_
    obtain ⟨j, hj, rfl⟩ := List.mem_range'.mp hk
    exact congrArg cells (flushCell_eq (r := r) hcond (by omega))

end Runs

/-! ## A flush across the maximum -/

/-- 80 bytes in a ring of 100, the second piece behind the maximum of the read
counter. Only the cell of the last byte is not zero. -/
def seamRing : SpscRing 32 :=
  { SpscRing.new with
    buf := fun k => if k = 11 then 1 else 0
    cap := 100
    head := 0xFFFFFFC0
    tail := 16 }

def freshSocket : SocketModel := ⟨0, 0, 0, ⟨fun _ => 0, 0, 0⟩, ⟨fun _ => 0, 0, 0⟩, 0, 0⟩

def freshChip : ChipState 2048 := ⟨fun _ => freshSocket, fun _ => [], fun _ => [], []⟩

/-- The general equivalence, where it fails on both sides. -/
theorem flushSync_agrees_seam :
    (∀ cells data : Nat → UInt8,
      let tx := { seamRing with buf := cells }
      let chip := freshChip.modifySocket 0 fun s => { s with tx := { s.tx with data := data } }
      PathsAgree 0 (sendLen tx chip 0) chip ⟨SpscRing.new, tx⟩
        (exec (TcpSocketState.flushSync (socketBlock 0))
          (onChip (.listen 80) chip (zeroScratch 100) SpscRing.new tx))
        (exec (sendBulk 0 (socketBlock 0))
          (onChip (.listen 80) chip (zeroScratch 100) SpscRing.new tx))) ↔
      seamRing.cap.toNat ∣ 2 ^ 32 ∨
        seamRing.head.toNat + (sendLen seamRing freshChip 0 - 1) / 64 * 64 < 2 ^ 32 :=
  flushSync_agrees_iff (by decide) _ _ _ _ _ _ _ (by decide) (by decide)

/-- The flush sends a zero where the burst sends the last byte. -/
theorem flush_seam :
    ¬ PathsAgree 0 (sendLen seamRing freshChip 0) freshChip ⟨SpscRing.new, seamRing⟩
      (exec (TcpSocketState.flushSync (socketBlock 0))
        (onChip (.listen 80) freshChip (zeroScratch 100) SpscRing.new seamRing))
      (exec (sendBulk 0 (socketBlock 0))
        (onChip (.listen 80) freshChip (zeroScratch 100) SpscRing.new seamRing)) := by
  intro h
  have hlen : sendLen seamRing freshChip 0 = 80 := by decide
  have hstored := (pathsAgree_iff_stored (by decide) _ _ _ _ _ (by decide) (by decide)
    (by rw [hlen]; decide)).mp h
  rw [hlen] at hstored
  exact absurd (last_of_stored (by decide) hstored) (by decide)

end Wiznet
