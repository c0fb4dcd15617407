import Wiznet.LiveChip
import Wiznet.Socket

/-! # What a FIN leaves on the chip

The commands a socket has been given, and what is left of it once its peer has
finished: nothing arrives any more, and `DISCONNECT` takes nothing away. -/

namespace Wiznet
open Resumption Resumption.Code SpscRing

variable {w L size : Nat} {i j : Fin 8} {n : Nat}

/-! ## The commands of a socket -/

namespace ChipState

variable {chip : ChipState size}

theorem runCommand_commands (cmd : UInt8) :
    (chip.runCommand j cmd).commands = chip.commands ++ [(j, cmd)] := by
  unfold runCommand
  dsimp only
  split
  · rfl
  split
  · rfl
  split
  · rfl
  split
  · exact send_commands ..
  · rfl

/-- Only a write to `Sn_CR` is a command. -/
theorem writeReg_commands {addr : UInt16} (h : addr ≠ SN_CR) (data : List UInt8) :
    (chip.writeReg j addr data).commands = chip.commands := by
  unfold writeReg
  dsimp only
  split
  · rfl
  split
  · rfl
  split
  · rfl
  split
  · rfl
  split
  · rfl
  split <;> rfl

theorem runCommand_other (hj : i ≠ j) (cmd : UInt8) :
    (chip.runCommand j cmd).sockets i = chip.sockets i := by
  unfold runCommand
  dsimp only
  split
  · exact modifySocket_other hj
  split
  · exact modifySocket_other hj
  split
  · exact modifySocket_other hj
  split
  · rw [send_sockets]
    exact modifySocket_other hj
  · rfl

theorem writeReg_other (hj : i ≠ j) (addr : UInt16) (data : List UInt8) :
    (chip.writeReg j addr data).sockets i = chip.sockets i := by
  unfold writeReg
  dsimp only
  split
  · exact modifySocket_other hj
  split
  · exact runCommand_other hj _
  split
  · exact modifySocket_other hj
  split
  · exact modifySocket_other hj
  split
  · exact modifySocket_other hj
  split
  · exact modifySocket_other hj
  split
  · exact modifySocket_other hj
  · rfl

end ChipState

namespace LiveChip

variable {c : LiveChip size}

theorem written_commands {addr : Address} {data : List UInt8}
    (h : ∀ j, addr = ⟨SN_CR, .socketRegister j⟩ → False) :
    (c.written addr data).chip.commands = c.chip.commands := by
  obtain ⟨a, block⟩ := addr
  cases block with
  | commonRegister => rw [written, ChipState.serve_common]
  | socketRxBuffer j => rw [written, ChipState.serve_writeRx]
  | socketTxBuffer j =>
    have hpoke : (c.written ⟨a, .socketTxBuffer j⟩ data).chip = c.chip.pokeTx j a data :=
      ChipState.serve_pokeTx ..
    rw [hpoke]
    rfl
  | socketRegister j =>
    have hwrite : (c.written ⟨a, .socketRegister j⟩ data).chip = c.chip.writeReg j a data :=
      ChipState.serve_writeReg ..
    rw [hwrite, ChipState.writeReg_commands fun ha => h j (by rw [ha])]

theorem written_command (data : List UInt8) : (c.written ⟨SN_CR, .socketRegister j⟩ data).chip =
    c.chip.runCommand j (UInt8.ofNat (BigEndian.decode data)) := ChipState.serve_writeReg ..

theorem decode_command (command : SocketCommand) :
    UInt8.ofNat (BigEndian.decode (BigEndian.encode 1 command.bits.toNat)) = command.bits := by
  rw [BigEndian.decode_encode_of_lt (UInt8.toNat_lt _), UInt8.ofNat_toNat]

theorem pass_commands (c : LiveChip size) : c.pass.chip.commands = c.chip.commands :=
  pass_of_happen (J := fun c' => c'.chip.commands = c.chip.commands) (fun _ _ _ h => h)
    (fun _ _ h => h) c rfl

/-- What a write to anything but the registers of socket `i` leaves alone. -/
theorem written_register {addr : Address} (h : addr.block ≠ .socketRegister i)
    (data : List UInt8) :
    ((c.written addr data).chip.sockets i).sr = (c.chip.sockets i).sr ∧
      ((c.written addr data).chip.sockets i).rx = (c.chip.sockets i).rx := by
  obtain ⟨a, block⟩ := addr
  cases block with
  | commonRegister =>
    rw [written, ChipState.serve_common]
    exact ⟨rfl, rfl⟩
  | socketRxBuffer j =>
    rw [written, ChipState.serve_writeRx]
    exact ⟨rfl, rfl⟩
  | socketTxBuffer j =>
    have hpoke : (c.written ⟨a, .socketTxBuffer j⟩ data).chip = c.chip.pokeTx j a data :=
      ChipState.serve_pokeTx ..
    rw [hpoke]
    exact ⟨ChipState.modifySocket_proj SocketModel.sr (by intro; rfl) _ _,
      ChipState.modifySocket_proj SocketModel.rx (by intro; rfl) _ _⟩
  | socketRegister j =>
    have hj : i ≠ j := fun hij => h (congrArg _ hij.symm)
    have hwrite : (c.written ⟨a, .socketRegister j⟩ data).chip = c.chip.writeReg j a data :=
      ChipState.serve_writeReg ..
    rw [hwrite, ChipState.writeReg_other hj]
    exact ⟨rfl, rfl⟩

/-! ## What is left on the chip -/

/-- `DISCONNECT` has not gone out on socket `i` since the log was `n` commands long. -/
def Unissued (n : Nat) (i : Fin 8) (c : LiveChip size) : Prop :=
  (i, SocketCommand.disconnect.bits) ∉ c.chip.commands.drop n

/-- If it has, it was the last command of the socket. -/
def Parted (n : Nat) (i : Fin 8) (c : LiveChip size) : Prop :=
  (i, SocketCommand.disconnect.bits) ∈ c.chip.commands.drop n →
    ∃ before after, c.chip.commands.drop n = before ++ (i, SocketCommand.disconnect.bits) :: after ∧
      ∀ command ∈ after, command.1 ≠ i

/-- The peer of socket `i` has sent everything it is going to send. -/
def PeerDone (i : Fin 8) (c : LiveChip size) : Prop :=
  (c.chip.sockets i).sr = 0x1C ∨ (c.chip.sockets i).sr = 0x00

/-- The same, and `n` bytes are still in the RX buffer. -/
def RxLeft (i : Fin 8) (n : UInt16) (c : LiveChip size) : Prop :=
  PeerDone i c ∧ (c.chip.sockets i).rx.used = n

/-- The writes that are no `DISCONNECT` of socket `i`. -/
def SparesClose (i : Fin 8) (addr : Address) (data : List UInt8) : Prop :=
  addr = ⟨SN_CR, .socketRegister i⟩ →
    ∃ command : SocketCommand, command ≠ .disconnect ∧ data = BigEndian.encode 1 command.bits.toNat

/-- The writes to anything but the registers of socket `i`. -/
def SparesRegister (i : Fin 8) (addr : Address) (_ : List UInt8) : Prop :=
  addr.block ≠ .socketRegister i

theorem bits_disconnect {command : SocketCommand}
    (h : command.bits = SocketCommand.disconnect.bits) : command = .disconnect := by
  revert h
  cases command <;> decide

theorem Unissued.command {data : List UInt8} (h : Unissued n i c)
    (hc : j = i → UInt8.ofNat (BigEndian.decode data) ≠ SocketCommand.disconnect.bits) :
    Unissued n i (c.written ⟨SN_CR, .socketRegister j⟩ data) := by
  rw [Unissued, written_command, ChipState.runCommand_commands, List.drop_append, List.mem_append]
  intro hmem
  rcases hmem with hold | hnew
  · exact h hold
  · have heq := List.mem_singleton.mp (List.mem_of_mem_drop hnew)
    exact hc (congrArg Prod.fst heq).symm (congrArg Prod.snd heq).symm

theorem passive_unissued (n : Nat) (i : Fin 8) :
    Passive (SparesClose i) (Unissued n i : LiveChip size → Prop) where
  pass c h := by
    rw [Unissued, pass_commands]
    exact h
  write c addr data hW h := by
    by_cases hcmd : ∃ j, addr = ⟨SN_CR, .socketRegister j⟩
    · obtain ⟨j, rfl⟩ := hcmd
      refine h.command fun hj heq => ?_
      obtain ⟨command, hne, rfl⟩ := hW (by rw [hj])
      exact hne (bits_disconnect ((decode_command command).symm.trans heq))
    · rw [Unissued, written_commands fun j hj => hcmd ⟨j, hj⟩]
      exact h

theorem passive_parted (n : Nat) (i : Fin 8) :
    Passive (SparesRegister i) (Parted n i : LiveChip size → Prop) where
  pass c h := by
    rw [Parted, pass_commands]
    exact h
  write c addr data hW h := by
    by_cases hcmd : ∃ j, addr = ⟨SN_CR, .socketRegister j⟩
    · obtain ⟨j, rfl⟩ := hcmd
      have hj : j ≠ i := fun hj => hW (congrArg _ hj)
      rw [Parted, written_command, ChipState.runCommand_commands, List.drop_append]
      -- one more command, and of another socket
      have hnew : ∀ command ∈ List.drop (n - c.chip.commands.length)
          [(j, UInt8.ofNat (BigEndian.decode data))], command.1 ≠ i := by
        intro command hmem
        rw [List.mem_singleton.mp (List.mem_of_mem_drop hmem)]
        exact hj
      intro hmem
      obtain ⟨before, after, hlog, hafter⟩ :=
        h ((List.mem_append.mp hmem).resolve_right fun hmem => hnew _ hmem rfl)
      refine ⟨before, after ++ _, by rw [hlog, List.append_assoc, List.cons_append], ?_⟩
      exact fun command hc => (List.mem_append.mp hc).elim (hafter command) (hnew command)
    · rw [Parted, written_commands fun j hj => hcmd ⟨j, hj⟩]
      exact h

/-- `DISCONNECT` is the last command when it is sent. -/
theorem Unissued.disconnect (h : Unissued n i c) :
    Parted n i (c.written ⟨SN_CR, .socketRegister i⟩
      (BigEndian.encode 1 SocketCommand.disconnect.bits.toNat)) := by
  rw [Parted, written_command, decode_command, ChipState.runCommand_commands, List.drop_append]
  intro hmem
  rcases List.mem_append.mp hmem with hmem | hmem
  · exact absurd hmem h
  · obtain ⟨before, after, hlog⟩ := List.append_of_mem hmem
    have hlen := congrArg List.length hlog
    rw [List.length_append, List.length_cons, List.length_drop, List.length_singleton] at hlen
    obtain rfl : after = [] := List.eq_nil_of_length_eq_zero (by omega)
    exact ⟨_ ++ before, [], by rw [hlog, List.append_assoc], by rintro _ ⟨⟩⟩

theorem SparesRegister.close {addr : Address} {data : List UInt8} (h : SparesRegister i addr data) :
    SparesClose i addr data := by
  rintro rfl
  exact absurd rfl h

/-- What is left of a socket that has nothing more to do with its peer, the log of
commands having been `n` long. -/
def Drained (n : Nat) (i : Fin 8) (rings : SocketRings w) (c : LiveChip size) : Prop :=
  (contents rings.rx = [] ∧ contents rings.tx = []) ∧ RxLeft i 0 c ∧ Parted n i c

end LiveChip

namespace SocketModel

variable {s : SocketModel}

/-- Nothing arrives from a peer that is done. -/
theorem happen_done (h : s.sr = 0x1C ∨ s.sr = 0x00) (e : PeerEvent) :
    ((s.happen size e).sr = 0x1C ∨ (s.happen size e).sr = 0x00) ∧
      (s.happen size e).rx.used = s.rx.used := by
  have hnone : s.arriving size e = [] := by
    rcases h with h | h <;> cases e <;> simp [arriving, takesUdp, h]
  refine ⟨?_, ?_⟩
  · rcases h with h | h <;> cases e <;> simp [happen, signalled, handshaking, h]
  · rw [happen, hnone]
    exact congrArg (· - s.rx.readPtr) (UInt16.add_zero _)

end SocketModel

namespace LiveChip

theorem passive_rxLeft (i : Fin 8) (n : UInt16) :
    Passive (SparesRegister i) (RxLeft i n : LiveChip size → Prop) where
  pass c h := by
    refine pass_of_happen (fun _ _ _ h => h) ?_ c h
    rintro c ⟨j, e⟩ ⟨hdone, hused⟩
    by_cases hj : i = j
    · subst hj
      obtain ⟨hdone', hused'⟩ := @SocketModel.happen_done size (c.chip.sockets i) hdone e
      refine ⟨?_, ?_⟩ <;> simp only [PeerDone, happen, ChipState.modifySocket, Function.update_self]
      · exact hdone'
      · rw [hused', hused]
    · refine ⟨?_, ?_⟩ <;> simpa only [PeerDone, happen, ChipState.modifySocket_other hj]
  write c addr data hW h := by
    obtain ⟨hsr, hrx⟩ := written_register hW data (c := c)
    rw [RxLeft, PeerDone, hsr, hrx]
    exact h

theorem passive_drained (n : Nat) (i : Fin 8) (rings : SocketRings w) :
    Passive (SparesRegister i) (Drained n i rings : LiveChip size → Prop) :=
  ((passive_rxLeft i 0).and (passive_parted n i)).beside _

/-- `DISCONNECT` leaves a socket whose peer is done with what it had. -/
theorem RxLeft.disconnect {c : LiveChip size} (h : RxLeft i 0 c) :
    RxLeft i 0 (c.written ⟨SN_CR, .socketRegister i⟩
      (BigEndian.encode 1 SocketCommand.disconnect.bits.toNat)) := by
  have hrun : (c.written ⟨SN_CR, .socketRegister i⟩
      (BigEndian.encode 1 SocketCommand.disconnect.bits.toNat)).chip =
      c.chip.runCommand i SocketCommand.disconnect.bits := by
    rw [written_command, decode_command]
  have hclosed : (c.chip.runCommand i SocketCommand.disconnect.bits).sockets =
      (c.chip.modifySocket i fun s => { s with sr := 0x00 }).sockets := rfl
  refine ⟨.inr ?_, ?_⟩ <;> rw [hrun, hclosed]
  · simp only [ChipState.modifySocket, Function.update_self]
  · simp only [ChipState.modifySocket, Function.update_self]
    exact h.2

end LiveChip

end Wiznet
