import Wiznet.SlotOwners
import Wiznet.Transcript

/-! # The addressing of the chip

The address, the gateway and the subnet mask live in registers of the chip: a
hardware reset clears them, and of all the accesses of the driver only three
writes of `setup_network` reach them. None of this depends on who holds which
cell. -/

namespace Wiznet
open Resumption Resumption.Code

variable {w L : Nat} {D P α : Type}

/-! ## The reset line -/

/-- A reset line that counts how often it was pulled low. -/
structure Pulled (P : Type) where
  pin : P
  lows : Nat

instance [OutputPin P] : OutputPin (Pulled P) where
  setLow q :=
    let out := OutputPin.setLow q.pin
    (out.1, ⟨out.2, if out.1 then q.lows + 1 else q.lows⟩)
  setHigh q := ((OutputPin.setHigh q.pin).1, { q with pin := (OutputPin.setHigh q.pin).2 })

/-! ## What reached the chip -/

/-- The accesses of the chip, and how many of them came before the last
hardware reset. -/
structure ChipLog where
  transcript : Transcript
  cleared : Nat

namespace ChipLog

def transcriptLens : Lens ChipLog Transcript where
  get g := g.transcript
  set t g := { g with transcript := t }
  get_set _ _ := rfl
  set_get _ := rfl
  set_set _ _ _ := rfl

end ChipLog

/-- What the chip hears. -/
abbrev hearing : Observer (Transceiver L (Logged D)) ChipLog :=
  transcribe.under ChipLog.transcriptLens

/-- The line goes low. -/
def notePulled : Observer (Pulled P) ChipLog where
  note q q' g := if q'.lows = q.lows then g else { g with cleared := g.transcript.bursts.length }
  note_self _ _ := if_pos rfl

def listener : DriverObserver L (Logged D) (Pulled P) ChipLog := ⟨hearing, notePulled, .mute⟩

/-- The addressing registers, as far as they are known: a write that was not
answered leaves a register in doubt. -/
structure AddressRegisters where
  ip : Option UInt32
  gateway : Option UInt32
  subnet : Option UInt32
  deriving DecidableEq, Repr

instance (b : Burst) (addr : Address) (write : Bool) : Decidable (b.Opens addr write) :=
  match b with
  | [] => isFalse fun ⟨_, _, h, _⟩ => nomatch h
  | e :: _ => decidable_of_iff (e.Accesses addr write)
    ⟨fun h => ⟨e, _, rfl, h⟩, fun ⟨_, _, heq, h⟩ => by cases heq; exact h⟩

/-- The value a write leaves in a four-byte register: one answered frame. -/
def Burst.word (b : Burst) : Option UInt32 :=
  match b with
  | [e] =>
    if e.answer.isSome ∧ e.mosi.length = HEADER + 4 then
      some (UInt32.ofNat (BigEndian.decode (e.mosi.drop HEADER)))
    else none
  | _ => none

namespace AddressRegisters

/-- After a hardware reset. -/
def zero : AddressRegisters := ⟨some 0, some 0, some 0⟩

def hear (a : AddressRegisters) (b : Burst) : AddressRegisters :=
  if b.Opens SIPR true then { a with ip := b.word }
  else if b.Opens GAR true then { a with gateway := b.word }
  else if b.Opens SUBR true then { a with subnet := b.word }
  else a

/-- After these accesses. -/
def after (bs : List Burst) : AddressRegisters := bs.foldl hear zero

end AddressRegisters

/-- The registers that hold this addressing. -/
def NetworkConfig.registers (c : NetworkConfig) : AddressRegisters :=
  ⟨some c.ip, some c.gateway, some c.subnet⟩

/-- What the registers hold, going by what reached the chip. -/
def ChipLog.registers (g : ChipLog) : AddressRegisters :=
  .after (g.transcript.bursts.drop g.cleared)

/-- The access is a write of one of the three registers. -/
def Addresses (addr : Address) (write : Bool) : Prop :=
  write = true ∧ (addr = SIPR ∨ addr = GAR ∨ addr = SUBR)

instance (addr : Address) (write : Bool) : Decidable (Addresses addr write) :=
  inferInstanceAs (Decidable (_ ∧ _))

namespace AddressRegisters

variable {a : AddressRegisters} {b : Burst} {addr : Address} {write : Bool} {v : UInt32}

theorem hear_other (hb : b.Opens addr write) (h : ¬ Addresses addr write) : a.hear b = a := by
  have hne : ∀ reg, reg = SIPR ∨ reg = GAR ∨ reg = SUBR → ¬ b.Opens reg true := by
    intro reg hreg hopens
    obtain ⟨rfl, rfl⟩ := hb.unique hopens
    exact h ⟨rfl, hreg⟩
  rw [hear, if_neg (hne SIPR (.inl rfl)), if_neg (hne GAR (.inr (.inl rfl))),
    if_neg (hne SUBR (.inr (.inr rfl)))]

/-- A frame that writes `v` into the register at `addr`. -/
structure Writes (e : BusEntry) (addr : Address) (v : UInt32) : Prop where
  mosi : e.mosi = createHeader addr true ++ BigEndian.encode 4 v.toNat
  answered : e.answer.isSome

theorem Writes.opens {e : BusEntry} (h : Writes e addr v) : Burst.Opens [e] addr true :=
  ⟨e, [], rfl, _, h.mosi⟩

theorem Writes.word {e : BusEntry} (h : Writes e addr v) : Burst.word [e] = some v := by
  have hlen : e.mosi.length = HEADER + 4 := by rw [h.mosi]; simp
  have hdata : e.mosi.drop HEADER = BigEndian.encode 4 v.toNat := by
    rw [h.mosi, List.drop_left' (createHeader_length _ _)]
  rw [Burst.word, if_pos ⟨h.answered, hlen⟩, hdata,
    BigEndian.decode_encode_of_lt (show v.toNat < 256 ^ 4 from v.toNat_lt), UInt32.ofNat_toNat]

theorem hear_ip {e : BusEntry} (h : Writes e SIPR v) : a.hear [e] = { a with ip := some v } := by
  rw [hear, if_pos h.opens, h.word]

theorem hear_gateway {e : BusEntry} (h : Writes e GAR v) :
    a.hear [e] = { a with gateway := some v } := by
  have hne : ¬ Burst.Opens [e] SIPR true := fun ho => by
    obtain ⟨heq, -⟩ := h.opens.unique ho
    exact absurd heq (by decide)
  rw [hear, if_neg hne, if_pos h.opens, h.word]

theorem hear_subnet {e : BusEntry} (h : Writes e SUBR v) :
    a.hear [e] = { a with subnet := some v } := by
  have hne : ∀ reg, reg ≠ SUBR → ¬ Burst.Opens [e] reg true := by
    intro reg hreg ho
    obtain ⟨heq, -⟩ := h.opens.unique ho
    exact hreg heq.symm
  rw [hear, if_neg (hne SIPR (by decide)), if_neg (hne GAR (by decide)), if_pos h.opens, h.word]

theorem after_snoc (bs : List Burst) (b : Burst) : after (bs ++ [b]) = (after bs).hear b := by
  simp [after]

end AddressRegisters

/-! ## On the bus -/

section Bus

variable {A : AddressRegisters → Prop} {addr : Address} {cell : Transceiver L (Logged D)}
  {g : ChipLog}

/-- The accesses are those that were clocked, and `A` holds of the registers. -/
structure Hears (A : AddressRegisters → Prop) (x : Transceiver L (Logged D) × ChipLog) : Prop where
  synced : Abreast (x.1, x.2.transcript)
  cleared : x.2.cleared ≤ x.2.transcript.bursts.length
  registers : A x.2.registers

/-- The same of the transcript alone, with `n` accesses before the reset. -/
abbrev HeardSince (n : Nat) (A : AddressRegisters → Prop) :
    Transceiver L (Logged D) × Transcript → Prop :=
  Written (fun bs => n ≤ bs.length ∧ A (.after (bs.drop n))) fun _ => True

theorem hears_iff : Hears A (cell, g) ↔ HeardSince g.cleared A (cell, g.transcript) :=
  ⟨fun h => ⟨h.synced, ⟨h.cleared, h.registers⟩, trivial⟩,
    fun h => ⟨h.synced, h.bursts.1, h.bursts.2⟩⟩

theorem keeps_hears {c : Code Error (Transceiver L (Logged D)) α}
    (h : ∀ n, Keeps (HeardSince n A) (c.watch transcribe)) : Keeps (Hears A) (c.watch hearing) := by
  rintro ⟨cell, g⟩ hx
  rw [wp_watch_under]
  exact wp_mono (h g.cleared (cell, g.transcript) (hears_iff.mp hx))
    (fun _ _ h => hears_iff.mpr h) fun _ _ h => hears_iff.mpr h

/-- Only the three writes change what is known of the registers. -/
def Spares (A : AddressRegisters → Prop) (addr : Address) (write : Bool) : Prop :=
  (∀ a, A a) ∨ ¬ Addresses addr write

theorem Spares.heeds {n : Nat} {write : Bool} (h : Spares A addr write) :
    Heeds (fun bs => n ≤ bs.length ∧ A (.after (bs.drop n))) addr write := by
  intro bs b hbs hb
  obtain ⟨hn, ha⟩ := hbs
  refine ⟨by rw [List.length_append]; omega, ?_⟩
  rw [List.drop_append_of_le_length hn, AddressRegisters.after_snoc]
  obtain hall | hother := h
  · exact hall _
  · rwa [AddressRegisters.hear_other hb hother]

theorem socket_not_addresses {i : Fin 8} {write : Bool} (ha : addr.block = (socketBlock i).reg ∨
    addr.block = (socketBlock i).rx ∨ addr.block = (socketBlock i).tx) :
    ¬ Addresses addr write := by
  rintro ⟨-, rfl | rfl | rfl⟩ <;> rcases ha with ha | ha | ha <;> cases ha

theorem Hears.mono {A' : AddressRegisters → Prop} {x : Transceiver L (Logged D) × ChipLog}
    (h : Hears A x) (hA : ∀ a, A a → A' a) : Hears A' x :=
  ⟨h.synced, h.cleared, hA _ h.registers⟩

variable [SpiDmaDevice D]

theorem hears_read {n : Nat} (hn : n ≤ 64) :
    Keeps (Hears A) ((read addr n).watch (hearing (L := L) (D := D))) :=
  keeps_hears fun _ => keeps_written_read hn (Spares.heeds (.inr fun h => nomatch h.1))

theorem hears_write {data : List UInt8} (hdata : data.length ≤ 64) (h : Spares A addr true) :
    Keeps (Hears A) ((write addr data).watch (hearing (L := L) (D := D))) :=
  keeps_hears fun _ => keeps_written_write hdata h.heeds

theorem hears_delay (ns : UInt32) :
    Keeps (Hears A) ((delay ns).watch (hearing (L := L) (D := D))) :=
  keeps_hears fun _ => keeps_written_delay ns

/-- A word that is written is heard. -/
theorem hears_writeU32 (hL : HEADER + 4 ≤ L) {a : AddressRegisters} {v : UInt32} :
    Triple (Hears (· = a)) ((writeU32 addr v).watch (hearing (L := L) (D := D)))
      (fun _ x => ∃ e, AddressRegisters.Writes e addr v ∧ Hears (· = a.hear [e]) x)
      fun _ => Hears fun _ => True := by
  rintro ⟨cell, g⟩ hx
  have hkeep : wp ((writeU32 addr v).watch hearing) (fun _ => Hears fun _ => True)
      (fun _ => Hears fun _ => True) (cell, g) :=
    hears_write (by simp) (.inl fun _ => trivial) (cell, g) (hx.mono fun _ _ => trivial)
  have hframe : wp ((writeU32 addr v).watch hearing) (fun _ x => ∃ e,
      AddressRegisters.Writes e addr v ∧ Hears (· = a.hear [e]) x) (fun _ _ => True) (cell, g) := by
    rw [writeU32, wp_watch_under]
    refine wp_mono (wp_written_frame (hears_iff.mp hx) (by simpa using hL)) ?_ fun _ _ h => h
    rintro _ x ⟨hsynced, e, hmosi, ha, hbursts⟩
    have hcleared : g.cleared ≤ g.transcript.bursts.length := hx.cleared
    replace hbursts : x.2.bursts = g.transcript.bursts ++ [[e]] := hbursts
    refine ⟨e, ⟨hmosi, ha⟩, hsynced, ?_, ?_⟩
    · change g.cleared ≤ x.2.bursts.length
      rw [hbursts, List.length_append]
      omega
    · change AddressRegisters.after (x.2.bursts.drop g.cleared) = _
      rw [hbursts, List.drop_append_of_le_length hcleared, AddressRegisters.after_snoc]
      exact congrArg (AddressRegisters.hear · [e]) hx.registers
  exact wp_mono (wp_and hframe hkeep) (fun _ _ h => h.1) fun _ _ h => h.2

/-- No tick of a socket addresses the registers. -/
theorem serves_hears (i : Fin 8) :
    Serves (hearing (L := L) (D := D)) (socketBlock i) (Hears A) fun _ _ _ => Hears A := by
  have hs : ∀ n, Serves (transcribe (L := L) (D := D)) (socketBlock i) (HeardSince n A)
      fun _ _ _ => HeardSince n A := fun n =>
    serves_written
      (fun _ ha => Spares.heeds (.inr (socket_not_addresses (ha.imp_right .inl))))
      fun _ ha => Spares.heeds (.inr (socket_not_addresses (ha.imp_right .inr)))
  refine ⟨fun addr n ha hn => keeps_hears fun m => (hs m).read addr n ha hn,
    fun addr data ha hd => keeps_hears fun m => (hs m).write addr data ha hd,
    fun kind pointer len hk => keeps_hears fun m => (hs m).startRead kind pointer len hk,
    fun l pointer len fill hfill => ?_⟩
  rintro ⟨s, g⟩ hx
  have h := (hs g.cleared).startWrite l pointer len fill hfill (s, g.transcript) (hears_iff.mp hx)
  change wp (Code.watch ((transcribe.comap l.get).under ChipLog.transcriptLens) _) _ _ _
  rw [wp_watch_under]
  exact wp_mono h (fun _ _ h => hears_iff.mpr h) fun _ _ h => hears_iff.mpr h

end Bus

end Wiznet
