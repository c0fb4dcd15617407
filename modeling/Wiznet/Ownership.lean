import Wiznet.Ticks

/-! # Who owns the bus

An idle bus is idle after a tick that started nothing, and carries exactly the
reported frame after one that did; a bus in flight is not touched. -/

namespace Wiznet
open Resumption Resumption.Code

variable {w L : Nat} {D : Type}

/-- The chip buffer a transfer of this kind moves. -/
def BulkKind.buffer : BulkKind → BlockAddress → BlockSelectionBits
  | .transmit, block => block.tx
  | _, block => block.rx

def BulkKind.writes : BulkKind → Bool
  | .transmit => true
  | _ => false

/-- The bus was idle, and now carries exactly the frame of this transfer. -/
def Launched (held : Option (Transaction L D)) (block : BlockAddress) (kind : BulkKind)
    (pointer : UInt16) (len : Nat) (cell : Transceiver L D) : Prop :=
  held = none ∧ ∃ txn, cell = .inFlight txn ∧
    Carries txn ⟨pointer, kind.buffer block⟩ kind.writes len

variable [SpiDmaDevice D]

theorem serves_held (held : Option (Transaction L D)) (block : BlockAddress) :
    Serves .blind block (fun x => Held held x.1)
      fun kind pointer len x => Launched held block kind pointer len x.1 where
  read addr n _ _ := (keeps_read addr n).watch
  write addr data _ _ := (keeps_write addr data).watch
  startRead kind pointer len hk := by
    refine Triple.watch (P := Held held) (Q := fun _ => Launched held block kind pointer len)
      (E := fun _ => Held held) fun cell h => ?_
    refine wp_mono (wp_startRead h ⟨pointer, block.rx⟩ len) ?_ fun _ _ h => h
    rintro _ cell ⟨hnone, txn, rfl, hc⟩
    cases kind with
    | transmit => exact absurd rfl hk
    | _ => exact ⟨hnone, txn, rfl, hc⟩
  startWrite cell pointer len fill _ := Triple.watch (P := fun s => Held held (cell.get s))
    (Q := fun _ s => Launched held block .transmit pointer len (cell.get s))
    (E := fun _ s => Held held (cell.get s)) fun _ h =>
      wp_startWrite cell h ⟨pointer, block.tx⟩ len fill

theorem keeps_held_initSocket (held : Option (Transaction L D)) (block : BlockAddress)
    (mode : SocketProtocolMode) : Keeps (Held held) (initSocket (L := L) block mode) :=
  Keeps.of_watch ((serves_held held block).quiet mode).initSocket

end Wiznet
