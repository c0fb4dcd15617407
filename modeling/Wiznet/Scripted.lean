import Wiznet.SpiDma

/-! # A scripted bus

A device that answers its frames from a list, for runs on concrete inputs: the
payload to shift in behind the command header, or a failed transfer. Behind the
end of the script it shifts in zeros. -/

namespace Wiznet

structure Scripted where
  answers : List (Option (List UInt8))
  deriving DecidableEq, Repr

/-- As many bytes as went out, with `payload` behind the header. -/
def shiftIn (n : Nat) (payload : List UInt8) : List UInt8 :=
  copyFromSlice (List.replicate n 0) 3 payload

instance : SpiDmaDevice Scripted where
  clock d mosi _ :=
    match d.answers with
    | [] => (some ⟨shiftIn mosi.length [], by simp [shiftIn]⟩, d)
    | none :: rest => (none, ⟨rest⟩)
    | some payload :: rest => (some ⟨shiftIn mosi.length payload, by simp [shiftIn]⟩, ⟨rest⟩)
  delayNs d _ := d

/-- A reset line that always obeys. -/
instance : OutputPin Unit where
  setLow p := (true, p)
  setHigh p := (true, p)

/-- An all-zero scratch. -/
def zeroScratch (L : Nat) : DmaBuffers L :=
  ⟨List.replicate L 0, List.replicate L 0, 0, by simp, by simp⟩

/-- An all-zero hardware address has its six bytes. -/
theorem zeroMac_length : ([0, 0, 0, 0, 0, 0] : List UInt8).length = 6 := rfl

end Wiznet
