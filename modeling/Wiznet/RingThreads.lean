import Wiznet.RingQueue
import Wiznet.Lib.Threads

/-! # The ring between its two ends

One producer and one consumer, every load, store and copied byte of theirs in
any order. The producer relies on `head` moving towards `tail` only, the
consumer on the contents growing at the back only. -/

namespace Wiznet
open Resumption Cyclic

variable {w : Nat} {α : Type}

namespace SpscRing

/-- The calls of the consumer. -/
inductive ConsumerCall where
  | read (n : Nat)
  | peek (n : Nat)

namespace ConsumerCall

def requested : ConsumerCall → Nat
  | .read n | .peek n => n

def run : ConsumerCall → Prog (SpscRing w) (List UInt8)
  | .read n => SpscRing.read n
  | .peek n => SpscRing.peek n

end ConsumerCall

/-! ## Cells -/

/-- The next step can change cell `i`. -/
def Writes : Prog (SpscRing w) α → Nat → Prop
  | .ret _, _ => False
  | .step act _, i => ∃ r : SpscRing w, (act r).buf i ≠ r.buf i

/-- What follows the next step can depend on cell `i`. -/
def Reads : Prog (SpscRing w) α → Nat → Prop
  | .ret _, _ => False
  | .step _ next, i => ∃ (r : SpscRing w) (b : UInt8), next (r.poke i b) ≠ next r

/-- The cells behind the contents. -/
def Vacant (r : SpscRing w) (i : Nat) : Prop :=
  ∃ j < r.cap.toNat - (r.tail - r.head).toNat, i = (r.tail.toNat + j) % r.cap.toNat

/-- The cells of the contents. -/
def Stored (r : SpscRing w) (i : Nat) : Prop :=
  ∃ j < (r.tail - r.head).toNat, i = (r.head.toNat + j) % r.cap.toNat

theorem not_stored_of_vacant {r : SpscRing w} (h : Sound r) {i : Nat} (hv : Vacant r i) :
    ¬ Stored r i := by
  rintro ⟨j, hj, heq⟩
  obtain ⟨k, hk, rfl⟩ := hv
  have hroom := h.room
  rw [Nat.add_mod, h.tail, ← Nat.add_mod, Nat.add_assoc] at heq
  exact index_ne (by omega) (by omega) heq.symm

theorem not_writes_load {β : Type} (f : SpscRing w → β) (k : β → Prog (SpscRing w) α) (i : Nat) :
    ¬ Writes ((Prog.load f).bind k) i := fun ⟨_, h⟩ => h rfl

theorem not_reads_load {β : Type} {f : SpscRing w → β} {k : β → Prog (SpscRing w) α} {i : Nat}
    (hf : ∀ r b, f (poke r i b) = f r) : ¬ Reads ((Prog.load f).bind k) i := by
  rintro ⟨r, b, h⟩
  refine h ?_
  simp only [Prog.ret_bind]
  rw [hf]

theorem not_reads_store (f : SpscRing w → SpscRing w) (k : Unit → Prog (SpscRing w) α) (i : Nat) :
    ¬ Reads ((Prog.store f).bind k) i := fun ⟨_, _, h⟩ => h rfl

/-- A capacity for which positions never jump, and contents that fit. -/
structure Even (r : SpscRing w) : Prop where
  dvd : r.cap.toNat ∣ 2 ^ w
  room : (r.tail - r.head).toNat ≤ r.cap.toNat

theorem Even.sound {r : SpscRing w} (h : Even r) : Sound r where
  installed := by
    intro hz
    have hdvd := h.dvd
    rw [hz, show (0 : BitVec w).toNat = 0 from rfl, Nat.zero_dvd] at hdvd
    exact absurd hdvd (Nat.two_pow_pos w).ne'
  room := h.room
  straight := .inl h.dvd

theorem Even.popped {r : SpscRing w} (h : Even r) {n : Nat} (hn : n ≤ (r.tail - r.head).toNat) :
    Even (popped n r) := ⟨h.dvd, (h.sound.popped hn).room⟩

/-! ## The producer -/

/-- Nothing need be taken. -/
theorem popped_refl (r : SpscRing w) : ∃ n ≤ (r.tail - r.head).toNat, r = popped n r :=
  ⟨0, Nat.zero_le _, (popped_zero r).symm⟩

theorem popped_trans {r s t : SpscRing w} (h : ∃ n ≤ (r.tail - r.head).toNat, s = popped n r)
    (h' : ∃ n ≤ (s.tail - s.head).toNat, t = popped n s) :
    ∃ n ≤ (r.tail - r.head).toNat, t = popped n r := by
  obtain ⟨n, hn, rfl⟩ := h
  obtain ⟨m, hm, rfl⟩ := h'
  simp only [popped] at hm
  rw [toNat_sub_advance hn] at hm
  exact ⟨n + m, by omega, popped_popped n m⟩

/-- What is taken leaves more cells vacant. -/
theorem Vacant.popped {r : SpscRing w} {i n : Nat} (h : Vacant r i)
    (hn : n ≤ (r.tail - r.head).toNat) : Vacant (popped n r) i := by
  obtain ⟨j, hj, heq⟩ := h
  refine ⟨j, ?_, heq⟩
  simp only [SpscRing.popped]
  rw [toNat_sub_advance hn]
  omega

/-- The consumer only takes bytes away; a `write` fills cells that are vacant,
and its last step moves `tail` behind those it filled. -/
def producer : Promise (SpscRing w) (List UInt8) Nat where
  rely r r' := ∃ n ≤ (r.tail - r.head).toNat, r' = popped n r
  own p r := ∀ i, Writes p i → Vacant r i
  mid r r' := ∃ cells, r' = { r with buf := cells } ∧ ∀ i, ¬ Vacant r i → cells i = r.buf i
  fin src start n r r' :=
    r' = { r with tail := r.tail + BitVec.ofNat w n } ∧
    window r.buf r.cap.toNat r.tail.toNat n = src.take n ∧
    n + (r.tail - r.head).toNat ≤ r.cap.toNat ∧
    min src.length (start.cap - (start.tail - start.head)).toNat ≤ n
  rely_refl := popped_refl
  rely_trans := popped_trans
  mid_refl r := ⟨r.buf, rfl, fun _ _ => rfl⟩
  own_rely := by
    rintro p r - hown ⟨n, hn, rfl⟩ i hi
    exact (hown i hi).popped hn
  own_mid := by
    rintro p r - ⟨cells, rfl, -⟩
    exact Iff.rfl
  own_ret _ _ _ h := h.elim

section Producer

variable {src bs : List UInt8} {start before r : SpscRing w} {tail : BitVec w} {n : Nat}

/-- The last step of a `write`, all bytes being in their cells. -/
theorem producer_publish (hmid : producer.mid before r) (ht : r.tail = tail)
    (hcells : window r.buf r.cap.toNat tail.toNat n = src.take n)
    (hroom : n + (r.tail - r.head).toNat ≤ r.cap.toNat)
    (hmin : min src.length (start.cap - (start.tail - start.head)).toNat ≤ n) :
    producer.Meets src start ((Prog.store fun r => { r with tail := tail + BitVec.ofNat w n }).bind
      fun _ => .ret n) before r := by
  subst ht
  refine Promise.Meets.store hmid ?_
  rintro - ⟨m, hm, rfl⟩
  refine ⟨fun i ⟨r', h⟩ => absurd rfl h, rfl, hcells, ?_, hmin⟩
  simp only [popped]
  rw [toNat_sub_advance hm]
  omega

/-- The copy of a `write` from its `j`-th byte on. -/
theorem producer_copy {j : Nat} (hmid : producer.mid before r) (he : Even r) (ht : r.tail = tail)
    (hcells : window r.buf r.cap.toNat tail.toNat j ++ bs = src.take n)
    (hn : j + bs.length = n)
    (hroom : n + (r.tail - r.head).toNat ≤ r.cap.toNat)
    (hmin : min src.length (start.cap - (start.tail - start.head)).toNat ≤ n) :
    producer.Meets src start ((copyInto r.cap.toNat (tail.toNat + j) bs).bind fun _ =>
      (Prog.store fun r => { r with tail := tail + BitVec.ofNat w n }).bind fun _ => .ret n)
      before r := by
  subst ht
  induction bs generalizing before r j with
  | nil =>
    rw [List.append_nil] at hcells
    obtain rfl : j = n := hn
    exact producer_publish hmid rfl hcells hroom hmin
  | cons b bs ih =>
    rw [List.length_cons] at hn
    rw [copyInto, Prog.bind_assoc]
    refine Promise.Meets.store hmid ?_
    rintro - ⟨m, hm, rfl⟩
    have hvacant : Vacant (popped m r) ((r.tail.toNat + j) % r.cap.toNat) := by
      refine ⟨j, ?_, rfl⟩
      simp only [popped]
      rw [toNat_sub_advance hm]
      omega
    have hroom' : n + ((popped m r).tail - (popped m r).head).toNat ≤ r.cap.toNat := by
      simp only [popped]
      rw [toNat_sub_advance hm]
      omega
    refine ⟨?_, ?_⟩
    · rintro i ⟨r', h⟩
      by_cases hi : i = (r.tail.toNat + j) % r.cap.toNat
      · rw [hi]
        exact hvacant
      · refine absurd ?_ h
        simp only [poke]
        rw [Function.update_of_ne hi]
    · have hcells' : window ((popped m r).poke ((r.tail.toNat + j) % r.cap.toNat) b).buf
          r.cap.toNat r.tail.toNat (j + 1) ++ bs = src.take n := by
        simp only [poke, popped]
        rw [window_update_succ _ _ _ (by omega), List.append_assoc, List.singleton_append, hcells]
      refine ih (r := (popped m r).poke ((r.tail.toNat + j) % r.cap.toNat) b) ⟨_, rfl, ?_⟩
        ⟨he.dvd, (he.popped hm).room⟩ (by omega) hroom' hcells'
      intro i hi
      rw [Function.update_of_ne]
      intro heq
      exact hi (heq ▸ hvacant)

/-- `write` once its three loads are done. -/
def writeFrom (src : List UInt8) (cap head tail : BitVec w) : Prog (SpscRing w) Nat :=
  let n := min src.length (cap - (tail - head)).toNat
  if n = 0 then .ret 0
  else
    let start := tail.toNat % cap.toNat
    let first := min n (cap.toNat - start)
    (copyIn start (src.take first)).bind fun _ =>
      (copyIn 0 ((src.take n).drop first)).bind fun _ =>
        (Prog.store fun r => { r with tail := tail + BitVec.ofNat w n }).bind fun _ => .ret n

theorem write_eq (src : List UInt8) :
    write src = (Prog.load (·.cap) : Prog (SpscRing w) _).bind fun cap =>
      if cap = 0 then .ret 0
      else (Prog.load (·.head)).bind fun head => (Prog.load (·.tail)).bind fun tail =>
        writeFrom src cap head tail := rfl

/-- A `write` that saw `head` where it was earlier, after it began. -/
theorem producer_writeFrom {head : BitVec w} (he : Even r) (hcap : start.cap = r.cap)
    (hsince : (r.tail - r.head).toNat ≤ (r.tail - head).toNat)
    (hstart : (r.tail - head).toNat ≤ (start.tail - start.head).toNat)
    (hroom : (start.tail - start.head).toNat ≤ start.cap.toNat) :
    producer.Meets src start (writeFrom src r.cap head r.tail) r r := by
  have hthen := toNat_sub_le hroom
  have hnow := toNat_sub_le (hstart.trans hroom)
  have hnat : start.cap.toNat = r.cap.toNat := by rw [hcap]
  rw [hcap] at hnow
  rw [writeFrom]
  dsimp only
  generalize hn : min src.length (r.cap - (r.tail - head)).toNat = n
  by_cases hz : n = 0
  · rw [if_pos hz]
    exact ⟨by rw [BitVec.add_zero], rfl, by omega, by omega⟩
  · rw [if_neg hz, ← Prog.bind_assoc, copyIn_seam (cap_pos he.sound.installed) (by omega) (by omega)]
    exact producer_copy (j := 0) (producer.mid_refl r) he rfl (List.nil_append _)
      (by rw [List.length_take_of_le (by omega), Nat.zero_add]) (by omega) (by omega)

/-- Every `write` keeps the producer's promise. -/
theorem producer_write (he : Even r) (src : List UInt8) :
    producer.Meets src r (write src) r r := by
  rw [write_eq]
  refine Promise.Meets.load (producer.mid_refl r) ?_
  rintro - ⟨m₁, hm₁, rfl⟩
  refine ⟨fun i h => absurd h (not_writes_load _ _ i), ?_⟩
  rw [if_neg (show (popped m₁ r).cap ≠ 0 from he.sound.installed)]
  refine Promise.Meets.load (producer.mid_refl _) ?_
  rintro - ⟨m₂, hm₂, rfl⟩
  refine ⟨fun i h => absurd h (not_writes_load _ _ i), ?_⟩
  refine Promise.Meets.load (producer.mid_refl _) ?_
  rintro - ⟨m₃, hm₃, rfl⟩
  refine ⟨fun i h => absurd h (not_writes_load _ _ i), ?_⟩
  have he₂ := (he.popped hm₁).popped hm₂
  refine producer_writeFrom (r := popped m₃ (popped m₂ (popped m₁ r))) (he₂.popped hm₃) rfl ?_ ?_ he.room
  · exact (toNat_sub_advance hm₃).trans_le (Nat.sub_le ..)
  · exact ((toNat_sub_advance hm₂).trans_le (Nat.sub_le ..)).trans
      ((toNat_sub_advance hm₁).trans_le (Nat.sub_le ..))

end Producer

/-! ## Copies out -/

section CopyOut

variable {R A : Type} {P : Promise (SpscRing w) R A} {request : R} {start r : SpscRing w} {n : Nat}

/-- A stored byte stays where it is as long as it is not taken. -/
theorem stored_getElem {r' : SpscRing w} (hh : r'.head = r.head) (hc : r'.cap = r.cap)
    (hp : contents r <+: contents r') {j : Nat} (hj : j < (r.tail - r.head).toNat) :
    r'.buf ((r.head.toNat + j) % r.cap.toNat) = r.buf ((r.head.toNat + j) % r.cap.toNat) := by
  have hlen := hp.length_le
  have hget := hp.getElem (i := j) (by rwa [length_contents])
  rw [length_contents, length_contents] at hlen
  simp only [contents, window, List.getElem_map, List.getElem_range, hh, hc] at hget
  exact hget.symm

/-- The copy of a `read` or `peek` from its `j`-th byte on, where the contents
only grow at the back. -/
theorem meets_copyOutOf
    (hrely : ∀ {r r'}, P.rely r r' → r'.head = r.head ∧ r'.cap = r.cap ∧ contents r <+: contents r')
    (hown : ∀ {r j} {k : UInt8 → Prog (SpscRing w) A}, j < (r.tail - r.head).toNat →
      P.own ((Prog.load fun r' => r'.buf ((r.head.toNat + j) % r.cap.toNat)).bind k) r)
    {k : List UInt8 → Prog (SpscRing w) A} {j : Nat} (hn : j + n ≤ (r.tail - r.head).toNat)
    (hk : ∀ r', P.rely r r' →
      P.Meets request start (k (window r'.buf r.cap.toNat (r.head.toNat + j) n)) r' r') :
    P.Meets request start ((copyOutOf r.cap.toNat (r.head.toNat + j) n).bind k) r r := by
  induction n generalizing r j k with
  | zero => exact hk r (P.rely_refl r)
  | succ n ih =>
    rw [copyOutOf, Prog.bind_assoc]
    refine Promise.Meets.load (P.mid_refl r) ?_
    intro r' hr
    obtain ⟨hh, hc, hp⟩ := hrely hr
    have hlen := hp.length_le
    rw [length_contents, length_contents] at hlen
    refine ⟨?_, ?_⟩
    · rw [← hh, ← hc]
      exact hown (by omega)
    · rw [Prog.bind_assoc]
      simp only [Prog.ret_bind]
      have hrest := ih (r := r') (j := j + 1) (by omega)
        (k := fun bs => k (r'.buf ((r.head.toNat + j) % r.cap.toNat) :: bs)) ?_
      · rwa [hh, hc] at hrest
      · intro r'' hr''
        obtain ⟨hh', hc', hp'⟩ := hrely hr''
        have hcell := stored_getElem hh' hc' hp' (j := j) (by omega)
        rw [hh, hc] at hcell ⊢
        have hall := hk r'' (P.rely_trans hr hr'')
        rwa [window_cons, hcell] at hall

end CopyOut

/-! ## The consumer -/

/-- The ring after a call of the consumer answered `bs`. -/
def ConsumerCall.after (bs : List UInt8) (r : SpscRing w) : ConsumerCall → SpscRing w
  | .read _ => popped bs.length r
  | .peek _ => r

/-- The producer only adds bytes at the back; a `read` or `peek` looks at the
contents, and the last step of a `read` takes away what it copied. -/
def consumer : Promise (SpscRing w) ConsumerCall (List UInt8) where
  rely r r' := r'.head = r.head ∧ r'.cap = r.cap ∧ contents r <+: contents r' ∧ (Even r → Even r')
  own p r := ∀ i, Reads p i → Stored r i
  mid r r' := r' = r
  fin call start bs r r' := r' = call.after bs r ∧ bs <+: contents r ∧
    min call.requested (start.tail - start.head).toNat ≤ bs.length
  rely_refl _ := ⟨rfl, rfl, List.prefix_rfl, id⟩
  rely_trans := by
    rintro r s t ⟨hh, hc, hp, he⟩ ⟨hh', hc', hp', he'⟩
    exact ⟨hh'.trans hh, hc'.trans hc, hp.trans hp', he' ∘ he⟩
  mid_refl _ := rfl
  own_rely := by
    rintro p r s hown ⟨hh, hc, hp, -⟩ i hi
    obtain ⟨j, hj, heq⟩ := hown i hi
    have hlen := hp.length_le
    rw [length_contents, length_contents] at hlen
    exact ⟨j, by omega, by rw [heq, hh, hc]⟩
  own_mid := by
    rintro p r s rfl
    exact Iff.rfl
  own_ret _ _ _ h := h.elim

section Consumer

variable {call : ConsumerCall} {start r : SpscRing w} {n : Nat}

/-- What follows the copy of `n` bytes from `head` on. -/
def ConsumerCall.finish (head : BitVec w) (n : Nat) (dst : List UInt8) :
    ConsumerCall → Prog (SpscRing w) (List UInt8)
  | .read _ => (Prog.store fun r => { r with head := head + BitVec.ofNat w n }).bind fun _ =>
      .ret dst
  | .peek _ => .ret dst

/-- `read` or `peek` once its three loads are done. -/
def ConsumerCall.takeFrom (cap head tail : BitVec w) (call : ConsumerCall) :
    Prog (SpscRing w) (List UInt8) :=
  let n := min call.requested (tail - head).toNat
  if n = 0 then .ret [] else (copyFrom cap head n).bind fun dst => call.finish head n dst

theorem ConsumerCall.run_eq (call : ConsumerCall) :
    call.run = (Prog.load (·.cap) : Prog (SpscRing w) _).bind fun cap =>
      if cap = 0 then .ret []
      else (Prog.load (·.tail)).bind fun tail => (Prog.load (·.head)).bind fun head =>
        call.takeFrom cap head tail := by
  cases call with
  | read n => rfl
  | peek n =>
    have hret : ∀ p : Prog (SpscRing w) (List UInt8), p.bind (fun dst => .ret dst) = p :=
      Prog.bind_ret
    simp only [ConsumerCall.takeFrom, ConsumerCall.finish, hret]
    rfl

/-- The answer being the front of the contents, the call ends as promised. -/
theorem consumer_finish {bs : List UInt8} (hbs : bs <+: contents r) (hn : bs.length = n)
    (hmin : min call.requested (start.tail - start.head).toNat ≤ n) :
    consumer.Meets call start (call.finish r.head n bs) r r := by
  subst hn
  cases call with
  | read m =>
    refine Promise.Meets.store (consumer.mid_refl r) ?_
    intro r' hr
    refine ⟨fun i hi => absurd hi (not_reads_store _ _ i), ?_, hbs.trans hr.2.2.1, hmin⟩
    simp only [ConsumerCall.after, popped, hr.1]
  | peek m => exact ⟨rfl, hbs, hmin⟩

theorem consumer_takeFrom {tail : BitVec w} (call : ConsumerCall) (he : Even r)
    (hstart : (start.tail - start.head).toNat ≤ (tail - r.head).toNat)
    (hlen : (tail - r.head).toNat ≤ (r.tail - r.head).toNat) :
    consumer.Meets call start (call.takeFrom r.cap r.head tail) r r := by
  rw [ConsumerCall.takeFrom]
  generalize hn : min call.requested (tail - r.head).toNat = n
  by_cases hz : n = 0
  · rw [if_pos hz]
    refine ⟨?_, List.nil_prefix, by rw [List.length_nil]; omega⟩
    cases call with
    | read m => exact (popped_zero r).symm
    | peek m => rfl
  · have hroom := he.room
    rw [if_neg hz, copyFrom_eq he.sound.installed (by omega)]
    refine meets_copyOutOf (P := consumer) (j := 0) (fun h => ⟨h.1, h.2.1, h.2.2.1⟩)
      (fun hj i hi => ?_) (by omega) ?_
    · by_contra hns
      refine not_reads_load ?_ hi
      intro r₁ b
      refine Function.update_of_ne ?_ _ _
      rintro rfl
      exact hns ⟨_, hj, rfl⟩
    intro r' hr
    obtain ⟨hh, hc, hp, -⟩ := hr
    have hgrown := hp.length_le
    rw [length_contents, length_contents] at hgrown
    rw [Nat.add_zero, ← hh, ← hc]
    refine consumer_finish ?_ (window_length ..) (by omega)
    have htake := window_take r'.buf r'.cap.toNat r'.head.toNat
      (show n ≤ (r'.tail - r'.head).toNat by omega)
    rw [← htake]
    exact List.take_prefix ..

/-- Every `read` and `peek` keeps the consumer's promise. -/
theorem consumer_run (he : Even r) (call : ConsumerCall) :
    consumer.Meets call r call.run r r := by
  have hlen : ∀ {r r' : SpscRing w}, consumer.rely r r' →
      (r.tail - r.head).toNat ≤ (r'.tail - r'.head).toNat := by
    rintro r r' ⟨-, -, hp, -⟩
    simpa using hp.length_le
  rw [ConsumerCall.run_eq]
  refine Promise.Meets.load (consumer.mid_refl r) ?_
  intro r₁ hr₁
  refine ⟨fun i hi => absurd hi (not_reads_load fun _ _ => rfl), ?_⟩
  have he₁ := hr₁.2.2.2 he
  rw [if_neg he₁.sound.installed]
  refine Promise.Meets.load (consumer.mid_refl _) ?_
  intro r₂ hr₂
  refine ⟨fun i hi => absurd hi (not_reads_load fun _ _ => rfl), ?_⟩
  refine Promise.Meets.load (consumer.mid_refl _) ?_
  intro r₃ hr₃
  refine ⟨fun i hi => absurd hi (not_reads_load fun _ _ => rfl), ?_⟩
  have hstart : (r.tail - r.head).toNat ≤ (r₂.tail - r₃.head).toNat := by
    rw [hr₃.1]
    exact (hlen hr₁).trans (hlen hr₂)
  have hgrown : (r₂.tail - r₃.head).toNat ≤ (r₃.tail - r₃.head).toNat := by
    have h := hlen hr₃
    rwa [← hr₃.1] at h
  have htaken := consumer_takeFrom call (hr₃.2.2.2 (hr₂.2.2.2 he₁)) hstart hgrown
  rwa [hr₃.2.1, hr₂.2.1] at htaken

end Consumer

/-! ## Both ends at once -/

/-- The bytes of the writes that are done, as far as they were accepted. -/
def bytesWritten (done : List (Finished (SpscRing w) (List UInt8) Nat)) : List UInt8 :=
  done.flatMap fun f => f.request.take f.answer

/-- The bytes of the reads that are done. -/
def bytesRead (done : List (Finished (SpscRing w) ConsumerCall (List UInt8))) : List UInt8 :=
  done.flatMap fun f =>
    match f.request with
    | .read _ => f.answer
    | .peek _ => []

/-- The contents are the bytes written and not yet read, and no call moved
less than it saw room or bytes for when it began. -/
structure InStep (cap : BitVec w) (written : List (Finished (SpscRing w) (List UInt8) Nat))
    (drawn : List (Finished (SpscRing w) ConsumerCall (List UInt8))) (r : SpscRing w) : Prop where
  even : Even r
  cap_eq : r.cap = cap
  bytes : bytesWritten written = bytesRead drawn ++ contents r
  written_enough : ∀ f ∈ written, min f.request.length (free.run f.start).1.toNat ≤ f.answer
  drawn_enough : ∀ f ∈ drawn, min f.request.requested (len.run f.start).1.toNat ≤ f.answer.length

section Steps

variable {cap : BitVec w} {written : List (Finished (SpscRing w) (List UInt8) Nat)}
  {drawn : List (Finished (SpscRing w) ConsumerCall (List UInt8))} {r r' : SpscRing w}

theorem contents_copied {cells : Nat → UInt8} (he : Even r)
    (hcells : ∀ i, ¬ Vacant r i → cells i = r.buf i) :
    contents { r with buf := cells } = contents r := by
  refine List.map_congr_left fun j hj => hcells _ fun hv => ?_
  exact not_stored_of_vacant he.sound hv ⟨j, List.mem_range.mp hj, rfl⟩

theorem contents_published (he : Even r) {n : Nat} {bs : List UInt8}
    (hcells : window r.buf r.cap.toNat r.tail.toNat n = bs)
    (hroom : n + (r.tail - r.head).toNat ≤ r.cap.toNat) :
    contents { r with tail := r.tail + BitVec.ofNat w n } = contents r ++ bs ∧
      Even { r with tail := r.tail + BitVec.ofNat w n } := by
  have hlt := r.cap.isLt
  have hlen : (r.tail + BitVec.ofNat w n - r.head).toNat = (r.tail - r.head).toNat + n :=
    toNat_advance_sub (by omega)
  refine ⟨?_, he.dvd, ?_⟩
  · rw [contents, hlen, window_add, ← window_congr he.sound.tail, hcells]
    rfl
  · dsimp only
    rw [hlen]
    omega

theorem InStep.copied (h : InStep cap written drawn r) (hmid : producer.mid r r') :
    consumer.rely r r' ∧ InStep cap written drawn r' := by
  obtain ⟨cells, rfl, hcells⟩ := hmid
  have hsame := contents_copied h.even hcells
  refine ⟨⟨rfl, rfl, hsame.symm ▸ List.prefix_rfl, fun he => ⟨he.dvd, he.room⟩⟩, ?_⟩
  exact { h with even := ⟨h.even.dvd, h.even.room⟩, bytes := by rw [hsame]; exact h.bytes }

theorem InStep.wrote (h : InStep cap written drawn r)
    {f : Finished (SpscRing w) (List UInt8) Nat}
    (hfin : producer.fin f.request f.start f.answer r r') :
    consumer.rely r r' ∧ InStep cap (written ++ [f]) drawn r' := by
  obtain ⟨rfl, hcells, hroom, hmin⟩ := hfin
  obtain ⟨hgrown, heven⟩ := contents_published h.even hcells hroom
  refine ⟨⟨rfl, rfl, ?_, fun _ => heven⟩, heven, h.cap_eq, ?_, ?_, h.drawn_enough⟩
  · rw [hgrown]
    exact List.prefix_append ..
  · rw [hgrown, ← List.append_assoc, ← h.bytes]
    simp [bytesWritten]
  · intro g hg
    rcases List.mem_append.mp hg with hg | hg
    · exact h.written_enough g hg
    · obtain rfl := List.mem_singleton.mp hg
      exact hmin

theorem InStep.looked (h : InStep cap written drawn r) (hmid : consumer.mid r r') :
    producer.rely r r' ∧ InStep cap written drawn r' := by
  obtain rfl := hmid
  exact ⟨producer.rely_refl _, h⟩

theorem InStep.drew (h : InStep cap written drawn r)
    {f : Finished (SpscRing w) ConsumerCall (List UInt8)}
    (hfin : consumer.fin f.request f.start f.answer r r') :
    producer.rely r r' ∧ InStep cap written (drawn ++ [f]) r' := by
  obtain ⟨request, start, bs⟩ := f
  obtain ⟨rfl, hbs, hmin⟩ := hfin
  have henough : ∀ g ∈ drawn ++ [⟨request, start, bs⟩],
      min g.request.requested (len.run g.start).1.toNat ≤ g.answer.length := by
    intro g hg
    rcases List.mem_append.mp hg with hg | hg
    · exact h.drawn_enough g hg
    · obtain rfl := List.mem_singleton.mp hg
      exact hmin
  cases request with
  | peek n =>
    refine ⟨producer.rely_refl r, h.even, h.cap_eq, ?_, h.written_enough, henough⟩
    have hsame : bytesRead (drawn ++ [⟨.peek n, start, bs⟩]) = bytesRead drawn := by
      simp [bytesRead]
    rw [hsame]
    exact h.bytes
  | read n =>
    have hlen := hbs.length_le
    dsimp only at hlen
    rw [length_contents] at hlen
    refine ⟨⟨bs.length, hlen, rfl⟩, h.even.popped hlen, h.cap_eq, ?_, h.written_enough, henough⟩
    have hmore : bytesRead (drawn ++ [⟨.read n, start, bs⟩]) = bytesRead drawn ++ bs := by
      simp [bytesRead]
    have hfront : bs ++ (contents r).drop bs.length = contents r := by
      obtain ⟨rest, hrest⟩ := hbs
      dsimp only at hrest
      rw [← hrest, List.drop_left]
    rw [ConsumerCall.after, contents_popped h.even.sound hlen, hmore, List.append_assoc, hfront]
    exact h.bytes

end Steps

theorem compatible (cap : BitVec w) :
    Promise.Compatible producer consumer write ConsumerCall.run (InStep cap) where
  left_call src h := ⟨⟨_, _, rfl⟩, producer_write h.even src⟩
  left_mid h hmid := h.copied hmid
  left_fin h hfin := h.wrote hfin
  right_call call h := ⟨by rw [ConsumerCall.run_eq]; exact ⟨_, _, rfl⟩, consumer_run h.even call⟩
  right_mid h hmid := h.looked hmid
  right_fin h hfin := h.drew hfin

/-- The cells the producer's call copies into, those it has filled included,
from its first step to the store that publishes them. -/
def CopiesInto (m : Threads (SpscRing w) (List UInt8) Nat ConsumerCall (List UInt8)) (i : Nat) :
    Prop := ∃ a, m.left.active = some a ∧ ∃ p ∈ a.points m.shared, Writes p i

/-- The cells the consumer's call copies from, those it has read included. -/
def CopiesFrom (m : Threads (SpscRing w) (List UInt8) Nat ConsumerCall (List UInt8)) (i : Nat) :
    Prop := ∃ a, m.right.active = some a ∧ ∃ p ∈ a.points m.shared, Reads p i

/-- However the steps of the producer and the consumer of an empty ring are
interleaved, the contents fit and are the bytes written and not yet read, the
reads so far are a prefix of the writes so far, no cell is copied into and copied
from at once, and every call moves what it is asked for as far as it could when
it began. -/
theorem queue_between_threads {r₀ : SpscRing w} (hdvd : r₀.cap.toNat ∣ 2 ^ w)
    (hempty : r₀.head = r₀.tail)
    {m : Threads (SpscRing w) (List UInt8) Nat ConsumerCall (List UInt8)}
    (h : Interleaved write ConsumerCall.run r₀ m) :
    (m.shared.tail - m.shared.head).toNat ≤ r₀.cap.toNat ∧
    bytesWritten m.left.done = bytesRead m.right.done ++ contents m.shared ∧
    bytesRead m.right.done <+: bytesWritten m.left.done ∧
    (∀ i, CopiesInto m i → ¬ CopiesFrom m i) ∧
    (∀ f ∈ m.left.done, min f.request.length (free.run f.start).1.toNat ≤ f.answer) ∧
    ∀ f ∈ m.right.done, min f.request.requested (len.run f.start).1.toNat ≤ f.answer.length := by
  have hlen : (r₀.tail - r₀.head).toNat = 0 := by rw [hempty, BitVec.sub_self]; rfl
  have hnil : contents r₀ = [] := List.eq_nil_of_length_eq_zero ((length_contents r₀).trans hlen)
  have hstart : InStep r₀.cap [] [] r₀ :=
    ⟨⟨hdvd, by omega⟩, rfl, by rw [hnil]; rfl, fun _ hf => (List.not_mem_nil hf).elim,
      fun _ hf => (List.not_mem_nil hf).elim⟩
  obtain ⟨hin, hleft, hright⟩ := (compatible r₀.cap).interleaved hstart h
  refine ⟨?_, hin.bytes, ?_, ?_, hin.written_enough, hin.drawn_enough⟩
  · have hroom := hin.even.room
    rwa [hin.cap_eq] at hroom
  · rw [hin.bytes]
    exact List.prefix_append ..
  · rintro i ⟨a, ha, p, hp, hw⟩ ⟨b, hb, q, hq, hr⟩
    exact not_stored_of_vacant hin.even.sound (hleft.own ha p hp i hw) (hright.own hb q hq i hr)

/-- A `read` that began before the `write` had published its two bytes, and took
one of them. -/
theorem queue_between_threads_four :
    ∃ m : Threads (SpscRing 8) (List UInt8) Nat ConsumerCall (List UInt8),
      bytesRead m.right.done = [1] ∧ contents m.shared = [2] ∧
      bytesWritten m.left.done = bytesRead m.right.done ++ contents m.shared := by
  have h : Interleaved write ConsumerCall.run ((install [0, 0, 0, 0]).run (new : SpscRing 8)).2 _ :=
    .stepRight <| .stepRight <| .stepRight <| .stepRight <| .stepLeft <| .stepRight <|
      .stepLeft <| .stepLeft <| .beginRight (.read 1) (.stepLeft <| .stepLeft <| .stepLeft <|
        .beginLeft [1, 2] .start rfl) rfl
  exact ⟨_, by rfl, by rfl, (queue_between_threads (by decide) rfl h).2.1⟩

end SpscRing

end Wiznet
