import Wiznet.RingThreads
import Wiznet.UdpDelivery

/-! # The UDP echo loop

The loop of the firmware sends every datagram back. It keeps one that `send_to`
did not take and tries it again, and it goes by the number of bytes `send_to`
answers with: an answer of 0 is a full ring. An empty datagram that was staged
answers with 0 as well, so it is staged again in every wake, and the loop does
not get past it. -/

namespace Wiznet
open Resumption SpscRing

variable {w : Nat}

/-- A datagram as `recv_from` hands it over. -/
structure Datagram where
  payload : List UInt8
  peer : SocketAddr
  deriving DecidableEq, Repr

def Frame.datagram (f : Frame) : Datagram := ⟨f.payload, f.dst⟩

/-- What the loop does next. -/
inductive EchoPoint where
  | asleep
  /-- The top of the loop: a datagram that was kept is tried again. -/
  | flush
  | receive
  | forward (d : Datagram)
  deriving DecidableEq, Repr

/-- The length of `udp_buf`. -/
def UDP_BUF : Nat := 512

/-- The loop between two calls on the socket, and the two rings of the socket. -/
structure EchoState (w : Nat) where
  point : EchoPoint
  udpPending : Option Datagram
  rx : SpscRing w
  tx : SpscRing w
  /-- Every datagram that `recv_from` handed over so far. -/
  obtained : List Datagram
  /-- Every byte that was put into the tx ring so far. -/
  appended : List UInt8

namespace EchoState

/-- A call of `send_to`, with its answer. -/
def send (d : Datagram) (s : EchoState w) : Nat × EchoState w :=
  let (n, tx) := (UdpSocket.sendTo d.payload d.peer).run s.tx
  (n, { s with
    tx := tx
    appended := s.appended ++ (contents tx).drop (contents s.tx).length })

/-- One step of the loop. -/
def next (s : EchoState w) : EchoState w :=
  match s.point with
  | .asleep => { s with point := .flush }
  | .flush =>
    match s.udpPending with
    | none => { s with point := .receive }
    | some d =>
      let (n, s) := s.send d
      if n = 0 then { s with point := .asleep }
      else { s with point := .receive, udpPending := none }
  | .receive =>
    match (UdpSocket.recvFrom UDP_BUF).run s.rx with
    | (.nothing, rx) => { s with point := .asleep, rx := rx }
    | (.datagram payload peer, rx) =>
      { s with
        point := .forward ⟨payload, peer⟩
        rx := rx
        obtained := s.obtained ++ [⟨payload, peer⟩] }
    -- the call does not return
    | (.spinning, rx) => { s with rx := rx }
  | .forward d =>
    let (n, s) := s.send d
    if n = 0 then { s with point := .asleep, udpPending := some d }
    else { s with point := .flush }

/-- The loop goes on, or the driver has taken something out of the tx ring or
put datagrams into the rx ring. -/
inductive Step : EchoState w → EchoState w → Prop
  | loop (s : EchoState w) : Step s s.next
  | drained (s : EchoState w) (tx : SpscRing w) (heven : Even tx)
      (hrest : contents tx <:+ contents s.tx) : Step s { s with tx := tx }
  | arrived (s : EchoState w) (rx : SpscRing w) (fs : List Frame) (hframed : Framed fs rx)
      (hcap : rx.cap ≠ 0) : Step s { s with rx := rx }

/-- The loop as it is entered. -/
structure Entered (s : EchoState w) : Prop where
  point : s.point = .flush
  udpPending : s.udpPending = none
  tx : Even s.tx
  rx : ∃ fs, Framed fs s.rx
  installed : s.rx.cap ≠ 0
  obtained : s.obtained = []
  appended : s.appended = []

inductive Reaches (s : EchoState w) : EchoState w → Prop
  | start : Reaches s s
  | step {t t' : EchoState w} (h : Reaches s t) (hstep : Step t t') : Reaches s t'

/-- The datagram that was obtained and has not been taken by `send_to` yet. -/
def inHand (s : EchoState w) : List Datagram :=
  match s.point with
  | .forward d => [d]
  | _ => s.udpPending.toList

/-- What went into the tx ring is one frame for each datagram obtained, in order,
up to the one in hand. -/
def InOrder (s : EchoState w) : Prop :=
  ∃ fs : List Frame, s.obtained = fs.map Frame.datagram ++ s.inHand ∧
    s.appended = fs.flatMap Frame.bytes

/-- The loop goes on to the next datagram once the tx ring has room for the one
in hand, and takes the one that is there. -/
structure GoesOn (s : EchoState w) : Prop where
  receives : (∀ d ∈ s.inHand,
      FRAME_HEADER + d.payload.length ≤ (SpscRing.free.run s.tx).1.toNat) →
    ∃ k ≤ 2, (next^[k] s).point = .receive
  takes : ∀ f fs, s.point = .receive → Framed (f :: fs) s.rx →
    s.next.obtained = s.obtained ++ [⟨f.payload.take UDP_BUF, f.dst⟩]

/-- What the loop keeps up, as long as no datagram is empty. -/
structure Faithful (s : EchoState w) : Prop where
  tx : Even s.tx
  rx : ∃ fs, Framed fs s.rx
  installed : s.rx.cap ≠ 0
  order : s.InOrder
  kept : s.udpPending ≠ none → s.point = .asleep ∨ s.point = .flush
  fits : ∀ d ∈ s.inHand, d.payload.length < 2 ^ 16

theorem Entered.faithful {s : EchoState w} (h : Entered s) : Faithful s := by
  have hhand : s.inHand = [] := by rw [inHand, h.point, h.udpPending]; rfl
  refine ⟨h.tx, h.rx, h.installed, ⟨[], ?_, h.appended⟩, ?_, ?_⟩
  · rw [h.obtained, hhand]
    rfl
  · exact fun hp => absurd h.udpPending hp
  · rw [hhand]
    exact nofun

/-- A call of `send_to` puts the whole frame into the ring and answers with the
length of the payload, or has no room for it. -/
theorem send_cases {s : EchoState w} (heven : Even s.tx) (f : Frame) :
    (∃ s', s.send f.datagram = (f.payload.length, s') ∧ Even s'.tx ∧
      s' = { s with tx := s'.tx, appended := s.appended ++ f.bytes }) ∨
    ((SpscRing.free.run s.tx).1.toNat < FRAME_HEADER + f.payload.length ∧
      s.send f.datagram = (0, s)) := by
  rw [run_free]
  by_cases hfull : (s.tx.cap - (s.tx.tail - s.tx.head)).toNat < FRAME_HEADER + f.payload.length
  · refine .inr ⟨hfull, ?_⟩
    rw [send, Frame.datagram, UdpSocket.run_sendTo_full hfull]
    dsimp only
    rw [List.drop_length, List.append_nil]
  · obtain ⟨tx', hrun, ha⟩ := UdpSocket.run_sendTo_staged f.payload f.dst heven.sound
      (Nat.le_of_not_lt hfull) (.inl heven.dvd)
    have heven' : Even tx' := ⟨by rw [ha.cap]; exact heven.dvd, ha.sound.room⟩
    refine .inl ⟨{ s with tx := tx', appended := s.appended ++ f.bytes }, ?_, heven', rfl⟩
    rw [send, Frame.datagram, hrun]
    dsimp only
    rw [ha.contents, List.drop_left]
    rfl

theorem next_flush {s : EchoState w} {d : Datagram} (hpoint : s.point = .flush)
    (hp : s.udpPending = some d) :
    s.next = if (s.send d).1 = 0 then { (s.send d).2 with point := .asleep }
      else { (s.send d).2 with point := .receive, udpPending := none } := by
  rw [EchoState.next, hpoint]
  dsimp only
  rw [hp]

theorem next_forward {s : EchoState w} {d : Datagram} (hpoint : s.point = .forward d) :
    s.next = if (s.send d).1 = 0 then
        { (s.send d).2 with point := .asleep, udpPending := some d }
      else { (s.send d).2 with point := .flush } := by
  rw [EchoState.next, hpoint]

/-- Nothing moved. -/
theorem Faithful.still {s s' : EchoState w} (h : Faithful s) (htx : s'.tx = s.tx)
    (hrx : s'.rx = s.rx) (hobtained : s'.obtained = s.obtained)
    (happended : s'.appended = s.appended) (hhand : s'.inHand = s.inHand)
    (hkept : s'.udpPending ≠ none → s'.point = .asleep ∨ s'.point = .flush) : Faithful s' := by
  obtain ⟨fs, hfs, hbytes⟩ := h.order
  refine ⟨by rw [htx]; exact h.tx, by rw [hrx]; exact h.rx, by rw [hrx]; exact h.installed,
    ⟨fs, ?_, ?_⟩, hkept, by rw [hhand]; exact h.fits⟩
  · rw [hobtained, hhand]
    exact hfs
  · rw [happended]
    exact hbytes

/-- One datagram less in hand, and its frame in the tx ring. -/
theorem Faithful.handed {s s' : EchoState w} (h : Faithful s) (f : Frame)
    (hhand : s.inHand = [f.datagram]) (htx : Even s'.tx) (hrx : s'.rx = s.rx)
    (hobtained : s'.obtained = s.obtained) (happended : s'.appended = s.appended ++ f.bytes)
    (hpending : s'.udpPending = none) (hpoint : s'.inHand = []) : Faithful s' := by
  obtain ⟨fs, hfs, hbytes⟩ := h.order
  refine ⟨htx, by rw [hrx]; exact h.rx, by rw [hrx]; exact h.installed, ⟨fs ++ [f], ?_, ?_⟩,
    fun hp => absurd hpending hp, by rw [hpoint]; exact nofun⟩
  · rw [hobtained, hfs, hhand, hpoint, List.map_append, List.append_nil]
    rfl
  · rw [happended, hbytes, List.flatMap_append, List.flatMap_singleton]

theorem Faithful.next {s : EchoState w} (h : Faithful s)
    (hne : ∀ d ∈ s.obtained, d.payload ≠ []) : Faithful s.next := by
  have hmem : ∀ d ∈ s.inHand, d.payload ≠ [] := by
    intro d hd
    obtain ⟨fs, hfs, -⟩ := h.order
    exact hne d (by rw [hfs]; exact List.mem_append_right _ hd)
  have hnone : s.point ≠ .asleep → s.point ≠ .flush → s.udpPending = none := by
    intro ha hf
    by_contra hp
    exact (h.kept hp).elim ha hf
  cases hpoint : s.point with
  | asleep =>
    have hnext : s.next = { s with point := .flush } := by rw [EchoState.next, hpoint]
    rw [hnext]
    refine h.still rfl rfl rfl rfl ?_ fun _ => .inr rfl
    rw [inHand, inHand, hpoint]
  | flush =>
    cases hp : s.udpPending with
    | none =>
      have hnext : s.next = { s with point := .receive } := by
        rw [EchoState.next, hpoint]
        dsimp only
        rw [hp]
      rw [hnext]
      refine h.still rfl rfl rfl rfl ?_ fun hsome => absurd hp hsome
      rw [inHand, inHand, hpoint]
    | some d =>
      have hhand : s.inHand = [d] := by rw [inHand, hpoint, hp]; rfl
      have hd : d ∈ s.inHand := by rw [hhand]; exact List.mem_singleton_self d
      have hnz : d.payload.length ≠ 0 := fun hz => hmem d hd (List.length_eq_zero_iff.mp hz)
      rcases send_cases h.tx ⟨d.payload, d.peer, h.fits d hd⟩ with
        ⟨s', hsend, heven, hs'⟩ | ⟨-, hsend⟩
      · rw [next_flush hpoint hp, show s.send d = _ from hsend, if_neg hnz]
        refine h.handed ⟨d.payload, d.peer, h.fits d hd⟩ hhand heven ?_ ?_ ?_ rfl rfl
        · rw [hs']
        · rw [hs']
        · rw [hs']
      · rw [next_flush hpoint hp, show s.send d = _ from hsend, if_pos rfl]
        refine h.still rfl rfl rfl rfl ?_ fun _ => .inl rfl
        rw [inHand, inHand, hpoint]
  | receive =>
    have hp : s.udpPending = none := hnone (by rw [hpoint]; nofun) (by rw [hpoint]; nofun)
    have hhand : s.inHand = [] := by rw [inHand, hpoint, hp]; rfl
    obtain ⟨fs, hframed⟩ := h.rx
    cases fs with
    | nil =>
      have hnext : s.next = { s with point := .asleep } := by
        rw [EchoState.next, hpoint]
        dsimp only
        rw [UdpSocket.run_recvFrom_none hframed]
      rw [hnext]
      refine h.still rfl rfl rfl rfl ?_ fun hsome => absurd hp hsome
      rw [inHand, inHand, hpoint]
    | cons f fs =>
      have hnext : s.next = { s with
          point := .forward ⟨f.payload.take UDP_BUF, f.dst⟩
          rx := UdpSocket.released f s.rx
          obtained := s.obtained ++ [⟨f.payload.take UDP_BUF, f.dst⟩] } := by
        rw [EchoState.next, hpoint]
        dsimp only
        rw [UdpSocket.run_recvFrom hframed h.installed]
      obtain ⟨sent, hsent, hbytes⟩ := h.order
      rw [hnext]
      refine ⟨h.tx, ⟨fs, UdpSocket.framed_released hframed h.installed⟩, h.installed,
        ⟨sent, ?_, hbytes⟩, fun hsome => absurd hp hsome, fun d hd => ?_⟩
      · dsimp only
        rw [hsent, hhand, List.append_nil]
        rfl
      · obtain rfl := List.mem_singleton.mp hd
        have hfits := f.fits
        dsimp only
        rw [List.length_take]
        omega
  | forward d =>
    have hp : s.udpPending = none := hnone (by rw [hpoint]; nofun) (by rw [hpoint]; nofun)
    have hhand : s.inHand = [d] := by rw [inHand, hpoint]
    have hd : d ∈ s.inHand := by rw [hhand]; exact List.mem_singleton_self d
    have hnz : d.payload.length ≠ 0 := fun hz => hmem d hd (List.length_eq_zero_iff.mp hz)
    rcases send_cases h.tx ⟨d.payload, d.peer, h.fits d hd⟩ with
      ⟨s', hsend, heven, hs'⟩ | ⟨-, hsend⟩
    · have hp' : s'.udpPending = none := by rw [hs']; exact hp
      rw [next_forward hpoint, show s.send d = _ from hsend, if_neg hnz]
      refine h.handed ⟨d.payload, d.peer, h.fits d hd⟩ hhand heven ?_ ?_ ?_ hp' ?_
      · rw [hs']
      · rw [hs']
      · rw [hs']
      · rw [inHand]
        dsimp only
        rw [hp']
        rfl
    · rw [next_forward hpoint, show s.send d = _ from hsend, if_pos rfl]
      refine h.still rfl rfl rfl rfl ?_ fun _ => .inl rfl
      rw [inHand, inHand, hpoint]
      rfl

theorem Faithful.step {s s' : EchoState w} (h : Faithful s)
    (hne : ∀ d ∈ s.obtained, d.payload ≠ []) (hstep : Step s s') : Faithful s' := by
  cases hstep with
  | loop => exact h.next hne
  | drained tx heven hrest => exact ⟨heven, h.rx, h.installed, h.order, h.kept, h.fits⟩
  | arrived rx fs hframed hcap => exact ⟨h.tx, ⟨fs, hframed⟩, hcap, h.order, h.kept, h.fits⟩

/-- Nothing is ever taken off the list. -/
theorem obtained_step {s s' : EchoState w} (hstep : Step s s') : s.obtained ⊆ s'.obtained := by
  cases hstep with
  | drained | arrived => exact List.Subset.refl _
  | loop =>
    cases hpoint : s.point with
    | asleep =>
      rw [EchoState.next, hpoint]
      exact List.Subset.refl _
    | flush =>
      cases hp : s.udpPending with
      | none =>
        rw [EchoState.next, hpoint]
        dsimp only
        rw [hp]
        exact List.Subset.refl _
      | some d =>
        rw [next_flush hpoint hp]
        split <;> exact List.Subset.refl _
    | receive =>
      rw [EchoState.next, hpoint]
      dsimp only
      rcases (UdpSocket.recvFrom UDP_BUF).run s.rx with ⟨_ | ⟨payload, peer⟩ | _, rx⟩
      · exact List.Subset.refl _
      · exact List.subset_append_left ..
      · exact List.Subset.refl _
    | forward d =>
      rw [next_forward hpoint]
      split <;> exact List.Subset.refl _

theorem Reaches.faithful {s s' : EchoState w} (hs : Entered s) (hr : Reaches s s')
    (hne : ∀ d ∈ s'.obtained, d.payload ≠ []) : Faithful s' := by
  induction hr with
  | start => exact hs.faithful
  | step hr hstep ih =>
    have hne' := fun d hd => hne d (obtained_step hstep hd)
    exact (ih hne').step hne' hstep

/-- A call with room for the datagram in hand is not the last before the next
`recv_from`. -/
theorem Faithful.sends {s : EchoState w} (h : Faithful s)
    (hne : ∀ d ∈ s.obtained, d.payload ≠ []) {d : Datagram} (hd : d ∈ s.inHand)
    (hroom : FRAME_HEADER + d.payload.length ≤ (SpscRing.free.run s.tx).1.toNat) :
    (s.send d).1 ≠ 0 ∧ (s.send d).2.udpPending = s.udpPending := by
  obtain ⟨fs, hfs, -⟩ := h.order
  rcases send_cases h.tx ⟨d.payload, d.peer, h.fits d hd⟩ with ⟨s', hsend, -, hs'⟩ | ⟨hfull, -⟩
  · rw [show s.send d = _ from hsend]
    refine ⟨fun hz => ?_, by rw [hs']⟩
    exact hne d (by rw [hfs]; exact List.mem_append_right _ hd) (List.length_eq_zero_iff.mp hz)
  · exact absurd hroom (Nat.not_le_of_lt hfull)

theorem Faithful.flushes {s : EchoState w} (h : Faithful s)
    (hne : ∀ d ∈ s.obtained, d.payload ≠ []) (hpoint : s.point = .flush)
    (hroom : ∀ d ∈ s.inHand,
      FRAME_HEADER + d.payload.length ≤ (SpscRing.free.run s.tx).1.toNat) :
    s.next.point = .receive := by
  cases hp : s.udpPending with
  | none =>
    rw [EchoState.next, hpoint]
    dsimp only
    rw [hp]
  | some d =>
    have hd : d ∈ s.inHand := by
      rw [inHand, hpoint, hp]
      exact List.mem_singleton_self d
    rw [next_flush hpoint hp, if_neg (h.sends hne hd (hroom d hd)).1]

/-- Room for the datagram in hand is all the loop waits for. -/
theorem Faithful.goesOn {s : EchoState w} (h : Faithful s)
    (hne : ∀ d ∈ s.obtained, d.payload ≠ []) : GoesOn s where
  receives hroom := by
    cases hpoint : s.point with
    | asleep =>
      have hnext : s.next = { s with point := .flush } := by rw [EchoState.next, hpoint]
      refine ⟨2, Nat.le_refl 2, (h.next hne).flushes ?_ ?_ ?_⟩
      · rw [hnext]
        exact hne
      · rw [hnext]
      · rw [hnext]
        rw [inHand, hpoint] at hroom
        exact hroom
    | flush => exact ⟨1, by omega, h.flushes hne hpoint hroom⟩
    | receive => exact ⟨0, by omega, hpoint⟩
    | forward d =>
      have hd : d ∈ s.inHand := by rw [inHand, hpoint]; exact List.mem_singleton_self d
      obtain ⟨hnz, hpending⟩ := h.sends hne hd (hroom d hd)
      have hp : s.udpPending = none := by
        by_contra hsome
        have hk := h.kept hsome
        rw [hpoint] at hk
        exact hk.elim nofun nofun
      refine ⟨2, Nat.le_refl 2, ?_⟩
      change s.next.next.point = .receive
      rw [next_forward hpoint, if_neg hnz, EchoState.next]
      dsimp only
      rw [hpending, hp]
  takes f fs hpoint hframed := by
    rw [EchoState.next, hpoint]
    dsimp only
    rw [UdpSocket.run_recvFrom hframed h.installed]

/-- As long as no datagram is empty, each goes into the tx ring exactly once and
in order, and a full tx ring holds the loop up no longer than it is full. -/
theorem echo_inOrder {s s' : EchoState w} (hs : Entered s) (hr : Reaches s s')
    (hne : ∀ d ∈ s'.obtained, d.payload ≠ []) : InOrder s' ∧ GoesOn s' := by
  have h := hr.faithful hs hne
  exact ⟨h.order, h.goesOn hne⟩

theorem reaches_iterate (s : EchoState w) (k : Nat) : Reaches s (next^[k] s) := by
  induction k with
  | zero => exact .start
  | succ k ih =>
    rw [Function.iterate_succ_apply']
    exact ih.step (.loop _)

/-- The loop is entered with one frame in the rx ring and an empty tx ring. -/
def entered (f : Frame) : EchoState 32 where
  point := .flush
  udpPending := none
  rx := { SpscRing.new with
    buf := fun i => f.bytes.getD i 0
    cap := 512, tail := BitVec.ofNat 32 f.bytes.length, framesIn := 1 }
  tx := { SpscRing.new with cap := 512 }
  obtained := []
  appended := []

def oneByte : Frame := ⟨[7], ⟨0x0A000001, 9⟩, by decide⟩

def noByte : Frame := ⟨[], ⟨0x0A000001, 9⟩, by decide⟩

theorem echo_one : InOrder (next^[4] (entered oneByte)) ∧ GoesOn (next^[4] (entered oneByte)) :=
  echo_inOrder
    ⟨rfl, rfl, ⟨by decide, by decide⟩, ⟨[oneByte], by decide, .inr (by decide), by decide, rfl⟩,
      by decide, rfl, rfl⟩
    (reaches_iterate (entered oneByte) 4) (by decide)

/-- An empty datagram is obtained once and staged in two wakes, and is still in
hand. -/
theorem echo_twice :
    let s := next^[6] (entered noByte)
    Entered (entered noByte) ∧ Reaches (entered noByte) s ∧
      s.obtained = [noByte.datagram] ∧ s.appended = noByte.bytes ++ noByte.bytes ∧
      ¬ InOrder s := by
  refine ⟨⟨rfl, rfl, ⟨by decide, by decide⟩,
    ⟨[noByte], by decide, .inr (by decide), by decide, rfl⟩, by decide, rfl, rfl⟩,
    reaches_iterate (entered noByte) 6, by decide, by decide, ?_⟩
  rintro ⟨fs, hfs, hbytes⟩
  have hlen := congrArg List.length hfs
  rw [List.length_append, List.length_map,
    show (next^[6] (entered noByte)).obtained.length = 1 by decide,
    show (next^[6] (entered noByte)).inHand.length = 1 by decide] at hlen
  obtain rfl : fs = [] := List.length_eq_zero_iff.mp (by omega)
  exact absurd hbytes (by decide)

end EchoState

end Wiznet
