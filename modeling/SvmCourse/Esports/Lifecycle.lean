import Mathlib.Logic.Relation
import SvmCourse.Esports.Entities

/-!
# Life Cycles

What the platform sells is an event: a match or a tournament that players pay
to enter, that holds their fees while it is played, and that pays them out.
Matches and tournaments store this differently but live the same life. `Event`
is that life with nothing else: how far the event has got, what an entry costs,
how many have entered, and what its escrow holds.

`Event.Step` lists how an event moves on when all goes well, and
`Event.InStep` says how the escrow keeps up. A refund while players are waiting
or playing, and a start whose escrow cannot be locked, are no such steps:
`Event.Stray` has them, and each leaves the escrow where it should not be.

## Main definitions

* `Phase`: How far an event has got.
* `Event`, `Event.InStep`: An event and its agreement with its escrow.
* `Event.Step`, `Event.Stray`: How events move on, and how they go astray.
* `Event.Kept`: In step, or gone astray for good.

## Theorems

* `Event.Step.inStep`: Steps keep event and escrow in step.
* `Event.Stray.escrow`: Strays do not.
* `Event.Step.kept`, `Event.Stray.kept`: Who went astray stays astray.
-/

namespace SvmCourse

namespace Esports

/-- How far an event has got. `filling` has entrants for certain, `open_` only
    admits them. -/
inductive Phase where
  | absent | fresh | open_ | filling | playing | finished | paid | cancelled
  deriving DecidableEq

/-- The status the escrow should have by the phase alone. -/
def Phase.escrowStatus : Phase → Option EscrowStatus
  | .filling => some .ACTIVE
  | .playing => some .LOCKED
  | .paid => some .RELEASED
  | .cancelled => some .REFUNDED
  | .absent | .fresh | .open_ | .finished => none

/-- What an event is announced with, for good. -/
structure Offer where
  sourceType : EscrowSourceType
  fee : Int
  platformFeePercent : ℚ
  prizeStrategy : PrizeDistributionStrategy
  prizeStructure : List PrizeEntry

/-- What the row of an event says. -/
structure EventTerms where
  phase : Phase
  offer : Offer
  pool : Int

/-- What one player pays. -/
def EventTerms.fee (terms : EventTerms) : Int := terms.offer.fee

/-- The life of a match or tournament: its terms, its escrow, and who has paid. -/
structure Event extends EventTerms where
  escrow : Option (EscrowStatus × Int)
  entrants : Nat
  deposited : Int

namespace Event

/-- The fee of every entrant, which is what the escrow should hold. -/
def due (event : Event) : Int := event.fee * event.entrants

/-- The escrow has the status and holds what it should, and the books agree. -/
structure Holds (event : Event) (status : EscrowStatus) : Prop where
  escrow : event.escrow = some (status, event.due)
  pool : event.pool = event.due
  deposited : event.deposited = event.due

/-- The same for an event that somebody has entered. -/
structure Funded (event : Event) (status : EscrowStatus) : Prop extends Holds event status where
  entrants_pos : 0 < event.entrants

/-- Event and escrow agree. -/
def InStep (event : Event) : Prop :=
  match event.phase with
  | .absent => event.entrants = 0 ∧ event.deposited = 0
  | .fresh => event.entrants = 0 ∧ event.Holds .CREATED
  -- Before the first entry, after it, or after a refund.
  | .open_ => (event.entrants = 0 ∧ event.Holds .CREATED) ∨ event.Funded .ACTIVE ∨
      event.escrow = some (.REFUNDED, 0)
  | .filling => event.Funded .ACTIVE
  | .playing => event.Funded .LOCKED
  | .finished => True
  | .paid => ∃ left, event.escrow = some (.RELEASED, left)
  | .cancelled => event.escrow = some (.REFUNDED, 0)

/-- An event that went astray: its escrow was refunded, or play started before
    there was anything to lock. -/
def Spoiled (event : Event) : Prop :=
  event.phase ≠ .absent ∧ ∃ status balance, event.escrow = some (status, balance) ∧
    (status = .REFUNDED ∨
      status = .CREATED ∧ (event.phase = .playing ∨ event.phase = .finished))

/-- The event is in step or has gone astray. -/
def Kept (event : Event) : Prop := event.InStep ∨ event.Spoiled

/-- The event after one more entry. -/
def entered (event : Event) (phase : Phase) (balance : Int) : Event :=
  { event with
    phase := phase
    pool := event.pool + event.fee
    escrow := some (.ACTIVE, balance + event.fee)
    entrants := event.entrants + 1
    deposited := event.deposited + event.fee }

/-- The event once its escrow has paid back what was deposited. -/
def refunded (event : Event) (balance : Int) : Event :=
  { event with
    escrow := some (if balance - event.deposited = 0 then .REFUNDED else .ACTIVE,
      balance - event.deposited) }

/-- How an event moves on, when such offers are made. -/
inductive Step (Offered : Offer → Prop) (event : Event) : Event → Prop where
  | create (offer : Offer) (h : event.phase = .absent) (hoffer : Offered offer) :
      Step Offered event { event with
        phase := .fresh
        offer := offer
        pool := 0
        escrow := some (.CREATED, 0) }
  | open_ (h : event.phase = .fresh) : Step Offered event { event with phase := .open_ }
  | enter (phase : Phase) (status : EscrowStatus) (balance : Int)
      (hphase : event.phase = .open_ ∧ phase = .open_ ∨
        (event.phase = .fresh ∨ event.phase = .filling) ∧ phase = .filling)
      (hescrow : event.escrow = some (status, balance))
      (hstatus : status = .CREATED ∨ status = .ACTIVE) :
      Step Offered event (event.entered phase balance)
  | lock (balance : Int) (hphase : event.phase = .open_ ∨ event.phase = .filling)
      (hescrow : event.escrow = some (.ACTIVE, balance)) :
      Step Offered event { event with phase := .playing, escrow := some (.LOCKED, balance) }
  | finish (h : event.phase = .playing) : Step Offered event { event with phase := .finished }
  | pay (balance left : Int) (h : event.phase = .playing)
      (hescrow : event.escrow = some (.LOCKED, balance)) :
      Step Offered event { event with phase := .paid, escrow := some (.RELEASED, left) }
  | refund (status : EscrowStatus) (balance : Int)
      (hphase : event.phase = .open_ ∨ event.phase = .finished)
      (hescrow : event.escrow = some (status, balance))
      (hstatus : status = .ACTIVE ∨ status = .LOCKED) : Step Offered event (event.refunded balance)

/-- How an event goes astray. -/
inductive Stray (event : Event) : Event → Prop where
  | refund (status : EscrowStatus) (balance : Int)
      (hphase : event.phase = .filling ∨ event.phase = .playing)
      (hescrow : event.escrow = some (status, balance))
      (hstatus : status = .ACTIVE ∨ status = .LOCKED) : Stray event (event.refunded balance)
  | unlocked (hphase : event.phase = .open_)
      (hescrow : ∀ balance, event.escrow ≠ some (.ACTIVE, balance)) :
      Stray event { event with phase := .playing }

section Agreement

variable {Offered : Offer → Prop} {event event' : Event}

theorem escrow_unique {status status' : EscrowStatus} {balance balance' : Int}
    (h : event.escrow = some (status, balance)) (h' : event.escrow = some (status', balance')) :
    status = status' ∧ balance = balance' := by
  have heq := Option.some.inj (h.symm.trans h')
  rwa [Prod.mk.injEq] at heq

theorem due_entered (event : Event) (phase : Phase) (balance : Int) :
    (event.entered phase balance).due = event.due + event.fee := by
  have hfee : (event.entered phase balance).fee = event.fee := rfl
  have hcount : (event.entered phase balance).entrants = event.entrants + 1 := rfl
  unfold due
  rw [hfee, hcount, Int.natCast_add, Int.natCast_one, Int.mul_add, Int.mul_one]

/-- Nobody has entered, so nothing is due. -/
theorem due_zero (h : event.entrants = 0) : event.due = 0 := by
  unfold due
  rw [h, Int.natCast_zero, Int.mul_zero]

theorem Holds.entered {status : EscrowStatus} (h : event.Holds status) (phase : Phase) :
    (event.entered phase event.due).Funded .ACTIVE := by
  refine ⟨⟨?_, ?_, ?_⟩, Nat.succ_pos _⟩
  · rw [due_entered]
    rfl
  · rw [due_entered, ← h.pool]
    rfl
  · rw [due_entered, ← h.deposited]
    rfl

/-- What an escrow that admits deposits holds before an entry. -/
theorem holds_of_admitting {status : EscrowStatus} {balance : Int} (h : event.InStep)
    (hphase : event.phase = .open_ ∨ event.phase = .fresh ∨ event.phase = .filling)
    (hescrow : event.escrow = some (status, balance))
    (hstatus : status = .CREATED ∨ status = .ACTIVE) :
    event.Holds status ∧ balance = event.due := by
  -- The escrow has one status and balance, so whatever holds is about these.
  have hone : ∀ status', event.Holds status' → event.Holds status ∧ balance = event.due := by
    intro status' hholds
    rcases escrow_unique hescrow hholds.escrow with ⟨rfl, rfl⟩
    exact ⟨hholds, rfl⟩
  unfold InStep at h
  rcases hphase with hphase | hphase | hphase
  · rw [hphase] at h
    rcases h with ⟨-, hholds⟩ | hholds | hrefunded
    · exact hone _ hholds
    · exact hone _ hholds.toHolds
    · rw [(escrow_unique hescrow hrefunded).1] at hstatus
      exact absurd hstatus (by decide)
  · rw [hphase] at h
    exact hone _ h.2
  · rw [hphase] at h
    exact hone _ h.toHolds

/-- An active escrow has entrants. -/
theorem entrants_pos_of_active {balance : Int} (h : event.InStep)
    (hphase : event.phase = .open_ ∨ event.phase = .filling)
    (hescrow : event.escrow = some (.ACTIVE, balance)) : 0 < event.entrants := by
  unfold InStep at h
  rcases hphase with hphase | hphase
  · rw [hphase] at h
    rcases h with ⟨-, hholds⟩ | hholds | hrefunded
    · exact nomatch (escrow_unique hescrow hholds.escrow).1
    · exact hholds.entrants_pos
    · exact nomatch (escrow_unique hescrow hrefunded).1
  · rw [hphase] at h
    exact h.entrants_pos

/-- A refund of an escrow that holds its deposits leaves it empty. -/
theorem refunded_escrow {status : EscrowStatus} {balance : Int} (h : event.Holds status)
    (hbalance : balance = event.due) : (event.refunded balance).escrow = some (.REFUNDED, 0) := by
  have hzero : balance - event.deposited = 0 := by rw [hbalance, h.deposited, Int.sub_self]
  unfold refunded
  rw [hzero, if_pos rfl]

/-- Steps keep event and escrow in step. -/
theorem Step.inStep (hstep : Step Offered event event') (h : event.InStep) : event'.InStep := by
  cases hstep with
  | create offer habsent hoffer =>
      unfold InStep at h
      rw [habsent] at h
      have hdue : ({ event with
          phase := .fresh
          offer := offer
          pool := 0
          escrow := some (.CREATED, 0) } : Event).due = 0 := due_zero h.1
      refine ⟨h.1, ?_, hdue.symm, h.2.trans hdue.symm⟩
      rw [hdue]
  | open_ hfresh =>
      unfold InStep at h
      rw [hfresh] at h
      exact Or.inl ⟨h.1, h.2.escrow, h.2.pool, h.2.deposited⟩
  | enter phase status balance hphase hescrow hstatus =>
      -- One fee more is due, and the escrow, the pool and the deposits grow by it.
      have hadmits : event.phase = .open_ ∨ event.phase = .fresh ∨ event.phase = .filling :=
        hphase.imp And.left And.left
      rcases holds_of_admitting h hadmits hescrow hstatus with ⟨hholds, rfl⟩
      rcases hphase with ⟨-, rfl⟩ | ⟨-, rfl⟩
      · exact Or.inr (Or.inl (hholds.entered .open_))
      · exact hholds.entered .filling
  | lock balance hphase hescrow =>
      have hadmits : event.phase = .open_ ∨ event.phase = .fresh ∨ event.phase = .filling :=
        hphase.imp id Or.inr
      have hpos := entrants_pos_of_active h hphase hescrow
      rcases holds_of_admitting h hadmits hescrow (Or.inr rfl) with ⟨hholds, rfl⟩
      exact ⟨⟨rfl, hholds.pool, hholds.deposited⟩, hpos⟩
  | finish hplaying => trivial
  | pay balance left hplaying hescrow => exact ⟨left, rfl⟩
  | refund status balance hphase hescrow hstatus =>
      unfold InStep at h ⊢
      have hsame : (event.refunded balance).phase = event.phase := rfl
      rcases hphase with hphase | hphase
      · -- Only an escrow with deposits can be refunded, and it is empty then.
        rw [hphase] at h
        rw [hsame, hphase]
        rcases h with ⟨-, hholds⟩ | hholds | hrefunded
        · rw [(escrow_unique hescrow hholds.escrow).1] at hstatus
          exact absurd hstatus (by decide)
        · have hbalance := (escrow_unique hescrow hholds.escrow).2
          exact Or.inr (Or.inr (refunded_escrow hholds.toHolds hbalance))
        · rw [(escrow_unique hescrow hrefunded).1] at hstatus
          exact absurd hstatus (by decide)
      · rw [hsame, hphase]
        trivial

/-- A stray refund leaves the escrow empty. -/
theorem stray_refund {status : EscrowStatus} {balance : Int} (h : event.InStep)
    (hphase : event.phase = .filling ∨ event.phase = .playing)
    (hescrow : event.escrow = some (status, balance)) :
    (event.refunded balance).escrow = some (.REFUNDED, 0) := by
  unfold InStep at h
  rcases hphase with hphase | hphase
  · rw [hphase] at h
    exact refunded_escrow h.toHolds (escrow_unique hescrow h.escrow).2
  · rw [hphase] at h
    exact refunded_escrow h.toHolds (escrow_unique hescrow h.escrow).2

/-- Strays leave the escrow with a status its phase does not ask for. -/
theorem Stray.escrow (hstray : event.Stray event') (h : event.InStep) :
    ∃ status, event'.phase.escrowStatus = some status ∧
      ∀ balance, event'.escrow ≠ some (status, balance) := by
  cases hstray with
  | refund status balance hphase hescrow hstatus =>
      have hempty := stray_refund h hphase hescrow
      have hsame : (event.refunded balance).phase = event.phase := rfl
      rcases hphase with hphase | hphase
      · refine ⟨.ACTIVE, congrArg Phase.escrowStatus (hsame.trans hphase), fun left hleft => ?_⟩
        exact nomatch (escrow_unique hempty hleft).1
      · refine ⟨.LOCKED, congrArg Phase.escrowStatus (hsame.trans hphase), fun left hleft => ?_⟩
        exact nomatch (escrow_unique hempty hleft).1
  | unlocked hphase hescrow =>
      unfold InStep at h
      rw [hphase] at h
      refine ⟨.LOCKED, rfl, fun left hleft => ?_⟩
      -- The escrow of an open event is never locked.
      have hlocked : event.escrow = some (.LOCKED, left) := hleft
      rcases h with ⟨-, hholds⟩ | hholds | hrefunded
      · exact nomatch (escrow_unique hholds.escrow hlocked).1
      · exact hescrow _ hholds.escrow
      · exact nomatch (escrow_unique hrefunded hlocked).1

/-- An event whose escrow can be locked, refunded or paid out never strayed. -/
theorem Kept.inStep (h : event.Kept) {status : EscrowStatus} {balance : Int}
    (hescrow : event.escrow = some (status, balance))
    (hstatus : status = .ACTIVE ∨ status = .LOCKED) : event.InStep := by
  refine h.resolve_right ?_
  -- What went astray has a refunded escrow or a new one.
  rintro ⟨-, status', balance', hescrow', hspoiled⟩
  rw [(escrow_unique hescrow hescrow').1] at hstatus
  rcases hspoiled with rfl | ⟨rfl, -⟩
  · exact absurd hstatus (by decide)
  · exact absurd hstatus (by decide)

theorem Step.kept (hstep : Step Offered event event') (h : event.Kept) : event'.Kept := by
  rcases h with hin | ⟨hphase, status, balance, hescrow, hspoiled⟩
  · exact Or.inl (hstep.inStep hin)
  -- From an event that went astray only opening and finishing are left.
  cases hstep with
  | create offer habsent hoffer => exact absurd habsent hphase
  | open_ hfresh =>
      refine Or.inr ⟨nofun, status, balance, hescrow, hspoiled.imp id fun hcreated => ?_⟩
      rw [hfresh] at hcreated
      exact absurd hcreated.2 (by decide)
  | enter phase status' balance' hphase' hescrow' hstatus =>
      rw [← (escrow_unique hescrow hescrow').1] at hstatus
      rcases hspoiled with rfl | ⟨rfl, hplaying⟩
      · exact absurd hstatus (by decide)
      · rcases hplaying with hplaying | hplaying
        · rw [hplaying] at hphase'
          exact absurd hphase' (by simp)
        · rw [hplaying] at hphase'
          exact absurd hphase' (by simp)
  | lock balance' hphase' hescrow' =>
      have hactive := (escrow_unique hescrow hescrow').1
      rw [hactive] at hspoiled
      exact absurd hspoiled (by simp)
  | finish hplaying =>
      refine Or.inr ⟨nofun, status, balance, hescrow, hspoiled.imp id fun hcreated => ?_⟩
      exact ⟨hcreated.1, Or.inr rfl⟩
  | pay balance' left hplaying hescrow' =>
      have hlocked := (escrow_unique hescrow hescrow').1
      rw [hlocked] at hspoiled
      exact absurd hspoiled (by simp)
  | refund status' balance' hphase' hescrow' hstatus =>
      rw [← (escrow_unique hescrow hescrow').1] at hstatus
      rcases hspoiled with rfl | ⟨rfl, -⟩
      · exact absurd hstatus (by decide)
      · exact absurd hstatus (by decide)

/-- Events only have offers that were made. -/
theorem Step.offered (hstep : Step Offered event event')
    (h : event.phase ≠ .absent → Offered event.offer) :
    event'.phase ≠ .absent → Offered event'.offer := by
  -- Only a creation makes an offer, and every other step starts from an event that is
  -- there.
  cases hstep with
  | create offer habsent hoffer => exact fun _ => hoffer
  | open_ hfresh => exact fun _ => h (by rw [hfresh]; decide)
  | enter phase status balance hphase hescrow hstatus =>
      refine fun _ => h fun habsent => ?_
      rw [habsent] at hphase
      exact absurd hphase (by simp)
  | lock balance hphase hescrow =>
      refine fun _ => h fun habsent => ?_
      rw [habsent] at hphase
      exact absurd hphase (by simp)
  | finish hplaying => exact fun _ => h (by rw [hplaying]; decide)
  | pay balance left hplaying hescrow => exact fun _ => h (by rw [hplaying]; decide)
  | refund status balance hphase hescrow hstatus =>
      refine fun _ => h fun habsent => ?_
      rw [habsent] at hphase
      exact absurd hphase (by simp)

theorem Stray.offered (hstray : event.Stray event')
    (h : event.phase ≠ .absent → Offered event.offer) :
    event'.phase ≠ .absent → Offered event'.offer := by
  cases hstray with
  | refund status balance hphase hescrow hstatus =>
      refine fun _ => h fun habsent => ?_
      rw [habsent] at hphase
      exact absurd hphase (by simp)
  | unlocked hphase hescrow => exact fun _ => h (by rw [hphase]; decide)

/-- Staying as it is or moving on, an event keeps what every step keeps. -/
theorem keeps_of_reflGen {P : Event → Prop} (h : Relation.ReflGen (Step Offered) event event')
    (hP : ∀ next, Step Offered event next → P next) (hs : P event) : P event' := by
  cases h with
  | refl => exact hs
  | single hstep => exact hP event' hstep

theorem Stray.kept (hstray : event.Stray event') (h : event.Kept) : event'.Kept := by
  cases hstray with
  | refund status balance hphase hescrow hstatus =>
      -- A stray refund empties the escrow of an event that goes on.
      have hempty := stray_refund (h.inStep hescrow hstatus) hphase hescrow
      refine Or.inr ⟨?_, _, _, hempty, Or.inl rfl⟩
      change event.phase ≠ .absent
      rcases hphase with hphase | hphase
      · rw [hphase]
        decide
      · rw [hphase]
        decide
  | unlocked hphase hescrow =>
      refine Or.inr ⟨nofun, ?_⟩
      -- The bracket of an event that was in step, or of one that had gone astray
      -- already.
      rcases h with hin | ⟨-, status, balance, hheld, hspoiled⟩
      · unfold InStep at hin
        rw [hphase] at hin
        rcases hin with ⟨-, hholds⟩ | hholds | hrefunded
        · exact ⟨_, _, hholds.escrow, Or.inr ⟨rfl, Or.inl rfl⟩⟩
        · exact absurd hholds.escrow (hescrow _)
        · exact ⟨_, _, hrefunded, Or.inl rfl⟩
      · exact ⟨status, balance, hheld, hspoiled.imp id fun hcreated => ⟨hcreated.1, Or.inl rfl⟩⟩

end Agreement

end Event

end Esports

end SvmCourse
