import SvmCourse.Tokens.Market

/-!
# Lots

What a listing is about, without the tables: its kind, its status, the bids
that have been placed on it in their order, and how many sales it has had. A
lot is bid on, sold or cancelled, and that is all that happens to it.

On an auction the active bid is the last one, and its amount is the highest.
When the lot is no longer active no bid is. A lot has been sold once if its
status says so, and then one bid is accepted.

A bid may be stored as something other than what was checked, or not be stored
at all after the others have been outbid. What depends on that is kept apart:
the amounts rise only as long as bids fit.

## Main definitions

* `Lot`: A listing with its bids and sales.
* `Lot.Step`: What happens to a lot.
* `Lot.Closed`: What holds of every lot.
* `Lot.Rising`: What holds as long as bids fit.

## Theorems

* `Lot.closed_step`, `Lot.rising_step`: Whatever happens keeps both.
-/

namespace SvmCourse

namespace Tokens

/-- A listing with its bids and its sales. -/
structure Lot where
  listingType : ListingType
  status : ListingStatus
  bids : List NFTBid := []
  sales : Nat := 0
  deriving DecidableEq

/-- The active bids get another status. -/
def cleared (status : BidStatus) (bids : List NFTBid) : List NFTBid :=
  bids.map fun bid => if bid.status = .ACTIVE then { bid with status } else bid

namespace Lot

/-- The bids there are once a new one is let in. -/
def outbid (lot : Lot) : List NFTBid :=
  match lot.listingType with
  | .FIXED_PRICE => lot.bids
  | .AUCTION => cleared .OUTBID lot.bids

/-- What a call does to a lot. When bids fit, the stored bid is above the
    active ones, and nothing is outbid by a bid that is not stored. -/
inductive Step (fits : Prop) : Lot → Lot → Prop where
  | same (lot : Lot) : Step fits lot lot
  | bid (lot : Lot) (row : NFTBid) (hstatus : lot.status = .ACTIVE) (hrow : row.status = .ACTIVE)
      (hfits : fits → lot.listingType = .AUCTION → ∀ b ∈ lot.bids, b.status = .ACTIVE →
        b.amount < row.amount) :
      Step fits lot { lot with bids := lot.outbid ++ [row] }
  | lose (lot : Lot) (hstatus : lot.status = .ACTIVE)
      (hfits : fits → lot.listingType = .AUCTION → ∀ b ∈ lot.bids, b.status ≠ .ACTIVE) :
      Step fits lot { lot with bids := lot.outbid }
  | sell (lot : Lot) (before : List NFTBid) (bid : NFTBid) (after : List NFTBid)
      (hbids : lot.bids = before ++ bid :: after) (hactive : bid.status = .ACTIVE) :
      Step fits lot { lot with
        status := .SOLD
        bids := cleared .REJECTED (before ++ { bid with status := .ACCEPTED } :: after)
        sales := lot.sales + 1 }
  | cancel (lot : Lot) (hstatus : lot.status = .ACTIVE) :
      Step fits lot { lot with status := .CANCELLED, bids := cleared .CANCELLED lot.bids }

/-- One if the lot is sold. -/
def soldOnce (lot : Lot) : Nat := if lot.status = .SOLD then 1 else 0

/-- Bids that were outbid are not active, nor is any bid when the listing is over, and
    a listing is sold once. -/
structure Closed (lot : Lot) : Prop where
  outbid : lot.listingType = .AUCTION → ∀ b ∈ lot.bids.dropLast, b.status ≠ .ACTIVE
  inactive : lot.status ≠ .ACTIVE → ∀ b ∈ lot.bids, b.status ≠ .ACTIVE
  sales : lot.sales = lot.soldOnce
  accepted : lot.bids.countP (fun b => b.status = .ACCEPTED) = lot.soldOnce

/-- The bids of an auction rise, and the last of them is the active one. -/
structure Rising (lot : Lot) : Prop where
  increasing : lot.listingType = .AUCTION → (lot.bids.map NFTBid.amount).Pairwise (· < ·)
  last : lot.listingType = .AUCTION → lot.status = .ACTIVE →
    ∀ b ∈ lot.bids.getLast?, b.status = .ACTIVE

end Lot

/-! ### Clearing -/

variable {status : BidStatus} {bids : List NFTBid} {lot lot' : Lot}

theorem cleared_inactive (h : status ≠ .ACTIVE) :
    ∀ b ∈ cleared status bids, b.status ≠ .ACTIVE := by
  intro b hb
  obtain ⟨bid, -, rfl⟩ := List.mem_map.mp hb
  by_cases hactive : bid.status = .ACTIVE <;> simp [hactive, h]

theorem cleared_amounts (status : BidStatus) (bids : List NFTBid) :
    (cleared status bids).map NFTBid.amount = bids.map NFTBid.amount := by
  rw [cleared, List.map_map]
  refine List.map_congr_left fun bid _ => ?_
  by_cases hactive : bid.status = .ACTIVE <;> simp [hactive]

theorem cleared_accepted (h : status ≠ .ACCEPTED) (bids : List NFTBid) :
    (cleared status bids).countP (fun b => b.status = .ACCEPTED) =
      bids.countP fun b => b.status = .ACCEPTED := by
  rw [cleared, List.countP_map]
  refine List.countP_congr fun bid _ => ?_
  by_cases hactive : bid.status = .ACTIVE <;> simp [hactive, h]

theorem outbid_amounts (lot : Lot) :
    lot.outbid.map NFTBid.amount = lot.bids.map NFTBid.amount := by
  unfold Lot.outbid
  split
  · rfl
  · exact cleared_amounts _ _

theorem outbid_accepted (lot : Lot) : lot.outbid.countP (fun b => b.status = .ACCEPTED) =
    lot.bids.countP fun b => b.status = .ACCEPTED := by
  unfold Lot.outbid
  split
  · rfl
  · exact cleared_accepted (by decide) _

theorem outbid_auction (h : lot.listingType = .AUCTION) :
    lot.outbid = cleared .OUTBID lot.bids := by
  rw [Lot.outbid, h]

namespace Lot

/-! ### Every step -/

/-- Nothing that happens to a lot makes more than one bid of an auction active,
    or leaves one active when the lot is closed, or sells it twice. -/
theorem closed_step {fits : Prop} (h : lot.Closed) (hstep : Step fits lot lot') : lot'.Closed := by
  cases hstep with
  | same => exact h
  | bid row hstatus hrow hfits =>
      have hnotSold : lot.soldOnce = 0 := by simp [soldOnce, hstatus]
      refine ⟨fun hauction => ?_, fun hno => absurd hstatus hno, h.sales, ?_⟩
      · have houtbid : lot.outbid = cleared .OUTBID lot.bids := outbid_auction hauction
        rw [List.dropLast_concat, houtbid]
        exact cleared_inactive (by decide)
      · have haccepted := h.accepted
        rw [hnotSold] at haccepted
        simp [List.countP_append, outbid_accepted, haccepted, hrow, soldOnce, hstatus]
  | lose hstatus hfits =>
      refine ⟨fun hauction b hb => ?_, fun hno => absurd hstatus hno, h.sales, ?_⟩
      · have houtbid : lot.outbid = cleared .OUTBID lot.bids := outbid_auction hauction
        have hmem : b ∈ lot.outbid := List.dropLast_subset _ hb
        rw [houtbid] at hmem
        exact cleared_inactive (by decide) b hmem
      · rw [outbid_accepted]
        exact h.accepted
  | sell before bid after hbids hactive =>
      -- A bid is active, so the lot is and has not been sold.
      have hstatus : lot.status = .ACTIVE := by
        by_contra hno
        exact h.inactive hno bid (by simp [hbids]) hactive
      have hnotSold : lot.soldOnce = 0 := by simp [soldOnce, hstatus]
      have hinactive : ∀ b ∈
          cleared .REJECTED (before ++ { bid with status := .ACCEPTED } :: after),
          b.status ≠ .ACTIVE := cleared_inactive (by decide)
      have hnone := h.accepted
      rw [hbids, hnotSold, List.countP_append, List.countP_cons] at hnone
      refine ⟨fun _ b hb => hinactive b (List.dropLast_subset _ hb), fun _ => hinactive, ?_, ?_⟩
      · have hsales := h.sales
        rw [hnotSold] at hsales
        simp [hsales, soldOnce]
      · rw [cleared_accepted (by decide), List.countP_append, List.countP_cons]
        simp only [decide_true, if_true, soldOnce]
        omega
  | cancel hstatus =>
      have hnotSold : lot.soldOnce = 0 := by simp [soldOnce, hstatus]
      have hinactive : ∀ b ∈ cleared .CANCELLED lot.bids, b.status ≠ .ACTIVE :=
        cleared_inactive (by decide)
      refine ⟨fun _ b hb => hinactive b (List.dropLast_subset _ hb), fun _ => hinactive, ?_, ?_⟩
      · rw [h.sales, hnotSold]
        rfl
      · rw [cleared_accepted (by decide), h.accepted, hnotSold]
        rfl

/-- The last bid is above the others. -/
theorem le_last {bid : NFTBid} (h : (bids.map NFTBid.amount).Pairwise (· < ·))
    (hlast : bid ∈ bids.getLast?) : ∀ b ∈ bids, b.amount ≤ bid.amount := by
  obtain ⟨init, rfl⟩ := List.getLast?_eq_some_iff.mp hlast
  rw [List.map_append, List.pairwise_append] at h
  intro b hb
  rcases List.mem_append.mp hb with hinit | hself
  · exact le_of_lt (h.2.2 b.amount (List.mem_map_of_mem hinit) bid.amount (by simp))
  · rw [List.mem_singleton.mp hself]

/-- As long as bids fit, the amounts rise and the last bid stays the active
    one. -/
theorem rising_step (h : lot.Rising) (hstep : Step True lot lot') :
    lot'.Rising := by
  cases hstep with
  | same => exact h
  | bid row hstatus hrow hfits =>
      refine ⟨fun hauction => ?_, fun _ _ b hb => ?_⟩
      · have hbids := h.increasing hauction
        rw [List.map_append, List.map_singleton, outbid_amounts, List.pairwise_append]
        refine ⟨hbids, List.pairwise_singleton .., fun x hx y hy => ?_⟩
        rw [List.mem_singleton.mp hy]
        obtain ⟨b, hb, rfl⟩ := List.mem_map.mp hx
        -- The last bid is active and above the others, and the new one above it.
        cases hlast : lot.bids.getLast? with
        | none =>
            rw [List.getLast?_eq_none_iff.mp hlast] at hb
            exact absurd hb List.not_mem_nil
        | some last =>
            have hactive := h.last hauction hstatus last hlast
            have hmem := List.mem_of_getLast? hlast
            exact lt_of_le_of_lt (le_last hbids hlast b hb)
              (hfits trivial hauction last hmem hactive)
      · rw [List.getLast?_concat, Option.mem_some_iff] at hb
        rw [← hb]
        exact hrow
  | lose hstatus hfits =>
      refine ⟨fun hauction => ?_, fun hauction _ b hb => ?_⟩
      · rw [outbid_amounts]
        exact h.increasing hauction
      · -- Nothing was active on the auction, so there were no bids.
        have hnone : lot.bids = [] := by
          cases hlast : lot.bids.getLast? with
          | none => exact List.getLast?_eq_none_iff.mp hlast
          | some last =>
              exact absurd (h.last hauction hstatus last hlast)
                (hfits trivial hauction last (List.mem_of_getLast? hlast))
        have houtbid : lot.outbid = cleared .OUTBID lot.bids := outbid_auction hauction
        rw [hnone] at houtbid
        rw [houtbid] at hb
        exact nomatch hb
  | sell before bid after hbids hactive =>
      refine ⟨fun hauction => ?_, fun _ hno => nomatch hno⟩
      have hrising := h.increasing hauction
      rw [hbids] at hrising
      rw [cleared_amounts]
      simpa using hrising
  | cancel hstatus =>
      refine ⟨fun hauction => ?_, fun _ hno => nomatch hno⟩
      rw [cleared_amounts]
      exact h.increasing hauction

/-- On an auction one bid at most is active. -/
theorem active_length (h : lot.Closed) (hauction : lot.listingType = .AUCTION) :
    (lot.bids.filter fun b => b.status = .ACTIVE).length ≤ 1 := by
  cases hlast : lot.bids.getLast? with
  | none =>
      rw [List.getLast?_eq_none_iff.mp hlast]
      simp
  | some last =>
      obtain ⟨init, hbids⟩ := List.getLast?_eq_some_iff.mp hlast
      have houtbid := h.outbid hauction
      rw [hbids, List.dropLast_concat] at houtbid
      -- Every bid but the last has been outbid.
      have hnone : init.filter (fun b => b.status = .ACTIVE) = [] :=
        List.filter_eq_nil_iff.mpr fun b hb => by simpa using houtbid b hb
      rw [hbids, List.filter_append, hnone, List.nil_append]
      exact List.length_filter_le ..

/-- The active bid of an auction is the highest. -/
theorem active_highest (hclosed : lot.Closed) (h : lot.Rising)
    (hauction : lot.listingType = .AUCTION) {bid : NFTBid} (hbid : bid ∈ lot.bids)
    (hactive : bid.status = .ACTIVE) : ∀ b ∈ lot.bids, b.amount ≤ bid.amount := by
  have hlast : bid ∈ lot.bids.getLast? := by
    have hne : lot.bids ≠ [] := List.ne_nil_of_mem hbid
    have hsplit := List.dropLast_append_getLast hne
    rw [← hsplit] at hbid
    rcases List.mem_append.mp hbid with hinit | hself
    · exact absurd hactive (hclosed.outbid hauction bid hinit)
    · rw [List.mem_singleton.mp hself]
      exact List.getLast_mem_getLast? hne
  exact le_last (h.increasing hauction) hlast

end Lot

end Tokens

end SvmCourse
