import SvmCourse.Core.Protocol
import SvmCourse.Tokens.Auction

/-!
# Selling at the Same Time

Bids, acceptances and cancellations of one listing at the same time. A call
checks the statuses first and writes later, and a check may be stale by then.
Four writes matter. A second sale must not be saved. A listing that has been
sold must not be cancelled. A bid must not be saved once the listing is closed,
nor, on an auction, while another one is active.

A call that has saved its sale has yet to mark the listing as sold, and a call
that has closed the listing has yet to close the bids. These are the phases.
What holds when nobody has anything left to do is what holds of the phases
together when all of them are idle.

## Main definitions

* `SaleCall`: A call on the listing.
* `Timely`: The access does none of the four.
* `Phase`: What a call has left to do.
* `Lot.Write`: What an access does to the lot and to the phase.
* `Shared`: How the lot goes together with the phases.
* `SoldOnce`: What is promised when all calls have returned.

## Theorems

* `shared_write`: Timely writes keep the lot together with the phases.
* `placeBid_follows`, `acceptBid_follows`, `cancelListing_follows`: The calls
  follow the protocol.
* `soldOnce_after`: Schedules of timely accesses sell once.
-/

namespace SvmCourse

namespace Tokens

open Core Core.Prog Core.Machine Core.Sched

/-! ### Calls and writes -/

/-- A call on one listing. -/
inductive SaleCall where
  | placeBid (bidData : BidData) (now : Int)
  | acceptBid (bidId : Nat) (now : Int)
  | cancelListing (sellerAddress : String)

/-- What a call on the listing does, access by access. -/
def SaleCall.program (listingId : Nat) : SaleCall → Trade Unit
  | placeBid bidData now => discard (Tokens.placeBid { bidData with listingId } now)
  | acceptBid bidId now => discard (Tokens.acceptBid listingId bidId now)
  | cancelListing sellerAddress => Tokens.cancelListing listingId sellerAddress

/-- Such calls that run at the same time. -/
abbrev SalePool := Pool Market String SaleCall

namespace Lot

/-- How many bids are active. -/
def active (lot : Lot) : Nat := lot.bids.countP fun bid => bid.status = .ACTIVE

/-- The first sale, a cancellation of what has not been sold, and a bid on an
    active listing that is the only active one if the listing is an auction. -/
structure Fair (lot lot' : Lot) : Prop where
  sale : lot.sales < lot'.sales → lot.sales = 0
  cancel : lot'.status = .CANCELLED → lot.status ≠ .SOLD
  bid : lot.bids.length < lot'.bids.length →
    lot.status = .ACTIVE ∧ (lot.listingType = .AUCTION → lot.active = 0)

instance (lot lot' : Lot) : Decidable (Fair lot lot') :=
  decidable_of_iff ((lot.sales < lot'.sales → lot.sales = 0) ∧
      (lot'.status = .CANCELLED → lot.status ≠ .SOLD) ∧
      (lot.bids.length < lot'.bids.length →
        lot.status = .ACTIVE ∧ (lot.listingType = .AUCTION → lot.active = 0)))
    ⟨fun h => ⟨h.1, h.2.1, h.2.2⟩, fun h => ⟨h.sale, h.cancel, h.bid⟩⟩

end Lot

/-- What the access does to the listing is in time. -/
def Timely (listingId : Nat) (write : Market → Market) (s : Market) : Prop :=
  ∀ lot ∈ s.lot listingId, ∀ lot' ∈ (write s).lot listingId, lot.Fair lot'

instance (listingId : Nat) (write : Market → Market) (s : Market) :
    Decidable (Timely listingId write s) :=
  inferInstanceAs (Decidable (∀ lot ∈ s.lot listingId, ∀ lot' ∈ (write s).lot listingId, _))

/-! ### Phases -/

/-- A call has nothing left to do, or has to mark the listing as sold, or has to
    close the bids. -/
inductive Phase where
  | idle | selling | closing
  deriving DecidableEq

namespace Lot

/-- What an access does to the lot, and where it leaves the call. -/
inductive Write : Phase → Lot → Phase → Lot → Prop where
  | none (phase : Phase) (lot : Lot) : Write phase lot phase lot
  | outbid (lot : Lot) : Write .idle lot .idle { lot with bids := cleared .OUTBID lot.bids }
  | bid (lot : Lot) (row : NFTBid) : Write .idle lot .idle { lot with bids := lot.bids ++ [row] }
  | sale (lot : Lot) : Write .idle lot .selling { lot with sales := lot.sales + 1 }
  | sold (lot : Lot) : Write .selling lot .closing { lot with status := .SOLD }
  | cancelled (lot : Lot) : Write .idle lot .closing { lot with status := .CANCELLED }
  | accept (lot : Lot) (before : List NFTBid) (bid : NFTBid) (after : List NFTBid)
      (hbids : lot.bids = before ++ bid :: after) :
      Write .closing lot .closing
        { lot with bids := before ++ { bid with status := .ACCEPTED } :: after }
  | close (lot : Lot) (status : BidStatus) (hstatus : status ≠ .ACTIVE) :
      Write .closing lot .idle { lot with bids := cleared status lot.bids }

end Lot

/-- How a lot goes together with what the calls on it have left to do: there is
    one sale at most, and whoever made it has marked the listing as sold or has
    yet to; active bids on a closed listing are about to be closed; an active
    auction has one active bid at most. -/
structure Shared (lot : Lot) (phases : List Phase) : Prop where
  once : lot.sales ≤ 1
  sold : lot.sales = phases.count .selling + lot.soldOnce
  closed : lot.status ≠ .ACTIVE → lot.active ≠ 0 → 0 < phases.count .closing
  single : lot.listingType = .AUCTION → lot.status = .ACTIVE → lot.active ≤ 1

section Shared

variable {lot lot' : Lot} {before after : List Phase} {phase phase' : Phase}

theorem count_split (phase' : Phase) : (before ++ phase :: after).count phase' =
    (before ++ after).count phase' + if phase = phase' then 1 else 0 := by
  rw [List.count_append, List.count_cons, List.count_append, Nat.add_assoc]
  simp only [beq_iff_eq]

theorem active_cleared {status : BidStatus} (h : status ≠ .ACTIVE) (bids : List NFTBid) :
    (cleared status bids).countP (fun bid => bid.status = .ACTIVE) = 0 :=
  List.countP_eq_zero.mpr fun bid hbid => by simpa using cleared_inactive h bid hbid

/-- Each write does its part of what the phases have left, and a timely one
    breaks nothing. -/
theorem shared_write (h : Shared lot (before ++ phase :: after))
    (hwrite : Lot.Write phase lot phase' lot') (hfair : lot.Fair lot') :
    Shared lot' (before ++ phase' :: after) := by
  obtain ⟨honce, hsold, hclosed, hsingle⟩ := h
  rw [count_split] at hsold hclosed
  cases hwrite with
  | none =>
      exact ⟨honce, by rw [count_split]; exact hsold, by rw [count_split]; exact hclosed, hsingle⟩
  | outbid =>
      refine ⟨honce, by rw [count_split]; exact hsold, fun _ hactive => ?_, fun _ _ => ?_⟩
      · exact absurd (active_cleared (by decide) lot.bids) hactive
      · exact (active_cleared (by decide) lot.bids).le.trans (Nat.zero_le 1)
  | bid _ row =>
      obtain ⟨hactive, hnone⟩ := hfair.bid (by simp)
      refine ⟨honce, by rw [count_split]; exact hsold, fun hno => absurd hactive hno,
        fun hauction _ => ?_⟩
      have hzero : lot.bids.countP (fun bid => bid.status = .ACTIVE) = 0 := hnone hauction
      rw [Lot.active, List.countP_append, hzero, Nat.zero_add]
      exact List.countP_le_length
  | sale =>
      have hfirst := hfair.sale (Nat.lt_succ_self _)
      refine ⟨by simp [hfirst], ?_, ?_, hsingle⟩
      · have hsame : ({ lot with sales := lot.sales + 1 } : Lot).soldOnce = lot.soldOnce := rfl
        rw [count_split, hsame]
        simp only [reduceCtorEq, if_false] at hsold
        simp only [if_true]
        omega
      · rw [count_split]
        exact hclosed
  | sold =>
      -- The sale is the only one, so nobody has marked the listing before.
      simp only [if_true] at hsold
      refine ⟨honce, ?_, fun _ _ => ?_, fun _ hno => by cases hno⟩
      · rw [count_split]
        simp only [reduceCtorEq, if_false, Lot.soldOnce, if_true]
        omega
      · rw [count_split]
        simp
  | cancelled =>
      have hnotSold : lot.soldOnce = 0 := if_neg (hfair.cancel rfl)
      rw [hnotSold] at hsold
      refine ⟨honce, ?_, fun _ _ => ?_, fun _ hno => by cases hno⟩
      · rw [count_split]
        simp only [reduceCtorEq, if_false, Lot.soldOnce] at hsold ⊢
        exact hsold
      · rw [count_split]
        simp
  | accept _ init bid rest hbids =>
      have hle : (init ++ { bid with status := .ACCEPTED } :: rest).countP
          (fun bid => bid.status = .ACTIVE) ≤ lot.active := by
        rw [Lot.active, hbids, List.countP_append, List.countP_append, List.countP_cons,
          List.countP_cons]
        simp
      refine ⟨honce, by rw [count_split]; exact hsold, fun _ _ => ?_, fun hauction hactive => ?_⟩
      · rw [count_split]
        simp
      · exact hle.trans (hsingle hauction hactive)
  | close _ status hstatus =>
      refine ⟨honce, by rw [count_split]; exact hsold, fun _ hactive => ?_, fun _ _ => ?_⟩
      · exact absurd (active_cleared hstatus lot.bids) hactive
      · exact (active_cleared hstatus lot.bids).le.trans (Nat.zero_le 1)

end Shared

/-! ### The protocol -/

/-- The accesses of a call do to the listing what its phase lets them. -/
def selling (listingId : Nat) : Protocol Market Phase where
  sees _ s := (s.lot listingId).isSome
  advances phase write s phase' := ∃ lot lot', s.lot listingId = some lot ∧
    (write s).lot listingId = some lot' ∧ Lot.Write phase lot phase' lot'

/-- The listing and its calls are as the phases say. -/
def SharedBy (listingId : Nat) (s : Market) (phases : List Phase) : Prop :=
  ∃ lot, s.lot listingId = some lot ∧ Shared lot phases

theorem selling_law (listingId : Nat) : ProtocolLaw (selling listingId) (Timely listingId)
    (SharedBy listingId) .idle where
  sees s before phase after h := by
    obtain ⟨lot, hlot, -⟩ := h
    exact Option.isSome_iff_exists.mpr ⟨lot, hlot⟩
  start s phases h := by
    obtain ⟨lot, hlot, honce, hsold, hclosed, hsingle⟩ := h
    -- A call that begins is idle, so no other phase is counted once more.
    have hcount : ∀ phase : Phase, phase ≠ .idle →
        (phases ++ [Phase.idle]).count phase = phases.count phase := by
      intro phase hne
      have hnone : [Phase.idle].count phase = 0 := List.count_eq_zero.mpr (by simpa using hne)
      rw [List.count_append, hnone, Nat.add_zero]
    refine ⟨lot, hlot, honce, ?_, ?_, hsingle⟩
    · rw [hcount .selling (by decide)]
      exact hsold
    · rw [hcount .closing (by decide)]
      exact hclosed
  advance s before phase after write phase' h hadvances htimely := by
    obtain ⟨lot, hlot, hshared⟩ := h
    obtain ⟨same, lot', hsame, hlot', hwrite⟩ := hadvances
    obtain rfl := Option.some_inj.mp (hsame.symm.trans hlot)
    exact ⟨lot', hlot', shared_write hshared hwrite (htimely _ hlot _ hlot')⟩

section Follows

variable {listingId : Nat} {phase : Phase} {α : Type}

/-- An access to the listing, by what it does to the lot. -/
theorem follows_query {act : Market → α × Market} {R : Phase → Except String α → Prop}
    (h : ∀ s lot, s.lot listingId = some lot → ∃ phase' lot',
      (act s).2.lot listingId = some lot' ∧ Lot.Write phase lot phase' lot' ∧
        R phase' (.ok (act s).1)) :
    (query act).Follows (selling listingId) R phase := by
  refine follows_perform fun s hs => ?_
  obtain ⟨lot, hlot⟩ := Option.isSome_iff_exists.mp hs
  obtain ⟨phase', lot', hlot', hwrite, hR⟩ := h s lot hlot
  exact ⟨phase', ⟨lot, lot', hlot, hlot', hwrite⟩, hR⟩

theorem follows_read {find : Market → α} {R : Phase → Except String α → Prop}
    (h : ∀ a, R phase (.ok a)) :
    (query fun s => (find s, s)).Follows (selling listingId) R phase :=
  follows_query fun s lot hlot => ⟨phase, lot, hlot, .none phase lot, h (find s)⟩

/-- A row that does not fit changes nothing. -/
theorem follows_insert {X : Type} {row : Option X} {store : X → Market → Market}
    {R : Phase → Except String X → Prop} {phase' : Phase}
    (h : ∀ r s lot, row = some r → s.lot listingId = some lot → ∃ lot',
      (store r s).lot listingId = some lot' ∧ Lot.Write phase lot phase' lot')
    (hok : ∀ r, row = some r → R phase' (.ok r)) (herr : ∀ e, R phase (.error e)) :
    (insert row store).Follows (selling listingId) R phase := by
  refine follows_bind (follows_query fun s lot hlot => ?_)
  cases row with
  | none => exact ⟨phase, lot, hlot, .none phase lot, herr _⟩
  | some r =>
      obtain ⟨lot', hlot', hwrite⟩ := h r s lot rfl hlot
      exact ⟨phase', lot', hlot', hwrite, hok r rfl⟩

theorem checkBid_follows (listing : NFTListing) (bidData : BidData) (now : Int) :
    (checkBid listing bidData now).Follows (selling listingId) (fun phase _ => phase = .idle)
      .idle := by
  unfold checkBid
  cases listing.listingType with
  | FIXED_PRICE => exact follows_require (fun _ => rfl) fun _ => rfl
  | AUCTION =>
      refine follows_bind (follows_require (fun _ => ?_) fun _ => rfl)
      refine follows_bind (follows_read fun highest => ?_)
      cases highest with
      | none => exact rfl
      | some highest => exact follows_require (fun _ => rfl) fun _ => rfl

theorem outbid_follows (listing : NFTListing) :
    (outbid listing listingId).Follows (selling listingId) (fun phase _ => phase = .idle)
      .idle := by
  unfold outbid
  cases listing.listingType with
  | FIXED_PRICE => exact rfl
  | AUCTION =>
      refine follows_query fun s lot hlot => ⟨.idle, _, ?_, .outbid lot, rfl⟩
      rw [Market.lot_setActive, hlot, Option.map_some, if_pos rfl]

/-- A bid leaves nothing to do wherever it ends. -/
theorem placeBid_follows (bidData : BidData) (now : Int) (hid : bidData.listingId = listingId) :
    (placeBid bidData now).Follows (selling listingId) (fun phase _ => phase = .idle) .idle := by
  subst hid
  refine follows_bind (follows_read fun found => ?_)
  refine follows_bind (follows_demand (fun listing _ => ?_) fun _ => rfl)
  refine follows_bind (follows_require (fun _ => ?_) fun _ => rfl)
  refine follows_bind (follows_mono (checkBid_follows listing bidData now) fun phase r hr => ?_)
  subst hr
  cases r with
  | error e => rfl
  | ok _ =>
      refine follows_bind (follows_mono (outbid_follows listing) fun phase r hr => ?_)
      subst hr
      cases r with
      | error e => rfl
      | ok _ =>
          -- The insert is the only write that concerns the lot.
          refine follows_insert (fun row s lot hrow hlot => ⟨_, ?_, .bid lot row⟩)
            (fun _ _ => rfl) fun _ => rfl
          rw [Market.lot_addBid, hlot, Option.map_some, if_pos (row_of_bidData hrow).1]

/-- Whichever bid is accepted, at most one of the listing changes. -/
theorem follows_accept (bidId : Nat) {R : Phase → Except String Unit → Prop}
    (h : R .closing (.ok ())) :
    (nftBidRepository.update bidId .ACCEPTED).Follows (selling listingId) R .closing := by
  refine follows_query fun s lot hlot => ?_
  cases hbid : s.bids[bidId]? with
  | none =>
      have hsame : s.setBid bidId .ACCEPTED = s := by
        rw [Market.setBid, List.modify_eq_self (List.getElem?_eq_none_iff.mp hbid)]
      exact ⟨.closing, lot, hsame.symm ▸ hlot, .none _ lot, h⟩
  | some bid =>
      -- The bid may be on another listing, which is then another lot.
      by_cases hon : bid.listingId = listingId
      · obtain ⟨before, after, hbids, hset⟩ := Market.lot_setBid .ACCEPTED hbid hon hlot
        exact ⟨.closing, _, hset, .accept lot before bid after hbids, h⟩
      · have hset := Market.lot_setBid_ne .ACCEPTED hbid hon
        exact ⟨.closing, lot, hset.trans hlot, .none _ lot, h⟩

/-- Closing the bids is the last thing a call has to do. -/
theorem follows_close {status : BidStatus} (hstatus : status ≠ .ACTIVE)
    {R : Phase → Except String Unit → Prop} (h : R .idle (.ok ())) :
    (nftBidRepository.updateActive listingId status).Follows (selling listingId) R .closing := by
  refine follows_query fun s lot hlot => ⟨.idle, _, ?_, .close lot status hstatus, h⟩
  rw [Market.lot_setActive, hlot, Option.map_some, if_pos rfl]

/-- An acceptance that has saved the sale does the rest. -/
theorem acceptBid_follows (bidId : Nat) (now : Int) :
    (acceptBid listingId bidId now).Follows (selling listingId) (fun phase _ => phase = .idle)
      .idle := by
  refine follows_bind (follows_read fun found => ?_)
  refine follows_bind (follows_demand (fun listing _ => ?_) fun _ => rfl)
  refine follows_bind (follows_read fun foundBid => ?_)
  refine follows_bind (follows_demand (fun bid _ => ?_) fun _ => rfl)
  refine follows_bind (follows_require (fun _ => ?_) fun _ => rfl)
  refine follows_bind (follows_insert (fun sale s lot hsale hlot => ⟨_, ?_, .sale lot⟩)
    (fun sale _ => ?_) fun _ => rfl)
  · rw [Market.lot_addSale, hlot, Option.map_some, if_pos (saleRow_listingId hsale)]
  · refine follows_bind (follows_query fun s lot hlot => ⟨.closing, _, ?_, .sold lot, ?_⟩)
    · rw [Market.lot_setListing, hlot, Option.map_some, if_pos rfl]
    · exact follows_bind (follows_accept bidId (follows_bind (follows_close (by decide) rfl)))

theorem cancelListing_follows (sellerAddress : String) :
    (cancelListing listingId sellerAddress).Follows (selling listingId)
      (fun phase _ => phase = .idle) .idle := by
  refine follows_bind (follows_read fun found => ?_)
  refine follows_bind (follows_demand (fun listing _ => ?_) fun _ => rfl)
  refine follows_bind (follows_require (fun _ => ?_) fun _ => rfl)
  refine follows_bind (follows_query fun s lot hlot => ⟨.closing, _, ?_, .cancelled lot, ?_⟩)
  · rw [Market.lot_setListing, hlot, Option.map_some, if_pos rfl]
  · exact follows_close (by decide) rfl

theorem sale_follows (call : SaleCall) :
    (call.program listingId).Follows (selling listingId) (fun phase _ => phase = .idle) .idle := by
  cases call with
  | placeBid bidData now =>
      refine follows_bind (follows_mono (placeBid_follows _ now rfl) fun phase r hr => ?_)
      cases r <;> exact hr
  | acceptBid bidId now =>
      refine follows_bind (follows_mono (acceptBid_follows bidId now) fun phase r hr => ?_)
      cases r <;> exact hr
  | cancelListing sellerAddress => exact cancelListing_follows sellerAddress

end Follows

/-! ### Many calls -/

/-- One sale at most, none if the listing has been cancelled, no active bid on a
    listing that is sold or cancelled, and one at most on an active auction. -/
structure SoldOnce (market : Market) (listingId : Nat) : Prop where
  once : (market.salesOf listingId).length ≤ 1
  cancelled : ∀ listing, market.listings[listingId]? = some listing →
    listing.status = .CANCELLED → market.salesOf listingId = []
  closed : ∀ listing, market.listings[listingId]? = some listing →
    listing.status = .SOLD ∨ listing.status = .CANCELLED → market.activeBids listingId = []
  single : ∀ listing, market.listings[listingId]? = some listing → listing.status = .ACTIVE →
    listing.listingType = .AUCTION → (market.activeBids listingId).length ≤ 1

section Schedule

variable {listingId : Nat} {market : Market}

theorem length_activeBids {lot : Lot} (hlot : market.lot listingId = some lot) :
    (market.activeBids listingId).length = lot.active := by
  obtain ⟨listing, -, rfl⟩ := Option.map_eq_some_iff.mp hlot
  rw [activeBids_eq, Lot.active, List.countP_eq_length_filter]

/-- When all phases are idle, what they share is what is promised. -/
theorem soldOnce_of_shared {phases : List Phase} (h : SharedBy listingId market phases)
    (hidle : ∀ phase ∈ phases, phase = .idle) : SoldOnce market listingId := by
  obtain ⟨lot, hlot, honce, hsold, hclosed, hsingle⟩ := h
  -- Nobody is in the middle of selling or closing.
  have hnobody : ∀ phase : Phase, phase ≠ .idle → phases.count phase = 0 := by
    intro phase hne
    exact List.count_eq_zero.mpr fun hmem => hne (hidle phase hmem)
  have hactive := length_activeBids hlot
  rw [hnobody .selling (by decide), Nat.zero_add] at hsold
  rw [hnobody .closing (by decide)] at hclosed
  obtain ⟨listing, hlisting, rfl⟩ := Option.map_eq_some_iff.mp hlot
  have hthis : ∀ other, market.listings[listingId]? = some other → other = listing :=
    fun other hother => Option.some_inj.mp (hother.symm.trans hlisting)
  refine ⟨honce, fun other hother hcancelled => ?_, fun other hother hstatus => ?_,
    fun other hother hstatus hauction => ?_⟩
  · obtain rfl := hthis other hother
    rw [Lot.soldOnce, if_neg (by simp [hcancelled])] at hsold
    exact List.length_eq_zero_iff.mp hsold
  · obtain rfl := hthis other hother
    refine List.length_eq_zero_iff.mp (hactive.trans ?_)
    by_contra hsome
    refine Nat.lt_irrefl 0 (hclosed (fun hno => ?_) hsome)
    rcases hstatus with hstatus | hstatus <;> cases hstatus.symm.trans hno
  · obtain rfl := hthis other hother
    exact hactive.le.trans (hsingle hauction hstatus)

/-- A lot between calls is one nobody has anything to do about. -/
theorem shared_of_closed {lot : Lot} (h : lot.Closed) : Shared lot [] := by
  have honce : lot.soldOnce ≤ 1 := by
    rw [Lot.soldOnce]
    split <;> omega
  refine ⟨h.sales.le.trans honce, ?_, fun hinactive hactive => ?_, fun hauction _ => ?_⟩
  · rw [h.sales, List.count_nil, Nat.zero_add]
  · refine absurd (List.countP_eq_zero.mpr fun bid hbid => ?_) hactive
    simpa using h.inactive hinactive bid hbid
  · rw [Lot.active, List.countP_eq_length_filter]
    exact Lot.active_length h hauction

/-- On a listing of any marketplace, any calls in any schedule sell once and
    leave no bid behind, as long as their writes are in time. -/
theorem soldOnce_after (calls : List MarketCall) {listing : NFTListing}
    (hlisting : (after Exchange.step calls {}).market.listings[listingId]? = some listing)
    (moves : List (Move SaleCall))
    (htimely : Along (move (SaleCall.program listingId))
      (fun m pool _ _ => meets (Timely listingId) m pool) moves
      ⟨(after Exchange.step calls {}).market, []⟩)
    (hreturned : ∀ thread ∈ (after (move (SaleCall.program listingId)) moves
      ⟨(after Exchange.step calls {}).market, []⟩).threads, thread.rest.unfinished = false) :
    SoldOnce (after (move (SaleCall.program listingId)) moves
      ⟨(after Exchange.step calls {}).market, []⟩).store listingId := by
  have hkept := kept_after calls kept_empty
  have hlot := lot_of_listing hlisting
  have hstart : SharedBy listingId (after Exchange.step calls {}).market [] :=
    ⟨_, hlot, shared_of_closed (hkept.closed listingId _ hlot)⟩
  obtain ⟨tagged, hthreads, hfollows, htogether⟩ := phased_after (selling_law listingId)
    sale_follows (phased_nil hstart) htimely
  refine soldOnce_of_shared htogether fun phase hphase => ?_
  obtain ⟨entry, hentry, rfl⟩ := List.mem_map.mp hphase
  have hthread := hreturned entry.1 (hthreads ▸ List.mem_map_of_mem hentry)
  obtain ⟨r, hr⟩ := outcome_of_finished hthread
  exact follows_outcome (hfollows entry hentry) hr

/-- An auction with one bid, and calls on it. -/
def salePool (moves : List (Move SaleCall)) : SalePool :=
  after (move (SaleCall.program 0)) moves
    ⟨(after Exchange.step ((auctionCalls 1 2).take 2) {}).market, []⟩

theorem salePool_listing : ∃ listing,
    (after Exchange.step ((auctionCalls 1 2).take 2) {}).market.listings[0]? = some listing := by
  have hsome : (after Exchange.step ((auctionCalls 1 2).take 2) {}).market.listings[0]?.isSome :=
    by decide +kernel
  exact Option.isSome_iff_exists.mp hsome

/-- A bid is placed while another one is being accepted, and a cancellation
    comes too late. -/
def acceptedMeanwhile : List (Move SaleCall) :=
  [.start (.acceptBid 0 8),
    .start (.placeBid { listingId := 0, bidderAddress := "b", amount := 2 } 9),
    .access 0, .access 0] ++
  List.replicate 4 (.access 1) ++ List.replicate 4 (.access 0) ++
  [.start (.cancelListing "seller"), .access 2]

theorem soldOnce_acceptedMeanwhile : SoldOnce (salePool acceptedMeanwhile).store 0 := by
  obtain ⟨listing, hlisting⟩ := salePool_listing
  exact soldOnce_after _ hlisting acceptedMeanwhile (by decide +kernel) (by decide +kernel)

/-- Both acceptances find the bid active. -/
def twoAcceptances : List (Move SaleCall) :=
  [.start (.acceptBid 0 8), .start (.acceptBid 0 9), .access 0, .access 0, .access 1, .access 1] ++
  List.replicate 4 (.access 0) ++ List.replicate 4 (.access 1)

/-- The listing is sold and the bid accepted twice. -/
theorem not_soldOnce_after : ¬ ∀ (calls : List MarketCall) (listingId : Nat)
    (moves : List (Move SaleCall)),
    (∀ thread ∈ (after (move (SaleCall.program listingId)) moves
      ⟨(after Exchange.step calls {}).market, []⟩).threads, thread.rest.unfinished = false) →
    SoldOnce (after (move (SaleCall.program listingId)) moves
      ⟨(after Exchange.step calls {}).market, []⟩).store listingId := by
  intro h
  have honce := (h ((auctionCalls 1 2).take 2) 0 twoAcceptances (by decide +kernel)).once
  revert honce
  decide +kernel

end Schedule

end Tokens

end SvmCourse
