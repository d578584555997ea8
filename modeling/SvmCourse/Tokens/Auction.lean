import SvmCourse.Tokens.Lots

/-!
# The Auction House

Every call leaves every listing with its lot as it was, or does to one lot what
can be done to a lot. So what holds of every lot holds of every listing in
every reachable state of the marketplace: a listing that is not active has no
active bid, an auction has one at most, and a bid is accepted once and only
once on a listing that is sold.

The highest bid is another matter. A bid is compared as it was given and stored
with nine decimals, so a bid that is higher in the tenth is stored as an equal
one. A bid with too many digits is not stored at all, after the others have
been outbid by it. As long as the bids that outbid others fit their column, the
amounts on an auction rise and the active bid is the highest.

## Main definitions

* `Market.lot`: The lot of a listing.
* `Market.Placed`: Bids and sales belong to listings that there are.
* `Advances`: What a call does to the lots.
* `Fits`: The bid of the call fits its column, if it outbids another.
* `Exchange`: The marketplace with the listings a bid was accepted on.
* `Orderly`: What is promised of its listings.

## Theorems

* `placeBid_cases`, `acceptBid_cases`, `cancelListing_cases`: What the calls
  can do.
* `made_program`: What every call does.
* `orderly_along`: Runs of bids that fit keep every promise.
-/

namespace SvmCourse

namespace Tokens

open Core Prog Machine

namespace Market

/-- What belongs to a listing: its bids and its sales. -/
def lot (market : Market) (listingId : Nat) : Option Lot :=
  market.listings[listingId]?.map fun listing =>
    { listingType := listing.listingType
      status := listing.status
      bids := market.bidsOn listingId
      sales := (market.salesOf listingId).length }

/-- Bids and sales belong to listings that there are. -/
def Placed (market : Market) : Prop :=
  ∀ L, market.listings.length ≤ L → market.bidsOn L = [] ∧ market.salesOf L = []

/-! ### What the accesses do to the rows of a listing -/

variable {market : Market} {L : Nat}

theorem bidsOn_addBid (bid : NFTBid) : (market.addBid bid).bidsOn L =
    market.bidsOn L ++ if bid.listingId = L then [bid] else [] := by
  simp only [bidsOn, addBid, List.filter_append, List.filter_singleton, Bool.cond_decide]

theorem salesOf_addSale (sale : NFTSale) : (market.addSale sale).salesOf L =
    market.salesOf L ++ if sale.listingId = L then [sale] else [] := by
  simp only [salesOf, addSale, List.filter_append, List.filter_singleton, Bool.cond_decide]

theorem bidsOn_setActive (listingId : Nat) (status : BidStatus) :
    (market.setActive listingId status).bidsOn L =
      if listingId = L then cleared status (market.bidsOn L) else market.bidsOn L := by
  have hid : ∀ bid : NFTBid, (if bid.listingId = listingId ∧ bid.status = .ACTIVE then
      { bid with status } else bid).listingId = bid.listingId := by
    intro bid
    split <;> rfl
  -- A bid stays on its listing, whatever its status.
  have hfilter : (market.setActive listingId status).bidsOn L = (market.bidsOn L).map fun bid =>
      if bid.listingId = listingId ∧ bid.status = .ACTIVE then { bid with status } else bid := by
    simp only [bidsOn, setActive, List.filter_map, Function.comp_def, hid]
  rw [hfilter]
  by_cases hL : listingId = L
  · rw [if_pos hL, cleared]
    refine List.map_congr_left fun bid hbid => ?_
    have hon : bid.listingId = listingId := by
      rw [hL]
      simpa using (List.mem_filter.mp hbid).2
    simp [hon]
  · rw [if_neg hL]
    conv_rhs => rw [← List.map_id (market.bidsOn L)]
    refine List.map_congr_left fun bid hbid => ?_
    have hon : bid.listingId = L := by simpa using (List.mem_filter.mp hbid).2
    have hother : ¬ L = listingId := fun h => hL h.symm
    simp [hon, hother]

/-- The bid stays where it is. -/
theorem bidsOn_setBid {bidId : Nat} {bid : NFTBid} (status : BidStatus)
    (hbid : market.bids[bidId]? = some bid) (hon : bid.listingId = L) :
    ∃ before after, market.bidsOn L = before ++ bid :: after ∧
      (market.setBid bidId status).bidsOn L = before ++ { bid with status } :: after := by
  obtain ⟨hlt, hget⟩ := List.getElem?_eq_some_iff.mp hbid
  -- The bids before and after it are the same.
  have hsplit : market.bids = market.bids.take bidId ++ bid :: market.bids.drop (bidId + 1) := by
    rw [← hget, ← List.drop_eq_getElem_cons hlt, List.take_append_drop]
  have hset : (market.setBid bidId status).bids =
      market.bids.take bidId ++ { bid with status } :: market.bids.drop (bidId + 1) := by
    rw [setBid, List.modify_eq_take_cons_drop hlt, hget]
  refine ⟨(market.bids.take bidId).filter fun bid => bid.listingId = L,
    (market.bids.drop (bidId + 1)).filter fun bid => bid.listingId = L, ?_, ?_⟩
  · conv_lhs => rw [bidsOn, hsplit]
    simp [hon]
  · rw [bidsOn, hset]
    simp [hon]

theorem bidsOn_setBid_ne {bidId : Nat} {bid : NFTBid} (status : BidStatus)
    (hbid : market.bids[bidId]? = some bid) (hon : bid.listingId ≠ L) :
    (market.setBid bidId status).bidsOn L = market.bidsOn L := by
  obtain ⟨hlt, hget⟩ := List.getElem?_eq_some_iff.mp hbid
  have hsplit : market.bids = market.bids.take bidId ++ bid :: market.bids.drop (bidId + 1) := by
    rw [← hget, ← List.drop_eq_getElem_cons hlt, List.take_append_drop]
  conv_rhs => rw [bidsOn, hsplit]
  rw [bidsOn, setBid, List.modify_eq_take_cons_drop hlt, hget]
  simp [hon]

theorem getElem?_setListing (id : Nat) (status : ListingStatus) :
    (market.setListing id status).listings[L]? = market.listings[L]?.map fun listing =>
      if id = L then { listing with status } else listing := by
  rw [setListing, List.getElem?_modify]
  rfl

/-! ### What they do to its lot -/

theorem lot_setListing (id : Nat) (status : ListingStatus) :
    (market.setListing id status).lot L =
      (market.lot L).map fun lot => if id = L then { lot with status } else lot := by
  rw [lot, lot, getElem?_setListing, Option.map_map, Option.map_map]
  congr 1
  funext listing
  by_cases hL : id = L <;> simp only [hL, if_true, if_false, Function.comp] <;> rfl

theorem lot_setActive (listingId : Nat) (status : BidStatus) :
    (market.setActive listingId status).lot L = (market.lot L).map fun lot =>
      if listingId = L then { lot with bids := cleared status lot.bids } else lot := by
  rw [lot, lot, bidsOn_setActive, Option.map_map]
  by_cases hL : listingId = L <;> simp only [hL, if_true, if_false] <;> rfl

theorem lot_addBid (bid : NFTBid) : (market.addBid bid).lot L = (market.lot L).map fun lot =>
    if bid.listingId = L then { lot with bids := lot.bids ++ [bid] } else lot := by
  rw [lot, lot, bidsOn_addBid, Option.map_map]
  by_cases hL : bid.listingId = L <;> simp only [hL, if_true, if_false, List.append_nil] <;> rfl

theorem lot_addSale (sale : NFTSale) : (market.addSale sale).lot L =
    (market.lot L).map fun lot =>
      if sale.listingId = L then { lot with sales := lot.sales + 1 } else lot := by
  rw [lot, lot, salesOf_addSale, Option.map_map]
  by_cases hL : sale.listingId = L <;>
    simp only [hL, if_true, if_false, List.append_nil, List.length_append] <;> rfl

theorem lot_setBid {bidId : Nat} {bid : NFTBid} {lot : Lot} (status : BidStatus)
    (hbid : market.bids[bidId]? = some bid) (hon : bid.listingId = L)
    (hlot : market.lot L = some lot) :
    ∃ before after, lot.bids = before ++ bid :: after ∧ (market.setBid bidId status).lot L =
      some { lot with bids := before ++ { bid with status } :: after } := by
  obtain ⟨before, after, hbefore, hafter⟩ := bidsOn_setBid status hbid hon
  obtain ⟨listing, hlisting, rfl⟩ := Option.map_eq_some_iff.mp hlot
  refine ⟨before, after, hbefore, ?_⟩
  have hsame : (market.setBid bidId status).listings[L]? = some listing := hlisting
  rw [Market.lot, hsame, hafter]
  rfl

theorem lot_setBid_ne {bidId : Nat} {bid : NFTBid} (status : BidStatus)
    (hbid : market.bids[bidId]? = some bid) (hon : bid.listingId ≠ L) :
    (market.setBid bidId status).lot L = market.lot L := by
  rw [lot, lot, bidsOn_setBid_ne status hbid hon]
  rfl

end Market

/-! ### What a call can do -/

section Cases

variable {market : Market}

/-- The active bids are outbid on an auction. -/
def Market.letIn (market : Market) (listing : NFTListing) (listingId : Nat) : Market :=
  match listing.listingType with
  | .FIXED_PRICE => market
  | .AUCTION => market.setActive listingId .OUTBID

/-- If the listing is an auction, it lasts, and the bid is above the highest
    active one. -/
def Market.exceeded (market : Market) (listing : NFTListing) (bidData : BidData) (now : Int) :
    Prop :=
  listing.listingType = .AUCTION →
    (listing.auctionEndTime.all fun auctionEndTime => now ≤ auctionEndTime) ∧
      ∀ highest ∈ market.highestBid bidData.listingId, highest.amount < bidData.amount

theorem ensures_insert {R : Type} {row : Option R} {store : R → Market → Market}
    {Q : Except String R → Market → Prop} (hok : ∀ r, row = some r → Q (.ok r) (store r market))
    (herr : ∀ e, row = none → Q (.error e) market) :
    (insert row store).Ensures False market Q := by
  cases row with
  | none => exact ensures_bind (ensures_perform (herr _ rfl) False.elim)
  | some r => exact ensures_bind (ensures_perform (hok r rfl) False.elim)

theorem checkBid_cases (listing : NFTListing) (bidData : BidData) (now : Int) :
    (checkBid listing bidData now).Ensures False market fun r t =>
      t = market ∧ (r = .ok () → market.exceeded listing bidData now) := by
  unfold checkBid
  cases htype : listing.listingType with
  | FIXED_PRICE =>
      refine ensures_require (fun _ => ⟨rfl, fun _ hno => ?_⟩) fun _ => ⟨rfl, nofun⟩
      rw [htype] at hno
      exact nomatch hno
  | AUCTION =>
      refine ensures_bind (ensures_require (fun hlasts => ?_) fun _ => ⟨rfl, nofun⟩)
      refine ensures_bind (ensures_perform ?_ False.elim)
      -- A bid on an auction is compared with the highest one, if there is one.
      cases hhighest : market.highestBid bidData.listingId with
      | none => exact ⟨rfl, fun _ _ => ⟨hlasts, by simp [hhighest]⟩⟩
      | some highest =>
          refine ensures_require (fun hhigher => ⟨rfl, fun _ _ => ⟨hlasts, ?_⟩⟩)
            fun _ => ⟨rfl, nofun⟩
          simpa [hhighest] using hhigher

theorem outbid_cases (listing : NFTListing) (listingId : Nat) :
    (outbid listing listingId).Ensures False market fun r t =>
      r = .ok () ∧ t = market.letIn listing listingId := by
  unfold outbid Market.letIn
  cases listing.listingType with
  | FIXED_PRICE => exact ⟨rfl, rfl⟩
  | AUCTION => exact ensures_perform ⟨rfl, rfl⟩ False.elim

/-- A bid is refused, or it is let in and stored, or it is let in and does not
    fit. -/
theorem placeBid_cases (bidData : BidData) (now : Int) :
    (placeBid bidData now).Ensures False market fun _ t => t = market ∨
      ∃ listing, market.listings[bidData.listingId]? = some listing ∧
        listing.status = .ACTIVE ∧ market.exceeded listing bidData now ∧
        t = ((bidData.row.map Market.addBid).getD id)
          (market.letIn listing bidData.listingId) := by
  refine ensures_bind (ensures_perform ?_ False.elim)
  refine ensures_bind (ensures_demand (fun listing hlisting => ?_) fun _ => Or.inl rfl)
  refine ensures_bind (ensures_require (fun hactive => ?_) fun _ => Or.inl rfl)
  refine ensures_bind (ensures_mono (checkBid_cases listing bidData now) ?_)
  rintro (e | _) t ⟨rfl, hexceeded⟩
  · exact Or.inl rfl
  refine ensures_bind (ensures_mono (outbid_cases listing bidData.listingId) ?_)
  rintro r t ⟨rfl, rfl⟩
  refine ensures_insert (fun row hrow => Or.inr ?_) fun _ hrow => Or.inr ?_ <;>
    exact ⟨listing, hlisting, by simpa using hactive, hexceeded rfl, by simp [hrow]⟩

/-- An acceptance does all it does, or nothing. -/
theorem acceptBid_cases (listingId bidId : Nat) (now : Int) :
    (acceptBid listingId bidId now).Ensures False market fun r t =>
      ((∃ e, r = .error e) ∧ t = market) ∨
      ∃ listing bid sale, r = .ok sale ∧ market.listings[listingId]? = some listing ∧
        market.bids[bidId]? = some bid ∧ bid.listingId = listingId ∧ bid.status = .ACTIVE ∧
        saleRow listingId listing bid now = some sale ∧
        t = (((market.addSale sale).setListing listingId .SOLD).setBid bidId
          .ACCEPTED).setActive listingId .REJECTED := by
  refine ensures_bind (ensures_perform ?_ False.elim)
  refine ensures_bind (ensures_demand (fun listing hlisting => ?_) fun _ => Or.inl ⟨⟨_, rfl⟩, rfl⟩)
  refine ensures_bind (ensures_perform ?_ False.elim)
  refine ensures_bind (ensures_demand (fun bid hbid => ?_) fun _ => Or.inl ⟨⟨_, rfl⟩, rfl⟩)
  refine ensures_bind (ensures_require (fun hactive => ?_) fun _ => Or.inl ⟨⟨_, rfl⟩, rfl⟩)
  -- Once the sale is stored nothing is refused any more.
  refine ensures_bind (ensures_insert (fun sale hsale => ?_) fun e _ => Or.inl ⟨⟨e, rfl⟩, rfl⟩)
  obtain ⟨hget, hon⟩ := Option.filter_eq_some_iff.mp hbid
  refine ensures_bind (ensures_perform ?_ False.elim)
  refine ensures_bind (ensures_perform ?_ False.elim)
  refine ensures_bind (ensures_perform ?_ False.elim)
  exact Or.inr ⟨listing, bid, sale, rfl, hlisting, hget, by simpa using hon,
    by simpa using hactive, hsale, rfl⟩

theorem cancelListing_cases (listingId : Nat) (sellerAddress : String) :
    (cancelListing listingId sellerAddress).Ensures False market fun _ t => t = market ∨
      ∃ listing, market.listings[listingId]? = some listing ∧ listing.status = .ACTIVE ∧
        t = (market.setListing listingId .CANCELLED).setActive listingId .CANCELLED := by
  refine ensures_bind (ensures_perform ?_ False.elim)
  refine ensures_bind (ensures_demand (fun listing hlisting => ?_) fun _ => Or.inl rfl)
  refine ensures_bind (ensures_require (fun hactive => ?_) fun _ => Or.inl rfl)
  refine ensures_bind (ensures_perform ?_ False.elim)
  refine ensures_perform (Or.inr ⟨listing, ?_, by simpa using hactive, rfl⟩) False.elim
  exact (Option.filter_eq_some_iff.mp hlisting).1

theorem createNFTListing_cases (isOwner : Except String Bool) (listingData : ListingData) :
    (createNFTListing (fun _ _ => isOwner) listingData).Ensures False market fun _ t =>
      t = market ∨ ∃ listing, listingData.row = some listing ∧ t = market.addListing listing := by
  refine ensures_bind (ensures_compute ?_)
  cases isOwner with
  | error e => exact Or.inl rfl
  | ok isOwner =>
      refine ensures_bind (ensures_require (fun _ => ?_) fun _ => Or.inl rfl)
      exact ensures_insert (fun listing hlisting => Or.inr ⟨listing, hlisting, rfl⟩)
        fun _ _ => Or.inl rfl

end Cases

/-! ### What it does to the lots -/

/-- A bid that outbids another is stored, and above the other. -/
def Fits (market : Market) : MarketCall → Prop
  | .placeBid bidData now => ∀ listing ∈ market.listings[bidData.listingId]?,
      listing.status = .ACTIVE → listing.listingType = .AUCTION →
        (listing.auctionEndTime.all fun auctionEndTime => now ≤ auctionEndTime) →
          ∀ highest ∈ market.highestBid bidData.listingId, highest.amount < bidData.amount →
            ∃ row ∈ bidData.row, highest.amount < row.amount
  | _ => True

instance (market : Market) (call : MarketCall) : Decidable (Fits market call) :=
  match call with
  | .placeBid _ _ => inferInstanceAs (Decidable (∀ listing ∈ _, _ → _ → _ → ∀ highest ∈ _, _ → _))
  | .createNFTListing _ _ | .acceptBid _ _ _ | .cancelListing _ _ => isTrue trivial

/-- Every lot is new or comes from a lot by what can be done to one. -/
def Advances (fits : Prop) (market market' : Market) : Prop :=
  ∀ L lot', market'.lot L = some lot' →
    (∃ lot, market.lot L = some lot ∧ Lot.Step fits lot lot') ∨
      market.lot L = none ∧ ∃ listingType, lot' = { listingType, status := .ACTIVE }

section Advances

variable {market : Market} {fits : Prop} {L : Nat}

theorem advances_refl (market : Market) : Advances fits market market :=
  fun _ lot' hlot' => Or.inl ⟨lot', hlot', .same lot'⟩

/-- What only changes the lot of one listing has only to be looked at there. -/
theorem advances_of_map {market' : Market} {id : Nat} {act : Lot → Lot}
    (hlots : ∀ L, market'.lot L = (market.lot L).map fun lot => if id = L then act lot else lot)
    (hact : ∀ lot, market.lot id = some lot → Lot.Step fits lot (act lot)) :
    Advances fits market market' := by
  intro L lot' hlot'
  rw [hlots L] at hlot'
  obtain ⟨lot, hlot, rfl⟩ := Option.map_eq_some_iff.mp hlot'
  refine Or.inl ⟨lot, hlot, ?_⟩
  by_cases hid : id = L
  · subst hid
    rw [if_pos rfl]
    exact hact lot hlot
  · rw [if_neg hid]
    exact .same lot

theorem lot_of_listing {listing : NFTListing} (h : market.listings[L]? = some listing) :
    market.lot L = some
      { listingType := listing.listingType
        status := listing.status
        bids := market.bidsOn L
        sales := (market.salesOf L).length } := by
  rw [Market.lot, h]
  rfl

theorem lot_letIn {listing : NFTListing} {id : Nat} (h : market.listings[id]? = some listing) :
    (market.letIn listing id).lot L = (market.lot L).map fun lot =>
      if id = L then { lot with bids := lot.outbid } else lot := by
  cases hlot : market.lot L with
  | none =>
      unfold Market.letIn
      split
      · exact hlot
      · rw [Market.lot_setActive, hlot]
        rfl
  | some lot =>
      -- The lot of this listing has its type.
      have hkind : id = L → lot.listingType = listing.listingType := by
        rintro rfl
        rw [lot_of_listing h, Option.some_inj] at hlot
        rw [← hlot]
      unfold Market.letIn
      -- A bid on a fixed price leaves the others alone, and one at an auction outbids
      -- them.
      split <;> rename_i htype
      · by_cases hid : id = L
        · have hsame : lot.outbid = lot.bids := by
            rw [Lot.outbid, hkind hid, htype]
          simp [hlot, hid, hsame]
        · simp [hlot, hid]
      · rw [Market.lot_setActive, hlot]
        by_cases hid : id = L
        · have houtbid : lot.outbid = cleared .OUTBID lot.bids :=
            outbid_auction ((hkind hid).trans htype)
          simp [hid, houtbid]
        · simp [hid]

/-- The highest active bid is above every active bid. -/
theorem le_highestBid {b : NFTBid} (hb : b ∈ market.bidsOn L) (hactive : b.status = .ACTIVE) :
    ∃ highest ∈ market.highestBid L, b.amount ≤ highest.amount := by
  have hmem : b ∈ market.activeBids L := by
    simp only [Market.bidsOn, List.mem_filter] at hb
    simp only [Market.activeBids, List.mem_filter, Bool.and_eq_true, decide_eq_true_eq]
    exact ⟨hb.1, by simpa using hb.2, hactive⟩
  cases hhighest : market.highestBid L with
  | none =>
      rw [List.argmax_eq_none.mp hhighest] at hmem
      exact absurd hmem List.not_mem_nil
  | some highest => exact ⟨highest, rfl, List.le_of_mem_argmax hmem hhighest⟩

theorem row_of_bidData {bidData : BidData} {row : NFTBid} (h : bidData.row = some row) :
    row.listingId = bidData.listingId ∧ row.status = .ACTIVE := by
  obtain ⟨amount, -, hrow⟩ := Option.bind_eq_some_iff.mp h
  rw [← Option.some_inj.mp hrow]
  exact ⟨rfl, rfl⟩

theorem advances_placeBid {bidData : BidData} {now : Int} {listing : NFTListing}
    (hlisting : market.listings[bidData.listingId]? = some listing)
    (hactive : listing.status = .ACTIVE) (hexceeded : market.exceeded listing bidData now) :
    Advances (Fits market (.placeBid bidData now)) market
      (((bidData.row.map Market.addBid).getD id) (market.letIn listing bidData.listingId)) := by
  have hlot := lot_of_listing hlisting
  -- An active bid is outbid by a row that is above it.
  have houtbid : Fits market (.placeBid bidData now) → listing.listingType = .AUCTION →
      ∀ b ∈ market.bidsOn bidData.listingId, b.status = .ACTIVE →
        ∃ row ∈ bidData.row, b.amount < row.amount := by
    intro hfits hauction b hb hbactive
    obtain ⟨highest, hhighest, hle⟩ := le_highestBid hb hbactive
    obtain ⟨hlasts, hhigher⟩ := hexceeded hauction
    obtain ⟨row, hrow, hlt⟩ := hfits listing hlisting hactive hauction hlasts highest hhighest
      (hhigher highest hhighest)
    exact ⟨row, hrow, lt_of_le_of_lt hle hlt⟩
  cases hrow : bidData.row with
  | none =>
      rw [hrow] at houtbid
      refine advances_of_map (fun L => lot_letIn hlisting) fun lot hsame => ?_
      rw [hlot, Option.some_inj] at hsame
      subst hsame
      refine .lose _ hactive fun hfits hauction b hb hbactive => ?_
      obtain ⟨row, hnone, -⟩ := houtbid hfits hauction b hb hbactive
      exact nomatch hnone
  | some row =>
      rw [hrow] at houtbid
      obtain ⟨hon, hrowActive⟩ := row_of_bidData hrow
      have hlots (L : Nat) : ((market.letIn listing bidData.listingId).addBid row).lot L =
          (market.lot L).map fun lot =>
            if bidData.listingId = L then { lot with bids := lot.outbid ++ [row] } else lot := by
        rw [Market.lot_addBid, lot_letIn hlisting, Option.map_map, hon]
        congr 1
        funext lot
        by_cases hid : bidData.listingId = L <;> simp [hid]
      refine advances_of_map hlots fun lot hsame => ?_
      rw [hlot, Option.some_inj] at hsame
      subst hsame
      refine .bid _ row hactive hrowActive fun hfits hauction b hb hbactive => ?_
      obtain ⟨row', hsome, hlt⟩ := houtbid hfits hauction b hb hbactive
      obtain rfl := Option.some_inj.mp hsome
      exact hlt

theorem saleRow_listingId {listingId : Nat} {listing : NFTListing} {bid : NFTBid} {now : Int}
    {sale : NFTSale} (h : saleRow listingId listing bid now = some sale) :
    sale.listingId = listingId := by
  simp only [saleRow, Option.bind_eq_bind, Option.bind_eq_some_iff, Option.pure_def,
    Option.some_inj] at h
  obtain ⟨_, -, _, -, _, -, rfl⟩ := h
  rfl

theorem advances_acceptBid {listingId bidId : Nat} {bid : NFTBid} {sale : NFTSale}
    (hbid : market.bids[bidId]? = some bid) (hon : bid.listingId = listingId)
    (hactive : bid.status = .ACTIVE) (hsale : sale.listingId = listingId) :
    Advances fits market ((((market.addSale sale).setListing listingId .SOLD).setBid bidId
      .ACCEPTED).setActive listingId .REJECTED) := by
  intro L lot' hlot'
  -- The listing is sold first, then its bid accepted, and the others rejected.
  let sold := (market.addSale sale).setListing listingId .SOLD
  have hsold : sold.bids[bidId]? = some bid := hbid
  rw [Market.lot_setActive] at hlot'
  obtain ⟨accepted, haccepted, rfl⟩ := Option.map_eq_some_iff.mp hlot'
  -- The other lots stay as they are.
  by_cases hid : listingId = L
  · subst hid
    have hlots : sold.lot listingId = (market.lot listingId).map fun lot =>
        { lot with status := .SOLD, sales := lot.sales + 1 } := by
      simp only [sold, Market.lot_setListing, Market.lot_addSale, Option.map_map]
      congr 1
      funext lot
      simp [hsale]
    cases hlot : market.lot listingId with
    | none =>
        have hnone : (sold.setBid bidId .ACCEPTED).lot listingId = none := by
          rw [hlot] at hlots
          exact Option.map_eq_none_iff.mpr (Option.map_eq_none_iff.mp hlots)
        rw [hnone] at haccepted
        exact nomatch haccepted
    | some lot =>
        rw [hlot] at hlots
        obtain ⟨before, after, hbids, hset⟩ := Market.lot_setBid .ACCEPTED hsold hon hlots
        rw [hset, Option.some_inj] at haccepted
        subst haccepted
        rw [if_pos rfl]
        exact Or.inl ⟨lot, rfl, .sell lot before bid after hbids hactive⟩
  · have hother : bid.listingId ≠ L := hon ▸ hid
    have hlots : (sold.setBid bidId .ACCEPTED).lot L = market.lot L := by
      rw [Market.lot_setBid_ne .ACCEPTED hsold hother]
      simp [sold, Market.lot_setListing, Market.lot_addSale, hsale, hid]
    rw [hlots] at haccepted
    rw [if_neg hid]
    exact Or.inl ⟨accepted, haccepted, .same accepted⟩

theorem advances_cancelListing {listingId : Nat} {listing : NFTListing}
    (hlisting : market.listings[listingId]? = some listing) (hactive : listing.status = .ACTIVE) :
    Advances fits market
      ((market.setListing listingId .CANCELLED).setActive listingId .CANCELLED) := by
  -- The listing and its active bids are cancelled, and no other lot changes.
  have hlots (L : Nat) :
      ((market.setListing listingId .CANCELLED).setActive listingId .CANCELLED).lot L =
        (market.lot L).map fun lot => if listingId = L then
          { lot with status := .CANCELLED, bids := cleared .CANCELLED lot.bids } else lot := by
    rw [Market.lot_setActive, Market.lot_setListing, Option.map_map]
    congr 1
    funext lot
    by_cases hid : listingId = L <;> simp [hid]
  refine advances_of_map hlots fun lot hlot => .cancel lot ?_
  rw [lot_of_listing hlisting, Option.some_inj] at hlot
  rw [← hlot]
  exact hactive

/-- A new listing has no bids yet, and no sales. -/
theorem advances_addListing {listing : NFTListing} (hplaced : market.Placed)
    (hactive : listing.status = .ACTIVE) : Advances fits market (market.addListing listing) := by
  intro L lot' hlot'
  obtain ⟨found, hfound, rfl⟩ := Option.map_eq_some_iff.mp hlot'
  rw [Market.addListing] at hfound
  by_cases hold : L < market.listings.length
  · rw [List.getElem?_append_left hold] at hfound
    exact Or.inl ⟨_, lot_of_listing hfound, .same _⟩
  · -- Bids and sales are of listings that were placed before.
    have hnone : market.listings[L]? = none := by
      rw [List.getElem?_eq_none_iff]
      omega
    rw [List.getElem?_append_right (by omega), List.getElem?_singleton] at hfound
    split at hfound
    · obtain rfl := Option.some_inj.mp hfound
      refine Or.inr ⟨by rw [Market.lot, hnone]; rfl, listing.listingType, ?_⟩
      obtain ⟨hbids, hsales⟩ := hplaced L (by omega)
      have hsame : (market.addListing listing).bidsOn L = [] ∧
          (market.addListing listing).salesOf L = [] := ⟨hbids, hsales⟩
      rw [hsame.1, hsame.2, hactive]
      rfl
    · exact nomatch hfound

theorem row_of_listingData {listingData : ListingData} {listing : NFTListing}
    (h : listingData.row = some listing) : listing.status = .ACTIVE := by
  simp only [ListingData.row, Option.bind_eq_bind, Option.bind_eq_some_iff, Option.pure_def,
    Option.some_inj] at h
  obtain ⟨_, -, _, -, rfl⟩ := h
  rfl

end Advances

/-! ### The run -/

/-- The marketplace, and the listings a bid was accepted on. -/
structure Exchange where
  market : Market := {}
  accepted : List Nat := []

/-- The listings on which the call has accepted a bid. -/
def acceptedBy (call : MarketCall) (answer : Except String Unit) : List Nat :=
  match call, answer with
  | .acceptBid listingId _ _, .ok _ => [listingId]
  | _, _ => []

/-- One call on the market, which notes the bids that are accepted. -/
def Exchange.step (exchange : Exchange) (call : MarketCall) : Except String Unit × Exchange :=
  let (answer, market) := call.program.eval exchange.market
  (answer, { market, accepted := exchange.accepted ++ acceptedBy call answer })

/-- What is promised of every listing: on an auction one bid at most is active,
    it is the highest there ever was, and the amounts rise; no bid is active
    when the listing is not; a bid is accepted once, and the listing is sold
    and one bid accepted when that has happened. -/
structure Orderly (exchange : Exchange) : Prop where
  auction : ∀ L listing, exchange.market.listings[L]? = some listing →
    listing.listingType = .AUCTION → (exchange.market.activeBids L).length ≤ 1 ∧
      (∀ bid ∈ exchange.market.activeBids L, ∀ other ∈ exchange.market.bidsOn L,
        other.amount ≤ bid.amount) ∧
      ((exchange.market.bidsOn L).map NFTBid.amount).Pairwise (· < ·)
  inactive : ∀ L listing, exchange.market.listings[L]? = some listing →
    listing.status ≠ .ACTIVE → exchange.market.activeBids L = []
  once : exchange.accepted.Nodup
  sold : ∀ L listing, exchange.market.listings[L]? = some listing →
    (L ∈ exchange.accepted ↔ listing.status = .SOLD ∧
      (exchange.market.bidsOn L).countP (fun bid => bid.status = .ACCEPTED) = 1)

/-- What every call keeps, whether bids fit or not. -/
structure Exchange.Kept (exchange : Exchange) : Prop where
  placed : exchange.market.Placed
  closed : ∀ L lot, exchange.market.lot L = some lot → lot.Closed
  accepted : exchange.accepted = exchange.market.sales.map NFTSale.listingId

section Run

variable {market : Market} {exchange : Exchange}

theorem lt_of_listing {L : Nat} {listing : NFTListing} (h : market.listings[L]? = some listing) :
    L < market.listings.length :=
  (List.getElem?_eq_some_iff.mp h).1

theorem length_setListing (id : Nat) (status : ListingStatus) :
    (market.setListing id status).listings.length = market.listings.length :=
  List.length_modify ..

theorem placed_setActive (listingId : Nat) (status : BidStatus) (h : market.Placed) :
    (market.setActive listingId status).Placed := by
  intro L hL
  obtain ⟨hbids, hsales⟩ := h L hL
  refine ⟨?_, hsales⟩
  rw [Market.bidsOn_setActive, hbids]
  split <;> rfl

theorem placed_letIn (listing : NFTListing) (listingId : Nat) (h : market.Placed) :
    (market.letIn listing listingId).Placed := by
  unfold Market.letIn
  split
  · exact h
  · exact placed_setActive listingId .OUTBID h

theorem listings_letIn (listing : NFTListing) (listingId : Nat) :
    (market.letIn listing listingId).listings = market.listings := by
  unfold Market.letIn
  split <;> rfl

theorem sales_letIn (listing : NFTListing) (listingId : Nat) :
    (market.letIn listing listingId).sales = market.sales := by
  unfold Market.letIn
  split <;> rfl

/-- What a call does to the lots, and that it records the sales it makes. -/
structure Made (call : MarketCall) (market : Market) (answer : Except String Unit)
    (market' : Market) : Prop where
  advances : Advances (Fits market call) market market'
  placed : market'.Placed
  sales : market'.sales.map NFTSale.listingId =
    market.sales.map NFTSale.listingId ++ acceptedBy call answer

theorem made_nothing {call : MarketCall} {answer : Except String Unit} (h : market.Placed)
    (hnone : acceptedBy call answer = []) : Made call market answer market :=
  ⟨advances_refl market, h, by rw [hnone, List.append_nil]⟩

theorem made_placeBid (bidData : BidData) (now : Int) (hplaced : market.Placed) :
    (MarketCall.placeBid bidData now).program.Ensures False market
      fun r t => Made (.placeBid bidData now) market r t := by
  refine ensures_map (ensures_mono (placeBid_cases bidData now) fun r t ht => ?_)
  rcases ht with rfl | ⟨listing, hlisting, hactive, hexceeded, rfl⟩
  · exact made_nothing hplaced rfl
  · refine ⟨advances_placeBid hlisting hactive hexceeded, ?_, ?_⟩
    · have hletIn := placed_letIn listing bidData.listingId hplaced
      -- The bid may not fit its column, and then the others are outbid all the same.
      cases hrow : bidData.row with
      | none => exact hletIn
      | some row =>
          intro L hL
          have hlt := lt_of_listing hlisting
          have hlen : market.listings.length ≤ L := by
            rw [← listings_letIn listing bidData.listingId]
            exact hL
          have hother : row.listingId ≠ L := by
            rw [(row_of_bidData hrow).1]
            omega
          obtain ⟨hbids, hsales⟩ := hletIn L hL
          refine ⟨?_, hsales⟩
          rw [Option.map_some, Option.getD_some, Market.bidsOn_addBid, hbids, if_neg hother]
          rfl
    · have hsales : (((bidData.row.map Market.addBid).getD id)
          (market.letIn listing bidData.listingId)).sales = market.sales := by
        cases bidData.row <;> exact sales_letIn listing bidData.listingId
      rw [hsales]
      exact (List.append_nil _).symm

theorem made_acceptBid (listingId bidId : Nat) (now : Int) (hplaced : market.Placed) :
    (MarketCall.acceptBid listingId bidId now).program.Ensures False market
      fun r t => Made (.acceptBid listingId bidId now) market r t := by
  refine ensures_map (ensures_mono (acceptBid_cases listingId bidId now) fun r t ht => ?_)
  rcases ht with ⟨⟨e, rfl⟩, rfl⟩ | ⟨listing, bid, sale, rfl, hlisting, hbid, hon,
    hactive, hsale, rfl⟩
  · exact made_nothing hplaced rfl
  · have hid := saleRow_listingId hsale
    refine ⟨advances_acceptBid hbid hon hactive hid, ?_, ?_⟩
    · refine placed_setActive listingId .REJECTED fun L hL => ?_
      have hlen : market.listings.length ≤ L := by
        have hsame := @length_setListing (market.addSale sale) listingId .SOLD
        exact hsame ▸ hL
      -- The bid and the sale are on a listing that was placed.
      have hlt := lt_of_listing hlisting
      obtain ⟨hbids, hsales⟩ := hplaced L hlen
      have hsold : ((market.addSale sale).setListing listingId .SOLD).bids[bidId]? = some bid :=
        hbid
      constructor
      · rw [Market.bidsOn_setBid_ne .ACCEPTED hsold (by omega)]
        exact hbids
      · have hadd := @Market.salesOf_addSale market L sale
        rw [hsales, if_neg (by omega)] at hadd
        exact hadd
    · have haccepted : acceptedBy (.acceptBid listingId bidId now) (.ok ()) = [sale.listingId] :=
        congrArg ([·]) hid.symm
      exact List.map_append.trans (congrArg _ haccepted.symm)

theorem made_cancelListing (listingId : Nat) (sellerAddress : String) (hplaced : market.Placed) :
    (MarketCall.cancelListing listingId sellerAddress).program.Ensures False market
      fun r t => Made (.cancelListing listingId sellerAddress) market r t := by
  refine ensures_mono (cancelListing_cases listingId sellerAddress) fun r t ht => ?_
  rcases ht with rfl | ⟨listing, hlisting, hactive, rfl⟩
  · exact made_nothing hplaced rfl
  · refine ⟨advances_cancelListing hlisting hactive, ?_, (List.append_nil _).symm⟩
    refine placed_setActive listingId .CANCELLED fun L hL => ?_
    rw [length_setListing] at hL
    exact hplaced L hL

theorem made_createNFTListing (listingData : ListingData) (isOwner : Except String Bool)
    (hplaced : market.Placed) :
    (MarketCall.createNFTListing listingData isOwner).program.Ensures False market
      fun r t => Made (.createNFTListing listingData isOwner) market r t := by
  refine ensures_map (ensures_mono (createNFTListing_cases isOwner listingData) fun r t ht => ?_)
  rcases ht with rfl | ⟨listing, hlisting, rfl⟩
  · exact made_nothing hplaced rfl
  · refine ⟨advances_addListing hplaced (row_of_listingData hlisting), fun L hL => ?_,
      (List.append_nil _).symm⟩
    rw [Market.addListing, List.length_append] at hL
    exact hplaced L (by omega)

theorem made_program (call : MarketCall) (hplaced : market.Placed) :
    Made call market (call.program.eval market).1 (call.program.eval market).2 := by
  rw [← ensures_false_iff call.program market fun r t => Made call market r t]
  cases call with
  | createNFTListing listingData isOwner => exact made_createNFTListing listingData isOwner hplaced
  | placeBid bidData now => exact made_placeBid bidData now hplaced
  | acceptBid listingId bidId now => exact made_acceptBid listingId bidId now hplaced
  | cancelListing listingId sellerAddress =>
      exact made_cancelListing listingId sellerAddress hplaced

/-- What a new lot has, and what every move on a lot keeps, all lots have after a call. -/
theorem advances_lots {fits : Prop} {market' : Market} {P : Lot → Prop}
    (hnew : ∀ listingType, P { listingType, status := .ACTIVE })
    (hstep : ∀ L lot lot', market.lot L = some lot → Lot.Step fits lot lot' → P lot → P lot')
    (h : Advances fits market market') (hlots : ∀ L lot, market.lot L = some lot → P lot) :
    ∀ L lot, market'.lot L = some lot → P lot := by
  intro L lot' hlot'
  rcases h L lot' hlot' with ⟨lot, hlot, hone⟩ | ⟨-, listingType, rfl⟩
  · exact hstep L lot lot' hlot hone (hlots L lot hlot)
  · exact hnew listingType

theorem kept_step (h : exchange.Kept) (call : MarketCall) : (exchange.step call).2.Kept := by
  have hmade := made_program call h.placed
  refine ⟨hmade.placed, ?_, ?_⟩
  · refine advances_lots (fun listingType => ?_) (fun _ _ _ _ hone hclosed => ?_) hmade.advances
      h.closed
    · exact ⟨fun _ _ hb => absurd hb List.not_mem_nil, fun hno => absurd rfl hno, rfl, rfl⟩
    · exact Lot.closed_step hclosed hone
  · exact (congrArg (· ++ _) h.accepted).trans hmade.sales.symm

theorem kept_empty : ({} : Exchange).Kept :=
  ⟨fun _ _ => ⟨rfl, rfl⟩, (fun _ _ hlot => nomatch hlot), rfl⟩

theorem kept_after (calls : List MarketCall) (h : exchange.Kept) :
    (after Exchange.step calls exchange).Kept := by
  induction calls generalizing exchange with
  | nil => exact h
  | cons call calls ih => exact ih (kept_step h call)

/-- Every listing has rising bids. -/
def Exchange.Rising (exchange : Exchange) : Prop :=
  ∀ L lot, exchange.market.lot L = some lot → lot.Rising

theorem rising_exchange {call : MarketCall} (hkept : exchange.Kept)
    (hfits : Fits exchange.market call) (h : exchange.Rising) : (exchange.step call).2.Rising := by
  have hadvances := (made_program call hkept.placed).advances
  rw [eq_true hfits] at hadvances
  refine advances_lots (fun listingType => ?_) (fun _ _ _ _ hone hrising => ?_) hadvances h
  · exact ⟨fun _ => List.Pairwise.nil, fun _ _ _ hb => nomatch hb⟩
  · exact Lot.rising_step hrising hone

theorem activeBids_eq (L : Nat) :
    market.activeBids L = (market.bidsOn L).filter fun bid => bid.status = .ACTIVE := by
  rw [Market.activeBids, Market.bidsOn, List.filter_filter]
  refine List.filter_congr fun bid _ => ?_
  rw [Bool.and_comm]

theorem count_accepted (h : exchange.Kept) (L : Nat) :
    exchange.accepted.count L = (exchange.market.salesOf L).length := by
  rw [h.accepted, List.count, List.countP_map, Market.salesOf, ← List.countP_eq_length_filter]
  refine List.countP_congr fun sale _ => ?_
  simp

theorem orderly_of_rising (h : exchange.Kept) (hrising : exchange.Rising) : Orderly exchange := by
  constructor
  · -- At an auction at most one bid is active, and it is the highest.
    intro L listing hlisting hauction
    have hlot := lot_of_listing hlisting
    have hclosed := h.closed L _ hlot
    have hlotRising := hrising L _ hlot
    simp only [activeBids_eq]
    refine ⟨Lot.active_length hclosed hauction, fun bid hbid => ?_, hlotRising.increasing hauction⟩
    obtain ⟨hmem, hactive⟩ := List.mem_filter.mp hbid
    exact Lot.active_highest hclosed hlotRising hauction hmem (by simpa using hactive)
  · -- A listing that is over has no active bid.
    intro L listing hlisting hinactive
    have hclosed := h.closed L _ (lot_of_listing hlisting)
    rw [activeBids_eq]
    exact List.filter_eq_nil_iff.mpr fun bid hbid => by
      simpa using hclosed.inactive hinactive bid hbid
  · -- Each listing is sold at most once, since a sale is counted on the lot.
    rw [List.nodup_iff_count]
    intro L
    rw [count_accepted h L]
    cases hlisting : exchange.market.listings[L]? with
    | none =>
        have hlen := List.getElem?_eq_none_iff.mp hlisting
        rw [(h.placed L hlen).2]
        exact Nat.zero_le 1
    | some listing =>
        have hsales := (h.closed L _ (lot_of_listing hlisting)).sales
        simp only [Lot.soldOnce] at hsales
        split at hsales <;> omega
  · -- It is sold exactly if its status says so.
    intro L listing hlisting
    have hclosed := h.closed L _ (lot_of_listing hlisting)
    have hsales := hclosed.sales
    have haccepted := hclosed.accepted
    rw [← List.count_pos_iff, count_accepted h L]
    simp only [Lot.soldOnce] at hsales haccepted
    by_cases hsold : listing.status = .SOLD
    · rw [if_pos hsold] at hsales haccepted
      simp [hsales, haccepted, hsold]
    · rw [if_neg hsold] at hsales
      simp [hsales, hsold]

/-- As long as the bids that outbid others are stored above them, everything
    promised of the listings holds in every state of a run. -/
theorem orderly_along (calls : List MarketCall)
    (h : Along Exchange.step (fun call exchange _ _ => Fits exchange.market call) calls {}) :
    Along Exchange.step (fun _ _ _ exchange => Orderly exchange) calls {} := by
  have hrising : ({} : Exchange).Rising := fun _ _ hlot => nomatch hlot
  refine along_invariant (I := fun exchange => exchange.Kept ∧ exchange.Rising)
    (fun call exchange hfits hgood => ?_) ⟨kept_empty, hrising⟩ h
  have hkept := kept_step hgood.1 call
  have hrising := rising_exchange hgood.1 hfits hgood.2
  exact ⟨orderly_of_rising hkept hrising, hkept, hrising⟩

/-- An auction with two bids, the second of which is accepted. -/
def auctionCalls (first second : ℚ) : List MarketCall :=
  [.createNFTListing
      { nftMintAddress := "mint", sellerAddress := "seller", listingType := .AUCTION, price := 1 }
      (.ok true),
    .placeBid { listingId := 0, bidderAddress := "a", amount := first } 5,
    .placeBid { listingId := 0, bidderAddress := "b", amount := second } 6,
    .acceptBid 0 1 7]

theorem orderly_along_twoBids :
    Along Exchange.step (fun _ _ _ exchange => Orderly exchange) (auctionCalls 1 2) {} :=
  orderly_along (auctionCalls 1 2) (by decide +kernel)

/-- The second bid is lower than the first, but not lower than what is stored of
    it. -/
theorem not_orderly_along : ¬ ∀ calls,
    Along Exchange.step (fun _ _ _ exchange => Orderly exchange) calls {} := by
  intro h
  let calls := auctionCalls (10000000004 / 10 ^ 10) (10000000002 / 10 ^ 10)
  have hthird := (h calls).2.2.1
  have hkind : (after Exchange.step (calls.take 3) {}).market.listings[0]?.map
      NFTListing.listingType = some .AUCTION := by decide +kernel
  obtain ⟨listing, hlisting, hauction⟩ := Option.map_eq_some_iff.mp hkind
  have hrising := (hthird.auction 0 listing hlisting hauction).2.2
  revert hrising
  decide +kernel

end Run

end Tokens

end SvmCourse
