import Mathlib.Algebra.Order.Ring.Rat
import Mathlib.Data.List.MinMax
import Mathlib.Data.Rat.Floor
import SvmCourse.Core.Machine
import SvmCourse.Core.Prog

/-!
# The Marketplace

Listings of tokens, the bids on them and the sales. A bid is placed on a
listing that is active. On an auction it has to be higher than the highest
active bid, and the active bids are outbid. Accepting a bid creates the sale,
marks the listing as sold and the bid as accepted, and rejects the bids that
are still active. Cancelling marks the listing and cancels its active bids.

Every repository call is one access. Rows are never removed, so the id of a
row is its position. Amounts are stored in columns of a fixed number of digits:
what does not fit is refused, and what has too many decimals is rounded. A
sale keeps the listing it was created for, which the source does not record.

## Main definitions

* `NFTListing`, `NFTBid`, `NFTSale`: The rows.
* `decimal`: What a column stores of a number.
* `Market`: The tables.
* `createNFTListing`, `placeBid`, `acceptBid`, `cancelListing`: The service.
* `MarketCall`: A call of the service.
* `Market.bidsOn`, `Market.activeBids`, `Market.salesOf`: The rows of one
  listing.
-/

namespace SvmCourse

namespace Tokens

open Core Core.Prog

/-! ### Rows -/

/-- The statuses of a listing. -/
inductive ListingStatus where
  | ACTIVE | SOLD | CANCELLED | EXPIRED
  deriving DecidableEq, Repr

/-- The kinds of listings. -/
inductive ListingType where
  | FIXED_PRICE | AUCTION
  deriving DecidableEq, Repr

/-- A row of the listings. -/
structure NFTListing where
  nftMintAddress : String
  sellerAddress : String
  listingType : ListingType
  price : ℚ
  currencyMint : Option String := none
  status : ListingStatus := .ACTIVE
  royaltyPercentage : ℚ := 0
  royaltyRecipient : Option String := none
  auctionEndTime : Option Int := none
  marketplaceFee : ℚ := 2
  deriving DecidableEq

/-- The statuses of a bid. -/
inductive BidStatus where
  | ACTIVE | ACCEPTED | REJECTED | CANCELLED | OUTBID
  deriving DecidableEq, Repr

/-- A row of the bids. -/
structure NFTBid where
  listingId : Nat
  bidderAddress : String
  amount : ℚ
  currencyMint : Option String := none
  status : BidStatus := .ACTIVE
  deriving DecidableEq

/-- A row of the sales. -/
structure NFTSale where
  listingId : Nat
  nftMintAddress : String
  sellerAddress : String
  buyerAddress : String
  price : ℚ
  currencyMint : Option String
  royaltyAmount : ℚ
  marketplaceFee : ℚ
  transactionSignature : String
  deriving DecidableEq

/-- The nearest integer, away from zero when two are equally near. -/
def roundAway (x : ℚ) : Int := if 0 ≤ x then ⌊x + 1 / 2⌋ else -⌊1 / 2 - x⌋

/-- A column of so many digits stores a number rounded to its decimals, unless
    there are too many digits in front of them. -/
def decimal (precision scale : Nat) (x : ℚ) : Option ℚ :=
  let stored : ℚ := roundAway (x * 10 ^ scale) / 10 ^ scale
  if |stored| < 10 ^ (precision - scale) then some stored else none

/-- How the text of a column with so many decimals reads. -/
def decimalText (scale : Nat) (x : ℚ) : String :=
  let n := roundAway (x * 10 ^ scale)
  let decimals := toString (n.natAbs % 10 ^ scale)
  let zeros := String.ofList (List.replicate (scale - decimals.length) '0')
  let sign := if n < 0 then "-" else ""
  s!"{sign}{n.natAbs / 10 ^ scale}.{zeros}{decimals}"

/-! ### Accesses -/

/-- The three tables of the market. -/
structure Market where
  listings : List NFTListing := []
  bids : List NFTBid := []
  sales : List NFTSale := []
  deriving DecidableEq

/-- A call of the service: accesses one after the other, or an error. -/
abbrev Trade := Prog Market String

/-- One access to the market. -/
def query {α : Type} (act : Market → α × Market) : Trade α := Prog.perform "QueryFailedError" act

/-- An insertion, which is refused when a number does not fit its column. -/
def insert {R : Type} (row : Option R) (store : R → Market → Market) : Trade R := do
  let inserted ← query fun market =>
    match row with
    | some r => (Except.ok r, store r market)
    | none => (Except.error "numeric field overflow", market)
  compute inserted

namespace Market

/-- The bids ever placed on a listing, in the order in which they were. -/
def bidsOn (market : Market) (listingId : Nat) : List NFTBid :=
  market.bids.filter fun bid => bid.listingId = listingId

/-- The active bids on a listing. -/
def activeBids (market : Market) (listingId : Nat) : List NFTBid :=
  market.bids.filter fun bid => bid.listingId = listingId && bid.status = .ACTIVE

/-- The highest of them. -/
def highestBid (market : Market) (listingId : Nat) : Option NFTBid :=
  (market.activeBids listingId).argmax NFTBid.amount

/-- The sales of a listing. -/
def salesOf (market : Market) (listingId : Nat) : List NFTSale :=
  market.sales.filter fun sale => sale.listingId = listingId

/-- The market with a new listing. -/
def addListing (listing : NFTListing) (market : Market) : Market :=
  { market with listings := market.listings ++ [listing] }

/-- The market with a new bid. -/
def addBid (bid : NFTBid) (market : Market) : Market :=
  { market with bids := market.bids ++ [bid] }

/-- The market with a new sale. -/
def addSale (sale : NFTSale) (market : Market) : Market :=
  { market with sales := market.sales ++ [sale] }

/-- The market with the status of a listing written. -/
def setListing (market : Market) (id : Nat) (status : ListingStatus) : Market :=
  { market with listings := market.listings.modify id fun listing => { listing with status } }

/-- The market with the status of a bid written. -/
def setBid (market : Market) (id : Nat) (status : BidStatus) : Market :=
  { market with bids := market.bids.modify id fun bid => { bid with status } }

/-- The active bids of the listing get another status. -/
def setActive (market : Market) (listingId : Nat) (status : BidStatus) : Market :=
  { market with
    bids := market.bids.map fun bid =>
      if bid.listingId = listingId ∧ bid.status = .ACTIVE then { bid with status } else bid }

end Market

namespace nftListingRepository

/-- The listing with that id. -/
def findOne (id : Nat) : Trade (Option NFTListing) :=
  query fun market => (market.listings[id]?, market)

/-- Save a new listing, if its columns take it. -/
def save (row : Option NFTListing) : Trade NFTListing := insert row Market.addListing

/-- Write the status of a listing. -/
def update (id : Nat) (status : ListingStatus) : Trade Unit :=
  query fun market => ((), market.setListing id status)

end nftListingRepository

namespace nftBidRepository

/-- The bid with this id, if it is one on the listing. -/
def findOne (id listingId : Nat) : Trade (Option NFTBid) :=
  query fun market => ((market.bids[id]?).filter fun bid => bid.listingId = listingId, market)

/-- The highest active bid on a listing. -/
def findHighest (listingId : Nat) : Trade (Option NFTBid) :=
  query fun market => (market.highestBid listingId, market)

/-- Save a new bid, if its columns take it. -/
def save (row : Option NFTBid) : Trade NFTBid := insert row Market.addBid

/-- Write the status of a bid. -/
def update (id : Nat) (status : BidStatus) : Trade Unit :=
  query fun market => ((), market.setBid id status)

/-- Write the status of all active bids on a listing. -/
def updateActive (listingId : Nat) (status : BidStatus) : Trade Unit :=
  query fun market => ((), market.setActive listingId status)

end nftBidRepository

namespace nftSaleRepository

/-- Save a new sale, if its columns take it. -/
def save (row : Option NFTSale) : Trade NFTSale := insert row Market.addSale

end nftSaleRepository

/-! ### The service -/

/-- The body of a listing. -/
structure ListingData where
  nftMintAddress : String
  sellerAddress : String
  listingType : ListingType
  price : ℚ
  currencyMint : Option String := none
  royaltyPercentage : Option ℚ := none
  royaltyRecipient : Option String := none
  auctionEndTime : Option Int := none

/-- A missing royalty is none. -/
def ListingData.row (listingData : ListingData) : Option NFTListing := do
  -- Both numbers must fit their columns.
  let price ← decimal 20 9 listingData.price
  let royaltyPercentage ← decimal 5 2 (listingData.royaltyPercentage.getD 0)
  return {
    nftMintAddress := listingData.nftMintAddress
    sellerAddress := listingData.sellerAddress
    listingType := listingData.listingType
    price
    currencyMint := listingData.currencyMint
    royaltyPercentage
    royaltyRecipient := listingData.royaltyRecipient
    auctionEndTime := listingData.auctionEndTime }

/-- The network says whether an address holds a token. The mint is passed for
    the owner and the seller for the mint. -/
def createNFTListing (verifyNFTOwnership : String → String → Except String Bool)
    (listingData : ListingData) : Trade NFTListing := do
  let isOwner ← compute
    (verifyNFTOwnership listingData.nftMintAddress listingData.sellerAddress)
  require isOwner "Seller does not own this NFT"
  nftListingRepository.save listingData.row

/-- The body of a bid. -/
structure BidData where
  listingId : Nat
  bidderAddress : String
  amount : ℚ
  currencyMint : Option String := none

/-- The row of a bid, if its columns take it. -/
def BidData.row (bidData : BidData) : Option NFTBid := do
  let amount ← decimal 20 9 bidData.amount
  return {
    listingId := bidData.listingId
    bidderAddress := bidData.bidderAddress
    amount
    currencyMint := bidData.currencyMint }

/-- The refusal of a bid that is too low. -/
def notHigher (highest : NFTBid) : String :=
  s!"Bid must be higher than current highest bid of {decimalText 9 highest.amount}"

/-- The price has to be met, or the highest active bid has to be exceeded while
    the auction lasts. -/
def checkBid (listing : NFTListing) (bidData : BidData) (now : Int) : Trade Unit :=
  match listing.listingType with
  | .FIXED_PRICE =>
    -- A bid may be higher than the price.
    require (listing.price ≤ bidData.amount)
      s!"Bid amount must be at least {decimalText 9 listing.price}"
  | .AUCTION => do
    require (listing.auctionEndTime.all fun auctionEndTime => now ≤ auctionEndTime)
      "Auction has ended"
    -- At an auction the highest active bid counts.
    match ← nftBidRepository.findHighest bidData.listingId with
    | some highest => require (highest.amount < bidData.amount) (notHigher highest)
    | none => done ()

/-- Bids on a fixed price are not outbid. -/
def outbid (listing : NFTListing) (listingId : Nat) : Trade Unit :=
  match listing.listingType with
  | .FIXED_PRICE => done ()
  | .AUCTION => nftBidRepository.updateActive listingId .OUTBID

/-- Place a bid: check it, mark the bids it outbids, and save it. -/
def placeBid (bidData : BidData) (now : Int) : Trade NFTBid := do
  let found ← nftListingRepository.findOne bidData.listingId
  let listing ← demand found "Listing not found"
  require (listing.status = .ACTIVE) "Listing is not active"
  checkBid listing bidData now
  outbid listing bidData.listingId
  nftBidRepository.save bidData.row

/-- The sale of a listing to a bidder, with the fees. -/
def saleRow (listingId : Nat) (listing : NFTListing) (bid : NFTBid) (now : Int) :
    Option NFTSale := do
  let price ← decimal 20 9 bid.amount
  let royaltyAmount ← decimal 20 9 (bid.amount * listing.royaltyPercentage / 100)
  let marketplaceFee ← decimal 20 9 (bid.amount * listing.marketplaceFee / 100)
  return {
    listingId
    nftMintAddress := listing.nftMintAddress
    sellerAddress := listing.sellerAddress
    buyerAddress := bid.bidderAddress
    price
    currencyMint := bid.currencyMint
    royaltyAmount
    marketplaceFee
    transactionSignature := s!"simulated-{now}" }

/-- Whether the listing is active is not asked. -/
def acceptBid (listingId bidId : Nat) (now : Int) : Trade NFTSale := do
  let found ← nftListingRepository.findOne listingId
  let listing ← demand found "Listing not found"
  let foundBid ← nftBidRepository.findOne bidId listingId
  let bid ← demand foundBid "Bid not found"
  require (bid.status = .ACTIVE) "Bid is not active"
  -- The sale is stored first, without looking at the status of the listing.
  let sale ← nftSaleRepository.save (saleRow listingId listing bid now)
  nftListingRepository.update listingId .SOLD
  nftBidRepository.update bidId .ACCEPTED
  nftBidRepository.updateActive listingId .REJECTED
  pure sale

/-- Cancel a listing of the seller, and reject its bids. -/
def cancelListing (listingId : Nat) (sellerAddress : String) : Trade Unit := do
  let found ← nftListingRepository.findOne listingId
  let listing ← demand (found.filter fun listing => listing.sellerAddress = sellerAddress)
    "Listing not found or not owned by seller"
  require (listing.status = .ACTIVE) "Listing is not active"
  nftListingRepository.update listingId .CANCELLED
  nftBidRepository.updateActive listingId .CANCELLED

/-! ### Calls -/

/-- A call, with what the network and the clock say to it. -/
inductive MarketCall where
  | createNFTListing (listingData : ListingData) (isOwner : Except String Bool)
  | placeBid (bidData : BidData) (now : Int)
  | acceptBid (listingId bidId : Nat) (now : Int)
  | cancelListing (listingId : Nat) (sellerAddress : String)

/-- What a call does, access by access. -/
def MarketCall.program : MarketCall → Trade Unit
  | .createNFTListing listingData isOwner =>
    discard (Tokens.createNFTListing (fun _ _ => isOwner) listingData)
  | .placeBid bidData now => discard (Tokens.placeBid bidData now)
  | .acceptBid listingId bidId now => discard (Tokens.acceptBid listingId bidId now)
  | .cancelListing listingId sellerAddress => Tokens.cancelListing listingId sellerAddress

end Tokens

end SvmCourse
