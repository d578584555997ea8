import SvmCourse.Cpi.Payloads

/-!
# Marketplaces

Listing, bidding, selling and what may be done with a listing, on marketplaces of
others. Each call writes an instruction and sends it as any other invocation of a
program is sent, with a limit of its own.

Every instruction has a signer that the network has to be able to read. A service may
be given one, if the call is of a kind that has one to give. The endpoints give none:
the signer would have to be derived from the private key, and nobody does that. An
empty text is the address of nothing, so none of their calls ever reaches the network.

## Main definitions

* `performOnMarketplace`: What the five calls share.
* `Body`: What is sent to an endpoint.
* `endpoint`: The call that an endpoint makes.
* `Unsent`: What is left of a call that does not reach the network.

## Theorems

* `reaches_iff`: When an instruction reaches the network.
* `endpoint_unsent`: What an endpoint leaves behind, which never sends anything.
-/

namespace SvmCourse

namespace Cpi

namespace Marketplaces

open Core.Json Core.Prog Payloads
open Transactions (Outside Records Tracker Service Method AccountMeta send sendProgramInvocation)

/-! ### The service -/

/-- A call with the text of its exception and its limit. -/
def performOnMarketplace (failure : String) (maxComputeUnits : ℚ) (marketplace : String)
    (operation : Operation) (userPrivateKey : String) (now : Nat) (outside : Outside) :
    Service String :=
  .rescue
    (do
      let instruction ← compute (build now operation)
      send (sendProgramInvocation userPrivateKey marketplace instruction.data
        instruction.accounts maxComputeUnits) outside)
    fun error => .raise s!"{failure}: {error}"

/-- List an NFT on its marketplace. -/
def listNFTOnMarketplace (userPrivateKey : String) (listing : NFTListingCPI) :
    Nat → Outside → Service String :=
  performOnMarketplace "Failed to list NFT on marketplace" 300000 listing.marketplace
    (.list listing) userPrivateKey

/-- Place a bid on its marketplace. -/
def placeBidOnMarketplace (userPrivateKey : String) (bid : NFTBidCPI) :
    Nat → Outside → Service String :=
  performOnMarketplace "Failed to place bid on marketplace" 250000 bid.marketplace (.bid bid)
    userPrivateKey

/-- Execute a sale on its marketplace. -/
def executeNFTSale (userPrivateKey : String) (sale : NFTSaleCPI) :
    Nat → Outside → Service String :=
  performOnMarketplace "Failed to execute NFT sale" 350000 sale.marketplace (.sale sale)
    userPrivateKey

/-- Cancel a listing on its marketplace. -/
def cancelNFTListing (userPrivateKey marketplace nftMint : String)
    (auctionHouse : Option String) : Nat → Outside → Service String :=
  performOnMarketplace "Failed to cancel NFT listing" 200000 marketplace
    (.cancel marketplace nftMint auctionHouse) userPrivateKey

/-- Change the price of a listing on its marketplace. -/
def updateNFTListing (userPrivateKey marketplace nftMint : String) (newPrice : Numeral)
    (auctionHouse : Option String) : Nat → Outside → Service String :=
  performOnMarketplace "Failed to update NFT listing" 200000 marketplace
    (.update marketplace nftMint newPrice auctionHouse) userPrivateKey

/-! ### What reaches the network -/

section

variable {outside : Outside} {tracker : Tracker}

/-- Every address can be read, and so can the data. -/
structure Readable (outside : Outside) (programId : String) (instruction : Instruction) : Prop where
  programId : outside.publicKey programId = .ok ()
  accounts : ∀ account ∈ instruction.accounts, outside.publicKey account.pubkey = .ok ()
  data : outside.fromBase64 instruction.data = .ok ()

theorem forIn_ok_iff {α : Type} (check : α → Except String Unit) (l : List α) :
    (forIn l PUnit.unit fun a _ => do
      check a
      pure (ForInStep.yield PUnit.unit)) = Except.ok PUnit.unit ↔ ∀ a ∈ l, check a = .ok () := by
  induction l with
  | nil => simp [pure, Except.pure]
  | cons a l ih =>
      rw [List.forIn_cons, List.forall_mem_cons, ← ih]
      cases check a with
      | error e => simp [Bind.bind, Except.bind]
      | ok u => simp [Bind.bind, Except.bind, pure, Except.pure]

theorem bind_ok_iff {α β : Type} (x : Except String α) (f : α → Except String β) (b : β) :
    (x >>= f) = .ok b ↔ ∃ a, x = .ok a ∧ f a = .ok b := by
  cases x with
  | error e => exact iff_of_false (fun h => by cases h) fun ⟨_, h, _⟩ => by cases h
  | ok a => exact ⟨fun h => ⟨a, rfl, h⟩, fun ⟨a', ha, h⟩ => by cases ha; exact h⟩

theorem build_readable_iff (outside : Outside) (programId : String) (instruction : Instruction) :
    Transactions.Instruction.build ⟨programId, instruction.accounts, instruction.data⟩ outside =
      .ok () ↔ Readable outside programId instruction := by
  have haccounts := forIn_ok_iff (fun account => outside.publicKey account.pubkey)
    instruction.accounts
  rw [Transactions.Instruction.build, bind_ok_iff]
  constructor
  · rintro ⟨_, hprogram, h⟩
    obtain ⟨_, hloop, hdata⟩ := (bind_ok_iff _ _ _).mp h
    exact ⟨hprogram, haccounts.mp hloop, hdata⟩
  · rintro ⟨hprogram, hall, hdata⟩
    exact ⟨_, hprogram, (bind_ok_iff _ _ _).mpr ⟨_, haccounts.mpr hall, hdata⟩⟩

/-- When an instruction reaches the network. -/
theorem reaches_iff (outside : Outside) (userPrivateKey programId : String) (maxComputeUnits : ℚ)
    (instruction : Instruction) :
    (sendProgramInvocation userPrivateKey programId instruction.data instruction.accounts
        maxComputeUnits).Reaches outside ↔
      (∃ address, outside.fromSecretKey userPrivateKey = .ok address) ∧
        outside.computeUnitLimit maxComputeUnits = .ok () ∧
        Readable outside programId instruction := by
  rw [← build_readable_iff]
  constructor
  · rintro ⟨address, hkey, hbuilt⟩
    obtain ⟨_, hlimit, hread⟩ := (bind_ok_iff _ _ _).mp hbuilt
    exact ⟨⟨address, hkey⟩, hlimit, hread⟩
  · rintro ⟨⟨address, hkey⟩, hlimit, hread⟩
    exact ⟨address, hkey, (bind_ok_iff _ _ _).mpr ⟨(), hlimit, hread⟩⟩

/-- A call of the service ends as the sending of its instruction does, but for the
    text of the exception. -/
theorem eval_perform {failure marketplace userPrivateKey : String} {maxComputeUnits : ℚ}
    {operation : Operation} {now : Nat} {instruction : Instruction}
    (hbuild : build now operation = .ok instruction) (outside : Outside) (tracker : Tracker) :
    (performOnMarketplace failure maxComputeUnits marketplace operation userPrivateKey now
        outside).eval tracker =
      (((send (sendProgramInvocation userPrivateKey marketplace instruction.data
          instruction.accounts maxComputeUnits) outside).eval tracker).1.mapError
          fun error => s!"{failure}: {error}",
        ((send (sendProgramInvocation userPrivateKey marketplace instruction.data
          instruction.accounts maxComputeUnits) outside).eval tracker).2) := by
  simp only [performOnMarketplace, eval_rescue, bind_eq, eval_bind, eval_compute, hbuild]
  rcases (send (sendProgramInvocation userPrivateKey marketplace instruction.data
    instruction.accounts maxComputeUnits) outside).eval tracker with ⟨_ | _, later⟩ <;> rfl

end

/-! ### The endpoints -/

/-- What is sent to an endpoint. -/
inductive Body where
  | list (privateKey marketplace nftMint : String) (price : Numeral)
      (auctionHouse : Option String) (expiry : Option Numeral)
  | bid (privateKey marketplace nftMint : String) (bidAmount : Numeral)
      (auctionHouse : Option String)
  | sell (privateKey marketplace nftMint buyer : String) (salePrice : Numeral)
      (auctionHouse : Option String) (royaltyPaid : Option Numeral)
  | cancel (privateKey marketplace nftMint : String) (auctionHouse : Option String)
  | update (privateKey marketplace nftMint : String) (newPrice : Numeral)
      (auctionHouse : Option String)

/-- Who lists, bids or sells is not derived from the private key. -/
def endpoint : Body → Nat → Outside → Service String
  | .list privateKey marketplace nftMint price auctionHouse expiry =>
    -- The controller passes an empty text for the seller and the bidder.
    listNFTOnMarketplace privateKey ⟨marketplace, nftMint, "", price, auctionHouse, expiry⟩
  | .bid privateKey marketplace nftMint bidAmount auctionHouse =>
    placeBidOnMarketplace privateKey ⟨marketplace, nftMint, "", bidAmount, auctionHouse⟩
  | .sell privateKey marketplace nftMint buyer salePrice auctionHouse royaltyPaid =>
    executeNFTSale privateKey
      ⟨marketplace, nftMint, "", buyer, salePrice, auctionHouse, royaltyPaid⟩
  | .cancel privateKey marketplace nftMint auctionHouse =>
    cancelNFTListing privateKey marketplace nftMint auctionHouse
  | .update privateKey marketplace nftMint newPrice auctionHouse =>
    updateNFTListing privateKey marketplace nftMint newPrice auctionHouse

/-- The marketplace that a body names. -/
def Body.marketplace : Body → String
  | .list _ marketplace .. => marketplace
  | .bid _ marketplace .. => marketplace
  | .sell _ marketplace .. => marketplace
  | .cancel _ marketplace .. => marketplace
  | .update _ marketplace .. => marketplace

/-- What the endpoint asks the service for. -/
def Body.operation : Body → Operation
  | .list _ marketplace nftMint price auctionHouse expiry =>
    .list ⟨marketplace, nftMint, "", price, auctionHouse, expiry⟩
  | .bid _ marketplace nftMint bidAmount auctionHouse =>
    .bid ⟨marketplace, nftMint, "", bidAmount, auctionHouse⟩
  | .sell _ marketplace nftMint buyer salePrice auctionHouse royaltyPaid =>
    .sale ⟨marketplace, nftMint, "", buyer, salePrice, auctionHouse, royaltyPaid⟩
  | .cancel _ marketplace nftMint auctionHouse => .cancel marketplace nftMint auctionHouse
  | .update _ marketplace nftMint newPrice auctionHouse =>
    .update marketplace nftMint newPrice auctionHouse

/-- The table has neither the id nor the made-up signature of the failed record. -/
def New (outside : Outside) (records : Records) : Prop :=
  records.table.findOne outside.failedId = none ∧
    s!"failed-{outside.now}" ∉ records.table.rows.map fun row => row.signature

/-- Whatever is sent for the operation does not reach the network, and there is an
    exception. On a marketplace there are instructions for, one failed record is left
    if the table can have it. Otherwise nothing is left. -/
structure Unsent (marketplace : String) (operation : Operation) (now : Nat) (outside : Outside)
    (tracker : Tracker) (result : Except String String × Tracker) : Prop where
  unreached : ∀ instruction, build now operation = .ok instruction →
    ∀ userPrivateKey maxComputeUnits,
      ¬(sendProgramInvocation userPrivateKey marketplace instruction.data instruction.accounts
        maxComputeUnits).Reaches outside
  raised : ∃ e, result.1 = .error e
  recorded : marketplace = MAGIC_EDEN ∨ marketplace = TENSOR → New outside tracker.records →
    ∃ row, result.2.records.table.rows = tracker.records.table.rows ++ [row] ∧
      row.status = .FAILED
  refused : ¬New outside tracker.records → result.2 = tracker
  unsupported : ¬(marketplace = MAGIC_EDEN ∨ marketplace = TENSOR) → result.2 = tracker

/-- Some account of the instruction is the empty text. -/
def Unsigned (instruction : Instruction) : Prop :=
  ∃ account ∈ instruction.accounts, account.pubkey = ""

/-- An address that cannot be read keeps the instruction from the network. -/
theorem unreached_of_unsigned {outside : Outside} {e : String}
    (hempty : outside.publicKey "" = .error e) {instruction : Instruction}
    (hunsigned : Unsigned instruction) (userPrivateKey marketplace : String)
    (maxComputeUnits : ℚ) :
    ¬(sendProgramInvocation userPrivateKey marketplace instruction.data instruction.accounts
      maxComputeUnits).Reaches outside := by
  intro hreaches
  obtain ⟨-, -, hread⟩ := (reaches_iff outside userPrivateKey marketplace maxComputeUnits
    instruction).mp hreaches
  rcases hunsigned with ⟨account, haccount, hnone⟩
  -- Every account would have been read.
  have haddress := hread.accounts account haccount
  rw [hnone, hempty] at haddress
  cases haddress

/-- The record of a failed invocation has no numbers, so it is accepted if it is new. -/
theorem accepts_failed_iff (userPrivateKey marketplace data : String)
    (accounts : List AccountMeta) (maxComputeUnits : ℚ) (outside : Outside) (records : Records)
    (error : String) :
    records.Accepts ((sendProgramInvocation userPrivateKey marketplace data accounts
      maxComputeUnits).failedRecord outside error) ↔ New outside records := by
  have hzero : Transactions.Whole 64 0 := by decide
  constructor
  · exact fun h => ⟨h.id, h.signature⟩
  · rintro ⟨hid, hsignature⟩
    exact ⟨⟨hzero, fun _ h => (nomatch h), fun _ h => (nomatch h)⟩, hid, hsignature⟩

/-- Without a signer nothing is sent. -/
theorem unsent_of_unsigned {failure : String} {maxComputeUnits : ℚ} {marketplace : String}
    {operation : Operation} (hmarketplace : operation.marketplace? = some marketplace)
    {now : Nat} (hunsigned : ∀ instruction, build now operation = .ok instruction →
      Unsigned instruction)
    {outside : Outside} {e : String} (hempty : outside.publicKey "" = .error e)
    (userPrivateKey : String) (tracker : Tracker) :
    Unsent marketplace operation now outside tracker ((performOnMarketplace failure
      maxComputeUnits marketplace operation userPrivateKey now outside).eval tracker) := by
  have hsupported :=
    (supported_of_marketplace hmarketplace).symm.trans (supported_iff now operation)
  cases hbuild : build now operation with
  | error e =>
      -- There is no such operation, so nothing is built.
      have hperform : (performOnMarketplace failure maxComputeUnits marketplace operation
          userPrivateKey now outside).eval tracker = (.error s!"{failure}: {e}", tracker) := by
        rw [performOnMarketplace, hbuild]
        rfl
      rw [hperform]
      refine ⟨fun _ h => (nomatch hbuild.symm.trans h), ⟨_, rfl⟩, fun h => ?_, fun _ => rfl,
        fun _ => rfl⟩
      obtain ⟨w, hdraft⟩ := hsupported.mp h
      rw [build, hdraft] at hbuild
      cases hbuild
  | ok instruction =>
      obtain ⟨w, hdraft, -⟩ := build_ok hbuild
      have hunreached := unreached_of_unsigned hempty (hunsigned instruction hbuild)
      have hnew := accepts_failed_iff userPrivateKey marketplace instruction.data
        instruction.accounts maxComputeUnits outside tracker.records
      rw [eval_perform hbuild]
      -- The instruction has the empty key among its signers, so it is never accepted.
      cases hsent : (sendProgramInvocation userPrivateKey marketplace instruction.data
        instruction.accounts maxComputeUnits).sent outside with
      | ok sent =>
          exact absurd (Transactions.reaches_of_sent hsent)
            (hunreached userPrivateKey marketplace maxComputeUnits)
      | error reason =>
          rw [Transactions.send_unsent hsent]
          obtain ⟨⟨raised, hraised⟩, hrecords⟩ :=
            Transactions.records_reject (sendProgramInvocation userPrivateKey marketplace
              instruction.data instruction.accounts maxComputeUnits) outside tracker reason
          rw [hnew reason] at hrecords
          refine ⟨fun other hother => ?_, ⟨s!"{failure}: {raised}", ?_⟩, fun _ hfresh => ?_,
            fun hstale => ?_, fun h => absurd (hsupported.mpr ⟨w, hdraft⟩) h⟩
          · cases hbuild.symm.trans hother
            exact fun userPrivateKey => hunreached userPrivateKey marketplace
          · rw [hraised]
            rfl
          · rcases hrecords with ⟨-, hrow⟩ | ⟨hstale, -⟩
            · exact hrow
            · exact absurd hfresh hstale
          · rcases hrecords with ⟨hfresh, -⟩ | ⟨-, hsame⟩
            · exact absurd hfresh hstale
            · exact hsame

/-- An instruction is unsigned if it is for either marketplace. -/
theorem unsigned_of_drafts {now : Nat} {operation : Operation} {marketplace : String}
    {magicEden tensor : Draft}
    (hdraft : draft now operation = onMarketplace marketplace magicEden tensor)
    (heden : signer "" ∈ magicEden.accounts) (htensor : signer "" ∈ tensor.accounts) :
    ∀ instruction, build now operation = .ok instruction → Unsigned instruction := by
  intro instruction hbuild
  obtain ⟨w, hw, rfl⟩ := build_ok hbuild
  rw [hdraft] at hw
  refine ⟨signer "", ?_, rfl⟩
  rcases onMarketplace_cases hw with ⟨-, rfl⟩ | ⟨-, rfl⟩
  · exact heden
  · exact htensor

/-- No call to an endpoint is ever sent. -/
theorem endpoint_unsent (body : Body) (now : Nat) {outside : Outside} {e : String}
    (hempty : outside.publicKey "" = .error e) (tracker : Tracker) :
    Unsent body.marketplace body.operation now outside tracker
      ((endpoint body now outside).eval tracker) := by
  -- The signer is the first account of every instruction.
  cases body with
  | list =>
      exact unsent_of_unsigned rfl (unsigned_of_drafts rfl (.head _) (.head _)) hempty _ tracker
  | bid =>
      exact unsent_of_unsigned rfl (unsigned_of_drafts rfl (.head _) (.head _)) hempty _ tracker
  | sell =>
      exact unsent_of_unsigned rfl (unsigned_of_drafts rfl (.head _) (.head _)) hempty _ tracker
  | cancel =>
      exact unsent_of_unsigned rfl (unsigned_of_drafts rfl (.head _) (.head _)) hempty _ tracker
  | update =>
      exact unsent_of_unsigned rfl (unsigned_of_drafts rfl (.head _) (.head _)) hempty _ tracker

/-- The network takes everything, and only the empty text is no address. -/
def network : Outside where
  fromSecretKey _ := .ok "payer"
  publicKey address := if address = "" then .error "Invalid public key input" else .ok ()
  transfer _ := .ok ()
  tokenAccount _ _ := .ok ()
  tokenAddress _ _ := .ok ()
  fromBase64 _ := .ok ()
  computeUnitLimit _ := .ok ()
  sendAndConfirmTransaction := .ok "signature"
  id := 0
  created := .ok ()
  confirmed := .ok ()
  failedId := 1
  failedCreated := .ok ()
  failed := .ok ()
  now := 0

/-- A bid, before which nothing has been stored, and for which a record is left. -/
theorem endpoint_unsent_bid :
    New network .empty ∧
      Unsent TENSOR (.bid ⟨TENSOR, "mint", "", numeral 1, none⟩) 0 network { records := .empty }
        ((endpoint (.bid "key" TENSOR "mint" (numeral 1) none) 0 network).eval
          { records := .empty }) :=
  ⟨⟨rfl, List.not_mem_nil⟩,
    endpoint_unsent (.bid "key" TENSOR "mint" (numeral 1) none) 0 rfl { records := .empty }⟩

/-- The service is given a bidder, and its bid is sent. -/
example : ((placeBidOnMarketplace "key" ⟨TENSOR, "mint", "bidder", numeral 1, none⟩ 0
    network).eval { records := .empty }).1 = .ok "signature" := rfl

end Marketplaces

end Cpi

end SvmCourse
