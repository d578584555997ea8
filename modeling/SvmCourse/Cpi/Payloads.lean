import SvmCourse.Core.Base64
import SvmCourse.Core.JsonValue
import SvmCourse.Core.Text
import SvmCourse.Cpi.Dex
import SvmCourse.Transactions.Sending

/-!
# Instruction Payloads

What other programs are asked for. An instruction is the base64 of an object in JSON
and a list of accounts, and each service writes its own: swaps, what is done with a
lending pool, and what is done on two marketplaces, one of which is sent numbers for
its instructions and one of which is sent names.

No program is at hand that reads them. `heard` does, in the only way there is: it goes
by the name or the number of the instruction, and takes members by their keys and
accounts by their places. So what `heard` gives back is all that an instruction says,
and what is left out on the way is lost. Numbers are as they are written.

## Main definitions

* `Operation`: What a program is asked for.
* `build`: The instruction.
* `told`: What is left of an operation in its instruction.
* `heard`: Reading an instruction.

## Theorems

* `payload_inj`: The base64 of an object determines the object.
* `heard_draft`: An instruction is read as what was told.
* `build_eq_iff`: Instructions are the same exactly if the same was told.
-/

namespace SvmCourse

namespace Cpi

namespace Payloads

open Core Core.Json
open Dex (SwapDirection)
open Transactions (AccountMeta)

/-! ### Payloads -/

/-- Buffers of text are in UTF-8. -/
def payload (value : Value) : String :=
  Base64.encode (Text.bytes (Text.ofChars value.text))

theorem payload_inj {value value' : Value} (h : payload value = payload value') :
    value = value' := by
  have hbytes := congrArg Base64.decode h
  rw [payload, payload, Base64.decode_encode, Base64.decode_encode] at hbytes
  have hchars := Text.bytes_inj.mp hbytes
  rw [Text.chars_ofChars, Text.chars_ofChars] at hchars
  exact text_inj hchars

/-- A whole number in decimal. -/
def numeral (n : Nat) : Numeral where
  chars := Nat.toDigits 10 n
  nonempty := Nat.toDigits_ne_nil
  plain c hc := by
    have hdigit : c.isDigit = true := Nat.isDigit_of_mem_toDigits (by decide) (by decide) hc
    have hrange : 48 ≤ c.toNat ∧ c.toNat ≤ 57 := by
      simpa [Char.isDigit, UInt32.le_iff_toNat_le] using hdigit
    have hplain : ∀ k < 58, 48 ≤ k → Char.ofNat k ∈ numeralChars := by decide
    rw [← Char.ofNat_toNat c]
    exact hplain c.toNat (by omega) hrange.1

theorem numeral_chars_ne_zero {n : Nat} (h : 0 < n) : (numeral n).chars ≠ ['0'] := by
  intro hzero
  have hvalue := congrArg (Nat.ofDigitChars 10 · 0) hzero
  change Nat.ofDigitChars 10 (Nat.toDigits 10 n) 0 = _ at hvalue
  rw [Nat.ofDigitChars_ten_toDigits] at hvalue
  exact absurd hvalue (Nat.ne_of_gt h)

/-- What is written of a number that need not be finite. -/
def number : Option Numeral → Value
  | some n => .number n
  | none => .null

/-! ### Operations -/

/-- The program of the first marketplace. -/
def MAGIC_EDEN : String := "M2mx93ekt1fmXSVkTrUL9xVFHkmME8HTUi5Cyc5aF7K"

/-- The program of the second one. -/
def TENSOR : String := "TSWAPaqyCSx2KABk68Shruf4rp7CxcNi8hAsbdwmHbN"

/-- What is asked of a marketplace when an NFT is listed. -/
structure NFTListingCPI where
  marketplace : String
  nftMint : String
  seller : String
  price : Numeral
  auctionHouse : Option String
  expiry : Option Numeral

/-- What is asked of it when a bid is placed. -/
structure NFTBidCPI where
  marketplace : String
  nftMint : String
  bidder : String
  bidAmount : Numeral
  auctionHouse : Option String

/-- What is asked of it when an NFT is sold. -/
structure NFTSaleCPI where
  marketplace : String
  nftMint : String
  seller : String
  buyer : String
  salePrice : Numeral
  auctionHouse : Option String
  royaltyPaid : Option Numeral

/-- The addresses of a pool that a swap is about. -/
structure SwapPool where
  poolAddress : String
  tokenAMint : String
  tokenBMint : String

/-- What a program is asked for, with what the instruction is built from. -/
inductive Operation where
  | swap (pool : SwapPool) (userAddress : String) (amountIn : Numeral)
      (direction : SwapDirection) (minimumAmountOut : Option Numeral)
  | supply (ownerAddress assetMint : String) (amount : Numeral)
  | borrow (ownerAddress assetMint : String) (amount : Numeral) (collateralMint : String)
      (collateralAmount : Numeral)
  | repay (ownerAddress assetMint : String) (amount : Numeral)
  | withdraw (ownerAddress assetMint : String) (amount : Numeral)
  | list (listing : NFTListingCPI)
  | bid (bid : NFTBidCPI)
  | sale (sale : NFTSaleCPI)
  | cancel (marketplace nftMint : String) (auctionHouse : Option String)
  | update (marketplace nftMint : String) (newPrice : Numeral) (auctionHouse : Option String)

/-! ### Instructions -/

/-- An instruction: its data as base64 text, and its accounts. -/
structure Instruction where
  data : String
  accounts : List AccountMeta

/-- An instruction before it is made a payload. -/
structure Draft where
  instructionData : List (String × Value)
  accounts : List AccountMeta

/-- The draft with its data written as JSON and then as base64. -/
def Draft.sealed (draft : Draft) : Instruction where
  data := payload (.object draft.instructionData)
  accounts := draft.accounts

/-- An account that signs and is written. -/
def signer (pubkey : String) : AccountMeta where
  pubkey := pubkey
  isSigner := true
  isWritable := true

/-- An account that is written. -/
def writable (pubkey : String) : AccountMeta where
  pubkey := pubkey
  isSigner := false
  isWritable := true

/-- An account that is only read. -/
def readOnly (pubkey : String) : AccountMeta where
  pubkey := pubkey
  isSigner := false
  isWritable := false

/-- The direction as it stands in the data. -/
def direction : SwapDirection → String
  | .A_TO_B => "a_to_b"
  | .B_TO_A => "b_to_a"

/-- The draft of a swap. -/
def buildSwapInstruction (pool : SwapPool) (userAddress : String) (amountIn : Numeral)
    (way : SwapDirection) (minimumAmountOut : Option Numeral) : Draft where
  instructionData := [("instruction", .string "swap"), ("amountIn", .number amountIn),
    ("minimumAmountOut", number minimumAmountOut), ("direction", .string (direction way))]
  accounts := [signer userAddress, writable pool.poolAddress,
    readOnly (if way = .A_TO_B then pool.tokenAMint else pool.tokenBMint),
    readOnly (if way = .A_TO_B then pool.tokenBMint else pool.tokenAMint)]

/-- What supplying, repaying and withdrawing are written as. -/
def poolInstruction (instruction ownerAddress assetMint : String) (amount : Numeral) : Draft where
  instructionData := [("instruction", .string instruction), ("assetMint", .string assetMint),
    ("amount", .number amount)]
  accounts := [writable ownerAddress, readOnly assetMint]

/-- The draft of a supply. -/
def buildSupplyInstruction : String → String → Numeral → Draft := poolInstruction "supply"

/-- The draft of a repayment. -/
def buildRepayInstruction : String → String → Numeral → Draft := poolInstruction "repay"

/-- The draft of a withdrawal. -/
def buildWithdrawInstruction : String → String → Numeral → Draft := poolInstruction "withdraw"

/-- The draft of a loan. -/
def buildBorrowInstruction (ownerAddress assetMint : String) (amount : Numeral)
    (collateralMint : String) (collateralAmount : Numeral) : Draft where
  instructionData := [("instruction", .string "borrow"), ("assetMint", .string assetMint),
    ("amount", .number amount), ("collateralMint", .string collateralMint),
    ("collateralAmount", .number collateralAmount)]
  accounts := [writable ownerAddress, readOnly assetMint, readOnly collateralMint]

/-- An instruction for each of the two marketplaces there are instructions for. -/
def onMarketplace (marketplace : String) (magicEden tensor : Draft) : Except String Draft :=
  if marketplace = MAGIC_EDEN then .ok magicEden
  else if marketplace = TENSOR then .ok tensor
  else .error s!"Unsupported marketplace: {marketplace}"

/-- An empty text counts as none. -/
def house (auctionHouse : Option String) : String :=
  (auctionHouse.filter (· ≠ "")).getD "E8cA9TegvX3cEhpHq7gPs3z7WMXo6Wq9F3mK6T1qBz"

/-- A number if it is given and not zero, and the other one if not. -/
def orElse (n : Option Numeral) (default : Numeral) : Numeral :=
  (n.filter (·.chars ≠ ['0'])).getD default

/-- In seven days. -/
def weekFrom (now : Nat) : Numeral := numeral (now / 1000 + 7 * 24 * 60 * 60)

/-- A member of an object, which is left out if it is undefined. -/
def optional (key : String) (n : Option Numeral) : List (String × Value) :=
  (n.map fun n => (key, .number n)).toList

/-- The draft of a listing, in the words of its marketplace. -/
def buildListingInstruction (now : Nat) (listing : NFTListingCPI) : Except String Draft :=
  onMarketplace listing.marketplace
    { instructionData := [("instruction", .number (numeral 0)), ("price", .number listing.price),
        ("expiry", .number (orElse listing.expiry (weekFrom now)))]
      accounts := [signer listing.seller, readOnly listing.nftMint,
        writable (house listing.auctionHouse)] }
    { instructionData := [("instruction", .string "list"), ("nftMint", .string listing.nftMint),
        ("price", .number listing.price)] ++ optional "expiry" listing.expiry
      accounts := [signer listing.seller, readOnly listing.nftMint] }

/-- The draft of a bid, in the words of its marketplace. -/
def buildBidInstruction (bid : NFTBidCPI) : Except String Draft :=
  onMarketplace bid.marketplace
    { instructionData := [("instruction", .number (numeral 1)),
        ("bidAmount", .number bid.bidAmount)]
      accounts := [signer bid.bidder, readOnly bid.nftMint, writable (house bid.auctionHouse)] }
    { instructionData := [("instruction", .string "bid"), ("nftMint", .string bid.nftMint),
        ("bidAmount", .number bid.bidAmount)]
      accounts := [signer bid.bidder, readOnly bid.nftMint] }

/-- The draft of a sale, in the words of its marketplace. -/
def buildSaleInstruction (sale : NFTSaleCPI) : Except String Draft :=
  onMarketplace sale.marketplace
    -- Magic Eden, which knows its instructions by number.
    { instructionData := [("instruction", .number (numeral 2)),
        ("salePrice", .number sale.salePrice),
        ("royaltyPaid", .number (orElse sale.royaltyPaid (numeral 0)))]
      accounts := [signer sale.seller, writable sale.buyer, writable sale.nftMint,
        writable (house sale.auctionHouse)] }
    -- Tensor, which knows them by name.
    { instructionData := [("instruction", .string "sale"), ("nftMint", .string sale.nftMint),
        ("salePrice", .number sale.salePrice)] ++ optional "royaltyPaid" sale.royaltyPaid
      accounts := [signer sale.seller, writable sale.buyer, writable sale.nftMint] }

/-- The signer is to be set by the caller. -/
def buildCancelInstruction (marketplace nftMint : String) (auctionHouse : Option String) :
    Except String Draft :=
  onMarketplace marketplace
    { instructionData := [("instruction", .number (numeral 3))]
      accounts := [signer "", readOnly nftMint, writable (house auctionHouse)] }
    { instructionData := [("instruction", .string "cancel"), ("nftMint", .string nftMint)]
      accounts := [signer "", readOnly nftMint] }

/-- The draft of a new price, in the words of its marketplace. -/
def buildUpdateInstruction (marketplace nftMint : String) (newPrice : Numeral)
    (auctionHouse : Option String) : Except String Draft :=
  onMarketplace marketplace
    { instructionData := [("instruction", .number (numeral 4)), ("newPrice", .number newPrice)]
      accounts := [signer "", readOnly nftMint, writable (house auctionHouse)] }
    { instructionData := [("instruction", .string "update"), ("nftMint", .string nftMint),
        ("newPrice", .number newPrice)]
      accounts := [signer "", readOnly nftMint] }

/-- The draft of an operation, or the error for a marketplace that is not known. -/
def draft (now : Nat) : Operation → Except String Draft
  | .swap pool userAddress amountIn way minimumAmountOut =>
    .ok (buildSwapInstruction pool userAddress amountIn way minimumAmountOut)
  | .supply ownerAddress assetMint amount =>
    .ok (buildSupplyInstruction ownerAddress assetMint amount)
  | .borrow ownerAddress assetMint amount collateralMint collateralAmount =>
    .ok (buildBorrowInstruction ownerAddress assetMint amount collateralMint collateralAmount)
  | .repay ownerAddress assetMint amount =>
    .ok (buildRepayInstruction ownerAddress assetMint amount)
  | .withdraw ownerAddress assetMint amount =>
    .ok (buildWithdrawInstruction ownerAddress assetMint amount)
  | .list listing => buildListingInstruction now listing
  | .bid bid => buildBidInstruction bid
  | .sale sale => buildSaleInstruction sale
  | .cancel marketplace nftMint auctionHouse =>
    buildCancelInstruction marketplace nftMint auctionHouse
  | .update marketplace nftMint newPrice auctionHouse =>
    buildUpdateInstruction marketplace nftMint newPrice auctionHouse

/-- The instruction that is sent for an operation. -/
def build (now : Nat) (operation : Operation) : Except String Instruction :=
  (draft now operation).map Draft.sealed

/-! ### Reading instructions -/

/-- The number a member is. -/
def Draft.numeral (draft : Draft) (key : String) : Option Numeral :=
  match draft.instructionData.lookup key with
  | some (.number n) => some n
  | _ => none

/-- The text a member is. -/
def Draft.text (draft : Draft) (key : String) : Option String :=
  match draft.instructionData.lookup key with
  | some (.string text) => some text
  | _ => none

/-- The instructions that have a number. -/
def heardNumber (draft : Draft) : List Char → List String → Option Operation
  -- The digit tells what was built, and the accounts stand in the order they were put
  -- in.
  | ['0'], [seller, nftMint, auctionHouse] => do
    return .list ⟨MAGIC_EDEN, nftMint, seller, ← draft.numeral "price", auctionHouse,
      ← draft.numeral "expiry"⟩
  | ['1'], [bidder, nftMint, auctionHouse] => do
    return .bid ⟨MAGIC_EDEN, nftMint, bidder, ← draft.numeral "bidAmount", auctionHouse⟩
  | ['2'], [seller, buyer, nftMint, auctionHouse] => do
    return .sale ⟨MAGIC_EDEN, nftMint, seller, buyer, ← draft.numeral "salePrice", auctionHouse,
      ← draft.numeral "royaltyPaid"⟩
  | ['3'], [_, nftMint, auctionHouse] => some (.cancel MAGIC_EDEN nftMint auctionHouse)
  | ['4'], [_, nftMint, auctionHouse] => do
    return .update MAGIC_EDEN nftMint (← draft.numeral "newPrice") auctionHouse
  | _, _ => none

/-- The instructions that have a name. -/
def heardName (draft : Draft) : String → List String → Option Operation
  | "swap", [userAddress, poolAddress, tokenIn, tokenOut] => do
    let amountIn ← draft.numeral "amountIn"
    -- The tokens stand in the order of the direction.
    if (← draft.text "direction") = direction .A_TO_B then
      return .swap ⟨poolAddress, tokenIn, tokenOut⟩ userAddress amountIn .A_TO_B
        (draft.numeral "minimumAmountOut")
    else
      return .swap ⟨poolAddress, tokenOut, tokenIn⟩ userAddress amountIn .B_TO_A
        (draft.numeral "minimumAmountOut")
  | "supply", [ownerAddress, assetMint] => do
    return .supply ownerAddress assetMint (← draft.numeral "amount")
  | "borrow", [ownerAddress, assetMint, collateralMint] => do
    return .borrow ownerAddress assetMint (← draft.numeral "amount") collateralMint
      (← draft.numeral "collateralAmount")
  | "repay", [ownerAddress, assetMint] => do
    return .repay ownerAddress assetMint (← draft.numeral "amount")
  | "withdraw", [ownerAddress, assetMint] => do
    return .withdraw ownerAddress assetMint (← draft.numeral "amount")
  | "list", [seller, nftMint] => do
    return .list ⟨TENSOR, nftMint, seller, ← draft.numeral "price", none, draft.numeral "expiry"⟩
  | "bid", [bidder, nftMint] => do
    return .bid ⟨TENSOR, nftMint, bidder, ← draft.numeral "bidAmount", none⟩
  | "sale", [seller, buyer, nftMint] => do
    return .sale ⟨TENSOR, nftMint, seller, buyer, ← draft.numeral "salePrice", none,
      draft.numeral "royaltyPaid"⟩
  | "cancel", [_, nftMint] => some (.cancel TENSOR nftMint none)
  | "update", [_, nftMint] => do
    return .update TENSOR nftMint (← draft.numeral "newPrice") none
  | _, _ => none

/-- The operation that a draft is about. -/
def heard (draft : Draft) : Option Operation :=
  match draft.instructionData.lookup "instruction" with
  | some (.number n) => heardNumber draft n.chars (draft.accounts.map (·.pubkey))
  | some (.string name) => heardName draft name (draft.accounts.map (·.pubkey))
  | _ => none

/-! ### What is told -/

/-- The marketplace, if the operation is for one. -/
def Operation.marketplace? : Operation → Option String
  | .list listing => some listing.marketplace
  | .bid offer => some offer.marketplace
  | .sale order => some order.marketplace
  | .cancel marketplace _ _ => some marketplace
  | .update marketplace _ _ _ => some marketplace
  | _ => none

/-- There is an instruction for it. -/
def Operation.Supported (operation : Operation) : Prop :=
  ∀ marketplace, operation.marketplace? = some marketplace →
    marketplace = MAGIC_EDEN ∨ marketplace = TENSOR

/-- Only one marketplace is told the auction house, and there is always one. -/
def toldHouse (marketplace : String) (auctionHouse : Option String) : Option String :=
  if marketplace = MAGIC_EDEN then some (house auctionHouse) else none

/-- Only one marketplace is always told a number. -/
def toldNumber (marketplace : String) (n : Option Numeral) (default : Numeral) : Option Numeral :=
  if marketplace = MAGIC_EDEN then some (orElse n default) else n

/-- What is left of an operation in its instruction. -/
def told (now : Nat) : Operation → Operation
  | .list listing => .list { listing with
      auctionHouse := toldHouse listing.marketplace listing.auctionHouse
      expiry := toldNumber listing.marketplace listing.expiry (weekFrom now) }
  | .bid bid => .bid { bid with auctionHouse := toldHouse bid.marketplace bid.auctionHouse }
  | .sale sale => .sale { sale with
      auctionHouse := toldHouse sale.marketplace sale.auctionHouse
      royaltyPaid := toldNumber sale.marketplace sale.royaltyPaid (numeral 0) }
  | .cancel marketplace nftMint auctionHouse =>
    .cancel marketplace nftMint (toldHouse marketplace auctionHouse)
  | .update marketplace nftMint newPrice auctionHouse =>
    .update marketplace nftMint newPrice (toldHouse marketplace auctionHouse)
  -- The operations on pools and reserves have no default.
  | operation => operation

theorem onMarketplace_cases {marketplace : String} {magicEden tensor w : Draft}
    (h : onMarketplace marketplace magicEden tensor = .ok w) :
    (marketplace = MAGIC_EDEN ∧ w = magicEden) ∨ (marketplace = TENSOR ∧ w = tensor) := by
  rw [onMarketplace] at h
  by_cases heden : marketplace = MAGIC_EDEN
  · rw [if_pos heden] at h
    exact Or.inl ⟨heden, (Except.ok.inj h).symm⟩
  · rw [if_neg heden] at h
    by_cases htensor : marketplace = TENSOR
    · rw [if_pos htensor] at h
      exact Or.inr ⟨htensor, (Except.ok.inj h).symm⟩
    · rw [if_neg htensor] at h
      cases h

/-- A draft is read as what was told. -/
theorem heard_draft {now : Nat} {operation : Operation} {w : Draft}
    (h : draft now operation = .ok w) : heard w = some (told now operation) := by
  cases operation with
  | swap pool userAddress amountIn way minimumAmountOut =>
      cases h
      cases way <;> cases minimumAmountOut <;> rfl
  | supply ownerAddress assetMint amount =>
      cases h
      rfl
  | borrow ownerAddress assetMint amount collateralMint collateralAmount =>
      cases h
      rfl
  | repay ownerAddress assetMint amount =>
      cases h
      rfl
  | withdraw ownerAddress assetMint amount =>
      cases h
      rfl
  | list listing =>
      rcases listing with ⟨marketplace, nftMint, seller, price, auctionHouse, expiry⟩
      -- The expiry is left out of one of the instructions if there is none.
      rcases onMarketplace_cases h with ⟨rfl, rfl⟩ | ⟨rfl, rfl⟩ <;> cases expiry <;> rfl
  | bid offer =>
      rcases offer with ⟨marketplace, nftMint, bidder, bidAmount, auctionHouse⟩
      rcases onMarketplace_cases h with ⟨rfl, rfl⟩ | ⟨rfl, rfl⟩ <;> rfl
  | sale order =>
      rcases order with ⟨marketplace, nftMint, seller, buyer, salePrice, auctionHouse, royaltyPaid⟩
      -- So is the royalty.
      rcases onMarketplace_cases h with ⟨rfl, rfl⟩ | ⟨rfl, rfl⟩ <;> cases royaltyPaid <;> rfl
  | cancel marketplace nftMint auctionHouse =>
      rcases onMarketplace_cases h with ⟨rfl, rfl⟩ | ⟨rfl, rfl⟩ <;> rfl
  | update marketplace nftMint newPrice auctionHouse =>
      rcases onMarketplace_cases h with ⟨rfl, rfl⟩ | ⟨rfl, rfl⟩ <;> rfl

/-! ### Telling again -/

/-- A choice that was made once is made again, if the default counts as given or is
    the same. -/
theorem getD_filter_again {α : Type} {p : α → Bool} {d d' : α} (h : p d = true ∨ d = d')
    (given : Option α) :
    ((some ((given.filter p).getD d)).filter p).getD d' = (given.filter p).getD d := by
  cases hgiven : given.filter p with
  | some a =>
      have ha : p a = true := (Option.filter_eq_some_iff.mp hgiven).2
      rw [Option.getD_some, Option.filter_some_pos ha, Option.getD_some]
  | none =>
      rw [Option.getD_none]
      by_cases hd : p d = true
      · rw [Option.filter_some_pos hd, Option.getD_some]
      · rw [Option.filter_some_neg (by simpa using hd), Option.getD_none]
        exact (h.resolve_left hd).symm

theorem house_toldHouse {marketplace : String} (h : marketplace = MAGIC_EDEN)
    (auctionHouse : Option String) :
    house (toldHouse marketplace auctionHouse) = house auctionHouse := by
  rw [toldHouse, if_pos h]
  exact getD_filter_again (Or.inl (by decide)) auctionHouse

theorem orElse_toldNumber {marketplace : String} (h : marketplace = MAGIC_EDEN) {d d' : Numeral}
    (hd : d.chars ≠ ['0'] ∨ d = d') (n : Option Numeral) :
    orElse (toldNumber marketplace n d) d' = orElse n d := by
  rw [toldNumber, if_pos h]
  refine getD_filter_again (hd.imp_left fun hne => ?_) n
  exact decide_eq_true hne

theorem weekFrom_chars_ne_zero (now : Nat) : (weekFrom now).chars ≠ ['0'] :=
  numeral_chars_ne_zero (by omega)

theorem toldNumber_tensor {marketplace : String} (h : marketplace = TENSOR) (n : Option Numeral)
    (d : Numeral) : toldNumber marketplace n d = n :=
  if_neg (h ▸ by decide)

theorem onMarketplace_congr {marketplace : String} {a a' b b' : Draft}
    (ha : marketplace = MAGIC_EDEN → a = a') (hb : marketplace = TENSOR → b = b') :
    onMarketplace marketplace a b = onMarketplace marketplace a' b' := by
  rw [onMarketplace, onMarketplace]
  split
  · next heden => rw [ha heden]
  · split
    · next htensor => rw [hb htensor]
    · rfl

/-- What was told is written in the same way, whenever it is written. -/
theorem draft_told (now now' : Nat) (operation : Operation) :
    draft now' (told now operation) = draft now operation := by
  cases operation with
  | swap => rfl
  | supply => rfl
  | borrow => rfl
  | repay => rfl
  | withdraw => rfl
  | list listing =>
      refine onMarketplace_congr (fun h => ?_) fun h => ?_
      · -- The expiry was told, so the clock is not looked at again.
        rw [house_toldHouse h, orElse_toldNumber h (Or.inl (weekFrom_chars_ne_zero now))]
      · rw [toldNumber_tensor h]
  | bid offer =>
      refine onMarketplace_congr (fun h => ?_) fun _ => rfl
      rw [house_toldHouse h]
  | sale order =>
      refine onMarketplace_congr (fun h => ?_) fun h => ?_
      · rw [house_toldHouse h, orElse_toldNumber h (Or.inr rfl)]
      · rw [toldNumber_tensor h]
  | cancel marketplace nftMint auctionHouse =>
      refine onMarketplace_congr (fun h => ?_) fun _ => rfl
      rw [house_toldHouse h]
  | update marketplace nftMint newPrice auctionHouse =>
      refine onMarketplace_congr (fun h => ?_) fun _ => rfl
      rw [house_toldHouse h]

/-! ### The same instruction -/

theorem supported_onMarketplace {marketplace : String} (a b : Draft) :
    (marketplace = MAGIC_EDEN ∨ marketplace = TENSOR) ↔
      ∃ w, onMarketplace marketplace a b = .ok w := by
  constructor
  · rintro (rfl | rfl)
    · exact ⟨a, rfl⟩
    · exact ⟨b, rfl⟩
  · rintro ⟨w, h⟩
    exact (onMarketplace_cases h).imp And.left And.left

theorem supported_of_marketplace {operation : Operation} {marketplace : String}
    (h : operation.marketplace? = some marketplace) :
    operation.Supported ↔ marketplace = MAGIC_EDEN ∨ marketplace = TENSOR := by
  refine ⟨fun hsupported => hsupported marketplace h, fun hmarketplace other hother => ?_⟩
  exact Option.some.inj (h.symm.trans hother) ▸ hmarketplace

theorem supported_iff (now : Nat) (operation : Operation) :
    operation.Supported ↔ ∃ w, draft now operation = .ok w := by
  -- For other programs there always is an instruction.
  cases operation with
  | swap => exact iff_of_true (fun _ h => by cases h) ⟨_, rfl⟩
  | supply => exact iff_of_true (fun _ h => by cases h) ⟨_, rfl⟩
  | borrow => exact iff_of_true (fun _ h => by cases h) ⟨_, rfl⟩
  | repay => exact iff_of_true (fun _ h => by cases h) ⟨_, rfl⟩
  | withdraw => exact iff_of_true (fun _ h => by cases h) ⟨_, rfl⟩
  | list => exact (supported_of_marketplace rfl).trans (supported_onMarketplace _ _)
  | bid => exact (supported_of_marketplace rfl).trans (supported_onMarketplace _ _)
  | sale => exact (supported_of_marketplace rfl).trans (supported_onMarketplace _ _)
  | cancel => exact (supported_of_marketplace rfl).trans (supported_onMarketplace _ _)
  | update => exact (supported_of_marketplace rfl).trans (supported_onMarketplace _ _)

theorem sealed_inj {w w' : Draft} (h : w.sealed = w'.sealed) : w = w' := by
  rcases w with ⟨instructionData, accounts⟩
  rcases w' with ⟨instructionData', accounts'⟩
  obtain ⟨hdata, haccounts⟩ := Instruction.mk.inj h
  exact congrArg₂ Draft.mk (Value.object.inj (payload_inj hdata)) haccounts

theorem build_ok {now : Nat} {operation : Operation} {instruction : Instruction}
    (h : build now operation = .ok instruction) :
    ∃ w, draft now operation = .ok w ∧ w.sealed = instruction := by
  rw [build] at h
  cases hdraft : draft now operation with
  | error e =>
      rw [hdraft] at h
      cases h
  | ok w =>
      rw [hdraft] at h
      exact ⟨w, rfl, Except.ok.inj h⟩

/-- Two instructions are the same exactly if there are instructions for the operations
    and what is told of them is the same. -/
theorem build_eq_iff (now now' : Nat) (operation operation' : Operation) :
    (∃ instruction, build now operation = .ok instruction ∧
        build now' operation' = .ok instruction) ↔
      operation.Supported ∧ operation'.Supported ∧ told now operation = told now' operation' := by
  rw [supported_iff now operation, supported_iff now' operation']
  constructor
  · rintro ⟨instruction, h, h'⟩
    obtain ⟨w, hw, rfl⟩ := build_ok h
    obtain ⟨w', hw', hsealed⟩ := build_ok h'
    obtain rfl := sealed_inj hsealed
    -- One draft is read in one way.
    exact ⟨⟨_, hw⟩, ⟨_, hw'⟩, Option.some.inj ((heard_draft hw).symm.trans (heard_draft hw'))⟩
  · rintro ⟨⟨w, h⟩, ⟨w', h'⟩, htold⟩
    have hsame : draft now operation = draft now' operation' :=
      calc draft now operation
        _ = draft now (told now operation) := (draft_told now now operation).symm
        _ = draft now (told now' operation') := by rw [htold]
        _ = draft now' operation' := draft_told now' now operation'
    refine ⟨w.sealed, ?_, ?_⟩
    · rw [build, h]
      rfl
    · rw [build, ← hsame, h]
      rfl

end Payloads

end Cpi

end SvmCourse
