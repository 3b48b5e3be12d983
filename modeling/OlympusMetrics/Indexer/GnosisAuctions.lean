import OlympusMetrics.Indexer.Global
import OlympusMetrics.Indexer.Records
import OlympusMetrics.Library.EntityTable
import OlympusMetrics.Library.HalfUp

/-!
Bond auctions: the rows that the bond manager's and the auction house's events
keep, and the OHM supply that a snapshot attributes to them.

The stored id of an auction, its chain and its market joined with a dash, is kept
as a pair.
-/

namespace OlympusMetrics

structure GnosisAuction where
  chainId : ChainId
  marketId : ℕ
  auctionOpenTimestamp : ℕ
  payoutCapacity : BigNumber
  termSeconds : ℕ
  bidQuantity : Option BigNumber
  auctionCloseTimestamp : Option ℕ
  deriving DecidableEq

def GnosisAuction.id (auction : GnosisAuction) : ChainId × ℕ := (auction.chainId, auction.marketId)

structure GnosisAuctionRoot where
  chainId : ChainId
  markets : List ℕ
  deriving DecidableEq

structure AuctionStore where
  gnosisAuctionRoot : EntityTable GnosisAuctionRoot.chainId
  gnosisAuction : EntityTable GnosisAuction.id

def AuctionStore.empty : AuctionStore := ⟨∅, ∅⟩

/-! ### The events -/

/-- `GnosisAuctionLaunched` of the bond manager. -/
structure LaunchedEvent where
  chainId : ChainId
  timestamp : ℕ
  marketId : ℕ
  capacity : ℕ
  bondTerm : ℕ

/-- `AuctionCleared` of the auction house. -/
structure ClearedEvent where
  chainId : ChainId
  timestamp : ℕ
  auctionId : ℕ
  soldBiddingTokens : ℕ

/-- `OHM_DECIMALS` and `BOND_OHM_DECIMALS`. -/
def bondOhmDecimals : ℕ := 9

def applyGnosisAuctionLaunched (event : LaunchedEvent) (store : AuctionStore) : AuctionStore :=
  let existingRoot := store.gnosisAuctionRoot.get event.chainId
  let markets := (existingRoot.map (·.markets)).getD []
  let root : GnosisAuctionRoot :=
    { chainId := event.chainId
      markets := if markets.contains event.marketId then markets else markets ++ [event.marketId] }
  let payoutCapacity := toDecimal event.capacity bondOhmDecimals
  let auction : GnosisAuction :=
    { chainId := event.chainId
      marketId := event.marketId
      auctionOpenTimestamp := event.timestamp
      payoutCapacity := payoutCapacity.toString10
      termSeconds := event.bondTerm
      bidQuantity := none
      auctionCloseTimestamp := none }
  { gnosisAuctionRoot := store.gnosisAuctionRoot.set root
    gnosisAuction := store.gnosisAuction.set auction }

/-- A cleared auction that was not launched by the bond manager is ignored. -/
def applyAuctionCleared (event : ClearedEvent) (store : AuctionStore) : AuctionStore :=
  match store.gnosisAuction.get (event.chainId, event.auctionId) with
  | none => store
  | some record =>
      let bidQuantity := toDecimal event.soldBiddingTokens bondOhmDecimals
      { store with
        gnosisAuction := store.gnosisAuction.set
          { record with
            bidQuantity := some bidQuantity.toString10
            auctionCloseTimestamp := some event.timestamp } }

inductive AuctionEvent
  | launched (event : LaunchedEvent)
  | cleared (event : ClearedEvent)

def AuctionStore.apply (store : AuctionStore) : AuctionEvent → AuctionStore
  | .launched event => applyGnosisAuctionLaunched event store
  | .cleared event => applyAuctionCleared event store

def AuctionStore.applyAll (store : AuctionStore) (events : List AuctionEvent) : AuctionStore :=
  events.foldl AuctionStore.apply store

/-! ### The supply rows of a snapshot -/

/-- What `readBondManagerState` gives. -/
structure BondManagerState where
  isActive : Bool
  teller : String

/-- The accumulators of the first pass. -/
structure BurnTotals where
  totalBurnableOhm : BigNumber
  bondManagerOhmBalanceUnallocated : BigNumber

/-- The first pass at one auction. -/
def BurnTotals.add (timestamp : ℕ) (totals : BurnTotals) (auction : GnosisAuction) : BurnTotals :=
  match auction.bidQuantity, auction.auctionCloseTimestamp with
  | some bidQuantity, some closeTimestamp =>
      if timestamp < closeTimestamp + auction.termSeconds then
        { totals with
          bondManagerOhmBalanceUnallocated :=
            totals.bondManagerOhmBalanceUnallocated.minus bidQuantity }
      else { totals with totalBurnableOhm := totals.totalBurnableOhm.plus bidQuantity }
  | _, _ => totals

def burnTotals (timestamp : ℕ) (balance : BigNumber) (auctions : List GnosisAuction) :
    BurnTotals :=
  auctions.foldl (BurnTotals.add timestamp)
    { totalBurnableOhm := 0, bondManagerOhmBalanceUnallocated := balance }

/-- `cappedBondManagerOhm`. -/
def BurnTotals.capped (totals : BurnTotals) : BigNumber :=
  if totals.bondManagerOhmBalanceUnallocated.gt totals.totalBurnableOhm then
    totals.totalBurnableOhm
  else totals.bondManagerOhmBalanceUnallocated

/-- One row of an auction: OHM held at an address. -/
def bondSupply (config : ChainConfig) (timestamp blockNumber : ℕ) (auction : GnosisAuction)
    (sourceAddress type : String) (balance : BigNumber) : SerializedTokenSupply :=
  createTokenSupply config timestamp (getContractName config config.ohmToken) config.ohmToken
    (some (toString auction.marketId)) none (some (getContractName config sourceAddress))
    (some sourceAddress) type balance blockNumber (-1)

/-- The second pass at one auction. -/
def auctionRows (config : ChainConfig) (bondManager tellerAddress : String)
    (timestamp blockNumber : ℕ) (totals : BurnTotals) (auction : GnosisAuction) :
    List SerializedTokenSupply :=
  let row := bondSupply config timestamp blockNumber auction
  match auction.bidQuantity with
  | none => [row tellerAddress typeBondsPreminted auction.payoutCapacity]
  | some bidQuantity =>
      match auction.auctionCloseTimestamp with
      | none => []
      | some closeTimestamp =>
          if timestamp < closeTimestamp + auction.termSeconds then
            [row bondManager typeBondsVestingDeposits bidQuantity,
             row tellerAddress typeBondsVestingTokens auction.payoutCapacity]
          else if totals.totalBurnableOhm.eq 0 then []
          else
            let adjustedBidQuantity :=
              (bidQuantity.times totals.capped).div totals.totalBurnableOhm
            if adjustedBidQuantity.eq 0 then []
            else [row bondManager typeBondsDeposits adjustedBidQuantity]

/-- The rows that a snapshot adds, from the bond manager's state, the chain's auctions and the
bond manager's stored OHM balance. -/
def pushGnosisAuctionSupply (config : ChainConfig) (state : BondManagerState)
    (auctions : List GnosisAuction) (balanceEntity : Option ℤ)
    (supplies : List SerializedTokenSupply) (timestamp blockNumber : ℕ) :
    List SerializedTokenSupply :=
  match config.bondManager with
  | none => supplies
  | some bondManager =>
      if blockNumber < bondManager.startBlock then supplies
      else if !state.isActive then supplies
      else if auctions.isEmpty then supplies
      else
        let bondManagerOhmBalance := toDecimal (balanceEntity.getD 0) bondOhmDecimals
        let totals := burnTotals timestamp bondManagerOhmBalance auctions
        supplies ++ auctions.flatMap
          (auctionRows config bondManager.address state.teller timestamp blockNumber totals)

end OlympusMetrics
