import OlympusMetrics.Indexer.Aggregation
import OlympusMetrics.Indexer.Staking
import OlympusMetrics.Indexer.Univ3NftPol

/-!
The records of what the treasury's wallets have staked on Arbitrum: JONES and MAGIC,
at the stakes that the staking events have left.

Staked JONES is written off from a block on, and staked MAGIC is never liquid.
-/

namespace OlympusMetrics.Pricing

open BigNumber Lookup Staking ClampedSums

/-- `JONES_STAKED_POOL_ID`. -/
def jonesStakedPoolId : ℕ := 0

/-- `JONES_WRITE_OFF_BLOCK`. -/
def jonesWriteOffBlock : ℕ := 130482707

/-- `TREASURE_STAKED_LP_DECIMALS`. -/
def treasureStakedLpDecimals : ℕ := 18

/-- `JONES_TOKEN_ADDRESS`. -/
def jonesTokenAddress : String := "0x10393c20975cf177a3513071bc110f7962cd67da"

/-- `MAGIC_TOKEN_ADDRESS`. -/
def magicTokenAddress : String := "0x539bde0d7dbd336b79148aa742883198bbf60342"

section

variable (ctx : PricingContext) (store : StakingStore) (timestamp : ℕ)

/-- Whether a token is configured and active at the block. -/
def hasActiveToken (address : String) : Bool :=
  match getTokenDefinition ctx.config address with
  | none => false
  | some token => OlympusMetrics.isActive token.startBlock ctx.blockNumber

/-- `rate ??= (await getPrice(…)).price`. -/
def rateOnce (rate : Option BigNumber) (token : String) : PricingProg BigNumber :=
  match rate with
  | some rate => .ret rate
  | none => do
      let result ← priceLookup token none
      .ret result.price

/-- The record of a wallet's staked JONES. -/
def jonesRecord (wallet : String) (rate balance : BigNumber) : SerializedTokenRecord :=
  let record := createTokenRecord ctx.config timestamp
    (getContractName ctx.config jonesTokenAddress ++ " - Staked") jonesTokenAddress
    (getContractName ctx.config wallet) wallet rate balance ctx.blockNumber
  if jonesWriteOffBlock ≤ ctx.blockNumber then
    { record with
      multiplier := 0
      valueExcludingOhm := 0 }
  else record

/-- The record of a wallet's deposit of MAGIC. -/
def treasureRecord (wallet : String) (rate balance : BigNumber) : SerializedTokenRecord :=
  { createTokenRecord ctx.config timestamp
      (getContractName ctx.config magicTokenAddress ++ " - Staked (veMAGIC)") magicTokenAddress
      (getContractName ctx.config wallet) wallet rate balance ctx.blockNumber with
    isLiquid := false }

/-- The loop of `pushJonesStakingRecords` over the protocol's wallets. -/
def pushJonesWallets :
    List String → Option BigNumber → List SerializedTokenRecord →
      PricingProg (List SerializedTokenRecord)
  | [], _, records => .ret records
  | wallet :: rest, rate, records =>
      match store.jonesStakingPosition.get ⟨ctx.config.chainId, jonesStakedPoolId, wallet⟩ with
      | none => pushJonesWallets rest rate records
      | some entity =>
          if entity.amount = 0 then pushJonesWallets rest rate records
          else do
            let rate ← rateOnce rate jonesTokenAddress
            if rate.eq 0 then pushJonesWallets rest (some rate) records
            else
              pushJonesWallets rest (some rate)
                (records ++ [jonesRecord ctx timestamp wallet rate (toDecimal entity.amount 18)])

/-- `pushJonesStakingRecords`. -/
def pushJonesStakingRecords (records : List SerializedTokenRecord) :
    PricingProg (List SerializedTokenRecord) :=
  if hasActiveToken ctx jonesTokenAddress then
    pushJonesWallets ctx store timestamp ctx.config.protocolAddresses none records
  else .ret records

/-- The loop over a wallet's deposits, on every chain; a price of zero ends it. -/
def pushTreasureDeposits (wallet : String) :
    List TreasureDeposit → Option BigNumber → List SerializedTokenRecord →
      PricingProg (Option BigNumber × List SerializedTokenRecord)
  | [], rate, records => .ret (rate, records)
  | deposit :: rest, rate, records =>
      if deposit.chainId ≠ ctx.config.chainId then pushTreasureDeposits wallet rest rate records
      else if deposit.amount = 0 then pushTreasureDeposits wallet rest rate records
      else do
        let rate ← rateOnce rate magicTokenAddress
        if rate.eq 0 then .ret (some rate, records)
        else
          pushTreasureDeposits wallet rest (some rate)
            (records ++ [treasureRecord ctx timestamp wallet rate
              (toDecimal deposit.amount treasureStakedLpDecimals)])

/-- `TreasureDeposit.getWhere` on the wallet. -/
def depositsOf (wallet : String) : List TreasureDeposit :=
  store.treasureDeposit.rows.filter (fun deposit => deposit.walletAddress = wallet)

/-- The loop of `pushTreasureStakingRecords` over the protocol's wallets. -/
def pushTreasureWallets :
    List String → Option BigNumber → List SerializedTokenRecord →
      PricingProg (List SerializedTokenRecord)
  | [], _, records => .ret records
  | wallet :: rest, rate, records => do
      let pushed ← pushTreasureDeposits ctx timestamp wallet (depositsOf store wallet) rate records
      pushTreasureWallets rest pushed.1 pushed.2

/-- `pushTreasureStakingRecords`. -/
def pushTreasureStakingRecords (records : List SerializedTokenRecord) :
    PricingProg (List SerializedTokenRecord) :=
  if hasActiveToken ctx magicTokenAddress then
    pushTreasureWallets ctx store timestamp ctx.config.protocolAddresses none records
  else .ret records

/-- `pushArbitrumStakingRecords`. -/
def pushArbitrumStakingRecords (records : List SerializedTokenRecord) :
    PricingProg (List SerializedTokenRecord) := do
  let records ← pushJonesStakingRecords ctx store timestamp records
  pushTreasureStakingRecords ctx store timestamp records

end

/-! ### The rows of the loops -/

section rows

variable {ctx : PricingContext} {store : StakingStore} {timestamp : ℕ}
  {ledger : LedgerKey → Option ℤ} {cached : PricingKey → Option PricingValue}

/-- The rate that a loop holds is the token's price, once it is looked up. -/
def HoldsRate (cached : PricingKey → Option PricingValue) (token : String)
    (rate : Option BigNumber) : Prop :=
  ∀ value, rate = some value → value = topPrice cached token

theorem holdsRate_none (token : String) : HoldsRate cached token none := by
  intro value h
  cases h

theorem holdsRate_topPrice (token : String) :
    HoldsRate cached token (some (topPrice cached token)) := by
  intro value h
  exact (Option.some.inj h).symm

theorem HoldsRate.of_rateOnce {token : String} {rate : Option BigNumber} {value : BigNumber}
    (hrate : HoldsRate cached token rate)
    (h : (rateOnce rate token).fromCache ledger cached = some (.ok value)) :
    value = topPrice cached token := by
  cases rate with
  | some known =>
      obtain rfl : known = value := by simpa [rateOnce] using h
      exact hrate known rfl
  | none =>
      rw [rateOnce] at h
      obtain ⟨result, hresult, h⟩ := Prog.fromCache_bind_ok_iff.mp h
      obtain rfl : result.price = value := by simpa using h
      exact price_of_fromCache hresult

/-- The staked JONES that a price makes a row of. -/
def jonesRow (ctx : PricingContext) (timestamp : ℕ) (price : BigNumber) (stake : String → ℤ)
    (wallet : String) : Option SerializedTokenRecord :=
  if stake wallet = 0 ∨ price.eq 0 then none
  else some (jonesRecord ctx timestamp wallet price (toDecimal (stake wallet) 18))

theorem fromCache_pushJonesWallets {wallets : List String} {rate : Option BigNumber}
    (hrate : HoldsRate cached jonesTokenAddress rate) {records records' : List SerializedTokenRecord}
    (h : (pushJonesWallets ctx store timestamp wallets rate records).fromCache ledger cached =
      some (.ok records')) :
    records' = records ++ wallets.filterMap
      (jonesRow ctx timestamp (topPrice cached jonesTokenAddress)
        (fun wallet => store.jonesAmount ⟨ctx.config.chainId, jonesStakedPoolId, wallet⟩)) := by
  induction wallets generalizing rate records with
  | nil =>
      rw [pushJonesWallets, Prog.fromCache_ret, Option.some.injEq, Except.ok.injEq] at h
      simp [h]
  | cons wallet rest ih =>
      rw [pushJonesWallets] at h
      rw [List.filterMap_cons, jonesRow, StakingStore.jonesAmount]
      cases hget : store.jonesStakingPosition.get
          ⟨ctx.config.chainId, jonesStakedPoolId, wallet⟩ with
      | none =>
          rw [hget] at h
          simpa using ih hrate h
      | some entity =>
          rw [hget] at h
          simp only at h
          by_cases hamount : entity.amount = 0
          · rw [if_pos hamount] at h
            simpa [hamount] using ih hrate h
          · rw [if_neg hamount] at h
            obtain ⟨value, hvalue, h⟩ := Prog.fromCache_bind_ok_iff.mp h
            obtain rfl := hrate.of_rateOnce hvalue
            by_cases hzero : (topPrice cached jonesTokenAddress).eq 0 = true
            · rw [if_pos hzero] at h
              simpa [hzero] using ih (holdsRate_topPrice jonesTokenAddress) h
            · rw [if_neg hzero] at h
              simpa [hamount, hzero] using ih (holdsRate_topPrice jonesTokenAddress) h

/-- The deposits that a price makes rows of. -/
def treasureRows (ctx : PricingContext) (timestamp : ℕ) (price : BigNumber) (wallet : String)
    (stakes : List ℤ) : List SerializedTokenRecord :=
  if price.eq 0 then []
  else stakes.map (fun stake =>
    treasureRecord ctx timestamp wallet price (toDecimal stake treasureStakedLpDecimals))

/-- The deposits of a wallet on the chain that have something in them. -/
def openDeposits (chainId : ChainId) (store : StakingStore) (wallet : String) :
    List TreasureDeposit :=
  (depositsOf store wallet).filter (fun deposit => deposit.chainId = chainId ∧ deposit.amount ≠ 0)

theorem fromCache_pushTreasureDeposits {wallet : String} {deposits : List TreasureDeposit}
    {rate : Option BigNumber} (hrate : HoldsRate cached magicTokenAddress rate)
    {records : List SerializedTokenRecord} {pushed : Option BigNumber × List SerializedTokenRecord}
    (h : (pushTreasureDeposits ctx timestamp wallet deposits rate records).fromCache ledger cached =
      some (.ok pushed)) :
    HoldsRate cached magicTokenAddress pushed.1 ∧
      pushed.2 = records ++ treasureRows ctx timestamp (topPrice cached magicTokenAddress) wallet
        ((deposits.filter (fun deposit =>
          deposit.chainId = ctx.config.chainId ∧ deposit.amount ≠ 0)).map (·.amount)) := by
  induction deposits generalizing rate records with
  | nil =>
      rw [pushTreasureDeposits, Prog.fromCache_ret, Option.some.injEq, Except.ok.injEq] at h
      subst h
      simp [treasureRows, hrate]
  | cons deposit rest ih =>
      rw [pushTreasureDeposits] at h
      by_cases hchain : deposit.chainId = ctx.config.chainId
      · rw [if_neg (not_not.mpr hchain)] at h
        by_cases hamount : deposit.amount = 0
        · rw [if_pos hamount] at h
          simpa [List.filter_cons, hamount] using ih hrate h
        · rw [if_neg hamount] at h
          obtain ⟨value, hvalue, h⟩ := Prog.fromCache_bind_ok_iff.mp h
          obtain rfl := hrate.of_rateOnce hvalue
          by_cases hzero : (topPrice cached magicTokenAddress).eq 0 = true
          · rw [if_pos hzero, Prog.fromCache_ret, Option.some.injEq, Except.ok.injEq] at h
            subst h
            exact ⟨holdsRate_topPrice magicTokenAddress, by simp [treasureRows, hzero]⟩
          · rw [if_neg hzero] at h
            simpa [treasureRows, hzero, List.filter_cons, hchain, hamount] using
              ih (holdsRate_topPrice magicTokenAddress) h
      · rw [if_pos hchain] at h
        simpa [List.filter_cons, hchain] using ih hrate h

theorem fromCache_pushTreasureWallets {wallets : List String} {rate : Option BigNumber}
    (hrate : HoldsRate cached magicTokenAddress rate) {records records' : List SerializedTokenRecord}
    (h : (pushTreasureWallets ctx store timestamp wallets rate records).fromCache ledger cached =
      some (.ok records')) :
    records' = records ++ wallets.flatMap (fun wallet =>
      treasureRows ctx timestamp (topPrice cached magicTokenAddress) wallet
        ((openDeposits ctx.config.chainId store wallet).map (·.amount))) := by
  induction wallets generalizing rate records with
  | nil =>
      rw [pushTreasureWallets, Prog.fromCache_ret, Option.some.injEq, Except.ok.injEq] at h
      simp [h]
  | cons wallet rest ih =>
      rw [pushTreasureWallets] at h
      obtain ⟨pushed, hpushed, h⟩ := Prog.fromCache_bind_ok_iff.mp h
      obtain ⟨hrate', hrows⟩ := fromCache_pushTreasureDeposits hrate hpushed
      rw [ih hrate' h, hrows, List.append_assoc, List.flatMap_cons]
      rfl

/-! ### The rows of a run -/

/-- The rows of the staked JONES at the prices of a cache. -/
def jonesRows (ctx : PricingContext) (timestamp : ℕ) (cached : PricingKey → Option PricingValue)
    (jones : String → ℤ) : List SerializedTokenRecord :=
  if hasActiveToken ctx jonesTokenAddress then
    ctx.config.protocolAddresses.filterMap
      (jonesRow ctx timestamp (topPrice cached jonesTokenAddress) jones)
  else []

/-- The rows of the deposits of MAGIC at the prices of a cache. -/
def magicRows (ctx : PricingContext) (timestamp : ℕ) (cached : PricingKey → Option PricingValue)
    (magic : String → ℕ → ℤ) (opened : String → List ℕ) : List SerializedTokenRecord :=
  if hasActiveToken ctx magicTokenAddress then
    ctx.config.protocolAddresses.flatMap (fun wallet =>
      treasureRows ctx timestamp (topPrice cached magicTokenAddress) wallet
        ((opened wallet).map (magic wallet)))
  else []

/-- What the staking events of a run have left to be recorded on a chain: the JONES of each wallet,
the MAGIC of each deposit, and the deposits that have something in them. -/
structure HoldsStakes (logs : List StakingLog) (chainId : ChainId) (jones : String → ℤ)
    (magic : String → ℕ → ℤ) (opened : String → List ℕ) : Prop where
  isStake_jones : ∀ wallet,
    IsStake (jonesDeltas logs ⟨chainId, jonesStakedPoolId, wallet⟩) (jones wallet)
  isStake_magic : ∀ wallet index,
    IsStake (treasureDeltas logs ⟨chainId, wallet, index⟩) (magic wallet index)
  nodup : ∀ wallet, (opened wallet).Nodup
  mem_iff : ∀ wallet index, index ∈ opened wallet ↔ magic wallet index ≠ 0

theorem mem_openDeposits {chainId : ChainId} {wallet : String} {deposit : TreasureDeposit} :
    deposit ∈ openDeposits chainId store wallet ↔
      deposit ∈ store.treasureDeposit.rows ∧
        deposit.id = ⟨chainId, wallet, deposit.depositId⟩ ∧ deposit.amount ≠ 0 := by
  simp only [openDeposits, depositsOf, List.mem_filter, decide_eq_true_eq, TreasureDeposit.id,
    TreasureDepositId.mk.injEq, and_true]
  tauto

theorem treasureAmount_of_open {chainId : ChainId} {wallet : String} {deposit : TreasureDeposit}
    (h : deposit ∈ openDeposits chainId store wallet) :
    store.treasureAmount ⟨chainId, wallet, deposit.depositId⟩ = deposit.amount := by
  obtain ⟨hmem, hid, -⟩ := mem_openDeposits.mp h
  rw [StakingStore.treasureAmount, EntityTable.get_eq_some_iff.mpr ⟨hmem, hid⟩]
  rfl

/-- Every deposit with something in it is found once. -/
theorem nodup_openDeposits (store : StakingStore) (chainId : ChainId) (wallet : String) :
    ((openDeposits chainId store wallet).map (·.depositId)).Nodup := by
  have hrows : (openDeposits chainId store wallet).Nodup :=
    ((List.Nodup.of_map _ store.treasureDeposit.nodup_ids).filter _).filter _
  refine (List.nodup_map_iff_inj_on hrows).mpr (fun deposit hdeposit other hother hindex => ?_)
  obtain ⟨hmem, hid, -⟩ := mem_openDeposits.mp hdeposit
  obtain ⟨hmem', hid', -⟩ := mem_openDeposits.mp hother
  exact EntityTable.eq_of_mem_of_id_eq hmem hmem' (by rw [hid, hid', hindex])

theorem mem_depositIds_iff {chainId : ChainId} {wallet : String} {index : ℕ} :
    index ∈ (openDeposits chainId store wallet).map (·.depositId) ↔
      store.treasureAmount ⟨chainId, wallet, index⟩ ≠ 0 := by
  constructor
  · intro h
    obtain ⟨deposit, hdeposit, rfl⟩ := List.mem_map.mp h
    rw [treasureAmount_of_open hdeposit]
    exact (mem_openDeposits.mp hdeposit).2.2
  · intro h
    cases hget : store.treasureDeposit.get ⟨chainId, wallet, index⟩ with
    | none =>
        rw [StakingStore.treasureAmount, hget] at h
        exact absurd rfl h
    | some deposit =>
        obtain ⟨hmem, hid⟩ := EntityTable.get_eq_some_iff.mp hget
        obtain rfl : deposit.depositId = index := congrArg TreasureDepositId.depositId hid
        rw [StakingStore.treasureAmount, hget] at h
        exact List.mem_map.mpr ⟨deposit, mem_openDeposits.mpr ⟨hmem, hid, h⟩, rfl⟩

theorem holdsStakes_process (logs : List StakingLog) (chainId : ChainId) :
    HoldsStakes logs chainId
      (fun wallet => (process logs).jonesAmount ⟨chainId, jonesStakedPoolId, wallet⟩)
      (fun wallet index => (process logs).treasureAmount ⟨chainId, wallet, index⟩)
      (fun wallet => (openDeposits chainId (process logs) wallet).map (·.depositId)) where
  isStake_jones _ := (stakes_of_run logs).1 _
  isStake_magic _ _ := (stakes_of_run logs).2 _
  nodup wallet := nodup_openDeposits (process logs) chainId wallet
  mem_iff _ _ := mem_depositIds_iff

theorem fromCache_pushArbitrumStakingRecords {records records' : List SerializedTokenRecord}
    (h : (pushArbitrumStakingRecords ctx store timestamp records).fromCache ledger cached =
      some (.ok records')) :
    records' = records ++
      jonesRows ctx timestamp cached
        (fun wallet => store.jonesAmount ⟨ctx.config.chainId, jonesStakedPoolId, wallet⟩) ++
      magicRows ctx timestamp cached
        (fun wallet index => store.treasureAmount ⟨ctx.config.chainId, wallet, index⟩)
        (fun wallet => (openDeposits ctx.config.chainId store wallet).map (·.depositId)) := by
  have hdeposits (wallet : String) :
      ((openDeposits ctx.config.chainId store wallet).map (·.depositId)).map
          (fun index => store.treasureAmount ⟨ctx.config.chainId, wallet, index⟩) =
        (openDeposits ctx.config.chainId store wallet).map (·.amount) := by
    rw [List.map_map]
    exact List.map_congr_left (fun deposit hdeposit => treasureAmount_of_open hdeposit)
  obtain ⟨middle, hjones, hmagic⟩ := Prog.fromCache_bind_ok_iff.mp h
  have hmiddle : middle = records ++ jonesRows ctx timestamp cached
      (fun wallet => store.jonesAmount ⟨ctx.config.chainId, jonesStakedPoolId, wallet⟩) := by
    unfold pushJonesStakingRecords at hjones
    unfold jonesRows
    split at hjones
    · next hactive =>
        rw [if_pos hactive]
        exact fromCache_pushJonesWallets (holdsRate_none jonesTokenAddress) hjones
    · next hinactive =>
        rw [Prog.fromCache_ret, Option.some.injEq, Except.ok.injEq] at hjones
        rw [if_neg hinactive, List.append_nil, hjones]
  rw [← hmiddle]
  unfold pushTreasureStakingRecords at hmagic
  unfold magicRows
  split at hmagic
  · next hactive =>
      rw [if_pos hactive, fromCache_pushTreasureWallets (holdsRate_none magicTokenAddress) hmagic]
      simp only [hdeposits]
  · next hinactive =>
      rw [Prog.fromCache_ret, Option.some.injEq, Except.ok.injEq] at hmagic
      rw [if_neg hinactive, List.append_nil, hmagic]

/-! ### What the rows count for -/

theorem mem_treasureRows {price : BigNumber} {wallet : String} {stakes : List ℤ}
    {record : SerializedTokenRecord} (h : record ∈ treasureRows ctx timestamp price wallet stakes) :
    ∃ stake, record = treasureRecord ctx timestamp wallet price
      (toDecimal stake treasureStakedLpDecimals) := by
  unfold treasureRows at h
  split at h
  · exact absurd h List.not_mem_nil
  · obtain ⟨stake, -, rfl⟩ := List.mem_map.mp h
    exact ⟨stake, rfl⟩

/-- Staked MAGIC is no part of the liquid backing. -/
theorem liquidBacking_magicRows {magic : String → ℕ → ℤ} {opened : String → List ℕ}
    {record : SerializedTokenRecord} (h : record ∈ magicRows ctx timestamp cached magic opened) :
    recordShare .treasuryLiquidBacking record = 0 := by
  unfold magicRows at h
  split at h
  · obtain ⟨wallet, -, hrecord⟩ := List.mem_flatMap.mp h
    obtain ⟨stake, rfl⟩ := mem_treasureRows hrecord
    simp [recordShare, treasureRecord]
  · exact absurd h List.not_mem_nil

/-- Staked JONES is no part of the liquid backing once it is written off. -/
theorem liquidBacking_jonesRows (hblock : jonesWriteOffBlock ≤ ctx.blockNumber)
    {jones : String → ℤ} {record : SerializedTokenRecord}
    (h : record ∈ jonesRows ctx timestamp cached jones) :
    recordShare .treasuryLiquidBacking record = 0 := by
  unfold jonesRows at h
  split at h
  · obtain ⟨wallet, -, hrecord⟩ := List.mem_filterMap.mp h
    unfold jonesRow at hrecord
    split at hrecord
    · cases hrecord
    · obtain rfl := Option.some.inj hrecord
      simp [recordShare, jonesRecord, hblock]
  · exact absurd h List.not_mem_nil

/-- The rows of deposits have one id for each name of a wallet, so that of several deposits only one is
stored. -/
theorem id_magicRows {magic : String → ℕ → ℤ} {opened : String → List ℕ}
    {record record' : SerializedTokenRecord}
    (h : record ∈ magicRows ctx timestamp cached magic opened)
    (h' : record' ∈ magicRows ctx timestamp cached magic opened)
    (hsource : record.source = record'.source) : record.id = record'.id := by
  unfold magicRows at h h'
  split at h
  · next hactive =>
      rw [if_pos hactive] at h'
      obtain ⟨wallet, -, hrecord⟩ := List.mem_flatMap.mp h
      obtain ⟨wallet', -, hrecord'⟩ := List.mem_flatMap.mp h'
      obtain ⟨stake, rfl⟩ := mem_treasureRows hrecord
      obtain ⟨stake', rfl⟩ := mem_treasureRows hrecord'
      have hname : getContractName ctx.config wallet = getContractName ctx.config wallet' := hsource
      simp only [treasureRecord, createTokenRecord, hname]
  · exact absurd h List.not_mem_nil

/-- A snapshot adds the stakes that the events have left, each at its token's price. None of the MAGIC
counts for the liquid backing, and the JONES only until it is written off. -/
theorem stakingRecords_of_run (logs : List StakingLog) {fuel : ℕ}
    {records records' : List SerializedTokenRecord} {s s' : PricingSession}
    (hrun : (pushArbitrumStakingRecords ctx (process logs) timestamp records).run ledger
      ((pricingService ctx ledger).look fuel []) s = some (.ok records', s')) :
    ∃ jones magic opened, HoldsStakes logs ctx.config.chainId jones magic opened ∧
      records' = records ++ jonesRows ctx timestamp s'.cached jones ++
        magicRows ctx timestamp s'.cached magic opened ∧
      (∀ record ∈ magicRows ctx timestamp s'.cached magic opened,
        recordShare .treasuryLiquidBacking record = 0) ∧
      (jonesWriteOffBlock ≤ ctx.blockNumber →
        ∀ record ∈ jonesRows ctx timestamp s'.cached jones,
          recordShare .treasuryLiquidBacking record = 0) ∧
      ∀ record ∈ magicRows ctx timestamp s'.cached magic opened,
        ∀ record' ∈ magicRows ctx timestamp s'.cached magic opened,
          record.source = record'.source → record.id = record'.id := by
  have hcache := fromCache_of_run_top (pricingService ctx ledger) hrun
  refine ⟨_, _, _, holdsStakes_process logs ctx.config.chainId,
    fromCache_pushArbitrumStakingRecords hcache, ?_, ?_, ?_⟩
  · exact fun record => liquidBacking_magicRows
  · exact fun hblock record => liquidBacking_jonesRows hblock
  · exact fun record hrecord record' => id_magicRows hrecord

end rows

/-! ### A wallet on Arbitrum -/

/-- The JONES is written off at the block of the snapshot. -/
def stakingContext : PricingContext where
  config := chainConfigs .arbitrum
  blockNumber := jonesWriteOffBlock
  view :=
    { triangleView with
      univ2PoolState := fun id =>
        if id = Chains.Arbitrum.lpUniswapV2JonesWeth ∨ id = Chains.Arbitrum.lpUniswapV2MagicWeth then
          some { reserve0 := 4000 * 10 ^ 18, reserve1 := 2 * 10 ^ 18 }
        else none
      readChainlinkLatestAnswer := fun _ => .ok (2000 * 10 ^ 8) }

/-- An event of the wallet of the treasury. -/
def walletEvent (block : ℕ) (event : StakingEvent) : StakingLog where
  chainId := .arbitrum
  user := Chains.Arbitrum.crossChainArbitrum
  block := block
  event := event

/-- Two of three deposits are still open, and one was taken out with more than was in it. Another
user stakes too. -/
def stakingLogs : List StakingLog :=
  [walletEvent 20000000 (.jonesDeposit 0 (1000 * 10 ^ 18)),
   { walletEvent 20000001 (.jonesDeposit 0 (500 * 10 ^ 18)) with
     user := "0x000000000000000000000000000000000000dead" },
   walletEvent 20000002 (.treasureDeposit 1 (20 * 10 ^ 18)),
   walletEvent 20000003 (.treasureDeposit 2 (30 * 10 ^ 18)),
   walletEvent 20000004 (.treasureWithdraw 1 (25 * 10 ^ 18)),
   walletEvent 20000005 (.jonesWithdraw 0 (400 * 10 ^ 18)),
   walletEvent 20000006 (.treasureDeposit 3 (7 * 10 ^ 18))]

def stakingRows : List SerializedTokenRecord :=
  [jonesRecord stakingContext 0 Chains.Arbitrum.crossChainArbitrum 1 (.finite 600),
   treasureRecord stakingContext 0 Chains.Arbitrum.crossChainArbitrum 1 (.finite 30),
   treasureRecord stakingContext 0 Chains.Arbitrum.crossChainArbitrum 1 (.finite 7)]

theorem stakingRecords_of_run_arbitrum : ∃ s' : PricingSession, ∃ jones magic opened,
    HoldsStakes stakingLogs .arbitrum jones magic opened ∧
      stakingRows = [] ++ jonesRows stakingContext 0 s'.cached jones ++
        magicRows stakingContext 0 s'.cached magic opened ∧
      (∀ record ∈ magicRows stakingContext 0 s'.cached magic opened,
        recordShare .treasuryLiquidBacking record = 0) ∧
      (jonesWriteOffBlock ≤ stakingContext.blockNumber →
        ∀ record ∈ jonesRows stakingContext 0 s'.cached jones,
          recordShare .treasuryLiquidBacking record = 0) ∧
      ∀ record ∈ magicRows stakingContext 0 s'.cached magic opened,
        ∀ record' ∈ magicRows stakingContext 0 s'.cached magic opened,
          record.source = record'.source → record.id = record'.id := by
  have hrows : ((pushArbitrumStakingRecords stakingContext (process stakingLogs) 0 []).run
      (fun _ => none) ((pricingService stakingContext (fun _ => none)).look 6 []) .fresh).map (·.1) =
        some (.ok stakingRows) := by
    decide +kernel
  obtain ⟨⟨result, s'⟩, hrun, rfl⟩ := Option.map_eq_some_iff.mp hrows
  exact ⟨s', stakingRecords_of_run stakingLogs hrun⟩

end OlympusMetrics.Pricing
