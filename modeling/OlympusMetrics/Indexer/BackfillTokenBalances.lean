import OlympusMetrics.Indexer.Erc20Transfers

/-!
The one-shot backfill: adds to the ledger what treasury wallets held just before
the start block of their chain.
-/

namespace OlympusMetrics

/-- `BACKFILL_CHAINS`. -/
def backfillChains : List (ChainId × ℕ) :=
  [(.ethereum, 12000000), (.polygon, 23000000), (.fantom, 37320000), (.base, 13204827),
   (.arbitrum, 10950000), (.berachain, 799194)]

/-- `NATIVE_TOKEN`. -/
def nativeToken : String := "0x0000000000000000000000000000000000000000"

/-- The effects that a backfill reads: `balanceOf` of a token and wallet at a block, and the
timestamp of a block. -/
structure BackfillEffects where
  readErc20BalanceOf : String → String → ℕ → ℤ
  readBlockTimestamp : ℕ → ℕ

/-- The loop state of a backfill. -/
structure BackfillProgress where
  ledger : Ledger
  seeded : ℕ
  skipped : ℕ

/-- One iteration of the wallet loop. -/
def seedWallet (effects : BackfillEffects) (chainId : ChainId) (readAtBlock firedAtBlock : ℕ)
    (token : String) (progress : BackfillProgress) (wallet : String) : BackfillProgress :=
  let seed := effects.readErc20BalanceOf token wallet readAtBlock
  if seed = 0 then { progress with skipped := progress.skipped + 1 }
  else
    let ledger := progress.ledger
    let newBalance := ledger.balance chainId token wallet + seed
    { progress with
      ledger :=
        { ledger with
          tokenBalanceUpdate := ledger.tokenBalanceUpdate.set
            { id := (⟨chainId, token, wallet⟩, .backfill)
              chainId := chainId
              tokenAddress := token
              walletAddress := wallet
              delta := seed
              balance := newBalance
              block := firedAtBlock
              timestamp := effects.readBlockTimestamp firedAtBlock }
          tokenBalance := ledger.tokenBalance.set
            { chainId := chainId
              tokenAddress := token
              walletAddress := wallet
              balance := newBalance
              updatedAtBlock := firedAtBlock } }
      seeded := progress.seeded + 1 }

/-- One iteration of the token loop: native tokens and tokens not yet active are skipped. -/
def seedToken (effects : BackfillEffects) (chainId : ChainId) (readAtBlock firedAtBlock : ℕ)
    (progress : BackfillProgress) (definition : TokenDefinition) : BackfillProgress :=
  if definition.address = nativeToken then { progress with skipped := progress.skipped + 1 }
  else if isActive definition.startBlock readAtBlock = false then
    { progress with skipped := progress.skipped + 1 }
  else
    (chainConfigs chainId).protocolAddresses.foldl
      (seedWallet effects chainId readAtBlock firedAtBlock definition.address) progress

/-- `readAtBlock` of a start block. -/
def backfillReadAtBlock (startBlock : ℕ) : ℕ :=
  if 0 < startBlock then startBlock - 1 else startBlock

/-- `runBackfill`. -/
def runBackfill (effects : BackfillEffects) (chainId : ChainId) (block : ℕ) (ledger : Ledger) :
    Except String BackfillProgress :=
  match backfillChains.lookup chainId with
  | none => .error s!"BackfillTokenBalances: unsupported chain {chainId.number}"
  | some startBlock =>
      if block < startBlock then
        .error (s!"BackfillTokenBalances on chain {chainId.number} fired before startBlock: " ++
          s!"{block} < {startBlock}")
      else
        let readAtBlock := backfillReadAtBlock startBlock
        let progress := (chainConfigs chainId).tokens.foldl
          (seedToken effects chainId readAtBlock block) ⟨ledger, 0, 0⟩
        .ok { progress with
          ledger :=
            { progress.ledger with
              backfillSentinel := progress.ledger.backfillSentinel.set
                { chainId := chainId
                  seededAtBlock := readAtBlock
                  firedAtBlock := block
                  seeded := progress.seeded
                  skipped := progress.skipped } } }

/-- The `BackfillTokenBalances` block handler: nothing once a sentinel is stored. -/
def onBackfillBlock (effects : BackfillEffects) (chainId : ChainId) (block : ℕ)
    (ledger : Ledger) : Except String Ledger :=
  match ledger.backfillSentinel.get chainId with
  | some _ => .ok ledger
  | none => (runBackfill effects chainId block ledger).map (·.ledger)

/-! ### What a backfill adds -/

/-- The first block of the backfill's chain. -/
def backfillStartBlock (chainId : ChainId) : ℕ := (backfillChains.lookup chainId).getD 0

/-- The backfill does not skip the token. -/
def TokenDefinition.isSeeded (readAtBlock : ℕ) (definition : TokenDefinition) : Bool :=
  definition.address != nativeToken && isActive definition.startBlock readAtBlock

/-- The addresses of the tokens of a list that a backfill reads. -/
def seededAmong (readAtBlock : ℕ) (tokens : List TokenDefinition) : List String :=
  (tokens.filter (·.isSeeded readAtBlock)).map (·.address)

/-- The configured tokens that the backfill of a chain reads. -/
def seededTokens (chainId : ChainId) : List String :=
  seededAmong (backfillReadAtBlock (backfillStartBlock chainId)) (chainConfigs chainId).tokens

theorem seededAmong_subset (readAtBlock : ℕ) (tokens : List TokenDefinition) :
    seededAmong readAtBlock tokens ⊆ tokens.map (·.address) :=
  (List.filter_sublist.map _).subset

theorem seededAmong_cons (readAtBlock : ℕ) (definition : TokenDefinition)
    (tokens : List TokenDefinition) :
    seededAmong readAtBlock (definition :: tokens) =
      if definition.isSeeded readAtBlock then
        definition.address :: seededAmong readAtBlock tokens
      else seededAmong readAtBlock tokens := by
  rw [seededAmong, List.filter_cons]
  split <;> rfl

theorem balance_seedWallet (effects : BackfillEffects) (c : ChainId) (readAt firedAt : ℕ)
    (token wallet : String) (progress : BackfillProgress) (t w : String) :
    (seedWallet effects c readAt firedAt token progress wallet).ledger.balance c t w =
      progress.ledger.balance c t w +
        if t = token ∧ w = wallet then effects.readErc20BalanceOf token wallet readAt else 0 := by
  unfold seedWallet
  by_cases hseed : effects.readErc20BalanceOf token wallet readAt = 0
  · simp [hseed]
  · rw [if_neg hseed]
    unfold Ledger.balance
    rw [EntityTable.get_set]
    by_cases h : t = token ∧ w = wallet
    · obtain ⟨rfl, rfl⟩ := h
      simp [TokenBalance.id]
    · have hne : (⟨c, t, w⟩ : TokenBalanceId) ≠ ⟨c, token, wallet⟩ := by
        simpa [TokenBalanceId.mk.injEq] using h
      rw [if_neg (by simpa [TokenBalance.id] using hne), if_neg h, add_zero]

theorem balance_foldl_seedWallet (effects : BackfillEffects) (c : ChainId) (readAt firedAt : ℕ)
    (token : String) (wallets : List String) (hnodup : wallets.Nodup)
    (progress : BackfillProgress) (t w : String) :
    (wallets.foldl (seedWallet effects c readAt firedAt token) progress).ledger.balance c t w =
      progress.ledger.balance c t w +
        if t = token ∧ w ∈ wallets then effects.readErc20BalanceOf token w readAt else 0 := by
  induction wallets generalizing progress with
  | nil => simp
  | cons wallet wallets ih =>
      rw [List.nodup_cons] at hnodup
      rw [List.foldl_cons, ih hnodup.2, balance_seedWallet]
      grind

theorem balance_seedToken (effects : BackfillEffects) (c : ChainId) (readAt firedAt : ℕ)
    (hnodup : (chainConfigs c).protocolAddresses.Nodup) (progress : BackfillProgress)
    (definition : TokenDefinition) (t w : String) :
    (seedToken effects c readAt firedAt progress definition).ledger.balance c t w =
      progress.ledger.balance c t w +
        if definition.isSeeded readAt = true ∧ t = definition.address ∧
            w ∈ (chainConfigs c).protocolAddresses
        then effects.readErc20BalanceOf t w readAt else 0 := by
  unfold seedToken
  by_cases hnative : definition.address = nativeToken
  · simp [TokenDefinition.isSeeded, hnative]
  · rw [if_neg hnative]
    cases hactive : isActive definition.startBlock readAt with
    | false => simp [TokenDefinition.isSeeded, hactive]
    | true =>
        have hseeded : definition.isSeeded readAt = true := by
          simp [TokenDefinition.isSeeded, hnative, hactive]
        rw [if_neg (by simp), balance_foldl_seedWallet _ _ _ _ _ _ hnodup]
        grind

theorem balance_foldl_seedToken (effects : BackfillEffects) (c : ChainId) (readAt firedAt : ℕ)
    (hnodup : (chainConfigs c).protocolAddresses.Nodup) (tokens : List TokenDefinition)
    (htokens : (tokens.map (·.address)).Nodup) (progress : BackfillProgress) (t w : String) :
    (tokens.foldl (seedToken effects c readAt firedAt) progress).ledger.balance c t w =
      progress.ledger.balance c t w +
        if t ∈ seededAmong readAt tokens ∧ w ∈ (chainConfigs c).protocolAddresses
        then effects.readErc20BalanceOf t w readAt else 0 := by
  induction tokens generalizing progress with
  | nil => simp [seededAmong]
  | cons definition tokens ih =>
      rw [List.map_cons, List.nodup_cons] at htokens
      rw [List.foldl_cons, ih htokens.2, balance_seedToken _ _ _ _ hnodup, seededAmong_cons]
      have hrest : definition.address ∉ seededAmong readAt tokens :=
        fun hmem => htokens.1 (seededAmong_subset readAt tokens hmem)
      grind

/-! ### The shipped chains -/

theorem nodup_protocolAddresses (c : ChainId) : (chainConfigs c).protocolAddresses.Nodup := by
  cases c <;> decide

set_option maxRecDepth 4000 in
theorem nodup_tokenAddresses (c : ChainId) :
    ((chainConfigs c).tokens.map (·.address)).Nodup := by
  cases c <;> decide

theorem zeroAddress_not_mem_treasuryWallets (c : ChainId) :
    zeroAddress ∉ treasuryWalletsForChain c := by
  cases c <;> decide

theorem lookup_backfillChains (c : ChainId) :
    backfillChains.lookup c = some (backfillStartBlock c) := by
  cases c <;> rfl

/-- What the block handler adds to the stored balances: the seeds, unless it ran before. -/
theorem balance_onBackfillBlock {effects : BackfillEffects} {c : ChainId} {block : ℕ}
    {ledger ledger' : Ledger} (h : onBackfillBlock effects c block ledger = .ok ledger')
    (t w : String) :
    ledger'.balance c t w = ledger.balance c t w +
      if (ledger.backfillSentinel.get c).isNone ∧ t ∈ seededTokens c ∧
          w ∈ treasuryWalletsForChain c
      then effects.readErc20BalanceOf t w (backfillReadAtBlock (backfillStartBlock c)) else 0 := by
  unfold onBackfillBlock at h
  cases hsentinel : ledger.backfillSentinel.get c with
  | some sentinel =>
      rw [hsentinel] at h
      obtain rfl := Except.ok.inj h
      simp
  | none =>
      rw [hsentinel, runBackfill, lookup_backfillChains] at h
      by_cases hblock : block < backfillStartBlock c
      · simp [hblock, Except.map] at h
      · simp only [if_neg hblock, Except.map, Except.ok.injEq] at h
        subst h
        have hseeds := balance_foldl_seedToken effects c
          (backfillReadAtBlock (backfillStartBlock c)) block (nodup_protocolAddresses c)
          (chainConfigs c).tokens (nodup_tokenAddresses c) ⟨ledger, 0, 0⟩ t w
        simpa [Ledger.balance, seededTokens, treasuryWalletsForChain] using hseeds

theorem totalSupply_seedToken (effects : BackfillEffects) (c : ChainId) (readAt firedAt : ℕ)
    (progress : BackfillProgress) (definition : TokenDefinition) :
    (seedToken effects c readAt firedAt progress definition).ledger.erc20Supply =
      progress.ledger.erc20Supply := by
  unfold seedToken
  split
  · rfl
  · split
    · rfl
    · generalize (chainConfigs c).protocolAddresses = wallets
      induction wallets generalizing progress with
      | nil => rfl
      | cons wallet wallets ih =>
          rw [List.foldl_cons, ih, seedWallet]
          split <;> rfl

/-- A backfill stores no supply. -/
theorem totalSupply_onBackfillBlock {effects : BackfillEffects} {c : ChainId} {block : ℕ}
    {ledger ledger' : Ledger} (h : onBackfillBlock effects c block ledger = .ok ledger')
    (c' : ChainId) (t : String) : ledger'.totalSupply c' t = ledger.totalSupply c' t := by
  have hfold (tokens : List TokenDefinition) (progress : BackfillProgress) :
      (tokens.foldl (seedToken effects c (backfillReadAtBlock (backfillStartBlock c)) block)
        progress).ledger.erc20Supply = progress.ledger.erc20Supply := by
    induction tokens generalizing progress with
    | nil => rfl
    | cons definition tokens ih => rw [List.foldl_cons, ih, totalSupply_seedToken]
  unfold onBackfillBlock at h
  cases hsentinel : ledger.backfillSentinel.get c with
  | some sentinel =>
      rw [hsentinel] at h
      obtain rfl := Except.ok.inj h
      rfl
  | none =>
      rw [hsentinel, runBackfill, lookup_backfillChains] at h
      by_cases hblock : block < backfillStartBlock c
      · simp [hblock, Except.map] at h
      · simp only [if_neg hblock, Except.map, Except.ok.injEq] at h
        subst h
        simp only [Ledger.totalSupply, hfold]

/-- Once the block handler has run, the sentinel is stored. -/
theorem isSome_backfillSentinel {effects : BackfillEffects} {c : ChainId} {block : ℕ}
    {ledger ledger' : Ledger} (h : onBackfillBlock effects c block ledger = .ok ledger') :
    (ledger'.backfillSentinel.get c).isSome := by
  unfold onBackfillBlock at h
  cases hsentinel : ledger.backfillSentinel.get c with
  | some sentinel =>
      rw [hsentinel] at h
      obtain rfl := Except.ok.inj h
      simp [hsentinel]
  | none =>
      rw [hsentinel, runBackfill, lookup_backfillChains] at h
      by_cases hblock : block < backfillStartBlock c
      · simp [hblock, Except.map] at h
      · simp only [if_neg hblock, Except.map, Except.ok.injEq] at h
        subst h
        simp [EntityTable.get_set]

/-- From the start block on the block handler succeeds. -/
theorem onBackfillBlock_isOk (effects : BackfillEffects) {c : ChainId} {block : ℕ}
    (hblock : backfillStartBlock c ≤ block) (ledger : Ledger) :
    ∃ ledger', onBackfillBlock effects c block ledger = .ok ledger' := by
  unfold onBackfillBlock
  cases hsentinel : ledger.backfillSentinel.get c with
  | some sentinel => exact ⟨ledger, rfl⟩
  | none =>
      rw [runBackfill, lookup_backfillChains]
      simp only [if_neg (Nat.not_lt.mpr hblock), Except.map]
      exact ⟨_, rfl⟩

end OlympusMetrics
