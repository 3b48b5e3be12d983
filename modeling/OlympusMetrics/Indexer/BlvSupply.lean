import OlympusMetrics.Chains.Ethereum
import OlympusMetrics.Indexer.Aggregation
import OlympusMetrics.Indexer.Effects
import OlympusMetrics.Library.HalfUp

/-!
The supply rows of the boosted liquidity vaults, from what is read of their
registry.

When reads fail, rows are missing, and the supplies of the chain that count
vaults come out higher by the OHM of the missed ones.
-/

namespace OlympusMetrics

open BigNumber Effects RpcClient RowSums

/-- Dividing by a power of ten is exact within the decimal places. -/
theorem toDecimal_eq_finite (n : ℤ) {decimals : ℕ} (h : decimals ≤ decimalPlaces) :
    toDecimal n decimals = .finite (n / 10 ^ decimals) := by
  have hten : (10 : ℚ) ^ decimals ≠ 0 := by positivity
  have hplaces : ((n : ℚ) / 10 ^ decimals) * 10 ^ decimalPlaces =
      ((n * 10 ^ (decimalPlaces - decimals) : ℤ) : ℚ) := by
    rw [div_mul_eq_mul_div, div_eq_iff hten]
    push_cast
    rw [mul_assoc, ← pow_add, Nat.sub_add_cancel h]
  simp only [toDecimal, ofInt, BigNumber.div, if_neg hten]
  rw [roundHalfUp_eq_self hplaces]

/-! ### The rows -/

/-- `BLV_OHM_DECIMALS`. -/
def blvOhmDecimals : ℕ := 9

section

variable (getAddress : String → Except RpcError String) (config : ChainConfig)
  (timestamp blockNumber : ℕ)

/-- The row of a vault; a vault without OHM has none. -/
def blvRow (vault : String) (raw : ℕ) : Option SerializedTokenSupply :=
  if raw = 0 then none
  else
    let balance := toDecimal raw blvOhmDecimals
    if balance.eq 0 then none
    else
      some (createTokenSupply config timestamp (getContractName config config.ohmToken)
        config.ohmToken none none (some vault) (some vault) typeBlv balance blockNumber (-1))

/-- The loop over a registry's snapshot; a vault without an entry in the other list is skipped. -/
def blvRows (entries : List (String × ℕ)) : List SerializedTokenSupply :=
  entries.filterMap (fun entry => blvRow config timestamp blockNumber entry.1 entry.2)

/-- `pushBlvSupply`. -/
def pushBlvSupply (supplies : List SerializedTokenSupply) : Effect (List SerializedTokenSupply) :=
  match config.blvRegistry with
  | none => .ret supplies
  | some registry =>
      if blockNumber < registry.startBlock then .ret supplies
      else
        (snapshotBlvRegistry getAddress config.chainId.number registry.address blockNumber).bind
          (fun snapshot => .ret (supplies ++ blvRows config timestamp blockNumber snapshot.rows))

end

section

variable {getAddress : String → Except RpcError String} {config : ChainConfig}
  {timestamp blockNumber : ℕ}

/-- The OHM of some vaults. -/
def vaultOhm (entries : List (String × ℕ)) : ℚ := (entries.map (·.2)).sum / 10 ^ blvOhmDecimals

theorem vaultOhm_cons (entry : String × ℕ) (entries : List (String × ℕ)) :
    vaultOhm (entry :: entries) = entry.2 / 10 ^ blvOhmDecimals + vaultOhm entries := by
  simp [vaultOhm, add_div]

theorem blvRow_eq (vault : String) (raw : ℕ) :
    blvRow config timestamp blockNumber vault raw =
      if raw = 0 then none
      else some (createTokenSupply config timestamp (getContractName config config.ohmToken)
        config.ohmToken none none (some vault) (some vault) typeBlv
        (.finite (raw / 10 ^ blvOhmDecimals)) blockNumber (-1)) := by
  unfold blvRow
  by_cases hraw : raw = 0
  · rw [if_pos hraw, if_pos hraw]
  · have hbalance : toDecimal raw blvOhmDecimals = .finite (raw / 10 ^ blvOhmDecimals) := by
      rw [toDecimal_eq_finite (raw : ℤ) (by decide), Int.cast_natCast]
    have hne : ((raw : ℚ) / 10 ^ blvOhmDecimals) ≠ 0 := by positivity
    have hnonzero : (BigNumber.finite (raw / 10 ^ blvOhmDecimals)).eq 0 = false := by
      rw [← Bool.not_eq_true, eq_zero_iff, zero_def]
      simpa using hne
    rw [if_neg hraw, if_neg hraw]
    simp only [hbalance, hnonzero, Bool.false_eq_true, if_false]

/-- The supply balance of a vault's row is its OHM, taken off. -/
theorem supplyBalance_blv (raw : ℕ) :
    (((BigNumber.finite (raw / 10 ^ blvOhmDecimals)).times (.ofInt (-1))).toString10) =
      .finite (-(raw / 10 ^ blvOhmDecimals)) := by
  have hplaces : (-((raw : ℚ) / 10 ^ blvOhmDecimals)) * 10 ^ decimalPlaces =
      ((-(raw * 10 ^ 11) : ℤ) : ℚ) := by
    rw [neg_mul, div_mul_eq_mul_div, blvOhmDecimals, decimalPlaces]
    push_cast
    ring
  simp only [ofInt, finite_times_finite, Int.cast_neg, Int.cast_one, mul_neg, mul_one, toString10]
  rw [roundHalfUp_eq_self hplaces]

/-- The rows of vaults count for the OHM in them, and only where vaults are counted. -/
theorem sumCounted_blvRows (types : List String) (entries : List (String × ℕ)) :
    sumCounted (·.type) types (·.supplyBalance) (blvRows config timestamp blockNumber entries) =
      .finite (if typeBlv ∈ types then -vaultOhm entries else 0) := by
  induction entries with
  | nil => simp [blvRows, sumCounted, vaultOhm, zero_def]
  | cons entry entries ih =>
      rw [vaultOhm_cons]
      by_cases hraw : entry.2 = 0
      · have hskip : blvRows config timestamp blockNumber (entry :: entries) =
            blvRows config timestamp blockNumber entries := by
          simp [blvRows, blvRow_eq, hraw]
        rw [hskip, ih, hraw]
        simp
      · have hpush : blvRows config timestamp blockNumber (entry :: entries) =
            createTokenSupply config timestamp (getContractName config config.ohmToken)
              config.ohmToken none none (some entry.1) (some entry.1) typeBlv
              (.finite (entry.2 / 10 ^ blvOhmDecimals)) blockNumber (-1) ::
                blvRows config timestamp blockNumber entries := by
          simp [blvRows, blvRow_eq, hraw]
        rw [hpush]
        change (if typeBlv ∈ types then ((BigNumber.finite (entry.2 / 10 ^ blvOhmDecimals)).times
          (.ofInt (-1))).toString10 else 0) + sumCounted (·.type) types (·.supplyBalance)
            (blvRows config timestamp blockNumber entries) = _
        rw [ih, supplyBalance_blv]
        split
        case isTrue => rw [add_def, finite_plus_finite, neg_add]
        case isFalse => rw [zero_add]

/-! ### Missed vaults -/

/-- The supplies of a chain, with the rows of some vaults among them, and the same without some of
these: what the missing rows would have taken off is left in. -/
theorem get_aggregate_of_missed (rows : ChainRows) (later : List SerializedTokenSupply)
    {out missed full : List (String × ℕ)} (hfull : full.Perm (out ++ missed))
    (field : SummedField) :
    (rows.withRows rows.records
        (rows.supplies ++ blvRows config timestamp blockNumber out ++ later)).aggregate.get field =
      (rows.withRows rows.records
        (rows.supplies ++ blvRows config timestamp blockNumber full ++ later)).aggregate.get field +
        .finite (if typeBlv ∈ rows.countedTypes field then vaultOhm missed else 0) := by
  have hrows : (blvRows config timestamp blockNumber full).Perm
      (blvRows config timestamp blockNumber out ++ blvRows config timestamp blockNumber missed) := by
    unfold blvRows
    rw [← List.filterMap_append]
    exact hfull.filterMap _
  let types := rows.countedTypes field
  let missedOhm : BigNumber := .finite (if typeBlv ∈ types then vaultOhm missed else 0)
  have hsum : sumCounted (·.type) types (·.supplyBalance)
      (blvRows config timestamp blockNumber full) + missedOhm =
        sumCounted (·.type) types (·.supplyBalance) (blvRows config timestamp blockNumber out) := by
    have hcancel : (BigNumber.finite (if typeBlv ∈ types then -vaultOhm missed else 0)) + missedOhm =
        0 := by
      rw [add_def, finite_plus_finite, zero_def]
      split <;> simp
    rw [sumCounted_perm _ _ _ hrows, sumCounted_append, sumCounted_blvRows types missed, add_assoc,
      hcancel, add_zero]
  rw [ChainRows.get_aggregate, ChainRows.get_aggregate]
  change (rows.records.map (recordShare field)).sum + sumCounted _ types _ _ =
    (rows.records.map (recordShare field)).sum + sumCounted _ types _ _ + missedOhm
  simp only [ChainRows.withRows, sumCounted_append, ← hsum]
  abel

/-- The vaults of a chain and their OHM shares, when every request has its answer. -/
def knownVaults (getAddress : String → Except RpcError String)
    (answer : (request : Request) → Except RpcError request.Reply) (config : ChainConfig)
    (blockNumber : ℕ) : List (String × ℕ) :=
  match config.blvRegistry with
  | none => []
  | some registry =>
      if blockNumber < registry.startBlock then []
      else
        ((snapshotBlvRegistry getAddress config.chainId.number registry.address blockNumber).eval
          answer).toOption.elim [] BlvSnapshot.rows

/-- The address of the registry is one that `getAddress` accepts. -/
def HasRegistry (getAddress : String → Except RpcError String) (config : ChainConfig) : Prop :=
  ∀ registry, config.blvRegistry = some registry →
    ∃ contract, getAddress registry.address = .ok contract

/-- What a run of `pushBlvSupply` adds while reads may fail: the rows of some of the vaults. -/
theorem degradesTo_pushBlvSupply {answer : (request : Request) → Except RpcError request.Reply}
    (hregistry : HasRegistry getAddress config) (supplies : List SerializedTokenSupply) :
    Process.DegradesTo answer
      (fun out full => full = supplies ++ blvRows config timestamp blockNumber
          (knownVaults getAddress answer config blockNumber) ∧
        ∃ read : List (String × ℕ),
          read.Sublist (knownVaults getAddress answer config blockNumber) ∧
          out = supplies ++ blvRows config timestamp blockNumber read)
      (pushBlvSupply getAddress config timestamp blockNumber supplies)
      (pushBlvSupply getAddress config timestamp blockNumber supplies) := by
  have hnone (known : List (String × ℕ)) (h : known = []) :
      supplies = supplies ++ blvRows config timestamp blockNumber known ∧
        ∃ read : List (String × ℕ), read.Sublist known ∧
          supplies = supplies ++ blvRows config timestamp blockNumber read := by
    subst h
    exact ⟨(List.append_nil _).symm, [], List.Sublist.refl _, (List.append_nil _).symm⟩
  unfold pushBlvSupply
  cases hconfig : config.blvRegistry with
  | none => exact Process.degradesTo_ret (hnone _ (by rw [knownVaults, hconfig]))
  | some registry =>
      by_cases hstart : blockNumber < registry.startBlock
      · simp only [hstart, ↓reduceIte]
        exact Process.degradesTo_ret (hnone _ (by rw [knownVaults, hconfig]; exact if_pos hstart))
      · simp only [hstart, ↓reduceIte]
        obtain ⟨contract, hcontract⟩ := hregistry registry hconfig
        have hsnapshot := @degradesTo_snapshotBlvRegistry answer getAddress config.chainId _ _
          hcontract blockNumber
        refine Process.degradesTo_bind hsnapshot.of_eval (fun out full ⟨h, hfull⟩ => ?_)
        have hknown : knownVaults getAddress answer config blockNumber = full.rows := by
          rw [knownVaults, hconfig]
          simp only [if_neg hstart, hfull]
          rfl
        rw [hknown]
        exact Process.degradesTo_ret ⟨rfl, out.rows, h.rows, rfl⟩

/-- When reads of the vaults fail, nothing else happens than that the rows of the missed vaults are
missing: each supply of the chain that counts vaults comes out higher by the OHM of these, whatever
else the snapshot adds, and every other field is as it would be. -/
theorem supplies_of_missed_vaults {answer : (request : Request) → Except RpcError request.Reply}
    (hregistry : HasRegistry getAddress config) (rows : ChainRows)
    {r : Except RpcError (List SerializedTokenSupply)}
    (hrun : Process.Runs (Unreliable answer)
      (withRetries (pushBlvSupply getAddress config timestamp blockNumber rows.supplies)) ()
      (some r) ()) :
    let full := rows.supplies ++ blvRows config timestamp blockNumber
      (knownVaults getAddress answer config blockNumber)
    ∃ read missed : List (String × ℕ),
      (knownVaults getAddress answer config blockNumber).Perm (read ++ missed) ∧
      r = .ok (rows.supplies ++ blvRows config timestamp blockNumber read) ∧
      (pushBlvSupply getAddress config timestamp blockNumber rows.supplies).eval answer = .ok full ∧
      ∀ later field,
        (rows.withRows rows.records (rows.supplies ++ blvRows config timestamp blockNumber read ++
          later)).aggregate.get field =
        (rows.withRows rows.records (full ++ later)).aggregate.get field +
          .finite (if typeBlv ∈ rows.countedTypes field then vaultOhm missed else 0) := by
  intro full
  obtain ⟨out, _, hout, hfull, rfl, read, hsublist, rfl⟩ :=
    runs_of_degradesTo (degradesTo_pushBlvSupply hregistry rows.supplies) hrun
  obtain ⟨missed, hperm⟩ := hsublist.exists_perm_append
  exact ⟨read, missed, hperm, hout, hfull,
    fun later field => get_aggregate_of_missed rows later hperm field⟩

end

/-! ### One vault of two -/

theorem hasRegistry_vaultAddress : HasRegistry vaultAddress Chains.ethereum := by
  intro registry h
  obtain rfl := Option.some.inj h
  exact ⟨"0x375E06C694B5E50aF8be8FB03495A612eA3e2275", rfl⟩

/-- The first vault is missed. -/
theorem supplies_of_missed_vaults_twoVaults :
    let rows := inclusionRows 18000000
    let full := rows.supplies ++ blvRows Chains.ethereum 1700000000 18000000
      (knownVaults vaultAddress twoVaults Chains.ethereum 18000000)
    ∃ read missed : List (String × ℕ),
      (knownVaults vaultAddress twoVaults Chains.ethereum 18000000).Perm (read ++ missed) ∧
      (.ok (rows.supplies ++ blvRows Chains.ethereum 1700000000 18000000
        [("0xd4e4b04a58f16d2c7c4e6d8a3a3b8d3c5b5c0a11", 5)]) :
          Except RpcError (List SerializedTokenSupply)) =
        .ok (rows.supplies ++ blvRows Chains.ethereum 1700000000 18000000 read) ∧
      (pushBlvSupply vaultAddress Chains.ethereum 1700000000 18000000 rows.supplies).eval
        twoVaults = .ok full ∧
      ∀ later field,
        (rows.withRows rows.records (rows.supplies ++
          blvRows Chains.ethereum 1700000000 18000000 read ++ later)).aggregate.get field =
        (rows.withRows rows.records (full ++ later)).aggregate.get field +
          .finite (if typeBlv ∈ rows.countedTypes field then vaultOhm missed else 0) := by
  have hrun : Process.Runs (Unreliable twoVaults)
      (withRetries (pushBlvSupply vaultAddress Chains.ethereum 1700000000 18000000
        (inclusionRows 18000000).supplies)) ()
      (some (.ok ((inclusionRows 18000000).supplies ++ blvRows Chains.ethereum 1700000000 18000000
        [("0xd4e4b04a58f16d2c7c4e6d8a3a3b8d3c5b5c0a11", 5)]))) () := by
    refine .call (unreliable_sent (Request.readContract _ .activeVaultCount _)) ?_
    refine .call (unreliable_sent (Request.readContract _ (.activeVaults 0) _)) ?_
    refine .call
      (unreliable_lost (Request.readContract firstVault .getPoolOhmShare (some 18000000))
        .primitive) ?_
    refine .call (unreliable_sent (Request.readContract _ (.activeVaults 1) _)) ?_
    exact .call (unreliable_sent (Request.readContract secondVault .getPoolOhmShare _)) .ret
  exact supplies_of_missed_vaults hasRegistry_vaultAddress (inclusionRows 18000000) hrun

/-- Both vaults are known. -/
example : knownVaults vaultAddress twoVaults Chains.ethereum 18000000 =
    [("0xafe729d57d2cc58978c2e01b4ec39c47fb7c4b23", 5),
      ("0xd4e4b04a58f16d2c7c4e6d8a3a3b8d3c5b5c0a11", 5)] := by
  decide +kernel

end OlympusMetrics
