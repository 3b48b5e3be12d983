import OlympusMetrics.Chains.Arbitrum
import OlympusMetrics.Chains.Base
import OlympusMetrics.Chains.Berachain
import OlympusMetrics.Chains.Ethereum
import OlympusMetrics.Chains.Fantom
import OlympusMetrics.Chains.Polygon

/-!
The shipped configurations by chain.
-/

namespace OlympusMetrics

/-- `CHAIN_CONFIGS`. -/
def chainConfigs : ChainId → ChainConfig
  | .ethereum => Chains.ethereum
  | .arbitrum => Chains.arbitrum
  | .berachain => Chains.berachain
  | .base => Chains.base
  | .polygon => Chains.polygon
  | .fantom => Chains.fantom

@[simp] theorem chainConfigs_chainId (chain : ChainId) : (chainConfigs chain).chainId = chain := by
  cases chain <;> rfl

end OlympusMetrics
