import OlympusMetrics.Indexer.Types

/-!
Configuration of the Polygon indexer, whose OHM token is the bridged gOHM.
-/

namespace OlympusMetrics.Chains.Polygon

def crossChainPolygon : String := "0xe06efa3d9ee6923240ee1195a16ddd96b5cce8f7"
def erc20Dai : String := "0x8f3cf7ad23cd3cadbd9735aff958023239c6a063"
def erc20Frax : String := "0x45c32fa6df82ead1e2ef74d17b76547eddfaff89"
def erc20Gohm : String := "0xd8ca34fd379d9ca3c6ee3b3905678320f5b45195"
def erc20Klima : String := "0x4e78011ce80ee02d2c3e649fb657e45898257815"
def erc20KlimaStaked : String := "0xb0c22d8d350c67420f06f48936654f567c73e8c8"
def erc20Syn : String := "0x50b728d8d964fd00c2d0aad81718b71311fef68a"
def erc20Usdc : String := "0x2791bca1f2de4661ed88a30c99a7a9449aa84174"
def erc20Weth : String := "0x7ceb23fd6bc0add59e62ac25578270cff1b9f619"
def lpUniswapV2KlimaUsdc : String := "0x5786b267d35f9d011c4750e0b0ba584e1fdbead1"
def lpUniswapV2SynWeth : String := "0x4a86c01d67965f8cb3d0aaa2c655705e64097c31"
def lpUniswapV2UsdcWeth : String := "0x853ee4b2a13f8a742d64c8f088be7ba2131f670d"
def lpUniswapV2WethGohm : String := "0x1549e0e8127d380080aab448b82d280433ce4030"
def polygonStartBlock : ℕ := 23000000

def protocolAddresses : List String :=
  [crossChainPolygon]

def names : List (String × String) :=
  [(crossChainPolygon, "Cross-Chain Polygon"),
   (erc20Dai, "DAI"),
   (erc20Frax, "FRAX"),
   (erc20Gohm, "Governance OHM"),
   (erc20Klima, "KLIMA"),
   (erc20KlimaStaked, "Staked KLIMA"),
   (erc20Syn, "Synapse"),
   (erc20Usdc, "USDC"),
   (erc20Weth, "Wrapped ETH"),
   (lpUniswapV2WethGohm, "UniswapV2 wETH-gOHM Liquidity Pool"),
   (lpUniswapV2KlimaUsdc, "UniswapV2 KLIMA-USDC Liquidity Pool"),
   (lpUniswapV2SynWeth, "UniswapV2 SYN-wETH Liquidity Pool"),
   (lpUniswapV2UsdcWeth, "UniswapV2 USDC-wETH Liquidity Pool")]

def univ2WethGohm : LiquidityHandler :=
  { kind := .univ2, id := lpUniswapV2WethGohm, tokens := [erc20Gohm, erc20Weth],
    startBlock := some polygonStartBlock }

def ownedLiquidityHandlers : List LiquidityHandler :=
  [univ2WethGohm]

def liquidityHandlers : List LiquidityHandler :=
  [{ kind := .stable, id := "stable-usd", tokens := [erc20Dai, erc20Frax, erc20Usdc] },
   univ2WethGohm,
   { kind := .univ2, id := lpUniswapV2KlimaUsdc, tokens := [erc20Klima, erc20Usdc],
     startBlock := some polygonStartBlock },
   { kind := .univ2, id := lpUniswapV2SynWeth, tokens := [erc20Syn, erc20Weth],
     startBlock := some polygonStartBlock },
   { kind := .univ2, id := lpUniswapV2UsdcWeth, tokens := [erc20Usdc, erc20Weth],
     startBlock := some polygonStartBlock },
   { kind := .remap erc20Klima, id := erc20KlimaStaked, tokens := [erc20KlimaStaked] }]

def abbreviations : List (String × String) := []

def tokens : List TokenDefinition :=
  [{ address := erc20Dai, category := "Stable", isLiquid := true, isBluechip := false,
     decimals := 18, startBlock := some polygonStartBlock },
   { address := erc20Frax, category := "Stable", isLiquid := true, isBluechip := false,
     decimals := 18, startBlock := some polygonStartBlock },
   { address := erc20Klima, category := "Volatile", isLiquid := true, isBluechip := false,
     decimals := 9, multiplier := some (.finite (85 / 100)),
     startBlock := some polygonStartBlock },
   { address := erc20KlimaStaked, category := "Volatile", isLiquid := true, isBluechip := false,
     decimals := 9, multiplier := some (.finite (85 / 100)), startBlock := some polygonStartBlock,
     nonStandardBalance := true },
   { address := erc20Syn, category := "Volatile", isLiquid := true, isBluechip := false,
     decimals := 18, startBlock := some polygonStartBlock },
   { address := erc20Usdc, category := "Stable", isLiquid := true, isBluechip := false,
     decimals := 6, startBlock := some polygonStartBlock },
   { address := erc20Weth, category := "Volatile", isLiquid := true, isBluechip := true,
     decimals := 18, startBlock := some polygonStartBlock },
   { address := erc20Gohm, category := "Volatile", isLiquid := true, isBluechip := false,
     decimals := 18, multiplier := some (.finite 0), startBlock := some polygonStartBlock },
   { address := lpUniswapV2WethGohm, category := "Protocol-Owned Liquidity", isLiquid := true,
     isBluechip := false, decimals := 18, startBlock := some polygonStartBlock }]

end Polygon

open Polygon in
/-- The shipped configuration `POLYGON`. -/
def polygon : ChainConfig where
  chainId := .polygon
  blockchain := "Polygon"
  startBlock := polygonStartBlock
  tokens := tokens
  names := names
  abbreviations := abbreviations
  protocolAddresses := protocolAddresses
  circulatingSupplyWallets := protocolAddresses
  treasuryBlacklist :=
    []
  ohmToken := erc20Gohm
  ohmStartBlock := some polygonStartBlock
  liquidityHandlers := liquidityHandlers
  ownedLiquidityHandlers := ownedLiquidityHandlers

end OlympusMetrics.Chains
