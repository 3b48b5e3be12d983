import OlympusMetrics.Indexer.Types

/-!
Configuration of the Arbitrum indexer.
-/

namespace OlympusMetrics.Chains.Arbitrum

def crossChainArbitrum : String := "0x012bbf0481b97170577745d2167ee14f63e2ad4c"
def olympusLender : String := "0x868c3ae18fdea85bbb7a303e379c5b7e23b30f03"
def siloCollateral : String := "0xd8102963c400fedbbc23fe92f1b09c0c561e77ae"
def sentimentLtoken : String := "0x37e6a0ecb9e8e5d90104590049a0a197e1363b67"
def jonesStaking : String := "0xb94d1959084081c5a11c460012ab522f5a0fd756"
def treasureAtlasMine : String := "0xa0a89db1c899c49f98e6326b764bafcf167fc2ce"
def erc20Arb : String := "0x912ce59144191c1204e64559fe8253a0e49e6548"
def erc20Frax : String := "0x17fc002b466eec40dae837fc4be5c67993ddbd6f"
def erc20Ohm : String := "0xf0cb2dc0db5e6c66b9a70ac27b06b878da017028"
def erc20GohmSynapse : String := "0x8d9ba570d6cb60c7e3e0f31343efe75ab8e65fb1"
def erc20Jones : String := "0x10393c20975cf177a3513071bc110f7962cd67da"
def erc20Lqty : String := "0xfb9e5d956d889d91a82737b9bfcdac1dce3e1449"
def erc20Lusd : String := "0x93b346b6bc2548da6a1e7d98e9a421b42541425b"
def erc20Magic : String := "0x539bde0d7dbd336b79148aa742883198bbf60342"
def erc20Usdc : String := "0xff970a61a04b1ca14834a43f5de4533ebddb5cc8"
def erc20Vsta : String := "0xa684cd057951541187f288294a1e1c2646aa2d24"
def erc20Weth : String := "0x82af49447d8a07e3bd95bd0d56f35241523fbab1"
def balancerVault : String := "0xba12222222228d8ba445958a75a0704d566bf2c8"
def lpBalancerPoolWethVesta : String :=
  "0xc61ff48f94d801c1ceface0289085197b5ec44f000020000000000000000004d"
def lpBalancerPoolWethOhm : String :=
  "0x89dc7e71e362faf88d92288fe2311d25c6a1b5e0000200000000000000000423"
def lpBalancerPoolOhmUsdc : String :=
  "0xce6195089b302633ed60f3f427d1380f6a2bfbc7000200000000000000000424"
def lpUniswapV2GohmWeth : String := "0xaa5bd49f2162ffdc15634c87a77ac67bd51c6a6d"
def lpUniswapV2JonesWeth : String := "0xe8ee01ae5959d3231506fcdef2d5f3e85987a39c"
def lpUniswapV2LqtyWeth : String := "0x8e78f0f6d116f94252d3bcd73d8ade63d415c1bf"
def lpUniswapV2MagicWeth : String := "0xb7e50106a5bd3cf21af210a755f9c8740890a8c9"
def lpCamelotOhmWeth : String := "0x8acd42e4b5a5750b44a28c5fb50906ebff145359"
def lpUniswapV3ArbWeth : String := "0xc6f780497a95e246eb9449f5e4770916dcd6396a"
def lpUniswapV3WethUsdc : String := "0xc31e54c7a869b9fcbecc14363cf510d1c41fa443"
def chainlinkFeedEthUsd : String := "0x639fe6ab55c921f74e7fac1ee960c0b6293ba612"
def nativeEth : String := "0x0000000000000000000000000000000000000000"
def arbitrumStartBlock : ℕ := 10950000
def arbCreationBlock : ℕ := 70398215
def fraxCreationBlock : ℕ := 1693791
def ohmCreationBlock : ℕ := 85886493
def jonesCreationBlock : ℕ := 4936079
def lqtyCreationBlock : ℕ := 68940603
def lusdCreationBlock : ℕ := 20063879
def magicCreationBlock : ℕ := 2028077
def usdcCreationBlock : ℕ := 2609
def vstaCreationBlock : ℕ := 5160918
def wethCreationBlock : ℕ := 55
def lpBalancerWethVstaCreationBlock : ℕ := 5671673
def lpBalancerWethOhmCreationBlock : ℕ := 87570545
def lpBalancerOhmUsdcCreationBlock : ℕ := 87572753
def lpUniswapV2JonesWethCreationBlock : ℕ := 5236927
def lpUniswapV2LqtyWethCreationBlock : ℕ := 70190173
def lpUniswapV2MagicWethCreationBlock : ℕ := 2260276
def lpCamelotOhmWethCreationBlock : ℕ := 209392712
def lpUniswapV3ArbWethCreationBlock : ℕ := 73240629
def jonesStakingCreationBlock : ℕ := 11264445

def arbitrumProtocolAddresses : List String :=
  [crossChainArbitrum]

def names : List (String × String) :=
  [(crossChainArbitrum, "Cross-Chain Arbitrum"),
   (erc20Arb, "Arbitrum"),
   (erc20Frax, "FRAX"),
   (erc20GohmSynapse, "Governance OHM (Synapse)"),
   (erc20Jones, "JonesDAO"),
   (erc20Lqty, "Liquity"),
   (erc20Lusd, "Liquity USD"),
   (erc20Magic, "TreasureDAO"),
   (erc20Ohm, "OHM"),
   (erc20Usdc, "USDC"),
   (erc20Vsta, "Vesta"),
   (nativeEth, "ETH"),
   (erc20Weth, "Wrapped ETH"),
   (olympusLender, "Olympus Lender"),
   (sentimentLtoken, "Sentiment Finance"),
   (siloCollateral, "Silo OHM Collateral"),
   (treasureAtlasMine, "TreasureDAO Atlas Mine"),
   (lpBalancerPoolWethVesta, "Balancer wETH-VSTA Liquidity Pool"),
   (lpBalancerPoolWethOhm, "Balancer wETH-OHM Liquidity Pool"),
   (lpBalancerPoolOhmUsdc, "Balancer OHM-USDC Liquidity Pool"),
   (lpUniswapV2GohmWeth, "UniswapV2 gOHM-wETH Liquidity Pool"),
   (lpUniswapV2JonesWeth, "UniswapV2 JONES-wETH Liquidity Pool"),
   (lpUniswapV2LqtyWeth, "Ramses LQTY-wETH Liquidity Pool"),
   (lpUniswapV2MagicWeth, "UniswapV2 MAGIC-wETH Liquidity Pool"),
   (lpCamelotOhmWeth, "Camelot OHM-wETH Liquidity Pool"),
   (lpUniswapV3ArbWeth, "UniswapV3 ARB-wETH Liquidity Pool"),
   (lpUniswapV3WethUsdc, "UniswapV3 wETH-USDC Liquidity Pool")]

def liquidityHandlers : List LiquidityHandler :=
  [{ kind := .balancer balancerVault, id := lpBalancerPoolWethVesta,
     tokens := [erc20Weth, erc20Vsta], startBlock := some lpBalancerWethVstaCreationBlock },
   { kind := .balancer balancerVault, id := lpBalancerPoolWethOhm, tokens := [erc20Weth, erc20Ohm],
     startBlock := some lpBalancerWethOhmCreationBlock },
   { kind := .balancer balancerVault, id := lpBalancerPoolOhmUsdc, tokens := [erc20Ohm, erc20Usdc],
     startBlock := some lpBalancerOhmUsdcCreationBlock },
   { kind := .stable, id := "stable-usd", tokens := [erc20Frax, erc20Usdc, erc20Lusd] },
   { kind := .chainlink 8, id := chainlinkFeedEthUsd, tokens := [erc20Weth],
     startBlock := some arbitrumStartBlock },
   { kind := .univ2, id := lpUniswapV2GohmWeth, tokens := [erc20GohmSynapse, erc20Weth],
     startBlock := some arbitrumStartBlock },
   { kind := .univ2, id := lpUniswapV2JonesWeth, tokens := [erc20Jones, erc20Weth],
     startBlock := some lpUniswapV2JonesWethCreationBlock },
   { kind := .univ2, id := lpUniswapV2LqtyWeth, tokens := [erc20Lqty, erc20Weth],
     startBlock := some lpUniswapV2LqtyWethCreationBlock },
   { kind := .univ2, id := lpUniswapV2MagicWeth, tokens := [erc20Magic, erc20Weth],
     startBlock := some lpUniswapV2MagicWethCreationBlock },
   { kind := .univ2, id := lpCamelotOhmWeth, tokens := [erc20Ohm, erc20Weth],
     startBlock := some lpCamelotOhmWethCreationBlock },
   { kind := .univ3, id := lpUniswapV3WethUsdc, tokens := [erc20Usdc, erc20Weth],
     startBlock := some arbitrumStartBlock },
   { kind := .univ3, id := lpUniswapV3ArbWeth, tokens := [erc20Arb, erc20Weth],
     startBlock := some lpUniswapV3ArbWethCreationBlock },
   { kind := .remap erc20Weth, id := nativeEth, tokens := [nativeEth] }]

def abbreviations : List (String × String) := 
  [(erc20Arb, "ARB"),
   (erc20Jones, "JONES"),
   (erc20Lqty, "LQTY"),
   (erc20Lusd, "LUSD"),
   (erc20Magic, "MAGIC"),
   (erc20Vsta, "VSTA"),
   (nativeEth, "ETH"),
   (erc20Weth, "wETH"),
   (erc20GohmSynapse, "gOHM")]

def tokens : List TokenDefinition :=
  [{ address := nativeEth, category := "Volatile", isLiquid := true, isBluechip := true,
     decimals := 18, startBlock := some arbitrumStartBlock },
   { address := erc20Arb, category := "Volatile", isLiquid := true, isBluechip := false,
     decimals := 18, startBlock := some arbCreationBlock },
   { address := erc20Frax, category := "Stable", isLiquid := true, isBluechip := false,
     decimals := 18, startBlock := some fraxCreationBlock },
   { address := erc20Jones, category := "Volatile", isLiquid := true, isBluechip := false,
     decimals := 18, multiplier := some (.finite (83 / 100)),
     startBlock := some jonesCreationBlock },
   { address := erc20Lqty, category := "Volatile", isLiquid := true, isBluechip := false,
     decimals := 18, startBlock := some lqtyCreationBlock },
   { address := erc20Lusd, category := "Stable", isLiquid := true, isBluechip := false,
     decimals := 18, startBlock := some lusdCreationBlock },
   { address := erc20Magic, category := "Volatile", isLiquid := true, isBluechip := false,
     decimals := 18, startBlock := some magicCreationBlock },
   { address := erc20Usdc, category := "Stable", isLiquid := true, isBluechip := false,
     decimals := 6, startBlock := some usdcCreationBlock },
   { address := erc20Vsta, category := "Volatile", isLiquid := true, isBluechip := false,
     decimals := 18, multiplier := some (.finite (77 / 100)),
     startBlock := some vstaCreationBlock },
   { address := erc20Weth, category := "Volatile", isLiquid := true, isBluechip := true,
     decimals := 18, startBlock := some wethCreationBlock },
   { address := erc20Ohm, category := "Volatile", isLiquid := true, isBluechip := false,
     decimals := 9, multiplier := some (.finite 0), startBlock := some ohmCreationBlock },
   { address := erc20GohmSynapse, category := "Volatile", isLiquid := true, isBluechip := false,
     decimals := 18, multiplier := some (.finite 0) },
   { address := lpBalancerPoolWethVesta, category := "Protocol-Owned Liquidity", isLiquid := true,
     isBluechip := false, decimals := 18, startBlock := some lpBalancerWethVstaCreationBlock },
   { address := lpBalancerPoolWethOhm, category := "Protocol-Owned Liquidity", isLiquid := true,
     isBluechip := false, decimals := 18, startBlock := some lpBalancerWethOhmCreationBlock },
   { address := lpBalancerPoolOhmUsdc, category := "Protocol-Owned Liquidity", isLiquid := true,
     isBluechip := false, decimals := 18, startBlock := some lpBalancerOhmUsdcCreationBlock },
   { address := lpUniswapV2GohmWeth, category := "Protocol-Owned Liquidity", isLiquid := true,
     isBluechip := false, decimals := 18, startBlock := some arbitrumStartBlock },
   { address := lpUniswapV2JonesWeth, category := "Protocol-Owned Liquidity", isLiquid := true,
     isBluechip := false, decimals := 18, startBlock := some lpUniswapV2JonesWethCreationBlock },
   { address := lpUniswapV2MagicWeth, category := "Protocol-Owned Liquidity", isLiquid := true,
     isBluechip := false, decimals := 18, startBlock := some lpUniswapV2MagicWethCreationBlock },
   { address := lpCamelotOhmWeth, category := "Protocol-Owned Liquidity", isLiquid := true,
     isBluechip := false, decimals := 18, startBlock := some lpCamelotOhmWethCreationBlock },
   { address := lpUniswapV3ArbWeth, category := "Protocol-Owned Liquidity", isLiquid := true,
     isBluechip := false, decimals := 18, startBlock := some lpUniswapV3ArbWethCreationBlock },
   { address := lpUniswapV3WethUsdc, category := "Protocol-Owned Liquidity", isLiquid := true,
     isBluechip := false, decimals := 18, startBlock := some arbitrumStartBlock }]

end Arbitrum

open Arbitrum in
/-- The shipped configuration `ARBITRUM`. -/
def arbitrum : ChainConfig where
  chainId := .arbitrum
  blockchain := "Arbitrum"
  startBlock := arbitrumStartBlock
  tokens := tokens
  names := names
  abbreviations := abbreviations
  protocolAddresses := arbitrumProtocolAddresses
  circulatingSupplyWallets := [crossChainArbitrum]
  treasuryBlacklist :=
    [(erc20Ohm, arbitrumProtocolAddresses),
     (erc20GohmSynapse, arbitrumProtocolAddresses)]
  ohmToken := erc20Ohm
  ohmStartBlock := some ohmCreationBlock
  nativeToken := some nativeEth
  liquidityHandlers := liquidityHandlers
  ownedLiquidityHandlers := liquidityHandlers

end OlympusMetrics.Chains
