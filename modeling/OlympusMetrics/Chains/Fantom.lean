import OlympusMetrics.Indexer.Types

/-!
Configuration of the Fantom indexer, whose OHM token is the bridged gOHM.
-/

namespace OlympusMetrics.Chains.Fantom

def crossChainFantom : String := "0x2bc001ffeb862d843e0a02a7163c7d4828e5fb10"
def erc20Beets : String := "0xf24bcf4d1e507740041c9cfd2dddb29585adce1e"
def erc20Boo : String := "0x841fad6eae12c286d1fd18d1d525dffa75c7effe"
def erc20Dai : String := "0x8d11ec38a3eb5e956b052f67da8bdc9bef8abf3e"
def erc20Dei : String := "0xde1e704dae0b4051e80dabb26ab6ad6c12262da0"
def erc20Frax : String := "0xdc301622e621166bd8e82f2ca0a26c13ad0be355"
def erc20Gohm : String := "0x91fa20244fb509e8289ca630e5db3e9166233fdc"
def erc20Lqdr : String := "0x10b620b2dbac4faa7d7ffd71da486f5d44cd86f9"
def erc20Oxd : String := "0xc5a9848b9d145965d821aaec8fa32aaee026492d"
def erc20Usdc : String := "0x04068da6c83afcfa0e13ba15a6696662335d5b75"
def erc20Weth : String := "0x74b23882a30290451a17c44f4f05243b6b58c76d"
def erc20Wftm : String := "0x21be370d5312f44cb42ce377bc9b8a0cef1a4c83"
def nativeFtm : String := "0x0000000000000000000000000000000000000000"
def lpUniswapV2BooWftm : String := "0xec7178f4c41f346b2721907f5cf7628e388a7a58"
def lpUniswapV2LqdrWftm : String := "0x4fe6f19031239f105f753d1df8a0d24857d0caa2"
def lpUniswapV2WftmBeets : String := "0x648a7452da25b4fb4bdb79badf374a8f8a5ea2b5"
def lpUniswapV2WftmEth : String := "0xf0702249f4d3a25cd3ded7859a165693685ab577"
def lpUniswapV2WftmGohm : String := "0xae9bba22e87866e48ccacff0689afaa41eb94995"
def lpUniswapV2WftmOxd : String := "0xcb6eab779780c7fd6d014ab90d8b10e97a1227e2"
def lpUniswapV2WftmUsdc : String := "0x2b4c76d0dc16be1c31d4c1dc53bf9b45987fc75c"
def fantomStartBlock : ℕ := 37320000

def protocolAddresses : List String :=
  [crossChainFantom]

def names : List (String × String) :=
  [(crossChainFantom, "Cross-Chain Fantom"),
   (erc20Beets, "Beethoven"),
   (erc20Boo, "SpookySwap"),
   (erc20Dai, "DAI"),
   (erc20Dei, "Deus Finance"),
   (erc20Frax, "FRAX"),
   (erc20Gohm, "Governance OHM"),
   (erc20Lqdr, "Liquid Driver"),
   (erc20Oxd, "0xDAO"),
   (erc20Usdc, "USDC"),
   (erc20Weth, "Wrapped ETH"),
   (nativeFtm, "FTM"),
   (erc20Wftm, "Wrapped Fantom"),
   (lpUniswapV2BooWftm, "UniswapV2 BOO-wFTM Liquidity Pool"),
   (lpUniswapV2LqdrWftm, "UniswapV2 LQDR-wFTM Liquidity Pool"),
   (lpUniswapV2WftmBeets, "UniswapV2 wFTM-BEETS Liquidity Pool"),
   (lpUniswapV2WftmEth, "UniswapV2 wFTM-ETH Liquidity Pool"),
   (lpUniswapV2WftmGohm, "UniswapV2 wFTM-gOHM Liquidity Pool"),
   (lpUniswapV2WftmOxd, "UniswapV2 wFTM-OXD Liquidity Pool"),
   (lpUniswapV2WftmUsdc, "UniswapV2 wFTM-USDC Liquidity Pool")]

def abbreviations : List (String × String) :=
  [(erc20Beets, "BEETS"),
   (erc20Boo, "BOO"),
   (erc20Dai, "DAI"),
   (erc20Dei, "DEI"),
   (erc20Frax, "FRAX"),
   (erc20Gohm, "gOHM"),
   (erc20Lqdr, "LQDR"),
   (erc20Oxd, "OXD"),
   (erc20Weth, "wETH"),
   (nativeFtm, "FTM"),
   (erc20Wftm, "wFTM")]

def univ2WftmGohm : LiquidityHandler :=
  { kind := .univ2, id := lpUniswapV2WftmGohm, tokens := [erc20Gohm, erc20Wftm],
    startBlock := some fantomStartBlock }

def ownedLiquidityHandlers : List LiquidityHandler :=
  [univ2WftmGohm]

def liquidityHandlers : List LiquidityHandler :=
  [{ kind := .stable, id := "stable-usd", tokens := [erc20Dai, erc20Dei, erc20Frax, erc20Usdc] },
   { kind := .univ2, id := lpUniswapV2WftmUsdc, tokens := [erc20Usdc, erc20Wftm],
     startBlock := some fantomStartBlock },
   { kind := .univ2, id := lpUniswapV2WftmEth, tokens := [erc20Weth, erc20Wftm],
     startBlock := some fantomStartBlock },
   univ2WftmGohm,
   { kind := .univ2, id := lpUniswapV2BooWftm, tokens := [erc20Boo, erc20Wftm],
     startBlock := some fantomStartBlock },
   { kind := .univ2, id := lpUniswapV2LqdrWftm, tokens := [erc20Lqdr, erc20Wftm],
     startBlock := some fantomStartBlock },
   { kind := .univ2, id := lpUniswapV2WftmBeets, tokens := [erc20Beets, erc20Wftm],
     startBlock := some fantomStartBlock },
   { kind := .univ2, id := lpUniswapV2WftmOxd, tokens := [erc20Oxd, erc20Wftm],
     startBlock := some fantomStartBlock },
   { kind := .remap erc20Wftm, id := nativeFtm, tokens := [nativeFtm] }]

def tokens : List TokenDefinition :=
  [{ address := nativeFtm, category := "Volatile", isLiquid := true, isBluechip := true,
     decimals := 18, startBlock := some fantomStartBlock },
   { address := erc20Beets, category := "Volatile", isLiquid := true, isBluechip := false,
     decimals := 18, startBlock := some fantomStartBlock },
   { address := erc20Boo, category := "Volatile", isLiquid := true, isBluechip := false,
     decimals := 18, startBlock := some fantomStartBlock },
   { address := erc20Dai, category := "Stable", isLiquid := true, isBluechip := false,
     decimals := 18, startBlock := some fantomStartBlock, nonStandardBalance := true },
   { address := erc20Dei, category := "Stable", isLiquid := true, isBluechip := false,
     decimals := 18, startBlock := some fantomStartBlock },
   { address := erc20Frax, category := "Stable", isLiquid := true, isBluechip := false,
     decimals := 18, startBlock := some fantomStartBlock, nonStandardBalance := true },
   { address := erc20Lqdr, category := "Volatile", isLiquid := true, isBluechip := false,
     decimals := 18, startBlock := some fantomStartBlock },
   { address := erc20Oxd, category := "Volatile", isLiquid := true, isBluechip := true,
     decimals := 18, startBlock := some fantomStartBlock },
   { address := erc20Usdc, category := "Stable", isLiquid := true, isBluechip := false,
     decimals := 6, startBlock := some fantomStartBlock },
   { address := erc20Weth, category := "Volatile", isLiquid := true, isBluechip := true,
     decimals := 18, startBlock := some fantomStartBlock },
   { address := erc20Wftm, category := "Volatile", isLiquid := true, isBluechip := true,
     decimals := 18, startBlock := some fantomStartBlock, nonStandardBalance := true },
   { address := erc20Gohm, category := "Volatile", isLiquid := true, isBluechip := false,
     decimals := 18, multiplier := some (.finite 0), startBlock := some fantomStartBlock,
     nonStandardBalance := true },
   { address := lpUniswapV2WftmGohm, category := "Protocol-Owned Liquidity", isLiquid := true,
     isBluechip := false, decimals := 18, startBlock := some fantomStartBlock }]

end Fantom

open Fantom in
/-- The shipped configuration `FANTOM`. -/
def fantom : ChainConfig where
  chainId := .fantom
  blockchain := "Fantom"
  startBlock := fantomStartBlock
  tokens := tokens
  names := names
  abbreviations := abbreviations
  protocolAddresses := protocolAddresses
  circulatingSupplyWallets := protocolAddresses
  treasuryBlacklist :=
    []
  ohmToken := erc20Gohm
  ohmStartBlock := some fantomStartBlock
  nativeToken := some nativeFtm
  liquidityHandlers := liquidityHandlers
  ownedLiquidityHandlers := ownedLiquidityHandlers

end OlympusMetrics.Chains
