import OlympusMetrics.Indexer.Types

/-!
Configuration of the Base indexer.
-/

namespace OlympusMetrics.Chains.Base

def erc20Ohm : String := "0x060cb087a9730e13aa191f31a6d86bff8dfcdcc0"
def erc20Usdc : String := "0x833589fcd6edb6e08f4c7c32d4f71b54bda02913"
def erc20Weth : String := "0x4200000000000000000000000000000000000006"
def lpUniswapV2OhmWeth : String := "0x5ab4b9e96aeed4820e4be267f42411d722985482"
def lpUniswapV3OhmUsdc : String := "0x183ea22691c54806fe96555436dd312b6befac2f"
def chainlinkFeedEthUsd : String := "0x71041dddad3595f9ced3dccfbe3d1f4b0a16bb70"
def chainlinkFeedUsdcUsd : String := "0x7e860098f58bbfc8648a4311b374b1d669a2bc6b"
def nativeEth : String := "0x0000000000000000000000000000000000000000"
def daoMultisig : String := "0x18a390bd45bcc92652b9a91ad51aed7f1c1358f5"
def baseStartBlock : ℕ := 13204827

def protocolAddresses : List String :=
  [daoMultisig]

def names : List (String × String) :=
  [(daoMultisig, "DAO MS (Base)"),
   (erc20Ohm, "OHM"),
   (erc20Usdc, "USDC"),
   (nativeEth, "ETH"),
   (erc20Weth, "Wrapped ETH"),
   (lpUniswapV2OhmWeth, "UniswapV2 OHM-WETH Liquidity Pool"),
   (lpUniswapV3OhmUsdc, "UniswapV3 OHM-USDC Liquidity Pool")]

def univ2OhmWeth : LiquidityHandler :=
  { kind := .univ2, id := lpUniswapV2OhmWeth, tokens := [erc20Ohm, erc20Weth],
    startBlock := some baseStartBlock }

def univ3OhmUsdc : LiquidityHandler :=
  { kind := .univ3, id := lpUniswapV3OhmUsdc, tokens := [erc20Ohm, erc20Usdc],
    startBlock := some baseStartBlock }

def ownedLiquidityHandlers : List LiquidityHandler :=
  [univ2OhmWeth, univ3OhmUsdc]

def liquidityHandlers : List LiquidityHandler :=
  [{ kind := .chainlink 8, id := chainlinkFeedEthUsd, tokens := [erc20Weth],
     startBlock := some baseStartBlock },
   { kind := .chainlink 8, id := chainlinkFeedUsdcUsd, tokens := [erc20Usdc],
     startBlock := some baseStartBlock },
   { kind := .stable, id := "stable-usd", tokens := [erc20Usdc] },
   univ2OhmWeth,
   univ3OhmUsdc,
   { kind := .remap erc20Weth, id := nativeEth, tokens := [nativeEth] }]

def abbreviations : List (String × String) := []

def tokens : List TokenDefinition :=
  [{ address := nativeEth, category := "Volatile", isLiquid := true, isBluechip := true,
     decimals := 18, startBlock := some baseStartBlock },
   { address := erc20Usdc, category := "Stable", isLiquid := true, isBluechip := false,
     decimals := 6, startBlock := some baseStartBlock },
   { address := erc20Weth, category := "Volatile", isLiquid := true, isBluechip := true,
     decimals := 18, startBlock := some baseStartBlock },
   { address := erc20Ohm, category := "Volatile", isLiquid := true, isBluechip := false,
     decimals := 9, multiplier := some (.finite 0), startBlock := some baseStartBlock },
   { address := lpUniswapV2OhmWeth, category := "Protocol-Owned Liquidity", isLiquid := true,
     isBluechip := false, decimals := 18, startBlock := some baseStartBlock },
   { address := lpUniswapV3OhmUsdc, category := "Protocol-Owned Liquidity", isLiquid := true,
     isBluechip := false, decimals := 18, startBlock := some baseStartBlock }]

end Base

open Base in
/-- The shipped configuration `BASE`. -/
def base : ChainConfig where
  chainId := .base
  blockchain := "Base"
  startBlock := baseStartBlock
  tokens := tokens
  names := names
  abbreviations := abbreviations
  protocolAddresses := protocolAddresses
  circulatingSupplyWallets := protocolAddresses
  treasuryBlacklist :=
    [(erc20Ohm, [daoMultisig])]
  ohmToken := erc20Ohm
  ohmStartBlock := some baseStartBlock
  nativeToken := some nativeEth
  univ3PositionManager := some {
    address := "0x03a520b32c04bf3beef7beb72e919cf822ed34f1"
    startBlock := 1371714 }
  liquidityHandlers := liquidityHandlers
  ownedLiquidityHandlers := ownedLiquidityHandlers

end OlympusMetrics.Chains
