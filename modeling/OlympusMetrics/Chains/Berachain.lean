import OlympusMetrics.Indexer.Types

/-!
Configuration of the Berachain indexer.
-/

namespace OlympusMetrics.Chains.Berachain

def erc20Ohm : String := "0x18878df23e2a36f81e820e4b47b4a40576d3159c"
def erc20Ibera : String := "0x9b6761bf2397bb5a6624a856cc84a3a14dcd3fe5"
def erc20Ibgt : String := "0xac03caba51e17c86c921e1f6cbfbdc91f8bb2e6b"
def erc20Lbgt : String := "0xbaadcc2962417c01af99fb2b7c75706b9bd6babe"
def erc20StargateUsdc : String := "0x549943e04f40284185054145c6e4e9568c1d3241"
def erc20Honey : String := "0xfcbd14dc51f0a4d49d5e53c2e0950e0bc26d0dce"
def erc20Wbera : String := "0x6969696969696969696969696969696969696969"
def nativeBera : String := "0x0000000000000000000000000000000000000000"
def bexVault : String := "0x4be03f781c497a489e3cb0287833452ca9b9e80b"
def lpKodiakOhmHoney : String := "0x98bdeede9a45c28d229285d9d6e9139e9f505391"
def lpBeradromeKodiakOhmHoney : String := "0x555bad9ec18db19ded0057d2517242399d1c5d87"
def lpUniswapV3WberaHoney : String := "0x1127f801cb3ab7bdf8923272949aa7dba94b5805"
def lpKodiakIberaWbera3000 : String := "0x8dd1c3e5fb96ca0e45fe3c3cc521ad44e12f3e47"
def lpKodiakIberaWbera500 : String := "0xfcb24b3b7e87e3810b150d25d5964c566d9a2b6f"
def lpKodiakIbgtWbera : String := "0x12bf773f18cec56f14e7cb91d82984ef5a3148ee"
def lpBexLbgtWberaId : String :=
  "0x705fc16ba5a1eb67051934f2fb17eacae660f6c70002000000000000000000d5"
def kodiakQuoter : String := "0x644c8d6e501f7c994b74f5cea96abe65d0ba662b"
def beradromeKodiakOhmHoneyRewardVaultV1 : String := "0x017b4dd27782e2fe3421e71f33ce54801af696f8"
def beradromeKodiakOhmHoneyRewardVaultV2 : String := "0x8e5b2df607b43c8d0f28035210d4e1ad1e72b8ed"
def infraredKodiakOhmHoneyVault : String := "0xa57cb177beebc35a1a26a286951a306d9b752524"
def berahubKodiakOhmHoneyRewardVault : String := "0x815596fa7c4d983d1ca5304e5b48978424c1b448"
def berachainStartBlock : ℕ := 799194
def lpKodiakOhmHoneyCreationBlock : ℕ := 969521
def lpBeradromeKodiakOhmHoneyCreationBlock : ℕ := 1052333
def lpKodiakIberaWbera500CreationBlock : ℕ := 929297
def lpKodiakIbgtWberaCreationBlock : ℕ := 1226972
def lbgtCreationBlock : ℕ := 1586863
def beradromeKodiakOhmHoneyRewardVaultV1CreationBlock : ℕ := 1052333
def beradromeKodiakOhmHoneyRewardVaultV2CreationBlock : ℕ := 1272921
def infraredKodiakOhmHoneyVaultCreationBlock : ℕ := 1184484
def berahubKodiakOhmHoneyRewardVaultCreationBlock : ℕ := 1006689
def lpBexLbgtWberaCreationBlock : ℕ := 1592960
def daoMultisig : String := "0x91494d1bc2286343d51c55e46ae80c9356d099b5"
def trsry : String := "0xb1fa0ac44d399b778b14af0aaf4bcf8af3437ad1"
def daoOpsMultisig : String := "0xe22b2d431838528bcad52d11c4744efcdc907a1c"
def thjCustodian : String := "0x082689241b09c600b3eaf3812b1d09791e7ded5a"
def infraredCustodian : String := "0xb65e74f6b2c0633e30ba1be75db818bb9522a81a"

def protocolAddresses : List String :=
  [daoMultisig, trsry, daoOpsMultisig, thjCustodian, infraredCustodian]

def names : List (String × String) :=
  [(beradromeKodiakOhmHoneyRewardVaultV1, "Beradrome Kodiak OHM-HONEY Reward Vault V1"),
   (beradromeKodiakOhmHoneyRewardVaultV2, "Beradrome Kodiak OHM-HONEY Reward Vault V2"),
   (bexVault, "BEX Vault"),
   (daoMultisig, "DAO MS (Berachain)"),
   (daoOpsMultisig, "DAO Operations MS (Berachain)"),
   (erc20Honey, "Honey"),
   (erc20Ibera, "Infrared BERA"),
   (erc20Ibgt, "Infrared BGT"),
   (erc20Lbgt, "Liquid BGT"),
   (erc20Ohm, "OHM"),
   (erc20StargateUsdc, "Bridged USDC (Stargate)"),
   (erc20Wbera, "Wrapped BERA"),
   (nativeBera, "BERA"),
   (infraredCustodian, "Infrared Custodian"),
   (infraredKodiakOhmHoneyVault, "Infrared Kodiak OHM-HONEY Reward Vault"),
   (berahubKodiakOhmHoneyRewardVault, "BeraHub Kodiak OHM-HONEY Reward Vault"),
   (lpKodiakOhmHoney, "Kodiak OHM-HONEY LP"),
   (lpBeradromeKodiakOhmHoney, "Beradrome Kodiak OHM-HONEY LP"),
   (thjCustodian, "THJ Custodian"),
   (trsry, "TRSRY Module")]

def kodiak : LiquidityHandler :=
  { kind := .kodiak lpKodiakOhmHoney kodiakQuoter none, id := lpKodiakOhmHoney,
    tokens := [erc20Honey, erc20Ohm], startBlock := some lpKodiakOhmHoneyCreationBlock }

def beradromeKodiakOhmHoneyV1 : LiquidityHandler :=
  { kind := .kodiak lpKodiakOhmHoney kodiakQuoter (some beradromeKodiakOhmHoneyRewardVaultV1),
    id := lpBeradromeKodiakOhmHoney, tokens := [erc20Honey, erc20Ohm],
    startBlock := some beradromeKodiakOhmHoneyRewardVaultV1CreationBlock }

def beradromeKodiakOhmHoneyV2 : LiquidityHandler :=
  { kind := .kodiak lpKodiakOhmHoney kodiakQuoter (some beradromeKodiakOhmHoneyRewardVaultV2),
    id := lpBeradromeKodiakOhmHoney, tokens := [erc20Honey, erc20Ohm],
    startBlock := some beradromeKodiakOhmHoneyRewardVaultV2CreationBlock }

def infraredKodiakOhmHoney : LiquidityHandler :=
  { kind := .kodiak lpKodiakOhmHoney kodiakQuoter (some infraredKodiakOhmHoneyVault),
    id := infraredKodiakOhmHoneyVault, tokens := [erc20Honey, erc20Ohm],
    startBlock := some infraredKodiakOhmHoneyVaultCreationBlock }

def beraHubKodiakOhmHoney : LiquidityHandler :=
  { kind := .kodiak lpKodiakOhmHoney kodiakQuoter (some berahubKodiakOhmHoneyRewardVault),
    id := berahubKodiakOhmHoneyRewardVault, tokens := [erc20Honey, erc20Ohm],
    startBlock := some berahubKodiakOhmHoneyRewardVaultCreationBlock }

def ownedLiquidityHandlers : List LiquidityHandler :=
  [kodiak, beradromeKodiakOhmHoneyV1, beradromeKodiakOhmHoneyV2, infraredKodiakOhmHoney, beraHubKodiakOhmHoney]

def abbreviations : List (String × String) := 
  [(erc20Ibera, "iBERA"),
   (erc20Ibgt, "iBGT"),
   (erc20Lbgt, "lBGT"),
   (erc20StargateUsdc, "USDC.e"),
   (erc20Wbera, "wBERA"),
   (nativeBera, "BERA")]

def liquidityHandlers : List LiquidityHandler :=
  [{ kind := .stable, id := "stable-usd", tokens := [erc20Honey, erc20StargateUsdc] },
   { kind := .univ3Quoter kodiakQuoter, id := lpUniswapV3WberaHoney,
     tokens := [erc20Honey, erc20Wbera] },
   { kind := .univ3Quoter kodiakQuoter, id := lpKodiakIberaWbera3000,
     tokens := [erc20Ibera, erc20Wbera] },
   { kind := .univ3Quoter kodiakQuoter, id := lpKodiakIberaWbera500,
     tokens := [erc20Ibera, erc20Wbera], startBlock := some lpKodiakIberaWbera500CreationBlock },
   kodiak,
   beradromeKodiakOhmHoneyV1,
   beradromeKodiakOhmHoneyV2,
   beraHubKodiakOhmHoney,
   { kind := .univ3Quoter kodiakQuoter, id := lpKodiakIbgtWbera, tokens := [erc20Ibgt, erc20Wbera],
     startBlock := some lpKodiakIbgtWberaCreationBlock },
   { kind := .remap erc20Wbera, id := nativeBera, tokens := [nativeBera] },
   { kind := .balancer bexVault, id := lpBexLbgtWberaId, tokens := [erc20Lbgt, erc20Wbera],
     startBlock := some lpBexLbgtWberaCreationBlock }]

def tokens : List TokenDefinition :=
  [{ address := erc20Ibera, category := "Volatile", isLiquid := false, isBluechip := false,
     decimals := 18 },
   { address := erc20Ibgt, category := "Volatile", isLiquid := false, isBluechip := false,
     decimals := 18, startBlock := some berachainStartBlock },
   { address := erc20Lbgt, category := "Volatile", isLiquid := false, isBluechip := false,
     decimals := 18, startBlock := some lbgtCreationBlock },
   { address := erc20StargateUsdc, category := "Stable", isLiquid := true, isBluechip := false,
     decimals := 6 },
   { address := erc20Honey, category := "Stable", isLiquid := true, isBluechip := false,
     decimals := 18 },
   { address := erc20Wbera, category := "Volatile", isLiquid := true, isBluechip := true,
     decimals := 18 },
   { address := nativeBera, category := "Volatile", isLiquid := true, isBluechip := true,
     decimals := 18 },
   { address := erc20Ohm, category := "Volatile", isLiquid := true, isBluechip := false,
     decimals := 9, multiplier := some (.finite 0), startBlock := some berachainStartBlock },
   { address := lpKodiakOhmHoney, category := "Protocol-Owned Liquidity", isLiquid := true,
     isBluechip := false, decimals := 18, startBlock := some lpKodiakOhmHoneyCreationBlock },
   { address := lpBeradromeKodiakOhmHoney, category := "Protocol-Owned Liquidity",
     isLiquid := true, isBluechip := false, decimals := 18,
     startBlock := some lpBeradromeKodiakOhmHoneyCreationBlock },
   { address := beradromeKodiakOhmHoneyRewardVaultV1, category := "Protocol-Owned Liquidity",
     isLiquid := true, isBluechip := false, decimals := 18,
     startBlock := some beradromeKodiakOhmHoneyRewardVaultV1CreationBlock },
   { address := beradromeKodiakOhmHoneyRewardVaultV2, category := "Protocol-Owned Liquidity",
     isLiquid := true, isBluechip := false, decimals := 18,
     startBlock := some beradromeKodiakOhmHoneyRewardVaultV2CreationBlock },
   { address := infraredKodiakOhmHoneyVault, category := "Protocol-Owned Liquidity",
     isLiquid := true, isBluechip := false, decimals := 18,
     startBlock := some infraredKodiakOhmHoneyVaultCreationBlock },
   { address := berahubKodiakOhmHoneyRewardVault, category := "Protocol-Owned Liquidity",
     isLiquid := true, isBluechip := false, decimals := 18,
     startBlock := some berahubKodiakOhmHoneyRewardVaultCreationBlock }]

end Berachain

open Berachain in
/-- The shipped configuration `BERACHAIN`. -/
def berachain : ChainConfig where
  chainId := .berachain
  blockchain := "Berachain"
  startBlock := berachainStartBlock
  tokens := tokens
  names := names
  abbreviations := abbreviations
  protocolAddresses := protocolAddresses
  circulatingSupplyWallets := protocolAddresses
  treasuryBlacklist :=
    [(erc20Ohm, [daoMultisig, daoOpsMultisig, trsry])]
  ohmToken := erc20Ohm
  ohmStartBlock := some berachainStartBlock
  nativeToken := some nativeBera
  liquidityHandlers := liquidityHandlers
  ownedLiquidityHandlers := ownedLiquidityHandlers

end OlympusMetrics.Chains
