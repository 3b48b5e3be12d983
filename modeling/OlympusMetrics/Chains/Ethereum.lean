import OlympusMetrics.Indexer.Types

/-!
Configuration of the Ethereum mainnet indexer.
-/

namespace OlympusMetrics.Chains.Ethereum

def treasuryAddressV1 : String := "0x886ce997aa9ee4f8c2282e182ab72a705762399d"
def treasuryAddressV2 : String := "0x31f8cc382c9898b273eff4e0b7626a6987c846e8"
def treasuryAddressV3 : String := "0x9a315bdf513367c0377fb36545857d12e85813ef"
def daoWallet : String := "0x245cc372c84b3645bf0ffe6538620b04a217988b"
def daoWorkingCapital : String := "0xf65a665d650b5de224f46d729e2bd0885eea9da5"
def trsry : String := "0xa8687a15d4be32cc8f0a8a7b9704a4c3993d9613"
def trsryV11 : String := "0xea1560f36f71a2f54defa75ed9eaa15e8655be22"
def buybackMs : String := "0xf7deb867e65306be0cb33918ac1b8f89a72109db"
def yieldFarmingMs : String := "0x2075e3b46470cfce124daaf52b46dcf965727dd1"
def otcEscrow : String := "0xe3312c3f1ab30878d9686452f7205ebe11e965eb"
def bondsDeposit : String := "0x9025046c6fb25fb39e720d97a8fd881ed69a1ef6"
def bondsInverseDeposit : String := "0xba42be149e5260eba4b82418a6306f55d532ea47"
def aaveAllocator : String := "0x0e1177e47151be72e5992e0975000e73ab5fd9d4"
def aaveAllocatorV2 : String := "0x0d33c811d0fcc711bcb388dfb3a152de445be66f"
def auraAllocator : String := "0x872ebdd8129aa328c89f6bf032bbd77a4c4bac7e"
def auraAllocatorV2 : String := "0x8caf91a6bb38d55fb530dec0fab535fa78d98fad"
def balancerAllocator : String := "0xa9b52a2d0ffdbabdb2cb23ebb7cd879cac6618a6"
def convexAllocator1 : String := "0x3df5a355457db3a4b5c744b8623a7721bf56df78"
def convexAllocator2 : String := "0x408a9a09d97103022f53300a3a14ca6c3ff867e8"
def convexAllocator3 : String := "0xdbf0683fc4fc8ac11e64a6817d3285ec4f2fc42d"
def convexCvxAllocator : String := "0xdfc95aaf0a107daae2b350458ded4b7906e7f728"
def convexCvxVlAllocator : String := "0x2d643df5de4e9ba063760d475beaa62821c71681"
def convexStakingProxyFraxbp : String := "0x943c1dfa7da96e54242bd2c78dd3ef5c7b24b18c"
def convexStakingProxyOhmFraxbp : String := "0x75e7f7d871f4b5db0fa9b0f01b7422352ec9618f"
def lusdAllocator : String := "0x97b3ef4c558ec456d59cb95c65bfb79046e31fca"
def makerDsrAllocator : String := "0x0ea26319836ff05b8c5c5afd83b8ab17dd46d063"
def makerDsrAllocatorProxy : String := "0x5db0761487e26b555f5bfd5e40f4cbc3e1a7d11e"
def rariAllocator : String := "0x061c8610a784b8a1599de5b1157631e35180d818"
def vefxsAllocator : String := "0xde7b85f52577b113181921a7aa8fc0c22e309475"
def coolerLoansClearinghouseV1 : String := "0xd6a6e8d9e82534bd65821142fccd91ec9cf31880"
def coolerLoansClearinghouseV11 : String := "0xe6343ad0675c9b8d3f32679ae6adba0766a2ab4c"
def coolerLoansClearinghouseV2 : String := "0x1e094fe00e13fd06d64eea4fb3cd912893606fe0"
def coolerLoansV2Monocooler : String := "0xdb591ea2e5db886da872654d58f6cc584b68e7cc"

def walletAddresses : List String :=
  [aaveAllocatorV2, aaveAllocator, auraAllocatorV2, auraAllocator, balancerAllocator,
   bondsDeposit, bondsInverseDeposit, buybackMs, convexAllocator1, convexAllocator2,
   convexAllocator3, convexCvxAllocator, convexCvxVlAllocator, convexStakingProxyFraxbp,
   convexStakingProxyOhmFraxbp, daoWallet, daoWorkingCapital, lusdAllocator,
   makerDsrAllocatorProxy, makerDsrAllocator, otcEscrow, rariAllocator, treasuryAddressV1,
   treasuryAddressV2, treasuryAddressV3, trsry, trsryV11, vefxsAllocator,
   coolerLoansClearinghouseV1, coolerLoansClearinghouseV11, coolerLoansClearinghouseV2,
   coolerLoansV2Monocooler, yieldFarmingMs]

def erc20OhmV1 : String := "0x383518188c0c6d7730d91b2c03a03c837814a899"
def erc20OhmV2 : String := "0x64aa3364f17a4d01c6f1751fd97c2bd3d7e7f1d5"
def erc20Gohm : String := "0x0ab87046fbb341d058f17cbc4c1133f25a20a52f"
def erc20SohmV3 : String := "0x04906695d6d12cf5459975d7c3c03356e4ccd460"
def erc20SohmV2 : String := "0x04f2694c8fcee23e8fd0dfea1d4f5bb8c352111f"
def erc20SohmV2TreasuryStartBlock : ℕ := 18260000
def erc20GohmTreasuryStartBlock : ℕ := 17115000
def erc20Dai : String := "0x6b175474e89094c44da98b954eedeac495271d0f"
def erc20Frax : String := "0x853d955acef822db058eb8505911ed77f175b99e"
def erc20Lusd : String := "0x5f98805a4e8be255a32880fdec7f6728c6568ba0"
def erc20Usdc : String := "0xa0b86991c6218b36c1d19d4a2e9eb0ce3606eb48"
def erc20Usdt : String := "0xdac17f958d2ee523a2206206994597c13d831ec7"
def erc20Usde : String := "0x4c9edd5852cd905f086c759e8383e09bff1e68b3"
def erc20Usds : String := "0xdc035d45d973e3ec169d2276ddab16f1e407384f"
def erc20Sdai : String := "0x83f20f44975d03b1b09e64809b757c47f942beea"
def erc20Susde : String := "0x9d39a5de30e57443bff2a8307a4256c8797a3497"
def erc20Susds : String := "0xa3931d71877c0e7a3148cb7eb4463524fec27fbd"
def erc20GauntletSusdsVault : String := "0x3365184e87d2bd75961780454a5810bec956f0dd"
def erc20Adai : String := "0x028171bca77440897b824ca71d1c56cac55b68a3"
def erc20AethUsde : String := "0x4f5923fc5fd4a93352581b38b7cd26943012decf"
def erc20AethSusde : String := "0x4579a27af00a62c0eb156349f31b345c08386419"
def erc20VarDebtEthUsdt : String := "0x6df1c1e379bc5a00a7b4c6e67a203333772f45a8"
def erc20VarDebtEthUsdc : String := "0x72e95b8931767c79ba4eee721354d6e99a61d004"
def erc20Weth : String := "0xc02aaa39b223fe8d0a0e5c4f27ead9083c756cc2"
def erc20Wsteth : String := "0x7f39c581f595b53c5cb19bd0b3f8da6c935e2ca0"
def erc20Weeth : String := "0xcd5fe23c85820f7b72d0926fc9b05b43e359b7ee"
def erc20Fxs : String := "0x3432b6a60d23ca0dfca7761b7ab56459d9c964d0"
def erc20FxsVe : String := "0xc8418af6358ffdda74e09ca9cc3fe03ca6adc5b0"
def erc20Ldo : String := "0x5a98fcbea516cf06857215779fd812ca3bef1b32"
def erc20Lqty : String := "0x6dea81c8171d0ba574754ef6f8b412f2ed88c54d"
def erc20BtrflyV1 : String := "0xc0d4ceb216b3ba9c3701b291766fdcba977cec3a"
def erc20BtrflyV1Staked : String := "0xcc94faf235cc5d3bf4bed3a30db5984306c86abc"
def erc20BtrflyV2 : String := "0xc55126051b22ebb829d00368f4b12bde432de5da"
def erc20BtrflyV2Rl : String := "0x742b70151cd3bc7ab598aaff1d54b90c3ebc6027"
def erc20CvxCrv : String := "0x62b9c7356a2dc64a1969e19c23e4f579f9810aa7"
def lpUniswapV2CvxCrvEth : String := "0x4b893b0e9c2fe8bf5d531d0c9c603b1483b4ce30"
def nativeEth : String := "0x0000000000000000000000000000000000000000"
def chainlinkFeedDaiUsd : String := "0xaed0c38402a5d19df6e4c03f4e2dced6e29c1ee9"
def chainlinkFeedFraxUsd : String := "0xb9e1e3a9feff48998e45fa90847ed4d467e8bcfd"
def chainlinkFeedLusdUsd : String := "0x3d7ae7e594f2f2091ad8798313450130d0aba3a0"
def chainlinkFeedUsdcUsd : String := "0x8fffffd4afb6115b954bd326cbe7b4ba576818f6"
def chainlinkFeedUsdtUsd : String := "0x3e7d1eab13ad0104d2750b8863b489d65364e32d"
def chainlinkFeedUsdeUsd : String := "0xa569d910839ae8865da8f8e70fffb0cba869f961"
def chainlinkFeedEthUsd : String := "0x5f4ec3df9cbd43714fe2740f5e3616155c5b8419"
def lpCurveOhmEth : String := "0x6ec38b3228251a0c5d491faf66858e2e23d7728b"
def lpCurveOhmFraxbp : String := "0xfc1e8bf3e81383ef07be24c3fd146745719de48d"
def lpCurveFraxUsdcPool : String := "0xdcef968d416a41cdac0ed8702fac8128a64241a2"
def lpCurveFraxUsdcLp : String := "0x3175df0976dfa876431c2e9ee6bc45b65d3473cc"

def curveOhmEthCoins : List String :=
  [erc20OhmV2, nativeEth]

def curveOhmFraxbpCoins : List String :=
  [erc20OhmV2, lpCurveFraxUsdcLp]

def curveFraxUsdcCoins : List String :=
  [erc20Frax, erc20Usdc]

def lpFraxswapV1OhmFrax : String := "0x38633ed142bcc8128b45ab04a2e4a6e53774699f"
def lpFraxswapV2OhmFrax : String := "0x5769071665eb8db80e7e9226f92336bb2897dcfa"
def convexRewardOhmEth : String := "0xd683c7051a28fa150eb3f4bd92263865d4a67778"
def convexRewardOhmFraxbp : String := "0x27a8c58e3de84280826d615d80ddb33930383fe9"
def convexRewardFraxUsdc : String := "0x7e880867363a7e321f5d260cade2b0bb2f717b02"
def balancerVault : String := "0xba12222222228d8ba445958a75a0704d566bf2c8"
def lpBalancerPoolOhmWeth : String :=
  "0xd1ec5e215e8148d76f4460e4097fd3d5ae0a35580002000000000000000003d3"
def lpBalancerPoolOhmDai : String :=
  "0x76fcf0e8c7ff37a47a799fa2cd4c13cde0d981c90002000000000000000003d2"
def lpBalancerPoolOhmDaiWeth : String :=
  "0xc45d42f801105e861e86658648e3678ad7aa70f900010000000000000000011e"
def lpBalancerPoolOhmWsteth : String :=
  "0xd4f79ca0ac83192693bce4699d0c10c66aa6cf0f00020000000000000000047e"
def bptOhmWeth : String := "0xd1ec5e215e8148d76f4460e4097fd3d5ae0a3558"
def bptOhmDai : String := "0x76fcf0e8c7ff37a47a799fa2cd4c13cde0d981c9"
def bptOhmDaiWeth : String := "0xc45d42f801105e861e86658648e3678ad7aa70f9"
def bptOhmWsteth : String := "0xd4f79ca0ac83192693bce4699d0c10c66aa6cf0f"
def auraVaultOhmWeth : String := "0x978653c02f2fbbdfd67cbc7f45c42262f213e0b5"
def auraVaultOhmDai : String := "0xb9d6ed734ccbdd0b9cadfed712cf8ac6d0917ecd"
def auraVaultOhmDaiWeth : String := "0xf01e29461f1fcedd82f5258da006295e23b4fab3"
def auraVaultOhmWsteth : String := "0x636024f9ddef77e625161b2ccf3a2adfbfad3615"
def lpUniswapV3WethOhm : String := "0x88051b0eea095007d3bef21ab287be961f3d8598"
def lpUniswapV3OhmSusds : String := "0x0858e2b0f9d75f7300b38d64482ac2c8df06a755"
def lpUniswapV3WethWsteth : String := "0x109830a1aaad605bbf02a9dfa7b0b92ec2fb7daa"
def lpUniswapV3WeethWeth : String := "0x202a6012894ae5c288ea824cbc8a9bfb26a49b93"
def lpUniswapV3FxsEth : String := "0xcd8286b48936cdac20518247dbd310ab681a9fbf"
def lpUniswapV3LdoWeth : String := "0xa3f558aebaecaf0e11ca4b2199cc5ed341edfd74"
def lpUniswapV3LqtyWeth : String := "0xd1d5a4c0ea98971894772dcd6d2f1dc71083c44e"
def lpUniswapV3WethBtrflyV1 : String := "0xdf9ab3c649005ebfdf682d2302ca1f673e0d37a2"
def lpUniswapV3WethBtrflyV2 : String := "0x3e6e23198679419cd73bb6376518dcc5168c8260"
def lpCurveOhmEthBlock : ℕ := 14490000
def lpCurveOhmFraxbpBlock : ℕ := 15300000
def lpCurveFraxUsdcBlock : ℕ := 14950000
def lpFraxswapV1OhmFraxBlock : ℕ := 14490000
def lpFraxswapV2OhmFraxBlock : ℕ := 17000000
def lpBalancerOhmWethBlock : ℕ := 15650000
def lpBalancerOhmDaiBlock : ℕ := 15650000
def lpBalancerOhmDaiWethBlock : ℕ := 14790000
def lpBalancerOhmWstethBlock : ℕ := 16800000
def ethereumStartBlock : ℕ := 12000000
def erc20OhmV2Block : ℕ := 13782589
def erc20SohmV3Block : ℕ := 13806000
def erc20SdaiBlock : ℕ := 17675440
def erc20SusdeBlock : ℕ := 20265440
def erc20SusdsBlock : ℕ := 20722900
def erc20GauntletSusdsVaultBlock : ℕ := 21924854
def erc20UsdeBlock : ℕ := 20289094
def erc20WeethBlock : ℕ := 18961223
def nativeEthBlock : ℕ := 21810000
def erc20FxsBlock : ℕ := 11465584
def erc20FxsVeBlock : ℕ := 13833298
def erc20CvxCrvBlock : ℕ := 12451018
def lpUniswapV2CvxCrvEthBlock : ℕ := 12496006
def erc20AaveV3Block : ℕ := 24707147
def protocolAddresses : List String := walletAddresses

def names : List (String × String) :=
  [(aaveAllocator, "Aave Allocator V1"),
   (aaveAllocatorV2, "Aave Allocator V2"),
   (bondsDeposit, "Bond Depository"),
   (bondsInverseDeposit, "Bond (Inverse) Depository"),
   (buybackMs, "Buyback MS"),
   (convexCvxVlAllocator, "Convex vlCVX Allocator"),
   (coolerLoansClearinghouseV1, "Cooler Loans Clearinghouse V1"),
   (coolerLoansClearinghouseV11, "Cooler Loans Clearinghouse V1.1"),
   (coolerLoansClearinghouseV2, "Cooler Loans Clearinghouse V2"),
   (coolerLoansV2Monocooler, "Cooler Loans V2 MonoCooler"),
   (daoWallet, "Treasury MS (Formerly DAO Wallet)"),
   (rariAllocator, "Rari Allocator"),
   (treasuryAddressV2, "Treasury Wallet V2"),
   (treasuryAddressV3, "Treasury Wallet V3"),
   (trsry, "Bophades Treasury"),
   (vefxsAllocator, "VeFXS Allocator"),
   (convexRewardOhmEth, "Convex Staked Curve OHM-ETH"),
   (convexRewardOhmFraxbp, "Convex Staked Curve OHM-FraxBP"),
   (convexRewardFraxUsdc, "Convex Staked Curve FRAX-USDC"),
   (bptOhmWeth, "Balancer OHM-WETH BPT"),
   (bptOhmDai, "Balancer OHM-DAI BPT"),
   (bptOhmDaiWeth, "Balancer OHM-DAI-WETH BPT"),
   (bptOhmWsteth, "Balancer OHM-wstETH BPT"),
   (auraVaultOhmWeth, "Aura Staked OHM-WETH"),
   (auraVaultOhmDai, "Aura Staked OHM-DAI"),
   (auraVaultOhmDaiWeth, "Aura Staked OHM-DAI-WETH"),
   (auraVaultOhmWsteth, "Aura Staked OHM-wstETH"),
   (lpCurveOhmEth, "Curve OHM-ETH"),
   (lpCurveOhmFraxbp, "Curve OHM-FraxBP"),
   (lpCurveFraxUsdcLp, "Curve FRAX-USDC"),
   (lpFraxswapV1OhmFrax, "FraxSwap V1 OHM-FRAX"),
   (lpFraxswapV2OhmFrax, "FraxSwap V2 OHM-FRAX"),
   (erc20Sdai, "Savings DAI"),
   (erc20Susde, "Staked USDe"),
   (erc20Susds, "Savings USDS"),
   (erc20GauntletSusdsVault, "Gauntlet sUSDS Vault"),
   (erc20Adai, "Aave DAI"),
   (erc20AethUsde, "Aave Ethereum USDe"),
   (erc20AethSusde, "Aave Ethereum sUSDe"),
   (erc20VarDebtEthUsdc, "Aave Ethereum Variable Debt USDC"),
   (erc20VarDebtEthUsdt, "Aave Ethereum Variable Debt USDT"),
   (erc20BtrflyV1, "BTRFLY"),
   (erc20BtrflyV1Staked, "Staked BTRFLY"),
   (erc20BtrflyV2, "BTRFLY V2"),
   (erc20BtrflyV2Rl, "Revenue-Locked BTRFLY"),
   (erc20Dai, "DAI"),
   (erc20CvxCrv, "Curve - Convex CRV Reward Pool"),
   (erc20Frax, "FRAX"),
   (erc20Fxs, "Frax Share"),
   (erc20FxsVe, "FXS - Staked"),
   (lpUniswapV2CvxCrvEth, "Uniswap V2 cvxCRV-ETH Liquidity Pool"),
   (erc20Gohm, "Governance OHM"),
   (erc20SohmV3, "Staked OHM V3"),
   (erc20SohmV2, "Staked OHM V2"),
   (erc20Ldo, "Lido DAO"),
   (erc20Lqty, "Liquity"),
   (erc20Lusd, "Liquity USD"),
   (erc20OhmV1, "OHM (V1)"),
   (erc20OhmV2, "OHM"),
   (erc20Usdc, "USDC"),
   (erc20Usde, "USDe"),
   (erc20Usds, "USDS"),
   (erc20Usdt, "USDT"),
   (erc20Weeth, "Wrapped eETH"),
   (nativeEth, "ETH"),
   (erc20Weth, "Wrapped ETH"),
   (erc20Wsteth, "Wrapped staked ETH"),
   (lpUniswapV3FxsEth, "UniswapV3 FXS-ETH"),
   (lpUniswapV3LdoWeth, "UniswapV3 LDO-WETH"),
   (lpUniswapV3LqtyWeth, "UniswapV3 LQTY-WETH"),
   (lpUniswapV3WeethWeth, "UniswapV3 weETH-WETH"),
   (lpUniswapV3WethBtrflyV1, "UniswapV3 WETH-BTRFLY V1"),
   (lpUniswapV3WethBtrflyV2, "UniswapV3 WETH-BTRFLY V2"),
   (lpUniswapV3WethOhm, "UniswapV3 WETH-OHM"),
   (lpUniswapV3OhmSusds, "UniswapV3 OHM-sUSDS"),
   (lpUniswapV3WethWsteth, "UniswapV3 WETH-wstETH")]

def abbreviations : List (String × String) :=
  [(convexRewardOhmEth, "cvxCurveOhmEth"),
   (convexRewardOhmFraxbp, "cvxCurveOhmFraxBp"),
   (convexRewardFraxUsdc, "cvxFraxUsdc"),
   (auraVaultOhmWeth, "auraOhmWeth"),
   (auraVaultOhmDai, "auraOhmDai"),
   (auraVaultOhmDaiWeth, "auraOhmDaiWeth"),
   (auraVaultOhmWsteth, "auraOhmWsteth"),
   (erc20Sdai, "sDAI"),
   (erc20Susde, "sUSDe"),
   (erc20Susds, "sUSDS"),
   (erc20GauntletSusdsVault, "gtSUSDS"),
   (erc20Adai, "aDAI"),
   (erc20AethUsde, "aEthUSDe"),
   (erc20AethSusde, "aEthsUSDe"),
   (erc20VarDebtEthUsdc, "variableDebtEthUSDC"),
   (erc20VarDebtEthUsdt, "variableDebtEthUSDT"),
   (erc20BtrflyV1, "BTRFLY"),
   (erc20BtrflyV1Staked, "xBTRFLY"),
   (erc20BtrflyV2, "BTRFLY"),
   (erc20BtrflyV2Rl, "rlBTRFLY"),
   (erc20CvxCrv, "cvxCRV"),
   (erc20Fxs, "FXS"),
   (erc20FxsVe, "veFXS"),
   (erc20Gohm, "gOHM"),
   (erc20SohmV3, "sOHM"),
   (erc20SohmV2, "sOHM"),
   (erc20Ldo, "LDO"),
   (erc20Lqty, "LQTY"),
   (erc20OhmV1, "OHM V1"),
   (erc20OhmV2, "OHM"),
   (erc20Usde, "USDe"),
   (erc20Usds, "USDS"),
   (erc20Weeth, "weETH"),
   (nativeEth, "ETH"),
   (erc20Weth, "wETH"),
   (erc20Wsteth, "wstETH")]

def univ3WethOhm : LiquidityHandler :=
  { kind := .univ3, id := lpUniswapV3WethOhm, tokens := [erc20OhmV2, erc20Weth],
    startBlock := some erc20OhmV2Block }

def lpUniswapV3OhmSusdsBlock : ℕ := 21309466

def univ3OhmSusds : LiquidityHandler :=
  { kind := .univ3, id := lpUniswapV3OhmSusds, tokens := [erc20OhmV2, erc20Susds],
    startBlock := some lpUniswapV3OhmSusdsBlock }

def ownedLiquidityHandlers : List LiquidityHandler :=
  [univ3WethOhm, univ3OhmSusds]

def coolerLoansV1Block : ℕ := 18539800
def coolerLoansV11Block : ℕ := 18794000
def coolerLoansV2Block : ℕ := 19620000
def coolerLoansV2MonocoolerBlock : ℕ := 22423121

def coolerClearinghouses : List CoolerClearinghouse :=
  [{ address := coolerLoansClearinghouseV1, kind := .clearinghouse,
     name := "Cooler Loans Clearinghouse V1", receivableToken := erc20Dai,
     startBlock := some coolerLoansV1Block },
   { address := coolerLoansClearinghouseV11, kind := .clearinghouse,
     name := "Cooler Loans Clearinghouse V1.1", receivableToken := erc20Dai,
     startBlock := some coolerLoansV11Block },
   { address := coolerLoansClearinghouseV2, kind := .clearinghouse,
     name := "Cooler Loans Clearinghouse V2", receivableToken := erc20Dai,
     startBlock := some coolerLoansV2Block },
   { address := coolerLoansV2Monocooler, kind := .monocooler, name := "Cooler Loans V2 MonoCooler",
     receivableToken := erc20Usds, priceToken := some erc20Dai,
     startBlock := some coolerLoansV2MonocoolerBlock }]

def liquidityHandlers : List LiquidityHandler :=
  [{ kind := .chainlink 8, id := chainlinkFeedDaiUsd, tokens := [erc20Dai, erc20Adai],
     startBlock := some ethereumStartBlock },
   { kind := .chainlink 8, id := chainlinkFeedFraxUsd, tokens := [erc20Frax],
     startBlock := some 12974035 },
   { kind := .chainlink 8, id := chainlinkFeedLusdUsd, tokens := [erc20Lusd],
     startBlock := some 13038711 },
   { kind := .chainlink 8, id := chainlinkFeedUsdcUsd, tokens := [erc20Usdc, erc20VarDebtEthUsdc],
     startBlock := some ethereumStartBlock },
   { kind := .chainlink 8, id := chainlinkFeedUsdtUsd, tokens := [erc20Usdt, erc20VarDebtEthUsdt],
     startBlock := some ethereumStartBlock },
   { kind := .chainlink 8, id := chainlinkFeedUsdeUsd, tokens := [erc20Usde, erc20AethUsde],
     startBlock := some erc20UsdeBlock },
   { kind := .chainlink 8, id := chainlinkFeedDaiUsd, tokens := [erc20Usds],
     startBlock := some ethereumStartBlock },
   { kind := .chainlink 8, id := chainlinkFeedEthUsd, tokens := [erc20Weth],
     startBlock := some ethereumStartBlock },
   { kind := .stable, id := "stable-usd",
     tokens := [erc20Dai, erc20Frax, erc20Lusd, erc20Usdc, erc20Usdt, erc20Usde, erc20Usds] },
   univ3WethOhm,
   univ3OhmSusds,
   { kind := .univ3, id := lpUniswapV3WethWsteth, tokens := [erc20Weth, erc20Wsteth],
     startBlock := some ethereumStartBlock },
   { kind := .univ3, id := lpUniswapV3WeethWeth, tokens := [erc20Weeth, erc20Weth],
     startBlock := some erc20WeethBlock },
   { kind := .univ3, id := lpUniswapV3FxsEth, tokens := [erc20Fxs, erc20Weth],
     startBlock := some erc20FxsBlock },
   { kind := .univ3, id := lpUniswapV3LdoWeth, tokens := [erc20Ldo, erc20Weth],
     startBlock := some ethereumStartBlock },
   { kind := .univ3, id := lpUniswapV3LqtyWeth, tokens := [erc20Lqty, erc20Weth],
     startBlock := some ethereumStartBlock },
   { kind := .univ3, id := lpUniswapV3WethBtrflyV1, tokens := [erc20Weth, erc20BtrflyV1],
     startBlock := some ethereumStartBlock },
   { kind := .univ3, id := lpUniswapV3WethBtrflyV2, tokens := [erc20Weth, erc20BtrflyV2],
     startBlock := some ethereumStartBlock },
   { kind := .univ2, id := lpUniswapV2CvxCrvEth, tokens := [erc20CvxCrv, erc20Weth],
     startBlock := some lpUniswapV2CvxCrvEthBlock },
   { kind := .remap erc20BtrflyV1, id := erc20BtrflyV1Staked, tokens := [erc20BtrflyV1Staked] },
   { kind := .remap erc20BtrflyV2, id := erc20BtrflyV2Rl, tokens := [erc20BtrflyV2Rl] },
   { kind := .balancer balancerVault, id := lpBalancerPoolOhmWeth,
     tokens := [erc20OhmV2, erc20Weth], startBlock := some lpBalancerOhmWethBlock },
   { kind := .balancer balancerVault, id := lpBalancerPoolOhmDai, tokens := [erc20OhmV2, erc20Dai],
     startBlock := some lpBalancerOhmDaiBlock },
   { kind := .balancer balancerVault, id := lpBalancerPoolOhmDaiWeth,
     tokens := [erc20OhmV2, erc20Dai, erc20Weth], startBlock := some lpBalancerOhmDaiWethBlock },
   { kind := .balancer balancerVault, id := lpBalancerPoolOhmWsteth,
     tokens := [erc20OhmV2, erc20Wsteth], startBlock := some lpBalancerOhmWstethBlock },
   { kind := .remap bptOhmWeth, id := auraVaultOhmWeth, tokens := [auraVaultOhmWeth] },
   { kind := .remap bptOhmDai, id := auraVaultOhmDai, tokens := [auraVaultOhmDai] },
   { kind := .remap bptOhmDaiWeth, id := auraVaultOhmDaiWeth, tokens := [auraVaultOhmDaiWeth] },
   { kind := .remap bptOhmWsteth, id := auraVaultOhmWsteth, tokens := [auraVaultOhmWsteth] },
   { kind := .remap lpCurveOhmEth, id := convexRewardOhmEth, tokens := [convexRewardOhmEth] },
   { kind := .remap lpCurveOhmFraxbp, id := convexRewardOhmFraxbp,
     tokens := [convexRewardOhmFraxbp] },
   { kind := .remap lpCurveFraxUsdcLp, id := convexRewardFraxUsdc,
     tokens := [convexRewardFraxUsdc] },
   { kind := .remap erc20Fxs, id := erc20FxsVe, tokens := [erc20FxsVe] },
   { kind := .erc4626 erc20Dai 18 18, id := erc20Sdai, tokens := [erc20Sdai],
     startBlock := some erc20SdaiBlock },
   { kind := .erc4626 erc20Usde 18 18, id := erc20Susde, tokens := [erc20Susde, erc20AethSusde],
     startBlock := some erc20SusdeBlock },
   { kind := .erc4626 erc20Usds 18 18, id := erc20Susds, tokens := [erc20Susds],
     startBlock := some erc20SusdsBlock },
   { kind := .erc4626 erc20Usds 18 18, id := erc20GauntletSusdsVault,
     tokens := [erc20GauntletSusdsVault], startBlock := some erc20GauntletSusdsVaultBlock },
   { kind := .curve lpCurveOhmEth curveOhmEthCoins [9, 18], id := lpCurveOhmEth,
     tokens := [lpCurveOhmEth], startBlock := some lpCurveOhmEthBlock },
   { kind := .curve lpCurveOhmFraxbp curveOhmFraxbpCoins [9, 18], id := lpCurveOhmFraxbp,
     tokens := [lpCurveOhmFraxbp], startBlock := some lpCurveOhmFraxbpBlock },
   { kind := .curve lpCurveFraxUsdcLp curveFraxUsdcCoins [18, 6], id := lpCurveFraxUsdcPool,
     tokens := [lpCurveFraxUsdcLp], startBlock := some lpCurveFraxUsdcBlock },
   { kind := .fraxswap erc20OhmV2 erc20Frax 9 18, id := lpFraxswapV1OhmFrax,
     tokens := [lpFraxswapV1OhmFrax], startBlock := some lpFraxswapV1OhmFraxBlock },
   { kind := .fraxswap erc20OhmV2 erc20Frax 9 18, id := lpFraxswapV2OhmFrax,
     tokens := [lpFraxswapV2OhmFrax], startBlock := some lpFraxswapV2OhmFraxBlock },
   { kind := .remap erc20Weth, id := nativeEth, tokens := [nativeEth] },
   { kind := .gohm erc20OhmV2, id := erc20SohmV3, tokens := [erc20Gohm],
     startBlock := some erc20SohmV3Block }]

def tokens : List TokenDefinition :=
  [{ address := nativeEth, category := "Volatile", isLiquid := true, isBluechip := true,
     decimals := 18, startBlock := some nativeEthBlock },
   { address := erc20Dai, category := "Stable", isLiquid := true, isBluechip := false,
     decimals := 18, startBlock := some ethereumStartBlock },
   { address := erc20Frax, category := "Stable", isLiquid := true, isBluechip := false,
     decimals := 18, startBlock := some ethereumStartBlock },
   { address := erc20Lusd, category := "Stable", isLiquid := true, isBluechip := false,
     decimals := 18, startBlock := some ethereumStartBlock },
   { address := erc20Usdc, category := "Stable", isLiquid := true, isBluechip := false,
     decimals := 6, startBlock := some ethereumStartBlock },
   { address := erc20Usdt, category := "Stable", isLiquid := true, isBluechip := false,
     decimals := 6, startBlock := some ethereumStartBlock },
   { address := erc20Usde, category := "Stable", isLiquid := true, isBluechip := false,
     decimals := 18, startBlock := some erc20UsdeBlock },
   { address := erc20Usds, category := "Stable", isLiquid := true, isBluechip := false,
     decimals := 18, startBlock := some ethereumStartBlock },
   { address := erc20Adai, category := "Stable", isLiquid := true, isBluechip := false,
     decimals := 18, startBlock := some ethereumStartBlock, nonStandardBalance := true },
   { address := erc20AethUsde, category := "Stable", isLiquid := true, isBluechip := false,
     decimals := 18, startBlock := some erc20AaveV3Block, nonStandardBalance := true },
   { address := erc20AethSusde, category := "Stable", isLiquid := true, isBluechip := false,
     decimals := 18, startBlock := some erc20AaveV3Block, nonStandardBalance := true },
   { address := erc20VarDebtEthUsdc, category := "Stable", isLiquid := true, isBluechip := false,
     decimals := 6, startBlock := some erc20AaveV3Block, isLiability := true,
     nonStandardBalance := true },
   { address := erc20VarDebtEthUsdt, category := "Stable", isLiquid := true, isBluechip := false,
     decimals := 6, startBlock := some erc20AaveV3Block, isLiability := true,
     nonStandardBalance := true },
   { address := erc20Sdai, category := "Stable", isLiquid := true, isBluechip := false,
     decimals := 18, startBlock := some erc20SdaiBlock },
   { address := erc20Susde, category := "Stable", isLiquid := true, isBluechip := false,
     decimals := 18, startBlock := some erc20SusdeBlock },
   { address := erc20Susds, category := "Stable", isLiquid := true, isBluechip := false,
     decimals := 18, startBlock := some erc20SusdsBlock },
   { address := erc20GauntletSusdsVault, category := "Stable", isLiquid := true,
     isBluechip := false, decimals := 18, startBlock := some erc20GauntletSusdsVaultBlock },
   { address := convexRewardOhmEth, category := "POL", isLiquid := false, isBluechip := false,
     decimals := 18, startBlock := some lpCurveOhmEthBlock },
   { address := convexRewardOhmFraxbp, category := "POL", isLiquid := false, isBluechip := false,
     decimals := 18, startBlock := some lpCurveOhmFraxbpBlock },
   { address := convexRewardFraxUsdc, category := "POL", isLiquid := false, isBluechip := false,
     decimals := 18, startBlock := some lpCurveFraxUsdcBlock },
   { address := auraVaultOhmWeth, category := "POL", isLiquid := false, isBluechip := false,
     decimals := 18, startBlock := some lpBalancerOhmWethBlock },
   { address := auraVaultOhmDai, category := "POL", isLiquid := false, isBluechip := false,
     decimals := 18, startBlock := some lpBalancerOhmDaiBlock },
   { address := auraVaultOhmDaiWeth, category := "POL", isLiquid := false, isBluechip := false,
     decimals := 18, startBlock := some lpBalancerOhmDaiWethBlock },
   { address := auraVaultOhmWsteth, category := "POL", isLiquid := false, isBluechip := false,
     decimals := 18, startBlock := some lpBalancerOhmWstethBlock },
   { address := erc20Weth, category := "Volatile", isLiquid := true, isBluechip := true,
     decimals := 18, startBlock := some ethereumStartBlock },
   { address := erc20Wsteth, category := "Volatile", isLiquid := true, isBluechip := true,
     decimals := 18, startBlock := some ethereumStartBlock },
   { address := erc20Weeth, category := "Volatile", isLiquid := true, isBluechip := true,
     decimals := 18, startBlock := some erc20WeethBlock },
   { address := erc20Fxs, category := "Volatile", isLiquid := true, isBluechip := false,
     decimals := 18, startBlock := some erc20FxsBlock },
   { address := erc20FxsVe, category := "Volatile", isLiquid := false, isBluechip := false,
     decimals := 18, startBlock := some erc20FxsVeBlock, nonStandardBalance := true },
   { address := erc20CvxCrv, category := "Volatile", isLiquid := true, isBluechip := false,
     decimals := 18, startBlock := some erc20CvxCrvBlock },
   { address := erc20Ldo, category := "Volatile", isLiquid := true, isBluechip := false,
     decimals := 18, startBlock := some ethereumStartBlock },
   { address := erc20Lqty, category := "Volatile", isLiquid := true, isBluechip := false,
     decimals := 18, startBlock := some ethereumStartBlock },
   { address := erc20BtrflyV1, category := "Volatile", isLiquid := true, isBluechip := false,
     decimals := 9, startBlock := some ethereumStartBlock },
   { address := erc20BtrflyV1Staked, category := "Volatile", isLiquid := true,
     isBluechip := false, decimals := 9, startBlock := some ethereumStartBlock,
     nonStandardBalance := true },
   { address := erc20BtrflyV2, category := "Volatile", isLiquid := true, isBluechip := false,
     decimals := 18, startBlock := some ethereumStartBlock },
   { address := erc20BtrflyV2Rl, category := "Volatile", isLiquid := false, isBluechip := false,
     decimals := 18, multiplier := some (.finite (89 / 100)),
     startBlock := some ethereumStartBlock },
   { address := erc20OhmV1, category := "Volatile", isLiquid := true, isBluechip := false,
     decimals := 9, multiplier := some (.finite 0), startBlock := some ethereumStartBlock },
   { address := erc20OhmV2, category := "Volatile", isLiquid := true, isBluechip := false,
     decimals := 9, multiplier := some (.finite 0), startBlock := some erc20OhmV2Block },
   { address := erc20Gohm, category := "Volatile", isLiquid := true, isBluechip := false,
     decimals := 18, multiplier := some (.finite 0), startBlock := some ethereumStartBlock }]

end Ethereum

open Ethereum in
/-- The shipped configuration `ETHEREUM`. -/
def ethereum : ChainConfig where
  chainId := .ethereum
  blockchain := "Ethereum"
  startBlock := ethereumStartBlock
  tokens := tokens
  names := names
  abbreviations := abbreviations
  protocolAddresses := protocolAddresses
  circulatingSupplyWallets := protocolAddresses
  treasuryBlacklist :=
    [(erc20OhmV1, protocolAddresses),
     (erc20OhmV2, protocolAddresses),
     (erc20Gohm, protocolAddresses)]
  ohmToken := erc20OhmV2
  ohmStartBlock := some erc20OhmV2Block
  nativeToken := some nativeEth
  coolerClearinghouses := coolerClearinghouses
  blvRegistry := some {
    address := "0x375e06c694b5e50af8be8fb03495a612ea3e2275"
    startBlock := 17620000 }
  bondManager := some {
    address := "0xf577c77ee3578c7f216327f41b5d7221ead2b2a3"
    startBlock := 16226955 }
  univ3PositionManager := some {
    address := "0xc36442b4a4522e871399cd717abdd847ab11fe88"
    startBlock := erc20OhmV2Block }
  migrationOffset := some {
    migrationContract := "0x184f3fad8618a6f458c16bae63f70c426fe784b3"
    sOhmAddress := erc20SohmV3
    offsetOhm := .finite 2013
    startBlock := 14381564
    endBlock := 24550660 }
  treasuryOhmEquivalents :=
    [{ tokenAddress := erc20Gohm, decimals := 18, startBlock := erc20GohmTreasuryStartBlock,
       convertVia := .gohmIndex },
     { tokenAddress := erc20SohmV3, decimals := 9, startBlock := erc20GohmTreasuryStartBlock,
       convertVia := .direct },
     { tokenAddress := erc20SohmV2, decimals := 9, startBlock := erc20SohmV2TreasuryStartBlock,
       convertVia := .direct }]
  stakingContracts := some {
    v1 := "0x0822f3c03dcc24d200aff33493dc08d0e1f274a2"
    v2 := "0xfd31c7d00ca47653c6ce64af53c1571f9c36566a"
    v2StartBlock := 12622679
    v3 := "0xb63cac384247597756545b500253ff8e607a8020"
    v3StartBlock := 13804019 }
  liquidityHandlers := liquidityHandlers
  ownedLiquidityHandlers := ownedLiquidityHandlers

end OlympusMetrics.Chains
