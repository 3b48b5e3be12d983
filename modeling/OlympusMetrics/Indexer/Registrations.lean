import OlympusMetrics.Chains.Index

/-!
The contracts that `config.yaml` registers, by chain.
-/

namespace OlympusMetrics

/-- The names of the contract definitions. -/
inductive ContractName
  | treasuryErc20 | ohmErc20 | lpErc20 | wrapped9 | erc4626Vault | stakingRewardsVault
  | olympusLender | jonesStaking | treasureMining | uniswapV2Pool | uniswapV3Pool | kodiakLp
  | balancerVault | sOhmV3 | bophadesKernel | bondManager | gnosisEasyAuction
  deriving DecidableEq, Repr

/-- The registered addresses of each contract definition. -/
def registrations : ChainId → List (ContractName × List String)
  | .arbitrum =>
      [(.treasuryErc20,
        ["0x912ce59144191c1204e64559fe8253a0e49e6548",
         "0x17fc002b466eec40dae837fc4be5c67993ddbd6f",
         "0x10393c20975cf177a3513071bc110f7962cd67da",
         "0xfb9e5d956d889d91a82737b9bfcdac1dce3e1449",
         "0x93b346b6bc2548da6a1e7d98e9a421b42541425b",
         "0x539bde0d7dbd336b79148aa742883198bbf60342",
         "0xff970a61a04b1ca14834a43f5de4533ebddb5cc8",
         "0xa684cd057951541187f288294a1e1c2646aa2d24",
         "0x8d9ba570d6cb60c7e3e0f31343efe75ab8e65fb1",
         "0xd8102963c400fedbbc23fe92f1b09c0c561e77ae",
         "0x37e6a0ecb9e8e5d90104590049a0a197e1363b67"]),
       (.wrapped9,
        ["0x82af49447d8a07e3bd95bd0d56f35241523fbab1"]),
       (.ohmErc20,
        ["0xf0cb2dc0db5e6c66b9a70ac27b06b878da017028"]),
       (.lpErc20,
        ["0xc61ff48f94d801c1ceface0289085197b5ec44f0",
         "0x89dc7e71e362faf88d92288fe2311d25c6a1b5e0",
         "0xce6195089b302633ed60f3f427d1380f6a2bfbc7"]),
       (.olympusLender,
        ["0x868c3ae18fdea85bbb7a303e379c5b7e23b30f03"]),
       (.jonesStaking,
        ["0xb94d1959084081c5a11c460012ab522f5a0fd756"]),
       (.treasureMining,
        ["0xa0a89db1c899c49f98e6326b764bafcf167fc2ce"]),
       (.uniswapV2Pool,
        ["0xaa5bd49f2162ffdc15634c87a77ac67bd51c6a6d",
         "0xe8ee01ae5959d3231506fcdef2d5f3e85987a39c",
         "0x8e78f0f6d116f94252d3bcd73d8ade63d415c1bf",
         "0xb7e50106a5bd3cf21af210a755f9c8740890a8c9",
         "0x8acd42e4b5a5750b44a28c5fb50906ebff145359"]),
       (.uniswapV3Pool,
        ["0xc31e54c7a869b9fcbecc14363cf510d1c41fa443",
         "0xc6f780497a95e246eb9449f5e4770916dcd6396a"]),
       (.balancerVault,
        ["0xba12222222228d8ba445958a75a0704d566bf2c8"])]
  | .berachain =>
      [(.treasuryErc20,
        ["0x9b6761bf2397bb5a6624a856cc84a3a14dcd3fe5",
         "0xac03caba51e17c86c921e1f6cbfbdc91f8bb2e6b",
         "0xbaadcc2962417c01af99fb2b7c75706b9bd6babe",
         "0x549943e04f40284185054145c6e4e9568c1d3241",
         "0xfcbd14dc51f0a4d49d5e53c2e0950e0bc26d0dce",
         "0x6969696969696969696969696969696969696969"]),
       (.ohmErc20,
        ["0x18878df23e2a36f81e820e4b47b4a40576d3159c"]),
       (.kodiakLp,
        ["0x98bdeede9a45c28d229285d9d6e9139e9f505391"]),
       (.stakingRewardsVault,
        ["0x017b4dd27782e2fe3421e71f33ce54801af696f8",
         "0x8e5b2df607b43c8d0f28035210d4e1ad1e72b8ed",
         "0xa57cb177beebc35a1a26a286951a306d9b752524",
         "0x815596fa7c4d983d1ca5304e5b48978424c1b448"]),
       (.uniswapV3Pool,
        ["0x1127f801cb3ab7bdf8923272949aa7dba94b5805",
         "0x8dd1c3e5fb96ca0e45fe3c3cc521ad44e12f3e47",
         "0xfcb24b3b7e87e3810b150d25d5964c566d9a2b6f",
         "0x12bf773f18cec56f14e7cb91d82984ef5a3148ee"]),
       (.balancerVault,
        ["0x4be03f781c497a489e3cb0287833452ca9b9e80b"])]
  | .base =>
      [(.treasuryErc20,
        ["0x833589fcd6edb6e08f4c7c32d4f71b54bda02913"]),
       (.wrapped9,
        ["0x4200000000000000000000000000000000000006"]),
       (.ohmErc20,
        ["0x060cb087a9730e13aa191f31a6d86bff8dfcdcc0"]),
       (.uniswapV2Pool,
        ["0x5ab4b9e96aeed4820e4be267f42411d722985482"]),
       (.uniswapV3Pool,
        ["0x183ea22691c54806fe96555436dd312b6befac2f"])]
  | .polygon =>
      [(.treasuryErc20,
        ["0x8f3cf7ad23cd3cadbd9735aff958023239c6a063",
         "0x45c32fa6df82ead1e2ef74d17b76547eddfaff89",
         "0x4e78011ce80ee02d2c3e649fb657e45898257815",
         "0xb0c22d8d350c67420f06f48936654f567c73e8c8",
         "0x50b728d8d964fd00c2d0aad81718b71311fef68a",
         "0x2791bca1f2de4661ed88a30c99a7a9449aa84174",
         "0x7ceb23fd6bc0add59e62ac25578270cff1b9f619",
         "0xd8ca34fd379d9ca3c6ee3b3905678320f5b45195"]),
       (.uniswapV2Pool,
        ["0x1549e0e8127d380080aab448b82d280433ce4030",
         "0x5786b267d35f9d011c4750e0b0ba584e1fdbead1",
         "0x4a86c01d67965f8cb3d0aaa2c655705e64097c31",
         "0x853ee4b2a13f8a742d64c8f088be7ba2131f670d"])]
  | .fantom =>
      [(.treasuryErc20,
        ["0xf24bcf4d1e507740041c9cfd2dddb29585adce1e",
         "0x841fad6eae12c286d1fd18d1d525dffa75c7effe",
         "0x8d11ec38a3eb5e956b052f67da8bdc9bef8abf3e",
         "0xde1e704dae0b4051e80dabb26ab6ad6c12262da0",
         "0xdc301622e621166bd8e82f2ca0a26c13ad0be355",
         "0x91fa20244fb509e8289ca630e5db3e9166233fdc",
         "0x10b620b2dbac4faa7d7ffd71da486f5d44cd86f9",
         "0xc5a9848b9d145965d821aaec8fa32aaee026492d",
         "0x04068da6c83afcfa0e13ba15a6696662335d5b75",
         "0x74b23882a30290451a17c44f4f05243b6b58c76d"]),
       (.wrapped9,
        ["0x21be370d5312f44cb42ce377bc9b8a0cef1a4c83"]),
       (.uniswapV2Pool,
        ["0xae9bba22e87866e48ccacff0689afaa41eb94995",
         "0xec7178f4c41f346b2721907f5cf7628e388a7a58",
         "0x4fe6f19031239f105f753d1df8a0d24857d0caa2",
         "0x648a7452da25b4fb4bdb79badf374a8f8a5ea2b5",
         "0xf0702249f4d3a25cd3ded7859a165693685ab577",
         "0xcb6eab779780c7fd6d014ab90d8b10e97a1227e2",
         "0x2b4c76d0dc16be1c31d4c1dc53bf9b45987fc75c"])]
  | .ethereum =>
      [(.treasuryErc20,
        ["0x6b175474e89094c44da98b954eedeac495271d0f",
         "0x853d955acef822db058eb8505911ed77f175b99e",
         "0x5f98805a4e8be255a32880fdec7f6728c6568ba0",
         "0xa0b86991c6218b36c1d19d4a2e9eb0ce3606eb48",
         "0xdac17f958d2ee523a2206206994597c13d831ec7",
         "0x4c9edd5852cd905f086c759e8383e09bff1e68b3",
         "0xdc035d45d973e3ec169d2276ddab16f1e407384f",
         "0x028171bca77440897b824ca71d1c56cac55b68a3",
         "0x4f5923fc5fd4a93352581b38b7cd26943012decf",
         "0x72e95b8931767c79ba4eee721354d6e99a61d004",
         "0x6df1c1e379bc5a00a7b4c6e67a203333772f45a8",
         "0xa3931d71877c0e7a3148cb7eb4463524fec27fbd",
         "0x9d39a5de30e57443bff2a8307a4256c8797a3497",
         "0x3365184e87d2bd75961780454a5810bec956f0dd",
         "0x7f39c581f595b53c5cb19bd0b3f8da6c935e2ca0",
         "0xcd5fe23c85820f7b72d0926fc9b05b43e359b7ee",
         "0x3432b6a60d23ca0dfca7761b7ab56459d9c964d0",
         "0xc8418af6358ffdda74e09ca9cc3fe03ca6adc5b0",
         "0x62b9c7356a2dc64a1969e19c23e4f579f9810aa7",
         "0x5a98fcbea516cf06857215779fd812ca3bef1b32",
         "0x6dea81c8171d0ba574754ef6f8b412f2ed88c54d",
         "0xc0d4ceb216b3ba9c3701b291766fdcba977cec3a",
         "0xcc94faf235cc5d3bf4bed3a30db5984306c86abc",
         "0xc55126051b22ebb829d00368f4b12bde432de5da",
         "0x742b70151cd3bc7ab598aaff1d54b90c3ebc6027",
         "0xd683c7051a28fa150eb3f4bd92263865d4a67778",
         "0x27a8c58e3de84280826d615d80ddb33930383fe9",
         "0x7e880867363a7e321f5d260cade2b0bb2f717b02",
         "0x978653c02f2fbbdfd67cbc7f45c42262f213e0b5",
         "0xb9d6ed734ccbdd0b9cadfed712cf8ac6d0917ecd",
         "0xf01e29461f1fcedd82f5258da006295e23b4fab3",
         "0x636024f9ddef77e625161b2ccf3a2adfbfad3615"]),
       (.wrapped9,
        ["0xc02aaa39b223fe8d0a0e5c4f27ead9083c756cc2"]),
       (.erc4626Vault,
        ["0x83f20f44975d03b1b09e64809b757c47f942beea"]),
       (.ohmErc20,
        ["0x383518188c0c6d7730d91b2c03a03c837814a899",
         "0x64aa3364f17a4d01c6f1751fd97c2bd3d7e7f1d5",
         "0x0ab87046fbb341d058f17cbc4c1133f25a20a52f"]),
       (.uniswapV3Pool,
        ["0x88051b0eea095007d3bef21ab287be961f3d8598",
         "0x0858e2b0f9d75f7300b38d64482ac2c8df06a755",
         "0x109830a1aaad605bbf02a9dfa7b0b92ec2fb7daa",
         "0x202a6012894ae5c288ea824cbc8a9bfb26a49b93",
         "0xcd8286b48936cdac20518247dbd310ab681a9fbf",
         "0xa3f558aebaecaf0e11ca4b2199cc5ed341edfd74",
         "0xd1d5a4c0ea98971894772dcd6d2f1dc71083c44e",
         "0xdf9ab3c649005ebfdf682d2302ca1f673e0d37a2",
         "0x3e6e23198679419cd73bb6376518dcc5168c8260"]),
       (.uniswapV2Pool,
        ["0x4b893b0e9c2fe8bf5d531d0c9c603b1483b4ce30"]),
       (.sOhmV3,
        ["0x04906695d6d12cf5459975d7c3c03356e4ccd460"]),
       (.balancerVault,
        ["0xba12222222228d8ba445958a75a0704d566bf2c8"]),
       (.bophadesKernel,
        ["0x2286d7f9639e8158fad1169e76d1fbc38247f54b"]),
       (.bondManager,
        ["0xf577c77ee3578c7f216327f41b5d7221ead2b2a3"]),
       (.gnosisEasyAuction,
        ["0x0b7ffc1f4ad541a4ed16b40d8c37f0929158d101"])]

/-- The contract definition that an address is registered under. -/
def contractOf (chainId : ChainId) (address : String) : Option ContractName :=
  ((registrations chainId).find? (fun entry => entry.2.contains address)).map (·.1)

/-- The handlers of the `Transfer` event. -/
inductive TransferHandler
  | treasury | ohm | lp
  deriving DecidableEq, Repr

/-- The handler that the Transfers of a contract definition go to. -/
def ContractName.transferHandler : ContractName → Option TransferHandler
  | .treasuryErc20 | .wrapped9 | .erc4626Vault => some .treasury
  | .ohmErc20 => some .ohm
  | .lpErc20 | .uniswapV2Pool | .kodiakLp | .stakingRewardsVault => some .lp
  | .olympusLender | .jonesStaking | .treasureMining | .uniswapV3Pool | .balancerVault | .sOhmV3
  | .bophadesKernel | .bondManager | .gnosisEasyAuction => none

/-- The handler that the Transfers of a token go to. -/
def transferHandlerOf (chainId : ChainId) (token : String) : Option TransferHandler :=
  (contractOf chainId token).bind ContractName.transferHandler

end OlympusMetrics
