import Beanie.Lib.Run
import Beanie.Lib.Async
import Beanie.Lib.FixedWindow
import Beanie.Lib.Registry
import Beanie.Lib.FeeSchedule
import Beanie.Lib.Ledger
import Beanie.Lib.Custody
import Beanie.Lib.Except
import Beanie.Lib.ExpiringMap
import Beanie.Lib.Bytes
import Beanie.Lib.Reader
import Beanie.Lib.Text
import Beanie.Lib.Journal
import Beanie.Lib.Path
import Beanie.Lib.KeyedFold
import Beanie.Evm.World
import Beanie.Evm.ChainXReceiver
import Beanie.Evm.ReceiverFactory
import Beanie.Evm.SweepRun
import Beanie.Evm.FactoryRun
import Beanie.Evm.Announced
import Beanie.Evm.WebhookRegistry
import Beanie.Evm.StealthAccount
import Beanie.Lib.Keccak
import Beanie.Lib.KeccakBits
import Beanie.Evm.StealthSignature
import Beanie.Starknet.World
import Beanie.Starknet.Receiver
import Beanie.Starknet.SweepRun
import Beanie.Starknet.ReceiverFactory
import Beanie.Starknet.Announced
import Beanie.Factories
import Beanie.Starknet.Calls
import Beanie.Solana.Accounts
import Beanie.Solana.Program
import Beanie.Solana.Layout
import Beanie.Solana.LedgerRuntime
import Beanie.Solana.SweepSpec
import Beanie.Solana.ProgramRun
import Beanie.Solana.Payout
import Beanie.Keeper.SolanaKeeper
import Beanie.Keeper.SolanaAcceptance
import Beanie.Solana.InstructionSpec
import Beanie.Solana.RegistryRun
import Beanie.Solana.RegisteredPayout
import Beanie.Keeper.SolanaIndexer
import Beanie.Keeper.WireSdk
import Beanie.Keeper.AnnounceCompleteness
import Beanie.Keeper.TokenTransfers
import Beanie.Keeper.IndexerPanics
import Beanie.Keeper.DepositMatching
import Beanie.Keeper.ReceiverMerging
import Beanie.Api.Models
import Beanie.Api.StealthModels
import Beanie.Api.PlainCrates
import Beanie.Api.PaymentRoutes
import Beanie.Api.PaymentWorkers
import Beanie.Api.PaymentSurvival
import Beanie.Api.PaymentBinding
import Beanie.Api.StaticFiles
import Beanie.Api.StealthCosign
import Beanie.Api.StealthStarknet
import Beanie.Api.StarknetCosigner
import Beanie.Starknet.StealthSignature
import Beanie.Api.StealthSolana
import Beanie.Api.SolanaCodecs
import Beanie.Api.SolanaCosigner
import Beanie.Api.StealthEvm
import Beanie.Api.EvmCosigner
import Beanie.Lib.Batch
import Beanie.Lib.Scan
import Beanie.Keeper.StarknetIndexer
import Beanie.Keeper.StarknetProgress
import Beanie.Api.TransferEvm
import Beanie.Api.TransferSolana
import Beanie.Api.TransferStarknet
import Beanie.Api.SweepIsolation
import Beanie.Api.ReconcileBackstop
import Beanie.Api.DeployedSet
import Beanie.Api.PaymentWebhooks
import Beanie.Api.PaymentBatch
import Beanie.Api.TokenAcceptance
import Beanie.Api.RateLimiter
import Beanie.Api.RateLimits
import Beanie.Api.RpcProxy
import Beanie.Api.RpcAllowlist
import Beanie.Api.RpcCache
import Beanie.Api.VerifiedTokens
import Beanie.Api.PaymentAssembly
import Beanie.Api.TransferDigest
import Beanie.Api.CosignerKeys
import Beanie.Api.KeeperSafety
import Beanie.Api.SettledWebhooks
import Beanie.Lib.Hex
import Beanie.Lib.Stream
import Beanie.Keeper.EvmIndexer
import Beanie.Keeper.EvmRegistry
import Beanie.Lib.Tiles
import Beanie.Lib.Pratt
import Beanie.Keeper.ChunkRanges
import Beanie.Keeper.WebhookPath
import Beanie.Keeper.EvmIndex
import Beanie.Keeper.EvmMirror
import Beanie.Keeper.Webhook
import Beanie.Keeper.WebhookSignature
import Beanie.Keeper.DeliveryLaw
import Beanie.Keeper.PortalStream
import Beanie.Keeper.Checkpoints
import Beanie.Api.RegisterOnce
import Beanie.Lib.Base58
import Beanie.Api.CreateRoutes
import Beanie.Api.CreateWorkers
import Beanie.Api.CreateFanout
import Beanie.Browser.Keccak
import Beanie.Browser.Identity
import Beanie.Lib.Guarded
import Beanie.Api.StealthRoutes
import Beanie.Api.StealthPanics
import Beanie.Api.StealthRounds
import Beanie.Api.StealthTopUp
import Beanie.Api.KeeperNonce
import Beanie.Lib.Json
import Beanie.Lib.JsonText
import Beanie.Api.RequestBodies
import Beanie.Browser.Requests
import Beanie.Browser.GaslessStarknet
import Beanie.Api.SolanaWire
import Beanie.Browser.SolanaAnnounced
import Beanie.Browser.ProgramAddresses
import Beanie.Browser.SolanaMessage
import Beanie.Browser.Base58
import Beanie.Browser.GaslessSolana
import Beanie.Evm.StealthExecution
import Beanie.Starknet.StealthExecution
import Beanie.Lib.CallStack
import Beanie.Lib.Numbered
import Beanie.Browser.Onchain
import Beanie.Browser.Store
import Beanie.Browser.Passkey
import Beanie.Browser.Watcher
