import Obscuro.Lib.GoInt
import Obscuro.Lib.ParentWalk
import Obscuro.Lib.Codec
import Obscuro.Lib.ExceptBind
import Obscuro.Lib.WriteLog
import Obscuro.Lib.Ledger
import Obscuro.Common.Types
import Obscuro.Common.Bytes
import Obscuro.Common.Converters
import Obscuro.Common.GethEncoding
import Obscuro.Enclave.RollupCompression
import Obscuro.Enclave.CrossChain
import Obscuro.Enclave.Evm
import Obscuro.Enclave.BatchExecutor
import Obscuro.Enclave.EnclaveDB
import Obscuro.Enclave.BlockProcessor
import Obscuro.Enclave.ChainFork
import Obscuro.Enclave.Events
import Obscuro.Enclave.PrivateRPC
import Obscuro.Enclave.EventQueries
import Obscuro.Enclave.Mempool
import Obscuro.Enclave.BatchStorage
import Obscuro.Enclave.Rollups
import Obscuro.Enclave.RollupExecution
import Obscuro.Enclave.Migration
import Obscuro.Enclave.MessageExtraction
import Obscuro.Enclave.DBTransaction
import Obscuro.Enclave.BatchTransport
import Obscuro.Contracts.ManagementContract
import Obscuro.Contracts.Bridge
import Obscuro.Contracts.BridgeEscrow
import Obscuro.Ethadapter.MgmtContractLib
import Obscuro.Host.StateTracker
import Obscuro.Host.BatchDB
import Obscuro.Host.BatchRepository
import Obscuro.Host.RollupProduction
import Obscuro.Lib.BinarySearch
import Obscuro.Enclave.GasEstimation
import Obscuro.Host.L1Repository
import Obscuro.Host.DBSchema
import Obscuro.Enclave.BlockResolver
import Obscuro.Host.BlockDB
import Obscuro.Host.RollupDB
import Obscuro.Host.Tables
import Obscuro.Host.BlockListing
import Obscuro.Enclave.Validator
import Obscuro.Enclave.Sequencer
import Obscuro.Enclave.CanonicalChain
