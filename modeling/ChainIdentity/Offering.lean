import ChainIdentity.Network.Descriptor
import ChainIdentity.Operation

/-!
# What is offered to clients

The native currency, the reward rule, the optional features, the closed list of node queries
that clients may pass through, and the two summaries made of them: the options advertised for a
network and the defaults for a funded transfer.  All of it is the same for every network.
-/

namespace ChainIdentity

/-! ## Currency -/

/-- A currency in which amounts are given. -/
structure Currency where
  /-- The symbol. -/
  symbol : String
  /-- How many decimals the smallest unit is below the symbol's unit. -/
  decimals : UInt8
deriving DecidableEq, Repr

namespace Currency

/-- The currency of every amount on every network. -/
def native : Currency := ⟨"CORE", 18⟩

/-- The record of a currency. -/
def write (build : Json.Builder) (currency : Currency) : Json :=
  build [("symbol", .text currency.symbol), ("decimals", .integer currency.decimals.toNat)]

/-- The document of a currency. -/
def toJson : Currency → Json := write .ofMembers

/-- Reads a currency from a document. -/
def decode : Decoder Currency :=
  Decoder.record "Currency" 2 <|
    .also (.also (.always mk) (.field 0 "symbol" Decoder.text))
      (.field 1 "decimals" Decoder.uint8)

end Currency

/-! ## Rewards for uncles -/

/-- The numbers that the reward rule needs. -/
structure RewardParameters where
  /-- What a reward is multiplied by. -/
  unclesRewardMultiplier : UInt64
  /-- How far below the including block an uncle may be. -/
  maxUncleDepth : UInt64
deriving DecidableEq, Repr

namespace RewardParameters

/-- The parameters in force. -/
def standard : RewardParameters := ⟨32, 8⟩

/-- Whether an uncle at the given depth below the including block is rewarded. -/
def isEligible (parameters : RewardParameters) (depth : UInt64) : Bool :=
  depth ≤ parameters.maxUncleDepth

/-- The record of the parameters. -/
def write (build : Json.Builder) (parameters : RewardParameters) : Json :=
  build
    [("uncles_reward_multiplier", .integer parameters.unclesRewardMultiplier.toNat),
     ("max_uncle_depth", .integer parameters.maxUncleDepth.toNat)]

/-- The document of the parameters. -/
def toJson : RewardParameters → Json := write .ofMembers

/-- Reads the parameters from a document. -/
def decode : Decoder RewardParameters :=
  Decoder.record "RewardParameters" 2 <|
    .also (.also (.always mk) (.field 0 "uncles_reward_multiplier" Decoder.uint64))
      (.field 1 "max_uncle_depth" Decoder.uint64)

end RewardParameters

/-! ## Optional features -/

/-- Which optional features are there. -/
structure Capabilities where
  /-- Whether balances can be looked up at earlier blocks. -/
  historicalBalance : Bool
  /-- Whether coins that are not yet in a block are reported. -/
  mempoolCoins : Bool
deriving DecidableEq, Repr

namespace Capabilities

/-- Archive nodes serve balances at earlier blocks, and accounts have no coins. -/
def standard : Capabilities := ⟨true, false⟩

/-- The record of the features. -/
def write (build : Json.Builder) (capabilities : Capabilities) : Json :=
  build
    [("historical_balance_supported", .bool capabilities.historicalBalance),
     ("include_mempool_coins", .bool capabilities.mempoolCoins)]

/-- The document of the features. -/
def toJson : Capabilities → Json := write .ofMembers

/-- Reads the features from a document. -/
def decode : Decoder Capabilities :=
  Decoder.record "CapabilityFlags" 2 <|
    .also (.also (.always mk) (.field 0 "historical_balance_supported" Decoder.bool))
      (.field 1 "include_mempool_coins" Decoder.bool)

end Capabilities

/-! ## Queries that are passed through -/

/-- The node queries that clients may use, and no others. -/
def callMethods : List String :=
  ["eth_getBlockByNumber", "eth_getTransactionReceipt", "eth_call", "eth_estimateGas"]

/-- Whether a method is one of the permitted queries; letter case counts. -/
def isCallMethod (method : String) : Bool :=
  callMethods.contains method

/-! ## Network options -/

/-- What is advertised for a network. -/
structure NetworkOptions where
  /-- The version of the node software. -/
  nodeVersion : String
  /-- The statuses of operations. -/
  operationStatuses : List OperationStatus
  /-- The kinds of operation. -/
  operations : List Operation
  /-- Whether balances can be looked up at earlier blocks. -/
  historicalBalanceLookup : Bool
  /-- The queries that may be passed through. -/
  callMethods : List String
  /-- Whether coins that are not yet in a block are reported. -/
  mempoolCoins : Bool
deriving DecidableEq, Repr

namespace NetworkOptions

/-- The options that follow from the optional features and the permitted queries. -/
def ofCapabilities (capabilities : Capabilities) (callMethods : List String) :
    NetworkOptions where
  nodeVersion := "1.9.24"
  operationStatuses := OperationStatus.all
  operations := Operation.all
  historicalBalanceLookup := capabilities.historicalBalance
  callMethods := callMethods
  mempoolCoins := capabilities.mempoolCoins

/-- The options in force. -/
def standard : NetworkOptions :=
  ofCapabilities Capabilities.standard ChainIdentity.callMethods

/-- The record of the options. -/
def write (build : Json.Builder) (options : NetworkOptions) : Json :=
  build
    [("node_version", .text options.nodeVersion),
     ("operation_statuses", .array (options.operationStatuses.map (OperationStatus.write build))),
     ("operation_types", .array (options.operations.map Operation.toJson)),
     ("historical_balance_lookup", .bool options.historicalBalanceLookup),
     ("call_methods", .array (options.callMethods.map Json.text)),
     ("mempool_coins", .bool options.mempoolCoins)]

/-- The document of the options. -/
def toJson : NetworkOptions → Json := write .ofMembers

/-- Reads options from a document. -/
def decode : Decoder NetworkOptions :=
  Decoder.record "NetworkOptions" 6 <|
    .also (.also (.also (.also (.also (.also (.always mk)
      (.field 0 "node_version" Decoder.text))
      (.field 1 "operation_statuses" (Decoder.sequence OperationStatus.decode)))
      (.field 2 "operation_types" (Decoder.sequence Operation.decode)))
      (.field 3 "historical_balance_lookup" Decoder.bool))
      (.field 4 "call_methods" (Decoder.sequence Decoder.text)))
      (.field 5 "mempool_coins" Decoder.bool)

end NetworkOptions

/-! ## Defaults for a transfer -/

/-- The literals with which a funded transfer is described. -/
structure TransferDefaults where
  /-- The network of the transfer. -/
  network : NetworkId
  /-- The currency of the amount. -/
  currency : Currency
  /-- The kind of operation that a transfer is. -/
  operation : Operation
  /-- The gas limit of a transfer. -/
  gasLimit : UInt64
deriving DecidableEq, Repr

namespace TransferDefaults

/-- The defaults on a network. -/
def ofNetworkId (network : NetworkId) : TransferDefaults :=
  ⟨network, Currency.native, .call, 21000⟩

/-- The record of the defaults. -/
def write (build : Json.Builder) (defaults : TransferDefaults) : Json :=
  build
    [("network", defaults.network.write build),
     ("currency", defaults.currency.write build),
     ("transfer_operation_type", defaults.operation.toJson),
     ("transfer_gas_limit", .integer defaults.gasLimit.toNat)]

/-- The document of the defaults. -/
def toJson : TransferDefaults → Json := write .ofMembers

/-- Reads defaults from a document. -/
def decode : Decoder TransferDefaults :=
  Decoder.record "WorkflowDefaults" 4 <|
    .also (.also (.also (.also (.always mk)
      (.field 0 "network" NetworkId.decode))
      (.field 1 "currency" Currency.decode))
      (.field 2 "transfer_operation_type" Operation.decode))
      (.field 3 "transfer_gas_limit" Decoder.uint64)

end TransferDefaults

end ChainIdentity
