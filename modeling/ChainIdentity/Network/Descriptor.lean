import ChainIdentity.BlockId
import ChainIdentity.Network.Basic
import ChainIdentity.Quantity

/-!
# Network descriptors

A descriptor holds what a node must agree with to belong to a network, the genesis block and
the chain id, and what is needed to launch such a node.  The compiled-in descriptors are
`Descriptor.ofNetwork`; a registry may be filled with others.
-/

namespace ChainIdentity

/-- The name under which all networks are summed up. -/
def blockchainName : String := "Corechain"

/-- The pair by which clients refer to a network. -/
structure NetworkId where
  /-- The blockchain. -/
  blockchain : String
  /-- The network of that blockchain. -/
  network : String
deriving DecidableEq, Repr

namespace NetworkId

/-- The identifier of a network. -/
def ofNetwork (network : Network) : NetworkId :=
  ⟨blockchainName, network.name⟩

/-- The record of an identifier. -/
def write (build : Json.Builder) (id : NetworkId) : Json :=
  build [("blockchain", .text id.blockchain), ("network", .text id.network)]

/-- The document of an identifier. -/
def toJson : NetworkId → Json := write .ofMembers

/-- Reads an identifier from a document. -/
def decode : Decoder NetworkId :=
  Decoder.record "NetworkIdentifier" 2 <|
    .also (.also (.always mk) (.field 0 "blockchain" Decoder.text))
      (.field 1 "network" Decoder.text)

end NetworkId

/-- The part of a chain's configuration that a node is checked against. -/
structure ChainConfig where
  /-- The chain id. -/
  chainId : Quantity
deriving DecidableEq, Repr

namespace ChainConfig

/-- The record of a chain configuration. -/
def write (build : Json.Builder) (config : ChainConfig) : Json :=
  build [("chain_id", Quantity.toJson config.chainId)]

/-- The document of a chain configuration. -/
def toJson : ChainConfig → Json := write .ofMembers

/-- Reads a chain configuration from a document. -/
def decode : Decoder ChainConfig :=
  Decoder.record "ChainConfig" 1 <|
    .also (.always mk) (.field 0 "chain_id" Quantity.decode)

end ChainConfig

/-- The facts of one network. -/
structure Descriptor where
  /-- The network. -/
  network : Network
  /-- The blockchain it belongs to. -/
  blockchain : String
  /-- The first block that its nodes have. -/
  genesis : BlockId
  /-- The chain configuration that its nodes have. -/
  chain : ChainConfig
  /-- The flags with which its nodes are launched. -/
  launchArguments : String
deriving DecidableEq, Repr

namespace Network

/-- The hash of the first block of a network. -/
def genesisHash : Network → BlockHash
  | mainnet => ⟨0xd4e56740f876aef8c010b86a40d5f56745a118d0906a34e69aec8c0db1cb8fa3⟩
  | ropsten => ⟨0x41941023680923e0fe4d74a34bdac8141f2540e3ae90623718e47d66d1ca4a2d⟩
  | rinkeby => ⟨0x6341fd3daf94b748c72ced5a5b26028f2474f5f00d824504e4fa37a75767e177⟩
  | goerli => ⟨0xbf7e331f7f7c1dd2e05159666b3bf8bc7a8a3a9eb1d518969eab529dd9b88c1a⟩
  | dev => ⟨0x0000000000000000000000000000000000000000000000000000000000000000⟩
  | core => ⟨0xf7fc87f11e61508a5828cd1508060ed1714c8d32a92744ae10acb43c953357ad⟩
  | buffalo => ⟨0xd90508c51efd64e75363cdf51114d9f2a90a79e6cd0f78f3c3038b47695c034a⟩

/-- The chain id of a network. -/
def chainId : Network → Quantity
  | mainnet => 1
  | ropsten => 3
  | rinkeby => 4
  | goerli => 5
  | dev => 1112
  | core => 1116
  | buffalo => 1115

/-- The launch flags that all networks share. -/
def baseLaunchArguments : String :=
  "--config=/app/ethereum/geth.toml --cache=8000 --gcmode=archive --graphql"

/-- The launch flags of a network: the shared ones, and its own flag where it has one. -/
def launchArguments (network : Network) : String :=
  match network.launchFlag? with
  | some flag => baseLaunchArguments ++ " --" ++ flag
  | none => baseLaunchArguments

end Network

namespace Descriptor

/-- The compiled-in facts of a network. -/
def ofNetwork (network : Network) : Descriptor where
  network := network
  blockchain := blockchainName
  genesis := .genesis network.genesisHash
  chain := ⟨network.chainId⟩
  launchArguments := network.launchArguments

/-- The pair by which clients refer to the described network. -/
def networkId (descriptor : Descriptor) : NetworkId :=
  .ofNetwork descriptor.network

/-- The chain id of the described network. -/
def chainId (descriptor : Descriptor) : Quantity :=
  descriptor.chain.chainId

/-- The record of a descriptor. -/
def write (build : Json.Builder) (descriptor : Descriptor) : Json :=
  build
    [("name", descriptor.network.toJson),
     ("blockchain", .text descriptor.blockchain),
     ("genesis_block_identifier", descriptor.genesis.write build),
     ("chain_config", descriptor.chain.write build),
     ("node_launch_arguments", .text descriptor.launchArguments)]

/-- The document of a descriptor. -/
def toJson : Descriptor → Json := write .ofMembers

/-- Reads a descriptor from a document. -/
def decode : Decoder Descriptor :=
  Decoder.record "NetworkDescriptor" 5 <|
    .also (.also (.also (.also (.also (.always mk)
      (.field 0 "name" Network.decode))
      (.field 1 "blockchain" Decoder.text))
      (.field 2 "genesis_block_identifier" BlockId.decode))
      (.field 3 "chain_config" ChainConfig.decode))
      (.field 4 "node_launch_arguments" Decoder.text)

end Descriptor

end ChainIdentity
