import ChainIdentity.Json.Decode

/-!
# Networks

The networks form a closed set.  A network is known by its name, matched exactly; there is no
network to fall back on.

In a document a network is usually its name.  An object with that name as its only member is
read as well, as long as the member is null.
-/

namespace ChainIdentity

/-- A network of the registry. -/
inductive Network where
  | mainnet
  | ropsten
  | rinkeby
  | goerli
  /-- The chain's development network. -/
  | dev
  /-- The chain's main network. -/
  | core
  /-- The chain's test network. -/
  | buffalo
deriving DecidableEq, Repr

namespace Network

/-- All networks in the order in which they are listed. -/
def all : List Network :=
  [mainnet, ropsten, rinkeby, goerli, dev, core, buffalo]

/-- The name of a network. -/
def name : Network → String
  | mainnet => "Mainnet"
  | ropsten => "Ropsten"
  | rinkeby => "Rinkeby"
  | goerli => "Goerli"
  | dev => "Dev"
  | core => "Core"
  | buffalo => "Buffalo"

/-- The network with exactly the given name. -/
def ofName? : String → Option Network
  | "Mainnet" => some mainnet
  | "Ropsten" => some ropsten
  | "Rinkeby" => some rinkeby
  | "Goerli" => some goerli
  | "Dev" => some dev
  | "Core" => some core
  | "Buffalo" => some buffalo
  | _ => none

/-- The flag that selects the network when a node is launched.  The chain's own networks are
selected by the node's configuration file and the main one is the default, so they have none. -/
def launchFlag? : Network → Option String
  | ropsten => some "ropsten"
  | rinkeby => some "rinkeby"
  | goerli => some "goerli"
  | mainnet | dev | core | buffalo => none

/-- The document of a network. -/
def toJson (network : Network) : Json :=
  .text network.name

/-- The network of a name that a document holds. -/
def named (name : String) : Except DecodeError Network :=
  match ofName? name with
  | some network => .ok network
  | none => .error (.unknown name (all.map Network.name))

/-- Reads a network from a document. -/
def decode : Decoder Network
  | .text value => named value
  | .object [(key, value)] => do
    let network ← named key
    match value with
    | .null => return network
    | other => throw (.kind other "unit")
  | .object _ => .error .choice
  | other => .error (.kind other "string or map")

end Network

end ChainIdentity
