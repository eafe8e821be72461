import ChainIdentity.Offering
import ChainIdentity.Proofs.Numeral

/-!
# Values written to documents

A model is a kind of value that clients exchange as a document, and `Model` lists all of them.  Most
are records, and a record is written as an object and read field by field.  `Holds` says what an
object has to offer for that, namely the members that were written, whatever else it has, and
`FieldReader.Takes` says that a field reader gets its value out of every such object.  A record is
then read back if each of its fields is (`Decoder.record_ofMembers`), and the laws of the single
models follow their decoders field by field.

`Model.round_trips` is the main statement: what is written is read back, for every value of every
model.  A document that is accepted may be another spelling of what it stands for, with further
members, as a sequence of fields, or with numbers and hashes in another form; writing what was read
gives the one spelling that stays as it is from then on.
-/

namespace ChainIdentity

open Text

/-! ## Members of an object -/

namespace Ordered

variable {α : Type}

/-- Values entered under other names leave the value of a name alone. -/
theorem lookup_foldl_insert_of_notMem {name : String} {entries entered : List (String × α)}
    (other : name ∉ entries.map (·.1)) :
    lookup name (entries.foldl (fun entered entry => insert entry.1 entry.2 entered) entered)
      = lookup name entered := by
  induction entries generalizing entered with
  | nil => rfl
  | cons entry rest ih =>
    rw [List.map_cons, List.mem_cons, not_or] at other
    rw [List.foldl_cons, ih other.2, lookup_insert, if_neg other.1]

/-- Of values entered under different names, each is there afterwards. -/
theorem lookup_foldl_insert_of_mem {name : String} {value : α}
    {entries entered : List (String × α)} (distinct : (entries.map (·.1)).Nodup)
    (among : (name, value) ∈ entries) :
    lookup name (entries.foldl (fun entered entry => insert entry.1 entry.2 entered) entered)
      = some value := by
  induction entries generalizing entered with
  | nil => cases among
  | cons entry rest ih =>
    rw [List.map_cons, List.nodup_cons] at distinct
    rw [List.foldl_cons]
    rcases List.mem_cons.mp among with rfl | further
    · rw [lookup_foldl_insert_of_notMem distinct.1, lookup_insert, if_pos rfl]
    · exact ih distinct.2 further

end Ordered

/-- An object offers the given members, and perhaps others. -/
def Holds (members entries : List (String × Json)) : Prop :=
  ∀ name json, (name, json) ∈ entries → Ordered.lookup name members = some json

/-- An object made from entries with different names holds each of them. -/
theorem holds_ofList {entries : List (String × Json)} (distinct : (entries.map (·.1)).Nodup) :
    Holds (Ordered.ofList entries) entries :=
  fun _ _ among => Ordered.lookup_foldl_insert_of_mem distinct among

/-! ## Fields and records -/

namespace FieldReader

variable {α β : Type} {entries : List (String × Json)}

/-- Some fields are read to the given value from every object that offers the given members. -/
def Takes (fields : FieldReader α) (entries : List (String × Json)) (value : α) : Prop :=
  ∀ members, Holds members entries → fields (.named members) = .ok value

/-- What looks at no field gives its value whatever the members are. -/
theorem always_takes (value : α) : (always value).Takes entries value := by
  intro members _
  rfl

/-- A field is read to the value that its member is read to. -/
theorem field_takes {name : String} {json : Json} {decode : Decoder α} {value : α}
    (among : (name, json) ∈ entries) (reads : decode json = .ok value) (position : Nat) :
    (field position name decode).Takes entries value := by
  intro members holds
  unfold field
  simp only [holds name json among, reads]

/-- Two groups of fields are read each to its own value. -/
theorem Takes.also {fields : FieldReader (α → β)} {further : FieldReader α} {build : α → β}
    {value : α} (builds : fields.Takes entries build) (takes : further.Takes entries value) :
    (fields.also further).Takes entries (build value) := by
  intro members holds
  unfold FieldReader.also
  simp only [builds members holds, takes members holds]

end FieldReader

namespace Decoder

variable {α β : Type}

/-- A record is read back from the object of its members if its fields are. -/
theorem record_ofMembers {entries : List (String × Json)} {fields : FieldReader α} {value : α}
    (takes : fields.Takes entries value) (distinct : (entries.map (·.1)).Nodup) (name : String)
    (size : Nat) : record name size fields (Json.ofMembers entries) = .ok value := by
  unfold record Json.ofMembers
  simp only [takes _ (holds_ofList distinct)]
  rfl

/-! ## Plain values -/

/-- A text is read as itself. -/
theorem text_text (value : String) : text (.text value) = .ok value := rfl

/-- A truth value is read as itself. -/
theorem bool_bool (value : Bool) : bool (.bool value) = .ok value := rfl

/-- An integer within the bounds is read as itself. -/
theorem integer_of_le {low high n : Int} (above : low ≤ n) (below : n ≤ high)
    (expected : String) : integer low high expected (.integer n) = .ok n :=
  if_pos ⟨above, below⟩

/-- A number of eight bits is read back from its integer. -/
theorem uint8_toNat (n : UInt8) : uint8 (.integer n.toNat) = .ok n := by
  have below := n.toNat_lt
  unfold uint8
  rw [integer_of_le (by omega) (by omega)]
  exact congrArg Except.ok UInt8.ofNat_toNat

/-- A number of 64 bits is read back from its integer. -/
theorem uint64_toNat (n : UInt64) : uint64 (.integer n.toNat) = .ok n := by
  have below := n.toNat_lt
  unfold uint64
  rw [integer_of_le (by omega) (by omega)]
  exact congrArg Except.ok UInt64.ofNat_toNat

/-- A signed number of 64 bits is read back from its integer. -/
theorem int64_toInt (n : Int64) : int64 (.integer n.toInt) = .ok n := by
  have above := n.le_toInt
  have below := n.toInt_lt
  unfold int64
  rw [integer_of_le (by omega) (by omega)]
  exact congrArg Except.ok n.ofInt_toInt

/-- A sequence is read back if its elements are. -/
theorem sequence_map {decode : Decoder α} {write : α → Json}
    (reads : ∀ value, decode (write value) = .ok value) (values : List α) :
    sequence decode (.array (values.map write)) = .ok values := by
  show each decode (values.map write) = .ok values
  induction values with
  | nil => rfl
  | cons value rest ih =>
    rw [List.map_cons, each, reads, ih]
    rfl

end Decoder

open FieldReader

/-! ## The single models -/

/-- An operation is read back from its tag. -/
theorem Operation.decode_toJson (operation : Operation) :
    Operation.decode operation.toJson = .ok operation := by
  cases operation <;> rfl

/-- A status is read back from its document. -/
theorem OperationStatus.decode_toJson (status : OperationStatus) :
    OperationStatus.decode status.toJson = .ok status := by
  refine Decoder.record_ofMembers (Takes.also (Takes.also (always_takes mk) ?_) ?_) (by simp) _ _
  · exact field_takes (by simp) (Decoder.text_text status.status) 0
  · exact field_takes (by simp) (Decoder.bool_bool status.successful) 1

/-- A network is read back from its name. -/
theorem Network.decode_toJson (network : Network) :
    Network.decode network.toJson = .ok network := by
  cases network <;> rfl

/-- A hash is read back from its hexadecimal text. -/
theorem BlockHash.decode_toJson (hash : BlockHash) :
    BlockHash.decode hash.toJson = .ok hash := by
  unfold BlockHash.decode toJson
  simp only [read_render]

/-- A block is read back from its document. -/
theorem BlockId.decode_toJson (block : BlockId) : BlockId.decode block.toJson = .ok block := by
  refine Decoder.record_ofMembers (Takes.also (Takes.also (always_takes mk) ?_) ?_) (by simp) _ _
  · exact field_takes (by simp) (Decoder.int64_toInt block.index) 0
  · exact field_takes (by simp) block.hash.decode_toJson 1

/-- A quantity is read back from its hexadecimal text. -/
theorem Quantity.decode_toJson (q : Quantity) : Quantity.decode (toJson q) = .ok q := by
  unfold Quantity.decode toJson
  simp only [read_render]

/-- The parameters of a chain are read back from their document. -/
theorem ChainConfig.decode_toJson (config : ChainConfig) :
    ChainConfig.decode config.toJson = .ok config := by
  refine Decoder.record_ofMembers (Takes.also (always_takes mk) ?_) (by simp) _ _
  exact field_takes (by simp) (Quantity.decode_toJson config.chainId) 0

/-- A network's identity is read back from its document. -/
theorem NetworkId.decode_toJson (id : NetworkId) : NetworkId.decode id.toJson = .ok id := by
  refine Decoder.record_ofMembers (Takes.also (Takes.also (always_takes mk) ?_) ?_) (by simp) _ _
  · exact field_takes (by simp) (Decoder.text_text id.blockchain) 0
  · exact field_takes (by simp) (Decoder.text_text id.network) 1

/-- A descriptor is read back from its document, with the documents of its block and its chain
inside. -/
theorem Descriptor.decode_toJson (descriptor : Descriptor) :
    Descriptor.decode descriptor.toJson = .ok descriptor := by
  refine Decoder.record_ofMembers (Takes.also (Takes.also (Takes.also (Takes.also (Takes.also
    (always_takes mk) ?name) ?blockchain) ?genesis) ?chain) ?arguments) (by simp) _ _
  case name => exact field_takes (by simp) descriptor.network.decode_toJson 0
  case blockchain => exact field_takes (by simp) (Decoder.text_text descriptor.blockchain) 1
  case genesis => exact field_takes (by simp [BlockId.toJson]) descriptor.genesis.decode_toJson 2
  case chain => exact field_takes (by simp [ChainConfig.toJson]) descriptor.chain.decode_toJson 3
  case arguments => exact field_takes (by simp) (Decoder.text_text descriptor.launchArguments) 4

/-- A currency is read back from its document. -/
theorem Currency.decode_toJson (currency : Currency) :
    Currency.decode currency.toJson = .ok currency := by
  refine Decoder.record_ofMembers (Takes.also (Takes.also (always_takes mk) ?_) ?_) (by simp) _ _
  · exact field_takes (by simp) (Decoder.text_text currency.symbol) 0
  · exact field_takes (by simp) (Decoder.uint8_toNat currency.decimals) 1

/-- The parameters of rewards are read back from their document. -/
theorem RewardParameters.decode_toJson (parameters : RewardParameters) :
    RewardParameters.decode parameters.toJson = .ok parameters := by
  refine Decoder.record_ofMembers (Takes.also (Takes.also (always_takes mk) ?_) ?_) (by simp) _ _
  · exact field_takes (by simp) (Decoder.uint64_toNat parameters.unclesRewardMultiplier) 0
  · exact field_takes (by simp) (Decoder.uint64_toNat parameters.maxUncleDepth) 1

/-- The capabilities are read back from their document. -/
theorem Capabilities.decode_toJson (capabilities : Capabilities) :
    Capabilities.decode capabilities.toJson = .ok capabilities := by
  refine Decoder.record_ofMembers (Takes.also (Takes.also (always_takes mk) ?_) ?_) (by simp) _ _
  · exact field_takes (by simp) (Decoder.bool_bool capabilities.historicalBalance) 0
  · exact field_takes (by simp) (Decoder.bool_bool capabilities.mempoolCoins) 1

/-- The options of a network are read back from their document, lists included. -/
theorem NetworkOptions.decode_toJson (options : NetworkOptions) :
    NetworkOptions.decode options.toJson = .ok options := by
  refine Decoder.record_ofMembers (Takes.also (Takes.also (Takes.also (Takes.also (Takes.also
    (Takes.also (always_takes mk) ?version) ?statuses) ?operations) ?balance) ?methods) ?coins)
    (by simp) _ _
  case version => exact field_takes (by simp) (Decoder.text_text options.nodeVersion) 0
  case statuses =>
    exact field_takes (by simp [OperationStatus.toJson])
      (Decoder.sequence_map OperationStatus.decode_toJson options.operationStatuses) 1
  case operations =>
    exact field_takes (by simp)
      (Decoder.sequence_map Operation.decode_toJson options.operations) 2
  case balance => exact field_takes (by simp) (Decoder.bool_bool options.historicalBalanceLookup) 3
  case methods =>
    exact field_takes (by simp)
      (Decoder.sequence_map Decoder.text_text options.callMethods) 4
  case coins => exact field_takes (by simp) (Decoder.bool_bool options.mempoolCoins) 5

/-- The defaults of a transfer are read back from their document. -/
theorem TransferDefaults.decode_toJson (defaults : TransferDefaults) :
    TransferDefaults.decode defaults.toJson = .ok defaults := by
  refine Decoder.record_ofMembers (Takes.also (Takes.also (Takes.also (Takes.also
    (always_takes mk) ?network) ?currency) ?operation) ?gasLimit) (by simp) _ _
  case network => exact field_takes (by simp [NetworkId.toJson]) defaults.network.decode_toJson 0
  case currency => exact field_takes (by simp [Currency.toJson]) defaults.currency.decode_toJson 1
  case operation => exact field_takes (by simp) defaults.operation.decode_toJson 2
  case gasLimit => exact field_takes (by simp) (Decoder.uint64_toNat defaults.gasLimit) 3

/-! ## All models -/

/-- A kind of value that is exchanged as a document. -/
inductive Model where
  | operation
  | operationStatus
  | network
  | blockId
  | chainConfig
  | networkId
  | descriptor
  | currency
  | rewardParameters
  | capabilities
  | networkOptions
  | transferDefaults
deriving DecidableEq, Repr

namespace Model

/-- The values of a model. -/
def Value : Model → Type
  | operation => Operation
  | operationStatus => OperationStatus
  | network => Network
  | blockId => BlockId
  | chainConfig => ChainConfig
  | networkId => NetworkId
  | descriptor => Descriptor
  | currency => Currency
  | rewardParameters => RewardParameters
  | capabilities => Capabilities
  | networkOptions => NetworkOptions
  | transferDefaults => TransferDefaults

/-- The document of a value. -/
def toJson : (model : Model) → model.Value → Json
  | operation => Operation.toJson
  | operationStatus => OperationStatus.toJson
  | network => Network.toJson
  | blockId => BlockId.toJson
  | chainConfig => ChainConfig.toJson
  | networkId => NetworkId.toJson
  | descriptor => Descriptor.toJson
  | currency => Currency.toJson
  | rewardParameters => RewardParameters.toJson
  | capabilities => Capabilities.toJson
  | networkOptions => NetworkOptions.toJson
  | transferDefaults => TransferDefaults.toJson

/-- Reads a value from a document. -/
def decode : (model : Model) → Decoder model.Value
  | operation => Operation.decode
  | operationStatus => OperationStatus.decode
  | network => Network.decode
  | blockId => BlockId.decode
  | chainConfig => ChainConfig.decode
  | networkId => NetworkId.decode
  | descriptor => Descriptor.decode
  | currency => Currency.decode
  | rewardParameters => RewardParameters.decode
  | capabilities => Capabilities.decode
  | networkOptions => NetworkOptions.decode
  | transferDefaults => TransferDefaults.decode

/-- The usual spelling of what a document stands for. -/
def normal (model : Model) (json : Json) : Except DecodeError Json :=
  (model.decode json).map model.toJson

/-- What is written is read back. -/
theorem decode_toJson (model : Model) (value : model.Value) :
    model.decode (model.toJson value) = .ok value := by
  cases model with
  | operation => exact Operation.decode_toJson value
  | operationStatus => exact OperationStatus.decode_toJson value
  | network => exact Network.decode_toJson value
  | blockId => exact BlockId.decode_toJson value
  | chainConfig => exact ChainConfig.decode_toJson value
  | networkId => exact NetworkId.decode_toJson value
  | descriptor => exact Descriptor.decode_toJson value
  | currency => exact Currency.decode_toJson value
  | rewardParameters => exact RewardParameters.decode_toJson value
  | capabilities => exact Capabilities.decode_toJson value
  | networkOptions => exact NetworkOptions.decode_toJson value
  | transferDefaults => exact TransferDefaults.decode_toJson value

/-- Every value of every model is read back from its document, and the usual spelling of a document
is accepted and is its own usual spelling. -/
theorem round_trips (model : Model) :
    (∀ value : model.Value, model.decode (model.toJson value) = .ok value) ∧
    ∀ json usual, model.normal json = .ok usual → model.normal usual = .ok usual := by
  refine ⟨model.decode_toJson, ?_⟩
  intro json usual accepted
  unfold normal at accepted ⊢
  rcases reads : model.decode json with error | value
  · rw [reads] at accepted
    cases accepted
  · rw [reads] at accepted
    obtain rfl : model.toJson value = usual := Except.ok.inj accepted
    rw [model.decode_toJson]
    rfl

/-- A currency in the form of a sequence. -/
example : currency.normal (.array [.text "CORE", .integer 18]) = .ok Currency.native.toJson := rfl

end Model

end ChainIdentity
