import ChainIdentity.Proofs.DecimalNumeral
import ChainIdentity.Proofs.NodeAddress
import ChainIdentity.Proofs.WrittenOut

/-!
# The first fault decides

The five settings are read in a fixed order (`Setting.order`).  What each of them has to be is said
here without the readers: a setting is unset or given a text (`Unset`, `Given`), it is missing if it
has to be there and is unset, and malformed if it is given a text that it does not accept
(`Missing`, `Malformed`, `Accepts`).  `Describes` says which configuration the settings make up.

Reading goes through the settings one by one.  `Surveys` says of a reading what it found in a list
of settings: all of them are valid, or there is a fault in one of them and those in front of it are
valid.  Two readings in a row survey both lists (`Surveys.bind`), and so the reading of a
configuration surveys all settings (`read_surveys`).

`load_first_fault` is the main statement: a configuration that is not loaded is refused for the
first setting that is missing or malformed, in an error of the right kind; one whose settings are
all valid is loaded as what they describe; and nothing but the settings makes a difference, of
which an empty one counts as unset.
-/

namespace ChainIdentity

open Text

/-! ## What a setting has to be -/

namespace Variables

/-- The setting has no text, or an empty one. -/
def Unset (values : Variables) (setting : Setting) : Prop :=
  values setting.name = none ∨ values setting.name = some ""

/-- The setting has a text that is not empty. -/
def Given (values : Variables) (setting : Setting) (text : String) : Prop :=
  values setting.name = some text ∧ text ≠ ""

variable {values : Variables} {setting : Setting} {text : String}

/-- A setting has the value that it is given. -/
theorem value?_eq_some_iff : values.value? setting = some text ↔ values.Given setting text := by
  unfold value? Given
  rw [Option.filter_eq_some_iff]
  simp

/-- A setting has no value exactly if it is unset; an empty text counts as none. -/
theorem value?_eq_none_iff : values.value? setting = none ↔ values.Unset setting := by
  unfold value? Unset
  rw [Option.filter_eq_none_iff]
  cases values setting.name with
  | none => simp
  | some text => simp

/-- A setting that is given a text is not unset. -/
theorem Given.not_unset (given : values.Given setting text) : ¬ values.Unset setting := by
  intro unset
  rw [← value?_eq_some_iff, value?_eq_none_iff.mpr unset] at given
  cases given

/-- A setting is given one text only. -/
theorem Given.unique {text' : String} (given : values.Given setting text)
    (given' : values.Given setting text') : text = text' :=
  Option.some.inj (given.1.symm.trans given'.1)

end Variables

namespace Configuration

/-- The text is a port: the decimal digits of its number, behind a plus sign or without one. -/
def IsPort (text : String) (port : UInt16) : Prop :=
  ∃ digits, (text.toList = digits ∨ text.toList = '+' :: digits) ∧ digits ≠ [] ∧
    Numeral.Decimal digits port.toNat

/-- The word for a flag. -/
def flagText (flag : Bool) : String := if flag then "true" else "false"

/-- The two words for a flag differ. -/
theorem flagText_injective {flag flag' : Bool} (same : flagText flag = flagText flag') :
    flag = flag' := by
  revert flag flag'
  decide

/-- The setting can be what the text says. -/
def Accepts (registry : Registry) (text : String) : Setting → Prop
  | .mode => ∃ mode : Mode, text = mode.name
  | .network => ∃ descriptor, registry.find? text = some descriptor
  | .port => ∃ port, IsPort text port
  | .nodeUrl => ∃ url, Url.parse text = .ok url
  | .skipNodeAdmin => ∃ flag, text = flagText flag

/-- The setting has to be there, as those in front of the address have to, and is not. -/
def Missing (values : Variables) (setting : Setting) : Prop :=
  setting ∈ leading ∧ values.Unset setting

/-- The setting is there and cannot be what its text says. -/
def Malformed (registry : Registry) (values : Variables) (setting : Setting) : Prop :=
  ∃ text, values.Given setting text ∧ ¬ Accepts registry text setting

/-- The setting is neither missing nor malformed. -/
def Valid (registry : Registry) (values : Variables) (setting : Setting) : Prop :=
  ¬ Missing values setting ∧ ¬ Malformed registry values setting

/-- The configuration is what the settings say, with the usual address and no flag where there is
none given. -/
structure Describes (registry : Registry) (values : Variables) (configuration : Configuration) :
    Prop where
  /-- The mode is the one of the given name. -/
  mode : values.Given .mode configuration.mode.name
  /-- The network is the one that the registry has under the given name. -/
  network : ∃ text, values.Given .network text ∧
    registry.find? text = some configuration.network
  /-- The port is the one of the given digits. -/
  port : ∃ text, values.Given .port text ∧ IsPort text configuration.port
  /-- The address is the given one. -/
  nodeUrl : ∃ text, (values.Given .nodeUrl text ∨
    values.Unset .nodeUrl ∧ text = defaultNodeUrl) ∧ Url.parse text = .ok configuration.nodeUrl
  /-- The node counts as remote if an address is given. -/
  remoteNode : configuration.remoteNode = true ↔ ¬ values.Unset .nodeUrl
  /-- The flag is the given one. -/
  skipNodeAdmin : values.Given .skipNodeAdmin (flagText configuration.skipNodeAdmin) ∨
    values.Unset .skipNodeAdmin ∧ configuration.skipNodeAdmin = false

/-! ## Readings and what they find -/

/-- The fault is one of its setting, and of the right kind. -/
structure Explains (registry : Registry) (values : Variables) (fault : SettingFault) : Prop where
  /-- There is something wrong with the setting. -/
  faulty : Missing values fault.setting ∨ Malformed registry values fault.setting
  /-- A missing setting is invalid, and so is a mode or a network that is none; the others cannot
  be read. -/
  kind : fault.problem = .invalid ↔
    Missing values fault.setting ∨ fault.setting = .mode ∨ fault.setting = .network

/-- The reading went through the settings: either all of them are valid and it gives a value as it
should, or it ends in a fault of one of them, and those in front of that one are valid. -/
inductive Surveys {α : Type} (registry : Registry) (values : Variables) (Gives : α → Prop) :
    List Setting → Except SettingFault α → Prop
  | through {settings : List Setting} {value : α}
      (valid : ∀ setting ∈ settings, Valid registry values setting) (gives : Gives value) :
      Surveys registry values Gives settings (.ok value)
  | stopped {front back : List Setting} {fault : SettingFault}
      (valid : ∀ setting ∈ front, Valid registry values setting)
      (explained : Explains registry values fault) :
      Surveys registry values Gives (front ++ fault.setting :: back) (.error fault)

section

variable {registry : Registry} {values : Variables} {α β : Type} {Gives : α → Prop}
  {Gives' : β → Prop} {setting : Setting} {ahead : List Setting} {text : String}

/-- A setting that can be what its text says is valid. -/
theorem Valid.of_accepts (given : values.Given setting text)
    (accepts : Accepts registry text setting) : Valid registry values setting := by
  refine ⟨fun missing => given.not_unset missing.2, ?_⟩
  rintro ⟨text', given', refused⟩
  rw [given.unique given'] at accepts
  exact refused accepts

/-- A setting that may be left out is valid if it is. -/
theorem Valid.of_unset (optional : setting ∉ leading) (unset : values.Unset setting) :
    Valid registry values setting := by
  refine ⟨fun missing => optional missing.1, ?_⟩
  rintro ⟨text, given, -⟩
  exact given.not_unset unset

/-- A setting that is missing explains the fault of its absence. -/
theorem Explains.of_missing (missing : Missing values setting) :
    Explains registry values (.absent setting) :=
  ⟨.inl missing, iff_of_true rfl (.inl missing)⟩

/-- What a reading gives that ends in a value. -/
theorem Surveys.of_ok {settings : List Setting} {value : α}
    (surveys : Surveys registry values Gives settings (.ok value)) : Gives value := by
  cases surveys with
  | through valid gives => exact gives

/-- What a reading found that ends in a fault. -/
theorem Surveys.of_error {settings : List Setting} {fault : SettingFault}
    (surveys : Surveys registry values Gives settings (.error fault)) :
    ∃ front back, settings = front ++ fault.setting :: back ∧
      (∀ setting ∈ front, Valid registry values setting) ∧ Explains registry values fault := by
  cases surveys with
  | stopped valid explained => exact ⟨_, _, rfl, valid, explained⟩

/-- A reading of one setting that succeeds. -/
theorem Surveys.past {value : α} (valid : Valid registry values setting) (gives : Gives value) :
    Surveys registry values Gives [setting] (.ok value) :=
  .through (fun _ among => List.mem_singleton.mp among ▸ valid) gives

/-- A reading that ends in a fault of the first setting. -/
theorem Surveys.here {fault : SettingFault} (explained : Explains registry values fault) :
    Surveys registry values Gives (fault.setting :: ahead) (.error fault) :=
  .stopped (fun _ among => absurd among List.not_mem_nil) explained

/-- A reading that ends because the first setting does not accept the text that it is given. -/
theorem Surveys.refused (fault : SettingFault) (given : values.Given fault.setting text)
    (refused : ¬ Accepts registry text fault.setting)
    (kind : fault.problem = .invalid ↔ fault.setting = .mode ∨ fault.setting = .network) :
    Surveys registry values Gives (fault.setting :: ahead) (.error fault) := by
  have present : ¬ Missing values fault.setting := fun missing => given.not_unset missing.2
  refine .here ⟨.inr ⟨text, given, refused⟩, ?_⟩
  rw [kind]
  simp only [present, false_or]

/-- Two readings in a row go through the settings of both. -/
theorem Surveys.bind {first : Except SettingFault α} {next : α → Except SettingFault β}
    {settings : List Setting} (now : Surveys registry values Gives settings first)
    (later : ∀ value, Gives value → Surveys registry values Gives' ahead (next value)) :
    Surveys registry values Gives' (settings ++ ahead) (first >>= next) := by
  cases now with
  | stopped valid explained =>
    rw [List.append_assoc, List.cons_append]
    exact .stopped valid explained
  | @through _ value valid gives =>
    have rest := later value gives
    show Surveys registry values Gives' (settings ++ ahead) (next value)
    cases ends : next value with
    | ok value' =>
      rw [ends] at rest
      cases rest with
      | through valid' gives' =>
        exact .through (List.forall_mem_append.mpr ⟨valid, valid'⟩) gives'
    | error fault =>
      rw [ends] at rest
      cases rest with
      | stopped valid' explained =>
        rw [← List.append_assoc]
        exact .stopped (List.forall_mem_append.mpr ⟨valid, valid'⟩) explained

/-- A setting that has to be there is given a text, or it is missing and the reading ends. -/
theorem Surveys.required {next : String → Except SettingFault β} (needed : setting ∈ leading)
    (later : ∀ text, values.Given setting text →
      Surveys registry values Gives' (setting :: ahead) (next text)) :
    Surveys registry values Gives' (setting :: ahead) (values.required setting >>= next) := by
  unfold Variables.required
  cases value : values.value? setting with
  | some text => exact later text (Variables.value?_eq_some_iff.mp value)
  | none => exact .here (.of_missing ⟨needed, Variables.value?_eq_none_iff.mp value⟩)

/-- After the reading of one setting come the others. -/
theorem Surveys.step {first : Except SettingFault α} {next : α → Except SettingFault β}
    (now : Surveys registry values Gives [setting] first)
    (later : ∀ value, Gives value → Surveys registry values Gives' ahead (next value)) :
    Surveys registry values Gives' (setting :: ahead) (first >>= next) :=
  now.bind later

/-! ## The five readings -/

/-- A text is read as a mode exactly if it is its name. -/
theorem ofName?_eq_some_iff {mode : Mode} : Mode.ofName? text = some mode ↔ text = mode.name := by
  unfold Mode.ofName?
  split <;> cases mode <;> simp_all [Mode.name]

/-- The reading of the mode gives the mode of that name or finds that there is none. -/
theorem readMode_surveys (given : values.Given .mode text) :
    Surveys registry values (fun mode => values.Given .mode mode.name) [.mode] (readMode text) := by
  unfold readMode
  cases named : Mode.ofName? text with
  | some mode =>
    obtain rfl : text = mode.name := ofName?_eq_some_iff.mp named
    exact .past (.of_accepts given ⟨mode, rfl⟩) given
  | none =>
    have refused : ¬ Accepts registry text .mode := by
      rintro ⟨mode, same⟩
      rw [ofName?_eq_some_iff.mpr same] at named
      cases named
    exact .refused (.badMode text) given refused (iff_of_true rfl (.inl rfl))

/-- The reading of the network gives what the registry has under the name or finds that there is
nothing. -/
theorem readNetwork_surveys (given : values.Given .network text) :
    Surveys registry values
      (fun descriptor => ∃ text, values.Given .network text ∧ registry.find? text = some descriptor)
      [.network] (readNetwork registry text) := by
  unfold readNetwork
  cases found : registry.find? text with
  | some descriptor =>
    rw [Registry.lookup_of_some found]
    exact .past (.of_accepts given ⟨descriptor, found⟩) ⟨text, given, found⟩
  | none =>
    have refused : ¬ Accepts registry text .network := by
      rintro ⟨descriptor, found'⟩
      rw [found'] at found
      cases found
    rw [Registry.lookup_of_none found]
    exact .refused (.badNetwork text (.unsupported (registry.unsupported text))) given refused
      (iff_of_true rfl (.inr rfl))

/-- A text is read as the port that it is. -/
theorem readPort_eq_ok_iff {port : UInt16} : readPort text = .ok port ↔ IsPort text port := by
  unfold readPort IsPort
  cases reads : Numeral.readUnsigned 10 0xFFFF text.toList with
  | ok n =>
    obtain ⟨digits, signed, present, decimal, within⟩ :=
      Numeral.readUnsigned_ten_eq_ok_iff.mp reads
    have number : (UInt16.ofNat n).toNat = n := UInt16.toNat_ofNat_of_lt' (by
      show n < 65536
      omega)
    simp only [Except.ok.injEq]
    constructor
    · rintro rfl
      rw [← number] at decimal
      exact ⟨digits, signed, present, decimal⟩
    · rintro ⟨digits', signed', present', decimal'⟩
      have below := port.toNat_lt
      have reads' := Numeral.readUnsigned_ten_eq_ok_iff.mpr
        ⟨digits', signed', present', decimal', (by omega : port.toNat ≤ 0xFFFF)⟩
      rw [reads] at reads'
      rw [Except.ok.inj reads', UInt16.ofNat_toNat]
  | error error =>
    simp only [reduceCtorEq, false_iff]
    rintro ⟨digits, signed, present, decimal⟩
    have below := port.toNat_lt
    have reads' := Numeral.readUnsigned_ten_eq_ok_iff.mpr
      ⟨digits, signed, present, decimal, (by omega : port.toNat ≤ 0xFFFF)⟩
    rw [reads] at reads'
    cases reads'

/-- The reading of the port gives the port of these digits or finds that there is none. -/
theorem readPort_surveys (given : values.Given .port text) :
    Surveys registry values (fun port => ∃ text, values.Given .port text ∧ IsPort text port)
      [.port] (readPort text) := by
  cases reads : readPort text with
  | ok port =>
    have isPort : IsPort text port := readPort_eq_ok_iff.mp reads
    exact .past (.of_accepts given ⟨port, isPort⟩) ⟨text, given, isPort⟩
  | error fault =>
    have refused : ¬ Accepts registry text .port := by
      rintro ⟨port, isPort⟩
      rw [readPort_eq_ok_iff.mpr isPort] at reads
      cases reads
    obtain ⟨error, rfl⟩ : ∃ error, fault = .badPort text error := by
      unfold readPort at reads
      split at reads
      · cases reads
      · exact ⟨_, (Except.error.inj reads).symm⟩
    exact .refused (.badPort text error) given refused
      (by simp [SettingFault.problem, SettingFault.setting])

/-- The address is the given one, and the usual one, which is fine, where none is given. -/
theorem readUrl_surveys (registry : Registry) (values : Variables) :
    Surveys registry values
      (fun url => ∃ text, (values.Given .nodeUrl text ∨
        values.Unset .nodeUrl ∧ text = defaultNodeUrl) ∧ Url.parse text = .ok url)
      [.nodeUrl] (readUrl ((values.value? .nodeUrl).getD defaultNodeUrl)) := by
  cases value : values.value? .nodeUrl with
  | none =>
    have unset := Variables.value?_eq_none_iff.mp value
    rw [Option.getD_none, readUrl_of_parse parse_defaultNodeUrl]
    exact .past (.of_unset nodeUrl_not_leading unset)
      ⟨defaultNodeUrl, .inr ⟨unset, rfl⟩, parse_defaultNodeUrl⟩
  | some text =>
    have given := Variables.value?_eq_some_iff.mp value
    rw [Option.getD_some]
    cases parses : Url.parse text with
    | ok url =>
      rw [readUrl_of_parse parses]
      exact .past (.of_accepts given ⟨url, parses⟩) ⟨text, .inl given, parses⟩
    | error error =>
      have refused : ¬ Accepts registry text .nodeUrl := by
        rintro ⟨url, parses'⟩
        rw [parses] at parses'
        cases parses'
      unfold readUrl
      rw [parses]
      exact .refused (.badUrl text error) given refused
        (by simp [SettingFault.problem, SettingFault.setting])

/-- The flag is the given one, and not set where none is given. -/
theorem readFlag_surveys (registry : Registry) (values : Variables) :
    Surveys registry values
      (fun flag => values.Given .skipNodeAdmin (flagText flag) ∨
        values.Unset .skipNodeAdmin ∧ flag = false)
      [.skipNodeAdmin] (readFlag (values.value? .skipNodeAdmin)) := by
  cases value : values.value? .skipNodeAdmin with
  | none =>
    have unset := Variables.value?_eq_none_iff.mp value
    exact .past (.of_unset skipNodeAdmin_not_leading unset) (.inr ⟨unset, rfl⟩)
  | some text =>
    have given := Variables.value?_eq_some_iff.mp value
    by_cases set : text = "true"
    · subst set
      exact .past (.of_accepts given ⟨true, rfl⟩) (.inl given)
    · by_cases cleared : text = "false"
      · subst cleared
        exact .past (.of_accepts given ⟨false, rfl⟩) (.inl given)
      · have refused : ¬ Accepts registry text .skipNodeAdmin := by
          rintro ⟨flag, word⟩
          cases flag with
          | true => exact set word
          | false => exact cleared word
        have fails : readFlag (some text) = .error (.badFlag text) := by
          unfold readFlag
          split <;> simp_all
        rw [fails]
        exact .refused (.badFlag text) given refused
          (by simp [SettingFault.problem, SettingFault.setting])

end

/-! ## The configuration -/

/-- Reading a configuration goes through all settings in their order, and gives the configuration
that they describe. -/
theorem read_surveys (registry : Registry) (values : Variables) :
    Surveys registry values (Describes registry values) Setting.order (read registry values) := by
  unfold read
  refine .required (by decide) fun modeText givenMode => ?_
  refine .step (readMode_surveys givenMode) fun mode isMode => ?_
  refine .required (by decide) fun networkText givenNetwork => ?_
  refine .step (readNetwork_surveys givenNetwork) fun network isNetwork => ?_
  refine .required (by decide) fun portText givenPort => ?_
  refine .step (readPort_surveys givenPort) fun port isPort => ?_
  refine .step (readUrl_surveys registry values) fun nodeUrl isUrl => ?_
  refine .step (readFlag_surveys registry values) fun flag isFlag => ?_
  have remote : (values.value? .nodeUrl).isSome = true ↔ ¬ values.Unset .nodeUrl := by
    rw [← Variables.value?_eq_none_iff, Option.isSome_iff_ne_none]
  exact .through (fun _ among => absurd among List.not_mem_nil)
    ⟨isMode, isNetwork, isPort, isUrl, remote, isFlag⟩

section

variable {registry : Registry} {values values' : Variables} {configuration other : Configuration}
  {journal : Journal}

/-- The settings describe one configuration only. -/
theorem Describes.unique (one : Describes registry values configuration)
    (another : Describes registry values other) : configuration = other := by
  obtain ⟨mode, network, port, nodeUrl, remoteNode, skipNodeAdmin⟩ := configuration
  obtain ⟨mode', network', port', nodeUrl', remoteNode', skipNodeAdmin'⟩ := other
  have sameMode : mode = mode' :=
    Option.some.inj ((ofName?_eq_some_iff.mpr rfl).symm.trans
      (ofName?_eq_some_iff.mpr (one.mode.unique another.mode)))
  have sameNetwork : network = network' := by
    obtain ⟨text, given, found⟩ := one.network
    obtain ⟨text', given', found'⟩ := another.network
    rw [given.unique given'] at found
    exact Option.some.inj (found.symm.trans found')
  have samePort : port = port' := by
    obtain ⟨text, given, isPort⟩ := one.port
    obtain ⟨text', given', isPort'⟩ := another.port
    rw [given.unique given', ← readPort_eq_ok_iff] at isPort
    exact Except.ok.inj (isPort.symm.trans (readPort_eq_ok_iff.mpr isPort'))
  have sameUrl : nodeUrl = nodeUrl' := by
    obtain ⟨text, origin, parses⟩ := one.nodeUrl
    obtain ⟨text', origin', parses'⟩ := another.nodeUrl
    have sameText : text = text' := by
      rcases origin with given | ⟨unset, usual⟩
      · rcases origin' with given' | ⟨unset', -⟩
        · exact given.unique given'
        · exact absurd unset' given.not_unset
      · rcases origin' with given' | ⟨-, usual'⟩
        · exact absurd unset given'.not_unset
        · rw [usual, usual']
    rw [sameText] at parses
    exact Except.ok.inj (parses.symm.trans parses')
  have sameRemote : remoteNode = remoteNode' :=
    Bool.eq_iff_iff.mpr (one.remoteNode.trans another.remoteNode.symm)
  have sameFlag : skipNodeAdmin = skipNodeAdmin' := by
    rcases one.skipNodeAdmin with given | ⟨unset, cleared⟩
    · rcases another.skipNodeAdmin with given' | ⟨unset', -⟩
      · exact flagText_injective (given.unique given')
      · exact absurd unset' given.not_unset
    · rcases another.skipNodeAdmin with given' | ⟨-, cleared'⟩
      · exact absurd unset given'.not_unset
      · exact cleared.trans cleared'.symm
  subst sameMode sameNetwork samePort sameUrl sameRemote sameFlag
  rfl

/-- Settings that are the same, be it because they are unset, are read the same. -/
theorem read_congr (agree : ∀ setting, values setting.name = values' setting.name ∨
      values.Unset setting ∧ values'.Unset setting) :
    read registry values = read registry values' := by
  have same : ∀ setting, values.value? setting = values'.value? setting := by
    intro setting
    rcases agree setting with same | ⟨unset, unset'⟩
    · unfold Variables.value?
      rw [same]
    · rw [Variables.value?_eq_none_iff.mpr unset, Variables.value?_eq_none_iff.mpr unset']
  unfold read Variables.required
  simp only [same]

/-- A configuration that is not loaded is one that is not read, and the error is the one that the
fault becomes. -/
theorem load_of_error {error : SettingError}
    (ends : (load registry values journal).1 = .error error) :
    ∃ fault, read registry values = .error fault ∧ error = (fault.toError journal).1 := by
  unfold load at ends
  cases reads : read registry values with
  | ok configuration =>
    rw [reads] at ends
    cases ends
  | error fault =>
    rw [reads] at ends
    exact ⟨fault, rfl, (Except.error.inj ends).symm⟩

/-- What is read where all settings are valid. -/
theorem read_of_valid (valid : ∀ setting, Valid registry values setting) :
    ∃ configuration, read registry values = .ok configuration ∧
      Describes registry values configuration := by
  have surveys := read_surveys registry values
  cases reads : read registry values with
  | ok configuration =>
    rw [reads] at surveys
    exact ⟨configuration, rfl, surveys.of_ok⟩
  | error fault =>
    rw [reads] at surveys
    obtain ⟨-, -, -, -, explained⟩ := surveys.of_error
    rcases explained.faulty with missing | malformed
    · exact absurd missing (valid fault.setting).1
    · exact absurd malformed (valid fault.setting).2

end

/-- A configuration that is refused is so for the first setting in order that is missing or
malformed: the error names it, and is one of parsing unless the setting is missing or is the mode or
the network.  Where all settings are valid, the one configuration that they describe is loaded.
Variables that have the same texts under the five names, an empty text counting as none, have the
same outcome. -/
theorem load_first_fault (registry : Registry) (values : Variables) (journal : Journal) :
    Setting.order.map Setting.name = ["MODE", "NETWORK", "PORT", "GETH", "SKIP_GETH_ADMIN"] ∧
    (∀ error, (load registry values journal).1 = .error error →
      ∃ front setting back, Setting.order = front ++ setting :: back ∧
        error.variableName? = some setting.name ∧
        (Missing values setting ∨ Malformed registry values setting) ∧
        (∀ earlier ∈ front, Valid registry values earlier) ∧
        (error.problem = .invalid ↔
          Missing values setting ∨ setting = .mode ∨ setting = .network)) ∧
    ((∀ setting, Valid registry values setting) →
      ∃ configuration, load registry values journal = (.ok configuration, journal) ∧
        Describes registry values configuration ∧
        ∀ other, Describes registry values other → other = configuration) ∧
    ∀ values' : Variables,
      (∀ name ∈ ["MODE", "NETWORK", "PORT", "GETH", "SKIP_GETH_ADMIN"],
        values name = values' name ∨
          (values name = none ∨ values name = some "") ∧
            (values' name = none ∨ values' name = some "")) →
      load registry values journal = load registry values' journal := by
  refine ⟨Setting.names_order, ?refused, ?loaded, ?same⟩
  case refused =>
    intro error ends
    obtain ⟨fault, reads, rfl⟩ := load_of_error ends
    have surveys := read_surveys registry values
    rw [reads] at surveys
    obtain ⟨front, back, split, valid, explained⟩ := surveys.of_error
    exact ⟨front, fault.setting, back, split, toError_variableName? fault journal,
      explained.faulty, valid, explained.kind⟩
  case loaded =>
    intro valid
    obtain ⟨configuration, reads, describes⟩ := read_of_valid valid
    exact ⟨configuration, load_of_read reads journal, describes,
      fun other describes' => describes'.unique describes⟩
  case same =>
    intro values' agree
    have agreeSetting : ∀ setting : Setting, values setting.name = values' setting.name ∨
        values.Unset setting ∧ values'.Unset setting := fun setting =>
      agree setting.name (List.mem_map_of_mem setting.mem_order)
    unfold load
    rw [read_congr agreeSetting]

/-- The variables of an offline process with the given port, address and flag. -/
def offlineWith (port : String) (address flag : Option String) : Variables := fun name =>
  if name = "MODE" then some "OFFLINE"
  else if name = "NETWORK" then some "Buffalo"
  else if name = "PORT" then some port
  else if name = "GETH" then address
  else if name = "SKIP_GETH_ADMIN" then flag
  else none

/-- With a port that is one, all settings of this process are valid. -/
theorem offlineWith_valid {port : String} (isPort : ∃ number, IsPort port number)
    (filled : port ≠ "") :
    ∀ setting, Valid .standard (offlineWith port none none) setting := by
  have mode : (offlineWith port none none).Given .mode "OFFLINE" := ⟨rfl, by decide⟩
  have network : (offlineWith port none none).Given .network "Buffalo" := ⟨rfl, by decide⟩
  intro setting
  cases setting with
  | mode => exact .of_accepts mode ⟨.offline, rfl⟩
  | network => exact .of_accepts network ⟨.ofNetwork .buffalo, by decide +kernel⟩
  | port => exact .of_accepts ⟨rfl, filled⟩ isPort
  | nodeUrl => exact .of_unset (by decide) (.inl rfl)
  | skipNodeAdmin => exact .of_unset (by decide) (.inl rfl)

/-- A port with a blank comes before an address that is none; the greatest port is one, with a sign
and zeros in front of it; and it makes no difference whether the other two settings are empty or
not there. -/
theorem load_first_fault_port :
    (∃ error front back,
      (load .standard (offlineWith "80 80" (some "not a url") none) .empty).1 = .error error ∧
        error.variableName? = some "PORT" ∧ Setting.order = front ++ .port :: back ∧
        (∀ earlier ∈ front,
          Valid .standard (offlineWith "80 80" (some "not a url") none) earlier)) ∧
    (∀ setting, Valid .standard (offlineWith "+0065535" none none) setting) ∧
    (∃ configuration,
      load .standard (offlineWith "+0065535" none none) .empty = (.ok configuration, .empty) ∧
        Describes .standard (offlineWith "+0065535" none none) configuration) ∧
    load .standard (offlineWith "+0065535" none none) .empty
      = load .standard (offlineWith "+0065535" (some "") (some "")) .empty := by
  have isPort : IsPort "+0065535" 65535 := readPort_eq_ok_iff.mp (by decide +kernel)
  have valid := offlineWith_valid ⟨65535, isPort⟩ (by decide)
  obtain ⟨-, refused, -, -⟩ :=
    load_first_fault .standard (offlineWith "80 80" (some "not a url") none) .empty
  obtain ⟨-, -, loaded, same⟩ :=
    load_first_fault .standard (offlineWith "+0065535" none none) .empty
  refine ⟨?_, valid, ?_, ?_⟩
  · have blamed : told (load .standard (offlineWith "80 80" (some "not a url") none) .empty).1
        = .error (some "PORT") := by decide +kernel
    cases outcome : (load .standard (offlineWith "80 80" (some "not a url") none) .empty).1 with
    | ok configuration =>
      rw [outcome] at blamed
      cases blamed
    | error error =>
      rw [outcome] at blamed
      have named : error.variableName? = some "PORT" := Except.error.inj blamed
      obtain ⟨front, setting, back, split, named', -, valid, -⟩ := refused error outcome
      obtain rfl : setting = .port := Setting.name_injective
        (Option.some.inj (named'.symm.trans named))
      exact ⟨error, front, back, rfl, named, split, valid⟩
  · obtain ⟨configuration, loads, describes, -⟩ := loaded valid
    exact ⟨configuration, loads, describes⟩
  · refine same _ fun name among => ?_
    simp only [List.mem_cons, List.not_mem_nil, or_false] at among
    rcases among with rfl | rfl | rfl | rfl | rfl
    · exact .inl rfl
    · exact .inl rfl
    · exact .inl rfl
    · exact .inr ⟨.inl rfl, .inr rfl⟩
    · exact .inr ⟨.inl rfl, .inr rfl⟩

end Configuration

end ChainIdentity
