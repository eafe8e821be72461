import ChainIdentity.Proofs.Configuration
import ChainIdentity.Proofs.Raising

/-!
# What the address of the node decides

The variables of a configuration are read one after the other, and the address of the node is read
like the others, offline as well as online.  So an address that cannot be read is a fault in either
mode.  `load_told_eq_iff` says what that means for two sets of variables that differ in the address
only: loading tells them apart exactly if it gets as far as the address and can read one of the
two only.  The mode has no part in it, and `load_tells_offline` shows two such sets for an offline
process.

The variables in front of the address decide first.  `front` is their part of the reading and
`back` the rest, and `told_load` puts together from the two what loading tells.
-/

namespace ChainIdentity

/-- The settings in the order in which they are read. -/
def Setting.order : List Setting := [.mode, .network, .port, .nodeUrl, .skipNodeAdmin]

/-- The names of the settings in this order. -/
theorem Setting.names_order :
    order.map name = ["MODE", "NETWORK", "PORT", "GETH", "SKIP_GETH_ADMIN"] := rfl

/-- Every setting is read. -/
theorem Setting.mem_order (setting : Setting) : setting ∈ order := by
  cases setting <;> decide

/-- Different variables have different names. -/
theorem Setting.name_injective {setting setting' : Setting}
    (same : setting.name = setting'.name) : setting = setting' := by
  revert same
  cases setting <;> cases setting' <;> decide

namespace Configuration

/-! ## Which variable is at fault -/

/-- A reading that fails does so because of one of the given variables. -/
def BlamesOnly {α : Type} (settings : List Setting) (reading : Except SettingFault α) : Prop :=
  ∀ fault, reading = .error fault → fault.setting ∈ settings

namespace BlamesOnly

variable {α β : Type} {settings : List Setting}

/-- A reading that succeeds blames nothing. -/
theorem ok (value : α) : BlamesOnly settings (.ok value) := by
  intro fault contra
  cases contra

/-- A fault of one of the variables blames that one. -/
theorem error {fault : SettingFault} (among : fault.setting ∈ settings) :
    BlamesOnly settings (.error fault : Except SettingFault α) := by
  intro fault' same
  rw [← Except.error.inj same]
  exact among

/-- Two steps in a row blame no other variables than each of them does. -/
theorem bind {first : Except SettingFault α} {next : α → Except SettingFault β}
    (now : BlamesOnly settings first) (later : ∀ value, BlamesOnly settings (next value)) :
    BlamesOnly settings (first >>= next) := by
  cases first with
  | ok value => exact later value
  | error fault => exact error (now fault rfl)

end BlamesOnly

section

variable {settings : List Setting}

/-- A variable that is not there is itself to blame. -/
theorem required_blames {setting : Setting} (among : setting ∈ settings) (values : Variables) :
    BlamesOnly settings (values.required setting) := by
  unfold Variables.required
  split
  · exact .ok _
  · exact .error among

/-- A word that is no mode is a fault of the variable that it was read from. -/
theorem readMode_blames (among : .mode ∈ settings) (text : String) :
    BlamesOnly settings (readMode text) := by
  unfold readMode
  split
  · exact .ok _
  · exact .error among

/-- A name without descriptor is a fault of the variable that it was read from. -/
theorem readNetwork_blames (among : .network ∈ settings) (registry : Registry) (text : String) :
    BlamesOnly settings (readNetwork registry text) := by
  unfold readNetwork
  split
  · exact .ok _
  · exact .error among

/-- A text that is no port is a fault of the variable that it was read from. -/
theorem readPort_blames (among : .port ∈ settings) (text : String) :
    BlamesOnly settings (readPort text) := by
  unfold readPort
  split
  · exact .ok _
  · exact .error among

/-- A text that is no address is a fault of the variable that it was read from. -/
theorem readUrl_blames (among : .nodeUrl ∈ settings) (text : String) :
    BlamesOnly settings (readUrl text) := by
  unfold readUrl
  split
  · exact .ok _
  · exact .error among

/-- A word that is no flag is a fault of the variable that it was read from. -/
theorem readFlag_blames (among : .skipNodeAdmin ∈ settings) (text : Option String) :
    BlamesOnly settings (readFlag text) := by
  unfold readFlag
  split
  · exact .ok _
  · exact .ok _
  · exact .ok _
  · exact .error among

end

/-! ## Reading in two parts -/

/-- The variables in front of the address. -/
def leading : List Setting := [.mode, .network, .port]

/-- The address is not in front of itself. -/
theorem nodeUrl_not_leading : Setting.nodeUrl ∉ leading := by decide

/-- The flag is read behind the address. -/
theorem skipNodeAdmin_not_leading : Setting.skipNodeAdmin ∉ leading := by decide

/-- What the variables in front of the address say. -/
def front (registry : Registry) (values : Variables) :
    Except SettingFault (Mode × Descriptor × UInt16) := do
  let mode ← readMode (← values.required .mode)
  let network ← readNetwork registry (← values.required .network)
  let port ← readPort (← values.required .port)
  return (mode, network, port)

/-- What the address and the variable behind it add to those in front. -/
def back (values : Variables) : Mode × Descriptor × UInt16 → Except SettingFault Configuration
  | (mode, network, port) => do
    let nodeUrl ← readUrl ((values.value? .nodeUrl).getD defaultNodeUrl)
    let skipNodeAdmin ← readFlag (values.value? .skipNodeAdmin)
    return ⟨mode, network, port, nodeUrl, (values.value? .nodeUrl).isSome, skipNodeAdmin⟩

/-- All variables are read by reading those in front of the address first and then the rest. -/
theorem read_eq (registry : Registry) (values : Variables) :
    read registry values = front registry values >>= back values := by
  unfold read front back
  simp only [bind_assoc, pure_bind]

/-- What is wrong in front of the address is wrong with the mode, the network or the port. -/
theorem front_blames (registry : Registry) (values : Variables) :
    BlamesOnly leading (front registry values) := by
  have mode : Setting.mode ∈ leading := by decide
  have network : Setting.network ∈ leading := by decide
  have port : Setting.port ∈ leading := by decide
  refine .bind (required_blames mode values) fun modeText => ?_
  refine .bind (readMode_blames mode modeText) fun _ => ?_
  refine .bind (required_blames network values) fun networkText => ?_
  refine .bind (readNetwork_blames network registry networkText) fun _ => ?_
  refine .bind (required_blames port values) fun portText => ?_
  refine .bind (readPort_blames port portText) fun _ => ?_
  exact .ok _

/-- The address can be read, be it given or the usual one. -/
def NamesNode (values : Variables) : Prop :=
  ∃ url, readUrl ((values.value? .nodeUrl).getD defaultNodeUrl) = .ok url

/-! ## What loading tells -/

/-- What an outcome of loading tells, the address apart: mode, network, port and the last variable,
or the name of the variable at fault. -/
def told : Except SettingError Configuration →
    Except (Option String) (Mode × Descriptor × UInt16 × Bool)
  | .ok configuration =>
    .ok (configuration.mode, configuration.network, configuration.port,
      configuration.skipNodeAdmin)
  | .error error => .error error.variableName?

/-- The error of a fault names the variable at fault. -/
theorem toError_variableName? (fault : SettingFault) (journal : Journal) :
    (fault.toError journal).1.variableName? = some fault.setting.name := by
  have raised : (fault.toError journal).1.context.note = fault.note :=
    Context.make_note fault.note (fault.source journal).1 (fault.source journal).2
  unfold SettingError.variableName?
  rw [Context.get?_of_about raised, if_pos rfl]

section

variable {registry : Registry} {values values' : Variables} {journal journal' : Journal}

/-- Loading that fails tells the name of the variable at fault. -/
theorem told_load_of_error {fault : SettingFault} (ends : read registry values = .error fault) :
    told (load registry values journal).1 = .error (some fault.setting.name) := by
  have loads : (load registry values journal).1 = .error (fault.toError journal).1 := by
    unfold load
    rw [ends]
    rfl
  rw [loads]
  exact congrArg Except.error (toError_variableName? fault journal)

/-- Loading that succeeds tells what is configured, the address apart. -/
theorem told_load_of_ok {configuration : Configuration}
    (ends : read registry values = .ok configuration) :
    told (load registry values journal).1
      = .ok (configuration.mode, configuration.network, configuration.port,
          configuration.skipNodeAdmin) := by
  unfold load
  rw [ends]
  rfl

/-- Loading that fails in front of the address blames a variable there. -/
theorem told_load_of_front {fault : SettingFault} (ends : front registry values = .error fault)
    (journal : Journal) :
    fault.setting ∈ leading ∧
      told (load registry values journal).1 = .error (some fault.setting.name) := by
  refine ⟨front_blames registry values fault ends, told_load_of_error ?_⟩
  rw [read_eq, ends]
  rfl

/-- Loading that gets as far as the address and cannot read it blames it. -/
theorem told_load_of_not_namesNode {read : Mode × Descriptor × UInt16}
    (ends : front registry values = .ok read) (unreadable : ¬ NamesNode values) :
    told (load registry values journal).1 = .error (some Setting.nodeUrl.name) := by
  cases reads : readUrl ((values.value? .nodeUrl).getD defaultNodeUrl) with
  | ok url => exact absurd ⟨url, reads⟩ unreadable
  | error fault =>
    have blamed : fault.setting = .nodeUrl := by
      simpa using readUrl_blames (List.mem_singleton.mpr rfl) _ fault reads
    rw [← blamed]
    refine told_load_of_error ?_
    rw [read_eq, ends]
    show back values read = _
    unfold back
    rw [reads]
    rfl

/-- Loading that gets past the address is decided by what is behind it. -/
theorem told_load_of_namesNode {mode : Mode} {network : Descriptor} {port : UInt16}
    (ends : front registry values = .ok (mode, network, port)) (readable : NamesNode values) :
    told (load registry values journal).1 =
      match readFlag (values.value? .skipNodeAdmin) with
      | .ok skipNodeAdmin => .ok (mode, network, port, skipNodeAdmin)
      | .error _ => .error (some Setting.skipNodeAdmin.name) := by
  obtain ⟨url, reads⟩ := readable
  have past : read registry values = back values (mode, network, port) := by
    rw [read_eq, ends]
    rfl
  unfold back at past
  rw [reads] at past
  cases flag : readFlag (values.value? .skipNodeAdmin) with
  | ok skipNodeAdmin =>
    rw [flag] at past
    exact told_load_of_ok past
  | error fault =>
    have blamed : fault.setting = .skipNodeAdmin := by
      simpa using readFlag_blames (List.mem_singleton.mpr rfl) _ fault flag
    rw [flag] at past
    show _ = Except.error (some Setting.skipNodeAdmin.name)
    rw [← blamed]
    exact told_load_of_error past

end

/-! ## Two addresses -/

section

variable {registry : Registry} {values values' : Variables} {journal journal' : Journal}

/-- Variables that agree but for the address have the same values but for the address. -/
theorem value?_congr (agree : ∀ name, name ≠ Setting.nodeUrl.name → values name = values' name)
    {setting : Setting} (other : setting.name ≠ Setting.nodeUrl.name) :
    values.value? setting = values'.value? setting := by
  unfold Variables.value?
  rw [agree setting.name other]

/-- The address has no part in what stands in front of it. -/
theorem front_congr (agree : ∀ name, name ≠ Setting.nodeUrl.name → values name = values' name) :
    front registry values = front registry values' := by
  have mode : values.value? .mode = values'.value? .mode := value?_congr agree (by decide)
  have network : values.value? .network = values'.value? .network := value?_congr agree (by decide)
  have port : values.value? .port = values'.value? .port := value?_congr agree (by decide)
  unfold front Variables.required
  rw [mode, network, port]

/-- What is told where the address can be read is not that the address is at fault, nor anything in
front of it. -/
theorem told_load_ne_of_namesNode {read : Mode × Descriptor × UInt16}
    (ends : front registry values = .ok read) (readable : NamesNode values) {setting : Setting}
    (early : setting ≠ .skipNodeAdmin) :
    told (load registry values journal).1 ≠ .error (some setting.name) := by
  obtain ⟨mode, network, port⟩ := read
  rw [told_load_of_namesNode ends readable]
  cases readFlag (values.value? .skipNodeAdmin) with
  | ok skipNodeAdmin => exact fun contra => nomatch contra
  | error fault =>
    intro same
    have named : Setting.skipNodeAdmin.name = setting.name :=
      Option.some.inj (Except.error.inj same)
    exact early (Setting.name_injective named.symm)

/-- Loading blames a variable in front of the address exactly if it does not get past them. -/
theorem told_load_leading_iff :
    (∃ setting ∈ leading,
        told (load registry values journal).1 = .error (some setting.name)) ↔
      ∃ fault, front registry values = .error fault := by
  constructor
  · rintro ⟨setting, leads, tells⟩
    cases ends : front registry values with
    | error fault => exact ⟨fault, rfl⟩
    | ok read =>
      by_cases readable : NamesNode values
      · refine absurd tells (told_load_ne_of_namesNode ends readable ?_)
        rintro rfl
        exact skipNodeAdmin_not_leading leads
      · rw [told_load_of_not_namesNode ends readable] at tells
        obtain rfl : Setting.nodeUrl = setting :=
          Setting.name_injective (Option.some.inj (Except.error.inj tells))
        exact absurd leads nodeUrl_not_leading
  · rintro ⟨fault, ends⟩
    exact ⟨fault.setting, told_load_of_front ends journal⟩

/-- Loading blames the address exactly if it gets as far and cannot read it. -/
theorem told_load_nodeUrl_iff :
    told (load registry values journal).1 = .error (some Setting.nodeUrl.name) ↔
      ¬ NamesNode values ∧ ¬ ∃ fault, front registry values = .error fault := by
  cases ends : front registry values with
  | error fault =>
    obtain ⟨leads, tells⟩ := told_load_of_front ends journal
    rw [tells]
    constructor
    · intro same
      have nodeUrl : fault.setting = .nodeUrl :=
        Setting.name_injective (Option.some.inj (Except.error.inj same))
      rw [nodeUrl] at leads
      exact absurd leads nodeUrl_not_leading
    · rintro ⟨-, fine⟩
      exact absurd ⟨fault, rfl⟩ fine
  | ok read =>
    constructor
    · intro tells
      refine ⟨fun readable => ?_, fun ⟨fault, contra⟩ => nomatch contra⟩
      exact told_load_ne_of_namesNode ends readable (by decide) tells
    · rintro ⟨unreadable, -⟩
      exact told_load_of_not_namesNode ends unreadable

/-- Two addresses behind the same variables, which are fine: loading tells the same of them exactly
if it can read both or neither. -/
theorem told_load_congr_iff
    (agree : ∀ name, name ≠ Setting.nodeUrl.name → values name = values' name)
    {read : Mode × Descriptor × UInt16} (ends : front registry values = .ok read) :
    told (load registry values journal).1 = told (load registry values' journal').1 ↔
      (NamesNode values ↔ NamesNode values') := by
  have ends' : front registry values' = .ok read := (front_congr agree).symm.trans ends
  have flag : values.value? .skipNodeAdmin = values'.value? .skipNodeAdmin :=
    value?_congr agree (by decide)
  by_cases readable : NamesNode values
  · by_cases readable' : NamesNode values'
    · obtain ⟨mode, network, port⟩ := read
      rw [told_load_of_namesNode ends readable, told_load_of_namesNode ends' readable', flag]
      exact iff_of_true rfl (iff_of_true readable readable')
    · rw [told_load_of_not_namesNode ends' readable']
      refine iff_of_false (told_load_ne_of_namesNode ends readable (by decide)) ?_
      exact fun same => readable' (same.mp readable)
  · rw [told_load_of_not_namesNode ends readable]
    by_cases readable' : NamesNode values'
    · refine iff_of_false ?_ fun same => readable (same.mpr readable')
      exact (told_load_ne_of_namesNode ends' readable' (by decide)).symm
    · rw [told_load_of_not_namesNode ends' readable']
      exact iff_of_true rfl (iff_of_false readable readable')

/-- What an address does, in either mode.  Of two sets of variables that agree but for the address,
loading tells the same exactly if it fails in front of the address, or can read both addresses, or
neither.  It blames the address exactly if it cannot read it and nothing in front of it is wrong. -/
theorem load_told_eq_iff
    (agree : ∀ name, name ≠ "GETH" → values name = values' name) :
    (told (load registry values journal).1 = told (load registry values' journal').1 ↔
      (∃ setting ∈ leading,
        told (load registry values journal).1 = .error (some setting.name)) ∨
      (NamesNode values ↔ NamesNode values')) ∧
    (told (load registry values journal).1 = .error (some "GETH") ↔
      ¬ NamesNode values ∧ ¬ ∃ setting ∈ leading,
        told (load registry values journal).1 = .error (some setting.name)) := by
  have blamed : told (load registry values journal).1 = .error (some "GETH") ↔
      ¬ NamesNode values ∧ ¬ ∃ setting ∈ leading,
        told (load registry values journal).1 = .error (some setting.name) := by
    rw [told_load_leading_iff]
    exact told_load_nodeUrl_iff
  refine ⟨?_, blamed⟩
  rw [told_load_leading_iff]
  cases ends : front registry values with
  | error fault =>
    have ends' : front registry values' = .error fault := (front_congr agree).symm.trans ends
    have tells := (told_load_of_front ends journal).2
    have tells' := (told_load_of_front ends' journal').2
    exact iff_of_true (tells.trans tells'.symm) (.inl ⟨fault, rfl⟩)
  | ok read =>
    rw [told_load_congr_iff agree ends]
    constructor
    · exact .inr
    · rintro (⟨fault, contra⟩ | same)
      · cases contra
      · exact same

end

/-- The variables of an offline process. -/
def offlineVariables (address : Option String) : Variables := fun name =>
  if name = "GETH" then address
  else if name = "MODE" then some "OFFLINE"
  else if name = "NETWORK" then some "Core"
  else if name = "PORT" then some "8080"
  else none

/-- These variables differ in the address only. -/
theorem offlineVariables_agree (address address' : Option String) :
    ∀ name, name ≠ "GETH" →
      offlineVariables address name = offlineVariables address' name := by
  intro name other
  unfold offlineVariables
  rw [if_neg other, if_neg other]

/-- Without an address an offline process is configured, and with one that cannot be read it is
not. -/
theorem load_told_eq_iff_offline :
    (∀ name, name ≠ "GETH" →
      offlineVariables none name = offlineVariables (some "not a url") name) ∧
    (told (load .standard (offlineVariables none) .empty).1
        = told (load .standard (offlineVariables (some "not a url")) .empty).1 ↔
      (∃ setting ∈ leading, told (load .standard (offlineVariables none) .empty).1
        = .error (some setting.name)) ∨
      (NamesNode (offlineVariables none) ↔ NamesNode (offlineVariables (some "not a url")))) ∧
    (told (load .standard (offlineVariables none) .empty).1).isOk = true ∧
    (told (load .standard (offlineVariables (some "not a url")) .empty).1).isOk = false := by
  have agree := offlineVariables_agree none (some "not a url")
  exact ⟨agree, (load_told_eq_iff agree).1, by decide +kernel, by decide +kernel⟩

/-- The address is not left alone offline: two sets of variables of an offline process that agree
but for the address may be told apart, because one of them is no configuration at all. -/
theorem load_tells_offline :
    ¬ ∀ (registry : Registry) (values values' : Variables) (journal : Journal),
      values "MODE" = some "OFFLINE" → values' "MODE" = some "OFFLINE" →
      (∀ name, name ≠ "GETH" → values name = values' name) →
      told (load registry values journal).1 = told (load registry values' journal).1 := by
  intro ignored
  have same := ignored .standard (offlineVariables none) (offlineVariables (some "not a url"))
    .empty rfl rfl (offlineVariables_agree _ _)
  have fine : (told (load .standard (offlineVariables none) .empty).1).isOk = true := by
    decide +kernel
  have wrong : (told (load .standard (offlineVariables (some "not a url")) .empty).1).isOk
      = false := by decide +kernel
  rw [same, wrong] at fine
  cases fine

end Configuration

end ChainIdentity
