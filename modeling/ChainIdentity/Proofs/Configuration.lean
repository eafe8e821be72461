import ChainIdentity.Configuration
import ChainIdentity.Proofs.Registry

/-!
# What a configuration says

A configuration that is read holds what each of the five variables says, and nothing else.
`read_of_ok` takes a successful reading apart into the readings of the variables, so that a
proof about one of them does not go through the others.
-/

namespace ChainIdentity.Configuration

variable {registry : Registry} {values : Variables} {configuration : Configuration}

/-- Where two steps in a row succeed the first one does, and the second with its value. -/
theorem bind_eq_ok {ε α β : Type} {first : Except ε α} {next : α → Except ε β} {value : β}
    (ends : (first >>= next) = .ok value) :
    ∃ between, first = .ok between ∧ next between = .ok value := by
  cases first with
  | ok between => exact ⟨between, rfl, ends⟩
  | error fault => cases ends

/-- A network is read by its descriptor. -/
theorem readNetwork_of_ok {text : String} {descriptor : Descriptor}
    (ends : readNetwork registry text = .ok descriptor) :
    registry.find? text = some descriptor := by
  unfold readNetwork at ends
  cases found : registry.find? text with
  | some descriptor' =>
    rw [Registry.lookup_of_some found] at ends
    exact congrArg some (Except.ok.inj ends)
  | none =>
    rw [Registry.lookup_of_none found] at ends
    cases ends

/-- A configuration that is read holds what its variables say. -/
theorem read_of_ok (ends : read registry values = .ok configuration) :
    ∃ mode network port,
      values.required .mode = .ok mode ∧ readMode mode = .ok configuration.mode ∧
      values.required .network = .ok network ∧
      registry.find? network = some configuration.network ∧
      values.required .port = .ok port ∧ readPort port = .ok configuration.port ∧
      readUrl ((values.value? .nodeUrl).getD defaultNodeUrl) = .ok configuration.nodeUrl ∧
      configuration.remoteNode = (values.value? .nodeUrl).isSome ∧
      readFlag (values.value? .skipNodeAdmin) = .ok configuration.skipNodeAdmin := by
  unfold read at ends
  obtain ⟨mode, hasMode, ends⟩ := bind_eq_ok ends
  obtain ⟨mode', readsMode, ends⟩ := bind_eq_ok ends
  obtain ⟨network, hasNetwork, ends⟩ := bind_eq_ok ends
  obtain ⟨descriptor, readsNetwork, ends⟩ := bind_eq_ok ends
  obtain ⟨port, hasPort, ends⟩ := bind_eq_ok ends
  obtain ⟨port', readsPort, ends⟩ := bind_eq_ok ends
  obtain ⟨url, readsUrl, ends⟩ := bind_eq_ok ends
  obtain ⟨flag, readsFlag, ends⟩ := bind_eq_ok ends
  obtain rfl : (⟨mode', descriptor, port', url, (values.value? .nodeUrl).isSome, flag⟩ :
    Configuration) = configuration := Except.ok.inj ends
  exact ⟨mode, network, port, hasMode, readsMode, hasNetwork, readNetwork_of_ok readsNetwork,
    hasPort, readsPort, readsUrl, rfl, readsFlag⟩

/-- A configuration that is read is loaded, and nothing is written to the journal. -/
theorem load_of_read (reads : read registry values = .ok configuration) (journal : Journal) :
    load registry values journal = (.ok configuration, journal) := by
  unfold load
  rw [reads]
  rfl

/-- A configuration that is loaded is one that is read. -/
theorem load_of_ok {journal : Journal}
    (ends : (load registry values journal).1 = .ok configuration) :
    read registry values = .ok configuration := by
  unfold load at ends
  cases reads : read registry values with
  | ok configuration' =>
    rw [reads] at ends
    exact congrArg Except.ok (Except.ok.inj ends)
  | error fault =>
    rw [reads] at ends
    cases ends

end ChainIdentity.Configuration
