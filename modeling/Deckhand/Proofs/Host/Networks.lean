import Deckhand.Proofs.Host.Reading

namespace Deckhand

/-- The first network has a switch turned on and no name. The second one has it turned off and its
name instead, and nothing else stands between the switch and the name. -/
inductive NetworkSpec.Mistaken : NetworkSpec → NetworkSpec → Prop where
  | internal (labels : Pairs) (driver : String) :
    Mistaken { labels, driver, internal := true } { name := "--internal", labels, driver }
  | ipv6 (labels : Pairs) (driver : String) (internal : Bool) :
    Mistaken { labels, driver, internal, ipv6 := true }
      { name := "--ipv6", labels, driver, internal }

theorem NetworkSpec.Mistaken.subnet {s t : NetworkSpec} (h : s.Mistaken t) : s.subnet = "" := by
  cases h <;> rfl

namespace Podman

open Setting

variable {s t : NetworkSpec}

def networkSwitches : List String := ["--internal", "--ipv6"]

def networkSettings (spec : NetworkSpec) : List Setting :=
  given "--label" (spec.labels.map Pairs.written) ++
  given "--driver" (positional spec.driver) ++
  ticked "--internal" spec.internal ++
  ticked "--ipv6" spec.ipv6 ++
  given "--subnet" (positional spec.subnet) ++
  given "--gateway" (positional spec.gateway) ++
  given "--ip-range" (positional spec.ipRange)

theorem networkArguments_eq (spec : NetworkSpec) :
    networkArguments spec = "network" :: "create" ::
      ((networkSettings spec).flatMap render ++ positional spec.name) := by
  simp only [networkSettings, List.flatMap_append, render_flag, render_pairFlags, render_ticked]
  simp only [networkArguments, List.append_assoc]
  rfl

theorem allFit_networkSettings (spec : NetworkSpec) :
    AllFit networkSwitches (networkSettings spec) := by
  simp (disch := decide) only [networkSettings, allFit_append, allFit_given, allFit_ticked,
    and_self]

theorem values_read_positional (switches : List String) (value option : String) :
    values (read switches (positional value)).settings option = [] := by
  unfold positional
  split
  · rfl
  · unfold read
    split <;> rfl

theorem values_networkSettings (h : networkArguments s = networkArguments t) (option : String) :
    values (networkSettings s) option = values (networkSettings t) option := by
  -- Whatever the name looks like, it is not taken for the value of an option.
  have hread (spec : NetworkSpec) :
      values (read networkSwitches ((networkArguments spec).drop 2)).settings option =
        values (networkSettings spec) option := by
    rw [networkArguments_eq]
    change values (read networkSwitches (_ ++ positional spec.name)).settings option = _
    rw [read_render (allFit_networkSettings spec)]
    simp [Reading.prepend, values_read_positional]
  rw [← hread s, ← hread t, h]

theorem positional_inj {value other : String} (h : positional value = positional other) :
    value = other := by
  have hsingle := congrArg single? h
  simpa using hsingle

/-- Two networks with the same command line agree in everything but the switches and the name. -/
theorem agree_of_networkArguments (hs : s.labels.Keyed) (ht : t.labels.Keyed)
    (h : networkArguments s = networkArguments t) :
    t.labels = s.labels ∧ t.driver = s.driver ∧ t.subnet = s.subnet ∧ t.gateway = s.gateway ∧
      t.ipRange = s.ipRange := by
  have hvalues := values_networkSettings h
  have hlabels : s.labels.map Pairs.written = t.labels.map Pairs.written := by
    simpa [networkSettings] using hvalues "--label"
  have hdriver : positional s.driver = positional t.driver := by
    simpa [networkSettings] using hvalues "--driver"
  have hsubnet : positional s.subnet = positional t.subnet := by
    simpa [networkSettings] using hvalues "--subnet"
  have hgateway : positional s.gateway = positional t.gateway := by
    simpa [networkSettings] using hvalues "--gateway"
  have hrange : positional s.ipRange = positional t.ipRange := by
    simpa [networkSettings] using hvalues "--ip-range"
  have hpairs := Pairs.mapM_written hs
  rw [hlabels, Pairs.mapM_written ht] at hpairs
  exact ⟨Option.some.inj hpairs, (positional_inj hdriver).symm, (positional_inj hsubnet).symm,
    (positional_inj hgateway).symm, (positional_inj hrange).symm⟩

def addressArguments (spec : NetworkSpec) : List String :=
  flag "--subnet" spec.subnet ++ flag "--gateway" spec.gateway ++ flag "--ip-range" spec.ipRange

theorem addressArguments_cases (spec : NetworkSpec) :
    (spec.subnet = "" ∧ spec.gateway = "" ∧ spec.ipRange = "") ∨
      ∃ first rest, addressArguments spec = first :: rest ∧ first ∉ networkSwitches := by
  by_cases hsubnet : spec.subnet = ""
  · by_cases hgateway : spec.gateway = ""
    · by_cases hrange : spec.ipRange = ""
      · exact .inl ⟨hsubnet, hgateway, hrange⟩
      · refine .inr ⟨"--ip-range", [spec.ipRange], ?_, by decide⟩
        simp [addressArguments, flag, hsubnet, hgateway, hrange]
    · refine .inr ⟨"--gateway", spec.gateway :: flag "--ip-range" spec.ipRange, ?_, by decide⟩
      simp [addressArguments, flag, hsubnet, hgateway]
  · refine .inr ⟨"--subnet", spec.subnet :: (flag "--gateway" spec.gateway ++
      flag "--ip-range" spec.ipRange), ?_, by decide⟩
    simp [addressArguments, flag, hsubnet]

variable {internal internal' ipv6 ipv6' : Bool} {name name' first first' : String}
  {rest rest' : List String}

theorem cons_eq_positional (h : first :: rest = positional name) : name = first ∧ rest = [] := by
  unfold positional at h
  split at h
  · cases h
  · cases h
    exact ⟨rfl, rfl⟩

theorem switches_eq (hf : first ∉ networkSwitches) (hf' : first' ∉ networkSwitches)
    (h : switch "--internal" internal ++ (switch "--ipv6" ipv6 ++ first :: rest) =
      switch "--internal" internal' ++ (switch "--ipv6" ipv6' ++ first' :: rest')) :
    internal = internal' ∧ ipv6 = ipv6' ∧ rest = rest' := by
  simp only [networkSwitches, List.mem_cons, List.not_mem_nil, or_false, not_or] at hf hf'
  cases internal <;> cases internal' <;> cases ipv6 <;> cases ipv6' <;>
    simp_all [switch, eq_comm]

theorem mistaken_internal
    (h : switch "--internal" true ++ (switch "--ipv6" ipv6 ++ positional name) =
      switch "--internal" false ++ (switch "--ipv6" ipv6' ++ positional name')) :
    ipv6 = false ∧ name = "" ∧ ipv6' = false ∧ name' = "--internal" := by
  cases ipv6' with
  | true => simp [switch] at h
  | false =>
    obtain ⟨hname', hrest⟩ := cons_eq_positional h
    cases ipv6 with
    | true => cases hrest
    | false => exact ⟨rfl, positional_inj hrest, rfl, hname'⟩

theorem mistaken_ipv6
    (h : switch "--ipv6" true ++ positional name = switch "--ipv6" false ++ positional name') :
    name = "" ∧ name' = "--ipv6" := by
  obtain ⟨hname', hname⟩ := cons_eq_positional h
  exact ⟨positional_inj hname, hname'⟩

theorem networkArguments_eq_addressArguments (spec : NetworkSpec) :
    networkArguments spec = "network" :: "create" :: (pairFlags "--label" spec.labels ++
      (flag "--driver" spec.driver ++ (switch "--internal" spec.internal ++
        (switch "--ipv6" spec.ipv6 ++ (addressArguments spec ++ positional spec.name))))) := by
  simp only [networkArguments, addressArguments, List.append_assoc]
  rfl

theorem eq_or_mistaken_of_unaddressed (labels : Pairs) (driver : String)
    (h : switch "--internal" internal ++ (switch "--ipv6" ipv6 ++ positional name) =
      switch "--internal" internal' ++ (switch "--ipv6" ipv6' ++ positional name')) :
    let s : NetworkSpec := { name, labels, driver, internal, ipv6 }
    let t : NetworkSpec :=
      { name := name', labels, driver, internal := internal', ipv6 := ipv6' }
    s = t ∨ s.Mistaken t ∨ t.Mistaken s := by
  obtain rfl | hi := eq_or_ne internal internal'
  · replace h := List.append_cancel_left h
    obtain rfl | hv := eq_or_ne ipv6 ipv6'
    · cases positional_inj (List.append_cancel_left h)
      exact .inl rfl
    · cases ipv6 with
      | true =>
        cases eq_false_of_ne_true hv.symm
        obtain ⟨rfl, rfl⟩ := mistaken_ipv6 h
        exact .inr (.inl (.ipv6 labels driver internal))
      | false =>
        cases eq_true_of_ne_false hv.symm
        obtain ⟨rfl, rfl⟩ := mistaken_ipv6 h.symm
        exact .inr (.inr (.ipv6 labels driver internal))
  · cases internal with
    | true =>
      cases eq_false_of_ne_true hi.symm
      obtain ⟨rfl, rfl, rfl, rfl⟩ := mistaken_internal h
      exact .inr (.inl (.internal labels driver))
    | false =>
      cases eq_true_of_ne_false hi.symm
      obtain ⟨rfl, rfl, rfl, rfl⟩ := mistaken_internal h.symm
      exact .inr (.inr (.internal labels driver))

theorem eq_or_mistaken (hs : s.labels.Keyed) (ht : t.labels.Keyed)
    (h : networkArguments s = networkArguments t) : s = t ∨ s.Mistaken t ∨ t.Mistaken s := by
  obtain ⟨hlabels, hdriver, hsubnet, hgateway, hrange⟩ := agree_of_networkArguments hs ht h
  have haddress : addressArguments t = addressArguments s := by
    rw [addressArguments, hsubnet, hgateway, hrange]
    rfl
  rw [networkArguments_eq_addressArguments, networkArguments_eq_addressArguments, hlabels, hdriver,
    haddress] at h
  injection h with _ h
  injection h with _ h
  replace h := List.append_cancel_left (List.append_cancel_left h)
  have haddressed := addressArguments_cases s
  obtain ⟨name, labels, driver, internal, ipv6, subnet, gateway, ipRange⟩ := s
  obtain ⟨name', labels', driver', internal', ipv6', subnet', gateway', ipRange'⟩ := t
  cases hlabels
  cases hdriver
  cases hsubnet
  cases hgateway
  cases hrange
  -- An address keeps the name apart from the switches.
  obtain ⟨rfl, rfl, rfl⟩ | ⟨first, rest, hfirst, hf⟩ := haddressed
  · exact eq_or_mistaken_of_unaddressed labels driver h
  · rw [hfirst] at h
    obtain ⟨rfl, rfl, hrest⟩ := switches_eq hf hf h
    cases positional_inj (List.append_cancel_left hrest)
    exact .inl rfl

theorem networkArguments_eq_of_mistaken (h : s.Mistaken t) :
    networkArguments s = networkArguments t := by
  cases h with
  | internal labels driver => simp [networkArguments, switch, positional, flag]
  | ipv6 labels driver internal => simp [networkArguments, switch, positional, flag]

/-- Two forms for networks lead to the same command line only if they describe the same network, or
if the name of one network is the switch that is on for the other. -/
theorem network_arguments_eq_iff {first second : Form}
    (hs : CreateForm.specOf .networks first = .ok (.network s))
    (ht : CreateForm.specOf .networks second = .ok (.network t)) :
    createArguments (.network s) = createArguments (.network t) ↔
      s = t ∨ s.Mistaken t ∨ t.Mistaken s := by
  constructor
  · exact eq_or_mistaken (CreateForm.plain_of_specOf hs) (CreateForm.plain_of_specOf ht)
  · rintro (rfl | h | h)
    · rfl
    · exact networkArguments_eq_of_mistaken h
    · exact (networkArguments_eq_of_mistaken h).symm

def networkForm (codes : List KeyCode) : Form :=
  codes.foldl (fun form code => (form.handleKey { code }).1) CreateForm.network

def switchName : List KeyCode := "--internal".toList.map .char

def tickInternal : List KeyCode := [.down, .down, .char ' ']

def addSubnet (subnet : String) : List KeyCode :=
  [.backTab, .down, .enter] ++ subnet.toList.map .char

theorem addressed_networks_differ :
    createArguments (.network { name := "--internal", driver := "bridge", subnet := "10.1.0.0/24" }) ≠
      createArguments (.network { driver := "bridge", internal := true, subnet := "10.1.0.0/24" }) := by
  have hs : CreateForm.specOf .networks (networkForm (switchName ++ addSubnet "10.1.0.0/24")) =
      .ok (.network { name := "--internal", driver := "bridge", subnet := "10.1.0.0/24" }) := rfl
  have ht : CreateForm.specOf .networks
      (networkForm (tickInternal ++ .backTab :: .backTab :: addSubnet "10.1.0.0/24")) =
        .ok (.network { driver := "bridge", internal := true, subnet := "10.1.0.0/24" }) := rfl
  rw [ne_eq, network_arguments_eq_iff hs ht]
  rintro (h | h | h)
  · exact absurd h (by decide)
  · exact absurd h.subnet (by decide)
  · exact absurd h.subnet (by decide)

theorem network_arguments_are_ambiguous :
    ∃ first second : Form, ∃ s t : NetworkSpec,
      CreateForm.specOf .networks first = .ok (.network s) ∧
      CreateForm.specOf .networks second = .ok (.network t) ∧
      s ≠ t ∧ createArguments (.network s) = createArguments (.network t) :=
  ⟨networkForm switchName, networkForm tickInternal, { name := "--internal", driver := "bridge" },
    { driver := "bridge", internal := true }, rfl, rfl, by decide, rfl⟩

end Podman

end Deckhand
