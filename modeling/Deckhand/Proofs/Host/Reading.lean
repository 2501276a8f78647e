import Deckhand.Form.Edit
import Deckhand.Host.Podman.Arguments
import Deckhand.Proofs.Create.Spec
import Deckhand.Proofs.Text.Blank

namespace Deckhand

def Text.AreWords (texts : List String) : Prop := ∀ text ∈ texts, IsWord text

theorem Text.areWords_words (text : String) : AreWords (words text) :=
  fun _ h => isWord_of_mem_words h

namespace CreateSpec

/-- Keys, values and the entries of lists stand for themselves when they are written down. -/
def Plain : CreateSpec → Prop
  | container spec => spec.labels.Keyed ∧ Text.AreWords spec.publish ∧
      Text.AreWords spec.expose ∧ Text.AreWords spec.dnsServers ∧ Text.AreWords spec.dnsOptions ∧
      Text.AreWords spec.dnsSearch
  | pod spec => spec.labels.Keyed ∧ Text.AreWords spec.dnsServers ∧
      Text.AreWords spec.dnsOptions ∧ Text.AreWords spec.dnsSearch ∧
      Text.AreWords spec.infraCommand ∧ Text.AreWords spec.hostToIp
  | network spec => spec.labels.Keyed
  | volume spec => spec.labels.Keyed ∧ spec.options.Keyed

/-- The description without what concerns an infra container that is turned off. -/
def withoutIdleInfra : CreateSpec → CreateSpec
  | pod spec => pod (if spec.infra then spec else { spec with infraCommand := [], infraImage := "" })
  | spec => spec

end CreateSpec

namespace CreateForm

theorem plain_of_specOf {kind : Kind} {form : Form} {spec : CreateSpec}
    (h : specOf kind form = .ok spec) : spec.Plain := by
  have hwords (key : String) : Text.AreWords (wordsOf form key) := Text.areWords_words _
  cases kind with
  | containers =>
    obtain ⟨container, hs, h⟩ := exists_of_bind h
    cases h
    have hlabels := (containerSpec_eq_ok hs).2.2
    unfold containerSpec at hs
    dsimp only at hs
    split at hs
    · cases hs
    · obtain ⟨volume, -, hs⟩ := exists_of_bind hs
      obtain ⟨labels, -, hs⟩ := exists_of_bind hs
      cases hs
      exact ⟨hlabels, hwords _, hwords _, hwords _, hwords _, hwords _⟩
  | pods =>
    obtain ⟨pod, hs, h⟩ := exists_of_bind h
    cases h
    have hlabels := podSpec_eq_ok hs
    obtain ⟨labels, -, hs⟩ := exists_of_bind hs
    cases hs
    exact ⟨hlabels, hwords _, hwords _, hwords _, hwords _, hwords _⟩
  | networks =>
    obtain ⟨network, hs, h⟩ := exists_of_bind h
    cases h
    exact networkSpec_eq_ok hs
  | volumes =>
    obtain ⟨volume, hs, h⟩ := exists_of_bind h
    cases h
    exact volumeSpec_eq_ok hs
  | images => cases h

end CreateForm

namespace Podman

/-- What a part of a command line says. -/
inductive Setting where
  | option (name value : String)
  | switch (name : String)
deriving DecidableEq

namespace Setting

def render : Setting → List String
  | option name value => [name, value]
  | switch name => [name]

def given (name : String) (values : List String) : List Setting := values.map (.option name)

def ticked (name : String) (on : Bool) : List Setting := if on then [.switch name] else []

def Fits (switches : List String) : Setting → Prop
  | option name _ => name ∉ switches
  | switch name => name ∈ switches

def valueOf? (name : String) : Setting → Option String
  | option other value => if other = name then some value else none
  | switch _ => none

def values (settings : List Setting) (name : String) : List String :=
  settings.filterMap (valueOf? name)

def single? : List String → Option String
  | [] => some ""
  | [value] => some value
  | _ => none

def value? (settings : List Setting) (name : String) : Option String :=
  single? (values settings name)

def isOn? (settings : List Setting) (name : String) : Option Bool :=
  match settings.filter (· = switch name) with
  | [] => some false
  | [_] => some true
  | _ => none

def pairs? (settings : List Setting) (name : String) : Option Pairs :=
  (values settings name).mapM (Text.splitFirst? '=')

variable {switches : List String} {name other value : String} {on : Bool}

theorem render_flag (name value : String) :
    (given name (positional value)).flatMap render = flag name value := by
  unfold flag positional
  split <;> rfl

theorem render_flags {values : List String} (h : Text.AreWords values) :
    (given name values).flatMap render = flags name values := by
  unfold flags given
  rw [List.flatMap_map]
  refine List.flatMap_congr fun value hv => ?_
  simp [flag, render, (h value hv).ne_empty]

theorem render_pairFlags (name : String) (pairs : Pairs) :
    (given name (pairs.map Pairs.written)).flatMap render = pairFlags name pairs := by
  unfold pairFlags given
  rw [List.map_map, List.flatMap_map]
  refine List.flatMap_congr fun pair _ => ?_
  simp [flag, render, Pairs.written]

theorem render_ticked (name : String) (on : Bool) :
    (ticked name on).flatMap render = Podman.switch name on := by
  cases on <;> rfl

def AllFit (switches : List String) (settings : List Setting) : Prop :=
  ∀ setting ∈ settings, setting.Fits switches

theorem allFit_append {first second : List Setting} :
    AllFit switches (first ++ second) ↔ AllFit switches first ∧ AllFit switches second :=
  List.forall_mem_append

theorem allFit_given (h : name ∉ switches) (texts : List String) :
    AllFit switches (given name texts) := by
  intro setting hs
  obtain ⟨value, -, rfl⟩ := List.mem_map.mp hs
  exact h

theorem allFit_ticked (h : name ∈ switches) (on : Bool) : AllFit switches (ticked name on) := by
  intro setting hs
  cases on with
  | false => cases hs
  | true =>
    cases List.mem_singleton.mp hs
    exact h

@[simp] theorem values_append (first second : List Setting) (name : String) :
    values (first ++ second) name = values first name ++ values second name :=
  List.filterMap_append

@[simp] theorem values_given (name other : String) (texts : List String) :
    values (given other texts) name = if other = name then texts else [] := by
  unfold values given
  split
  · rename_i h
    simp [valueOf?, h, Function.comp_def]
  · rename_i h
    simp [valueOf?, h, Function.comp_def]

@[simp] theorem values_ticked (name other : String) (on : Bool) :
    values (ticked other on) name = [] := by
  cases on <;> rfl

@[simp] theorem filter_given (name other : String) (texts : List String) :
    (given other texts).filter (· = switch name) = [] := by
  simp [given]

@[simp] theorem filter_ticked (name other : String) (on : Bool) :
    (ticked other on).filter (· = switch name) = if other = name then ticked other on else [] := by
  cases on <;> by_cases h : other = name <;> simp [ticked, h]

@[simp] theorem single?_nil : single? [] = some "" := rfl

@[simp] theorem single?_positional (value : String) : single? (positional value) = some value := by
  by_cases h : value = "" <;> simp [positional, h, single?]

theorem isOn?_of_filter {settings : List Setting}
    (h : settings.filter (· = switch name) = ticked name on) : isOn? settings name = some on := by
  unfold isOn?
  rw [h]
  cases on <;> rfl

end Setting

structure Reading where
  settings : List Setting
  last : Option String

def Reading.prepend (settings : List Setting) (reading : Reading) : Reading :=
  { reading with settings := settings ++ reading.settings }

/-- Takes arguments apart from the left. What is no switch is an option, and the argument behind it
is its value, whatever that looks like. -/
def read (switches : List String) : List String → Reading
  | [] => ⟨[], none⟩
  | [last] => if last ∈ switches then ⟨[.switch last], none⟩ else ⟨[], some last⟩
  | first :: second :: rest =>
    if first ∈ switches then (read switches (second :: rest)).prepend [.switch first]
    else (read switches rest).prepend [.option first second]

theorem read_switch {switches : List String} {name : String} (h : name ∈ switches)
    (rest : List String) :
    read switches (name :: rest) = (read switches rest).prepend [.switch name] := by
  cases rest with
  | nil => simp [read, h, Reading.prepend]
  | cons second rest => rw [read, if_pos h]

theorem read_render {switches : List String} {settings : List Setting}
    (h : Setting.AllFit switches settings) (rest : List String) :
    read switches (settings.flatMap Setting.render ++ rest) =
      (read switches rest).prepend settings := by
  induction settings with
  | nil => rfl
  | cons setting settings ih =>
    have hfits : setting.Fits switches := h setting List.mem_cons_self
    specialize ih fun other ho => h other (List.mem_cons_of_mem setting ho)
    rw [List.flatMap_cons, List.append_assoc]
    cases setting with
    | option name value =>
      have hname : name ∉ switches := hfits
      change read switches (name :: value :: (settings.flatMap Setting.render ++ rest)) = _
      rw [read, if_neg hname, ih]
      rfl
    | switch name =>
      change read switches (name :: (settings.flatMap Setting.render ++ rest)) = _
      rw [read_switch hfits, ih]
      rfl

open Setting

def containerSwitches : List String := ["--rm", "--publish-all"]

def containerSettings (spec : ContainerSpec) : List Setting :=
  given "--name" (positional spec.name) ++
  given "--pod" (positional spec.pod) ++
  given "--label" (spec.labels.map Pairs.written) ++
  ticked "--rm" spec.remove ++
  given "--hostname" (positional spec.hostname) ++
  given "--ip" (positional spec.ipAddress) ++
  given "--mac-address" (positional spec.macAddress) ++
  given "--network" (positional spec.network) ++
  given "--publish" spec.publish ++
  given "--expose" spec.expose ++
  ticked "--publish-all" spec.publishAll ++
  given "--dns" spec.dnsServers ++
  given "--dns-option" spec.dnsOptions ++
  given "--dns-search" spec.dnsSearch ++
  given "--volume" (positional spec.volume) ++
  given "--image-volume" (positional spec.imageVolume)

def podSwitches : List String := ["--no-hosts", "--infra=false"]

def infraSettings (spec : PodSpec) : List Setting :=
  if spec.infra then
    given "--infra-command" (positional (" ".intercalate spec.infraCommand)) ++
    given "--infra-image" (positional spec.infraImage)
  else ticked "--infra=false" true

def podSettings (spec : PodSpec) : List Setting :=
  given "--name" (positional spec.name) ++
  ticked "--no-hosts" spec.noHosts ++
  given "--label" (spec.labels.map Pairs.written) ++
  given "--dns" spec.dnsServers ++
  given "--dns-option" spec.dnsOptions ++
  given "--dns-search" spec.dnsSearch ++
  infraSettings spec ++
  given "--hostname" (positional spec.hostname) ++
  given "--ip" (positional spec.ipAddress) ++
  given "--mac-address" (positional spec.macAddress) ++
  given "--add-host" spec.hostToIp ++
  given "--network" (positional spec.network)

def volumeSettings (spec : VolumeSpec) : List Setting :=
  given "--driver" (positional spec.driver) ++
  given "--label" (spec.labels.map Pairs.written) ++
  given "--opt" (spec.options.map Pairs.written)

def containerOf? (arguments : List String) : Option ContainerSpec := do
  let image ← arguments.getLast?
  let ⟨settings, none⟩ := read containerSwitches arguments.dropLast | none
  some {
    name := ← value? settings "--name"
    image
    pod := ← value? settings "--pod"
    labels := ← pairs? settings "--label"
    remove := ← isOn? settings "--rm"
    hostname := ← value? settings "--hostname"
    ipAddress := ← value? settings "--ip"
    macAddress := ← value? settings "--mac-address"
    network := ← value? settings "--network"
    publish := values settings "--publish"
    expose := values settings "--expose"
    publishAll := ← isOn? settings "--publish-all"
    dnsServers := values settings "--dns"
    dnsOptions := values settings "--dns-option"
    dnsSearch := values settings "--dns-search"
    volume := ← value? settings "--volume"
    imageVolume := ← value? settings "--image-volume" }

def podOf? (arguments : List String) : Option PodSpec := do
  let ⟨settings, none⟩ := read podSwitches arguments | none
  some {
    name := ← value? settings "--name"
    noHosts := ← isOn? settings "--no-hosts"
    labels := ← pairs? settings "--label"
    dnsServers := values settings "--dns"
    dnsOptions := values settings "--dns-option"
    dnsSearch := values settings "--dns-search"
    infra := !(← isOn? settings "--infra=false")
    infraCommand := Text.words (← value? settings "--infra-command")
    infraImage := ← value? settings "--infra-image"
    hostname := ← value? settings "--hostname"
    ipAddress := ← value? settings "--ip"
    macAddress := ← value? settings "--mac-address"
    hostToIp := values settings "--add-host"
    network := ← value? settings "--network" }

def volumeOf? (arguments : List String) : Option VolumeSpec := do
  let ⟨settings, last⟩ := read [] arguments
  some {
    name := last.getD ""
    labels := ← pairs? settings "--label"
    driver := ← value? settings "--driver"
    options := ← pairs? settings "--opt" }

def specOf? : List String → Option CreateSpec
  | "container" :: "create" :: arguments => (containerOf? arguments).map .container
  | "pod" :: "create" :: arguments => (podOf? arguments).map .pod
  | "volume" :: "create" :: arguments => (volumeOf? arguments).map .volume
  | _ => none

theorem containerArguments_eq {spec : ContainerSpec} (h : (CreateSpec.container spec).Plain) :
    containerArguments spec = "container" :: "create" ::
      ((containerSettings spec).flatMap render ++ [spec.image]) := by
  obtain ⟨-, hpublish, hexpose, hservers, hoptions, hsearch⟩ := h
  simp only [containerSettings, List.flatMap_append, render_flag, render_pairFlags, render_ticked,
    render_flags hpublish, render_flags hexpose, render_flags hservers, render_flags hoptions,
    render_flags hsearch]
  simp only [containerArguments, List.append_assoc]
  rfl

theorem allFit_containerSettings (spec : ContainerSpec) :
    AllFit containerSwitches (containerSettings spec) := by
  simp (disch := decide) only [containerSettings, allFit_append, allFit_given, allFit_ticked,
    and_self]

theorem containerOf?_eq {spec : ContainerSpec} (h : spec.labels.Keyed) :
    containerOf? ((containerSettings spec).flatMap render ++ [spec.image]) = some spec := by
  have hread := read_render (allFit_containerSettings spec) []
  rw [List.append_nil] at hread
  have hremove : isOn? (containerSettings spec) "--rm" = some spec.remove :=
    isOn?_of_filter (by simp [containerSettings])
  have hall : isOn? (containerSettings spec) "--publish-all" = some spec.publishAll :=
    isOn?_of_filter (by simp [containerSettings])
  simp only [containerOf?, List.getLast?_concat, List.dropLast_concat, hread, Reading.prepend, read,
    List.append_nil, hremove, hall]
  simp [containerSettings, value?, pairs?, Pairs.mapM_written h]

theorem infraArguments_eq (spec : PodSpec) :
    (infraSettings spec).flatMap render = infraArguments spec := by
  unfold infraSettings infraArguments
  split
  · rw [List.flatMap_append, render_flag, render_flag]
  · rfl

theorem podArguments_eq {spec : PodSpec} (h : (CreateSpec.pod spec).Plain) :
    podArguments spec = "pod" :: "create" :: (podSettings spec).flatMap render := by
  obtain ⟨-, hservers, hoptions, hsearch, -, hhosts⟩ := h
  simp only [podSettings, List.flatMap_append, render_flag, render_pairFlags, render_ticked,
    render_flags hservers, render_flags hoptions, render_flags hsearch, render_flags hhosts,
    infraArguments_eq]
  simp only [podArguments, List.append_assoc]
  rfl

theorem allFit_podSettings (spec : PodSpec) : AllFit podSwitches (podSettings spec) := by
  have hinfra : AllFit podSwitches (infraSettings spec) := by
    unfold infraSettings
    split
    · simp (disch := decide) only [allFit_append, allFit_given, and_self]
    · exact allFit_ticked (by decide) true
  simp (disch := decide) only [podSettings, allFit_append, allFit_given, allFit_ticked, hinfra,
    and_self]

theorem podOf?_eq {spec : PodSpec} (hl : spec.labels.Keyed)
    (hc : Text.AreWords spec.infraCommand) :
    (podOf? ((podSettings spec).flatMap render)).map .pod =
      some (CreateSpec.pod spec).withoutIdleInfra := by
  have hread := read_render (allFit_podSettings spec) []
  rw [List.append_nil] at hread
  have hhosts : isOn? (podSettings spec) "--no-hosts" = some spec.noHosts := by
    apply isOn?_of_filter
    cases hi : spec.infra <;> simp [podSettings, infraSettings, hi]
  have hinfra : isOn? (podSettings spec) "--infra=false" = some (!spec.infra) := by
    apply isOn?_of_filter
    cases hi : spec.infra <;> simp [podSettings, infraSettings, hi, ticked]
  simp only [podOf?, hread, Reading.prepend, read, List.append_nil, hhosts, hinfra]
  by_cases hi : spec.infra = true
  · have hcommand := Text.words_intercalate hc
    simp [podSettings, infraSettings, value?, pairs?, Pairs.mapM_written hl, if_pos hi, hcommand,
      CreateSpec.withoutIdleInfra]
  · have hcommand : Text.words "" = [] := rfl
    simp [podSettings, infraSettings, value?, pairs?, Pairs.mapM_written hl, if_neg hi, hcommand,
      CreateSpec.withoutIdleInfra]

theorem volumeArguments_eq (spec : VolumeSpec) :
    volumeArguments spec = "volume" :: "create" ::
      ((volumeSettings spec).flatMap render ++ positional spec.name) := by
  simp only [volumeSettings, List.flatMap_append, render_flag, render_pairFlags]
  simp only [volumeArguments, List.append_assoc]
  rfl

theorem allFit_volumeSettings (spec : VolumeSpec) : AllFit [] (volumeSettings spec) := by
  simp (disch := decide) only [volumeSettings, allFit_append, allFit_given, and_self]

theorem read_positional (value : String) : read [] (positional value) =
    ⟨[], if value.isEmpty then none else some value⟩ := by
  unfold positional
  split <;> rfl

theorem volumeOf?_eq {spec : VolumeSpec} (hl : spec.labels.Keyed) (ho : spec.options.Keyed) :
    volumeOf? ((volumeSettings spec).flatMap render ++ positional spec.name) = some spec := by
  have hname : (if spec.name.isEmpty then none else some spec.name).getD "" = spec.name := by
    by_cases h : spec.name = "" <;> simp [h]
  simp only [volumeOf?, read_render (allFit_volumeSettings spec), read_positional, Reading.prepend,
    List.append_nil, hname]
  simp [volumeSettings, value?, pairs?, Pairs.mapM_written hl, Pairs.mapM_written ho]

theorem specOf?_createArguments {spec : CreateSpec} (h : spec.Plain)
    (hk : spec.kind ≠ .networks) : specOf? (createArguments spec) = some spec.withoutIdleInfra := by
  cases spec with
  | container spec =>
    rw [createArguments, containerArguments_eq h, specOf?, containerOf?_eq h.1]
    rfl
  | pod spec =>
    rw [createArguments, podArguments_eq h, specOf?, podOf?_eq h.1 h.2.2.2.2.1]
  | network spec => exact absurd rfl hk
  | volume spec =>
    rw [createArguments, volumeArguments_eq, specOf?, volumeOf?_eq h.1 h.2]
    rfl

/-- A command line that creates something can be read back: nothing in it is taken for something
else, even if it looks like an option. -/
theorem create_arguments_lose_nothing {kind : Kind} {form : Form} {spec : CreateSpec}
    (hk : kind ≠ .networks) (hs : CreateForm.specOf kind form = .ok spec) :
    specOf? (createArguments spec) = some spec.withoutIdleInfra := by
  have hkind := (CreateForm.specOf_eq_ok hs).1
  exact specOf?_createArguments (CreateForm.plain_of_specOf hs) (hkind ▸ hk)

def misleading : Form :=
  let form := CreateForm.container ⟨[⟨"--rm", "alpine"⟩], [], [], []⟩
  let form := form.modifyValue "name" fun _ => .text " --pod"
  let form := form.modifyValue "labels" fun _ => .text "--ip== --name=--rm"
  form.selectOption "image" 1

def misleadingSpec : ContainerSpec where
  name := "--pod"
  image := "--rm"
  labels := [("--ip", "="), ("--name", "--rm")]

theorem misleading_arguments_lose_nothing :
    CreateForm.specOf .containers misleading = .ok (.container misleadingSpec) ∧
      specOf? ["container", "create", "--name", "--pod", "--label", "--ip==", "--label",
        "--name=--rm", "--rm"] = some (.container misleadingSpec) := by
  have hs : CreateForm.specOf .containers misleading = .ok (.container misleadingSpec) := rfl
  exact ⟨hs, create_arguments_lose_nothing (by decide) hs⟩

end Podman

end Deckhand
