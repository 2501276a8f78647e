import Deckhand.Create.Pairs
import Deckhand.Form.Basic

namespace Deckhand

structure CreateForm where
  kind : Kind
  form : Form
deriving DecidableEq, Inhabited

namespace CreateForm

open Deckhand.Field

def imageVolumes : List String := ["ignore", "tmpfs", "anonymous"]

def dnsFields : List Field := [
  ofText "dns_servers" "dns servers:",
  ofText "dns_options" "dns options:",
  ofText "dns_search" "search domains:"]

def container (choices : Choices) : Form :=
  .ofSections "PODMAN CONTAINER CREATE" [
    ⟨"Basic Information", [
      ofText "name" "name:",
      ofChoices "image" "image:" choices.images,
      ofChoices "pod" "pod:" choices.pods,
      ofText "labels" "labels:",
      ofCheck "remove" "remove:"]⟩,
    ⟨"Network Settings", [
      ofText "hostname" "hostname:",
      ofText "ip_address" "ip address:",
      ofText "mac_address" "mac address:",
      ofChoices "network" "network:" choices.networks]⟩,
    ⟨"Ports Settings", [
      ofText "publish" "publish ports:",
      ofText "expose" "expose ports:",
      ofCheck "publish_all" "publish all:"]⟩,
    ⟨"DNS Settings", dnsFields⟩,
    ⟨"Volumes Settings", [
      ofChoices "volume" "volume:" choices.volumes,
      ofText "volume_dest" "mount point:",
      ofTexts "image_volume" "image volume:" imageVolumes]⟩]

def pod (choices : Choices) (infraImage : String) : Form :=
  .ofSections "PODMAN POD CREATE" [
    ⟨"Basic Information", [
      ofText "name" "name:",
      ofCheck "no_hosts" "no hosts:",
      ofText "labels" "labels:"]⟩,
    ⟨"DNS Setup", dnsFields⟩,
    ⟨"Infra Setup", [
      ofCheck "infra" "infra:" true,
      ofText "infra_command" "infra command:",
      ofText "infra_image" "infra image:" infraImage]⟩,
    ⟨"Networking", [
      ofText "hostname" "hostname:",
      ofText "ip_address" "ip address:",
      ofText "mac_address" "mac address:",
      ofText "host_to_ip" "add host:",
      ofChoices "network" "network:" choices.networks]⟩]

def network : Form :=
  .ofSections "PODMAN NETWORK CREATE" [
    ⟨"Basic Information", [
      ofText "name" "name:",
      ofText "labels" "labels:",
      ofCheck "internal" "internal:",
      ofText "driver" "driver:" "bridge",
      ofCheck "ipv6" "ipv6:"]⟩,
    ⟨"IP Settings", [
      ofText "subnet" "subnet:",
      ofText "gateway" "gateway:",
      ofText "ip_range" "ip range:"]⟩]

def volume : Form :=
  .ofSections "PODMAN VOLUME CREATE" [
    ⟨"Basic Information", [
      ofText "name" "name:",
      ofText "labels" "labels:",
      ofText "driver" "driver:" "local",
      ofText "options" "options:"]⟩]

/-- The form for a new resource; images are pulled and not created. -/
def new? (kind : Kind) (choices : Choices) (infraImage : String) : Option CreateForm :=
  match kind with
  | .containers => some ⟨kind, container choices⟩
  | .pods => some ⟨kind, pod choices infraImage⟩
  | .networks => some ⟨kind, network⟩
  | .volumes => some ⟨kind, volume⟩
  | .images => none

/-- A volume and where it is mounted belong together. -/
def mount (volume point : String) : Except Failure String :=
  match volume.isEmpty, point.isEmpty with
  | true, true => .ok ""
  | false, false => .ok (volume ++ ":" ++ point)
  | false, true => .error (.invalid ("volume " ++ volume ++ " needs a mount point"))
  | true, false => .error (.invalid ("mount point " ++ point ++ " needs a volume"))

def wordsOf (form : Form) (key : String) : List String := Text.words (form.text key)

def containerSpec (form : Form) : Except Failure ContainerSpec := do
  let image := form.choice "image"
  if image.isEmpty then throw (.invalid "container image is required")
  let volume ← mount (form.choice "volume") (form.text "volume_dest")
  let labels ← Pairs.parse "label" (form.text "labels")
  pure {
    name := form.text "name"
    image
    pod := form.choice "pod"
    labels
    remove := form.checked "remove"
    hostname := form.text "hostname"
    ipAddress := form.text "ip_address"
    macAddress := form.text "mac_address"
    network := form.choice "network"
    publish := wordsOf form "publish"
    expose := wordsOf form "expose"
    publishAll := form.checked "publish_all"
    dnsServers := wordsOf form "dns_servers"
    dnsOptions := wordsOf form "dns_options"
    dnsSearch := wordsOf form "dns_search"
    volume
    imageVolume := form.choice "image_volume" }

def podSpec (form : Form) : Except Failure PodSpec := do
  let labels ← Pairs.parse "label" (form.text "labels")
  pure {
    name := form.text "name"
    noHosts := form.checked "no_hosts"
    labels
    dnsServers := wordsOf form "dns_servers"
    dnsOptions := wordsOf form "dns_options"
    dnsSearch := wordsOf form "dns_search"
    infra := form.checked "infra"
    infraCommand := wordsOf form "infra_command"
    infraImage := form.text "infra_image"
    hostname := form.text "hostname"
    ipAddress := form.text "ip_address"
    macAddress := form.text "mac_address"
    hostToIp := wordsOf form "host_to_ip"
    network := form.choice "network" }

def networkSpec (form : Form) : Except Failure NetworkSpec := do
  let labels ← Pairs.parse "label" (form.text "labels")
  pure {
    name := form.text "name"
    labels
    driver := form.text "driver"
    internal := form.checked "internal"
    ipv6 := form.checked "ipv6"
    subnet := form.text "subnet"
    gateway := form.text "gateway"
    ipRange := form.text "ip_range" }

def volumeSpec (form : Form) : Except Failure VolumeSpec := do
  let labels ← Pairs.parse "label" (form.text "labels")
  let options ← Pairs.parse "option" (form.text "options")
  pure {
    name := form.text "name"
    labels
    driver := form.text "driver"
    options }

def specOf (kind : Kind) (form : Form) : Except Failure CreateSpec :=
  match kind with
  | .containers => (containerSpec form).map .container
  | .pods => (podSpec form).map .pod
  | .networks => (networkSpec form).map .network
  | .volumes => (volumeSpec form).map .volume
  | .images => .error (.invalid "images cannot be created")

def spec (create : CreateForm) : Except Failure CreateSpec := specOf create.kind create.form

end CreateForm

end Deckhand
