namespace Deckhand

/-- The kinds of resource, in the order of their tabs. -/
inductive Kind where
  | containers
  | pods
  | images
  | networks
  | volumes
deriving DecidableEq, Inhabited

namespace Kind

def all : List Kind := [containers, pods, images, networks, volumes]

def index : Kind → Nat
  | containers => 0
  | pods => 1
  | images => 2
  | networks => 3
  | volumes => 4

def title : Kind → String
  | containers => "containers"
  | pods => "pods"
  | images => "images"
  | networks => "networks"
  | volumes => "volumes"

def noun : Kind → String
  | containers => "container"
  | pods => "pod"
  | images => "image"
  | networks => "network"
  | volumes => "volume"

def headers : Kind → List String
  | containers => ["container id", "image", "pod", "created", "status", "names", "ports"]
  | pods => ["pod id", "name", "status", "created", "infra id", "# of containers"]
  | images => ["repository", "tag", "image id", "created", "size"]
  | networks => ["network id", "name", "driver"]
  | volumes => ["driver", "volume name", "created", "mountpoint"]

def ofTitle? (title : String) : Option Kind := all.find? (·.title == title)

def ofIndex? (index : Nat) : Option Kind := all[index]?

def next : Kind → Kind
  | containers => pods
  | pods => images
  | images => networks
  | networks => volumes
  | volumes => containers

def previous : Kind → Kind
  | containers => volumes
  | pods => containers
  | images => pods
  | networks => images
  | volumes => networks

@[simp] theorem mem_all (kind : Kind) : kind ∈ all := by cases kind <;> simp [all]

@[simp] theorem previous_next (kind : Kind) : kind.next.previous = kind := by cases kind <;> rfl

@[simp] theorem next_previous (kind : Kind) : kind.previous.next = kind := by cases kind <;> rfl

theorem ofIndex?_index (kind : Kind) : ofIndex? kind.index = some kind := by cases kind <;> rfl

end Kind

@[ext]
structure PerKind (α : Type) where
  containers : α
  pods : α
  images : α
  networks : α
  volumes : α
deriving DecidableEq

namespace PerKind

variable {α β : Type}

def ofFn (f : Kind → α) : PerKind α :=
  ⟨f .containers, f .pods, f .images, f .networks, f .volumes⟩

def get (values : PerKind α) : Kind → α
  | .containers => values.containers
  | .pods => values.pods
  | .images => values.images
  | .networks => values.networks
  | .volumes => values.volumes

def set (values : PerKind α) (kind : Kind) (value : α) : PerKind α :=
  match kind with
  | .containers => { values with containers := value }
  | .pods => { values with pods := value }
  | .images => { values with images := value }
  | .networks => { values with networks := value }
  | .volumes => { values with volumes := value }

def modify (values : PerKind α) (kind : Kind) (f : α → α) : PerKind α :=
  values.set kind (f (values.get kind))

def all? (values : PerKind (Option α)) : Option (PerKind α) := do
  some ⟨← values.containers, ← values.pods, ← values.images, ← values.networks, ← values.volumes⟩

instance [Inhabited α] : Inhabited (PerKind α) := ⟨ofFn fun _ => default⟩

@[simp] theorem get_ofFn (f : Kind → α) (kind : Kind) : (ofFn f).get kind = f kind := by
  cases kind <;> rfl

@[simp] theorem get_set_self (values : PerKind α) (kind : Kind) (value : α) :
    (values.set kind value).get kind = value := by
  cases kind <;> rfl

theorem get_set (values : PerKind α) (kind other : Kind) (value : α) :
    (values.set kind value).get other = if other = kind then value else values.get other := by
  cases kind <;> cases other <;> rfl

theorem get_of_all? {values : PerKind (Option α)} {all : PerKind α} (h : values.all? = some all)
    (kind : Kind) : values.get kind = some (all.get kind) := by
  obtain ⟨containers, pods, images, networks, volumes⟩ := values
  simp only [all?, Option.bind_eq_bind, Option.bind_eq_some_iff] at h
  obtain ⟨_, rfl, _, rfl, _, rfl, _, rfl, _, rfl, h⟩ := h
  cases h
  cases kind <;> rfl

theorem ext_get {values others : PerKind α} (h : ∀ kind, values.get kind = others.get kind) :
    values = others :=
  PerKind.ext (h .containers) (h .pods) (h .images) (h .networks) (h .volumes)

end PerKind

end Deckhand
