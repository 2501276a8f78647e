import Mathlib.Data.List.TakeWhile
import Deckhand.Create.Form

namespace Deckhand

theorem Text.notMem_of_splitFirst? {separator : Char} {text key value : String}
    (h : splitFirst? separator text = some (key, value)) : separator ∉ key.toList := by
  unfold splitFirst? at h
  dsimp only at h
  split at h
  · cases h
  · cases h
    rw [String.toList_ofList]
    intro hm
    have hne := List.mem_takeWhile_imp hm
    simp at hne

def Pairs.written (pair : String × String) : String := pair.1 ++ "=" ++ pair.2

theorem Text.splitFirst?_written {pair : String × String} (h : '=' ∉ pair.1.toList) :
    splitFirst? '=' (Pairs.written pair) = some pair := by
  have hchars : (Pairs.written pair).toList = pair.1.toList ++ '=' :: pair.2.toList := by
    simp [Pairs.written]
  have hkey : ∀ c ∈ pair.1.toList, (c != '=') = true := by
    intro c hc
    rw [bne_iff_ne]
    rintro rfl
    exact h hc
  unfold splitFirst?
  simp only [hchars, List.dropWhile_append_of_pos hkey, List.takeWhile_append_of_pos hkey]
  simp

namespace Pairs

def Keyed (pairs : Pairs) : Prop := ∀ pair ∈ pairs, pair.1 ≠ "" ∧ '=' ∉ pair.1.toList

variable {pairs pairs' : Pairs} {key value field text : String}

theorem mapM_written (h : pairs.Keyed) :
    (pairs.map written).mapM (Text.splitFirst? '=') = some pairs := by
  induction pairs with
  | nil => rfl
  | cons pair pairs ih =>
    have hpair := Text.splitFirst?_written (h pair List.mem_cons_self).2
    have hpairs := ih fun other ho => h other (List.mem_cons_of_mem pair ho)
    simp [hpair, hpairs]

theorem mem_insert {pair : String × String} (h : pair ∈ pairs.insert key value) :
    pair = (key, value) ∨ pair ∈ pairs := by
  induction pairs with
  | nil => exact .inl (List.mem_singleton.mp h)
  | cons first rest ih =>
    obtain ⟨k, v⟩ := first
    unfold insert at h
    split at h
    · exact List.mem_cons.mp h
    split at h
    · exact (List.mem_cons.mp h).imp_right (List.mem_cons_of_mem _)
    · obtain rfl | h := List.mem_cons.mp h
      · exact .inr List.mem_cons_self
      · exact (ih h).imp_right (List.mem_cons_of_mem _)

theorem Keyed.insert (h : pairs.Keyed) (hk : key ≠ "") (he : '=' ∉ key.toList) :
    (pairs.insert key value).Keyed := by
  intro pair hp
  obtain rfl | hp := mem_insert hp
  · exact ⟨hk, he⟩
  · exact h pair hp

theorem key_of_ofWord? {word : String} (h : ofWord? word = some (key, value)) :
    key ≠ "" ∧ '=' ∉ key.toList := by
  unfold ofWord? at h
  split at h
  · rename_i k v hs
    split at h
    · cases h
    · rename_i hk
      cases h
      exact ⟨fun he => hk (String.isEmpty_iff.mpr he), Text.notMem_of_splitFirst? hs⟩
  · cases h

theorem Keyed.ofWords (h : pairs.Keyed) {words : List String}
    (hw : ofWords field pairs words = .ok pairs') : pairs'.Keyed := by
  induction words generalizing pairs with
  | nil =>
    cases hw
    exact h
  | cons word words ih =>
    unfold Pairs.ofWords at hw
    split at hw
    · rename_i key value hword
      obtain ⟨hk, he⟩ := key_of_ofWord? hword
      exact ih (h.insert hk he) hw
    · cases hw

theorem keyed_of_parse (h : parse field text = .ok pairs) : pairs.Keyed :=
  Keyed.ofWords (fun _ hp => by cases hp) h

end Pairs

def IsMount (text : String) : Prop :=
  text = "" ∨ ∃ volume point : String, volume ≠ "" ∧ point ≠ "" ∧ text = volume ++ ":" ++ point

def CreateSpec.Flawless : CreateSpec → Prop
  | container spec => spec.image ≠ "" ∧ IsMount spec.volume ∧ spec.labels.Keyed
  | pod spec => spec.labels.Keyed
  | network spec => spec.labels.Keyed
  | volume spec => spec.labels.Keyed ∧ spec.options.Keyed

namespace CreateForm

variable {form : Form} {kind : Kind}

theorem kind_of_new? {choices : Choices} {infraImage : String} {create : CreateForm}
    (h : new? kind choices infraImage = some create) : create.kind = kind := by
  cases kind <;> cases h <;> rfl

theorem isMount_of_mount {volume point text : String} (h : mount volume point = .ok text) :
    IsMount text := by
  unfold mount at h
  split at h
  · cases h
    exact .inl rfl
  · rename_i hv hp
    cases h
    refine .inr ⟨volume, point, ?_, ?_, rfl⟩
    · rintro rfl
      cases hv
    · rintro rfl
      cases hp
  · cases h
  · cases h

theorem exists_of_bind {α β : Type} {x : Except Failure α} {f : α → Except Failure β} {b : β}
    (h : x >>= f = .ok b) : ∃ a, x = .ok a ∧ f a = .ok b := by
  cases x with
  | error failure => cases h
  | ok a => exact ⟨a, rfl, h⟩

theorem containerSpec_eq_ok {spec : ContainerSpec} (h : containerSpec form = .ok spec) :
    spec.image ≠ "" ∧ IsMount spec.volume ∧ spec.labels.Keyed := by
  unfold containerSpec at h
  dsimp only at h
  split at h
  · cases h
  · rename_i hi
    obtain ⟨volume, hv, h⟩ := exists_of_bind h
    obtain ⟨labels, hl, h⟩ := exists_of_bind h
    cases h
    exact ⟨fun he => hi (String.isEmpty_iff.mpr he), isMount_of_mount hv, Pairs.keyed_of_parse hl⟩

theorem podSpec_eq_ok {spec : PodSpec} (h : podSpec form = .ok spec) : spec.labels.Keyed := by
  obtain ⟨labels, hl, h⟩ := exists_of_bind h
  cases h
  exact Pairs.keyed_of_parse hl

theorem networkSpec_eq_ok {spec : NetworkSpec} (h : networkSpec form = .ok spec) :
    spec.labels.Keyed := by
  obtain ⟨labels, hl, h⟩ := exists_of_bind h
  cases h
  exact Pairs.keyed_of_parse hl

theorem volumeSpec_eq_ok {spec : VolumeSpec} (h : volumeSpec form = .ok spec) :
    spec.labels.Keyed ∧ spec.options.Keyed := by
  obtain ⟨labels, hl, h⟩ := exists_of_bind h
  obtain ⟨options, ho, h⟩ := exists_of_bind h
  cases h
  exact ⟨Pairs.keyed_of_parse hl, Pairs.keyed_of_parse ho⟩

/-- What a form describes is of the form's kind and without a flaw. -/
theorem specOf_eq_ok {spec : CreateSpec} (h : specOf kind form = .ok spec) :
    spec.kind = kind ∧ spec.Flawless := by
  cases kind with
  | containers =>
    obtain ⟨container, hs, h⟩ := exists_of_bind h
    cases h
    exact ⟨rfl, containerSpec_eq_ok hs⟩
  | pods =>
    obtain ⟨pod, hs, h⟩ := exists_of_bind h
    cases h
    exact ⟨rfl, podSpec_eq_ok hs⟩
  | networks =>
    obtain ⟨network, hs, h⟩ := exists_of_bind h
    cases h
    exact ⟨rfl, networkSpec_eq_ok hs⟩
  | volumes =>
    obtain ⟨volume, hs, h⟩ := exists_of_bind h
    cases h
    exact ⟨rfl, volumeSpec_eq_ok hs⟩
  | images => cases h

end CreateForm

end Deckhand
