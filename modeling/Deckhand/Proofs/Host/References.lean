import Mathlib.Data.List.DropRight
import Mathlib.Data.String.Basic
import Deckhand.Host.Podman.Cli

namespace Deckhand

section

variable {separator : Char} {text before after : String}

theorem Text.splitLast?_eq_some (h : separator ∉ after.toList)
    (ht : text.toList = before.toList ++ separator :: after.toList) :
    splitLast? separator text = some (before, after) := by
  have hrev : text.toList.reverse = after.toList.reverse ++ separator :: before.toList.reverse := by
    simp [ht]
  have hafter : ∀ c ∈ after.toList.reverse, (c != separator) = true := by
    intro c hc
    rw [bne_iff_ne]
    rintro rfl
    exact h (List.mem_reverse.mp hc)
  unfold splitLast?
  simp only [hrev, List.dropWhile_append_of_pos hafter, List.takeWhile_append_of_pos hafter]
  simp

theorem Text.of_splitLast?_eq_some (h : splitLast? separator text = some (before, after)) :
    separator ∉ after.toList ∧ text.toList = before.toList ++ separator :: after.toList := by
  unfold splitLast? at h
  dsimp only at h
  split at h
  · cases h
  · rename_i c rest hdrop
    cases h
    have hc : c = separator := by
      have hhead := List.head?_dropWhile_not (· != separator) text.toList.reverse
      rw [hdrop] at hhead
      simpa using hhead
    have hrev := List.takeWhile_append_dropWhile (p := (· != separator)) (l := text.toList.reverse)
    rw [hdrop, hc] at hrev
    rw [String.toList_ofList, String.toList_ofList]
    constructor
    · intro hm
      have hne := List.mem_takeWhile_imp (List.mem_reverse.mp hm)
      simp at hne
    · have hback := congrArg List.reverse hrev
      rw [List.reverse_append, List.reverse_cons, List.append_assoc, List.reverse_reverse] at hback
      exact hback.symm

end

namespace Podman

/-- What follows the last slash, which is the whole text if there is none. -/
def lastPart (text : String) : List Char := text.toList.rtakeWhile (· ≠ '/')

/-- What an image is called by: a repository on a registry that may carry a port, and maybe a tag. -/
structure Reference where
  repository : String
  tag : Option String
  noColon : ':' ∉ lastPart repository
  plainTag : ∀ t ∈ tag, ':' ∉ t.toList ∧ '/' ∉ t.toList

namespace Reference

def text (reference : Reference) : String :=
  match reference.tag with
  | some tag => reference.repository ++ ":" ++ tag
  | none => reference.repository

def shownTag (reference : Reference) : String := reference.tag.getD "<none>"

theorem text_cases (reference : Reference) :
    reference.text = reference.repository ∧ reference.shownTag = "<none>" ∨
      reference.text = reference.repository ++ ":" ++ reference.shownTag := by
  unfold text shownTag
  cases reference.tag with
  | none => exact .inl ⟨rfl, rfl⟩
  | some tag => exact .inr rfl

end Reference

def FirstName (item : Json) (name : String) : Prop :=
  ∃ before after, item.get? "Names" = some (.array (before ++ .string name :: after)) ∧
    ∀ value ∈ before, value.string? = none

variable {item : Json} {name repository tag : String} {reference other : Reference}

theorem strings_head? (h : FirstName item name) : (strings item "Names").head? = some name := by
  obtain ⟨before, after, hnames, hbefore⟩ := h
  have hnone : before.filterMap (·.string?) = [] := List.filterMap_eq_nil_iff.mpr hbefore
  rw [strings, hnames]
  change ((before ++ .string name :: after).filterMap (·.string?)).head? = some name
  rw [List.filterMap_append, hnone]
  rfl

theorem row_of_firstName (h : FirstName item name) :
    (row .images item).name = name ∧
      ∃ others, (row .images item).cells =
        (repositoryAndTag name).1 :: (repositoryAndTag name).2 :: others := by
  simp [row, image, strings_head? h]

theorem colon_mem_lastPart (h : '/' ∉ tag.toList) : ':' ∈ lastPart (repository ++ ":" ++ tag) := by
  have htag : ∀ c ∈ tag.toList.reverse, decide (c ≠ '/') = true := by
    intro c hc
    rw [decide_eq_true_iff]
    rintro rfl
    exact h (List.mem_reverse.mp hc)
  have hrev : (repository ++ ":" ++ tag).toList.reverse =
      tag.toList.reverse ++ ':' :: repository.toList.reverse := by
    simp
  rw [lastPart, List.rtakeWhile, hrev, List.takeWhile_append_of_pos htag]
  simp

theorem repositoryAndTag_tagged (hc : ':' ∉ tag.toList) (hs : '/' ∉ tag.toList) :
    repositoryAndTag (repository ++ ":" ++ tag) = (repository, tag) := by
  have hsplit : Text.splitLast? ':' (repository ++ ":" ++ tag) = some (repository, tag) :=
    Text.splitLast?_eq_some hc (by simp)
  simp [repositoryAndTag, hsplit, hs]

theorem repositoryAndTag_untagged (h : ':' ∉ lastPart repository) :
    repositoryAndTag repository = (repository, "<none>") := by
  unfold repositoryAndTag
  split
  · rename_i before after hsplit
    obtain ⟨-, htext⟩ := Text.of_splitLast?_eq_some hsplit
    have heq : repository = before ++ ":" ++ after := by
      rw [← String.toList_inj, htext]
      simp
    rw [if_pos]
    rw [List.contains_iff_mem]
    by_contra hs
    rw [heq] at h
    exact h (colon_mem_lastPart hs)
  · rfl

theorem repositoryAndTag_text (reference : Reference) :
    repositoryAndTag reference.text = (reference.repository, reference.shownTag) := by
  unfold Reference.text Reference.shownTag
  cases h : reference.tag with
  | none => exact repositoryAndTag_untagged reference.noColon
  | some tag =>
    obtain ⟨hc, hs⟩ := reference.plainTag tag h
    exact repositoryAndTag_tagged hc hs

theorem append_remark (text : String) : text ++ ":" ++ "<none>" = text ++ ":<none>" := by
  rw [String.append_assoc]
  rfl

theorem remark_of_text_eq (h : other.text = reference.text ++ ":<none>") :
    repositoryAndTag other.text = repositoryAndTag reference.text := by
  have hother : repositoryAndTag other.text = (reference.text, "<none>") := by
    rw [h, ← append_remark]
    exact repositoryAndTag_tagged (by decide) (by decide)
  have hrepository : other.repository = reference.text := by
    rw [repositoryAndTag_text] at hother
    exact congrArg Prod.fst hother
  rw [hother]
  have hno := other.noColon
  rw [hrepository] at hno
  exact (repositoryAndTag_untagged hno).symm

/-- References look the same if they are, or if only one of them has a tag and that is the remark
that stands in the place of none. -/
theorem shown_eq_iff :
    (other.repository, other.shownTag) = (reference.repository, reference.shownTag) ↔
      other.text = reference.text ∨ other.text = reference.text ++ ":<none>" ∨
        reference.text = other.text ++ ":<none>" := by
  constructor
  · intro h
    obtain ⟨hrepository, htag⟩ := Prod.mk.inj h
    obtain ⟨ho, hos⟩ | ho := other.text_cases <;>
      obtain ⟨hr, hrs⟩ | hr := reference.text_cases
    · exact .inl (by rw [ho, hr, hrepository])
    · exact .inr (.inr (by rw [hr, ho, ← htag, hos, hrepository, append_remark]))
    · exact .inr (.inl (by rw [ho, hr, htag, hrs, hrepository, append_remark]))
    · exact .inl (by rw [ho, hr, htag, hrepository])
  · rw [← repositoryAndTag_text, ← repositoryAndTag_text]
    rintro (h | h | h)
    · rw [h]
    · exact remark_of_text_eq h
    · exact (remark_of_text_eq h).symm

/-- The first two cells of an image show the repository and the tag of its reference, which is its
name. Other references look different, but for a tag that reads like the remark for none. -/
theorem image_shows_reference (item : Json) (reference : Reference)
    (h : FirstName item reference.text) :
    (row .images item).name = reference.text ∧
    (∃ others, (row .images item).cells =
      reference.repository :: reference.shownTag :: others) ∧
    ∀ (item' : Json) (other : Reference), FirstName item' other.text →
      ((row .images item').cells.take 2 = (row .images item).cells.take 2 ↔
        other.text = reference.text ∨ other.text = reference.text ++ ":<none>" ∨
          reference.text = other.text ++ ":<none>") := by
  obtain ⟨hname, others, hcells⟩ := row_of_firstName h
  rw [repositoryAndTag_text] at hcells
  refine ⟨hname, ⟨others, hcells⟩, fun item' other h' => ?_⟩
  obtain ⟨-, others', hcells'⟩ := row_of_firstName h'
  rw [repositoryAndTag_text] at hcells'
  rw [← shown_eq_iff, hcells, hcells', Prod.mk.injEq]
  simp

def imageNamed (name : String) : Json := .object [("Names", .array [.null, .string name])]

theorem firstName_imageNamed (name : String) : FirstName (imageNamed name) name :=
  ⟨[.null], [], rfl, fun _ hv => List.mem_singleton.mp hv ▸ rfl⟩

def onPort : Reference where
  repository := "localhost:5000/app"
  tag := some "dev"
  noColon := by decide
  plainTag := by
    rintro tag ⟨⟩
    decide

def onPortUntagged : Reference where
  repository := "localhost:5000/app"
  tag := none
  noColon := by decide
  plainTag := nofun

theorem image_on_port_is_shown :
    (row .images (imageNamed "localhost:5000/app:dev")).name = "localhost:5000/app:dev" ∧
    (∃ others, (row .images (imageNamed "localhost:5000/app:dev")).cells =
      "localhost:5000/app" :: "dev" :: others) ∧
    (row .images (imageNamed "localhost:5000/app")).cells.take 2 ≠
      (row .images (imageNamed "localhost:5000/app:dev")).cells.take 2 := by
  obtain ⟨hname, hcells, hother⟩ :=
    image_shows_reference (imageNamed "localhost:5000/app:dev") onPort (firstName_imageNamed _)
  have hiff := hother (imageNamed "localhost:5000/app") onPortUntagged (firstName_imageNamed _)
  refine ⟨hname, hcells, fun heq => absurd (hiff.mp heq) ?_⟩
  decide

example : repositoryAndTag "app:<none>" = repositoryAndTag "app" := by decide

end Podman

end Deckhand
