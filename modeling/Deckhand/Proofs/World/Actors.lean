import Mathlib.Data.List.Chain
import Deckhand.Proofs.World.Basic

namespace Deckhand

namespace Actor

def Sent (actor : Actor) : Event → Prop
  | .statsUpdated kind id report =>
    kind = actor.sampler.kind ∧ id = actor.sampler.id ∧ report ∈ actor.reports
  | .statsFailed kind id _ => kind = actor.sampler.kind ∧ id = actor.sampler.id
  | _ => False

structure Later (actor actor' : Actor) : Prop where
  sampler : actor'.sampler = actor.sampler
  reports : ∀ report ∈ actor.reports, report ∈ actor'.reports

variable {actor actor' : Actor} {event : Event}

theorem later_cancel (actor : Actor) : actor.Later actor.cancel := ⟨rfl, fun _ h => h⟩

theorem later_note (actor : Actor) (result : Except Failure Outcome) :
    actor.Later (actor.note result) := by
  unfold note
  split
  · exact ⟨rfl, fun _ h => List.mem_append_left _ h⟩
  · exact ⟨rfl, fun _ h => h⟩

theorem cancelled_note (actor : Actor) (result : Except Failure Outcome) :
    (actor.note result).cancelled = actor.cancelled := by
  unfold note
  split <;> rfl

theorem Sent.later (hs : actor.Sent event) (h : actor.Later actor') : actor'.Sent event := by
  cases event with
  | statsUpdated kind id report =>
    obtain ⟨hk, hid, hr⟩ := hs
    rw [← h.sampler] at hk hid
    exact ⟨hk, hid, h.reports report hr⟩
  | statsFailed kind id error =>
    obtain ⟨hk, hid⟩ := hs
    rw [← h.sampler] at hk hid
    exact ⟨hk, hid⟩
  | _ => exact hs

theorem sent_note (actor : Actor) (result : Except Failure Outcome) :
    (actor.note result).Sent (actor.sampler.event result) := by
  cases result with
  | error failure => exact ⟨rfl, rfl⟩
  | ok outcome =>
    cases outcome with
    | table report => exact ⟨rfl, rfl, List.mem_append_right _ (List.mem_singleton.mpr rfl)⟩
    | _ => exact ⟨rfl, rfl⟩

end Actor

structure Numbered (actors : List Actor) (bound : Nat) : Prop where
  lt : ∀ (i : Nat) (actor : Actor), actors[i]? = some actor → actor.sampler.id.number < bound
  apart : ∀ (i j : Nat) (actor other : Actor), actors[i]? = some actor → actors[j]? = some other →
    actor.sampler.id = other.sampler.id → i = j

section

variable {actors : List Actor} {i j bound : Nat} {actor actor' : Actor} {event : Event}
variable {f : Actor → Actor}

theorem getElem?_modify_actor (h : (actors.modify i f)[j]? = some actor') :
    ∃ actor, actors[j]? = some actor ∧ actor' = if i = j then f actor else actor := by
  rw [List.getElem?_modify] at h
  obtain ⟨actor, ha, he⟩ := Option.map_eq_some_iff.mp h
  exact ⟨actor, ha, he.symm⟩

theorem getElem?_modify_of_getElem? (h : actors[j]? = some actor) :
    (actors.modify i f)[j]? = some (if i = j then f actor else actor) := by
  rw [List.getElem?_modify, h]
  rfl

theorem sampler_modify (hf : ∀ actor : Actor, actor.Later (f actor))
    (h : (actors.modify i f)[j]? = some actor') :
    ∃ actor, actors[j]? = some actor ∧ actor'.sampler = actor.sampler := by
  obtain ⟨actor, ha, he⟩ := getElem?_modify_actor h
  refine ⟨actor, ha, ?_⟩
  rw [he]
  split
  · exact (hf actor).sampler
  · rfl

theorem Numbered.mono (h : Numbered actors bound) {bound' : Nat} (hb : bound ≤ bound') :
    Numbered actors bound' :=
  ⟨fun i actor ha => Nat.lt_of_lt_of_le (h.lt i actor ha) hb, h.apart⟩

theorem Numbered.modify (h : Numbered actors bound) (hf : ∀ actor : Actor, actor.Later (f actor)) :
    Numbered (actors.modify i f) bound := by
  constructor
  · intro j actor' ha'
    obtain ⟨actor, ha, hs⟩ := sampler_modify hf ha'
    rw [hs]
    exact h.lt j actor ha
  · intro j k actor' other' ha' ho' hid
    obtain ⟨actor, ha, hs⟩ := sampler_modify hf ha'
    obtain ⟨other, ho, hs'⟩ := sampler_modify hf ho'
    rw [hs, hs'] at hid
    exact h.apart j k actor other ha ho hid

theorem getElem?_concat (h : (actors ++ [actor'])[j]? = some actor) :
    actors[j]? = some actor ∨ j = actors.length ∧ actor = actor' := by
  rw [List.getElem?_append] at h
  split at h
  · exact .inl h
  · rename_i hj
    obtain ⟨hlt, he⟩ := List.getElem?_eq_some_iff.mp h
    simp only [List.length_singleton] at hlt
    exact .inr ⟨by omega, by simpa using he.symm⟩

theorem getElem?_append_actor (h : actors[j]? = some actor) :
    (actors ++ [actor'])[j]? = some actor := by
  obtain ⟨hlt, -⟩ := List.getElem?_eq_some_iff.mp h
  rw [List.getElem?_append_left hlt, h]

theorem Numbered.concat (actor : Actor) (h : Numbered actors actor.sampler.id.number) :
    Numbered (actors ++ [actor]) (actor.sampler.id.number + 1) := by
  constructor
  · intro i other ho
    obtain ho | ⟨-, rfl⟩ := getElem?_concat ho
    · exact Nat.lt_succ_of_lt (h.lt i other ho)
    · exact Nat.lt_succ_self _
  · intro i j first second hi hj hid
    obtain hi' | ⟨rfl, rfl⟩ := getElem?_concat hi <;>
      obtain hj' | ⟨rfl, rfl⟩ := getElem?_concat hj
    · exact h.apart i j first second hi' hj' hid
    · have hlt := h.lt i first hi'
      rw [hid] at hlt
      exact absurd hlt (Nat.lt_irrefl _)
    · have hlt := h.lt j second hj'
      rw [← hid] at hlt
      exact absurd hlt (Nat.lt_irrefl _)
    · rfl

def Posted (actors : List Actor) (event : Event) : Prop :=
  ∃ (i : Nat) (actor : Actor), actors[i]? = some actor ∧ actor.Sent event

theorem Posted.modify (h : Posted actors event) (hf : ∀ actor : Actor, actor.Later (f actor)) :
    Posted (actors.modify i f) event := by
  obtain ⟨j, actor, ha, hs⟩ := h
  refine ⟨j, _, getElem?_modify_of_getElem? ha, ?_⟩
  split
  · exact hs.later (hf actor)
  · exact hs

theorem Posted.concat (h : Posted actors event) : Posted (actors ++ [actor]) event := by
  obtain ⟨j, other, ho, hs⟩ := h
  exact ⟨j, other, getElem?_append_actor ho, hs⟩

end

/-- Starts and stops take turns from a start on, and `current` is the last of them. -/
structure Alternates (switches : List Bool) (current : Bool) : Prop where
  chain : (false :: switches).IsChain (· ≠ ·)
  last : (false :: switches).getLast? = some current

theorem Alternates.concat {switches : List Bool} {b : Bool} (h : Alternates switches !b) :
    Alternates (switches ++ [b]) b := by
  constructor
  · rw [← List.cons_append]
    refine List.isChain_append.mpr ⟨h.chain, List.isChain_singleton b, ?_⟩
    intro x hx y hy
    rw [h.last] at hx
    cases hx
    cases hy
    cases b <;> decide
  · rw [← List.cons_append]
    exact List.getLast?_concat

end Deckhand
