import Mathlib.Data.List.Basic
import Deckhand.Proofs.Board.Agreement
import Deckhand.Proofs.World.Basic
import Deckhand.Refresh.Round

namespace Deckhand

/-- A world and the lists that fill its tables. The board is told of each list some time after its
rows have been stored. -/
structure Upkeep where
  world : World
  failing : PerKind Bool := .ofFn fun _ => false
  stored : PerKind Nat := .ofFn fun _ => 0
  /-- The lists that have been stored without the board having handled the message about them. -/
  due : List (Kind × Nat) := []

namespace Upkeep

def start (settings : Settings) : Upkeep := { world := .start settings .empty }

def refresher (u : Upkeep) : Refresh.Refresher := ⟨u.world.board.tables, u.failing⟩

def list (u : Upkeep) (kind : Kind) : Except Failure (List Row) → Upkeep
  | .ok rows =>
    { world := { u.world with board := u.world.board.replaceRows kind rows }
      failing := u.failing.set kind false
      stored := u.stored.set kind (u.stored.get kind + 1)
      due := (kind, u.stored.get kind + 1) :: u.due }
  | .error failure =>
    { u with
      world := { u.world with
        mail := (u.refresher.report? kind (.error failure)).toList ++ u.world.mail }
      failing := u.failing.set kind true }

inductive Step (u : Upkeep) : Upkeep → Prop
  | world {w} : u.world.Step (fun _ => True) w → w.board.tables = u.world.board.tables →
      Step u { u with world := w }
  | list (kind : Kind) (answer : Except Failure (List Row)) : Step u (u.list kind answer)
  | report {kind n rest} : u.due.Perm ((kind, n) :: rest) →
      Step u { u with world := u.world.handle (.listRefreshed kind), due := rest }

inductive Reachable (settings : Settings) : Upkeep → Prop
  | start : Reachable settings (start settings)
  | next {u u'} : Reachable settings u → Step u u' → Reachable settings u'

/-- The message about the list of a kind that was stored last has not been handled. -/
def Awaits (u : Upkeep) (kind : Kind) : Prop := (kind, u.stored.get kind) ∈ u.due

section

variable (u : Upkeep) (kind other : Kind) (answer : Except Failure (List Row))

theorem rows_list : (u.list kind answer).world.board.rows other =
    if other = kind then (match answer with
      | .ok rows => rows
      | .error _ => u.world.board.rows other)
    else u.world.board.rows other := by
  cases answer with
  | ok rows => exact PerKind.get_set u.world.board.tables kind other rows
  | error failure => exact (ite_self _).symm

theorem failing_list : (u.list kind answer).failing.get other =
    if other = kind then answer.toOption.isNone else u.failing.get other := by
  cases answer <;> exact PerKind.get_set u.failing kind other _

theorem report?_list : ∃ due mail, (u.list kind answer).due = due ++ u.due ∧
    (u.list kind answer).world.mail = mail ++ u.world.mail ∧
    due.map (.listRefreshed ·.1) ++ mail = (u.refresher.report? kind answer).toList := by
  cases answer with
  | ok rows => exact ⟨[(kind, u.stored.get kind + 1)], [], rfl, rfl, rfl⟩
  | error failure => exact ⟨[], _, rfl, rfl, rfl⟩

end

def lists (u : Upkeep) (answers : PerKind (Except Failure (List Row))) (kinds : List Kind) :
    Upkeep :=
  kinds.foldl (fun u kind => u.list kind (answers.get kind)) u

section

variable (u : Upkeep) (answers : PerKind (Except Failure (List Row)))

theorem get_store (tables : Tables) (kind : Kind) : (Refresh.store tables answers).get kind =
    match answers.get kind with
    | .ok rows => rows
    | .error _ => tables.get kind := PerKind.get_ofFn _ kind

theorem rows_lists (kinds : List Kind) (kind : Kind) :
    (u.lists answers kinds).world.board.rows kind =
      if kind ∈ kinds then (Refresh.store u.world.board.tables answers).get kind
      else u.world.board.rows kind := by
  induction kinds generalizing u with
  | nil => rfl
  | cons first kinds ih =>
    have hfirst := rows_list u first kind (answers.get first)
    refine (ih (u.list first (answers.get first))).trans ?_
    rw [get_store answers, get_store answers]
    by_cases hk : kind = first
    · subst hk
      rw [if_pos rfl] at hfirst
      cases ha : answers.get kind <;> simp_all [Board.rows]
    · rw [if_neg hk] at hfirst
      cases ha : answers.get kind <;> simp_all [Board.rows]

theorem failing_lists (kinds : List Kind) (kind : Kind) :
    (u.lists answers kinds).failing.get kind =
      if kind ∈ kinds then (answers.get kind).toOption.isNone else u.failing.get kind := by
  induction kinds generalizing u with
  | nil => rfl
  | cons first kinds ih =>
    refine (ih (u.list first (answers.get first))).trans ?_
    rw [failing_list]
    by_cases hk : kind = first <;> simp [hk]

theorem reports_lists {kinds : List Kind} (hn : kinds.Nodup) :
    ∃ due mail, (u.lists answers kinds).due = due ++ u.due ∧
      (u.lists answers kinds).world.mail = mail ++ u.world.mail ∧
      (due.map (Event.listRefreshed ·.1) ++ mail).Perm
        (kinds.filterMap fun kind => u.refresher.report? kind (answers.get kind)) := by
  induction kinds generalizing u with
  | nil => exact ⟨[], [], rfl, rfl, .nil⟩
  | cons first kinds ih =>
    obtain ⟨hfirst, hn⟩ := List.nodup_cons.mp hn
    obtain ⟨due₁, mail₁, hd₁, hm₁, hr₁⟩ := u.report?_list first (answers.get first)
    obtain ⟨due₂, mail₂, hd₂, hm₂, hr₂⟩ := ih (u.list first (answers.get first)) hn
    have hrest : (kinds.filterMap fun kind =>
        (u.list first (answers.get first)).refresher.report? kind (answers.get kind)) =
        kinds.filterMap fun kind => u.refresher.report? kind (answers.get kind) := by
      refine List.filterMap_congr fun kind hk => ?_
      have hne : kind ≠ first := fun he => hfirst (he ▸ hk)
      have hfailing := failing_list u first kind (answers.get first)
      rw [if_neg hne] at hfailing
      cases answers.get kind with
      | ok rows => rfl
      | error failure =>
        unfold Refresh.Refresher.report? refresher
        dsimp only
        rw [hfailing]
    have hcons : (first :: kinds).filterMap
        (fun kind => u.refresher.report? kind (answers.get kind)) =
        (u.refresher.report? first (answers.get first)).toList ++
          kinds.filterMap fun kind => u.refresher.report? kind (answers.get kind) := by
      rw [List.filterMap_cons]
      cases u.refresher.report? first (answers.get first) <;> rfl
    refine ⟨due₂ ++ due₁, mail₂ ++ mail₁, ?_, ?_, ?_⟩
    · rw [List.append_assoc, ← hd₁]
      exact hd₂
    · rw [List.append_assoc, ← hm₁]
      exact hm₂
    · rw [hcons, ← hr₁, ← hrest]
      refine List.Perm.trans ?_ (hr₂.append_left _)
      simp only [List.map_append, List.append_assoc]
      refine List.perm_append_comm_assoc _ _ _ |>.trans (List.Perm.append_left _ ?_)
      rw [← List.append_assoc]
      exact List.perm_append_comm

/-- A round of the refresher is its lists one after the other, in whatever order they arrive. -/
theorem lists_eq_round {kinds : List Kind} (hk : kinds.Perm Kind.all) :
    (u.lists answers kinds).refresher = (u.refresher.round answers).refresher ∧
      ∃ due mail, (u.lists answers kinds).due = due ++ u.due ∧
        (u.lists answers kinds).world.mail = mail ++ u.world.mail ∧
        (due.map (Event.listRefreshed ·.1) ++ mail).Perm (u.refresher.round answers).events := by
  have hmem (kind : Kind) : kind ∈ kinds := hk.mem_iff.mpr kind.mem_all
  have htables : (u.lists answers kinds).world.board.tables =
      Refresh.store u.world.board.tables answers :=
    PerKind.ext_get fun kind => (rows_lists u answers kinds kind).trans (if_pos (hmem kind))
  have hfailing : (u.lists answers kinds).failing =
      .ofFn fun kind => (answers.get kind).toOption.isNone :=
    PerKind.ext_get fun kind => by
      rw [failing_lists, if_pos (hmem kind), PerKind.get_ofFn]
  obtain ⟨due, mail, hd, hm, hr⟩ := reports_lists u answers (hk.nodup_iff.mpr (by decide))
  refine ⟨?_, due, mail, hd, hm, hr.trans (hk.filterMap _)⟩
  rw [refresher, htables, hfailing]
  rfl

end

theorem Reachable.key {settings : Settings} {u : Upkeep} (h : Reachable settings u) (key : Key) :
    Reachable settings { u with world := u.world.handle (.key key) } := by
  refine h.next (.world (.key key) ?_)
  rw [World.board_handle, Board.handle_tables]

theorem Reachable.lists {settings : Settings} {u : Upkeep} (h : Reachable settings u)
    (answers : PerKind (Except Failure (List Row))) (kinds : List Kind) :
    Reachable settings (u.lists answers kinds) := by
  induction kinds generalizing u with
  | nil => exact h
  | cons kind kinds ih => exact ih (h.next (.list kind (answers.get kind)))

structure Sound (u : Upkeep) : Prop where
  agrees : ∀ kind, u.Awaits kind ∨ u.world.board.Agrees kind
  numbered : ∀ kind n, (kind, n) ∈ u.due → n ≤ u.stored.get kind
  nodup : u.due.Nodup

variable {settings : Settings} {u u' : Upkeep} {kind : Kind}

theorem sound_start (settings : Settings) : (start settings).Sound where
  agrees kind := .inr (by cases kind <;> exact Page.agrees_empty)
  numbered kind n hn := by cases hn
  nodup := .nil

theorem agrees_step {w w' : World} {stray : Event → Prop} (h : w.board.Agrees kind)
    (hs : w.Step stray w') (ht : w'.board.tables = w.board.tables) : w'.board.Agrees kind := by
  -- What happens in the world without touching the tables ends no agreement.
  obtain ⟨event, hb⟩ | hb | ⟨other, rows, hb⟩ := hs.board
  · rw [hb]
    exact h.handle event
  · rw [hb]
    exact h
  · have hrows : w'.board.rows kind = w.board.rows kind := by rw [Board.rows, ht, Board.rows]
    unfold Board.Agrees
    rw [hrows, hb]
    exact h

theorem Sound.list (h : u.Sound) (kind : Kind) (answer : Except Failure (List Row)) :
    (u.list kind answer).Sound := by
  cases answer with
  | error failure => exact ⟨h.agrees, h.numbered, h.nodup⟩
  | ok rows =>
    have hstored (other : Kind) : (u.list kind (.ok rows)).stored.get other =
        if other = kind then u.stored.get kind + 1 else u.stored.get other :=
      PerKind.get_set u.stored kind other _
    refine ⟨fun other => ?_, fun other n hn => ?_, ?_⟩
    · by_cases hk : other = kind
      · left
        unfold Awaits
        rw [hstored, if_pos hk, hk]
        exact List.mem_cons_self
      · refine (h.agrees other).imp (fun ha => ?_) (fun ha => ha.replaceRows_of_ne hk rows)
        unfold Awaits
        rw [hstored, if_neg hk]
        exact List.mem_cons_of_mem _ ha
    · rw [hstored]
      obtain heq | hn := List.mem_cons.mp hn
      · cases heq
        exact Nat.le_of_eq (if_pos rfl).symm
      · have hle := h.numbered other n hn
        split
        · rename_i hk
          exact Nat.le_succ_of_le (hk ▸ hle)
        · exact hle
    · refine List.nodup_cons.mpr ⟨fun hn => ?_, h.nodup⟩
      exact absurd (h.numbered kind _ hn) (Nat.not_succ_le_self _)

theorem Sound.report (h : u.Sound) {n : Nat} {rest : List (Kind × Nat)}
    (hd : u.due.Perm ((kind, n) :: rest)) :
    Sound { u with world := u.world.handle (.listRefreshed kind), due := rest } := by
  refine ⟨fun other => ?_, fun other m hm => ?_, ?_⟩
  · rw [World.board_handle]
    by_cases hk : other = kind
    · exact .inr (hk ▸ Board.agrees_handle_listRefreshed u.world.board kind)
    · refine (h.agrees other).imp (fun ha => ?_) (fun ha => ha.handle _)
      exact List.mem_of_ne_of_mem (fun he => hk (congrArg Prod.fst he)) (hd.subset ha)
  · exact h.numbered other m (hd.symm.subset (List.mem_cons_of_mem _ hm))
  · exact (List.nodup_cons.mp (hd.nodup_iff.mp h.nodup)).2

theorem Sound.step (h : u.Sound) (hs : Step u u') : u'.Sound := by
  cases hs with
  | world hw ht =>
    exact ⟨fun kind => (h.agrees kind).imp_right (agrees_step · hw ht), h.numbered, h.nodup⟩
  | list kind answer => exact h.list kind answer
  | report hd => exact h.report hd

theorem Reachable.sound (h : Reachable settings u) : u.Sound := by
  induction h with
  | start => exact sound_start settings
  | next _ hs ih => exact ih.step hs

/-- However lists, keys and messages come one after the other: unless the board has still to be told
of the last list of a kind, cursor and selection of its page are those of a row of the table. -/
theorem selection_agrees_with_table (h : Reachable settings u) (kind : Kind) :
    (u.Awaits kind ∨ (u.world.page kind).Agrees (u.world.board.rows kind)) ∧
      ((∀ n, (kind, n) ∉ u.due) →
        (∀ ref, (u.world.page kind).selection = some ref →
          ∃ row ∈ u.world.board.rows kind, row.ref = ref) ∧
        ((u.world.page kind).selection = none ↔ u.world.board.rows kind = [])) := by
  have hagrees := h.sound.agrees kind
  refine ⟨hagrees, fun hn => ?_⟩
  obtain hawaits | hagrees := hagrees
  · exact absurd hawaits (hn _)
  · exact hagrees.selection

def networkGone : Upkeep :=
  let both := (start {}).list .networks (.ok [⟨"2f", "podman", []⟩, ⟨"9a", "backbone", []⟩])
  let one := { both with world := both.world.keys [.char '4', .char 'j'] }.list .networks
    (.ok [⟨"2f", "podman", []⟩])
  { one with
    world := (one.world.handle (.listRefreshed .networks)).handle (.listRefreshed .networks)
    due := [] }

theorem other_network_selected : Reachable {} networkGone ∧
    (∀ n, (.networks, n) ∉ networkGone.due) ∧
    (networkGone.world.page .networks).selection = some ⟨"2f", "podman"⟩ := by
  have hstart : Reachable {} (start {}) := .start
  have hboth := hstart.next
    (.list .networks (.ok [⟨"2f", "podman", []⟩, ⟨"9a", "backbone", []⟩]))
  have hone := ((hboth.key ⟨.char '4', false, false, false⟩).key ⟨.char 'j', false, false, false⟩).next
    (.list .networks (.ok [⟨"2f", "podman", []⟩]))
  have hr : Reachable {} networkGone :=
    (hone.next (.report (.swap _ _ []))).next (.report (.refl _))
  have hd : ∀ n, (.networks, n) ∉ networkGone.due := fun _ => List.not_mem_nil
  refine ⟨hr, hd, ?_⟩
  obtain ⟨hin, hnone⟩ := (selection_agrees_with_table hr .networks).2 hd
  have hrows : networkGone.world.board.rows .networks = [⟨"2f", "podman", []⟩] := rfl
  rw [hrows] at hin hnone
  cases hs : (networkGone.world.page .networks).selection with
  | none => cases hnone.mp hs
  | some ref =>
    obtain ⟨row, hrow, rfl⟩ := hin ref hs
    rw [List.mem_singleton.mp hrow]
    rfl

end Upkeep

end Deckhand
