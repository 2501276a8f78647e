import Mathlib.Data.List.Basic
import Deckhand.Host.Memory

namespace Deckhand

abbrev Operation.Reply := Operation × Except Failure Outcome

def Operation.keepsRows : Operation → Bool
  | target _ verb _ => verb ≠ .remove
  | prune _ | tag _ _ | untag _ _ | exec _ _ | search _ | stats _ _ => true
  | rename _ _ | pull _ | create _ => false

inductive Operation.Alters : Operation → List Row → List Row → Prop where
  | keep {operation rows} : operation.keepsRows = true → Alters operation rows rows
  | remove {kind id before row after} : (∀ other ∈ before, other.id ≠ id) → row.id = id →
      Alters (.target kind .remove id) (before ++ row :: after) (before ++ after)
  | rename {id name before row after} : (∀ other ∈ before, other.id ≠ id) → row.id = id →
      Alters (.rename id name) (before ++ row :: after) (before ++ { row with name } :: after)
  | pull {image rows row} : row.name = image ++ ":" ++ "latest" →
      Alters (.pull image) rows (rows ++ [row])
  | create {spec rows row} : row.name = spec.name → Alters (.create spec) rows (rows ++ [row])

section

variable {α : Type} {p : α → Bool} {list : List α}

theorem exists_modifyFirst (f : α → α) (h : list.any p = true) : ∃ before a after,
    list = before ++ a :: after ∧ (∀ b ∈ before, p b = false) ∧ p a = true ∧
      modifyFirst p f list = before ++ f a :: after := by
  induction list with
  | nil => cases h
  | cons a rest ih =>
    cases hp : p a with
    | true => exact ⟨[], a, rest, rfl, nofun, hp, by simp [modifyFirst, hp]⟩
    | false =>
      rw [List.any_cons, hp, Bool.false_or] at h
      obtain ⟨before, b, after, hrest, hbefore, hb, hm⟩ := ih h
      refine ⟨a :: before, b, after, by rw [hrest, List.cons_append],
        List.forall_mem_cons.mpr ⟨hp, hbefore⟩, hb, ?_⟩
      simp [modifyFirst, hp, hm]

end

namespace MemoryHost

def Finds (host : MemoryHost) : Operation → Prop
  | .target kind _ id => ∃ row ∈ host.rows.get kind, row.id = id
  | .rename id _ => ∃ row ∈ host.rows.get .containers, row.id = id
  | _ => True

structure Performs (host : MemoryHost) (operation : Operation)
    (result : Except Failure Outcome) (host' : MemoryHost) : Prop where
  calls : host'.calls = host.calls ++ [operation]
  succeeds : (∃ outcome, result = .ok outcome) ↔
    host.failures.lookup operation.verb = none ∧ host.Finds operation
  failed : ∀ failure, result = .error failure →
    ∀ kind, host'.rows.get kind = host.rows.get kind
  own : ∀ outcome, result = .ok outcome →
    operation.Alters (host.rows.get operation.kind) (host'.rows.get operation.kind)
  others : ∀ kind, kind ≠ operation.kind → host'.rows.get kind = host.rows.get kind

variable {host : MemoryHost} {kind : Kind} {operation : Operation}

theorem rows_modifyRows (host : MemoryHost) (kind other : Kind) (f : List Row → List Row) :
    (host.modifyRows kind f).rows.get other =
      if other = kind then f (host.rows.get kind) else host.rows.get other :=
  PerKind.get_set host.rows kind other _

/-- What is said of the result and the rows of a call that was not told to fail. -/
structure Carries (host : MemoryHost) (operation : Operation)
    (reply : Except Failure Outcome × MemoryHost) : Prop where
  calls : reply.2.calls = host.calls
  succeeds : (∃ outcome, reply.1 = .ok outcome) ↔ host.Finds operation
  failed : ∀ failure, reply.1 = .error failure → reply.2 = host
  own : ∀ outcome, reply.1 = .ok outcome →
    operation.Alters (host.rows.get operation.kind) (reply.2.rows.get operation.kind)
  others : ∀ kind, kind ≠ operation.kind → reply.2.rows.get kind = host.rows.get kind

theorem Carries.refuse {failure : Failure} (h : ¬ host.Finds operation) :
    host.Carries operation (.error failure, host) where
  calls := rfl
  succeeds := ⟨fun ⟨_, ho⟩ => (nomatch ho), fun hf => absurd hf h⟩
  failed _ _ := rfl
  own _ ho := nomatch ho
  others _ _ := rfl

theorem Carries.keep {outcome : Outcome} (h : host.Finds operation)
    (hk : operation.keepsRows = true) : host.Carries operation (.ok outcome, host) where
  calls := rfl
  succeeds := ⟨fun _ => h, fun _ => ⟨outcome, rfl⟩⟩
  failed _ he := nomatch he
  own _ _ := .keep hk
  others _ _ := rfl

theorem Carries.alter {outcome : Outcome} {f : List Row → List Row} (made : Nat)
    (h : host.Finds operation)
    (ha : operation.Alters (host.rows.get operation.kind) (f (host.rows.get operation.kind))) :
    host.Carries operation
      (.ok outcome, { host.modifyRows operation.kind f with made }) where
  calls := rfl
  succeeds := ⟨fun _ => h, fun _ => ⟨outcome, rfl⟩⟩
  failed _ he := nomatch he
  own _ _ := by
    dsimp only
    rwa [rows_modifyRows, if_pos rfl]
  others kind hk := by
    dsimp only
    rw [rows_modifyRows, if_neg hk]

theorem target_carries (host : MemoryHost) (batch : List String) (kind : Kind) (verb : Verb)
    (id : String) : host.Carries (.target kind verb id) (host.target batch kind verb id) := by
  unfold target
  split
  · rename_i hnone
    refine .refuse ?_
    rintro ⟨row, hr, hid⟩
    simpa [hid] using List.find?_eq_none.mp hnone row hr
  · rename_i row hsome
    have hid : row.id = id := by simpa using List.find?_some hsome
    have hfinds : host.Finds (.target kind verb id) := ⟨row, List.mem_of_find?_eq_some hsome, hid⟩
    split
    · rename_i hverb
      subst hverb
      obtain ⟨first, before, after, hbefore, hfirst, hrows, he⟩ :=
        List.exists_of_eraseP (p := (·.id == id)) (List.mem_of_find?_eq_some hsome) (by simp [hid])
      refine .alter host.made hfinds ?_
      dsimp only [Operation.kind]
      rw [he, hrows]
      exact .remove (fun other ho => by simpa using hbefore other ho) (by simpa using hfirst)
    · rename_i hverb
      exact .keep hfinds (decide_eq_true hverb)

theorem renameContainer_carries (host : MemoryHost) (id name : String) :
    host.Carries (.rename id name) (host.renameContainer id name) := by
  unfold renameContainer
  split
  · rename_i hany
    have hfinds : host.Finds (.rename id name) := by simpa [Finds] using hany
    obtain ⟨before, row, after, hrows, hbefore, hrow, hm⟩ :=
      exists_modifyFirst (fun row => { row with name }) hany
    refine .alter host.made hfinds ?_
    dsimp only [Operation.kind]
    rw [hm, hrows]
    exact .rename (fun other ho => by simpa using hbefore other ho) (by simpa using hrow)
  · rename_i hnone
    exact .refuse (by simpa [Finds] using hnone)

theorem perform_carries (host : MemoryHost) (operation : Operation) :
    host.Carries operation (host.perform operation) := by
  cases operation with
  | target kind verb id => exact target_carries host _ kind verb id
  | rename id name => exact renameContainer_carries host id name
  | pull image => exact .alter (host.made + 1) trivial (.pull rfl)
  | create spec => exact .alter (host.made + 1) trivial (.create rfl)
  | prune _ | tag _ _ | untag _ _ | exec _ _ | search _ | stats _ _ => exact .keep trivial rfl

theorem execute_performs (host : MemoryHost) (operation : Operation) :
    host.Performs operation (host.execute operation).1 (host.execute operation).2 := by
  unfold execute
  dsimp only
  split
  · rename_i message hm
    exact ⟨rfl, ⟨fun ⟨_, ho⟩ => (nomatch ho), fun hs => by cases hm.symm.trans hs.1⟩,
      fun _ _ _ => rfl, fun _ ho => (nomatch ho), fun _ _ => rfl⟩
  · rename_i hm
    have hc := perform_carries { host with calls := host.calls ++ [operation] } operation
    refine ⟨hc.calls, hc.succeeds.trans ?_, ?_, hc.own, hc.others⟩
    · exact (and_iff_right hm).symm
    · intro failure he kind
      rw [hc.failed failure he]

def executeAll (host : MemoryHost) : List Operation → List Operation.Reply × MemoryHost
  | [] => ([], host)
  | operation :: operations =>
    let (result, next) := host.execute operation
    let (replies, last) := next.executeAll operations
    ((operation, result) :: replies, last)

end MemoryHost

/-- What was there or was made is still there in its order, but for what was removed. -/
structure Accounts {α : Type} (rows rows' made removed : List α) : Prop where
  perm : (rows' ++ removed).Perm (rows ++ made)
  order : rows'.Sublist (rows ++ made)

theorem Accounts.refl {α : Type} (rows : List α) : Accounts rows rows [] [] where
  perm := .refl _
  order := by simp

theorem Accounts.trans {α : Type} {rows rows' rows'' made made' removed removed' : List α}
    (h : Accounts rows rows' made removed) (h' : Accounts rows' rows'' made' removed') :
    Accounts rows rows'' (made ++ made') (removed ++ removed') where
  perm := calc
    (rows'' ++ (removed ++ removed')).Perm (rows'' ++ (removed' ++ removed)) :=
      List.perm_append_comm.append_left _
    _ = rows'' ++ removed' ++ removed := (List.append_assoc ..).symm
    (rows'' ++ removed' ++ removed).Perm (rows' ++ made' ++ removed) := h'.perm.append_right _
    _ = rows' ++ (made' ++ removed) := List.append_assoc ..
    (rows' ++ (made' ++ removed)).Perm (rows' ++ (removed ++ made')) :=
      List.perm_append_comm.append_left _
    _ = rows' ++ removed ++ made' := (List.append_assoc ..).symm
    (rows' ++ removed ++ made').Perm (rows ++ made ++ made') := h.perm.append_right _
    _ = rows ++ (made ++ made') := List.append_assoc ..
  order := by
    rw [← List.append_assoc]
    exact h'.order.trans (h.order.append_right made')

/-- What stays the same of a row as long as it is kept: a container can get another name. -/
def Row.lasting (kind : Kind) (row : Row) : Row :=
  if kind = .containers then { row with name := "" } else row

namespace Operation

def removedId? (kind : Kind) : Reply → Option String
  | (target other .remove id, .ok _) => if other = kind then some id else none
  | _ => none

def makes (kind : Kind) : Reply → Bool
  | (pull _, .ok _) => kind = .images
  | (create spec, .ok _) => spec.kind = kind
  | _ => false

def Explain (kind : Kind) (replies : List Reply) (rows rows' : List Row) : Prop :=
  ∃ made removed : List Row,
    made.length = replies.countP (makes kind) ∧
    removed.map (·.id) = replies.filterMap (removedId? kind) ∧
    Accounts (rows.map (·.lasting kind)) (rows'.map (·.lasting kind))
      (made.map (·.lasting kind)) (removed.map (·.lasting kind))

variable {kind : Kind} {operation : Operation} {rows rows' rows'' : List Row} {outcome : Outcome}
  {replies replies' : List Reply}

theorem Explain.keep (rows : List Row) (hm : replies.countP (makes kind) = 0)
    (hr : replies.filterMap (removedId? kind) = []) : Explain kind replies rows rows :=
  ⟨[], [], hm.symm, hr.symm, .refl _⟩

theorem Explain.append (h : Explain kind replies rows rows')
    (h' : Explain kind replies' rows' rows'') : Explain kind (replies ++ replies') rows rows'' := by
  obtain ⟨made, removed, hm, hr, ha⟩ := h
  obtain ⟨made', removed', hm', hr', ha'⟩ := h'
  refine ⟨made ++ made', removed ++ removed', ?_, ?_, ?_⟩
  · rw [List.length_append, hm, hm', List.countP_append]
  · rw [List.map_append, hr, hr', List.filterMap_append]
  · rw [List.map_append, List.map_append]
    exact ha.trans ha'

theorem Alters.explain (h : operation.Alters rows rows') :
    Explain operation.kind [(operation, .ok outcome)] rows rows' := by
  cases h with
  | keep hk =>
    refine .keep rows ?_ ?_
    · cases operation <;> first | rfl | cases hk
    · cases operation with
      | target kind verb id =>
        cases verb <;> first | rfl | cases hk
      | _ => rfl
  | @remove kind id before row after _ hid =>
    refine ⟨[], [row], rfl, by simp [removedId?, hid, Operation.kind], ?_⟩
    have hs : (before ++ after).Sublist (before ++ row :: after) :=
      (List.sublist_cons_self row after).append_left before
    have hp : (before ++ after ++ [row]).Perm (before ++ row :: after) := by
      rw [List.append_assoc]
      exact List.perm_append_comm.append_left before
    constructor
    · rw [← List.map_append, List.map_nil, List.append_nil]
      exact hp.map _
    · rw [List.map_nil, List.append_nil]
      exact hs.map _
  | @rename id name before row after _ _ =>
    refine ⟨[], [], rfl, rfl, ?_⟩
    have hsame : (before ++ { row with name } :: after).map (Row.lasting .containers) =
        (before ++ row :: after).map (Row.lasting .containers) := by
      simp [Row.lasting]
    change Accounts _ (List.map (Row.lasting .containers) _) _ _
    rw [hsame]
    exact .refl _
  | @pull image rows row _ =>
    refine ⟨[row], [], rfl, rfl, ?_, ?_⟩ <;> simp
  | @create spec rows row _ =>
    refine ⟨[row], [], by simp [makes, Operation.kind], rfl, ?_, ?_⟩ <;> simp

end Operation

namespace MemoryHost

open Operation

theorem Performs.explain {host host' : MemoryHost} {operation : Operation}
    {result : Except Failure Outcome} (h : host.Performs operation result host') (kind : Kind) :
    Explain kind [(operation, result)] (host.rows.get kind) (host'.rows.get kind) := by
  cases result with
  | error failure =>
    rw [h.failed failure rfl]
    refine .keep _ ?_ ?_
    · cases operation <;> rfl
    · cases operation with
      | target kind verb id => cases verb <;> rfl
      | _ => rfl
  | ok outcome =>
    by_cases hk : kind = operation.kind
    · subst hk
      exact (h.own outcome rfl).explain
    · rw [h.others kind hk]
      refine .keep _ ?_ ?_
      · cases operation with
        | pull image => simp [makes, show kind ≠ .images from hk]
        | create spec => simp [makes, show spec.kind ≠ kind from Ne.symm hk]
        | _ => rfl
      · cases operation with
        | target other verb id =>
          cases verb with
          | remove => simp [removedId?, show other ≠ kind from Ne.symm hk]
          | _ => rfl
        | _ => rfl

theorem executeAll_explains (host : MemoryHost) (operations : List Operation) :
    (host.executeAll operations).1.map Prod.fst = operations ∧
    (host.executeAll operations).2.calls = host.calls ++ operations ∧
    ∀ kind, Explain kind (host.executeAll operations).1 (host.rows.get kind)
      ((host.executeAll operations).2.rows.get kind) := by
  induction operations generalizing host with
  | nil => exact ⟨rfl, (List.append_nil _).symm, fun kind => .keep _ rfl rfl⟩
  | cons operation operations ih =>
    have hp := execute_performs host operation
    obtain ⟨hreplies, hcalls, hrows⟩ := ih (host.execute operation).2
    refine ⟨congrArg (operation :: ·) hreplies, ?_, fun kind => ?_⟩
    · rw [executeAll, hcalls, hp.calls, List.append_assoc, List.singleton_append]
    · exact (hp.explain kind).append (hrows kind)

/-- Every call is noted, whether it fails or not. One that fails leaves all rows alone, and one that
succeeds changes those of its kind only, in the way of its operation. So along any calls each row
that is lost was removed and each new one was made by a call, and the others keep their order. -/
theorem calls_account_for_rows (host : MemoryHost) :
    (∀ operation,
      host.Performs operation (host.execute operation).1 (host.execute operation).2) ∧
    ∀ operations, (host.executeAll operations).1.map Prod.fst = operations ∧
      (host.executeAll operations).2.calls = host.calls ++ operations ∧
      ∀ kind, Explain kind (host.executeAll operations).1 (host.rows.get kind)
        ((host.executeAll operations).2.rows.get kind) :=
  ⟨execute_performs host, executeAll_explains host⟩

def doubled : MemoryHost :=
  { rows := { Tables.empty with volumes := [⟨"7c", "data", []⟩, ⟨"7c", "logs", []⟩] } }

example : (doubled.execute (.target .volumes .remove "7c")).2.rows.volumes =
    [⟨"7c", "logs", []⟩] := by decide

end MemoryHost

end Deckhand
