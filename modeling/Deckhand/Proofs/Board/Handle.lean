import Deckhand.Proofs.Board.Acts

namespace Deckhand

namespace Board

def addressee (board : Board) : Event → Option Kind
  | .key _ => some board.active
  | .resize _ _ => none
  | .listRefreshed kind | .listFailed kind _ | .statsUpdated kind _ _ | .statsFailed kind _ _
  | .finished kind _ _ _ | .choicesLoaded kind _ => some kind

/-- Any key but the one that quits clears the status bar before anything else. -/
def heard (board : Board) : Event → Board
  | .key key =>
    if key.isInterrupt then board else { board with notification := none, dirty := true }
  | _ => board

theorem monitor?_eq_some {board : Board} {kind : Kind} {id : OperationId} {monitor : Monitor}
    (h : board.monitor? kind id = some monitor) :
    (board.page kind).layers.dialog = some (.stats monitor) ∧ monitor.id = id := by
  unfold monitor? at h
  split at h
  · rename_i shown hs
    split at h
    · rename_i hid
      cases h
      exact ⟨hs, hid⟩
    · cases h
  · cases h

theorem misses_of_monitor? {board : Board} {kind : Kind} {id : OperationId}
    (h : board.monitor? kind id = none) : (board.page kind).Misses id := by
  intro monitor hd hid
  unfold monitor? at h
  rw [hd] at h
  simp [hid] at h

theorem refuseList_acts (board : Board) (kind : Kind) (error : String) :
    board.Acts (.listFailed kind error) kind (board.refuseList kind error) :=
  ⟨⟨_, .refuseList, rfl⟩, fun _ _ => rfl, rfl, rfl, rfl, rfl⟩

theorem refresh_acts (board : Board) (kind : Kind) :
    board.Acts (.listRefreshed kind) kind (.quiet (board.reconcile kind).touch) :=
  Acts.of_step (·.reconcile (board.rows kind)) true none .refresh rfl rfl

theorem updateStats_acts (board : Board) (kind : Kind) (id : OperationId) (report : Report) :
    board.Acts (.statsUpdated kind id report) kind (.quiet (board.updateStats kind id report)) := by
  unfold updateStats
  split
  · rename_i monitor hm
    obtain ⟨hd, hid⟩ := monitor?_eq_some hm
    exact Acts.of_step (·.display (.stats { monitor with report := some report })) true none
      (.sample hd hid) rfl rfl
  · rename_i hm
    exact .keep (.missSample (misses_of_monitor? hm))

theorem failStats_acts (board : Board) (kind : Kind) (id : OperationId) (error : String) :
    board.Acts (.statsFailed kind id error) kind (board.failStats kind id error) := by
  unfold failStats
  split
  · rename_i monitor hm
    obtain ⟨hd, hid⟩ := monitor?_eq_some hm
    have hh := Page.hide_eq_clear .stats hd rfl
    refine Acts.of_step (fun page => ({ page.hide .stats with live := false } : Page).showError
      ⟨some (Text.upper kind.noun ++ " STATS ERROR"), error⟩) true none ?_ (List.append_nil _) ?_
    · simp only [hh]
      exact .failStats hd hid
    · have hn : (if (board.page kind).live then [Request.stopLive kind] else []).countP
          Request.isNumbered = 0 := by
        cases (board.page kind).live <;> rfl
      simp only [closeStats, hn, Reaction.andThen, showError]
      cases kind <;> rfl
  · rename_i hm
    exact .keep (.missFailure (misses_of_monitor? hm))

theorem finish_acts (board : Board) (kind : Kind) (id : OperationId) (label : Label)
    (result : Except Failure Outcome) :
    board.Acts (.finished kind id label result) kind (board.finish kind id label result) := by
  have hp := page_modifyPage_self board kind (·.settle id)
  cases result with
  | error failure =>
    refine Acts.of_step (fun page => (page.settle id).showError
      ⟨some label.errorTitle, failure.message⟩) true none .fail rfl ?_
    cases kind <;> rfl
  | ok outcome =>
    have hn : (if changesTables label outcome then [Request.refreshNow] else []).countP
        Request.isNumbered = 0 := by
      cases changesTables label outcome <;> rfl
    change board.Acts _ kind
      ((board.modifyPage kind (·.settle id)).touch.present kind label outcome)
    have hq : (board.modifyPage kind (·.settle id)).touch.page kind =
        (board.page kind).settle id := hp
    cases hd : resultDialog? kind label outcome with
    | none =>
      refine Acts.of_step (·.settle id) true none (.succeed hd) rfl ?_
      simp only [present, hd, hn]
      rfl
    | some dialog =>
      cases hs : ((board.page kind).settle id).layers.dialog with
      | none =>
        refine Acts.of_step (fun page => (page.settle id).display dialog) true none
          (.present hd hs) rfl ?_
        simp only [present, hd, hn, hq, Page.hasDialog, hs]
        cases kind <;> rfl
      | some shown =>
        refine Acts.of_step (·.settle id) true _ (.mention hd hs) rfl ?_
        simp only [present, hd, hn, hq, Page.hasDialog, hs]
        rfl

theorem openCreate_acts (board : Board) (kind : Kind) (choices : Choices) :
    board.Acts (.choicesLoaded kind choices) kind (.quiet (board.openCreate kind choices)) := by
  have hforget : board.Acts (.choicesLoaded kind choices) kind
      (.quiet (board.modifyPage kind ({ · with pendingCreate := false }))) :=
    Acts.of_step ({ · with pendingCreate := false }) board.dirty none .forgetCreate rfl rfl
  unfold openCreate
  dsimp only
  split
  · rename_i hw
    simp only [Bool.and_eq_true, Bool.not_eq_true', Page.hasDialog, Option.isSome_eq_false_iff,
      Option.isNone_iff_eq_none] at hw
    split
    · rename_i form hform
      refine Acts.of_step (fun page =>
        ({ page with pendingCreate := false } : Page).display (.create form)) true none
        (.openCreate hw.1 hw.2 hform) rfl ?_
      rw [modifyPage_modifyPage]
      rfl
    · exact hforget
  · exact hforget

/-- An event changes the page it is addressed to by a step and leaves the other pages alone, unless
it is a key that leads to another page. -/
theorem handle_cases {board : Board} {event : Event} {kind : Kind}
    (h : board.addressee event = some kind) :
    (∃ key target, event = .key key ∧ board.Turns key target ∧
      board.handle event = .quiet ((board.heard event).switchTo target)) ∨
      (board.heard event).Acts event kind (board.handle event) := by
  cases event with
  | key key =>
    cases h
    unfold handle handleKey
    cases hi : key.isInterrupt with
    | true =>
      simp only [heard, hi, if_true]
      exact .inr ⟨⟨none, .quit (.inl hi), rfl⟩, fun _ _ => rfl, rfl, rfl, rfl, rfl⟩
    | false =>
      simp only [heard, hi, Bool.false_eq_true, if_false]
      obtain ⟨target, ht, hr⟩ | ha :=
        routeKey_cases { board with notification := none, dirty := true } key
      · exact .inl ⟨key, target, rfl, ht, hr⟩
      · exact .inr ha
  | resize width height => cases h
  | listRefreshed kind => cases h; exact .inr (refresh_acts board kind)
  | listFailed kind error => cases h; exact .inr (refuseList_acts board kind error)
  | statsUpdated kind id report => cases h; exact .inr (updateStats_acts board kind id report)
  | statsFailed kind id error => cases h; exact .inr (failStats_acts board kind id error)
  | finished kind id label result => cases h; exact .inr (finish_acts board kind id label result)
  | choicesLoaded kind choices => cases h; exact .inr (openCreate_acts board kind choices)

section

variable (board : Board) (event : Event)

@[simp] theorem page_heard (kind : Kind) : (board.heard event).page kind = board.page kind := by
  cases event with
  | key key => unfold heard; dsimp only; split <;> rfl
  | _ => rfl

@[simp] theorem active_heard : (board.heard event).active = board.active := by
  cases event with
  | key key => unfold heard; dsimp only; split <;> rfl
  | _ => rfl

@[simp] theorem tables_heard : (board.heard event).tables = board.tables := by
  cases event with
  | key key => unfold heard; dsimp only; split <;> rfl
  | _ => rfl

@[simp] theorem settings_heard : (board.heard event).settings = board.settings := by
  cases event with
  | key key => unfold heard; dsimp only; split <;> rfl
  | _ => rfl

@[simp] theorem nextId_heard : (board.heard event).nextId = board.nextId := by
  cases event with
  | key key => unfold heard; dsimp only; split <;> rfl
  | _ => rfl

@[simp] theorem context_heard (kind : Kind) :
    (board.heard event).context kind = board.context kind := by
  simp [context, rows]

theorem page_switchTo (target kind : Kind) : (board.switchTo target).page kind =
    if kind = target then (board.page kind).reconcile (board.rows kind) else board.page kind := by
  split
  · rename_i h
    subst h
    exact page_modifyPage_self _ kind _
  · rename_i h
    exact page_modifyPage_of_ne _ _ h

end

theorem handle_step {board : Board} {event : Event} {kind : Kind}
    (h : board.addressee event = some kind) :
    ∃ notice, Page.Step (board.context kind) (board.page kind) event
        ((board.handle event).board.page kind) ⟨(board.handle event).requests, notice⟩ ∧
      (board.handle event).board.notification = notice.or (board.heard event).notification := by
  obtain ⟨key, target, rfl, ht, hr⟩ | ha := handle_cases h
  · have hk : board.active = kind := Option.some.inj h
    subst hk
    refine ⟨none, ?_, by rw [hr]; rfl⟩
    rw [hr]
    simp only [Reaction.quiet, page_switchTo, page_heard]
    split
    · rename_i hactive
      have hkey : pageKey? board.active key = some board.active :=
        ht.1.trans (congrArg some hactive.symm)
      have hrows : (board.heard (.key key)).rows board.active = board.rows board.active := by
        simp [rows]
      rw [hrows]
      exact .revisit hkey ht.2
    · exact .keep
  · obtain ⟨notice, hs, hn⟩ := ha.step
    rw [context_heard, page_heard] at hs
    exact ⟨notice, hs, hn⟩

theorem handle_page_of_ne {board : Board} {event : Event} {kind : Kind}
    (h : board.addressee event ≠ some kind) :
    (board.handle event).board.page kind = board.page kind ∨
      (∃ key, event = .key key) ∧
        (board.handle event).board.page kind = (board.page kind).reconcile (board.rows kind) := by
  cases ha : board.addressee event with
  | none =>
    cases event with
    | resize width height => exact .inl rfl
    | _ => cases ha
  | some other =>
    have hne : kind ≠ other := fun he => h (he ▸ ha)
    obtain ⟨key, target, rfl, -, hr⟩ | hacts := handle_cases ha
    · rw [hr]
      simp only [Reaction.quiet, page_switchTo, page_heard]
      split
      · exact .inr ⟨⟨key, rfl⟩, by simp [rows]⟩
      · exact .inl rfl
    · exact .inl (by rw [hacts.others kind hne, page_heard])

theorem handle_tables (board : Board) (event : Event) :
    (board.handle event).board.tables = board.tables := by
  cases ha : board.addressee event with
  | none =>
    cases event with
    | resize width height => rfl
    | _ => cases ha
  | some other =>
    obtain ⟨key, target, rfl, -, hr⟩ | hacts := handle_cases ha
    · rw [hr]; exact tables_heard board _
    · rw [hacts.tables, tables_heard]

theorem handle_nextId (board : Board) (event : Event) :
    (board.handle event).board.nextId =
      board.nextId + (board.handle event).requests.countP Request.isNumbered := by
  cases ha : board.addressee event with
  | none =>
    cases event with
    | resize width height => rfl
    | _ => cases ha
  | some other =>
    obtain ⟨key, target, rfl, -, hr⟩ | hacts := handle_cases ha
    · rw [hr]; exact nextId_heard board _
    · rw [hacts.nextId, nextId_heard]

theorem handle_active (board : Board) (event : Event) :
    (board.handle event).board.active = board.active ∨
      ∃ key, event = .key key ∧ board.Turns key (board.handle event).board.active := by
  cases ha : board.addressee event with
  | none =>
    cases event with
    | resize width height => exact .inl rfl
    | _ => cases ha
  | some other =>
    obtain ⟨key, target, rfl, ht, hr⟩ | hacts := handle_cases ha
    · rw [hr]; exact .inr ⟨key, rfl, ht⟩
    · rw [hacts.active, active_heard]; exact .inl rfl

theorem requests_of_addressee_eq_none {board : Board} {event : Event}
    (h : board.addressee event = none) : (board.handle event).requests = [] := by
  cases event with
  | resize width height => rfl
  | _ => cases h

end Board

end Deckhand
