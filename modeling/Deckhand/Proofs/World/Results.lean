import Deckhand.Proofs.World.Errors

namespace Deckhand

theorem Operation.verb_eq_search_iff (operation : Operation) :
    operation.verb = "search" ↔ ∃ term, operation = .search term := by
  cases operation with
  | target kind verb id => cases verb <;> simp [verb, Verb.label]
  | _ => simp [verb]

/-- What lies over the table after an operation has ended, and what is then asked for. -/
inductive Operation.Shows (kind : Kind) (operation : Operation) :
    Except Failure Outcome → Layers → List Request → Prop
  | failed (failure) : Shows kind operation (.error failure)
      ⟨some ⟨some operation.label.errorTitle, failure.message⟩, none⟩ []
  | done : Shows kind operation (.ok .done) ⟨none, none⟩ [.refreshNow]
  | batch (errors) : Shows kind operation (.ok (.batch errors)) ⟨none, none⟩ [.refreshNow]
  | text (text) : Shows kind operation (.ok (.text text))
      ⟨none, some (.message ⟨operation.label.resultTitle, text, 0⟩)⟩ []
  | lines (lines) : Shows kind operation (.ok (.lines lines))
      ⟨none, some (.message ⟨operation.label.resultTitle, "\n".intercalate lines, 0⟩)⟩
      (if operation.verb = "remove" then [.refreshNow] else [])
  | hits (report) : (∃ term, operation = .search term) →
      Shows kind operation (.ok (.table report))
        ⟨none, some (.table ⟨.searchResults, operation.label.resultTitle, report, 0⟩)⟩ []
  | report (report) : (¬ ∃ term, operation = .search term) →
      Shows kind operation (.ok (.table report))
        ⟨none, some (.table ⟨.report, operation.label.resultTitle, report, 0⟩)⟩ []
  | created (id) : Shows kind operation (.ok (.created id))
      ⟨none, some (.message ⟨operation.label.resultTitle, kind.noun ++ " created: " ++ id, 0⟩)⟩
      [.refreshNow]

theorem Page.layers_settle_of_progress {page : Page} {id : OperationId} {title : String}
    (hd : page.layers = ⟨none, some (.progress ⟨title, id⟩)⟩) :
    (page.settle id).layers = .empty := by
  simp [settle, Layers.hideProgress, Layers.showsProgress, Layers.empty, hd]

theorem Operation.shows_table (operation : Operation) (kind : Kind) (report : Report) :
    operation.Shows kind (.ok (.table report))
      ⟨none, Board.resultDialog? kind operation.label (.table report)⟩ [] := by
  by_cases hsearch : ∃ term, operation = .search term
  · have hv : operation.label.verb = "search" := operation.verb_eq_search_iff.mpr hsearch
    simp only [Board.resultDialog?, hv, beq_self_eq_true, if_true]
    exact .hits report hsearch
  · have hv : (operation.label.verb == "search") = false :=
      beq_eq_false_iff_ne.mpr fun he => hsearch (operation.verb_eq_search_iff.mp he)
    simp only [Board.resultDialog?, hv, Bool.false_eq_true, if_false]
    exact .report report hsearch

namespace Board

variable {board : Board} {kind : Kind} {id : OperationId} {title : String}

theorem present_of_bare (label : Label) (outcome : Outcome)
    (hb : (board.page kind).layers = .empty) :
    ((board.present kind label outcome).board.page kind).inFlight = (board.page kind).inFlight ∧
      ((board.present kind label outcome).board.page kind).layers =
        ⟨none, resultDialog? kind label outcome⟩ ∧
      (board.present kind label outcome).board.notification = board.notification := by
  unfold present
  dsimp only
  split
  · rename_i hd
    rw [hd]
    exact ⟨rfl, hb, rfl⟩
  · rename_i dialog hd
    have hn : (board.page kind).hasDialog = false := by rw [Page.hasDialog, hb]; rfl
    rw [hn, hd]
    simp only [Bool.false_eq_true, if_false, page_modifyPage_self, Page.layers_display, hb]
    exact ⟨rfl, rfl, rfl⟩

theorem present_shows (board : Board) (kind : Kind) (operation : Operation) (outcome : Outcome) :
    operation.Shows kind (.ok outcome) ⟨none, resultDialog? kind operation.label outcome⟩
      (board.present kind operation.label outcome).requests := by
  cases outcome with
  | done => exact .done
  | batch errors => exact .batch errors
  | text text => exact .text text
  | lines lines =>
    have hr : (board.present kind operation.label (.lines lines)).requests =
        if operation.verb = "remove" then [.refreshNow] else [] := by
      simp only [present, changesTables, Operation.label, beq_iff_eq]
    rw [hr]
    exact .lines lines
  | table report => exact operation.shows_table kind report
  | created id => exact .created id

theorem finish_shows (operation : Operation) (result : Except Failure Outcome)
    (hi : (board.page kind).inFlight = some id)
    (hd : (board.page kind).layers = ⟨none, some (.progress ⟨title, id⟩)⟩) :
    ((board.finish kind id operation.label result).board.page kind).inFlight = none ∧
      operation.Shows kind result
        ((board.finish kind id operation.label result).board.page kind).layers
        (board.finish kind id operation.label result).requests ∧
      (board.finish kind id operation.label result).board.notification = board.notification := by
  have hp : ((board.modifyPage kind (·.settle id)).touch.page kind) =
      (board.page kind).settle id := page_modifyPage_self board kind _
  have hidle : ((board.page kind).settle id).inFlight = none := by simp [Page.settle, hi]
  have hbare : ((board.page kind).settle id).layers = .empty := Page.layers_settle_of_progress hd
  cases result with
  | error failure =>
    have hb : (board.finish kind id operation.label (.error failure)).board.page kind =
        ((board.page kind).settle id).showError ⟨some operation.label.errorTitle, failure.message⟩ :=
      (page_modifyPage_self _ kind _).trans (congrArg (Page.showError · _) hp)
    rw [hb, Page.inFlight_showError, Page.layers_showError, hbare]
    exact ⟨hidle, .failed failure, rfl⟩
  | ok outcome =>
    obtain ⟨hinFlight, hlayers, hnotice⟩ :=
      present_of_bare operation.label outcome ((congrArg Page.layers hp).trans hbare)
    have hb : board.finish kind id operation.label (.ok outcome) =
        (board.modifyPage kind (·.settle id)).touch.present kind operation.label outcome := rfl
    rw [hb, hlayers]
    exact ⟨hinFlight.trans (by rw [hp, hidle]), present_shows _ kind operation outcome, hnotice⟩

end Board

namespace World

variable {settings : Settings} {tables : Tables} {w w' : World} {kind : Kind} {id : OperationId}

def Awaits (w : World) (kind : Kind) (id : OperationId) (operation : Operation) : Prop :=
  ⟨kind, id, operation⟩ ∈ w.running ∨
    ∃ result, .finished kind id operation.label result ∈ w.mail

def Labelled (w : World) : Prop :=
  ∀ kind id label result, .finished kind id label result ∈ w.mail →
    ∃ operation : Operation, operation.label = label

theorem Labelled.cons (h : w.Labelled) {event : Event} (he : event.EndsNothing)
    (hm : w'.mail = event :: w.mail) : w'.Labelled := by
  intro kind id label result hmem
  rw [hm] at hmem
  obtain heq | hmem := List.mem_cons.mp hmem
  · have hnone := he kind
    rw [← heq] at hnone
    simp [Event.finishedFor?] at hnone
  · exact h kind id label result hmem

theorem Step.labelled (hs : Step Event.EndsNothing w w') (h : w.Labelled) : w'.Labelled := by
  cases hs with
  | key key | resize width height =>
    unfold Labelled
    rw [mail_handle]
    exact h
  | @deliver event rest hm =>
    unfold Labelled
    rw [mail_handle]
    intro kind id label result hmem
    exact h kind id label result (hm.symm.subset (List.mem_cons_of_mem event hmem))
  | @finish call rest result hr =>
    intro kind id label other hmem
    obtain heq | hmem := List.mem_cons.mp hmem
    · cases heq
      exact ⟨call.operation, rfl⟩
    · exact h kind id label other hmem
  | load choices hl => exact h.cons (fun _ => rfl) rfl
  | sample result ha haw => exact h.cons (finishedFor?_sampler _ _) rfl
  | store other rows => exact h
  | send he => exact h.cons he rfl

theorem Reachable.labelled (h : Reachable Event.EndsNothing settings tables w) : w.Labelled := by
  induction h with
  | start => exact fun _ _ _ _ hmem => by cases hmem
  | next _ hs ih => exact hs.labelled ih

theorem Awaits.mem_outstanding {operation : Operation} (ha : w.Awaits kind id operation) :
    id ∈ w.outstanding kind := by
  obtain hr | ⟨result, hm⟩ := ha
  · exact List.mem_append_right _ (List.mem_filterMap.mpr ⟨_, hr, if_pos rfl⟩)
  · exact List.mem_append_left _ (List.mem_filterMap.mpr ⟨_, hm, if_pos rfl⟩)

theorem Labelled.exists_awaits (h : w.Labelled) (hid : id ∈ w.outstanding kind) :
    ∃ operation, w.Awaits kind id operation := by
  obtain hid | hid := List.mem_append.mp hid
  · obtain ⟨event, hm, he⟩ := List.mem_filterMap.mp hid
    cases event with
    | finished other id' label result =>
      simp only [Event.finishedFor?, Option.ite_none_right_eq_some, Option.some.injEq] at he
      obtain ⟨rfl, rfl⟩ := he
      obtain ⟨operation, rfl⟩ := h _ _ _ _ hm
      exact ⟨operation, .inr ⟨result, hm⟩⟩
    | _ => cases he
  · obtain ⟨call, hr, he⟩ := List.mem_filterMap.mp hid
    simp only [Call.idFor?, Option.ite_none_right_eq_some, Option.some.injEq] at he
    obtain ⟨rfl, rfl⟩ := he
    exact ⟨call.operation, .inl hr⟩

/-- While a page waits for an operation it shows its progress and nothing else. -/
theorem Reachable.layers_of_inFlight (h : Reachable Event.EndsNothing settings tables w)
    (hi : (w.page kind).inFlight = some id) :
    ∃ title, (w.page kind).layers = ⟨none, some (.progress ⟨title, id⟩)⟩ := by
  have herror : (w.page kind).layers.error = none := by
    refine Option.not_isSome_iff_eq_none.mp fun he => ?_
    obtain ⟨hnone, -⟩ := h.restsUnderErrors kind he
    exact absurd (hi.symm.trans hnone) (by simp)
  have hprogress : (w.page kind).inFlight = (w.page kind).layers.dialog.bind Dialog.progress? :=
    (h.sound kind).inFlight
  rw [hi] at hprogress
  obtain ⟨dialog, hd, hp⟩ := Option.bind_eq_some_iff.mp hprogress.symm
  cases dialog with
  | progress shown =>
    cases hp
    exact ⟨shown.title, by rw [← herror, ← hd]⟩
  | _ => cases hp

/-- Whatever has happened since an operation was started, and whatever it brings, its end takes its
progress away and shows the result in its place: a failure as an error under its own title, and every
outcome that says something in a dialog of its own. Nothing is announced in the status bar instead. -/
theorem results_are_always_shown (h : Reachable Event.EndsNothing settings tables w) (kind : Kind) :
    (∀ id, (w.page kind).inFlight = some id → ∃ operation, w.Awaits kind id operation) ∧
      ∀ id operation, w.Awaits kind id operation →
        (w.page kind).inFlight = some id ∧
          (∃ title, (w.page kind).layers = ⟨none, some (.progress ⟨title, id⟩)⟩) ∧
          ∀ result,
            let ended := w.board.handle (.finished kind id operation.label result)
            (ended.board.page kind).inFlight = none ∧
              operation.Shows kind result (ended.board.page kind).layers ended.requests ∧
              ended.board.notification = w.board.notification := by
  refine ⟨fun id hi => h.labelled.exists_awaits ?_, fun id operation ha => ?_⟩
  · rw [h.outstanding kind, hi]
    exact List.mem_singleton.mpr rfl
  · have hi := h.inFlight_of_mem_outstanding ha.mem_outstanding
    obtain ⟨title, hd⟩ := h.layers_of_inFlight hi
    exact ⟨hi, ⟨title, hd⟩, fun result => Board.finish_shows operation result hi hd⟩

def inspection : Operation := .target .networks .inspect "9a"

def inspected : Event := .finished .networks ⟨1⟩ inspection.label (.ok (.text "bridge"))

theorem inspection_is_shown :
    ((inspecting.board.handle inspected).board.page .networks).layers =
      ⟨none, some (.message ⟨"podman network inspect", "bridge", 0⟩)⟩ := by
  have hr : Reachable Event.EndsNothing {} ⟨[], [], [], [⟨"9a", "backbone", []⟩], []⟩ inspecting :=
    Reachable.start.keys _
  have hrunning : inspecting.running = [⟨.networks, ⟨1⟩, inspection⟩] := rfl
  have ha : inspecting.Awaits .networks ⟨1⟩ inspection :=
    .inl (by rw [hrunning]; exact List.mem_singleton.mpr rfl)
  obtain ⟨-, hends⟩ := results_are_always_shown hr .networks
  obtain ⟨-, -, hshown⟩ := hends ⟨1⟩ inspection ha
  have hshows : inspection.Shows .networks (.ok (.text "bridge"))
      ((inspecting.board.handle inspected).board.page .networks).layers
      (inspecting.board.handle inspected).requests := (hshown (.ok (.text "bridge"))).2.1
  generalize ((inspecting.board.handle inspected).board.page .networks).layers = layers
    at hshows ⊢
  cases hshows with
  | text _ => rfl

end World

end Deckhand
