import Deckhand.Proofs.Board.Destruction

namespace Deckhand

theorem Command.action_ne_create (kind : Kind) (command : Command) (h : command ∈ catalog kind)
    (hn : command.needsSelection = true) : command.action ≠ .create := by
  revert command
  cases kind <;> decide +kernel

def Page.rowAtCursor? (page : Page) (rows : List Row) : Option Ref :=
  rows[min page.cursor (rows.length - 1)]?.map (·.ref)

def Page.ShowsPicker (page : Page) : Prop := ∃ picker, page.layers.dialog = some (.commands picker)

namespace Command

/-- A command has been applied to that one resource: an operation on it starts, or the user is asked
about it, or its figures are shown. -/
def ActsOn (command : Command) (kind : Kind) (target : Ref) (requests : List Request)
    (page : Page) : Prop :=
  match command.action with
  | .run verb => ∃ id, requests = [.run kind id (.target kind verb target.id)]
  | .confirm destruction => requests = [] ∧ page.Asks kind ⟨destruction, some target⟩
  | .prompt purpose => requests = [] ∧
      page.layers.dialog = some (.input (.new purpose (some target)))
  | .stats => ∃ id, requests = [.startLive kind id [target.id]] ∧
      page.layers.dialog = some (.stats ⟨kind, id, [target.id], none⟩)
  | .create => False

def Refused (command : Command) (kind : Kind) (requests : List Request) (page : Page) : Prop :=
  requests = [] ∧ page.layers = ⟨some ⟨none, command.missingSelection kind⟩, none⟩

end Command

namespace Board

variable {board : Board} {kind : Kind} {picker : Picker} {command : Command}

theorem runCommand_actsOn {target : Ref} (hm : command ∈ catalog kind)
    (hn : command.needsSelection = true) (hi : (board.page kind).inFlight = none)
    (ht : (board.page kind).selection = some target) :
    command.ActsOn kind target (board.runCommand kind command.name).requests
      ((board.runCommand kind command.name).board.page kind) := by
  rw [runCommand_of_find? (Command.find?_of_mem kind command hm)]
  simp only [ht, Option.isNone_some, Bool.and_false, Bool.false_eq_true, if_false]
  unfold Command.ActsOn
  cases ha : command.action with
  | confirm destruction =>
    refine ⟨rfl, ?_⟩
    simp only [act, Reaction.andThen, Reaction.quiet, askConfirmation, page_touch,
      page_modifyPage_self]
    exact ⟨rfl, _, rfl, rfl⟩
  | run verb =>
    have hq : ((board.modifyPage kind (·.hide .commands)).page kind).inFlight = none := by
      rw [page_modifyPage_self]
      exact hi
    refine ⟨⟨board.nextId⟩, ?_⟩
    simp only [act, begin, hq]
    rfl
  | prompt purpose =>
    refine ⟨rfl, ?_⟩
    simp only [act, Reaction.andThen, Reaction.quiet, page_touch, page_modifyPage_self]
    rfl
  | create => exact Command.action_ne_create kind command hm hn ha
  | stats =>
    refine ⟨⟨board.nextId⟩, rfl, ?_⟩
    simp only [act, openStats, Reaction.andThen, Reaction.quiet, page_touch, page_modifyPage_self]
    rfl

theorem runCommand_refused (hm : command ∈ catalog kind) (hn : command.needsSelection = true)
    (hd : (board.page kind).layers.dialog = some (.commands picker))
    (ht : (board.page kind).selection = none) :
    command.Refused kind (board.runCommand kind command.name).requests
      ((board.runCommand kind command.name).board.page kind) := by
  rw [runCommand_of_find? (Command.find?_of_mem kind command hm)]
  simp only [ht, hn, Option.isNone_none, Bool.and_true, if_true]
  refine ⟨rfl, ?_⟩
  simp only [showError, page_touch, page_modifyPage_self, Page.hide_eq_clear .commands hd rfl]
  rfl

end Board

namespace Page

variable {c : Context} {page page' : Page} {event : Event} {output : Output}

theorem Step.selection_of_picker (hs : Step c page event page' output) (hp : page.ShowsPicker)
    (hr : event ≠ .listRefreshed c.kind) : page'.selection = page.selection := by
  obtain ⟨picker, hd⟩ := hp
  cases hs with
  | revisit _ hb =>
    obtain hb | ⟨_, hf⟩ := hb
    · rw [hb.2] at hd
      cases hd
    · rw [hf.2] at hd
      cases hd
  | move hb | browse _ hb =>
    rw [hb.2] at hd
    cases hd
  | begin hsub _ | busy hsub _ => cases hsub <;> rfl
  | refresh => exact absurd rfl hr
  | _ => rfl

theorem Step.opens (hs : Step c page event page' output) (h : page.Sound c.kind)
    (hp : ¬ page.ShowsPicker) (hp' : page'.ShowsPicker) :
    ∃ key, event = .key key ∧ (key.code = .enter ∨ key.code = .char 'm') := by
  obtain ⟨picker, hd⟩ := hp'
  cases hs with
  | @browse key hk _ => exact ⟨key, rfl, hk⟩
  | keep | quit _ | refuseList | missSample _ | missFailure _ => exact absurd ⟨picker, hd⟩ hp
  | dismiss | revisit | move | refresh | forgetCreate => exact absurd ⟨picker, hd⟩ hp
  | edit hf he =>
    obtain ⟨before, hb, -⟩ := he.picker (Option.some.inj hd)
    exact absurd ⟨before, hb ▸ hf.2⟩ hp
  | @fail id _ _ | @succeed id _ _ _ | @mention id _ _ _ _ _ _ =>
    obtain ⟨-, he⟩ | ⟨-, -, hn⟩ := h.settle id
    · rw [he] at hd
      exact absurd ⟨picker, hd⟩ hp
    · cases hn.symm.trans hd
  | present hr _ => exact absurd (Option.some.inj hd) ((Board.resultDialog?_closes hr).2 picker)
  | busy hsub _ => cases (hsub.idle h).2.symm.trans hd
  | _ => cases hd

end Page

namespace History

structure Browses (h : History) (opening n : Nat) (kind : Kind) : Prop where
  order : opening < n
  opened : ¬ (h.page opening kind).ShowsPicker
  shown : ∀ m, opening < m → m ≤ n → (h.page m kind).ShowsPicker

structure Chooses (h : History) (n : Nat) (kind : Kind) (command : Command) : Prop where
  active : (h.board n).active = kind
  key : ∃ key, h.event? n = some (.key key) ∧ key.code = .enter
  command : ∃ picker, (h.page n kind).Faces (.commands picker) ∧ picker.selected? = some command

def ActsOn (h : History) (n : Nat) (kind : Kind) (command : Command) (target : Ref) : Prop :=
  command.ActsOn kind target (h.requests n) (h.page (n + 1) kind)

def Refuses (h : History) (n : Nat) (kind : Kind) (command : Command) : Prop :=
  command.Refused kind (h.requests n) (h.page (n + 1) kind)

def Refreshes (h : History) (n : Nat) (kind : Kind) : Prop :=
  h.event? n = some (.listRefreshed kind)

/-- The resource that a refresh finds at the cursor. -/
def found? (h : History) (n : Nat) (kind : Kind) : Option Ref :=
  (h.page n kind).rowAtCursor? ((h.board n).rows kind)

variable {h : History} {i n : Nat} {kind : Kind} {command : Command}

theorem selection_succ_of_refreshes (hr : h.Refreshes n kind) :
    (h.page (n + 1) kind).selection = h.found? n kind := by
  unfold page
  rw [board_succ_of_event hr]
  simp only [Board.handle, Reaction.quiet, Board.reconcile]
  exact congrArg Page.selection (Board.page_modifyPage_self _ kind _)

theorem active_succ (ha : (h.board n).active = kind) (hp : (h.page n kind).ShowsPicker) :
    (h.board (n + 1)).active = kind := by
  obtain ⟨picker, hd⟩ := hp
  cases he : h.event? n with
  | none => obtain hb | ⟨_, _, hb⟩ := board_succ_of_no_event he <;> rw [hb] <;> exact ha
  | some event =>
    rw [board_succ_of_event he]
    obtain hb | ⟨key, -, -, hb | ⟨progress, hb⟩⟩ := Board.handle_active (h.board n) event
    · rw [hb]
      exact ha
    · subst ha
      cases hb.2.symm.trans hd
    · subst ha
      cases hb.2.symm.trans hd

theorem selection_succ (ha : (h.board n).active = kind) (hp : (h.page n kind).ShowsPicker)
    (hr : ¬ h.Refreshes n kind) : (h.page (n + 1) kind).selection = (h.page n kind).selection := by
  obtain ⟨event, notice, he, -, hs⟩ | hs | ⟨hne, -⟩ := h.page_succ n kind
  · refine hs.selection_of_picker hp fun hev => hr ?_
    rw [Refreshes, he, hev]
    rfl
  · rw [hs]
  · exact absurd ha hne

theorem Browses.active_opening (hb : h.Browses i n kind) : (h.board (i + 1)).active = kind := by
  have hl := hb.order
  have hshown := hb.shown (i + 1) (by omega) (by omega)
  obtain ⟨event, notice, he, ha, hs⟩ | hs | ⟨-, hs⟩ := h.page_succ i kind
  · obtain ⟨key, rfl, hk⟩ := hs.opens (h.sound i kind) hb.opened hshown
    rw [board_succ_of_event he]
    obtain hact | ⟨_, hev, hturn, -⟩ := Board.handle_active (h.board i) (.key key)
    · rw [hact]
      exact Option.some.inj ha
    · cases hev
      obtain hk | hk := hk <;> simp [Board.pageKey?, hk] at hturn
  · rw [hs] at hshown
    exact absurd hshown hb.opened
  · rw [hs] at hshown
    exact absurd hshown hb.opened

theorem Browses.active (hb : h.Browses i n kind) (m : Nat) (hl : i < m) (hm : m ≤ n) :
    (h.board m).active = kind := by
  induction m with
  | zero => omega
  | succ m ih =>
    by_cases hi : i = m
    · subst hi
      exact hb.active_opening
    · exact active_succ (ih (by omega) (by omega)) (hb.shown m (by omega) (by omega))

/-- The selection under a list of commands is the one from the opening, or the last refresh since
has found it. -/
theorem Browses.selection (hb : h.Browses i n kind) :
    (∀ m, i < m → m < n → ¬ h.Refreshes m kind) ∧
        (h.page n kind).selection = (h.page (i + 1) kind).selection ∨
      ∃ m, i < m ∧ m < n ∧ h.Refreshes m kind ∧ (∀ l, m < l → l < n → ¬ h.Refreshes l kind) ∧
        (h.page n kind).selection = h.found? m kind := by
  obtain ⟨hl, ho, hs⟩ := hb
  induction n with
  | zero => omega
  | succ n ih =>
    by_cases hi : i = n
    · subst hi
      exact .inl ⟨fun m hlm hmi => by omega, rfl⟩
    by_cases hr : h.Refreshes n kind
    · exact .inr ⟨n, by omega, by omega, hr, fun l hnl hln => by omega,
        selection_succ_of_refreshes hr⟩
    have hb : h.Browses i n kind := ⟨by omega, ho, fun m hlm hm => hs m hlm (by omega)⟩
    have hsel := selection_succ (hb.active n hb.order (by omega)) (hs n hb.order (by omega)) hr
    rw [hsel]
    obtain ⟨hno, he⟩ | ⟨m, him, hmn, hm, hno, he⟩ := ih hb.order hb.shown
    · refine .inl ⟨fun m hlm hm => ?_, he⟩
      by_cases hmn : m = n
      · subst hmn
        exact hr
      · exact hno m hlm (by omega)
    · refine .inr ⟨m, him, by omega, hm, fun l hml hln => ?_, he⟩
      by_cases hle : l = n
      · subst hle
        exact hr
      · exact hno l hml (by omega)

theorem Chooses.outcome (hc : h.Chooses n kind command) (hn : command.needsSelection = true) :
    (∀ target, (h.page n kind).selection = some target → h.ActsOn n kind command target) ∧
      ((h.page n kind).selection = none → h.Refuses n kind command) := by
  obtain ⟨ha, ⟨key, he, hk⟩, picker, hf, hs⟩ := hc
  subst ha
  have hsound := h.sound n (h.board n).active
  have hm : command ∈ catalog (h.board n).active := by
    rw [← hsound.picker picker hf.2]
    exact List.mem_of_getElem? hs
  unfold ActsOn Refuses page
  rw [requests_of_event he, board_succ_of_event he, Board.handle_choose hk hf hs]
  refine ⟨fun target ht => ?_, fun ht => ?_⟩
  · have hi := (hsound.idle_of_faces hf rfl).inFlight
    exact Board.runCommand_actsOn hm hn (by rw [Board.page_heard]; exact hi)
      (by rw [Board.page_heard]; exact ht)
  · exact Board.runCommand_refused hm hn (by rw [Board.page_heard]; exact hf.2)
      (by rw [Board.page_heard]; exact ht)

/-- In every history, a command for a selected resource acts on what is selected when it is chosen,
or is refused if there is nothing. That is what was selected when the list of commands was opened,
unless the page has been refreshed since; the last refresh decides by the row at the cursor. -/
theorem chosen_command_acts_on_row_at_cursor (h : History) {i n : Nat} {kind : Kind}
    {command : Command} (hb : h.Browses i n kind) (hc : h.Chooses n kind command)
    (hn : command.needsSelection = true) :
    ((∃ target, (h.page n kind).selection = some target ∧ h.ActsOn n kind command target) ∨
        (h.page n kind).selection = none ∧ h.Refuses n kind command) ∧
      ((∀ m, i < m → m < n → ¬ h.Refreshes m kind) ∧
          (h.page n kind).selection = (h.page (i + 1) kind).selection ∨
        ∃ m, i < m ∧ m < n ∧ h.Refreshes m kind ∧ (∀ l, m < l → l < n → ¬ h.Refreshes l kind) ∧
          (h.page n kind).selection = h.found? m kind) ∧
      ∀ target, (h.page (i + 1) kind).selection = some target →
        (∀ m, i < m → m < n → h.Refreshes m kind → h.found? m kind = some target) →
        h.ActsOn n kind command target := by
  obtain ⟨hacts, hrefuses⟩ := hc.outcome hn
  refine ⟨?_, hb.selection, fun target ht hfound => hacts target ?_⟩
  · cases hs : (h.page n kind).selection with
    | some target => exact .inl ⟨target, rfl, hacts target hs⟩
    | none => exact .inr ⟨rfl, hrefuses hs⟩
  · obtain ⟨-, he⟩ | ⟨m, him, hmn, hm, -, he⟩ := hb.selection
    · rw [he, ht]
    · rw [he, hfound m him hmn hm]

def reordered : History where
  settings := {}
  tables := .empty
  incidents := [
    .rows .networks [⟨"9a", "backbone", []⟩],
    .event (.key ⟨.char '4', false, false, false⟩),
    .event (.key ⟨.enter, false, false, false⟩),
    .event (.key ⟨.down, false, false, false⟩),
    .rows .networks [⟨"3c", "attic", []⟩, ⟨"9a", "backbone", []⟩],
    .event (.listRefreshed .networks),
    .event (.key ⟨.enter, false, false, false⟩)]

def inspectNetwork : Command :=
  .onSelected "inspect" "display the network configuration" "display inspect" (.run .inspect)

theorem browses_reordered : reordered.Browses 2 6 .networks := by
  refine ⟨by decide, ?_, fun m hl hm => ?_⟩
  · have hd : (reordered.page 2 .networks).layers.dialog = none := by decide +kernel
    rintro ⟨picker, hp⟩
    cases hd.symm.trans hp
  · have hm : m = 3 ∨ m = 4 ∨ m = 5 ∨ m = 6 := by omega
    obtain rfl | rfl | rfl | rfl := hm
    · exact ⟨⟨.networks, 0⟩, by decide +kernel⟩
    · exact ⟨⟨.networks, 1⟩, by decide +kernel⟩
    · exact ⟨⟨.networks, 1⟩, by decide +kernel⟩
    · exact ⟨⟨.networks, 1⟩, by decide +kernel⟩

theorem chooses_reordered : reordered.Chooses 6 .networks inspectNetwork :=
  ⟨by decide +kernel, ⟨_, rfl, rfl⟩, ⟨.networks, 1⟩, ⟨by decide +kernel, by decide +kernel⟩,
    by decide +kernel⟩

theorem inspect_acts_on_refreshed_row :
    (reordered.page 6 .networks).selection = some ⟨"3c", "attic"⟩ ∧
      reordered.ActsOn 6 .networks inspectNetwork ⟨"3c", "attic"⟩ := by
  have hs : (reordered.page 6 .networks).selection = some ⟨"3c", "attic"⟩ := by decide +kernel
  obtain ⟨⟨target, ht, hacts⟩ | ⟨hnone, -⟩, -⟩ :=
    chosen_command_acts_on_row_at_cursor reordered browses_reordered chooses_reordered rfl
  · cases ht.symm.trans hs
    exact ⟨hs, hacts⟩
  · cases hnone.symm.trans hs

theorem chosen_command_can_miss_opening_selection :
    ¬ ∀ (h : History) (i n : Nat) (kind : Kind) (command : Command) (target : Ref),
      h.Browses i n kind → h.Chooses n kind command → command.needsSelection = true →
      (h.page (i + 1) kind).selection = some target →
      h.ActsOn n kind command target ∨ h.Refuses n kind command := by
  intro hall
  have hs : (reordered.page 3 .networks).selection = some ⟨"9a", "backbone"⟩ := by decide +kernel
  have hr : reordered.requests 6 = [.run .networks ⟨1⟩ (.target .networks .inspect "3c")] := by
    decide +kernel
  obtain ⟨id, ha⟩ | ⟨hn, -⟩ :=
    hall reordered 2 6 .networks inspectNetwork ⟨"9a", "backbone"⟩ browses_reordered
      chooses_reordered rfl hs
  · rw [hr] at ha
    simp at ha
  · rw [hr] at hn
    cases hn

end History

end Deckhand
