import Mathlib.Data.List.Forall2
import Deckhand.Host.Podman.Cli
import Deckhand.Proofs.Text.Lines

namespace Deckhand

/-- The calls that go on with the other targets when one fails. -/
inductive Operation.IsBatch : Operation → Prop
  | prune (kind : Kind) : IsBatch (.prune kind)
  | pod {verb : Verb} (id : String) :
      verb ∈ [.start, .stop, .pause, .unpause, .restart, .kill, .remove] →
      IsBatch (.target .pods verb id)

namespace Podman

def errorMark : List Char := "Error: ".toList

structure IsEntry (line entry : String) : Prop where
  marks : ∃ n, (Text.trim line).toList = (List.replicate n errorMark).flatten ++ entry.toList
  bare : ¬ errorMark <+: entry.toList

/-- The entries for an error output, one for each line that is not blank. Shown below each other
they can be told apart again. -/
structure AreEntries (text : String) (entries : List String) : Prop where
  lines : List.Forall₂ IsEntry ((Text.lines text).filter fun line => ¬ Text.IsBlank line) entries
  ne_empty : ∀ entry ∈ entries, entry ≠ ""
  readBack : Text.lines (Failure.several entries).message = entries

theorem dropErrorMarks_eq (text : List Char) :
    ∃ n, text = (List.replicate n errorMark).flatten ++ dropErrorMarks text := by
  fun_induction dropErrorMarks text with
  | case1 rest ih =>
    obtain ⟨n, hn⟩ := ih
    refine ⟨n + 1, ?_⟩
    rw [List.replicate_succ, List.flatten_cons, List.append_assoc, ← hn]
    rfl
  | case2 text _ => exact ⟨0, rfl⟩

theorem not_errorMark_prefix (text : List Char) : ¬ errorMark <+: dropErrorMarks text := by
  fun_induction dropErrorMarks text with
  | case1 rest ih => exact ih
  | case2 text h =>
    rintro ⟨rest, hr⟩
    exact h rest hr.symm

theorem isEntry_cleaned (line : String) : IsEntry line (cleaned line) := by
  unfold cleaned
  constructor
  · rw [String.toList_ofList]
    exact dropErrorMarks_eq _
  · rw [String.toList_ofList]
    exact not_errorMark_prefix _

section

variable {line entry : String}

theorem IsEntry.exists_last (h : IsEntry line entry) (hl : ¬ Text.IsBlank line) :
    ∃ c, entry.toList.getLast? = some c ∧ Text.isBlank c = false := by
  -- The last character of a line that is not blank stays, as a mark ends with a blank.
  have ht := Text.isTrimmed_trim fun he => hl (Text.trim_eq_empty_iff.mp he)
  obtain ⟨n, hn⟩ := h.marks
  by_cases hne : entry.toList = []
  · rw [hne, List.append_nil] at hn
    cases n with
    | zero => exact absurd (String.toList_eq_nil_iff.mp hn) ht.ne_empty
    | succ n =>
      have hlast : (Text.trim line).toList.getLast? = some ' ' := by
        rw [hn, List.replicate_succ', List.flatten_append, List.getLast?_append]
        rfl
      cases ht.last ' ' hlast
  · have hlast := List.getLast?_eq_some_getLast hne
    refine ⟨_, hlast, ht.last _ ?_⟩
    rw [hn, List.getLast?_append, hlast]
    rfl

theorem IsEntry.ne_empty (h : IsEntry line entry) (hl : ¬ Text.IsBlank line) : entry ≠ "" := by
  obtain ⟨c, hc, -⟩ := h.exists_last hl
  rintro rfl
  cases hc

theorem IsEntry.isLine (h : IsEntry line entry) (hl : ¬ Text.IsBlank line)
    (hf : '\n' ∉ line.toList) : Text.IsLine entry.toList := by
  obtain ⟨c, hc, hblank⟩ := h.exists_last hl
  obtain ⟨n, hn⟩ := h.marks
  constructor
  · exact String.toList_eq_nil_iff.not.mpr (h.ne_empty hl)
  · intro hm
    have ht : '\n' ∈ (Text.trim line).toList := by
      rw [hn]
      exact List.mem_append_right _ hm
    rw [Text.toList_trim] at ht
    exact hf (Text.trimChars_subset _ ht)
  · intro hr
    cases hc.symm.trans hr
    cases hblank

theorem cleaned_eq_empty_iff : cleaned line = "" ↔ Text.IsBlank line := by
  constructor
  · intro h
    by_contra hl
    exact (isEntry_cleaned line).ne_empty hl h
  · intro h
    rw [cleaned, Text.trim_eq_empty_iff.mpr h, String.toList_empty, dropErrorMarks]
    exact fun _ he => by cases he

end

namespace Run

variable {run : Run}

theorem filter_cleaned (lines : List String) :
    (lines.map cleaned).filter (!·.isEmpty) =
      (lines.filter fun line => ¬ Text.IsBlank line).map cleaned := by
  rw [List.filter_map]
  refine congrArg (List.map cleaned) (List.filter_congr fun line _ => ?_)
  rw [Bool.eq_iff_iff]
  simp [cleaned_eq_empty_iff]

theorem areEntries_cleaned (text : String) :
    AreEntries text (((Text.lines text).map cleaned).filter (!·.isEmpty)) := by
  rw [filter_cleaned]
  have hmem {entry : String}
      (he : entry ∈ ((Text.lines text).filter fun line => ¬ Text.IsBlank line).map cleaned) :
      ∃ line ∈ Text.lines text, ¬ Text.IsBlank line ∧ IsEntry line entry := by
    obtain ⟨line, hl, rfl⟩ := List.mem_map.mp he
    obtain ⟨hline, hblank⟩ := List.mem_filter.mp hl
    exact ⟨line, hline, of_decide_eq_true hblank, isEntry_cleaned line⟩
  constructor
  · rw [List.forall₂_map_right_iff, List.forall₂_same]
    exact fun line _ => isEntry_cleaned line
  · intro entry he
    obtain ⟨line, -, hblank, hentry⟩ := hmem he
    exact hentry.ne_empty hblank
  · refine Text.lines_unlines fun entry he => ?_
    obtain ⟨line, hline, hblank, hentry⟩ := hmem he
    exact hentry.isLine hblank (Text.feed_notMem_lineChars (Text.toList_mem_lineChars hline))

theorem isSuccess_iff : run.isSuccess = true ↔ run.ending = .exited 0 := by
  unfold isSuccess Ending.isSuccess
  cases run.ending <;> simp

theorem exists_failure (run : Run) :
    ∃ message, message ≠ "" ∧ run.failure = .host message := by
  unfold failure
  dsimp only
  split
  · exact ⟨_, by simp, rfl⟩
  · rename_i hne
    rw [String.isEmpty_iff] at hne
    exact ⟨_, hne, rfl⟩

theorem settle_successful {f : String → Outcome} (hf : ∀ text, (f text).settle = .ok (f text))
    (run : Run) : (run.successful.map f).bind Outcome.settle =
      if run.isSuccess then .ok (f run.output) else .error run.failure := by
  unfold successful
  split
  · exact hf run.output
  · rfl

theorem settle_batch_of_success (h : run.isSuccess = true) :
    run.batch.bind Outcome.settle = .ok (.batch []) := by
  rw [batch, if_pos h]
  rfl

theorem settle_batch_of_failure (h : run.isSuccess = false)
    (hl : ∃ line ∈ Text.lines run.errorOutput, ¬ Text.IsBlank line) :
    ∃ entries, run.batch.bind Outcome.settle = .error (.several entries) ∧
      AreEntries run.errorOutput entries := by
  have hentries := areEntries_cleaned run.errorOutput
  have hne : ((Text.lines run.errorOutput).map cleaned).filter (!·.isEmpty) ≠ [] := by
    obtain ⟨line, hline, hblank⟩ := hl
    rw [filter_cleaned]
    exact List.map_eq_nil_iff.not.mpr
      (List.ne_nil_of_mem (List.mem_filter.mpr ⟨hline, decide_eq_true hblank⟩))
  obtain ⟨entry, entries, he⟩ := List.exists_cons_of_ne_nil hne
  rw [he] at hentries
  refine ⟨entry :: entries, ?_, hentries⟩
  simp only [batch, h, he, Bool.false_eq_true, if_false]
  rfl

theorem settle_batch_of_blank (h : run.isSuccess = false) (hb : Text.IsBlank run.errorOutput) :
    run.batch.bind Outcome.settle = .error run.ended := by
  have he : ((Text.lines run.errorOutput).map cleaned).filter (!·.isEmpty) = [] := by
    rw [filter_cleaned, List.map_eq_nil_iff, List.filter_eq_nil_iff]
    intro line hline
    have hblank := Text.isBlank_iff_forall_lines.mp hb line hline
    simpa using hblank
  simp only [batch, h, he, Bool.false_eq_true, if_false]
  rfl

end Run

section

variable {operation : Operation}

theorem outcome_of_batch (h : operation.IsBatch) (run : Run) : outcome operation run = run.batch := by
  cases h with
  | prune kind => rfl
  | @pod verb id hv =>
    cases verb with
    | inspect | diff | logs | port | top | history => simp at hv
    | _ => rfl

theorem outcome_of_not_batch (h : ¬ operation.IsBatch) :
    ∃ f : String → Outcome, (∀ text, (f text).settle = .ok (f text)) ∧
      ∀ run, outcome operation run = run.successful.map f := by
  cases operation with
  | target kind verb id =>
    cases verb with
    | inspect | diff | logs | port | top | history => exact ⟨_, fun _ => rfl, fun _ => rfl⟩
    | _ =>
      cases kind with
      | pods => exact absurd (.pod id (by decide)) h
      | _ => exact ⟨_, fun _ => rfl, fun _ => rfl⟩
  | prune kind => exact absurd (.prune kind) h
  | _ => exact ⟨_, fun _ => rfl, fun _ => rfl⟩

theorem settle_outcome_of_success (operation : Operation) {run : Run} (h : run.isSuccess = true) :
    ∃ result, (outcome operation run).bind Outcome.settle = .ok result := by
  by_cases hb : operation.IsBatch
  · rw [outcome_of_batch hb, Run.settle_batch_of_success h]
    exact ⟨_, rfl⟩
  · obtain ⟨f, hf, ho⟩ := outcome_of_not_batch hb
    rw [ho, Run.settle_successful hf, if_pos h]
    exact ⟨_, rfl⟩

theorem settle_outcome_of_failure {run : Run} (h : run.isSuccess = false)
    (hblank : operation.IsBatch → Text.IsBlank run.errorOutput) :
    ∃ message, message ≠ "" ∧
      (outcome operation run).bind Outcome.settle = .error (.host message) := by
  by_cases hb : operation.IsBatch
  · rw [outcome_of_batch hb, Run.settle_batch_of_blank h (hblank hb)]
    exact ⟨_, by simp, rfl⟩
  · obtain ⟨f, hf, ho⟩ := outcome_of_not_batch hb
    obtain ⟨message, hne, hm⟩ := run.exists_failure
    rw [ho, Run.settle_successful hf, h, hm]
    exact ⟨message, hne, rfl⟩

end

/-- A call is taken to have failed if and only if podman did not exit with success. A call with
several targets then gives one entry for each line of the error output that says something. Without
such a line, and for every other call, there is a single message, which says something in any case. -/
theorem failed_calls_say_why (cli : Cli) (start : List String → Run) (operation : Operation)
    {run : Run} (hrun : cli.call start (arguments operation) = .ok run) :
    let result := (cli.execute start operation).bind Outcome.settle
    ((∃ outcome, result = .ok outcome) ↔ run.ending = .exited 0) ∧
      (run.ending ≠ .exited 0 → operation.IsBatch →
        (∃ line ∈ Text.lines run.errorOutput, ¬ Text.IsBlank line) →
        ∃ entries, result = .error (.several entries) ∧ AreEntries run.errorOutput entries) ∧
      (run.ending ≠ .exited 0 → (operation.IsBatch → Text.IsBlank run.errorOutput) →
        ∃ message, message ≠ "" ∧ result = .error (.host message)) := by
  have hresult : (cli.execute start operation).bind Outcome.settle =
      (outcome operation run).bind Outcome.settle := by
    rw [Cli.execute, hrun]
    rfl
  rw [hresult]
  dsimp only
  cases hs : run.isSuccess with
  | true =>
    have he : run.ending = .exited 0 := Run.isSuccess_iff.mp hs
    exact ⟨iff_of_true (settle_outcome_of_success operation hs) he,
      fun hne => absurd he hne, fun hne => absurd he hne⟩
  | false =>
    have hne : run.ending ≠ .exited 0 := by
      rw [Ne, ← Run.isSuccess_iff, hs]
      exact Bool.false_ne_true
    have hseveral (hb : operation.IsBatch)
        (hl : ∃ line ∈ Text.lines run.errorOutput, ¬ Text.IsBlank line) :
        ∃ entries, (outcome operation run).bind Outcome.settle = .error (.several entries) ∧
          AreEntries run.errorOutput entries := by
      rw [outcome_of_batch hb]
      exact Run.settle_batch_of_failure hs hl
    refine ⟨iff_of_false ?_ hne, fun _ => hseveral,
      fun _ => settle_outcome_of_failure hs⟩
    rintro ⟨result, hok⟩
    by_cases hb : operation.IsBatch ∧ ¬ Text.IsBlank run.errorOutput
    · obtain ⟨hbatch, hblank⟩ := hb
      rw [Text.isBlank_iff_forall_lines] at hblank
      obtain ⟨entries, he, -⟩ := hseveral hbatch (by simpa using hblank)
      cases hok.symm.trans he
    · obtain ⟨message, -, he⟩ := settle_outcome_of_failure hs fun hbatch =>
        not_not.mp fun hblank => hb ⟨hbatch, hblank⟩
      cases hok.symm.trans he

def failedPrune : Run where
  ending := .exited 125
  stdout := .empty
  stderr := "Error: Error: 5e: in use\r\n \n  7a: paused\n".toUTF8

theorem failed_prune_names_containers :
    ((Cli.mk none).execute (fun _ => failedPrune) (.prune .containers)).bind Outcome.settle =
        .error (.several ["5e: in use", "7a: paused"]) ∧
      AreEntries failedPrune.errorOutput ["5e: in use", "7a: paused"] := by
  have hcleaned : ((Text.lines failedPrune.errorOutput).map cleaned).filter (!·.isEmpty) =
      ["5e: in use", "7a: paused"] := by decide +kernel
  have hresult : ((Cli.mk none).execute (fun _ => failedPrune) (.prune .containers)).bind
      Outcome.settle = .error (.several ["5e: in use", "7a: paused"]) := by
    change failedPrune.batch.bind Outcome.settle = _
    rw [Run.batch, hcleaned]
    rfl
  have hline : ∃ line ∈ Text.lines failedPrune.errorOutput, ¬ Text.IsBlank line := by
    decide +kernel
  obtain ⟨-, hseveral, -⟩ :=
    failed_calls_say_why ⟨none⟩ (fun _ => failedPrune) (.prune .containers) rfl
  obtain ⟨entries, he, hentries⟩ := hseveral (by decide) (.prune _) hline
  cases hresult.symm.trans he
  exact ⟨hresult, hentries⟩

end Podman

end Deckhand
