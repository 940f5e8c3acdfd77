import Mathlib.Data.List.Chain
import Mathlib.Data.List.Induction
import Mathlib.Tactic.NormNum
import Mathlib.Tactic.SplitIfs
import SlotUpdate.Progress.Recovery
import SlotUpdate.Proofs.Decimal.Hundredths
import SlotUpdate.Proofs.Progress.Exact

/-!
# What is sent to recovery

A reporter sends a share of progress only if it is far enough from the one that it sent last. It
compares with what was sent and not with what was held back, so shares that creep on are sent as
soon as they have come far enough (`RecoveryReporter.never_drifts`).

What a call gives to the writer is seen through `CommandWriter.recording`, which fails as the writer
does and keeps a list of the texts. A call gives the same whatever failed before
(`RecoveryReporter.given_eq`), and all calls give what each of them gives
(`RecoveryReporter.givenInAll_eq`). The texts themselves are those that recovery reads: a share with
two places (`RecoveryReporter.progressLine_fraction`), or the number and the name of a failure
(`RecoveryReporter.given_complete`). In fractions one more share is held back, or it is sent and is
the one to compare with from then on (`RecoveryReporter.report_share`); the last share that was sent
is what a reporter remembers (`RecoveryReporter.lastSent_after`).
-/

namespace SlotUpdate

open ProgressNumber ExactNumber

variable {α β σ : Type}

/-! ## Writers -/

namespace CommandWriter

/-- The same writer, with a list of the texts that are written to it or fail to be. -/
def recording (w : CommandWriter σ) : CommandWriter (σ × List String) where
  write text := fun (s, texts) => ((w.write text s).1, (w.write text s).2, texts ++ [text])
  flush := fun (s, texts) => ((w.flush s).1, (w.flush s).2, texts)

/-- What is seen of a writer's state grows by the texts that are written, and by nothing else. -/
structure Keeps (w : CommandWriter σ) (seen : σ → String) : Prop where
  /-- A text that is written is added. -/
  write : ∀ {text s s'}, w.write text s = (.ok (), s') → seen s' = seen s ++ text
  /-- To pass on what was written changes nothing. -/
  flush : ∀ {s s'}, w.flush s = (.ok (), s') → seen s' = seen s

variable {w : CommandWriter σ}

/-- A command is recorded as a line, and else it is sent as without the record. -/
theorem send_recording (w : CommandWriter σ) (command : String) (s : σ) (texts : List String) :
    w.recording.send command (s, texts) =
      ⟨((w.send command s).value, texts ++ [command ++ "\n"]), (w.send command s).log⟩ := by
  unfold send recording
  match hwrite : w.write (command ++ "\n") s with
  | (.error cause, s₁) => simp only [hwrite]
  | (.ok (), s₁) =>
    match hflush : w.flush s₁ with
    | (.error cause, s₂) => simp only [hwrite, hflush]
    | (.ok (), s₂) => simp only [hwrite, hflush]

/-- Nothing is logged exactly if the command is written and passed on without a failure. -/
theorem send_log_eq_nil_iff {command : String} {s : σ} :
    (w.send command s).log = [] ↔
      ∃ s₁ s₂, w.write (command ++ "\n") s = (.ok (), s₁) ∧ w.flush s₁ = (.ok (), s₂) ∧
        (w.send command s).value = s₂ := by
  unfold send
  match w.write (command ++ "\n") s with
  | (.error cause, s₁) => simp
  | (.ok (), s₁) =>
    dsimp only
    match hflush : w.flush s₁ with
    | (.error cause, s₂) => simp [hflush]
    | (.ok (), s₂) => simp [hflush]

/-- A command that is sent without a failure is added as a line. -/
theorem Keeps.send {seen : σ → String} (h : w.Keeps seen) {command : String} {s : σ}
    (hlog : (w.send command s).log = []) :
    seen (w.send command s).value = seen s ++ (command ++ "\n") := by
  obtain ⟨s₁, s₂, hwrite, hflush, hvalue⟩ := send_log_eq_nil_iff.1 hlog
  rw [hvalue, h.flush hflush, h.write hwrite]

/-- A text that can be added to keeps what is written. -/
theorem keeps_text : (text false).Keeps id where
  write h := by
    cases h
    rfl
  flush h := by
    cases h
    rfl

end CommandWriter

/-! ## Calls -/

namespace RecoveryEvent

/-- The event with another kind of number. -/
def map (f : α → β) : RecoveryEvent α → RecoveryEvent β
  | .progress share => .progress (f share)
  | .complete code => .complete code

/-- The share of an event, if it has one. -/
def share? : RecoveryEvent α → Option α
  | .progress share => some share
  | .complete _ => none

end RecoveryEvent

namespace RecoveryReporter

section Calls

variable [ProgressNumber α] {r : RecoveryReporter α} {e : RecoveryEvent α}

/-- The lines of commands. -/
def lines (commands : List String) : List String := commands.map (· ++ "\n")

/-- The line for an event comes before those for the others. -/
theorem lines_commands_cons (r : RecoveryReporter α) (e : RecoveryEvent α)
    (rest : List (RecoveryEvent α)) :
    lines (r.commands (e :: rest)) =
      lines (r.report e).2.toList ++ lines ((r.report e).1.commands rest) :=
  List.map_append

/-- A reporter after events. -/
def after (r : RecoveryReporter α) (es : List (RecoveryEvent α)) : RecoveryReporter α :=
  es.foldl (fun r e => (r.report e).1) r

/-- A reporter after one more event. -/
theorem after_concat (r : RecoveryReporter α) (es : List (RecoveryEvent α)) (e : RecoveryEvent α) :
    r.after (es ++ [e]) = ((r.after es).report e).1 := by
  unfold after
  rw [List.foldl_append]
  rfl

/-- What is left of the reporter does not depend on the writer. -/
theorem tell_reporter (r : RecoveryReporter α) (w : CommandWriter σ) (e : RecoveryEvent α) (s : σ) :
    (r.tell w e s).value.1 = (r.report e).1 := by
  unfold tell
  match r.report e with
  | (r', some command) => rfl
  | (r', none) => rfl

/-- The line of the command, if there is one, is given to the writer. -/
theorem tell_recording (r : RecoveryReporter α) (w : CommandWriter σ) (e : RecoveryEvent α) (s : σ)
    (texts : List String) :
    r.tell w.recording e (s, texts) = ⟨((r.report e).1, (r.tell w e s).value.2,
      texts ++ lines (r.report e).2.toList), (r.tell w e s).log⟩ := by
  unfold tell
  match r.report e with
  | (r', some command) =>
    dsimp only
    rw [CommandWriter.send_recording]
    rfl
  | (r', none) =>
    show (⟨(r', s, texts), []⟩ : Logged _) = ⟨(r', s, texts ++ []), []⟩
    rw [List.append_nil]

/-- A writer that fails at nothing gets the line of the command, if there is one. -/
theorem tell_written {w : CommandWriter σ} {seen : σ → String} (hw : w.Keeps seen) {s : σ}
    (hlog : (r.tell w e s).log = []) :
    seen (r.tell w e s).value.2 = seen s ++ String.join (lines (r.report e).2.toList) := by
  unfold tell at hlog ⊢
  match hreport : r.report e with
  | (r', some command) =>
    rw [hreport] at hlog
    have hsend : (w.send command s).log = [] := (List.append_eq_nil_iff.1 hlog).1
    show seen (w.send command s).value = _
    rw [hw.send hsend]
    simp [lines]
  | (r', none) =>
    show seen s = seen s ++ String.join []
    simp

/-! ### Calls in order -/

/-- What is left of the reporter depends on the events alone, whatever fails. -/
theorem tellAll_reporter (r : RecoveryReporter α) (w : CommandWriter σ)
    (es : List (RecoveryEvent α)) (s : σ) : (r.tellAll w es s).value.1 = r.after es := by
  induction es generalizing r s with
  | nil => rfl
  | cons e rest ih =>
    show ((r.tell w e s).value.1.tellAll w rest (r.tell w e s).value.2).value.1 = _
    rw [ih, tell_reporter]
    rfl

/-- The lines of all commands are given to the writer in order, whatever fails. -/
theorem tellAll_recording (r : RecoveryReporter α) (w : CommandWriter σ)
    (es : List (RecoveryEvent α)) (s : σ) (texts : List String) :
    (r.tellAll w.recording es (s, texts)).value.2 =
      ((r.tellAll w es s).value.2, texts ++ lines (r.commands es)) := by
  induction es generalizing r s texts with
  | nil =>
    show (s, texts) = (s, texts ++ [])
    rw [List.append_nil]
  | cons e rest ih =>
    have htell := tell_recording r w e s texts
    show ((r.tell w.recording e (s, texts)).value.1.tellAll w.recording rest
      (r.tell w.recording e (s, texts)).value.2).value.2 =
      (((r.tell w e s).value.1.tellAll w rest (r.tell w e s).value.2).value.2, _)
    rw [htell, ih, tell_reporter, lines_commands_cons, List.append_assoc]

/-- A writer that fails at nothing holds the lines of all commands in order. -/
theorem tellAll_written {w : CommandWriter σ} {seen : σ → String} (hw : w.Keeps seen)
    {es : List (RecoveryEvent α)} {s : σ} (hlog : (r.tellAll w es s).log = []) :
    seen (r.tellAll w es s).value.2 = seen s ++ String.join (lines (r.commands es)) := by
  induction es generalizing r s with
  | nil =>
    show seen s = seen s ++ String.join []
    simp
  | cons e rest ih =>
    obtain ⟨hfirst, hrest⟩ := List.append_eq_nil_iff.1 hlog
    show seen ((r.tell w e s).value.1.tellAll w rest (r.tell w e s).value.2).value.2 = _
    rw [ih hrest, tell_written hw hfirst, tell_reporter, lines_commands_cons, String.append_assoc,
      String.join_append]

/-- What a call after others gives to the writer. -/
def given (w : CommandWriter σ) (s : σ) (before : List (RecoveryEvent α)) (e : RecoveryEvent α) :
    List String :=
  let told := (initial.tellAll w before s).value
  (told.1.tell w.recording e (told.2, [])).value.2.2

/-- A call gives the line of its command, if there is one, whatever failed before. -/
theorem given_eq (w : CommandWriter σ) (s : σ) (before : List (RecoveryEvent α))
    (e : RecoveryEvent α) :
    given w s before e = lines ((initial.after before).report e).2.toList := by
  unfold given
  dsimp only
  rw [tell_recording, tellAll_reporter]
  rfl

/-- The line for a failure holds its number and its name. -/
theorem failureLine_newline (code : ErrorCode) :
    failureLine code ++ "\n" =
      "ui_print Error applying update: " ++ toString code.number ++ " (" ++ code.name ++ ")\n" := by
  have hline : failureLine code =
      "ui_print Error applying update: " ++ toString code.number ++ " (" ++ code.name ++ ")" := rfl
  have hend : ")" ++ "\n" = ")\n" := by decide
  rw [hline, String.append_assoc, hend]

/-- The reason of a failure is given in one line, and nothing for a success. -/
theorem given_complete (w : CommandWriter σ) (s : σ) (before : List (RecoveryEvent α))
    (code : ErrorCode) :
    given w s before (.complete code) =
      if code.isSuccess then []
      else ["ui_print Error applying update: " ++ toString code.number ++ " (" ++ code.name ++
        ")\n"] := by
  rw [given_eq]
  show lines (if code.isSuccess then none else some (failureLine code)).toList = _
  split_ifs
  · rfl
  · exact congrArg (fun line => [line]) (failureLine_newline code)

/-- What the calls after others give to the writer, one after the other. -/
def givenAfter (w : CommandWriter σ) (s : σ) (before : List (RecoveryEvent α)) :
    List (RecoveryEvent α) → List String
  | [] => []
  | e :: rest => given w s before e ++ givenAfter w s (before ++ [e]) rest

/-- What all calls give to the writer, one after the other. -/
def givenInAll (w : CommandWriter σ) (s : σ) (es : List (RecoveryEvent α)) : List String :=
  givenAfter w s [] es

/-- The calls after others give the lines of their commands. -/
theorem givenAfter_eq (w : CommandWriter σ) (s : σ) (before es : List (RecoveryEvent α)) :
    givenAfter w s before es = lines ((initial.after before).commands es) := by
  induction es generalizing before with
  | nil => rfl
  | cons e rest ih =>
    rw [givenAfter, given_eq, ih, after_concat, lines_commands_cons]

/-- All calls give the lines of their commands. -/
theorem givenInAll_eq (w : CommandWriter σ) (s : σ) (es : List (RecoveryEvent α)) :
    givenInAll w s es = lines (initial.commands es) :=
  givenAfter_eq w s [] es

end Calls

/-! ## Shares -/

section Shares

variable [LiteralReading]

/-- Events whose shares are fractions, in exact arithmetic. -/
def inFractions (es : List (RecoveryEvent ℚ)) : List (RecoveryEvent ExactNumber) :=
  es.map (.map fraction)

/-- The shares that are sent at events after others: those of the calls that give something to the
writer. -/
def sharesSentAfter (w : CommandWriter σ) (s : σ) (before : List (RecoveryEvent ℚ)) :
    List (RecoveryEvent ℚ) → List ℚ
  | [] => []
  | e :: rest =>
    (if given w s (inFractions before) (e.map fraction) = [] then [] else e.share?.toList) ++
      sharesSentAfter w s (before ++ [e]) rest

/-- The shares that are sent. -/
def sharesSent (w : CommandWriter σ) (s : σ) (es : List (RecoveryEvent ℚ)) : List ℚ :=
  sharesSentAfter w s [] es

variable {t x : ℚ} {w : CommandWriter σ} {s : σ} {es : List (RecoveryEvent ℚ)}

/-- One more event adds its share to those that are sent, if something is given to the writer. -/
theorem sharesSentAfter_concat (w : CommandWriter σ) (s : σ) (before es : List (RecoveryEvent ℚ))
    (e : RecoveryEvent ℚ) :
    sharesSentAfter w s before (es ++ [e]) = sharesSentAfter w s before es ++
      if given w s (inFractions (before ++ es)) (e.map fraction) = [] then []
      else e.share?.toList := by
  induction es generalizing before with
  | nil => simp [sharesSentAfter]
  | cons e' es ih =>
    rw [List.cons_append, sharesSentAfter, sharesSentAfter, ih, List.append_assoc,
      List.append_assoc]
    rfl

/-- The line for a share holds it with two places. -/
theorem progressLine_fraction (x : ℚ) : ∃ text, Decimal.InHundredths x text ∧
    progressLine (fraction x) ++ "\n" = "set_progress " ++ text ++ "\n" :=
  ⟨_, Decimal.inHundredths_iff.2 rfl, rfl⟩

/-- What a reporter that has sent the share `last` or nothing does about one more share. -/
inductive Reports (t : ℚ) (r : RecoveryReporter ExactNumber) (last : Option ℚ) (x : ℚ) : Prop where
  /-- It is held back, near to the last one. -/
  | held (l : ℚ) (hlast : last = some l) (hnear : |x - l| ≤ t)
    (hreport : r.report (.progress (fraction x)) = (r, none))
  /-- It is sent, as the first one or far from the last one. -/
  | sent (hfar : ∀ l ∈ last, t < |x - l|)
    (hreport : r.report (.progress (fraction x)) =
      (⟨some (fraction x)⟩, some (progressLine (fraction x))))

/-- A reporter compares a share with the last one that it sent. -/
theorem report_share (ht : (threshold : ExactNumber) = fraction t)
    {r : RecoveryReporter ExactNumber} {last : Option ℚ} (hr : r.lastSent = last.map fraction)
    (x : ℚ) : Reports t r last x := by
  cases last with
  | none =>
    refine .sent nofun ?_
    unfold report isDue
    rw [hr]
    rfl
  | some l =>
    have hdue : r.isDue (fraction x) = !decide (|x - l| ≤ t) := by
      unfold isDue
      rw [hr]
      simp [ht]
    by_cases hnear : |x - l| ≤ t
    · refine .held l rfl hnear ?_
      rw [decide_eq_true hnear] at hdue
      unfold report
      exact if_neg (Bool.eq_false_iff.1 hdue)
    · refine .sent (by simpa using hnear) ?_
      rw [decide_eq_false hnear] at hdue
      unfold report
      exact if_pos hdue

/-- One more event adds its share, if something is given to the writer. -/
theorem sharesSent_concat (w : CommandWriter σ) (s : σ) (es : List (RecoveryEvent ℚ))
    (e : RecoveryEvent ℚ) :
    sharesSent w s (es ++ [e]) = sharesSent w s es ++
      if given w s (inFractions es) (e.map fraction) = [] then [] else e.share?.toList :=
  sharesSentAfter_concat w s [] es e

/-- That the work is over adds no share. -/
theorem sharesSent_concat_complete (w : CommandWriter σ) (s : σ) (es : List (RecoveryEvent ℚ))
    (code : ErrorCode) : sharesSent w s (es ++ [.complete code]) = sharesSent w s es := by
  rw [sharesSent_concat]
  simp [RecoveryEvent.share?]

/-- One share after other events: it is held back and changes nothing, or it is sent, and then it is
the last one that was. -/
inductive Told (t : ℚ) (w : CommandWriter σ) (s : σ) (es : List (RecoveryEvent ℚ)) (x : ℚ) :
    Prop where
  /-- It is held back, near to the last one. -/
  | held (l : ℚ) (hlast : (sharesSent w s es).getLast? = some l) (hnear : |x - l| ≤ t)
    (hgiven : given w s (inFractions es) (.progress (fraction x)) = [])
    (hsent : sharesSent w s (es ++ [.progress x]) = sharesSent w s es)
    (hafter : initial.after (inFractions (es ++ [.progress x])) = initial.after (inFractions es))
  /-- It is sent, as the first one or far from the last one. -/
  | sent (hfar : ∀ l ∈ (sharesSent w s es).getLast?, t < |x - l|)
    (hgiven : given w s (inFractions es) (.progress (fraction x)) =
      [progressLine (fraction x) ++ "\n"])
    (hsent : sharesSent w s (es ++ [.progress x]) = sharesSent w s es ++ [x])
    (hafter : initial.after (inFractions (es ++ [.progress x])) = ⟨some (fraction x)⟩)

/-- A reporter in fractions after one more event. -/
theorem after_inFractions_concat (es : List (RecoveryEvent ℚ)) (e : RecoveryEvent ℚ) :
    initial.after (inFractions (es ++ [e])) =
      ((initial.after (inFractions es)).report (e.map fraction)).1 := by
  unfold inFractions
  rw [List.map_append, List.map_singleton, after_concat]

/-- Where the reporter remembers the last share that was sent, it compares one more with that. -/
theorem told_of_lastSent (ht : (threshold : ExactNumber) = fraction t)
    (hlast : (initial.after (inFractions es)).lastSent =
      (sharesSent w s es).getLast?.map fraction) (x : ℚ) : Told t w s es x := by
  have hafter := after_inFractions_concat es (.progress x)
  have hgiven := given_eq w s (inFractions es) (.progress (fraction x))
  have hsent := sharesSent_concat w s es (.progress x)
  unfold RecoveryEvent.map at hafter hsent
  cases report_share ht hlast x with
  | held l hl hnear hreport =>
    rw [hreport] at hafter hgiven
    have hnone : given w s (inFractions es) (.progress (fraction x)) = [] := hgiven
    rw [hnone, if_pos rfl, List.append_nil] at hsent
    exact .held l hl hnear hnone hsent hafter
  | sent hfar hreport =>
    rw [hreport] at hafter hgiven
    have hline : given w s (inFractions es) (.progress (fraction x)) =
        [progressLine (fraction x) ++ "\n"] := hgiven
    rw [hline, if_neg (List.cons_ne_nil _ _)] at hsent
    exact .sent hfar hline hsent hafter

/-- A reporter remembers the last share that was sent. -/
theorem lastSent_after (ht : (threshold : ExactNumber) = fraction t) (w : CommandWriter σ) (s : σ)
    (es : List (RecoveryEvent ℚ)) :
    (initial.after (inFractions es)).lastSent = (sharesSent w s es).getLast?.map fraction := by
  induction es using List.reverseRecOn with
  | nil => rfl
  | append_singleton es e ih =>
    cases e with
    | complete code =>
      rw [after_inFractions_concat, sharesSent_concat_complete]
      exact ih
    | progress x =>
      cases told_of_lastSent ht ih x with
      | held l hlast hnear hgiven hsent hafter => rw [hafter, hsent, ih]
      | sent hfar hgiven hsent hafter => rw [hafter, hsent, List.getLast?_concat, Option.map_some]

/-- One more share is compared with the last one that was sent, after whatever events. -/
theorem told (ht : (threshold : ExactNumber) = fraction t) (w : CommandWriter σ) (s : σ)
    (es : List (RecoveryEvent ℚ)) (x : ℚ) : Told t w s es x :=
  told_of_lastSent ht (lastSent_after ht w s es) x

/-- Shares that are sent one after the other are far from each other. -/
theorem isChain_sharesSent (ht : (threshold : ExactNumber) = fraction t) (w : CommandWriter σ)
    (s : σ) (es : List (RecoveryEvent ℚ)) :
    (sharesSent w s es).IsChain fun a b => t < |b - a| := by
  induction es using List.reverseRecOn with
  | nil => exact .nil
  | append_singleton es e ih =>
    cases e with
    | complete code =>
      rw [sharesSent_concat_complete]
      exact ih
    | progress x =>
      cases told ht w s es x with
      | held l hlast hnear hgiven hsent hafter => rwa [hsent]
      | sent hfar hgiven hsent hafter =>
        rw [hsent]
        refine ih.append (.singleton x) fun l hl y hy => ?_
        obtain rfl := Option.some.inj hy
        exact hfar l hl

/-- Every share is near to the last one that was sent when it has been reported. -/
theorem Told.near (h : Told t w s es x) (hnonneg : 0 ≤ t) :
    ∃ l ∈ (sharesSent w s (es ++ [.progress x])).getLast?, |x - l| ≤ t := by
  cases h with
  | held l hlast hnear hgiven hsent hafter =>
    rw [hsent]
    exact ⟨l, hlast, hnear⟩
  | sent hfar hgiven hsent hafter =>
    rw [hsent, List.getLast?_concat]
    exact ⟨x, rfl, by rwa [sub_self, abs_zero]⟩

/-- Nothing is sent as long as no share is reported. -/
theorem sharesSent_eq_nil_iff (ht : (threshold : ExactNumber) = fraction t) :
    sharesSent w s es = [] ↔ ∀ x, .progress x ∉ es := by
  induction es using List.reverseRecOn with
  | nil => exact iff_of_true rfl fun _ => List.not_mem_nil
  | append_singleton es e ih =>
    cases e with
    | complete code =>
      rw [sharesSent_concat_complete, ih]
      simp
    | progress x =>
      refine iff_of_false (fun hnil => ?_) fun h => h x List.mem_concat_self
      cases told ht w s es x with
      | held l hlast hnear hgiven hsent hafter =>
        rw [← hsent, hnil] at hlast
        cases hlast
      | sent hfar hgiven hsent hafter =>
        rw [hsent] at hnil
        exact List.append_ne_nil_of_right_ne_nil _ (List.cons_ne_nil _ _) hnil

/-- What a reporter sends over events, to a writer that may fail at anything, where `t` is the
difference above which a share is sent. -/
structure NeverDrifts (t : ℚ) (w : CommandWriter σ) (s : σ) (es : List (RecoveryEvent ℚ)) :
    Prop where
  /-- A share is sent if no share was sent before it, or if it is far from the last one that was.
  The line shows it with two places. -/
  sends : ∀ before x rest, es = before ++ .progress x :: rest →
    (∀ l ∈ (sharesSent w s before).getLast?, t < |x - l|) →
      ∃ text, Decimal.InHundredths x text ∧
        given w s (inFractions before) (.progress (fraction x)) =
          ["set_progress " ++ text ++ "\n"]
  /-- It is held back if it is near to the last one that was sent. -/
  holds : ∀ before x rest, es = before ++ .progress x :: rest →
    ∀ l ∈ (sharesSent w s before).getLast?, |x - l| ≤ t →
      given w s (inFractions before) (.progress (fraction x)) = []
  /-- Nothing was sent only as long as no share was reported. -/
  first : ∀ before rest, es = before ++ rest →
    (sharesSent w s before = [] ↔ ∀ x, .progress x ∉ before)
  /-- Shares that are sent one after the other are far from each other. -/
  apart : (sharesSent w s es).IsChain fun a b => t < |b - a|
  /-- When a share has been reported, it is near to the last one that was sent. -/
  near : ∀ before x rest, es = before ++ .progress x :: rest →
    ∃ l ∈ (sharesSent w s (before ++ [.progress x])).getLast?, |x - l| ≤ t
  /-- The reason of a failure is sent in one line, by its number and its name, and nothing is sent
  for a success. -/
  complete : ∀ before code rest, es = before ++ .complete code :: rest →
    given w s (inFractions before) (.complete code) =
      if code.isSuccess then []
      else ["ui_print Error applying update: " ++ toString code.number ++ " (" ++ code.name ++
        ")\n"]
  /-- To another writer, which fails at other times or never, every call gives the same. -/
  steady : ∀ (τ : Type) (w' : CommandWriter τ) (s' : τ) before e rest, es = before ++ e :: rest →
    given w s (inFractions before) (e.map fraction) =
      given w' s' (inFractions before) (e.map fraction)
  /-- Over all calls the writer is given what each of them gives, in order. -/
  handed : (initial.tellAll w.recording (inFractions es) (s, [])).value.2 =
    ((initial.tellAll w (inFractions es) s).value.2, givenInAll w s (inFractions es))
  /-- If nothing fails, this is what is seen of a writer that keeps what is written. -/
  written : ∀ seen, w.Keeps seen → (initial.tellAll w (inFractions es) s).log = [] →
    seen (initial.tellAll w (inFractions es) s).value.2 =
      seen s ++ String.join (givenInAll w s (inFractions es))

/-- A reporter never drifts from what it has sent, whatever the threshold. -/
theorem neverDrifts_of_threshold (ht : (threshold : ExactNumber) = fraction t) (hnonneg : 0 ≤ t)
    (w : CommandWriter σ) (s : σ) (es : List (RecoveryEvent ℚ)) : NeverDrifts t w s es := by
  constructor
  case sends =>
    rintro before x rest rfl hfar
    cases told ht w s before x with
    | held l hlast hnear => exact absurd hnear (not_le.2 (hfar l hlast))
    | sent _ hgiven =>
      obtain ⟨text, htext, hline⟩ := progressLine_fraction x
      exact ⟨text, htext, by rw [hgiven, hline]⟩
  case holds =>
    rintro before x rest rfl l hlast hnear
    cases told ht w s before x with
    | held _ _ _ hgiven => exact hgiven
    | sent hfar => exact absurd hnear (not_le.2 (hfar l hlast))
  case first => exact fun _ _ _ => sharesSent_eq_nil_iff ht
  case apart => exact isChain_sharesSent ht w s es
  case near => exact fun before x _ _ => (told ht w s before x).near hnonneg
  case complete => exact fun before code _ _ => given_complete w s (inFractions before) code
  case steady =>
    rintro τ w' s' before e rest rfl
    rw [given_eq, given_eq]
  case handed =>
    rw [givenInAll_eq]
    exact tellAll_recording initial w (inFractions es) s []
  case written =>
    intro seen hw hlog
    rw [givenInAll_eq]
    exact tellAll_written hw hlog

end Shares

/-- A reporter sends a share exactly if it is the first one or differs by more than half a percent
from the last one that it sent, whatever fails and however slowly the shares creep on. -/
theorem never_drifts (w : CommandWriter σ) (s : σ) (es : List (RecoveryEvent ℚ)) :
    letI := LiteralReading.written
    NeverDrifts (1 / 200) w s es := by
  let : LiteralReading := .written
  have ht : (threshold : ExactNumber) = fraction (1 / 200) := by
    show fraction ((if false = true then -1 else 1) * (5 : ℕ) * 10 ^ (-3 : ℤ)) = _
    norm_num
  exact neverDrifts_of_threshold ht (by norm_num) w s es

/-- Shares that creep on are sent as soon as they have come far enough, also if nothing can be
written. -/
example :
    letI := LiteralReading.written
    sharesSent (.text true) "" [.progress 0, .progress (1 / 250), .progress (1 / 200),
      .progress (3 / 500), .complete .success, .progress (1 / 100)] = [0, 3 / 500] := by
  decide +kernel

end RecoveryReporter

end SlotUpdate
