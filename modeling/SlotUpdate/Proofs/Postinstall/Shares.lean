import SlotUpdate.Proofs.Postinstall.Portions
import SlotUpdate.Proofs.Postinstall.SpokenLines
import SlotUpdate.Proofs.Postinstall.StatusIndependence

/-!
# The share of an attempt that is done

Reports are in proportion to the partitions whose programs are to be run. While an attempt stands at
a partition its reports lie between the share of those before it and the share with it; when a
partition starts the report is the former, so that these do not decrease; and an attempt that
succeeds has reported one last.

Along a tale `shareLaw` is kept (`Tale.shares`): each report is of the partition at which the
attempt stands, and before a success the last report was of the start of a partition, behind which
none is to be run. The latter is what `ReportedLast` carries from post to post. What a share is in
fractions follows from the sums of the weights (`shareAt_eq`), which are counts of partitions. Both
make `MeasuresProgress`.
-/

namespace SlotUpdate.Runner

variable {α σ : Type}

/-! ## Reports along a tale -/

section

variable [ProgressNumber α] {config : PostinstallConfig} {plan : InstallPlan}
  {es : List (Event α)} {post : Post}

/-- The last report was of the start of a partition, and from there on none before a place is to be
run. -/
def StartedIdle (plan : InstallPlan) (shares : List α) (i : Nat) : Prop :=
  ∃ k, shares.getLast? = some (shareAt plan k ProgressNumber.zero) ∧
    ∀ j p, k ≤ j → j < i → plan.partitions[j]? = some p → runsUnder plan p = false

/-- What may be reported after a past. A report is of the partition at which the attempt stands, and
of its start if no program runs. Before a success at a plan with a source the last report was of the
start of a partition, behind which none is to be run. -/
def shareLaw (config : PostinstallConfig) (plan : InstallPlan) (past : List (Event α)) :
    Event α → Prop
  | .asked ⟨.progress share, _⟩ => ∃ x, share = shareAt plan (standing config plan past) x ∧
      ((Ledger.ofRecord past).alive = [] → x = ProgressNumber.zero)
  | .asked ⟨.complete c, _⟩ => c.isSuccess = true → plan.downloadUrl ≠ "" →
      StartedIdle plan (sharesOf past) plan.partitions.length
  | _ => True

/-- What was reported last, given where the attempt has come to. -/
def ReportedLast (plan : InstallPlan) (shares : List α) : Post → Prop
  | .toward i => StartedIdle plan shares i
  | .inside i => ∀ p, plan.partitions[i]? = some p → runsUnder plan p = false →
      StartedIdle plan shares i
  | .hearing i _ _ => ∃ p, plan.partitions[i]? = some p ∧ runsUnder plan p = true
  | .opening | .finished => True

/-- A partition that is not to be run may be passed over. -/
theorem StartedIdle.pass {shares : List α} {i : Nat} {p : Partition}
    (h : StartedIdle plan shares i) (hcurrent : plan.partitions[i]? = some p)
    (hidle : runsUnder plan p = false) : StartedIdle plan shares (i + 1) := by
  obtain ⟨k, hlast, hnone⟩ := h
  refine ⟨k, hlast, fun j q hk hj hq => ?_⟩
  rcases Nat.lt_succ_iff_lt_or_eq.mp hj with hlt | rfl
  · exact hnone j q hk hlt hq
  · obtain rfl := Option.some.inj (hcurrent.symm.trans hq)
    exact hidle

/-- The start of a partition was reported. -/
theorem startedIdle_concat (shares : List α) (i : Nat) :
    StartedIdle plan (shares ++ [shareAt plan i ProgressNumber.zero]) i :=
  ⟨i, List.getLast?_concat, fun _ _ hk hj _ => absurd hk (Nat.not_le.mpr hj)⟩

/-- What is no news is neither a report nor a result. -/
theorem keeps_shareLaw_of_aside {xs : List (Exchange α)} (h : Aside xs) (past : List (Event α)) :
    Keeps (shareLaw config plan) past (xs.map .asked) := by
  apply Keeps.of_forall
  refine h.forall_asked ?_
  rintro ⟨request, reply⟩ hnews past
  cases request with
  | progress => cases hnews
  | complete => cases hnews
  | _ => trivial

/-- An event that ends a program is neither a report nor a result. -/
theorem shareLaw_of_ends {e : Event α} {pid : Pid} (h : e.ends pid = true)
    (past : List (Event α)) : shareLaw config plan past e := by
  cases e with
  | called c => trivial
  | asked x =>
    obtain ⟨request, reply⟩ := x
    cases request with
    | progress => cases h
    | complete => cases h
    | _ => trivial

/-- What the lines of the program of a partition tell is reported of that partition. -/
theorem keeps_shareLaw_reports {past : List (Event α)} {i : Nat}
    (hvisits : VisitsAt config plan (past.countP isMounting) (.inside i))
    (halive : (Ledger.ofRecord past).alive ≠ []) (numbers : List α) :
    Keeps (shareLaw config plan) past ((numbers.map (told plan i)).map .asked) := by
  induction numbers generalizing past with
  | nil => trivial
  | cons number rest ih =>
    refine ⟨⟨number, ?_, fun hnone => absurd hnone halive⟩, ih ?_ ?_⟩
    · rw [standing_hearing hvisits halive]
    · rw [List.countP_append]
      exact hvisits
    · rw [Ledger.ofRecord_append]
      exact halive

/-- Along a tale the law of reports is kept. -/
theorem Tale.shares (h : Tale config plan es post) :
    Keeps (shareLaw config plan) [] es ∧ ReportedLast plan (sharesOf es) post := by
  induction h with
  | @opens before c hsilent _ =>
    refine ⟨Keeps.of_forall fun e he past => ?_, trivial⟩
    rcases List.mem_append.mp he with he | he
    · cases e with
      | called => trivial
      | asked x => exact absurd he (Event.not_mem_of_silent hsilent x)
    · obtain rfl := List.mem_singleton.mp he
      trivial
  | @noted es _ _ c _ ih =>
    obtain ⟨hlaw, hlast⟩ := ih
    have hsame : sharesOf (es ++ [.called c]) = sharesOf es := by
      rw [sharesOf_append]
      exact List.append_nil _
    rw [hsame]
    exact ⟨(keeps_append _ _).mpr ⟨hlaw, trivial, trivial⟩, hlast⟩
  | aside _ hxs ih =>
    obtain ⟨hlaw, hlast⟩ := ih
    obtain ⟨-, -, hshares, -⟩ := silent_of_aside hxs
    rw [sharesOf_append, hshares, List.append_nil]
    exact ⟨(keeps_append _ _).mpr ⟨hlaw, keeps_shareLaw_of_aside hxs _⟩, hlast⟩
  | @sets es htale ih =>
    obtain ⟨hlaw, -⟩ := ih
    have hstanding : standing config plan es = 0 := standing_opening htale.visits
    rw [sharesOf_append]
    refine ⟨(keeps_append _ _).mpr ⟨hlaw, ⟨ProgressNumber.zero, ?_, fun _ => rfl⟩, trivial⟩,
      startedIdle_concat _ _⟩
    rw [List.nil_append, hstanding]
  | skips _ hcurrent hidle _ ih =>
    obtain ⟨hlaw, hlast⟩ := ih
    exact ⟨hlaw, hlast.pass hcurrent hidle⟩
  | @comes es _ p _ _ _ options ih =>
    obtain ⟨hlaw, hlast⟩ := ih
    have hsame : sharesOf (es ++ [.asked ⟨.mountOptions p.name, options⟩]) = sharesOf es := by
      rw [sharesOf_append]
      exact List.append_nil _
    rw [hsame]
    exact ⟨(keeps_append _ _).mpr ⟨hlaw, trivial, trivial⟩, fun _ _ _ => hlast⟩
  | probed _ hcurrent hidle ih =>
    obtain ⟨hlaw, hlast⟩ := ih
    exact ⟨hlaw, (hlast _ hcurrent hidle).pass hcurrent hidle⟩
  | starts _ hcurrent hruns _ _ ih =>
    obtain ⟨hlaw, -⟩ := ih
    exact ⟨(keeps_append _ _).mpr ⟨hlaw, trivial, trivial⟩, _, hcurrent, hruns⟩
  | @hears es i pid heard lines htale once reads _ ih =>
    obtain ⟨hlaw, hruns⟩ := ih
    refine ⟨(keeps_append _ _).mpr ⟨hlaw, trivial, ?_⟩, hruns⟩
    let read : Event α := .asked ⟨.readStatus pid once, reads⟩
    have hvisits : VisitsAt config plan ((es ++ [read]).countP isMounting) (.inside i) := by
      rw [List.countP_append]
      exact htale.visits
    have halive : (Ledger.ofRecord (es ++ [read])).alive ≠ [] := by
      have hpid : (Ledger.ofRecord es).alive = [pid] := htale.alive
      rw [Ledger.ofRecord_append]
      show (Ledger.ofRecord es).alive ≠ []
      rw [hpid]
      exact List.cons_ne_nil pid []
    exact keeps_shareLaw_reports hvisits halive _
  | ends _ hends ih =>
    obtain ⟨hlaw, q, hq, hruns⟩ := ih
    refine ⟨(keeps_append _ _).mpr ⟨hlaw, shareLaw_of_ends hends _, trivial⟩, fun p hp hidle => ?_⟩
    obtain rfl := Option.some.inj (hq.symm.trans hp)
    rw [hruns] at hidle
    cases hidle
  | @leaves es i htale ih =>
    obtain ⟨hlaw, -⟩ := ih
    have hstanding : standing config plan es = i + 1 := standing_inside htale.visits htale.alive
    rw [sharesOf_append]
    refine ⟨(keeps_append _ _).mpr ⟨hlaw, ⟨ProgressNumber.zero, ?_, fun _ => rfl⟩, trivial⟩,
      startedIdle_concat _ _⟩
    rw [List.nil_append, hstanding]
  | @finishes es i _ hpast c ih =>
    obtain ⟨hlaw, k, hlast, hnone⟩ := ih
    refine ⟨(keeps_append _ _).mpr ⟨hlaw, fun _ hsource => ?_, trivial⟩, trivial⟩
    rw [List.nil_append]
    refine ⟨k, hlast, fun j p hk hj hp => hnone j p hk ?_ hp⟩
    have hend := List.getElem?_eq_none_iff.mp (hpast.resolve_right hsource)
    omega
  | fails _ _ hfailure ih =>
    obtain ⟨hlaw, -⟩ := ih
    refine ⟨(keeps_append _ _).mpr ⟨hlaw, fun hsuccess => ?_, trivial⟩, trivial⟩
    rw [hfailure] at hsuccess
    cases hsuccess

/-- While a program runs an attempt stands where its runner does. -/
theorem Told.standing {r : Runner} (h : Told config (some plan) es r) {c : RunningChild}
    (hc : r.child = some c) : standing config plan es = r.cursor := by
  cases h with
  | begun htells =>
    obtain ⟨heard, htale, -, -⟩ := htells.hearing hc
    have halive : (Ledger.ofRecord es).alive = [c.pid] := htale.alive
    apply standing_hearing htale.visits
    rw [halive]
    exact List.cons_ne_nil c.pid []

end

/-! ## Exact shares -/

section

variable [LiteralReading] {config : PostinstallConfig} {plan : InstallPlan}

/-- What a record reports is in proportion to the partitions of a plan that are to be run. -/
structure MeasuresProgress (config : PostinstallConfig) (plan : InstallPlan)
    (es : List (Event ExactNumber)) : Prop where
  /-- Every report is in proportion, at the partition at which the attempt stands. -/
  proportionate : ∀ past share reply rest, es = past ++ .asked ⟨.progress share, reply⟩ :: rest →
    ∃ q, share = .fraction q ∧ Proportionate plan (standing config plan past) q
  /-- Reports that are sent when no program runs, since a partition starts, do not decrease. -/
  rises : ∀ past share reply rest past' share' reply' rest',
    es = past ++ .asked ⟨.progress share, reply⟩ :: rest →
    es = past' ++ .asked ⟨.progress share', reply'⟩ :: rest' → past <+: past' →
    (Ledger.ofRecord past).alive = [] → (Ledger.ofRecord past').alive = [] →
    ∃ q q', share = .fraction q ∧ share' = .fraction q' ∧ q ≤ q'
  /-- Before a success at a plan with a source one was reported last. -/
  completes : ∀ past c reply rest, es = past ++ .asked ⟨.complete c, reply⟩ :: rest →
    c.isSuccess = true → plan.downloadUrl ≠ "" → (sharesOf past).getLast? = some (.fraction 1)

/-- A tale measures progress. -/
theorem Tale.measures {es : List (Event ExactNumber)} {post : Post}
    (h : Tale config plan es post) (hsize : plan.partitions.length < 2 ^ 64) :
    MeasuresProgress config plan es := by
  obtain ⟨hlaw, -⟩ := h.shares
  refine ⟨?_, ?_, ?_⟩
  · intro past share reply rest hes
    obtain ⟨x, rfl, -⟩ := hlaw.of_split hes
    exact shareAt_proportionate hsize _ x
  · intro past share reply rest past' share' reply' rest' hes hes' hprefix halive halive'
    obtain ⟨x, rfl, hzero⟩ := hlaw.of_split hes
    obtain ⟨x', rfl, hzero'⟩ := hlaw.of_split hes'
    rw [hzero halive, hzero' halive', shareAt_zero hsize, shareAt_zero hsize]
    exact ⟨_, _, rfl, rfl, portion_mono plan (standing_mono hprefix halive halive')⟩
  · intro past c reply rest hes hsuccess hsource
    obtain ⟨k, hlast, hnone⟩ := hlaw.of_split hes hsuccess hsource
    have hidle : ∀ j p, k ≤ j → plan.partitions[j]? = some p → runsUnder plan p = false := by
      intro j p hk hp
      obtain ⟨hlt, -⟩ := List.getElem?_eq_some_iff.mp hp
      exact hnone j p hk hlt hp
    rw [hlast, shareAt_zero hsize, portion_of_idle hidle]

/-- The record of a runner whose attempt was started measures progress. -/
theorem Told.measures {es : List (Event ExactNumber)} {r : Runner}
    (h : Told config (some plan) es r) (hsize : plan.partitions.length < 2 ^ 64) :
    MeasuresProgress config plan es := by
  cases h with
  | begun htells =>
    obtain ⟨post, htale, -⟩ := htells
    exact htale.measures hsize

/-- In every run what is reported is in proportion to the partitions that are to be run, whatever
the programs tell, and whether or not the runner is given up afterwards. While a program runs the
record stands where the runner does. No plan that fits in memory has more partitions than there are
words. -/
theorem progress_in_proportion (config : PostinstallConfig) (cs : List RunnerCall)
    (p : Platform ExactNumber σ) (s : σ) (hplan : RunnerCall.firstPlan cs = some plan)
    (hsize : plan.partitions.length < 2 ^ 64) :
    MeasuresProgress config plan (record p (new config) cs s) ∧
      MeasuresProgress config plan (lifetimeRecord config cs p s) ∧
      ∀ c, (afterCalls config cs p s).result.child = some c →
        standing config plan (record p (new config) cs s) =
          (afterCalls config cs p s).result.cursor := by
  have htold := afterCalls_told config cs p s
  have hlifetime := lifetime_told config cs p s
  rw [hplan] at htold hlifetime
  exact ⟨htold.measures hsize, hlifetime.measures hsize, fun c hc => htold.standing hc⟩

end

/-- Calls that carry the rehearsed update out, with programs that are read and succeed. -/
def rehearsedSuccess : List RunnerCall :=
  [.perform rehearsedPlan, .readable, .exited 7 0, .readable, .exited 8 0]

/-- What the rehearsed update reports is in proportion to its two partitions, when its programs tell
of a half, of infinity, and of more than all. -/
theorem rehearsed_in_proportion :
    letI := LiteralReading.written
    let status := "global_progress 0.5\nglobal_progress inf\nglobal_progress 7\n"
    let p : Platform ExactNumber (Spot × Unit) :=
      rehearsedOutcomes.platform (speaking [.data status.toUTF8.toList])
    let s := (Spot.start .default rehearsedPlan, ())
    RunnerCall.firstPlan rehearsedSuccess = some rehearsedPlan ∧
      rehearsedPlan.partitions.length < 2 ^ 64 ∧
      MeasuresProgress .default rehearsedPlan (record p (new .default) rehearsedSuccess s) ∧
      MeasuresProgress .default rehearsedPlan (lifetimeRecord .default rehearsedSuccess p s) := by
  let : LiteralReading := .written
  intro status p s
  have hplan : RunnerCall.firstPlan rehearsedSuccess = some rehearsedPlan := rfl
  have hsize : rehearsedPlan.partitions.length < 2 ^ 64 := by decide
  obtain ⟨hrecord, hlifetime, -⟩ :=
    progress_in_proportion .default rehearsedSuccess p s hplan hsize
  exact ⟨hplan, hsize, hrecord, hlifetime⟩

end SlotUpdate.Runner
