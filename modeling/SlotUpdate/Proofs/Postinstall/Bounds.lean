import SlotUpdate.Proofs.Postinstall.Calls

/-!
# Calls end soon

How many exchanges a call can take. Every step takes a constant number at most, and the way through
the partitions takes at most fifteen for each partition that is left, so that neither the start of
an attempt nor the exit of a program can go on forever, however the partitions of the plan are
mixed.
-/

namespace SlotUpdate.Runner

variable {α : Type}

/-! ## Single steps -/

/-- Unmounting takes one exchange. -/
theorem Unmounts.length_le {held : Option ScopedMount} {xs : List (Exchange α)}
    (h : Unmounts held xs) : xs.length ≤ 1 := by
  rw [← List.length_map (·.request), h]
  cases held with
  | none => simp
  | some m => simp

/-- The switch of slots takes four exchanges. -/
theorem Settles.length_le {plan : InstallPlan} {code c : ErrorCode} {xs : List (Exchange α)}
    (h : Settles plan code xs c) : xs.length ≤ 4 := by
  unfold Settles at h
  split at h
  · split at h
    · cases h <;> simp
    · simp [h.1]
  · simp [h.1]

/-- Taking a powerwash back takes one exchange. -/
theorem TakesBack.length_le {r : Runner} {c : ErrorCode} {xs : List (Exchange α)}
    (h : TakesBack r c xs) : xs.length ≤ 1 := by
  rw [← List.length_map (·.request), h]
  split
  · simp
  · simp

/-- The end of an attempt takes seven exchanges. -/
theorem Ends.length_le {r r' : Runner} {code : ErrorCode} {xs : List (Exchange α)}
    (h : Ends r code xs r') : xs.length ≤ 7 := by
  cases h with
  | intro hus hss hps =>
    have hus' := hus.length_le
    have hss' := hss.length_le
    have hps' := hps.length_le
    simp only [List.length_append, List.length_singleton]
    omega

/-- Finding out whether a path is free takes two exchanges. -/
theorem Clears.length_le {mountPoint : Path} {xs : List (Exchange α)}
    {outcome : Except MountError Unit} (h : Clears mountPoint xs outcome) : xs.length ≤ 2 := by
  cases h <;> simp

/-- Mounting a partition takes seven exchanges. -/
theorem Mounts.length_le {r : Runner} {p : Partition} {xs : List (Exchange α)}
    {outcome : Except MountError ScopedMount} (h : Mounts r p xs outcome) : xs.length ≤ 7 := by
  cases h with
  | intro hacquires =>
    cases hacquires with
    | noDevice => simp
    | noDirectory => simp
    | blocked hclears =>
      have hcs := hclears.length_le
      simp
      omega
    | writable _ hclears =>
      have hcs := hclears.length_le
      simp
      omega
    | refused _ hclears =>
      have hcs := hclears.length_le
      simp
      omega
    | mounted hclears =>
      have hcs := hclears.length_le
      simp
      omega

/-- Looking for build properties takes one exchange for each file. -/
theorem Inspects.length_eq {r : Runner} {xs : List (Exchange α)} (h : Inspects r xs) :
    xs.length = 3 := by
  rw [← List.length_map (·.request), h]
  rfl

/-- Starting a program takes three exchanges. -/
theorem Launches.length_le {r : Runner} {program : Path} {xs : List (Exchange α)}
    {out : Runner × Bool} (h : Launches r program xs out) : xs.length ≤ 3 := by
  cases h <;> simp

/-- Mapping partitions takes two exchanges. -/
theorem Maps.length_le {r : Runner} {xs : List (Exchange α)} {outcome : Except BootError Unit}
    (h : Maps r xs outcome) : xs.length ≤ 2 := by
  cases h <;> simp

/-! ## Partitions -/

variable [ProgressNumber α]

/-- The end of a partition takes two exchanges if the attempt goes on, and eight if it ends. -/
theorem Leaves.length_le {r r' : Runner} {p : Partition} {code : Int} {xs : List (Exchange α)}
    {goesOn : Bool} (h : Leaves r p code xs (r', goesOn)) :
    xs.length ≤ if goesOn then 2 else 8 := by
  cases h with
  | goesOn _ hus =>
    have hus' := hus.length_le
    simp
    omega
  | ends _ _ hus hends =>
    have hus' := hus.length_le
    have hends' := hends.length_le
    simp
    omega

/-- A partition takes fifteen exchanges if the attempt goes on without its program, and twenty-two
if it stops there. -/
theorem Enters.length_le {r r' : Runner} {p : Partition} {xs : List (Exchange α)} {goesOn : Bool}
    (h : Enters r p xs (r', goesOn)) : xs.length ≤ if goesOn then 15 else 22 := by
  cases h with
  | skips => simp
  | probes _ _ hmounts his =>
    have hms := hmounts.length_le
    have his' := his.length_eq
    simp
    omega
  | sticks _ _ _ hmounts his hleaves =>
    have hms := hmounts.length_le
    have his' := his.length_eq
    have hls := hleaves.length_le
    simp only [List.length_append, List.length_singleton]
    cases goesOn with
    | true =>
      simp only [if_true] at hls ⊢
      omega
    | false =>
      simp only [Bool.false_eq_true, if_false] at hls ⊢
      omega
  | misplaced _ _ hends =>
    have hxs := hends.length_le
    simp
    omega
  | unmountable _ _ hmounts hends =>
    have hms := hmounts.length_le
    have hxs := hends.length_le
    simp
    omega
  | starts _ _ hmounts his hls =>
    have hms := hmounts.length_le
    have his' := his.length_eq
    have hls' := hls.length_le
    simp
    omega
  | fails _ _ hmounts his hls hleaves =>
    have hms := hmounts.length_le
    have his' := his.length_eq
    have hls' := hls.length_le
    have hxs := hleaves.length_le
    simp only [List.length_append]
    cases goesOn with
    | true =>
      simp only [if_true] at hxs ⊢
      omega
    | false =>
      simp only [Bool.false_eq_true, if_false] at hxs ⊢
      omega

/-- The partitions from the current one on. -/
def remaining (r : Runner) : Nat := r.plan.partitions.length - r.cursor

omit [ProgressNumber α] in
/-- The current partition is among those that are left. -/
theorem remaining_pos {r : Runner} {p : Partition} (hcurrent : r.partition? = some p) :
    0 < r.remaining := by
  obtain ⟨hlt, -⟩ := List.getElem?_eq_some_iff.mp hcurrent
  unfold remaining
  omega

omit [ProgressNumber α] in
/-- One partition further, one is left less. -/
theorem Further.remaining {r r' : Runner} (h : Further r r') {p : Partition}
    (hcurrent : r.partition? = some p) : r'.remaining + 1 = r.remaining := by
  obtain ⟨hlt, -⟩ := List.getElem?_eq_some_iff.mp hcurrent
  unfold Runner.remaining
  rw [h.plan, h.cursor]
  omega

/-- The way through the partitions takes fifteen exchanges for each that is left, and seven for the
end. -/
theorem Proceeds.length_le {r r' : Runner} {xs : List (Exchange α)} (h : Proceeds r xs r') :
    xs.length ≤ 15 * r.remaining + 7 := by
  induction h with
  | sourceless _ hends =>
    have hxs := hends.length_le
    omega
  | finishes _ _ hends =>
    have hxs := hends.length_le
    omega
  | passes _ hcurrent henters _ ih =>
    have hxs := henters.length_le
    have hfurther := henters.further.remaining hcurrent
    simp only [if_true] at hxs
    rw [List.length_append]
    omega
  | @stops r _ _ _ _ hcurrent henters =>
    have hxs := henters.length_le
    have hleft := remaining_pos hcurrent
    simp only [Bool.false_eq_true, if_false] at hxs
    omega

/-! ## Calls -/

/-- The exit of a program takes at most as much as the partitions that are left. -/
theorem GoesOn.length_le {r r' : Runner} {p : Partition} {code : Int} {ls xs : List (Exchange α)}
    {out : Runner × Bool} (h : GoesOn out xs r') (hleaves : Leaves r p code ls out)
    (hcurrent : r.partition? = some p) : (ls ++ xs).length ≤ 15 * r.remaining + 7 := by
  obtain ⟨r₁, goesOn⟩ := out
  have hls := hleaves.length_le
  cases goesOn with
  | true =>
    have hxs := Proceeds.length_le h
    have hfurther := hleaves.further.remaining hcurrent
    simp only [if_true] at hls
    rw [List.length_append]
    omega
  | false =>
    obtain ⟨rfl, rfl⟩ := h
    have hleft := remaining_pos hcurrent
    simp only [Bool.false_eq_true, if_false] at hls
    rw [List.append_nil]
    omega

/-- The beginning of an attempt takes fifteen exchanges for each partition, and eleven more. -/
theorem Begins.length_le {r r' : Runner} {xs : List (Exchange α)} (h : Begins r xs r') :
    xs.length ≤ 15 * r.plan.partitions.length + 11 := by
  have hremaining : r.atFirstPartition.remaining = r.plan.partitions.length := by
    simp [remaining, atFirstPartition, withoutSkipped]
  have hremaining' : r.scheduled.atFirstPartition.remaining = r.plan.partitions.length :=
    hremaining
  cases h with
  | unmapped hmaps hends =>
    have hms := hmaps.length_le
    have hxs := hends.length_le
    rw [List.length_append]
    omega
  | unscheduled _ hmaps _ hends =>
    have hms := hmaps.length_le
    have hxs := hends.length_le
    simp only [List.length_append, List.length_singleton]
    omega
  | plain hmaps _ hproceeds =>
    have hms := hmaps.length_le
    have hxs := hproceeds.length_le
    simp only [List.length_append, List.length_singleton]
    omega
  | scheduled hmaps _ hproceeds =>
    have hms := hmaps.length_le
    have hxs := hproceeds.length_le
    simp only [List.length_append, List.length_singleton]
    omega

/-- The start of an attempt takes fifteen exchanges for each partition of the plan, and eleven more.
A runner that refuses to start takes none. -/
theorem call_perform_length_le {start : Option InstallPlan} {r : Runner} (h : Stable start r)
    (plan : InstallPlan) :
    (r.call (.perform plan) : Action α _).Ensures fun xs _ =>
      xs.length ≤ 15 * plan.partitions.length + 11 := by
  refine (perform_ensures h plan).bind ?_
  rintro xs _ (⟨-, rfl, rfl⟩ | ⟨-, r', rfl, hbegins⟩)
  · exact Nat.zero_le _
  · have hlength := hbegins.length_le
    simpa [Runner.started, planned] using hlength

/-- The exit of a program takes fifteen exchanges for each partition that is left, and seven more.
The exit of any other program than the current one takes none. -/
theorem call_exited_length_le {start : Option InstallPlan} {r : Runner} (h : Stable start r)
    (pid : Pid) (code : Int) :
    (r.call (.exited pid code) : Action α _).Ensures fun xs _ =>
      xs.length ≤ 15 * r.remaining + 7 := by
  by_cases hchild : r.childPid = some pid
  · refine (onExited_ensures h hchild code).bind ?_
    rintro _ r' ⟨p, ls, ys, out, rfl, hcurrent, hls, hys⟩
    have hlength := hys.length_le hls hcurrent
    simpa using hlength
  · simp only [call, onExited, if_neg hchild]
    exact Nat.zero_le _

end SlotUpdate.Runner
