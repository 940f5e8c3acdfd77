import SlotUpdate.Proofs.Postinstall.Calls

/-!
# What settles nothing

Only the end of an attempt asks for a change of slots or delivers a result. Every other step of an
attempt is `Quiet`: its exchanges settle nothing, whatever the replies are.
-/

namespace SlotUpdate

variable {α : Type}

/-- A request that settles an attempt: it is about the slots, or it delivers the result. -/
@[simp]
def Request.settles : Request α → Bool
  | .finishUpdate _ | .setActive _ | .warmReset _ | .vbmetaDigest _ | .complete _ => true
  | _ => false

/-- Nothing is settled in exchanges. -/
def Quiet (xs : List (Exchange α)) : Prop := ∀ x ∈ xs, x.request.settles = false

namespace Quiet

/-- No exchange settles nothing. -/
@[simp]
theorem nil : Quiet ([] : List (Exchange α)) := fun _ hx => nomatch hx

/-- The first of several exchanges settles nothing, nor do the others. -/
@[simp]
theorem cons_iff (x : Exchange α) (xs : List (Exchange α)) :
    Quiet (x :: xs) ↔ x.request.settles = false ∧ Quiet xs := by
  unfold Quiet
  exact List.forall_mem_cons

/-- Exchanges after exchanges settle nothing if both do not. -/
@[simp]
theorem append_iff (xs ys : List (Exchange α)) : Quiet (xs ++ ys) ↔ Quiet xs ∧ Quiet ys := by
  unfold Quiet
  exact List.forall_mem_append

/-- Whether exchanges settle something depends on the requests only. -/
theorem of_requests {xs : List (Exchange α)} {qs : List (Request α)}
    (h : xs.map (·.request) = qs) (hqs : ∀ q ∈ qs, q.settles = false) : Quiet xs := by
  intro x hx
  apply hqs
  rw [← h]
  exact List.mem_map_of_mem hx

end Quiet

namespace Runner

/-! ## Steps -/

/-- Unmounting settles nothing. -/
theorem Unmounts.quiet {held : Option ScopedMount} {xs : List (Exchange α)}
    (h : Unmounts held xs) : Quiet xs := by
  apply Quiet.of_requests h
  cases held with
  | none => simp
  | some m => simp

/-- Taking a powerwash back settles nothing. -/
theorem TakesBack.quiet {r : Runner} {c : ErrorCode} {xs : List (Exchange α)}
    (h : TakesBack r c xs) : Quiet xs := by
  apply Quiet.of_requests h
  split
  · simp
  · simp

/-- Finding out whether a path is free settles nothing. -/
theorem Clears.quiet {mountPoint : Path} {xs : List (Exchange α)} {outcome : Except MountError Unit}
    (h : Clears mountPoint xs outcome) : Quiet xs := by
  cases h with
  | free => simp
  | cleared => simp
  | unknown => simp
  | stuck => simp

/-- Mounting settles nothing. -/
theorem Mounts.quiet {r : Runner} {p : Partition} {xs : List (Exchange α)}
    {outcome : Except MountError ScopedMount} (h : Mounts r p xs outcome) : Quiet xs := by
  cases h with
  | intro hacquires =>
    cases hacquires with
    | noDevice => simp
    | noDirectory => simp
    | blocked hclears => simp [hclears.quiet]
    | writable _ hclears => simp [hclears.quiet]
    | refused _ hclears => simp [hclears.quiet]
    | mounted hclears => simp [hclears.quiet]

/-- Looking for build properties settles nothing. -/
theorem Inspects.quiet {r : Runner} {xs : List (Exchange α)} (h : Inspects r xs) : Quiet xs := by
  apply Quiet.of_requests h
  simp

/-- Starting a program settles nothing. -/
theorem Launches.quiet {r : Runner} {program : Path} {xs : List (Exchange α)} {out : Runner × Bool}
    (h : Launches r program xs out) : Quiet xs := by
  cases h with
  | refused => simp
  | invalid => simp
  | runs => simp

/-- Ending a program settles nothing. -/
theorem Kills.quiet {r killed : Runner} {xs : List (Exchange α)} (h : Kills r xs killed) :
    Quiet xs := by
  cases h with
  | nothing => simp
  | going => simp
  | resumed => simp
  | stuck => simp

/-- Mapping partitions settles nothing. -/
theorem Maps.quiet {r : Runner} {xs : List (Exchange α)} {outcome : Except BootError Unit}
    (h : Maps r xs outcome) : Quiet xs := by
  cases h with
  | needless => simp
  | asks => simp

/-- Unmapping partitions settles nothing. -/
theorem Unmaps.quiet {r : Runner} {xs : List (Exchange α)} (h : Unmaps r xs) : Quiet xs := by
  apply Quiet.of_requests h
  split
  · simp
  · simp

/-- A wait settles nothing. -/
theorem Waits.quiet {x : Exchange α} {pid : Pid} (h : x.Waits pid) : Quiet [x] := by
  rcases h with ⟨_, rfl⟩ | rfl | rfl | ⟨_, rfl | rfl⟩ <;> simp

variable [ProgressNumber α]

/-- Reports of progress settle nothing. -/
theorem quiet_reports (r : Runner) (lines : List String) :
    Quiet (r.reports lines : List (Exchange α)) := by
  intro x hx
  unfold reports at hx
  obtain ⟨line, -, hline⟩ := List.mem_filterMap.mp hx
  obtain ⟨literal, -, rfl⟩ := Option.map_eq_some_iff.mp hline
  rfl

/-- Leaving a partition in a way that goes on settles nothing. -/
theorem Leaves.quiet {r r' : Runner} {p : Partition} {code : Int} {xs : List (Exchange α)}
    (h : Leaves r p code xs (r', true)) : Quiet xs := by
  cases h with
  | goesOn _ hus => simp [hus.quiet, reported]

end Runner

end SlotUpdate
