import SlotUpdate.Proofs.Postinstall.Shape

/-!
# Outcomes of attempts

An assignment of outcomes fixes beforehand how every step of an attempt turns out: mapping, the
powerwash, the switch of slots, and for each partition of the plan mounting, starting, exiting and
unmounting. `Outcomes.reference` is the result that the attempt is to have, as a fold over the
partitions from left to right.

`Outcomes.Agrees` says that the replies in a list of exchanges are those that are assigned. Replies
that nothing is assigned to may be anything. Which partition an exchange is about is told by a
`Spot`, which moves on each time that options for mounting are looked up. Every assignment has a
platform that agrees with it (`Outcomes.agrees_platform`).
-/

namespace SlotUpdate

open Runner

variable {α β σ : Type}

/-- How the steps of a partition turn out. -/
structure PartitionOutcome where
  /-- Whether a path names something when the partition is to be mounted. -/
  present : Path → Bool
  /-- Whether something is mounted in the way, if that can be found out. -/
  stale : Except SystemError Bool
  /-- Unmounting what is in the way. -/
  staleUnmount : Except SystemError Unit
  /-- Making the device read-only. -/
  readonly : Except SystemError Unit
  /-- Mounting the device. -/
  mount : Except SystemError Unit
  /-- Unmounting the partition. -/
  unmount : Except SystemError Unit
  /-- Starting the program. -/
  launch : Except SystemError Pid
  /-- The exit code of the program. -/
  exit : Int

/-- How the steps of an attempt turn out. -/
structure Outcomes where
  /-- Whether partitions that share space use snapshots. -/
  virtualAb : Bool
  /-- Mapping them. -/
  mapping : Except BootError Unit
  /-- Asking for a powerwash. -/
  powerwash : Except BootError Unit
  /-- The steps of each partition, by its place in the plan. -/
  partition : Nat → PartitionOutcome
  /-- Committing the update of the partitions. -/
  finish : Except BootError Unit
  /-- Making the written slot the active one. -/
  activation : Except BootError Unit

namespace PartitionOutcome

/-- Whether the mount directory gets free. -/
def clears (o : PartitionOutcome) : Bool :=
  match o.stale with
  | .error _ => false
  | .ok false => true
  | .ok true => o.staleUnmount.isOk

/-- Whether a device gets mounted. -/
def mounts (o : PartitionOutcome) (device mountPoint : Path) : Bool :=
  o.present device && o.present mountPoint && o.clears && o.readonly.isOk && o.mount.isOk

/-- Whether the program starts. -/
def starts (o : PartitionOutcome) : Bool :=
  match o.launch with
  | .error _ => false
  | .ok pid => decide (0 < pid)

end PartitionOutcome

/-- A failure at a partition counts unless it is ignored there. -/
def Partition.failure? (p : Partition) (code : ErrorCode) : Option ErrorCode :=
  if p.optional then none else some code

namespace Outcomes

/-! ## The reference -/

/-- The code that a partition ends the attempt with, if it does. -/
def verdict? (o : Outcomes) (config : PostinstallConfig) (plan : InstallPlan) (i : Nat)
    (p : Partition) : Option ErrorCode :=
  let q := o.partition i
  if runsUnder plan p then
    if (programPath config.mountDir p.program).isOk then
      if q.mounts p.readonlyTarget config.mountDir then
        if q.starts then
          if q.exit = 0 then none else p.failure? (.ofExitCode q.exit)
        else p.failure? .postinstallRunnerError
      else some .postInstallMountError
    else some .postinstallInvalidPath
  else if p.program = "" then none
  else if q.mounts p.readonlyTarget config.mountDir then
    if q.unmount.isOk then none else p.failure? .postinstallRunnerError
  else some .postInstallMountError

/-- The result of an attempt that gets past all partitions. -/
def settled (o : Outcomes) (plan : InstallPlan) : ErrorCode :=
  if plan.switchSlot then
    if o.finish.isOk && o.activation.isOk then .success else .postinstallRunnerError
  else .updatedButNotActive

/-- The result of an attempt that ends with a code: success still depends on the switch of slots. -/
def ending (o : Outcomes) (plan : InstallPlan) (code : ErrorCode) : ErrorCode :=
  if code = .success then o.settled plan else code

/-- The result of an attempt from a partition on: the first verdict, or that of the end. -/
def fold (o : Outcomes) (config : PostinstallConfig) (plan : InstallPlan) :
    Nat → List Partition → ErrorCode
  | _, [] => o.settled plan
  | i, p :: ps => (o.verdict? config plan i p).getD (o.fold config plan (i + 1) ps)

/-- Whether the partitions that share space are to be mapped and cannot be. -/
def failsToMap (o : Outcomes) (config : PostinstallConfig) (plan : InstallPlan) : Bool :=
  o.virtualAb && !config.recovery && (!plan.partitions.isEmpty || plan.switchSlot) &&
    !o.mapping.isOk

/-- The result of an attempt. -/
def reference (o : Outcomes) (config : PostinstallConfig) (plan : InstallPlan) : ErrorCode :=
  if o.failsToMap config plan then .postInstallMountError
  else if plan.powerwashRequired && !o.powerwash.isOk then .postinstallPowerwashError
  else if plan.downloadUrl = "" then o.settled plan
  else o.fold config plan 0 plan.partitions

/-! ## Agreement -/

end Outcomes

/-- Whether an attempt mounts a partition when it gets there. -/
def isMounted (config : PostinstallConfig) (plan : InstallPlan) (p : Partition) : Bool :=
  if runsUnder plan p then (programPath config.mountDir p.program).isOk else p.program != ""

/-- A partition that an attempt wants to mount and cannot ends it. -/
theorem Outcomes.verdict?_of_not_mounts {o : Outcomes} {config : PostinstallConfig}
    {plan : InstallPlan} {i : Nat} {p : Partition} (hmounted : isMounted config plan p = true)
    (hfails : (o.partition i).mounts p.readonlyTarget config.mountDir = false) :
    o.verdict? config plan i p = some .postInstallMountError := by
  unfold isMounted at hmounted
  unfold verdict?
  split at hmounted
  · rename_i hruns
    rw [if_pos hruns, if_pos hmounted, hfails]
    rfl
  · rename_i hidle
    rw [if_neg hidle, if_neg (bne_iff_ne.mp hmounted), hfails]
    rfl

/-- The places of the partitions that an attempt mounts, from a place on. -/
def mountedPlaces (config : PostinstallConfig) (plan : InstallPlan) :
    Nat → List Partition → List Nat
  | _, [] => []
  | i, p :: ps =>
    if isMounted config plan p then i :: mountedPlaces config plan (i + 1) ps
    else mountedPlaces config plan (i + 1) ps

/-- Where in the plan an attempt is, as its exchanges tell. -/
structure Spot where
  /-- The place of the partition that was mounted last. -/
  place : Nat
  /-- The places of the partitions that are to be mounted. -/
  ahead : List Nat
  /-- Whether a partition is mounted. -/
  held : Bool
  deriving Repr, DecidableEq

/-- The spot at the beginning of an attempt. -/
def Spot.start (config : PostinstallConfig) (plan : InstallPlan) : Spot :=
  ⟨0, mountedPlaces config plan 0 plan.partitions, false⟩

namespace Outcomes

/-- The spot after a request. -/
def after (o : Outcomes) (t : Spot) : Request α → Spot
  | .mountOptions _ => { t with place := t.ahead.headD t.place, ahead := t.ahead.tail }
  | .mount _ _ _ _ => { t with held := (o.partition t.place).mount.isOk }
  | .unmount _ => { t with held := false }
  | _ => t

/-- The assigned reply to a request, or else the given one. Programs can always be waited for, and
none exits with another code than its own. -/
def answer (o : Outcomes) (t : Spot) : (q : Request α) → q.Reply → q.Reply
  | .isVirtualAb, _ => o.virtualAb
  | .mapAll, _ => o.mapping
  | .schedulePowerwash, _ => o.powerwash
  | .finishUpdate _, _ => o.finish
  | .setActive _, _ => o.activation
  | .pathExists path, _ => (o.partition t.place).present path
  | .isMountPoint _, _ => (o.partition t.place).stale
  | .setReadonly _ _, _ => (o.partition t.place).readonly
  | .mount _ _ _ _, _ => (o.partition t.place).mount
  | .unmount _, _ =>
    if t.held then (o.partition t.place).unmount else (o.partition t.place).staleUnmount
  | .spawn _ _, _ => (o.partition t.place).launch
  | .awaitStatus _, .error _ => .ok false
  | .tryWait _, .error _ => .ok none
  | .tryWait _, .ok (some _) => .ok (some (o.partition t.place).exit)
  | _, reply => reply

/-- The replies in a list of exchanges are the assigned ones. -/
def Agrees (o : Outcomes) : Spot → List (Exchange α) → Prop
  | _, [] => True
  | t, x :: xs =>
    (∃ reply, o.answer t x.request reply = x.reply) ∧ o.Agrees (o.after t x.request) xs

/-- The spot after requests. -/
def afterAll (o : Outcomes) (t : Spot) (xs : List (Exchange α)) : Spot :=
  xs.foldl (fun t x => o.after t x.request) t

/-- Exchanges after exchanges agree if both do. -/
@[simp]
theorem agrees_append (o : Outcomes) (t : Spot) (xs ys : List (Exchange α)) :
    o.Agrees t (xs ++ ys) ↔ o.Agrees t xs ∧ o.Agrees (o.afterAll t xs) ys := by
  induction xs generalizing t with
  | nil => simp [Agrees, afterAll]
  | cons x xs ih =>
    simp only [List.cons_append, Agrees, ih, afterAll, List.foldl_cons]
    exact and_assoc.symm

/-- The spot after requests and requests. -/
@[simp]
theorem afterAll_append (o : Outcomes) (t : Spot) (xs ys : List (Exchange α)) :
    o.afterAll t (xs ++ ys) = o.afterAll (o.afterAll t xs) ys := List.foldl_append

/-- The exits that calls on a runner report of running programs are the assigned ones. -/
def ReportsExits [ProgressNumber α] (o : Outcomes) (p : Platform α σ) :
    Runner → List RunnerCall → σ → Prop
  | _, [], _ => True
  | r, c :: rest, s =>
    let out := (r.call c).run p s
    (∀ pid code, c = .exited pid code → r.childPid = some pid →
      code = (o.partition r.cursor).exit) ∧ o.ReportsExits p out.result.1 rest out.state

/-- The platform that replies what is assigned, and for the rest as another one does. -/
def platform (o : Outcomes) (base : Platform α σ) : Platform α (Spot × σ) where
  reply q t :=
    let other := base.reply q t.2
    ⟨(o.answer t.1 q other.value.1, o.after t.1 q, other.value.2), other.log⟩

/-- On the platform of an assignment every action agrees with it. -/
theorem agrees_platform (o : Outcomes) (base : Platform α σ) (a : Action α β) (t : Spot) (s : σ) :
    o.Agrees t (a.run (o.platform base) (t, s)).exchanges := by
  induction a generalizing t s with
  | done b => trivial
  | ask q next ih => exact ⟨⟨_, rfl⟩, ih _ _ _⟩
  | note line next ih => exact ih t s

end Outcomes

end SlotUpdate
