import SlotUpdate.Proofs.Postinstall.Calls
import SlotUpdate.Proofs.Postinstall.Outcomes

/-!
# Steps agree with their outcomes

Where the replies are the assigned ones, each step of an attempt turns out as its outcome says. The
partitions get mapped exactly if `Outcomes.failsToMap` does not hold (`Maps.agrees`), a partition
gets mounted exactly if `PartitionOutcome.mounts` says so (`Mounts.agrees`), a program starts if
`PartitionOutcome.starts` does (`Launches.agrees`), and an attempt that ends with a code has the
result `Outcomes.ending` (`Ends.agrees`). The lemmas also tell the spot that a step leads to.
-/

namespace SlotUpdate

variable {α : Type}

namespace Runner

variable {o : Outcomes} {plan : InstallPlan}

/-! ## Beginning and end -/

/-- The spot moves on with the requests only. -/
theorem afterAll_eq_foldl (o : Outcomes) (t : Spot) (xs : List (Exchange α)) :
    o.afterAll t xs = (xs.map (·.request)).foldl o.after t := by
  unfold Outcomes.afterAll
  rw [List.foldl_map]

/-- After unmounting what is held nothing is. -/
theorem Unmounts.afterAll {held : Option ScopedMount} {xs : List (Exchange α)}
    (h : Unmounts held xs) {t : Spot} (hheld : held = none → t.held = false) :
    o.afterAll t xs = { t with held := false } := by
  rw [afterAll_eq_foldl, h]
  cases held with
  | none => rw [← hheld rfl]; rfl
  | some m => rfl

/-- The slots are settled as the outcomes say. -/
theorem Settles.agrees {code c : ErrorCode} {xs : List (Exchange α)} (h : Settles plan code xs c)
    {t : Spot} (hagrees : o.Agrees t xs) : c = o.ending plan code := by
  unfold Settles at h
  unfold Outcomes.ending
  split at h
  · rename_i hcode
    rw [if_pos hcode]
    unfold Outcomes.settled
    split at h
    · rename_i hswitch
      rw [if_pos hswitch]
      cases h with
      | unfinished e =>
        obtain ⟨⟨_, hfinish⟩, -⟩ := hagrees
        have hfinish' : o.finish = .error e := hfinish
        rw [hfinish']
        rfl
      | refused e =>
        obtain ⟨-, ⟨_, hactivation⟩, -⟩ := hagrees
        have hactivation' : o.activation = .error e := hactivation
        rw [hactivation', if_neg (by simp [Except.isOk, Except.toBool])]
      | switched reply =>
        obtain ⟨⟨_, hfinish⟩, ⟨_, hactivation⟩, -⟩ := hagrees
        have hfinish' : o.finish = .ok () := hfinish
        have hactivation' : o.activation = .ok () := hactivation
        rw [hfinish', hactivation']
        rfl
    · rename_i hswitch
      rw [if_neg hswitch]
      exact h.2
  · rename_i hcode
    rw [if_neg hcode]
    exact h.2

/-- An attempt ends as the outcomes say. -/
theorem Ends.agrees {r r' : Runner} {code : ErrorCode} {xs : List (Exchange α)}
    (h : Ends r code xs r') (hplan : r.plan = plan ∨ r.plan = withoutSkipped plan) {t : Spot}
    (hagrees : o.Agrees t xs) : r'.result = some (o.ending plan code) := by
  cases h with
  | intro hus hss hps =>
    simp only [Outcomes.agrees_append] at hagrees
    rw [← (hss.of_plan hplan).agrees hagrees.1.1.2]
    rfl

/-- An attempt that ends with a failure has it as result. -/
theorem Ends.agrees_failure {r r' : Runner} {code : ErrorCode} {xs : List (Exchange α)}
    (h : Ends r code xs r') (hplan : r.plan = plan ∨ r.plan = withoutSkipped plan)
    (hfails : code ≠ .success) {t : Spot} (hagrees : o.Agrees t xs) : r'.result = some code := by
  rw [h.agrees hplan hagrees]
  unfold Outcomes.ending
  rw [if_neg hfails]

/-- The partitions get mapped as the outcomes say. -/
theorem Maps.agrees {config : PostinstallConfig} {r : Runner} {xs : List (Exchange α)}
    {outcome : Except BootError Unit} (h : Maps (r.planned plan) xs outcome)
    (hsettings : r.config = config) {t : Spot} (hagrees : o.Agrees t xs) :
    o.failsToMap config plan = !outcome.isOk ∧ o.afterAll t xs = t := by
  have hfails : o.failsToMap config plan =
      (o.virtualAb && (r.planned plan).needsMapping && !o.mapping.isOk) := by
    rw [← hsettings]
    unfold Outcomes.failsToMap needsMapping
    rw [← Bool.and_assoc]
    rfl
  cases h with
  | needless virtual hneeds =>
    obtain ⟨⟨_, hvirtual⟩, -⟩ := hagrees
    have hvirtual' : o.virtualAb = virtual := hvirtual
    refine ⟨?_, rfl⟩
    rw [hfails, hvirtual']
    cases virtual with
    | false => rfl
    | true =>
      rw [hneeds rfl]
      rfl
  | asks _ hneeds =>
    obtain ⟨⟨_, hvirtual⟩, ⟨_, hmapping⟩, -⟩ := hagrees
    have hvirtual' : o.virtualAb = true := hvirtual
    have hmapping' : o.mapping = outcome := hmapping
    refine ⟨?_, rfl⟩
    rw [hfails, hvirtual', hneeds, hmapping']
    rfl

/-! ## Partitions -/

/-- The mount directory gets free as the outcomes say, and nothing is mounted meanwhile. -/
theorem Clears.agrees {mountPoint : Path} {xs : List (Exchange α)}
    {outcome : Except MountError Unit} (h : Clears mountPoint xs outcome) {t : Spot}
    (hheld : t.held = false) (hagrees : o.Agrees t xs) :
    outcome.isOk = (o.partition t.place).clears ∧ o.afterAll t xs = t := by
  have hsame : { t with held := false } = t := by rw [← hheld]
  unfold PartitionOutcome.clears
  cases h with
  | free =>
    obtain ⟨⟨_, hstale⟩, -⟩ := hagrees
    have hstale' : (o.partition t.place).stale = .ok false := hstale
    rw [hstale']
    exact ⟨rfl, rfl⟩
  | unknown e =>
    obtain ⟨⟨_, hstale⟩, -⟩ := hagrees
    have hstale' : (o.partition t.place).stale = .error e := hstale
    rw [hstale']
    exact ⟨rfl, rfl⟩
  | cleared =>
    obtain ⟨⟨_, hstale⟩, ⟨_, hunmount⟩, -⟩ := hagrees
    have hstale' : (o.partition t.place).stale = .ok true := hstale
    have hunmount' : (if t.held then (o.partition t.place).unmount
        else (o.partition t.place).staleUnmount) = .ok () := hunmount
    rw [if_neg (by simp [hheld])] at hunmount'
    rw [hstale', hunmount']
    exact ⟨rfl, hsame⟩
  | stuck e =>
    obtain ⟨⟨_, hstale⟩, ⟨_, hunmount⟩, -⟩ := hagrees
    have hstale' : (o.partition t.place).stale = .ok true := hstale
    have hunmount' : (if t.held then (o.partition t.place).unmount
        else (o.partition t.place).staleUnmount) = .error e := hunmount
    rw [if_neg (by simp [hheld])] at hunmount'
    rw [hstale', hunmount']
    exact ⟨rfl, hsame⟩

/-- What is asked before a device is mounted turns out as the outcomes say. -/
theorem Clears.agrees_approach {device mountPoint : Path} {cs ys : List (Exchange α)}
    {outcome : Except MountError Unit} (h : Clears mountPoint cs outcome) {t : Spot}
    (hheld : t.held = false)
    (hagrees : o.Agrees t
      ([⟨.pathExists device, true⟩, ⟨.pathExists mountPoint, true⟩] ++ cs ++ ys)) :
    ((o.partition t.place).present device && (o.partition t.place).present mountPoint &&
        (o.partition t.place).clears) = outcome.isOk ∧
      o.afterAll t ([⟨.pathExists device, true⟩, ⟨.pathExists mountPoint, true⟩] ++ cs) = t ∧
      o.Agrees t ys := by
  obtain ⟨hbefore, hys⟩ := (o.agrees_append _ _ _).mp hagrees
  obtain ⟨⟨⟨_, hdevice⟩, ⟨_, hdirectory⟩, -⟩, hcs⟩ := (o.agrees_append _ _ _).mp hbefore
  have hdevice' : (o.partition t.place).present device = true := hdevice
  have hdirectory' : (o.partition t.place).present mountPoint = true := hdirectory
  obtain ⟨hclear, hspot⟩ := h.agrees hheld hcs
  have hspot' : o.afterAll t ([⟨.pathExists device, true⟩,
      ⟨.pathExists mountPoint, true⟩] ++ cs) = t := by
    rw [Outcomes.afterAll_append]
    exact hspot
  rw [hspot'] at hys
  rw [hdevice', hdirectory', hclear]
  exact ⟨rfl, hspot', hys⟩

/-- A device gets mounted as the outcomes say, and then it is held. -/
theorem Acquires.agrees {device mountPoint : Path} {filesystem options : String}
    {xs : List (Exchange α)} {outcome : Except MountError ScopedMount}
    (h : Acquires device mountPoint filesystem options xs outcome) {t : Spot}
    (hheld : t.held = false) (hagrees : o.Agrees t xs) :
    (o.partition t.place).mounts device mountPoint = outcome.isOk ∧
      o.afterAll t xs = { t with held := outcome.isOk } := by
  have hsame : { t with held := false } = t := by rw [← hheld]
  unfold PartitionOutcome.mounts
  cases h with
  | noDevice =>
    obtain ⟨⟨_, hdevice⟩, -⟩ := hagrees
    have hdevice' : (o.partition t.place).present device = false := hdevice
    rw [hdevice']
    exact ⟨rfl, hsame.symm⟩
  | noDirectory =>
    obtain ⟨-, ⟨_, hdirectory⟩, -⟩ := hagrees
    have hdirectory' : (o.partition t.place).present mountPoint = false := hdirectory
    rw [hdirectory', Bool.and_false]
    exact ⟨rfl, hsame.symm⟩
  | @blocked cs e hclears =>
    rw [← List.append_nil ([_, _] ++ cs)] at hagrees
    obtain ⟨hclear, hspot, -⟩ := hclears.agrees_approach hheld hagrees
    rw [hclear, hspot]
    exact ⟨rfl, hsame.symm⟩
  | @writable cs e hclears =>
    obtain ⟨-, hspot, ⟨_, hreadonly⟩, -⟩ := hclears.agrees_approach hheld hagrees
    have hreadonly' : (o.partition t.place).readonly = .error e := hreadonly
    rw [hreadonly', Outcomes.afterAll_append, hspot]
    exact ⟨by simp [Except.isOk, Except.toBool], hsame.symm⟩
  | @refused cs e hclears =>
    obtain ⟨-, hspot, ⟨_, hreadonly⟩, ⟨_, hmount⟩, -⟩ := hclears.agrees_approach hheld hagrees
    have hmount' : (o.partition t.place).mount = .error e := hmount
    rw [hmount', Outcomes.afterAll_append, hspot]
    refine ⟨by simp [Except.isOk, Except.toBool], ?_⟩
    have hheld' : (o.partition t.place).mount.isOk = false := by rw [hmount']; rfl
    exact congrArg (fun held => { t with held := held }) hheld'
  | @mounted cs hclears =>
    obtain ⟨hclear, hspot, ⟨_, hreadonly⟩, ⟨_, hmount⟩, -⟩ :=
      hclears.agrees_approach hheld hagrees
    have hreadonly' : (o.partition t.place).readonly = .ok () := hreadonly
    have hmount' : (o.partition t.place).mount = .ok () := hmount
    rw [hclear, hreadonly', hmount', Outcomes.afterAll_append, hspot]
    refine ⟨rfl, ?_⟩
    have hheld' : (o.partition t.place).mount.isOk = true := by rw [hmount']; rfl
    exact congrArg (fun held => { t with held := held }) hheld'

/-- A partition gets mounted as the outcomes of its place say. -/
theorem Mounts.agrees {r : Runner} {p : Partition} {xs : List (Exchange α)}
    {outcome : Except MountError ScopedMount} (h : Mounts r p xs outcome) {t : Spot} {i : Nat}
    {rest : List Nat} (hahead : t.ahead = i :: rest) (hheld : t.held = false)
    (hagrees : o.Agrees t xs) :
    (o.partition i).mounts p.readonlyTarget r.config.mountDir = outcome.isOk ∧
      o.afterAll t xs = ⟨i, rest, outcome.isOk⟩ := by
  cases h with
  | @intro options xs _ hacquires =>
    obtain ⟨-, hxs⟩ := hagrees
    have hspot : o.after t (.mountOptions p.name : Request α) = ⟨i, rest, false⟩ := by
      simp [Outcomes.after, hahead, hheld]
    rw [hspot] at hxs
    obtain ⟨hmounts, hafter⟩ := hacquires.agrees rfl hxs
    refine ⟨hmounts, ?_⟩
    have hstep : o.afterAll t (⟨.mountOptions p.name, options⟩ :: xs) =
        o.afterAll (o.after t (.mountOptions p.name : Request α)) xs := rfl
    rw [hstep, hspot, hafter]

/-- A partition that cannot be mounted is reported as such. -/
theorem Mounts.errorCode_eq {r : Runner} {p : Partition} {xs : List (Exchange α)} {e : MountError}
    (h : Mounts r p xs (.error e)) : e.errorCode = .postInstallMountError := by
  cases h with
  | intro hacquires =>
    cases hacquires with
    | noDevice => rfl
    | noDirectory => rfl
    | blocked hclears => cases hclears <;> rfl
    | writable => rfl
    | refused => rfl

/-- Looking for build properties does not move on. -/
theorem Inspects.afterAll {r : Runner} {xs : List (Exchange α)} (h : Inspects r xs) (t : Spot) :
    o.afterAll t xs = t := by
  rw [afterAll_eq_foldl, h]
  rfl

/-- A program starts as the outcomes say. -/
theorem Launches.agrees {r r' : Runner} {program : Path} {xs : List (Exchange α)} {runs : Bool}
    (h : Launches r program xs (r', runs)) {t : Spot} (hagrees : o.Agrees t xs) :
    (o.partition t.place).starts = runs ∧ o.afterAll t xs = t := by
  unfold PartitionOutcome.starts
  cases h with
  | refused _ e =>
    obtain ⟨-, ⟨_, hlaunch⟩, -⟩ := hagrees
    have hlaunch' : (o.partition t.place).launch = .error e := hlaunch
    rw [hlaunch']
    exact ⟨rfl, rfl⟩
  | invalid _ pid hpid =>
    obtain ⟨-, ⟨_, hlaunch⟩, -⟩ := hagrees
    have hlaunch' : (o.partition t.place).launch = .ok pid := hlaunch
    rw [hlaunch']
    exact ⟨decide_eq_false hpid, rfl⟩
  | runs _ pid _ hpid =>
    obtain ⟨-, ⟨_, hlaunch⟩, -⟩ := hagrees
    have hlaunch' : (o.partition t.place).launch = .ok pid := hlaunch
    rw [hlaunch']
    exact ⟨decide_eq_true hpid, rfl⟩

variable [ProgressNumber α]

/-- Leaving a partition in a way that goes on unmounts it. -/
theorem Leaves.afterAll {r r' : Runner} {p : Partition} {code : Int} {xs : List (Exchange α)}
    (h : Leaves r p code xs (r', true)) {t : Spot} (hheld : r.mount = none → t.held = false) :
    o.afterAll t xs = { t with held := false } := by
  cases h with
  | goesOn _ hus =>
    rw [Outcomes.afterAll_append, hus.afterAll hheld]
    rfl

/-- An attempt that ends with a partition has the failure of its program as result. -/
theorem Leaves.agrees {r r' : Runner} {p : Partition} {code : Int} {xs : List (Exchange α)}
    (h : Leaves r p code xs (r', false)) (hplan : r.plan = withoutSkipped plan) {t : Spot}
    (hagrees : o.Agrees t xs) :
    code ≠ 0 ∧ p.optional = false ∧ r'.result = some (.ofExitCode code) := by
  cases h with
  | ends hfails hrequired hus hends =>
    obtain ⟨-, hxs⟩ := (o.agrees_append _ _ _).mp hagrees
    refine ⟨hfails, hrequired, ?_⟩
    have hplan' : r.released.plan = withoutSkipped plan := hplan
    exact hends.agrees_failure (Or.inr hplan') (ErrorCode.ofExitCode_ne_success code) hxs

end Runner

end SlotUpdate
