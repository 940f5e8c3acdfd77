import SlotUpdate.Boot.Host
import SlotUpdate.Rehearsal.Memory

/-!
# Slots in memory agree with those of a host

A host keeps a state for each slot, the platform of a rehearsal only the exceptions. `Mirrors` says
that both describe the same slots: a slot can be booted if it is not among those that cannot, and
was booted with success if it is among those that were.

`Mirrors.answer` is the step: a call about the state of the slots is answered the same by both, and
either both go on describing the same slots, or the call names a slot that there is not and no slot
changes. From it follow the answers to calls in any order (`Mirrors.answers_eq`), and that what
fails has no effect on what is answered later (`Mirrors.answers_of_error`): the host stays as it is,
and the platform in memory, which records what it was asked, goes on answering as the host does.
-/

namespace SlotUpdate

variable {α σ : Type}

/-! ## Calls in order -/

namespace BootCall

/-- Whether a call is about the state of the slots. -/
def isAboutSlots : BootCall → Bool
  | .numSlots | .activeSlot | .isBootable _ | .markUnbootable _ | .setActive _ | .isSuccessful _
  | .markSuccessful => true
  | _ => false

/-- The slot that a call about the state of the slots names. -/
def slot? : BootCall → Option Slot
  | .isBootable slot | .markUnbootable slot | .setActive slot | .isSuccessful slot => some slot
  | _ => none

/-- The answers of a device to calls in order. -/
def answers (device : σ → BootCall → BootAnswer × σ) : σ → List BootCall → List BootAnswer
  | _, [] => []
  | s, c :: rest => (device s c).1 :: answers device (device s c).2 rest

/-- A device after calls in order. -/
def after (device : σ → BootCall → BootAnswer × σ) (s : σ) (cs : List BootCall) : σ :=
  cs.foldl (fun s c => (device s c).2) s

/-- A call after others is made on what they leave. -/
theorem after_concat (device : σ → BootCall → BootAnswer × σ) (s : σ) (cs : List BootCall)
    (c : BootCall) : after device s (cs ++ [c]) = (device (after device s cs) c).2 := by
  unfold after
  rw [List.foldl_append]
  rfl

end BootCall

open BootCall (answers after)

/-- A host as a device that answers calls. -/
def Host.device (h : Host) (c : BootCall) : BootAnswer × Host := (h.answer c).value

/-- A host has the slots below their number. -/
theorem HostSlots.has_iff {h : HostSlots} {slot : Slot} :
    h.has slot = true ↔ slot < h.config.numSlots :=
  decide_eq_true_iff

/-! ## The slots on both sides -/

/-- Slots in memory describe the slots of a host. -/
structure Mirrors (h : HostSlots) (m : MemorySlots) : Prop where
  /-- There are as many. -/
  count : m.count = h.config.numSlots
  /-- The same one is booted. -/
  current : m.current = h.config.currentSlot
  /-- The same one is booted next. -/
  active : m.active = h.active
  /-- Those that cannot be booted are the same. -/
  bootable : ∀ slot, (h.states slot).bootable = !m.unbootable.contains slot
  /-- Those that were booted with success are the same. -/
  successful : ∀ slot, (h.states slot).successful = m.successful.contains slot
  /-- Activating a slot was not made to fail. -/
  works : m.failSetActive = false
  /-- The booted slot is one of them. -/
  current_lt : h.config.currentSlot < h.config.numSlots
  /-- The slot that is booted next is one of them. -/
  active_lt : h.active < h.config.numSlots

namespace Mirrors

variable {h : HostSlots} {m : MemorySlots}

/-- At the start both describe the same slots. -/
theorem of_config {config : DeviceConfig} (htwo : config.numSlots = 2)
    (hcurrent : config.currentSlot < 2) :
    Mirrors (.ofConfig config) (MemorySlots.initial.setCurrent config.currentSlot) where
  count := htwo.symm
  current := rfl
  active := rfl
  bootable _ := rfl
  successful _ := rfl
  works := rfl
  current_lt := by
    show config.currentSlot < config.numSlots
    rw [htwo]
    exact hcurrent
  active_lt := by
    show config.currentSlot < config.numSlots
    rw [htwo]
    exact hcurrent

/-- A slot is looked for among the same slots. -/
theorem check_eq (hm : Mirrors h m) (slot : Slot) :
    m.check slot = if h.has slot then .ok () else .error (.invalidSlot slot) := by
  unfold MemorySlots.check HostSlots.has
  rw [hm.count]
  simp

/-- Whether a slot can be booted is answered alike. -/
theorem isBootable_eq (hm : Mirrors h m) (slot : Slot) : m.isBootable slot = h.isBootable slot := by
  unfold MemorySlots.isBootable HostSlots.isBootable HostSlots.state
  rw [hm.check_eq]
  split
  · exact congrArg Except.ok (hm.bootable slot).symm
  · rfl

/-- Whether a slot was booted with success is answered alike. -/
theorem isSuccessful_eq (hm : Mirrors h m) (slot : Slot) :
    m.isSuccessful slot = h.isSuccessful slot := by
  unfold MemorySlots.isSuccessful HostSlots.isSuccessful HostSlots.state
  rw [hm.check_eq]
  split
  · exact congrArg Except.ok (hm.successful slot).symm
  · rfl

/-- A slot that is marked as one that cannot be booted joins the exceptions, and leaves those that
were booted with success. -/
theorem markUnbootable (hm : Mirrors h m) {slot : Slot} (hslot : h.has slot) :
    ∃ h' m', h.markUnbootable slot = .ok h' ∧ m.markUnbootable slot = .ok m' ∧
      h'.config = h.config ∧ Mirrors h' m' := by
  unfold HostSlots.markUnbootable HostSlots.update MemorySlots.markUnbootable
  rw [hm.check_eq, if_pos hslot, if_pos hslot]
  refine ⟨_, _, rfl, rfl, rfl, { hm with bootable := fun s => ?_, successful := fun s => ?_ }⟩
  · by_cases hs : s = slot
    · simp [hs]
    · simp [hs, hm.bootable s]
  · by_cases hs : s = slot
    · simp [hs]
    · simp [hs, hm.successful s]

/-- A slot that is booted next leaves those that cannot be booted. -/
theorem setActive (hm : Mirrors h m) {slot : Slot} (hslot : h.has slot) :
    ∃ h' m', h.setActive slot = .ok h' ∧ m.setActive slot = .ok m' ∧
      h'.config = h.config ∧ Mirrors h' m' := by
  unfold HostSlots.setActive HostSlots.update MemorySlots.setActive
  rw [hm.works, hm.check_eq, if_pos hslot, if_pos hslot]
  refine ⟨_, _, rfl, rfl, rfl, { hm with
    active := rfl
    bootable := fun s => ?_
    successful := fun s => ?_
    works := rfl
    active_lt := HostSlots.has_iff.1 hslot }⟩
  · by_cases hs : s = slot
    · simp [hs]
    · simp [hs, hm.bootable s]
  · by_cases hs : s = slot
    · simp [hs, hm.successful slot]
    · simp [hs, hm.successful s]

/-- The booted slot, which always is one of them, joins those that were booted with success. -/
theorem markSuccessful (hm : Mirrors h m) :
    ∃ h', h.markSuccessful = .ok h' ∧ h'.config = h.config ∧ Mirrors h' m.markSuccessful := by
  have hslot : h.has h.config.currentSlot := HostSlots.has_iff.2 hm.current_lt
  unfold HostSlots.markSuccessful HostSlots.update MemorySlots.markSuccessful
  rw [if_pos hslot]
  refine ⟨_, rfl, rfl, { hm with bootable := fun s => ?_, successful := fun s => ?_ }⟩
  · by_cases hs : s = h.config.currentSlot
    · simp [hs, hm.bootable h.config.currentSlot]
    · simp [hs, hm.bootable s]
  · by_cases hs : s = h.config.currentSlot
    · simp [hs, hm.current]
    · simp [hs, hm.current, hm.successful s]

/-- A slot that there is not is marked by neither. -/
theorem markUnbootable_unknown (hm : Mirrors h m) {slot : Slot} (hslot : ¬ h.has slot) :
    h.markUnbootable slot = .error (.invalidSlot slot) ∧
      m.markUnbootable slot = .error (.invalidSlot slot) := by
  unfold HostSlots.markUnbootable HostSlots.update MemorySlots.markUnbootable
  rw [hm.check_eq, if_neg hslot, if_neg hslot]
  exact ⟨rfl, rfl⟩

/-- A slot that there is not is booted next by neither. -/
theorem setActive_unknown (hm : Mirrors h m) {slot : Slot} (hslot : ¬ h.has slot) :
    h.setActive slot = .error (.invalidSlot slot) ∧
      m.setActive slot = .error (.invalidSlot slot) := by
  unfold HostSlots.setActive HostSlots.update MemorySlots.setActive
  rw [hm.works, hm.check_eq, if_neg hslot, if_neg hslot]
  exact ⟨rfl, rfl⟩

end Mirrors

/-! ## One call -/

/-- A call comes out alike on a host and on a platform in memory. -/
inductive StepsAlike (h : Host) (m : Memory α) (c : BootCall) : Prop where
  /-- It names no slot, or one that there is, and both describe the same slots afterwards. -/
  | done (value : BootValue) (told : Option Bool)
    (known : ∀ slot, c.slot? = some slot → slot < h.slots.config.numSlots)
    (host : (h.device c).1 = ⟨.ok value, told⟩) (memory : (m.answer c).1 = ⟨.ok value, told⟩)
    (config : (h.device c).2.slots.config = h.slots.config)
    (mirrors : Mirrors (h.device c).2.slots (m.answer c).2.slots)
  /-- It names a slot that there is not, and no slot changes. -/
  | refused (slot : Slot) (named : c.slot? = some slot)
    (unknown : ¬ slot < h.slots.config.numSlots)
    (host : h.device c = (.ofResult (.error (.invalidSlot slot)), h))
    (memory : (m.answer c).1 = .ofResult (.error (.invalidSlot slot)))
    (slots : (m.answer c).2.slots = m.slots)

namespace StepsAlike

variable {h : Host} {m : Memory α} {c : BootCall}

/-- A call that names a slot that there is names no other one. -/
theorem known_of_has {slot : Slot} (hnamed : c.slot? = some slot) (hslot : h.slots.has slot) :
    ∀ slot, c.slot? = some slot → slot < h.slots.config.numSlots := by
  intro slot' hnamed'
  obtain rfl := Option.some.inj (hnamed.symm.trans hnamed')
  exact HostSlots.has_iff.1 hslot

/-- A call that reads a slot comes out alike if the same is found on both sides. -/
theorem of_read (hm : Mirrors h.slots m.slots) {slot : Slot} (hnamed : c.slot? = some slot)
    (read : SlotState → Bool)
    (hhost : h.device c = (.ofResult (((h.slots.state slot).map read).map .flag), h))
    (hmemory : m.answer c = (.ofResult (((h.slots.state slot).map read).map .flag), m)) :
    StepsAlike h m c := by
  unfold HostSlots.state at hhost hmemory
  by_cases hslot : h.slots.has slot
  · rw [if_pos hslot] at hhost hmemory
    exact .done (.flag (read (h.slots.states slot))) none (known_of_has hnamed hslot)
      (by rw [hhost]; rfl) (by rw [hmemory]; rfl) (by rw [hhost]) (by rw [hhost, hmemory]; exact hm)
  · rw [if_neg hslot] at hhost hmemory
    exact .refused slot hnamed (mt HostSlots.has_iff.2 hslot) hhost (by rw [hmemory]; rfl)
      (by rw [hmemory])

/-- A call comes out alike if nothing but its answer can be told, which names no slot. -/
theorem of_constant (hm : Mirrors h.slots m.slots) (hnamed : c.slot? = none) {value : BootValue}
    (hhost : h.device c = (.ofResult (.ok value), h))
    (hmemory : m.answer c = (.ofResult (.ok value), m)) : StepsAlike h m c :=
  .done value none (by simp [hnamed]) (by rw [hhost]; rfl) (by rw [hmemory]; rfl) (by rw [hhost])
    (by rw [hhost, hmemory]; exact hm)

/-- A call that changes a slot comes out alike if both sides change it in one way, and neither
changes a slot that there is not. -/
theorem of_change {slot : Slot} (hnamed : c.slot? = some slot) {changed : Except BootError HostSlots}
    (hhost : h.device c = h.changeSlots changed)
    (hknown : h.slots.has slot → ∃ h', changed = .ok h' ∧ h'.config = h.slots.config ∧
      Mirrors h' (m.answer c).2.slots ∧ (m.answer c).1 = .ofResult (.ok .done))
    (hunknown : ¬ h.slots.has slot → changed = .error (.invalidSlot slot) ∧
      (m.answer c).1 = .ofResult (.error (.invalidSlot slot)) ∧ (m.answer c).2.slots = m.slots) :
    StepsAlike h m c := by
  by_cases hslot : h.slots.has slot
  · obtain ⟨h', rfl, hconfig, hmirrors, hmemory⟩ := hknown hslot
    exact .done .done none (known_of_has hnamed hslot) (by rw [hhost]; rfl) hmemory
      (by rw [hhost]; exact hconfig) (by rw [hhost]; exact hmirrors)
  · obtain ⟨rfl, hmemory, hslots⟩ := hunknown hslot
    exact .refused slot hnamed (mt HostSlots.has_iff.2 hslot) hhost hmemory hslots

end StepsAlike

/-- Every call about the state of the slots comes out alike where both describe the same slots. -/
theorem Mirrors.answer {h : Host} {m : Memory α} {c : BootCall} (hm : Mirrors h.slots m.slots)
    (hc : c.isAboutSlots) : StepsAlike h m c := by
  cases c with
  | numSlots => exact .of_constant hm rfl rfl (by unfold Memory.answer; rw [hm.count])
  | activeSlot => exact .of_constant hm rfl rfl (by unfold Memory.answer; rw [hm.active])
  | isBootable slot =>
    refine .of_read hm rfl SlotState.bootable rfl ?_
    unfold Memory.answer
    simp only [hm.isBootable_eq]
    rfl
  | isSuccessful slot =>
    refine .of_read hm rfl SlotState.successful rfl ?_
    unfold Memory.answer
    simp only [hm.isSuccessful_eq]
    rfl
  | markUnbootable slot =>
    refine .of_change rfl rfl (fun hslot => ?_) (fun hslot => ?_)
    · obtain ⟨h', m', hhost, hmemory, hconfig, hmirrors⟩ := hm.markUnbootable hslot
      simp only [Memory.answer, hmemory]
      exact ⟨h', hhost, hconfig, hmirrors, trivial⟩
    · obtain ⟨hhost, hmemory⟩ := hm.markUnbootable_unknown hslot
      simp only [Memory.answer, hmemory]
      exact ⟨hhost, trivial, trivial⟩
  | setActive slot =>
    -- The request is recorded in memory whether or not there is such a slot.
    have hreceive : (m.receive (.setActive slot)).slots = m.slots := rfl
    refine .of_change rfl rfl (fun hslot => ?_) (fun hslot => ?_)
    · obtain ⟨h', m', hhost, hmemory, hconfig, hmirrors⟩ := hm.setActive hslot
      simp only [Memory.answer, Memory.reply, hreceive, hmemory]
      exact ⟨h', hhost, hconfig, hmirrors, rfl⟩
    · obtain ⟨hhost, hmemory⟩ := hm.setActive_unknown hslot
      simp only [Memory.answer, Memory.reply, hreceive, hmemory]
      exact ⟨hhost, rfl, trivial⟩
  | markSuccessful =>
    obtain ⟨h', hhost, hconfig, hmirrors⟩ := hm.markSuccessful
    have hdevice : h.device .markSuccessful = (⟨.ok .done, some true⟩, { h with slots := h' }) := by
      unfold Host.device Host.answer
      rw [hhost]
      rfl
    exact .done .done (some true) (by intro slot hslot; cases hslot) (by rw [hdevice]) rfl
      (by rw [hdevice]; exact hconfig) (by rw [hdevice]; exact hmirrors)
  | _ => cases hc

namespace StepsAlike

variable {h : Host} {m : Memory α} {c : BootCall}

/-- The answers are the same. -/
theorem same (hstep : StepsAlike h m c) : (m.answer c).1 = (h.device c).1 := by
  cases hstep with
  | done value told known host memory => rw [host, memory]
  | refused slot named unknown host memory => rw [host, memory]

/-- Afterwards both describe the same slots. -/
theorem mirrors (hstep : StepsAlike h m c) (hm : Mirrors h.slots m.slots) :
    Mirrors (h.device c).2.slots (m.answer c).2.slots := by
  cases hstep with
  | done value told known host memory config mirrors => exact mirrors
  | refused slot named unknown host memory slots =>
    rw [host, slots]
    exact hm

/-- The settings stay. -/
theorem config (hstep : StepsAlike h m c) :
    (h.device c).2.slots.config = h.slots.config := by
  cases hstep with
  | done value told known host memory config => exact config
  | refused slot named unknown host => rw [host]

/-- It fails if it names a slot that there is not, and only then. -/
theorem error_iff (hstep : StepsAlike h m c) {e : BootError} :
    (h.device c).1.result = .error e ↔
      ∃ slot, c.slot? = some slot ∧ ¬ slot < h.slots.config.numSlots ∧ e = .invalidSlot slot := by
  cases hstep with
  | done value told known host =>
    rw [host]
    refine ⟨nofun, ?_⟩
    rintro ⟨slot, hslot, hunknown, -⟩
    exact absurd (known slot hslot) hunknown
  | refused slot named unknown host =>
    rw [host]
    refine ⟨fun he => ⟨slot, named, unknown, (Except.error.inj he).symm⟩, ?_⟩
    rintro ⟨slot', hslot', -, rfl⟩
    obtain rfl := Option.some.inj (named.symm.trans hslot')
    rfl

/-- A host on which it fails stays as it is. -/
theorem host_of_error (hstep : StepsAlike h m c) {e : BootError}
    (he : (h.device c).1.result = .error e) : (h.device c).2 = h := by
  cases hstep with
  | done value told known host =>
    rw [host] at he
    cases he
  | refused slot named unknown host => rw [host]

end StepsAlike

/-! ## Calls in any order -/

namespace Mirrors

variable {h : Host} {m : Memory α} {cs : List BootCall}

/-- After calls in any order both still describe the same slots. -/
theorem after_calls (hm : Mirrors h.slots m.slots) (hcs : ∀ c ∈ cs, c.isAboutSlots) :
    Mirrors (after Host.device h cs).slots (after Memory.answer m cs).slots ∧
      (after Host.device h cs).slots.config = h.slots.config := by
  induction cs generalizing h m with
  | nil => exact ⟨hm, rfl⟩
  | cons c cs ih =>
    rw [List.forall_mem_cons] at hcs
    have hstep := hm.answer hcs.1
    obtain ⟨hafter, hconfig⟩ := ih (hstep.mirrors hm) hcs.2
    exact ⟨hafter, hconfig.trans hstep.config⟩

/-- Calls in any order are answered the same. -/
theorem answers_eq (hm : Mirrors h.slots m.slots) (hcs : ∀ c ∈ cs, c.isAboutSlots) :
    answers Memory.answer m cs = answers Host.device h cs := by
  induction cs generalizing h m with
  | nil => rfl
  | cons c cs ih =>
    rw [List.forall_mem_cons] at hcs
    have hstep := hm.answer hcs.1
    unfold answers
    rw [hstep.same, ih (hstep.mirrors hm) hcs.2]

/-- A call that fails changes no later answer of a platform in memory: the host that answers alike
stays as it is. -/
theorem answers_of_error (hm : Mirrors h.slots m.slots) {c : BootCall} (hc : c.isAboutSlots)
    {e : BootError} (he : (h.device c).1.result = .error e) (hcs : ∀ c ∈ cs, c.isAboutSlots) :
    answers Memory.answer (m.answer c).2 cs = answers Memory.answer m cs := by
  have hstep := hm.answer hc
  rw [(hstep.mirrors hm).answers_eq hcs, hstep.host_of_error he, hm.answers_eq hcs]

end Mirrors

/-- A device of so many slots keeps to them over calls in order. -/
structure KeepsToSlots (device : σ → BootCall → BootAnswer × σ) (s : σ) (count : UInt32)
    (calls : List BootCall) : Prop where
  /-- What fails names a slot that there is not, and says so; nothing else fails. -/
  fails : ∀ before c rest e, calls = before ++ c :: rest →
    ((device (after device s before) c).1.result = .error e ↔
      ∃ slot, c.slot? = some slot ∧ ¬ slot < count ∧ e = .invalidSlot slot)
  /-- What fails changes no later answer. -/
  harmless : ∀ before c rest e, calls = before ++ c :: rest →
    (device (after device s before) c).1.result = .error e →
    answers device (after device s (before ++ [c])) rest =
      answers device (after device s before) rest
  /-- The slot that is booted next is one of them at any time. -/
  active : ∀ before rest, calls = before ++ rest → ∃ slot < count,
    (device (after device s before) .numSlots).1 = .ofResult (.ok (.number count)) ∧
    (device (after device s before) .activeSlot).1 = .ofResult (.ok (.number slot))

/-- A platform in memory stands in for a host of so many slots over calls in order. -/
structure StandsIn (h : Host) (m : Memory α) (count : UInt32) (calls : List BootCall) : Prop where
  /-- Every call is answered the same. -/
  same : answers Memory.answer m calls = answers Host.device h calls
  /-- The host keeps to its slots. -/
  host : KeepsToSlots Host.device h count calls
  /-- The platform in memory keeps to them too. -/
  memory : KeepsToSlots Memory.answer m count calls

section Runs

variable {h : Host} {m : Memory α} {calls before rest : List BootCall} {c : BootCall}

/-- Before each of the calls both describe the same slots. -/
theorem Mirrors.standing (hm : Mirrors h.slots m.slots) (hcalls : ∀ c ∈ calls, c.isAboutSlots)
    (hsplit : calls = before ++ rest) :
    Mirrors (after Host.device h before).slots (after Memory.answer m before).slots ∧
      (after Host.device h before).slots.config = h.slots.config :=
  hm.after_calls fun c hc => hcalls c (hsplit ▸ List.mem_append_left rest hc)

/-- Where both describe the same slots, the platform in memory stands in for the host. -/
theorem Mirrors.standsIn (hm : Mirrors h.slots m.slots) (hcalls : ∀ c ∈ calls, c.isAboutSlots) :
    StandsIn h m h.slots.config.numSlots calls := by
  have habout : ∀ {before c rest}, calls = before ++ c :: rest →
      c.isAboutSlots ∧ ∀ c ∈ rest, c.isAboutSlots := by
    rintro before c rest rfl
    exact List.forall_mem_cons.1 fun c hc => hcalls c (List.mem_append_right before hc)
  refine ⟨hm.answers_eq hcalls, ⟨?_, ?_, ?_⟩, ⟨?_, ?_, ?_⟩⟩
  · intro before c rest e hsplit
    obtain ⟨hnow, hconfig⟩ := hm.standing hcalls hsplit
    rw [(hnow.answer (habout hsplit).1).error_iff, hconfig]
  · intro before c rest e hsplit he
    obtain ⟨hnow, -⟩ := hm.standing hcalls hsplit
    rw [BootCall.after_concat, (hnow.answer (habout hsplit).1).host_of_error he]
  · intro before rest hsplit
    obtain ⟨hnow, hconfig⟩ := hm.standing hcalls hsplit
    exact ⟨_, hconfig ▸ hnow.active_lt, by rw [← hconfig]; rfl, rfl⟩
  · intro before c rest e hsplit
    obtain ⟨hnow, hconfig⟩ := hm.standing hcalls hsplit
    have hstep := hnow.answer (habout hsplit).1
    rw [hstep.same, hstep.error_iff, hconfig]
  · intro before c rest e hsplit he
    obtain ⟨hnow, -⟩ := hm.standing hcalls hsplit
    obtain ⟨hc, hrest⟩ := habout hsplit
    rw [(hnow.answer hc).same] at he
    rw [BootCall.after_concat, hnow.answers_of_error hc he hrest]
  · intro before rest hsplit
    obtain ⟨hnow, hconfig⟩ := hm.standing hcalls hsplit
    refine ⟨_, hconfig ▸ hnow.active_lt, ?_, ?_⟩
    · rw [← hconfig, ← hnow.count]
      rfl
    · rw [← hnow.active]
      rfl

end Runs

/-- A platform in memory with the slots of the start and a slot that is said to be booted stands in
for a host of two slots on which that slot is booted, whatever calls are made about the state of the
slots, and in any order. -/
theorem MemorySlots.stand_in_for_host {config : DeviceConfig} (htwo : config.numSlots = 2)
    (hcurrent : config.currentSlot < 2) (files : FileTree) {m : Memory α}
    (hm : m.slots = .initial) {calls : List BootCall} (hcalls : ∀ c ∈ calls, c.isAboutSlots) :
    StandsIn (.ofConfig config files) (m.set (.currentSlot config.currentSlot)) 2 calls := by
  have hmirrors : Mirrors (Host.ofConfig config files).slots
      (m.set (.currentSlot config.currentSlot)).slots := by
    show Mirrors (.ofConfig config) (m.slots.setCurrent config.currentSlot)
    rw [hm]
    exact .of_config htwo hcurrent
  have hstands := hmirrors.standsIn hcalls
  have hcount : (Host.ofConfig config files).slots.config.numSlots = 2 := htwo
  rwa [hcount] at hstands

/-- The calls of a host with the second slot booted, some on slots that there are not. -/
def sampleCalls : List BootCall :=
  [.markSuccessful, .setActive 2, .isSuccessful 1, .markUnbootable 1, .isBootable 1, .setActive 0,
    .isBootable 4294967295, .activeSlot, .numSlots]

/-- With the second slot booted, both refuse a third slot, and go on as if it had not been named. -/
theorem MemorySlots.stand_in_past_unknown_slot :
    StandsIn (.ofConfig { DeviceConfig.default with currentSlot := 1 } .empty)
      ((Memory.initial .empty : Memory String).set (.currentSlot 1)) 2 sampleCalls ∧
    answers Host.device (.ofConfig { DeviceConfig.default with currentSlot := 1 } .empty)
      sampleCalls =
      [⟨.ok .done, some true⟩, ⟨.error (.invalidSlot 2), none⟩, ⟨.ok (.flag true), none⟩,
        ⟨.ok .done, none⟩, ⟨.ok (.flag false), none⟩, ⟨.ok .done, none⟩,
        ⟨.error (.invalidSlot 4294967295), none⟩, ⟨.ok (.number 0), none⟩,
        ⟨.ok (.number 2), none⟩] :=
  ⟨MemorySlots.stand_in_for_host rfl (by decide) .empty rfl (by decide), rfl⟩

end SlotUpdate
