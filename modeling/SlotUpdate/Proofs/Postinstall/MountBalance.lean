import SlotUpdate.Proofs.List.Places
import SlotUpdate.Proofs.Postinstall.Programs
import SlotUpdate.Rehearsal.Memory

/-!
# Mounts are exclusive and balanced

A partition is mounted only where nothing else is, and unmounted before the next one is mounted,
before the slots are touched and before the result is delivered, whatever fails on the way. Programs
are started, and alive, only while their partition is mounted. `BalancesMounts` says this of a
record.

`holdsAfter` tells at each place of a record whether a partition still has to be unmounted. The law
`mountLaw` says what it has to be for each request, and `aliveLaw` what it has to be while a program
is alive. Every step of an attempt keeps both (`Step.keeps_mountLaw`, `Step.keeps_aliveLaw`) and
leads to the mounts of its point (`Step.holdsAfter_eq`).
-/

namespace SlotUpdate

variable {α σ : Type}

/-! ## What is held -/

/-- Whether a partition that was mounted has to be unmounted after an event. -/
def Event.holds (held : Bool) : Event α → Bool
  | .asked ⟨.mount _ _ _ _, .ok ()⟩ => true
  | .asked ⟨.unmount _, _⟩ => false
  | _ => held

/-- Whether a partition that was mounted has to be unmounted after events. -/
def holdsAfter (held : Bool) (es : List (Event α)) : Bool := es.foldl Event.holds held

/-- Without events nothing changes. -/
@[simp]
theorem holdsAfter_nil (held : Bool) : holdsAfter held ([] : List (Event α)) = held := rfl

/-- The first event comes before the others. -/
@[simp]
theorem holdsAfter_cons (held : Bool) (e : Event α) (es : List (Event α)) :
    holdsAfter held (e :: es) = holdsAfter (e.holds held) es := rfl

/-- Events after events come after them. -/
@[simp]
theorem holdsAfter_append (held : Bool) (es fs : List (Event α)) :
    holdsAfter held (es ++ fs) = holdsAfter (holdsAfter held es) fs := List.foldl_append

/-- Events that change nothing by themselves do not so together. -/
theorem holdsAfter_eq_self {es : List (Event α)} (h : ∀ e ∈ es, ∀ held, e.holds held = held)
    (held : Bool) : holdsAfter held es = held := by
  induction es with
  | nil => rfl
  | cons e es ih =>
    rw [holdsAfter_cons, h e List.mem_cons_self, ih fun f hf => h f (List.mem_cons_of_mem e hf)]

/-- What is held stays so through events that leave it held. -/
theorem holdsAfter_of_holds {es : List (Event α)} (h : ∀ e ∈ es, e.holds true = true) :
    holdsAfter true es = true := by
  induction es with
  | nil => rfl
  | cons e es ih =>
    rw [holdsAfter_cons, h e List.mem_cons_self]
    exact ih fun f hf => h f (List.mem_cons_of_mem e hf)

/-- Exchanges that are not about mounts mount and unmount nothing. -/
theorem holdsAfter_of_about {topics : List Topic} {xs : List (Exchange α)} (h : About topics xs)
    (hother : .mounts ∉ topics) (held : Bool) : holdsAfter held (xs.map .asked) = held := by
  apply holdsAfter_eq_self
  intro e he held
  obtain ⟨⟨request, reply⟩, hx, rfl⟩ := List.mem_map.mp he
  have htopic := h _ hx
  cases request with
  | mount => exact absurd htopic hother
  | unmount => exact absurd htopic hother
  | _ => rfl

/-- Only an unmounting ends that something is held. -/
theorem exists_of_not_holds {e : Event α} (h : e.holds true = false) :
    ∃ path reply, e = .asked ⟨.unmount path, reply⟩ := by
  cases e with
  | called c => cases h
  | asked x =>
    obtain ⟨request, reply⟩ := x
    cases request with
    | unmount path => exact ⟨path, reply, rfl⟩
    | mount =>
      cases reply with
      | error e => cases h
      | ok u => cases h
    | _ => cases h

/-! ## Laws -/

/-- Right before, nothing was found mounted at a path, or what was found was removed, and then a
device was made read-only. -/
def PreparedIn (device path : Path) (past : List (Event α)) : Prop :=
  ∃ earlier checks, past = earlier ++ checks ++ [.asked ⟨.setReadonly device true, .ok ()⟩] ∧
    (checks = [.asked ⟨.isMountPoint path, .ok false⟩] ∨
      checks = [.asked ⟨.isMountPoint path, .ok true⟩, .asked ⟨.unmount path, .ok ()⟩])

/-- Right before, something was found mounted at a path. -/
def FoundIn (path : Path) (past : List (Event α)) : Prop :=
  ∃ earlier, past = earlier ++ [.asked ⟨.isMountPoint path, .ok true⟩]

/-- A request that has to wait until what is mounted was unmounted. -/
def Request.needsFree : Request α → Bool
  | .isMountPoint _ | .mount _ _ _ _ | .finishUpdate _ | .setActive _ | .warmReset _
  | .vbmetaDigest _ | .complete _ => true
  | _ => false

/-- What has to hold of the mounts before an event. -/
def mountLaw (dir : Path) (past : List (Event α)) : Event α → Prop
  | .called _ => True
  | .asked x => (x.request.needsFree = true → holdsAfter false past = false) ∧
    match x.request with
    | .mount device path _ _ => path = dir ∧ PreparedIn device dir past
    | .unmount path => path = dir ∧ (holdsAfter false past = false → FoundIn dir past)
    | .spawn _ _ => holdsAfter false past = true
    | _ => True

/-- While a program is alive, its partition has to be mounted. -/
def aliveLaw (past : List (Event α)) (e : Event α) : Prop :=
  (Ledger.ofRecord (past ++ [e])).alive ≠ [] → holdsAfter false (past ++ [e]) = true

/-- Nothing in a record mounts or unmounts, or is spoken of by the law of mounts. -/
def Inert (es : List (Event α)) : Prop :=
  ∀ e ∈ es, (∀ dir past, mountLaw dir past e) ∧ ∀ held, e.holds held = held

namespace Inert

variable {es : List (Event α)}

/-- A record that is inert keeps the law of mounts. -/
theorem keeps (h : Inert es) (dir : Path) (past : List (Event α)) :
    Keeps (mountLaw dir) past es := Keeps.of_forall fun e he => (h e he).1 dir

/-- A record that is inert changes nothing about what is held. -/
theorem holdsAfter_eq (h : Inert es) (held : Bool) : holdsAfter held es = held :=
  holdsAfter_eq_self (fun e he => (h e he).2) held

/-- Calls are inert, and so are exchanges about neither mounts nor programs, slots or the
delivery. -/
theorem of_topics (h : ∀ x, .asked x ∈ es →
    x.request.topic ∉ [Topic.mounts, .programs, .slots, .delivery]) : Inert es := by
  intro e he
  cases e with
  | called c => exact ⟨fun _ _ => trivial, fun _ => rfl⟩
  | asked x =>
    have htopic := h x he
    obtain ⟨request, reply⟩ := x
    constructor
    · intro dir past
      constructor
      · intro hneeds
        cases request <;> simp [Request.needsFree] at hneeds htopic
      · cases request <;> simp at htopic ⊢
    · intro held
      cases request <;> first | rfl | simp at htopic

end Inert

/-- A device and a directory are found. -/
def finds (device dir : Path) : List (Exchange α) :=
  [⟨.pathExists device, true⟩, ⟨.pathExists dir, true⟩]

namespace Runner

/-- Finding out whether a path is free keeps the law where nothing is held. -/
theorem Clears.keeps_mountLaw {dir : Path} {cs : List (Exchange α)}
    {outcome : Except MountError Unit} (h : Clears dir cs outcome) {past : List (Event α)}
    (hfree : holdsAfter false past = false) :
    Keeps (mountLaw dir) past (cs.map .asked) ∧
      holdsAfter false (past ++ cs.map .asked) = false := by
  have hcheck : ∀ reply, mountLaw dir past (.asked ⟨.isMountPoint dir, reply⟩) :=
    fun reply => ⟨fun _ => hfree, trivial⟩
  have hremoves : ∀ reply, mountLaw dir (past ++ [.asked ⟨.isMountPoint dir, .ok true⟩])
      (.asked ⟨.unmount dir, reply⟩) :=
    fun reply => ⟨nofun, rfl, fun _ => ⟨past, rfl⟩⟩
  rw [holdsAfter_append, hfree]
  cases h with
  | free => exact ⟨⟨hcheck _, trivial⟩, rfl⟩
  | cleared => exact ⟨⟨hcheck _, hremoves _, trivial⟩, rfl⟩
  | unknown e => exact ⟨⟨hcheck _, trivial⟩, rfl⟩
  | stuck e => exact ⟨⟨hcheck _, hremoves _, trivial⟩, rfl⟩

/-- Where a path is free, that was found out right before. -/
theorem Clears.prepares {dir : Path} {cs : List (Exchange α)} (h : Clears dir cs (.ok ()))
    (device : Path) (past : List (Event α)) :
    PreparedIn device dir
      (past ++ cs.map .asked ++ [.asked ⟨.setReadonly device true, .ok ()⟩]) := by
  refine ⟨past, _, rfl, ?_⟩
  cases h with
  | free => exact Or.inl rfl
  | cleared => exact Or.inr rfl

/-- Mounting keeps the law where nothing is held, and then the partition is held if it was
mounted. -/
theorem Acquires.keeps_mountLaw {device dir : Path} {filesystem options : String}
    {xs : List (Exchange α)} {outcome : Except MountError ScopedMount}
    (h : Acquires device dir filesystem options xs outcome) {past : List (Event α)}
    (hfree : holdsAfter false past = false) :
    Keeps (mountLaw dir) past (xs.map .asked) ∧
      holdsAfter false (past ++ xs.map .asked) = outcome.isOk := by
  have hasks : ∀ (past : List (Event α)) (path : Path) (found : Bool),
      mountLaw dir past (.asked ⟨.pathExists path, found⟩) := fun _ _ _ => ⟨nofun, trivial⟩
  have hlocks : ∀ (past : List (Event α)) (reply : Except SystemError Unit),
      mountLaw dir past (.asked ⟨.setReadonly device true, reply⟩) := fun _ _ => ⟨nofun, trivial⟩
  have hbegins : ∀ {cs : List (Exchange α)} {outcome : Except MountError Unit},
      Clears dir cs outcome →
      Keeps (mountLaw dir) past ((finds device dir ++ cs).map .asked) ∧
        holdsAfter false (past ++ (finds device dir ++ cs).map .asked) = false := by
    intro cs outcome hclears
    have hfound : holdsAfter false (past ++ (finds device dir).map .asked) = false := by
      rw [holdsAfter_append, hfree]
      rfl
    obtain ⟨hkeeps, hfree'⟩ := hclears.keeps_mountLaw hfound
    rw [List.map_append, keeps_append, ← List.append_assoc]
    exact ⟨⟨⟨hasks .., hasks .., trivial⟩, hkeeps⟩, hfree'⟩
  have hextends : ∀ {cs : List (Exchange α)} {outcome : Except MountError Unit}
      (bs : List (Exchange α)), Clears dir cs outcome →
      Keeps (mountLaw dir) (past ++ (finds device dir ++ cs).map .asked) (bs.map .asked) →
      Keeps (mountLaw dir) past ((finds device dir ++ cs ++ bs).map .asked) ∧
        holdsAfter false (past ++ (finds device dir ++ cs ++ bs).map .asked) =
          holdsAfter false (bs.map .asked) := by
    intro cs outcome bs hclears hbs
    obtain ⟨hkeeps, hfree'⟩ := hbegins hclears
    rw [List.map_append, keeps_append, ← List.append_assoc, holdsAfter_append, hfree']
    exact ⟨⟨hkeeps, hbs⟩, rfl⟩
  have hmounts : ∀ {cs : List (Exchange α)} (reply : Except SystemError Unit),
      Clears dir cs (.ok ()) →
      Keeps (mountLaw dir) (past ++ (finds device dir ++ cs).map .asked)
        [.asked ⟨.setReadonly device true, .ok ()⟩,
          .asked ⟨.mount device dir filesystem options, reply⟩] := by
    intro cs reply hclears
    refine ⟨hlocks .., ⟨fun _ => ?_, rfl, ?_⟩, trivial⟩
    · rw [holdsAfter_append, (hbegins hclears).2]
      rfl
    · rw [List.map_append, ← List.append_assoc]
      exact hclears.prepares device _
  cases h with
  | noDevice =>
    refine ⟨⟨hasks .., trivial⟩, ?_⟩
    rw [holdsAfter_append, hfree]
    rfl
  | noDirectory =>
    refine ⟨⟨hasks .., hasks .., trivial⟩, ?_⟩
    rw [holdsAfter_append, hfree]
    rfl
  | blocked hclears => exact hbegins hclears
  | writable e hclears =>
    exact hextends [⟨.setReadonly device true, .error e⟩] hclears ⟨hlocks .., trivial⟩
  | refused e hclears => exact hextends [_, _] hclears (hmounts (.error e) hclears)
  | mounted hclears => exact hextends [_, _] hclears (hmounts (.ok ()) hclears)

/-- What is held can be unmounted. -/
theorem keeps_mountLaw_unmount {dir : Path} {past : List (Event α)}
    (hheld : holdsAfter false past = true) (reply : Except SystemError Unit) :
    Keeps (mountLaw dir) past [.asked ⟨.unmount dir, reply⟩] ∧
      holdsAfter false (past ++ [.asked ⟨.unmount dir, reply⟩]) = false := by
  refine ⟨⟨⟨nofun, rfl, fun hfree => ?_⟩, trivial⟩, ?_⟩
  · rw [hheld] at hfree
    cases hfree
  · rw [holdsAfter_append]
    rfl

/-- Unmounting what is held keeps the law. -/
theorem Unmounts.keeps_mountLaw {config : PostinstallConfig} {mounted : Bool}
    {us : List (Exchange α)} (h : Unmounts (heldIf config mounted) us) {past : List (Event α)}
    (hheld : holdsAfter false past = mounted) :
    Keeps (mountLaw config.mountDir) past (us.map .asked) ∧
      holdsAfter false (past ++ us.map .asked) = false := by
  cases mounted with
  | false =>
    obtain rfl : us = [] := List.map_eq_nil_iff.mp h
    exact ⟨trivial, by simpa using hheld⟩
  | true =>
    obtain ⟨⟨request, reply⟩, rfl, hrequest⟩ := List.map_eq_singleton_iff.mp h
    obtain rfl : request = .unmount config.mountDir := hrequest
    exact keeps_mountLaw_unmount hheld reply

/-- Where nothing is held, the slots can be touched and the result delivered. -/
theorem keeps_mountLaw_of_free {xs : List (Exchange α)}
    (h : About [.slots, .powerwash, .delivery] xs) (dir : Path) {past : List (Event α)}
    (hfree : holdsAfter false past = false) :
    Keeps (mountLaw dir) past (xs.map .asked) ∧
      holdsAfter false (past ++ xs.map .asked) = false := by
  have hheld : holdsAfter false (past ++ xs.map .asked) = false := by
    rw [holdsAfter_append, hfree, holdsAfter_of_about h (by decide)]
  refine ⟨?_, hheld⟩
  clear hheld
  induction xs generalizing past with
  | nil => trivial
  | cons x xs ih =>
    rw [About.cons_iff] at h
    obtain ⟨hx, hxs⟩ := h
    have hheld : holdsAfter false (past ++ [.asked x]) = false := by
      have habout : About [.slots, .powerwash, .delivery] [x] := by simpa using hx
      rw [holdsAfter_append, hfree]
      exact holdsAfter_of_about habout (by decide) false
    refine ⟨⟨fun _ => hfree, ?_⟩, ih hxs hheld⟩
    obtain ⟨request, reply⟩ := x
    cases request <;> simp at hx ⊢

/-- Looking for build properties mounts nothing. -/
theorem inert_of_inspects {is : List (Exchange α)}
    (h : ∀ x ∈ is, ∃ file, x.request = .readText file) : Inert (is.map .asked) := by
  apply Inert.of_topics
  intro x hx
  obtain ⟨y, hy, hsame⟩ := List.mem_map.mp hx
  obtain rfl := Event.asked.inj hsame
  obtain ⟨file, hfile⟩ := h y hy
  simp [hfile]

/-- Looking after a program mounts nothing. -/
theorem inert_of_attends {pid : Pid} {xs : List (Exchange α)} (h : ∀ x ∈ xs, x.Attends pid) :
    Inert (xs.map .asked) := by
  intro e he
  obtain ⟨x, hx, rfl⟩ := List.mem_map.mp he
  refine (h x hx).elim ?_ ?_ ?_ ?_ ?_ ?_ <;> intros <;>
    exact ⟨fun _ _ => ⟨nofun, trivial⟩, fun _ => rfl⟩

/-- Ending a program mounts nothing. -/
theorem EndsProgram.inert {pid : Pid} {stopped : Bool} {ks : List (Exchange α)}
    (h : EndsProgram pid stopped ks) : Inert (ks.map .asked) := by
  obtain ⟨resumed, ended, rfl⟩ := h
  cases stopped <;> simp [Inert, mountLaw, Event.holds, Request.needsFree]

/-- Mounting a partition keeps the law where nothing is held. -/
theorem Acquires.keeps_mountLaw_cons {device dir : Path} {filesystem options : String}
    {xs : List (Exchange α)} {outcome : Except MountError ScopedMount}
    (h : Acquires device dir filesystem options xs outcome) (name : String)
    {past : List (Event α)} (hfree : holdsAfter false past = false) :
    Keeps (mountLaw dir) past ((⟨.mountOptions name, options⟩ :: xs).map .asked) ∧
      holdsAfter false (past ++ (⟨.mountOptions name, options⟩ :: xs).map .asked) =
        outcome.isOk := by
  have hfree' : holdsAfter false (past ++ [.asked ⟨.mountOptions name, options⟩]) = false := by
    rw [holdsAfter_append, hfree]
    rfl
  obtain ⟨hkeeps, hheld⟩ := h.keeps_mountLaw hfree'
  rw [List.map_cons, List.append_cons]
  exact ⟨⟨⟨nofun, trivial⟩, hkeeps⟩, hheld⟩

/-- While a program runs, a step mounts and unmounts nothing. -/
theorem Step.inert {config : PostinstallConfig} {plan : InstallPlan} {scheduled : Bool}
    {pt pt' : Point} {es : List (Event α)} (h : Step config plan scheduled pt es pt')
    (hrunning : pt.child? ≠ none) :
    Inert es ∧ pt.isMounted = true ∧ pt'.isMounted = true := by
  cases h with
  | noted =>
    cases pt with
    | running => exact ⟨by simp [Inert, mountLaw, Event.holds], rfl, rfl⟩
    | _ => exact absurd rfl hrunning
  | attends hattends => exact ⟨inert_of_attends hattends, rfl, rfl⟩
  | suspends => exact ⟨by simp [Inert, mountLaw, Event.holds, Request.needsFree], rfl, rfl⟩
  | resumes => exact ⟨by simp [Inert, mountLaw, Event.holds, Request.needsFree], rfl, rfl⟩
  | balks => exact ⟨by simp [Inert, mountLaw, Event.holds, Request.needsFree], rfl, rfl⟩
  | exits hreports =>
    rcases hreports with rfl | rfl
    · exact ⟨by simp [Inert, mountLaw, Event.holds], rfl, rfl⟩
    · exact ⟨by simp [Inert, mountLaw, Event.holds, Request.needsFree], rfl, rfl⟩
  | aborts hfails hkills =>
    have hks := hkills.inert
    obtain ⟨e, rfl | rfl⟩ := hfails
    · exact ⟨List.forall_mem_cons.mpr ⟨⟨fun _ _ => ⟨nofun, trivial⟩, fun _ => rfl⟩, hks⟩, rfl, rfl⟩
    · exact ⟨List.forall_mem_cons.mpr ⟨⟨fun _ _ => ⟨nofun, trivial⟩, fun _ => rfl⟩, hks⟩, rfl, rfl⟩
  | cancels hkills => exact ⟨hkills.inert, rfl, rfl⟩
  | _ => exact absurd rfl hrunning

/-- Every step keeps the law of mounts, and leads to the mounts of its point. -/
theorem Step.keeps_mountLaw {config : PostinstallConfig} {plan : InstallPlan} {scheduled : Bool}
    {pt pt' : Point} {es : List (Event α)} (h : Step config plan scheduled pt es pt')
    {past : List (Event α)} (hheld : holdsAfter false past = pt.isMounted) :
    Keeps (mountLaw config.mountDir) past es ∧
      holdsAfter false (past ++ es) = pt'.isMounted := by
  by_cases hrunning : pt.child? = none
  case neg =>
    obtain ⟨hinert, hmounted, hmounted'⟩ := h.inert hrunning
    refine ⟨hinert.keeps _ _, ?_⟩
    rw [holdsAfter_append, hheld, hmounted, hmounted']
    exact hinert.holdsAfter_eq true
  case pos =>
  cases h with
  | noted => exact ⟨⟨trivial, trivial⟩, by rwa [holdsAfter_append]⟩
  | sourceless => exact ⟨trivial, by rwa [List.append_nil]⟩
  | finishes => exact ⟨trivial, by rwa [List.append_nil]⟩
  | skips => exact ⟨trivial, by rwa [List.append_nil]⟩
  | misplaced => exact ⟨trivial, by rwa [List.append_nil]⟩
  | unmountable _ _ hacquires => exact hacquires.keeps_mountLaw_cons _ hheld
  | mounts _ _ hacquires hinspects =>
    have hinert := inert_of_inspects hinspects
    obtain ⟨hkeeps, hmounted⟩ := hacquires.keeps_mountLaw_cons _ hheld
    rw [← List.cons_append, List.map_append, keeps_append, ← List.append_assoc, holdsAfter_append,
      hmounted]
    exact ⟨⟨hkeeps, hinert.keeps _ _⟩, hinert.holdsAfter_eq _⟩
  | probed => exact keeps_mountLaw_unmount hheld _
  | sticks => exact keeps_mountLaw_unmount hheld _
  | starts contents reply =>
    refine ⟨⟨⟨nofun, trivial⟩, ⟨nofun, ?_⟩, ⟨nofun, trivial⟩, trivial⟩, ?_⟩
    · rw [holdsAfter_append, hheld]
      rfl
    · rw [holdsAfter_append, hheld]
      rfl
  | fails contents reply =>
    refine ⟨⟨⟨nofun, trivial⟩, ⟨nofun, ?_⟩, trivial⟩, ?_⟩
    · rw [holdsAfter_append, hheld]
      rfl
    · rw [holdsAfter_append, hheld]
      rfl
  | passes share _ _ hus =>
    obtain ⟨hkeeps, hfree⟩ := hus.keeps_mountLaw hheld
    rw [List.map_append, keeps_append, ← List.append_assoc, holdsAfter_append, hfree]
    exact ⟨⟨hkeeps, ⟨nofun, trivial⟩, trivial⟩, rfl⟩
  | givesUp => exact ⟨trivial, by rwa [List.append_nil]⟩
  | @ends _ c _ us ss ps hus hss hps =>
    have hss' : About [.slots, .powerwash, .delivery] ss := hss.about.mono (by decide)
    have hps' : About [.slots, .powerwash, .delivery] ps :=
      (about_of_takesBack hps).mono (by decide)
    have habout : About [.slots, .powerwash, .delivery] (ss ++ ps ++ [⟨.complete c, ()⟩]) := by
      simp [hss', hps']
    obtain ⟨hkeeps, hfree⟩ := hus.keeps_mountLaw hheld
    obtain ⟨hkeeps', hfree'⟩ := keeps_mountLaw_of_free habout config.mountDir hfree
    rw [List.append_assoc, List.append_assoc, ← List.append_assoc ss, List.map_append, keeps_append,
      ← List.append_assoc]
    exact ⟨⟨hkeeps, hkeeps'⟩, hfree'⟩
  | unmaps reply =>
    refine ⟨⟨⟨nofun, trivial⟩, trivial⟩, ?_⟩
    rw [holdsAfter_append, hheld]
    rfl
  | _ => cases hrunning

/-- While a partition is held and not unmounted, programs can be alive. -/
theorem keeps_aliveLaw_of_held {past es : List (Event α)} (hheld : holdsAfter false past = true)
    (hes : ∀ e ∈ es, e.holds true = true) : Keeps aliveLaw past es := by
  induction es generalizing past with
  | nil => trivial
  | cons e es ih =>
    have hheld' : holdsAfter false (past ++ [e]) = true := by
      rw [holdsAfter_append, hheld]
      exact hes e List.mem_cons_self
    exact ⟨fun _ => hheld', ih hheld' fun f hf => hes f (List.mem_cons_of_mem e hf)⟩

/-- Where no program is alive, none comes alive by calls and by exchanges that are not about
programs. -/
theorem keeps_aliveLaw_of_dead {past es : List (Event α)}
    (hdead : (Ledger.ofRecord past).alive = [])
    (hes : ∀ x, .asked x ∈ es → x.request.topic ≠ .programs) : Keeps aliveLaw past es := by
  induction es generalizing past with
  | nil => trivial
  | cons e es ih =>
    have hdead' : (Ledger.ofRecord (past ++ [e])).alive = [] := by
      rw [Ledger.ofRecord_append, Ledger.events_cons, Ledger.events_nil]
      cases e with
      | called c =>
        cases c with
        | exited pid code =>
          have hstale : pid ∉ (Ledger.ofRecord past).alive := by
            rw [hdead]
            exact List.not_mem_nil
          have hsame : (Ledger.ofRecord past).exit pid = Ledger.ofRecord past := if_neg hstale
          exact (congrArg Ledger.alive hsame).trans hdead
        | _ => exact hdead
      | asked x =>
        have hsame := Ledger.exchange_eq_self (Ledger.ofRecord past) (hes x List.mem_cons_self)
        exact (congrArg Ledger.alive hsame).trans hdead
    exact ⟨fun halive => absurd hdead' halive,
      ih hdead' fun x hx => hes x (List.mem_cons_of_mem e hx)⟩

/-- In every step programs are alive only while their partition is mounted. -/
theorem Step.keeps_aliveLaw {config : PostinstallConfig} {plan : InstallPlan} {scheduled : Bool}
    {pt pt' : Point} {es : List (Event α)} (h : Step config plan scheduled pt es pt')
    {past : List (Event α)} (hheld : holdsAfter false past = pt.isMounted)
    (halive : (Ledger.ofRecord past).alive = pt.child?.toList) : Keeps aliveLaw past es := by
  by_cases hrunning : pt.child? = none
  case neg =>
    obtain ⟨hinert, hmounted, -⟩ := h.inert hrunning
    rw [hmounted] at hheld
    exact keeps_aliveLaw_of_held hheld fun e he => (hinert e he).2 true
  case pos =>
  rw [hrunning] at halive
  have hother : ∀ (topics : List Topic) (xs : List (Exchange α)), About topics xs →
      .programs ∉ topics → Keeps aliveLaw past (xs.map .asked) := by
    intro topics xs hxs hprograms
    refine keeps_aliveLaw_of_dead halive fun x hx heq => ?_
    obtain ⟨y, hy, hsame⟩ := List.mem_map.mp hx
    obtain rfl := Event.asked.inj hsame
    exact hprograms (heq ▸ hxs y hy)
  cases h with
  | noted =>
    refine keeps_aliveLaw_of_dead halive fun x hx => ?_
    cases List.mem_singleton.mp hx
  | sourceless => trivial
  | finishes => trivial
  | skips => trivial
  | misplaced => trivial
  | unmountable _ _ hacquires => exact hother _ _ (hacquires.about_cons _) (by decide)
  | mounts _ _ hacquires hinspects =>
    exact hother _ _ (hacquires.about_inspected _ hinspects) (by decide)
  | probed => exact hother [.mounts] [⟨.unmount _, _⟩] (by simp) (by decide)
  | sticks => exact hother [.mounts] [⟨.unmount _, _⟩] (by simp) (by decide)
  | starts => exact keeps_aliveLaw_of_held hheld (by simp [Event.holds])
  | fails => exact keeps_aliveLaw_of_held hheld (by simp [Event.holds])
  | passes share _ _ hus => exact hother _ _ (hus.about_passed share) (by decide)
  | givesUp => trivial
  | ends hus hss hps => exact hother Topic.ending _ (about_of_ends hus hss hps) (by decide)
  | unmaps reply => exact hother [.mapping] [⟨.unmapAll, reply⟩] (by simp) (by decide)
  | _ => cases hrunning

/-- In the record of an attempt the laws are kept, and a partition is held if it is mounted at the
point to which the record leads. -/
theorem Course.mounts {config : PostinstallConfig} {plan : InstallPlan} {scheduled : Bool}
    {es : List (Event α)} {pt : Point} (h : Course config plan scheduled es pt) :
    holdsAfter false es = pt.isMounted ∧ Keeps (mountLaw config.mountDir) [] es ∧
      Keeps aliveLaw [] es := by
  induction h with
  | @opens before c _ xs pt hsilent _ _ _ hopens =>
    have hbegins : ∀ x, .asked x ∈ before ++ .called c :: xs.map .asked →
        x.request.topic ∈ Topic.beginning := by
      intro x hx
      rw [← Event.mem_exchanges, Event.exchanges_append, hsilent, Event.exchanges_called_cons,
        Event.exchanges_map_asked] at hx
      exact hopens.about x hx
    have hinert : Inert (before ++ .called c :: xs.map .asked) := by
      apply Inert.of_topics
      intro x hx
      have hdisjoint : ∀ topic ∈ Topic.beginning,
          topic ∉ [Topic.mounts, .programs, .slots, .delivery] := by decide
      exact hdisjoint _ (hbegins x hx)
    refine ⟨?_, hinert.keeps _ _, keeps_aliveLaw_of_dead rfl ?_⟩
    · rw [hinert.holdsAfter_eq]
      cases hopens <;> rfl
    · intro x hx heq
      have hmem := hbegins x hx
      rw [heq] at hmem
      simp at hmem
  | @step es fs _ _ hcourse hstep ih =>
    obtain ⟨hheld, hmounts, halive⟩ := ih
    obtain ⟨hmounts', hheld'⟩ := hstep.keeps_mountLaw hheld
    rw [keeps_append, keeps_append]
    exact ⟨hheld', ⟨hmounts, hmounts'⟩, halive, hstep.keeps_aliveLaw hheld hcourse.alive⟩

/-! ## Balance -/

/-- That mounts at a directory are exclusive and balanced in a record. -/
structure BalancesMounts (dir : Path) (es : List (Event α)) : Prop where
  /-- In the end nothing is left to be unmounted. -/
  released : holdsAfter false es = false
  /-- A partition that was mounted is unmounted. Before that nothing else is mounted or unmounted,
  the slots are not touched, and no result is delivered. -/
  balanced : ∀ before device path filesystem options after,
    es = before ++ .asked ⟨.mount device path filesystem options, .ok ()⟩ :: after →
      ∃ during reply rest, after = during ++ .asked ⟨.unmount dir, reply⟩ :: rest ∧
        ∀ x, .asked x ∈ during → x.request.needsFree = false ∧ ∀ q, x.request ≠ .unmount q
  /-- Every unmounting is either for a partition that was mounted and not unmounted since, or for
  something else that was found mounted right before. -/
  removed : ∀ before path reply after, es = before ++ .asked ⟨.unmount path, reply⟩ :: after →
    path = dir ∧ (holdsAfter false before = true ↔ ¬FoundIn dir before)
  /-- A partition is mounted only where nothing was found mounted right before, or what was found
  was removed, and after its device was made read-only. -/
  prepared : ∀ before device path filesystem options reply after,
    es = before ++ .asked ⟨.mount device path filesystem options, reply⟩ :: after →
      path = dir ∧ PreparedIn device dir before
  /-- While a partition is mounted nothing is asked for that has to wait for its unmounting. -/
  free : ∀ before x after, es = before ++ .asked x :: after → x.request.needsFree = true →
    holdsAfter false before = false
  /-- A program is started only while a partition is mounted. -/
  spawned : ∀ before argv statusFd reply after,
    es = before ++ .asked ⟨.spawn argv statusFd, reply⟩ :: after → holdsAfter false before = true
  /-- It is alive only while one is. -/
  alive : ∀ before after, es = before ++ after → (Ledger.ofRecord before).alive ≠ [] →
    holdsAfter false before = true

/-- What is held stays so until it is unmounted. -/
theorem exists_unmount {es : List (Event α)} (h : holdsAfter true es = false) :
    ∃ during path reply rest, es = during ++ .asked ⟨.unmount path, reply⟩ :: rest ∧
      ∀ e ∈ during, e.holds true = true := by
  induction es with
  | nil => cases h
  | cons e es ih =>
    rw [holdsAfter_cons] at h
    cases hholds : e.holds true with
    | true =>
      rw [hholds] at h
      obtain ⟨during, path, reply, rest, rfl, hduring⟩ := ih h
      exact ⟨e :: during, path, reply, rest, rfl, List.forall_mem_cons.mpr ⟨hholds, hduring⟩⟩
    | false =>
      obtain ⟨path, reply, rfl⟩ := exists_of_not_holds hholds
      exact ⟨[], path, reply, es, rfl, fun _ hmem => nomatch hmem⟩

/-- Mounts are balanced in a record that keeps the laws and holds nothing in the end. -/
theorem balancesMounts_of_laws {dir : Path} {es : List (Event α)}
    (hmounts : Keeps (mountLaw dir) [] es) (halive : Keeps aliveLaw [] es)
    (hfree : holdsAfter false es = false) : BalancesMounts dir es := by
  constructor
  case released => exact hfree
  case balanced =>
    intro before device path filesystem options after hes
    have hheld : holdsAfter true after = false := by
      rw [hes, holdsAfter_append] at hfree
      exact hfree
    obtain ⟨during, path', reply, rest, rfl, hduring⟩ := exists_unmount hheld
    have hunmount := hes
    rw [← List.cons_append, ← List.append_assoc] at hunmount
    obtain ⟨-, rfl, -⟩ := hmounts.of_split hunmount
    refine ⟨during, reply, rest, rfl, ?_⟩
    intro x hx
    constructor
    · obtain ⟨first, second, rfl⟩ := List.append_of_mem hx
      have hsplit : es = (before ++ [.asked ⟨.mount device path filesystem options, .ok ()⟩] ++
          first) ++ .asked x :: (second ++ .asked ⟨.unmount path', reply⟩ :: rest) := by
        simpa using hes
      have hstill : holdsAfter false (before ++
          [.asked ⟨.mount device path filesystem options, .ok ()⟩] ++ first) = true := by
        rw [holdsAfter_append, holdsAfter_append]
        exact holdsAfter_of_holds fun e he => hduring e (List.mem_append_left _ he)
      cases hneeds : x.request.needsFree with
      | false => rfl
      | true =>
        rw [(hmounts.of_split hsplit).1 hneeds] at hstill
        cases hstill
    · intro q hq
      have hholds := hduring _ hx
      obtain ⟨request, reply'⟩ := x
      obtain rfl : request = .unmount q := hq
      cases hholds
  case removed =>
    intro before path reply after hes
    obtain ⟨-, hpath, hfound⟩ := hmounts.of_split hes
    refine ⟨hpath, ?_, ?_⟩
    · rintro hheld ⟨earlier, rfl⟩
      -- What is mounted is not looked for while a partition is held.
      rw [List.append_assoc] at hes
      have hcheck := (hmounts.of_split hes).1 rfl
      rw [holdsAfter_append, hcheck] at hheld
      cases hheld
    · intro hnone
      cases hheld : holdsAfter false before with
      | true => rfl
      | false => exact absurd (hfound hheld) hnone
  case prepared =>
    intro before device path filesystem options reply after hes
    exact (hmounts.of_split hes).2
  case free =>
    intro before x after hes
    exact (hmounts.of_split hes).1
  case spawned =>
    intro before argv statusFd reply after hes
    exact (hmounts.of_split hes).2
  case alive =>
    intro before after hes halive'
    rcases List.eq_nil_or_concat before with rfl | ⟨earlier, e, hbefore⟩
    · exact absurd rfl halive'
    · rw [List.concat_eq_append] at hbefore
      subst hbefore
      rw [List.append_assoc] at hes
      exact halive.of_split hes halive'

/-- Mounts are balanced in every record on the map where no attempt goes on. -/
theorem Charted.balancesMounts {config : PostinstallConfig} {start : Option InstallPlan}
    {es : List (Event α)} {r : Runner} (h : Charted config start es r)
    (hchild : r.child = none) : BalancesMounts config.mountDir es := by
  cases h with
  | idle _ hsilent =>
    have hinert : Inert es :=
      Inert.of_topics fun x hx => absurd hx (Event.not_mem_of_silent hsilent x)
    exact balancesMounts_of_laws (hinert.keeps _ _)
      (keeps_aliveLaw_of_dead rfl fun x hx => absurd hx (Event.not_mem_of_silent hsilent x))
      (hinert.holdsAfter_eq false)
  | begun harrives =>
    obtain ⟨pt, hcourse, hrests⟩ := harrives
    obtain ⟨hheld, hmounts, halive⟩ := hcourse.mounts
    cases hrests with
    | running _ _ child =>
      rw [childPid_eq_none hchild] at child
      cases child
    | done => exact balancesMounts_of_laws hmounts halive hheld

end Runner

/-! ## The mounter in memory -/

namespace Memory

/-- What is removed from a list of paths is not in it. -/
theorem isIn_removeFrom (path : Path) (paths : List Path) :
    path.isIn (path.removeFrom paths) = false := by
  simp [Path.isIn, Path.removeFrom]

/-- Waiting for a program changes nothing about what is mounted. -/
theorem mounted_tryWait (m : Memory α) (pid : Pid) : (m.tryWait pid).2.mounted = m.mounted := by
  unfold tryWait
  split
  · rfl
  · split
    · rfl
    · rename_i item rest _
      cases item with
      | status data =>
        unfold act
        dsimp only
        split <;> rfl
      | _ => rfl
    · split <;> rfl

/-- A request that is guarded by a fault changes about what is mounted only what acting on it
does. -/
theorem mounted_guarded {ρ : Type} (m : Memory α) (fault : Fault) (failure : ρ) (q : Request α)
    {act : Memory α → ρ × Memory α} (hact : ∀ m', (act m').2.mounted = m'.mounted) :
    (m.guarded fault failure q act).2.mounted = m.mounted := by
  unfold guarded
  split
  · rfl
  · exact hact (m.receive q)

/-- Only mounting and unmounting change what is mounted in memory. -/
theorem mounted_reply (m : Memory α) {q : Request α}
    (hmount : ∀ device path filesystem options, q ≠ .mount device path filesystem options)
    (hunmount : ∀ path, q ≠ .unmount path) : (m.reply q).2.mounted = m.mounted := by
  unfold reply
  cases q with
  | mount => exact absurd rfl (hmount _ _ _ _)
  | unmount => exact absurd rfl (hunmount _)
  | tryWait pid => exact mounted_tryWait m pid
  | spawn argv statusFd =>
    dsimp only
    unfold spawn
    split <;> rfl
  | signal pid s =>
    apply mounted_guarded
    intro m'
    dsimp only
    split <;> rfl
  | setActive slot =>
    dsimp only
    split <;> rfl
  | schedulePowerwash =>
    dsimp only
    split <;> rfl
  | readStatus pid once =>
    dsimp only
    split <;> rfl
  | unmapAll => exact mounted_guarded m _ _ _ fun _ => rfl
  | cancelPowerwash => exact mounted_guarded m _ _ _ fun _ => rfl
  | vbmetaDigest reset => exact mounted_guarded m _ _ _ fun _ => rfl
  | setReadonly device on => exact mounted_guarded m _ _ _ fun _ => rfl
  | _ => rfl

/-- Mounting that fails changes nothing about what is mounted in memory. -/
theorem mounted_of_mount_error {m : Memory α} {device path : Path} {filesystem options : String}
    {e : SystemError} (h : (m.reply (.mount device path filesystem options)).1 = .error e) :
    (m.reply (.mount device path filesystem options)).2.mounted = m.mounted := by
  unfold reply at h ⊢
  dsimp only at h ⊢
  split at h
  · rename_i hfault
    rw [if_pos hfault]
    rfl
  · cases h

/-- Unmounting that succeeds removes what is mounted in memory. -/
theorem mounted_of_unmount_ok {m : Memory α} {path : Path}
    (h : (m.reply (.unmount path)).1 = .ok ()) :
    (m.reply (.unmount path)).2.mounted = path.removeFrom m.mounted := by
  unfold reply at h ⊢
  dsimp only at h ⊢
  split at h
  · cases h
  · rename_i hfault
    rw [if_neg hfault]
    rfl

/-- A directory at which something is mounted in memory is held, if nothing was mounted there
before, only it was unmounted, and no unmounting failed. -/
theorem holds_of_mounted {dir : Path} {xs : List (Exchange α)} {m m' : Memory α}
    (h : Platform.Answers platform m xs m') {held : Bool}
    (hstart : dir.isIn m.mounted = true → held = true)
    (hunmounts : ∀ path reply, ⟨.unmount path, reply⟩ ∈ xs → path = dir ∧ reply = .ok ())
    (hmounted : dir.isIn m'.mounted = true) : holdsAfter held (xs.map .asked) = true := by
  induction xs generalizing m held with
  | nil =>
    obtain rfl : m' = m := h
    exact hstart hmounted
  | cons x xs ih =>
    obtain ⟨hreply, hrest⟩ := h
    refine ih hrest ?_ fun path reply hmem => hunmounts path reply (List.mem_cons_of_mem x hmem)
    obtain ⟨request, reply⟩ := x
    have hsame : (∀ device path filesystem options,
        request ≠ .mount device path filesystem options) → (∀ path, request ≠ .unmount path) →
        dir.isIn (m.reply request).2.mounted = true → held = true := by
      intro hmount hunmount
      rw [mounted_reply m hmount hunmount]
      exact hstart
    cases request with
    | mount device path filesystem options =>
      cases reply with
      | ok u => exact fun _ => rfl
      | error e =>
        intro hin
        apply hstart
        rwa [← mounted_of_mount_error hreply]
    | unmount path =>
      obtain ⟨rfl, rfl⟩ := hunmounts path reply List.mem_cons_self
      intro hin
      have hgone : path.isIn (m.reply (.unmount path)).2.mounted = false := by
        rw [mounted_of_unmount_ok hreply]
        exact isIn_removeFrom path _
      exact absurd (hgone.symm.trans hin) Bool.false_ne_true
    | _ => exact hsame nofun nofun

end Memory

namespace Runner

/-- Calls change nothing about what is held. -/
theorem holdsAfter_exchanges (held : Bool) (es : List (Event α)) :
    holdsAfter held ((Event.exchanges es).map .asked) = holdsAfter held es := by
  induction es generalizing held with
  | nil => rfl
  | cons e es ih =>
    cases e with
    | called c => exact ih held
    | asked x => exact ih _

/-- Where mounts are balanced and no unmounting fails, nothing stays mounted in memory. -/
theorem BalancesMounts.not_mounted {dir : Path} {es : List (Event α)} (h : BalancesMounts dir es)
    {m m' : Memory α} (hanswers : Memory.platform.Answers m (Event.exchanges es) m')
    (hstart : dir.isIn m.mounted = false)
    (hunmounts : ∀ path e, ⟨.unmount path, .error e⟩ ∉ Event.exchanges es) :
    dir.isIn m'.mounted = false := by
  have hreplies : ∀ path reply, ⟨.unmount path, reply⟩ ∈ Event.exchanges es →
      path = dir ∧ reply = .ok () := by
    intro path reply hmem
    obtain ⟨before, after, hes⟩ := List.append_of_mem (Event.mem_exchanges.mp hmem)
    refine ⟨(h.removed before path reply after hes).1, ?_⟩
    cases reply with
    | ok u => rfl
    | error e => exact absurd hmem (hunmounts path e)
  cases hmounted : dir.isIn m'.mounted with
  | false => rfl
  | true =>
    have hstart' : dir.isIn m.mounted = true → false = true := fun hin => hstart.symm.trans hin
    have hheld := Memory.holds_of_mounted hanswers hstart' hreplies hmounted
    rw [holdsAfter_exchanges, h.released] at hheld
    cases hheld

variable [ProgressNumber α]

/-- Mounts are balanced on every platform and for all calls, once an attempt has ended, and when a
runner is given up. With the mounter in memory nothing is mounted at the directory then, if nothing
was before and no unmounting failed. -/
theorem balances_mounts (config : PostinstallConfig) (cs : List RunnerCall) (p : Platform α σ)
    (s : σ) :
    ((afterCalls config cs p s).result.result.isSome = true →
      BalancesMounts config.mountDir (record p (new config) cs s)) ∧
    BalancesMounts config.mountDir (lifetimeRecord config cs p s) ∧
    ∀ m : Memory α, config.mountDir.isIn m.mounted = false →
      ((afterCalls config cs Memory.platform m).result.result.isSome = true →
        (∀ path e,
          ⟨.unmount path, .error e⟩ ∉ (afterCalls config cs Memory.platform m).exchanges) →
        config.mountDir.isIn (afterCalls config cs Memory.platform m).state.mounted = false) ∧
      ((∀ path e,
          ⟨.unmount path, .error e⟩ ∉ (afterLifetime config cs Memory.platform m).exchanges) →
        config.mountDir.isIn (afterLifetime config cs Memory.platform m).state.mounted =
          false) := by
  have hcalls : ∀ {τ : Type} (q : Platform α τ) (t : τ),
      (afterCalls config cs q t).result.result.isSome = true →
      BalancesMounts config.mountDir (record q (new config) cs t) := by
    intro τ q t hover
    obtain ⟨code, hcode⟩ := Option.isSome_iff_exists.mp hover
    have hdone := (afterCalls_stable config cs q t).isDone hcode
    exact (afterCalls_charted config cs q t).balancesMounts hdone.2.child
  have hlifetime : ∀ {τ : Type} (q : Platform α τ) (t : τ),
      BalancesMounts config.mountDir (lifetimeRecord config cs q t) := by
    intro τ q t
    exact (lifetime_charted config cs q t).balancesMounts (afterLifetime_child config cs q t)
  refine ⟨hcalls p s, hlifetime p s, ?_⟩
  intro m hstart
  constructor
  · intro hover hunmounts
    have hexchanges : Event.exchanges (record Memory.platform (new config) cs m) =
        (afterCalls config cs Memory.platform m).exchanges := record_exchanges ..
    refine (hcalls Memory.platform m hover).not_mounted ?_ hstart ?_
    · rw [hexchanges]
      exact ((Action.ensures_true ((new config).calls cs)).run Memory.platform m).2
    · rw [hexchanges]
      exact hunmounts
  · intro hunmounts
    have hexchanges := lifetimeRecord_exchanges config cs Memory.platform m
    refine (hlifetime Memory.platform m).not_mounted ?_ hstart ?_
    · rw [hexchanges]
      exact ((Action.ensures_true (lifetime config cs)).run Memory.platform m).2
    · rw [hexchanges]
      exact hunmounts

end Runner

end SlotUpdate
