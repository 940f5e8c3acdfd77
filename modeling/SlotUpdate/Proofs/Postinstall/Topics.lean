import SlotUpdate.Proofs.Postinstall.Course

/-!
# What records are about

`About` tells what exchanges can be about, whatever the replies are. A view of a record that is
about something else can leave them out (`About.filter_eq_nil`). This goes for the beginning of an
attempt (`Opens.about`), for its end (`about_of_ends`) and for all steps between them
(`Step.about`).
-/

namespace SlotUpdate

variable {α : Type}

/-- What a request is about. -/
inductive Topic where
  /-- The mapping of partitions. -/
  | mapping
  /-- The powerwash. -/
  | powerwash
  /-- The slots. -/
  | slots
  /-- What is mounted, and how. -/
  | mounts
  /-- The contents of files. -/
  | files
  /-- The programs that run. -/
  | programs
  /-- How far the attempt is. -/
  | progress
  /-- How it ended. -/
  | delivery
  deriving Repr, DecidableEq

namespace Topic

/-- What an attempt asks about at its beginning. -/
def beginning : List Topic := [mapping, powerwash, progress]

/-- What an attempt asks about between its beginning and its end. -/
def ongoing : List Topic := [mounts, files, programs, progress]

/-- What an attempt asks about at its end. -/
def ending : List Topic := [mounts, slots, powerwash, delivery]

/-- The topics of a beginning, one by one. -/
@[simp]
theorem mem_beginning (topic : Topic) :
    topic ∈ beginning ↔ topic = mapping ∨ topic = powerwash ∨ topic = progress := by
  simp [beginning]

/-- The topics between a beginning and an end, one by one. -/
@[simp]
theorem mem_ongoing (topic : Topic) :
    topic ∈ ongoing ↔ topic = mounts ∨ topic = files ∨ topic = programs ∨ topic = progress := by
  simp [ongoing]

/-- The topics of an end, one by one. -/
@[simp]
theorem mem_ending (topic : Topic) :
    topic ∈ ending ↔ topic = mounts ∨ topic = slots ∨ topic = powerwash ∨ topic = delivery := by
  simp [ending]

end Topic

/-- What a request is about. -/
@[simp]
def Request.topic : Request α → Topic
  | .isVirtualAb | .mapAll | .unmapAll => .mapping
  | .schedulePowerwash | .cancelPowerwash => .powerwash
  | .finishUpdate _ | .setActive _ | .warmReset _ | .vbmetaDigest _ => .slots
  | .mountOptions _ | .pathExists _ | .isMountPoint _ | .setReadonly _ _ | .mount _ _ _ _
  | .unmount _ => .mounts
  | .readText _ | .readProgram _ => .files
  | .spawn _ _ | .setNonblocking _ | .awaitStatus _ | .pause | .readStatus _ _ | .tryWait _
  | .signal _ _ | .release _ => .programs
  | .progress _ => .progress
  | .complete _ => .delivery

/-- Exchanges are about given topics, and about nothing else. -/
def About (topics : List Topic) (xs : List (Exchange α)) : Prop :=
  ∀ x ∈ xs, x.request.topic ∈ topics

namespace About

variable {topics : List Topic} {xs : List (Exchange α)}

/-- No exchange is about anything. -/
@[simp]
theorem nil : About topics ([] : List (Exchange α)) := fun _ hx => nomatch hx

/-- The first of several exchanges is about the topics, and so are the others. -/
@[simp]
theorem cons_iff (x : Exchange α) (xs : List (Exchange α)) :
    About topics (x :: xs) ↔ x.request.topic ∈ topics ∧ About topics xs := by
  unfold About
  exact List.forall_mem_cons

/-- Exchanges after exchanges are about the topics if both are. -/
@[simp]
theorem append_iff (xs ys : List (Exchange α)) :
    About topics (xs ++ ys) ↔ About topics xs ∧ About topics ys := by
  unfold About
  exact List.forall_mem_append

/-- What exchanges are about depends on the requests only. -/
theorem of_requests {qs : List (Request α)} (h : xs.map (·.request) = qs)
    (hqs : ∀ q ∈ qs, q.topic ∈ topics) : About topics xs := by
  intro x hx
  apply hqs
  rw [← h]
  exact List.mem_map_of_mem hx

/-- Exchanges about some topics are about more. -/
theorem mono {topics' : List Topic} (h : About topics xs) (hmore : topics ⊆ topics') :
    About topics' xs := fun x hx => hmore (h x hx)

/-- What exchanges are not about is not found among them. -/
theorem filter_eq_nil (h : About topics xs) {kind : Exchange α → Bool} {others : List Topic}
    (hkind : ∀ x, kind x = true → x.request.topic ∈ others)
    (hdisjoint : ∀ topic ∈ topics, topic ∉ others) : xs.filter kind = [] := by
  rw [List.filter_eq_nil_iff]
  intro x hx hx'
  exact hdisjoint _ (h x hx) (hkind x hx')

end About

namespace Runner

/-- Unmounting is about mounts. -/
theorem Unmounts.about {held : Option ScopedMount} {us : List (Exchange α)}
    (h : Unmounts held us) : About [.mounts] us := by
  apply About.of_requests h
  cases held with
  | none => simp
  | some m => simp

/-- Finding out whether a path is free is about mounts. -/
theorem Clears.about {mountPoint : Path} {cs : List (Exchange α)} {outcome : Except MountError Unit}
    (h : Clears mountPoint cs outcome) : About [.mounts] cs := by
  cases h with
  | free => simp
  | cleared => simp
  | unknown => simp
  | stuck => simp

/-- Mounting is about mounts. -/
theorem Acquires.about {device mountPoint : Path} {filesystem options : String}
    {xs : List (Exchange α)} {outcome : Except MountError ScopedMount}
    (h : Acquires device mountPoint filesystem options xs outcome) : About [.mounts] xs := by
  cases h with
  | noDevice => simp
  | noDirectory => simp
  | blocked hclears => simp [hclears.about]
  | writable _ hclears => simp [hclears.about]
  | refused _ hclears => simp [hclears.about]
  | mounted hclears => simp [hclears.about]

/-- Looking for build properties is about files. -/
theorem about_of_inspects {is : List (Exchange α)}
    (h : ∀ x ∈ is, ∃ file, x.request = .readText file) : About [.files] is := by
  intro x hx
  obtain ⟨file, hfile⟩ := h x hx
  simp [hfile]

/-- Trying to mount a partition is about mounts. -/
theorem Acquires.about_cons {device mountPoint : Path} {filesystem options : String}
    {xs : List (Exchange α)} {outcome : Except MountError ScopedMount}
    (h : Acquires device mountPoint filesystem options xs outcome) (name : String) :
    About [.mounts] (⟨.mountOptions name, options⟩ :: xs) := by
  simp [h.about]

/-- Mounting a partition and looking at it is about mounts and files. -/
theorem Acquires.about_inspected {device mountPoint : Path} {filesystem options : String}
    {xs is : List (Exchange α)} {outcome : Except MountError ScopedMount}
    (h : Acquires device mountPoint filesystem options xs outcome) (name : String)
    (his : ∀ x ∈ is, ∃ file, x.request = .readText file) :
    About [.mounts, .files] (⟨.mountOptions name, options⟩ :: (xs ++ is)) := by
  have hmounts : About [.mounts, .files] (⟨.mountOptions name, options⟩ :: xs) :=
    (h.about_cons name).mono (by decide)
  have hfiles : About [.mounts, .files] is := (about_of_inspects his).mono (by decide)
  rw [← List.cons_append, About.append_iff]
  exact ⟨hmounts, hfiles⟩

/-- Leaving a partition behind is about mounts and progress. -/
theorem Unmounts.about_passed {held : Option ScopedMount} {us : List (Exchange α)}
    (h : Unmounts held us) (share : α) :
    About [.mounts, .progress] (us ++ [(⟨.progress share, ()⟩ : Exchange α)]) := by
  have hmounts : About [.mounts, .progress] us := h.about.mono (by decide)
  simp [hmounts]

/-- Looking after a program is about programs and progress. -/
theorem about_of_attends {pid : Pid} {xs : List (Exchange α)} (h : ∀ x ∈ xs, x.Attends pid) :
    About [.programs, .progress] xs := by
  intro x hx
  refine (h x hx).elim ?_ ?_ ?_ ?_ ?_ ?_ <;> intros <;> simp

/-- Ending a program is about programs. -/
theorem EndsProgram.about {pid : Pid} {stopped : Bool} {ks : List (Exchange α)}
    (h : EndsProgram pid stopped ks) : About [.programs] ks := by
  obtain ⟨resumed, ended, rfl⟩ := h
  cases stopped <;> simp

/-- What an attempt does about the slots is about slots. -/
theorem Settles.about {plan : InstallPlan} {code c : ErrorCode} {ss : List (Exchange α)}
    (h : Settles plan code ss c) : About [.slots] ss := by
  unfold Settles at h
  split at h
  · split at h
    · cases h with
      | unfinished => simp
      | refused => simp
      | switched => simp
    · simp [h.1]
  · simp [h.1]

/-- Taking a powerwash back is about the powerwash. -/
theorem about_of_takesBack {takes : Bool} {ps : List (Exchange α)}
    (h : ps.map (·.request) = if takes then [Request.cancelPowerwash] else []) :
    About [.powerwash] ps := by
  apply About.of_requests h
  cases takes <;> simp

/-- Mapping is about mapping. -/
theorem Maps.about {r : Runner} {ms : List (Exchange α)} {outcome : Except BootError Unit}
    (h : Maps r ms outcome) : About [.mapping] ms := by
  cases h with
  | needless => simp
  | asks => simp

/-- An attempt begins with mapping, the powerwash and progress. -/
theorem Opens.about {r : Runner} {xs : List (Exchange α)} {scheduled : Bool} {pt : Point}
    (h : Opens r xs scheduled pt) : About Topic.beginning xs := by
  cases h with
  | unmapped hmaps => exact hmaps.about.mono (by decide)
  | unscheduled e hmaps =>
    have hms : About Topic.beginning _ := hmaps.about.mono (by decide)
    simp [hms]
  | plain share hmaps =>
    have hms : About Topic.beginning _ := hmaps.about.mono (by decide)
    simp [hms]
  | scheduled share hmaps =>
    have hms : About Topic.beginning _ := hmaps.about.mono (by decide)
    simp [hms]

/-- An attempt ends with mounts, slots, the powerwash and the delivery. -/
theorem about_of_ends {plan : InstallPlan} {held : Option ScopedMount} {code c : ErrorCode}
    {takes : Bool} {us ss ps : List (Exchange α)} (hus : Unmounts held us)
    (hss : Settles plan code ss c)
    (hps : ps.map (·.request) = if takes then [Request.cancelPowerwash] else []) :
    About Topic.ending (us ++ ss ++ ps ++ [⟨.complete c, ()⟩]) := by
  have hus' : About Topic.ending us := hus.about.mono (by decide)
  have hss' : About Topic.ending ss := hss.about.mono (by decide)
  have hps' : About Topic.ending ps := (about_of_takesBack hps).mono (by decide)
  simp [hus', hss', hps']

/-- Until an attempt ends its steps are about mounts, files, programs and progress. -/
theorem Step.about {config : PostinstallConfig} {plan : InstallPlan} {scheduled : Bool}
    {pt pt' : Point} {es : List (Event α)} (h : Step config plan scheduled pt es pt')
    (hnone : pt'.result? = none) :
    pt.result? = none ∧ About Topic.ongoing (Event.exchanges es) := by
  cases h with
  | noted => exact ⟨hnone, .nil⟩
  | sourceless => exact ⟨rfl, .nil⟩
  | finishes => exact ⟨rfl, .nil⟩
  | skips => exact ⟨rfl, .nil⟩
  | misplaced => exact ⟨rfl, .nil⟩
  | unmountable _ _ hacquires =>
    rw [Event.exchanges_map_asked]
    exact ⟨rfl, (hacquires.about_cons _).mono (by decide)⟩
  | mounts _ _ hacquires hinspects =>
    rw [Event.exchanges_map_asked]
    exact ⟨rfl, (hacquires.about_inspected _ hinspects).mono (by decide)⟩
  | probed => exact ⟨rfl, by simp⟩
  | sticks => exact ⟨rfl, by simp⟩
  | starts => exact ⟨rfl, by simp⟩
  | fails => exact ⟨rfl, by simp⟩
  | attends hattends =>
    have hxs : About Topic.ongoing _ := (about_of_attends hattends).mono (by decide)
    exact ⟨rfl, by simpa using hxs⟩
  | suspends => exact ⟨rfl, by simp⟩
  | resumes => exact ⟨rfl, by simp⟩
  | balks => exact ⟨rfl, by simp⟩
  | exits hreports =>
    rcases hreports with rfl | rfl
    · exact ⟨rfl, .nil⟩
    · exact ⟨rfl, by simp⟩
  | passes share _ _ hus =>
    rw [Event.exchanges_map_asked]
    exact ⟨rfl, (hus.about_passed share).mono (by decide)⟩
  | givesUp => exact ⟨rfl, .nil⟩
  | aborts hfails hkills =>
    have hks : About Topic.ongoing _ := hkills.about.mono (by decide)
    obtain ⟨e, rfl | rfl⟩ := hfails
    · exact ⟨rfl, by simp [hks]⟩
    · exact ⟨rfl, by simp [hks]⟩
  | cancels hkills =>
    have hks : About Topic.ongoing _ := hkills.about.mono (by decide)
    exact ⟨rfl, by simpa using hks⟩
  | ends => cases hnone
  | unmaps => cases hnone

end Runner

end SlotUpdate
