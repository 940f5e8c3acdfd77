import SlotUpdate.Verify.Source

/-!
# What reading a prefix gives

`Source.readPrefix` is a loop over reads of any sizes. What it gives does not show them: it fails
exactly if it comes to a failure before it has all bytes or sees the end (`readPrefix_failure_iff`),
and otherwise gives the first bytes of the source (`readPrefix_bytes`). What stands behind them
makes no difference (`readPrefix_cut`).

`FailsWithin` says when reading comes to a failure, in terms of how many bytes the reads before it
give. It follows a source from one read to the next (`failsWithin_interrupted`,
`failsWithin_short`), which is what the induction on the loop rests on.
-/

namespace SlotUpdate

/-- How many bytes a read gives at most. -/
def ReadStep.offer : ReadStep → Nat
  | .short limit => min (limit + 1) readBufferSize
  | .interrupted | .failed _ => 0

/-- How many bytes reads give at most, one after the other. -/
def offered : List ReadStep → Nat
  | [] => 0
  | step :: rest => step.offer + offered rest

/-- Reading fails while `want` of the `left` bytes are read: there is a first failure among the
answers, the reads before it give too few bytes, and none of them is at the end. -/
def FailsWithin (left want : Nat) (steps : List ReadStep) (cause : SystemError) : Prop :=
  ∃ before after, steps = before ++ .failed cause :: after ∧ (∀ c, .failed c ∉ before) ∧
    min (offered before) left < want ∧
    ∀ earlier limit later, before = earlier ++ .short limit :: later → offered earlier < left

/-- Nothing offers no bytes. -/
@[simp]
theorem offered_nil : offered [] = 0 := rfl

/-- The first read, and then the others. -/
@[simp]
theorem offered_cons (step : ReadStep) (steps : List ReadStep) :
    offered (step :: steps) = step.offer + offered steps := rfl

variable {left want limit : Nat} {steps : List ReadStep} {cause c : SystemError}

/-- Where nothing is wanted nothing fails. -/
theorem not_failsWithin_zero : ¬FailsWithin left 0 steps cause := by
  rintro ⟨before, after, -, -, hfew, -⟩
  exact Nat.not_lt_zero _ hfew

/-- Where no answer is a failure nothing fails. -/
theorem not_failsWithin_of_not_mem (h : ∀ c, .failed c ∉ steps) :
    ¬FailsWithin left want steps cause := by
  rintro ⟨before, after, rfl, -⟩
  exact h cause (by simp)

/-- A failure that comes first is met if anything is wanted. -/
theorem failsWithin_failed (hwant : 0 < want) :
    FailsWithin left want (.failed c :: steps) cause ↔ c = cause := by
  constructor
  · rintro ⟨before, after, heq, hnone, -⟩
    cases before with
    | nil => exact ReadStep.failed.inj (List.cons.inj heq).1
    | cons step before =>
      obtain ⟨rfl, -⟩ := List.cons.inj heq
      exact absurd List.mem_cons_self (hnone c)
  · rintro rfl
    refine ⟨[], steps, rfl, fun _ => List.not_mem_nil, by simpa using hwant, ?_⟩
    intro earlier limit later heq
    simp at heq

/-- An interruption makes no difference. -/
theorem failsWithin_interrupted :
    FailsWithin left want (.interrupted :: steps) cause ↔ FailsWithin left want steps cause := by
  constructor
  · rintro ⟨before, after, heq, hnone, hfew, hends⟩
    cases before with
    | nil => cases (List.cons.inj heq).1
    | cons step before =>
      obtain ⟨rfl, rfl⟩ := List.cons.inj heq
      refine ⟨before, after, rfl, fun c hc => hnone c (List.mem_cons_of_mem _ hc), ?_, ?_⟩
      · simpa [ReadStep.offer] using hfew
      · rintro earlier limit later rfl
        simpa [ReadStep.offer] using hends (.interrupted :: earlier) limit later rfl
  · rintro ⟨before, after, rfl, hnone, hfew, hends⟩
    refine ⟨.interrupted :: before, after, rfl, by simpa using hnone, ?_, ?_⟩
    · simpa [ReadStep.offer] using hfew
    · intro earlier limit later heq
      cases earlier with
      | nil => cases (List.cons.inj heq).1
      | cons step earlier =>
        obtain ⟨rfl, rfl⟩ := List.cons.inj heq
        simpa [ReadStep.offer] using hends earlier limit later rfl

/-- After a read that is not at the end, the bytes that it gave are neither left nor wanted. -/
theorem failsWithin_short {n : Nat} (hn : n = min want (ReadStep.offer (.short limit))) :
    FailsWithin left want (.short limit :: steps) cause ↔
      0 < left ∧ FailsWithin (left - n) (want - min n left) steps cause := by
  constructor
  · rintro ⟨before, after, heq, hnone, hfew, hends⟩
    cases before with
    | nil => cases (List.cons.inj heq).1
    | cons step before =>
      obtain ⟨rfl, rfl⟩ := List.cons.inj heq
      rw [offered_cons] at hfew
      refine ⟨hends [] limit before rfl, before, after, rfl,
        fun c hc => hnone c (List.mem_cons_of_mem _ hc), by omega, ?_⟩
      rintro earlier limit' later rfl
      have hearlier := hends (.short limit :: earlier) limit' later rfl
      rw [offered_cons] at hearlier
      omega
  · rintro ⟨hleft, before, after, rfl, hnone, hfew, hends⟩
    refine ⟨.short limit :: before, after, rfl, by simpa using hnone, ?_, ?_⟩
    · rw [offered_cons]
      omega
    · intro earlier limit' later heq
      cases earlier with
      | nil => exact hleft
      | cons step earlier =>
        obtain ⟨rfl, rfl⟩ := List.cons.inj heq
        have hearlier := hends earlier limit' later rfl
        rw [offered_cons]
        omega

/-- The first of the wanted elements, and then the others of those that follow. -/
theorem take_append_take_drop {β : Type} (l : List β) {n m : Nat} (h : n ≤ m) :
    l.take n ++ (l.drop n).take (m - (l.take n).length) = l.take m := by
  rcases Nat.le_total n l.length with hn | hn
  · rw [List.length_take_of_le hn, ← List.take_add, Nat.add_sub_cancel' h]
  · rw [List.drop_of_length_le hn, List.take_nil, List.append_nil, List.take_of_length_le hn,
      List.take_of_length_le (Nat.le_trans hn h)]

namespace Source

variable {s rest : Source} {b : Bytes} {length done : Nat}

/-! ## Single reads -/

/-- A read fails if that is the next answer. -/
theorem steps_of_read_failed (h : s.read want = .failed cause) :
    ∃ steps, s.steps = .failed cause :: steps := by
  unfold read at h
  split at h
  · cases h
  · cases h
  · cases h
  · rename_i steps hsteps
    cases h
    exact ⟨steps, hsteps⟩

/-- A read is interrupted if that is the next answer. -/
theorem steps_of_read_interrupted (h : s.read want = .interrupted rest) :
    s.steps = .interrupted :: rest.steps ∧ rest.contents = s.contents := by
  unfold read at h
  split at h
  · cases h
  · cases h
  · rename_i steps hsteps
    cases h
    exact ⟨hsteps, rfl⟩
  · cases h

/-- A read gives the next bytes: as many as it asks for if there are no more answers, and as many of
them as the next answer gives otherwise. -/
theorem steps_of_read_data (h : s.read want = .data b rest) :
    ∃ n, b = s.contents.take n ∧ rest.contents = s.contents.drop n ∧
      (s.steps = [] ∧ rest.steps = [] ∧ n = want ∨
        ∃ limit, s.steps = .short limit :: rest.steps ∧ n = min want (limit + 1)) := by
  unfold read at h
  split at h
  · rename_i hsteps
    cases h
    exact ⟨want, rfl, rfl, Or.inl ⟨hsteps, rfl, rfl⟩⟩
  · rename_i limit steps hsteps
    cases h
    exact ⟨_, rfl, rfl, Or.inr ⟨limit, hsteps, rfl⟩⟩
  · cases h
  · cases h

/-- A read that asks for something and gives nothing is at the end. -/
theorem contents_of_read_nil (hwant : 0 < want)
    (h : s.read (min want readBufferSize) = .data [] rest) : s.contents = [] := by
  obtain ⟨n, htake, -, hn⟩ := steps_of_read_data h
  have hpos : 0 < n := by
    have hbuffer : 0 < readBufferSize := by decide
    rcases hn with ⟨-, -, rfl⟩ | ⟨limit, -, rfl⟩ <;> omega
  exact (List.take_eq_nil_iff.mp htake.symm).resolve_left (Nat.ne_of_gt hpos)

/-! ## The loop -/

/-- Reading the first bytes of a source fails. -/
def Fails (s : Source) (length : Nat) (cause : SystemError) : Prop :=
  FailsWithin s.contents.length length s.steps cause

/-- Reading fails exactly if it comes to a failure. -/
theorem readPrefix_failure_iff (s : Source) (length done : Nat) (cause : SystemError) :
    (s.readPrefix length done).failure = some cause ↔ s.Fails (length - done) cause := by
  unfold Fails
  fun_induction Source.readPrefix length done s with
  | case1 done s hlt c hread =>
    obtain ⟨steps, hsteps⟩ := steps_of_read_failed hread
    rw [hsteps, failsWithin_failed (Nat.sub_pos_of_lt hlt)]
    exact Option.some_inj
  | case2 done s hlt rest hread ih =>
    obtain ⟨hsteps, hcontents⟩ := steps_of_read_interrupted hread
    rw [ih, hsteps, hcontents, failsWithin_interrupted]
  | case3 done s hlt rest hread =>
    -- The source is at its end, where the next answer cannot be a failure any more.
    obtain ⟨n, htake, -, hsteps⟩ := steps_of_read_data hread
    have hend : s.contents = [] := contents_of_read_nil (Nat.sub_pos_of_lt hlt) hread
    refine iff_of_false (Option.some_ne_none cause).symm ?_
    rcases hsteps with ⟨hnil, -, -⟩ | ⟨limit, hcons, -⟩
    · rw [hnil]
      exact not_failsWithin_of_not_mem fun _ => List.not_mem_nil
    · rw [hcons, hend, failsWithin_short rfl]
      exact fun hfails => Nat.lt_irrefl 0 hfails.1
  | case4 done s hlt b rest hread hb after ih =>
    obtain ⟨n, rfl, hdrop, hsteps⟩ := steps_of_read_data hread
    show after.failure = some cause ↔ _
    rw [ih]
    rcases hsteps with ⟨hnil, hnil', -⟩ | ⟨limit, hcons, hn⟩
    · rw [hnil, hnil']
      exact iff_of_false (not_failsWithin_of_not_mem fun _ => List.not_mem_nil)
        (not_failsWithin_of_not_mem fun _ => List.not_mem_nil)
    · have hleft : 0 < s.contents.length := by
        rw [List.length_pos_iff]
        intro hempty
        rw [hempty, List.take_nil] at hb
        exact hb rfl
      have hn' : n = min (length - done) (ReadStep.offer (.short limit)) := by
        show n = min (length - done) (min (limit + 1) readBufferSize)
        omega
      have hwant : length - (done + (s.contents.take n).length) =
          length - done - min n s.contents.length := by
        rw [List.length_take]
        omega
      rw [hcons, failsWithin_short hn', hdrop, List.length_drop, hwant]
      exact (and_iff_right hleft).symm
  | case5 done s hlt =>
    rw [Nat.sub_eq_zero_of_le (Nat.not_lt.mp hlt)]
    exact iff_of_false (Option.some_ne_none cause).symm not_failsWithin_zero

/-- Reading that does not fail gives the first bytes, as far as there are any. -/
theorem readPrefix_bytes {s : Source} {length done : Nat}
    (h : (s.readPrefix length done).failure = none) :
    (s.readPrefix length done).bytes = s.contents.take (length - done) := by
  fun_induction Source.readPrefix length done s with
  | case1 => cases h
  | case2 done s hlt rest hread ih =>
    obtain ⟨-, hcontents⟩ := steps_of_read_interrupted hread
    rw [ih h, hcontents]
  | case3 done s hlt rest hread =>
    rw [contents_of_read_nil (Nat.sub_pos_of_lt hlt) hread, List.take_nil]
    rfl
  | case4 done s hlt b rest hread hb after ih =>
    obtain ⟨n, rfl, hdrop, hn⟩ := steps_of_read_data hread
    have hle : n ≤ length - done := by
      rcases hn with ⟨-, -, rfl⟩ | ⟨limit, -, rfl⟩
      · exact Nat.min_le_left _ _
      · omega
    show s.contents.take n ++ after.bytes = _
    rw [ih h, hdrop, ← Nat.sub_sub]
    exact take_append_take_drop _ hle
  | case5 done s hlt =>
    rw [Nat.sub_eq_zero_of_le (Nat.not_lt.mp hlt), List.take_zero]
    rfl

/-! ## What stands behind the prefix -/

/-- A source without the bytes behind a prefix. -/
def cut (s : Source) (n : Nat) : Source := ⟨s.contents.take n, s.steps⟩

/-- A read that fails also fails without the bytes behind a prefix. -/
theorem read_cut_failed (h : s.read want = .failed cause) (n : Nat) :
    (s.cut n).read want = .failed cause := by
  obtain ⟨steps, hsteps⟩ := steps_of_read_failed h
  unfold read cut
  rw [hsteps]

/-- A read that is interrupted also is without the bytes behind a prefix. -/
theorem read_cut_interrupted (h : s.read want = .interrupted rest) (n : Nat) :
    (s.cut n).read want = .interrupted (rest.cut n) := by
  obtain ⟨hsteps, hcontents⟩ := steps_of_read_interrupted h
  unfold read cut
  rw [hsteps, hcontents]

/-- A read within a prefix gives the same without the bytes behind it. -/
theorem read_cut_data (h : s.read want = .data b rest) {n : Nat} (hn : want ≤ n) :
    (s.cut n).read want = .data b (rest.cut (n - b.length)) := by
  obtain ⟨m, rfl, hdrop, hsteps⟩ := steps_of_read_data h
  have hle : m ≤ n := by
    rcases hsteps with ⟨-, -, rfl⟩ | ⟨limit, -, rfl⟩ <;> omega
  have htake : (s.contents.take n).take m = s.contents.take m := by
    rw [List.take_take, Nat.min_eq_left hle]
  have hrest : (s.contents.take n).drop m =
      (s.contents.drop m).take (n - (s.contents.take m).length) := by
    rcases Nat.le_total m s.contents.length with hm | hm
    · rw [List.length_take_of_le hm, List.drop_take]
    · rw [List.drop_of_length_le hm, List.take_nil]
      exact List.drop_of_length_le (Nat.le_trans (List.length_take_le' n _) hm)
  unfold read cut
  rcases hsteps with ⟨hnil, hnil', rfl⟩ | ⟨limit, hcons, rfl⟩
  · rw [hnil, hnil', hdrop, ← hrest, ← htake]
  · rw [hcons, hdrop, ← hrest, ← htake]

/-- What the loop does with the answer to a read. -/
theorem readPrefix_eq (s : Source) (hlt : done < length) :
    s.readPrefix length done = match s.read (min (length - done) readBufferSize) with
      | .failed cause => ⟨[], some cause⟩
      | .interrupted rest => rest.readPrefix length done
      | .data b rest =>
        if b = [] then ⟨[], none⟩
        else ⟨b :: (rest.readPrefix length (done + b.length)).pieces,
          (rest.readPrefix length (done + b.length)).failure⟩ := by
  rw [readPrefix, if_pos hlt]
  split
  · rename_i hread
    rw [hread]
  · rename_i hread
    rw [hread]
  · rename_i hread
    rw [hread]
    rfl

/-- No more bytes are read than are missing. -/
theorem length_bytes_readPrefix_le (s : Source) (length done : Nat) :
    (s.readPrefix length done).bytes.length ≤ length - done := by
  fun_induction Source.readPrefix length done s with
  | case1 => exact Nat.zero_le _
  | case2 done s hlt rest hread ih => exact ih
  | case3 => exact Nat.zero_le _
  | case4 done s hlt b rest hread hb after ih =>
    obtain ⟨n, rfl, -, hn⟩ := steps_of_read_data hread
    have htake : (s.contents.take n).length ≤ length - done := by
      rw [List.length_take]
      rcases hn with ⟨-, -, rfl⟩ | ⟨limit, -, rfl⟩ <;> omega
    have hafter : after.bytes.length ≤ length - (done + (s.contents.take n).length) := ih
    show (s.contents.take n ++ after.bytes).length ≤ length - done
    rw [List.length_append]
    omega
  | case5 => exact Nat.zero_le _

/-- What stands behind a prefix makes no difference to reading it. -/
theorem readPrefix_cut (s : Source) (length done : Nat) :
    (s.cut (length - done)).readPrefix length done = s.readPrefix length done := by
  fun_induction Source.readPrefix length done s with
  | case1 done s hlt c hread => rw [readPrefix_eq _ hlt, read_cut_failed hread]
  | case2 done s hlt rest hread ih =>
    rw [readPrefix_eq _ hlt, read_cut_interrupted hread]
    exact ih
  | case3 done s hlt rest hread =>
    rw [readPrefix_eq _ hlt, read_cut_data hread (Nat.min_le_left _ _)]
    rfl
  | case4 done s hlt b rest hread hb after ih =>
    rw [readPrefix_eq _ hlt, read_cut_data hread (Nat.min_le_left _ _)]
    rw [← Nat.sub_sub] at ih
    show (if b = [] then _ else _) = _
    rw [if_neg hb, ih]
  | case5 done s hlt => rw [readPrefix, if_neg hlt]

end Source

end SlotUpdate
