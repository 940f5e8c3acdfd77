import SlotUpdate.Proofs.Progress.Exact
import SlotUpdate.Proofs.Verify.Prefix
import SlotUpdate.Proofs.Verify.Readers
import SlotUpdate.Verify.Partitions

/-!
# Where reads end makes no difference

A reader that gives the bytes `c` may cut them anywhere, and may be interrupted before each piece
and before the end (`ByteReader.Gives`). What hashing a prefix comes to depends on `c` only, and on
whether the reader ends or fails behind it.

* `PrefixHash.Covers` is the invariant of the loop. While `want` bytes are missing, exactly the next
  `want` bytes of `c` are still to be read, or all if there are fewer, and the loop only fails if it
  needs more than there are. It holds by induction on the rounds (`ByteReader.Gives.covers`). The
  running digest and the word that counts its bytes then say what the result is
  (`ByteReader.Gives.ofPrefix`).
* The shares that are reported are the total sizes after each piece, over the size of the prefix
  (`shares_eq`). No piece is empty, so they increase, and the last one is how much of the prefix was
  read (`ByteReader.Gives.exists_rises`).
* The sources that verification reads from are readers of this kind (`Source.gives`), and what it
  reads of them is what hashing comes to (`Source.agrees`).

`prefix_hashed_in_any_reads` has one field for each of these, for any running digest.
-/

namespace SlotUpdate

open ExactNumber ProgressNumber

variable {α κ σ : Type}

/-! ## What a reader gives -/

/-- A reader gives the bytes `c` from a state on, in any pieces and with any number of
interruptions, and then it ends or fails. The interruptions come to an end whatever is asked for. -/
inductive ByteReader.Gives (r : ByteReader σ) (ending : Option SystemError) : σ → Bytes → Prop where
  /-- This is so of what a read answers here, and then of what is left. -/
  | intro {s : σ} {c : Bytes}
    (ends : ∀ want rest, 0 < want → r.read want s = (.ok [], rest) → c = [] ∧ ending = none)
    (begins : ∀ want b rest, 0 < want → r.read want s = (.ok b, rest) → b <+: c)
    (gives : ∀ want b rest, 0 < want → r.read want s = (.ok b, rest) → b ≠ [] →
      Gives r ending rest (c.drop b.length))
    (again : ∀ want cause rest, 0 < want → r.read want s = (.error cause, rest) →
      cause.kind = .interrupted → Gives r ending rest c)
    (fails : ∀ want cause rest, 0 < want → r.read want s = (.error cause, rest) →
      cause.kind ≠ .interrupted → c = [] ∧ ending = some cause) : Gives r ending s c

section

variable [ProgressNumber α] {r : ByteReader σ} {d : RunningDigest κ} {size hashed : UInt64}
  {context : κ} {s : σ} {c : Bytes} {ending : Option SystemError}

/-- What hashing comes to when at most `want` bytes are missing and `c` is what a reader gives. -/
structure PrefixHash.Covers (want : Nat) (c : Bytes) (ending : Option SystemError)
    (h : PrefixHash α) : Prop where
  /-- The missing bytes are read, as far as there are any. -/
  received : received h.events = c.take want
  /-- There is a digest if no more bytes are needed than there are, or the reader ends. -/
  digest : want ≤ c.length ∨ ending = none → ∃ digest, h.result = .ok digest
  /-- Otherwise the reader's failure is the outcome. -/
  failure : ∀ cause, ending = some cause → c.length < want → h.result = .error cause

/-- With a reader that gives bytes and then ends or fails, hashing reads these bytes as far as they
are missing. -/
theorem ByteReader.Gives.covers (hgives : r.Gives ending s c) (d : RunningDigest κ)
    (size : UInt64) (context : κ) (hashed : UInt64) :
    (r.hashFrom d size context hashed s : PrefixHash α).Covers
      (size.toNat - hashed.toNat) c ending := by
  fun_induction hashFrom (α := α) r d size context hashed s generalizing c with
  | case1 context hashed s hmore rest hread =>
    obtain ⟨ends, -, -, -, -⟩ := hgives
    obtain ⟨rfl, rfl⟩ := ends _ _ (request_pos hmore) hread
    refine ⟨List.take_nil.symm, fun _ => ⟨_, rfl⟩, fun _ hfails => ?_⟩
    cases hfails
  | case2 context hashed s hmore b rest hread hb total =>
    rename_i ih
    obtain ⟨-, begins, gives, -, -⟩ := hgives
    obtain ⟨tail, rfl⟩ := begins _ _ _ (request_pos hmore) hread
    have hcovers := ih (gives _ _ _ (request_pos hmore) hread hb)
    have hcount : total.toNat = hashed.toNat + b.length := toNat_hashed_add hmore hread
    have hlength := r.length_le hread
    have hwithin := add_request_le hmore
    rw [List.drop_left, hcount, ← Nat.sub_sub] at hcovers
    refine ⟨?_, fun hdigest => ?_, fun cause hcause hfew => ?_⟩
    · -- No more is asked for than is missing, so the piece is among the missing bytes.
      show (piecesOf (_ :: _ :: _)).flatten = _
      rw [piecesOf_gave hb, List.flatten_cons, List.take_append, List.take_of_length_le (by omega)]
      exact congrArg (b ++ ·) hcovers.received
    · refine hcovers.digest (hdigest.imp_left fun henough => ?_)
      rw [List.length_append] at henough
      omega
    · refine hcovers.failure cause hcause ?_
      rw [List.length_append] at hfew
      omega
  | case3 context hashed s hmore cause rest hread hkind ih =>
    obtain ⟨-, -, -, again, -⟩ := hgives
    have hcovers := ih (again _ _ _ (request_pos hmore) hread hkind)
    exact ⟨hcovers.received, hcovers.digest, hcovers.failure⟩
  | case4 context hashed s hmore cause rest hread hfinal =>
    obtain ⟨-, -, -, -, fails⟩ := hgives
    obtain ⟨rfl, rfl⟩ := fails _ _ _ (request_pos hmore) hread hfinal
    have hlt : hashed.toNat < size.toNat := UInt64.lt_iff_toNat_lt.mp hmore
    refine ⟨List.take_nil.symm, fun hdigest => ?_, fun cause' hcause _ => ?_⟩
    · -- Bytes are missing, there are none, and the reader does not end.
      rcases hdigest with henough | hnone
      · rw [List.length_nil] at henough
        omega
      · cases hnone
    · obtain rfl := Option.some.inj hcause
      rfl
  | case5 context hashed s hfull =>
    have hnone : size.toNat - hashed.toNat = 0 :=
      Nat.sub_eq_zero_of_le (Nat.le_of_not_lt fun hlt => hfull (UInt64.lt_iff_toNat_lt.mpr hlt))
    rw [hnone]
    exact ⟨rfl, fun _ => ⟨_, rfl⟩, fun _ _ hfew => absurd hfew (Nat.not_lt_zero _)⟩

end

/-! ## Shares in fractions -/

/-- How many bytes there are after each piece, `n` before the first. -/
def totals (n : Nat) : List Bytes → List Nat
  | [] => []
  | b :: pieces => (n + b.length) :: totals (n + b.length) pieces

section

variable {n : Nat} {pieces : List Bytes} {size : UInt64}

/-- Each piece leads further, and none beyond all of them. -/
theorem totals_bounds (hne : ∀ b ∈ pieces, b ≠ []) :
    ∀ m ∈ totals n pieces, n < m ∧ m ≤ n + pieces.flatten.length := by
  induction pieces generalizing n with
  | nil => exact fun _ hm => absurd hm List.not_mem_nil
  | cons b pieces ih =>
    obtain ⟨hb, hne⟩ := List.forall_mem_cons.mp hne
    have hpos : 0 < b.length := List.length_pos_iff.mpr hb
    rw [List.flatten_cons, List.length_append]
    refine List.forall_mem_cons.mpr ⟨by omega, fun m hm => ?_⟩
    have hbounds := ih hne m hm
    omega

/-- There are more bytes after each piece than before it. -/
theorem pairwise_totals (hne : ∀ b ∈ pieces, b ≠ []) : (totals n pieces).Pairwise (· < ·) := by
  induction pieces generalizing n with
  | nil => exact .nil
  | cons b pieces ih =>
    obtain ⟨-, hne⟩ := List.forall_mem_cons.mp hne
    exact .cons (fun m hm => (totals_bounds hne m hm).1) (ih hne)

/-- After the last piece there are the bytes of all. -/
theorem mem_totals (hsome : pieces ≠ []) : n + pieces.flatten.length ∈ totals n pieces := by
  induction pieces generalizing n with
  | nil => exact absurd rfl hsome
  | cons b pieces ih =>
    rw [List.flatten_cons, List.length_append, ← Nat.add_assoc]
    by_cases hlast : pieces = []
    · subst hlast
      exact List.mem_cons_self
    · exact List.mem_cons_of_mem _ (ih hlast)

variable [LiteralReading]

/-- The shares of pieces are fractions. -/
theorem shares_eq (hsize : size ≠ 0) (hle : n + pieces.flatten.length ≤ size.toNat) :
    (ReadPrefix.shares size n pieces : List ExactNumber) =
      ((totals n pieces).map fun m : ℕ => (m / size.toNat : ℚ)).map fraction := by
  have hne : (size.toNat : ℚ) ≠ 0 := by
    rw [Nat.cast_ne_zero]
    exact fun hzero => hsize (UInt64.toNat_inj.mp hzero)
  induction pieces generalizing n with
  | nil => rfl
  | cons b pieces ih =>
    rw [List.flatten_cons, List.length_append, ← Nat.add_assoc] at hle
    have hword : (UInt64.ofNat (n + b.length)).toNat = n + b.length :=
      UInt64.toNat_ofNat_of_lt' (Nat.lt_of_le_of_lt (Nat.le_of_add_right_le hle) size.toNat_lt)
    rw [ReadPrefix.shares, totals, ih hle, ofWord_eq, ofWord_eq, fraction_div _ hne, hword]
    rfl

/-- The shares of pieces of a prefix increase from zero, and reach one if the pieces are all of
it. -/
theorem exists_shares (hne : ∀ b ∈ pieces, b ≠ []) (hle : pieces.flatten.length ≤ size.toNat) :
    ∃ qs : List ℚ, (ReadPrefix.shares size 0 pieces : List ExactNumber) = qs.map fraction ∧
      qs.Pairwise (· < ·) ∧ (∀ q ∈ qs, 0 < q ∧ q ≤ 1) ∧
      (size ≠ 0 → (1 ∈ qs ↔ size.toNat ≤ pieces.flatten.length)) := by
  by_cases hsize : size = 0
  · subst hsize
    -- A prefix without bytes has no pieces.
    have hnone : pieces = [] := by
      rw [List.eq_nil_iff_forall_not_mem]
      intro b hb
      have hpos : 0 < b.length := List.length_pos_iff.mpr (hne b hb)
      have hb' : b.length ≤ pieces.flatten.length := (List.sublist_flatten_of_mem hb).length_le
      have hzero : (0 : UInt64).toNat = 0 := rfl
      omega
    subst hnone
    exact ⟨[], rfl, .nil, fun _ hq => absurd hq List.not_mem_nil, fun h => absurd rfl h⟩
  have hpos : (0 : ℚ) < size.toNat := by
    rw [Nat.cast_pos, Nat.pos_iff_ne_zero]
    exact fun hzero => hsize (UInt64.toNat_inj.mp hzero)
  have hbounds := totals_bounds (n := 0) hne
  refine ⟨(totals 0 pieces).map fun m : ℕ => (m / size.toNat : ℚ),
    shares_eq hsize (by rwa [Nat.zero_add]), ?_, ?_, fun _ => ?_⟩
  · rw [List.pairwise_map]
    exact (pairwise_totals hne).imp fun hlt =>
      div_lt_div_of_pos_right (Nat.cast_lt.mpr hlt) hpos
  · rw [List.forall_mem_map]
    intro m hm
    obtain ⟨hmore, hmost⟩ := hbounds m hm
    have hm' : m ≤ size.toNat := by omega
    exact ⟨div_pos (Nat.cast_pos.mpr hmore) hpos,
      div_le_one_of_le₀ (Nat.cast_le.mpr hm') hpos.le⟩
  · rw [List.mem_map]
    constructor
    · rintro ⟨m, hm, hone⟩
      have hall : m = size.toNat := Nat.cast_injective ((div_eq_one_iff_eq hpos.ne').mp hone)
      have hmost := (hbounds m hm).2
      omega
    · intro henough
      have hall : 0 + pieces.flatten.length = size.toNat := by omega
      have hsome : pieces ≠ [] := by
        rintro rfl
        exact hpos.ne (congrArg Nat.cast hall)
      exact ⟨size.toNat, hall ▸ mem_totals hsome, div_self hpos.ne'⟩

end

/-! ## Prefixes -/

/-- What hashing the first `size` bytes comes to with a reader that gives the bytes `c` and then
ends or fails. -/
structure PrefixHash.OfPrefix (size : UInt64) (c : Bytes) (ending : Option SystemError)
    (h : PrefixHash α) : Prop where
  /-- If there are enough bytes, or the reader ends, the digest is that of the first ones, as many
  as there are, and comes with their number. -/
  digest : size.toNat ≤ c.length ∨ ending = none → ∃ n, n.toNat = min size.toNat c.length ∧
    h.result = .ok (sha256 (c.take size.toNat), n)
  /-- If there are too few and the reader fails, there is its failure and no digest. -/
  failure : ∀ cause, ending = some cause → c.length < size.toNat → h.result = .error cause

/-- The shares that are reported then, in exact arithmetic. -/
structure PrefixHash.Rises (size : UInt64) (c : Bytes) (h : PrefixHash ExactNumber)
    (qs : List ℚ) : Prop where
  /-- They are fractions. -/
  shares : hashShares h.events = qs.map fraction
  /-- Each is more than the one before. -/
  increasing : qs.Pairwise (· < ·)
  /-- They are more than zero, and one at most. -/
  range : ∀ q ∈ qs, 0 < q ∧ q ≤ 1
  /-- One is reached exactly if there are enough bytes. -/
  completes : size ≠ 0 → (1 ∈ qs ↔ size.toNat ≤ c.length)

/-- The result is determined by the bytes and the end. -/
theorem PrefixHash.OfPrefix.result_eq {β : Type} {size : UInt64} {c : Bytes}
    {ending : Option SystemError} {h : PrefixHash α} {h' : PrefixHash β}
    (hof : h.OfPrefix size c ending) (hof' : h'.OfPrefix size c ending) :
    h.result = h'.result := by
  by_cases hdigest : size.toNat ≤ c.length ∨ ending = none
  · obtain ⟨n, hn, hresult⟩ := hof.digest hdigest
    obtain ⟨n', hn', hresult'⟩ := hof'.digest hdigest
    obtain rfl : n = n' := UInt64.toNat_inj.mp (hn.trans hn'.symm)
    rw [hresult, hresult']
  · obtain ⟨hfew, hfails⟩ := not_or.mp hdigest
    obtain ⟨cause, hcause⟩ := Option.ne_none_iff_exists'.mp hfails
    have hfew' : c.length < size.toNat := Nat.not_le.mp hfew
    rw [hof.failure cause hcause hfew', hof'.failure cause hcause hfew']

namespace ByteReader.Gives

variable {r : ByteReader σ} {s : σ} {c : Bytes} {ending : Option SystemError}

/-- With a reader that gives bytes and then ends or fails, the result of hashing is what these bytes
and the end say. -/
theorem ofPrefix [ProgressNumber α] (hgives : r.Gives ending s c) (d : RunningDigest κ)
    (size : UInt64) : (r.hashPrefix d size s : PrefixHash α).OfPrefix size c ending := by
  have hcovers := hgives.covers (α := α) d size d.start 0
  rw [UInt64.toNat_zero, Nat.sub_zero] at hcovers
  refine ⟨fun hdigest => ?_, hcovers.failure⟩
  obtain ⟨⟨digest, n⟩, hok⟩ := hcovers.digest hdigest
  obtain ⟨rfl, hn⟩ := (r.hashPrefix_orderly d size s).digest digest n hok
  have hreceived : received (r.hashPrefix d size s : PrefixHash α).events = c.take size.toNat :=
    hcovers.received
  rw [hreceived] at hn
  exact ⟨n, hn.trans List.length_take, hreceived ▸ hok⟩

/-- The shares that are reported rise to how much of the prefix these bytes are. -/
theorem exists_rises [LiteralReading] (hgives : r.Gives ending s c) (d : RunningDigest κ)
    (size : UInt64) : ∃ qs, (r.hashPrefix d size s).Rises size c qs := by
  have hcovers := hgives.covers (α := ExactNumber) d size d.start 0
  have hshares := r.hashShares_hashFrom (α := ExactNumber) d size d.start 0 s
  rw [UInt64.toNat_zero, Nat.sub_zero] at hcovers
  have hlength : (piecesOf (r.hashPrefix d size s : PrefixHash ExactNumber).events).flatten.length =
      min size.toNat c.length := by
    rw [← List.length_take]
    exact congrArg List.length hcovers.received
  obtain ⟨qs, hqs, hincreasing, hrange, hcompletes⟩ :=
    exists_shares (fun _ => ne_nil_of_mem_piecesOf) (hlength ▸ Nat.min_le_left _ _)
  refine ⟨qs, hshares.trans hqs, hincreasing, hrange, fun hsize => ?_⟩
  rw [hcompletes hsize, hlength]
  omega

end ByteReader.Gives

/-! ## Sources -/

/-- What a reading call says when it was interrupted. -/
def SystemError.interruption : SystemError :=
  ⟨.interrupted, "Interrupted system call (os error 4)"⟩

namespace Source

variable {s rest : Source} {want : Nat} {b : Bytes} {cause : SystemError} {answer : Answer}

/-- The outcome of a reading call by the answer of a source. A failure is an answer that is given
as well, so the next one is for a later read. -/
def Answer.outcome (s : Source) : Answer → Except SystemError Bytes × Source
  | .data b rest => (.ok b, rest)
  | .interrupted rest => (.error .interruption, rest)
  | .failed cause => (.error cause, ⟨s.contents, s.steps.tail⟩)

/-- Only an answer with bytes is a success. -/
theorem Answer.of_outcome_ok (h : answer.outcome s = (.ok b, rest)) : answer = .data b rest := by
  cases answer <;> cases h
  rfl

/-- Only an interruption and a failure are errors. -/
theorem Answer.of_outcome_error (h : answer.outcome s = (.error cause, rest)) :
    answer = .interrupted rest ∧ cause = .interruption ∨
      answer = .failed cause ∧ rest = ⟨s.contents, s.steps.tail⟩ := by
  cases answer with
  | data => cases h
  | interrupted =>
    cases h
    exact Or.inl ⟨rfl, rfl⟩
  | failed =>
    cases h
    exact Or.inr ⟨rfl, rfl⟩

/-- Less is left after an error. -/
theorem size_of_outcome_error (h : (s.read want).outcome s = (.error cause, rest)) :
    rest.size < s.size := by
  rcases Answer.of_outcome_error h with ⟨hinterrupted, -⟩ | ⟨hfailed, rfl⟩
  · exact size_of_interrupted hinterrupted
  · obtain ⟨steps, hsteps⟩ := steps_of_read_failed hfailed
    unfold size
    rw [hsteps]
    exact Nat.lt_succ_self _

/-- A source as a reader. -/
def reader : ByteReader Source where
  read want s := (s.read want).outcome s
  length_le h := by
    obtain ⟨n, rfl, -, hn⟩ := steps_of_read_data (Answer.of_outcome_ok h)
    rw [List.length_take]
    rcases hn with ⟨-, -, rfl⟩ | ⟨limit, -, rfl⟩ <;> omega
  settles := by
    refine Subrelation.wf (fun h => ?_) (measure size).wf
    obtain ⟨want, cause, -, hread, -⟩ := h
    exact size_of_outcome_error hread

/-- A failure is among the answers. -/
theorem failed_mem_steps (h : s.read want = .failed cause) : .failed cause ∈ s.steps := by
  obtain ⟨steps, hsteps⟩ := steps_of_read_failed h
  rw [hsteps]
  exact List.mem_cons_self

/-- The answers that are left after a read with bytes are among those before. -/
theorem steps_subset_of_data (h : s.read want = .data b rest) : rest.steps ⊆ s.steps := by
  obtain ⟨n, -, -, ⟨-, hnil, -⟩ | ⟨limit, hcons, -⟩⟩ := steps_of_read_data h
  · rw [hnil]
    exact List.nil_subset _
  · rw [hcons]
    exact List.subset_cons_self _ _

/-- So are those that are left after an interruption. -/
theorem steps_subset_of_interrupted (h : s.read want = .interrupted rest) :
    rest.steps ⊆ s.steps := by
  rw [(steps_of_read_interrupted h).1]
  exact List.subset_cons_self _ _

/-- A source whose answers are no failures gives what it holds, wherever its reads end and however
often they are interrupted. -/
theorem gives (h : ∀ cause, .failed cause ∉ s.steps) : reader.Gives none s s.contents := by
  induction hsize : s.size using Nat.strong_induction_on generalizing s with
  | h size ih =>
    subst hsize
    refine .intro (fun want rest hpos hread => ?_) (fun want b rest hpos hread => ?_)
      (fun want b rest hpos hread hb => ?_) (fun want cause rest hpos hread hkind => ?_)
      (fun want cause rest hpos hread hfinal => ?_)
    · obtain ⟨n, hnil, -, hn⟩ := steps_of_read_data (Answer.of_outcome_ok hread)
      have hn' : n ≠ 0 := by
        rcases hn with ⟨-, -, rfl⟩ | ⟨limit, -, rfl⟩ <;> omega
      exact ⟨(List.take_eq_nil_iff.mp hnil.symm).resolve_left hn', rfl⟩
    · obtain ⟨n, rfl, -, -⟩ := steps_of_read_data (Answer.of_outcome_ok hread)
      exact List.take_prefix n s.contents
    · -- Bytes were taken, so fewer are left.
      have hfewer := size_of_data (Answer.of_outcome_ok hread) hb
      have hsteps := steps_subset_of_data (Answer.of_outcome_ok hread)
      obtain ⟨n, rfl, hdrop, -⟩ := steps_of_read_data (Answer.of_outcome_ok hread)
      rw [List.length_take, ← List.drop_eq_drop_min, ← hdrop]
      exact ih _ hfewer (fun cause hmem => h cause (hsteps hmem)) rfl
    · rcases Answer.of_outcome_error hread with ⟨hinterrupted, -⟩ | ⟨hfailed, -⟩
      · -- An answer was taken, so fewer are left.
        have hfewer := size_of_interrupted hinterrupted
        have hsteps := steps_subset_of_interrupted hinterrupted
        rw [← (steps_of_read_interrupted hinterrupted).2]
        exact ih _ hfewer (fun cause hmem => h cause (hsteps hmem)) rfl
      · exact absurd (failed_mem_steps hfailed) (h cause)
    · rcases Answer.of_outcome_error hread with ⟨-, rfl⟩ | ⟨hfailed, -⟩
      · exact absurd rfl hfinal
      · exact absurd (failed_mem_steps hfailed) (h cause)

/-- No failure of a source is an interruption, which is an answer of its own. -/
def FailsForGood (s : Source) : Prop :=
  ∀ cause, .failed cause ∈ s.steps → cause.kind ≠ .interrupted

end Source

section

variable [ProgressNumber α]

/-- An outcome agrees with what reading a prefix gave. -/
structure PrefixHash.Agrees (p : ReadPrefix) (h : PrefixHash α) : Prop where
  /-- The same pieces were read. -/
  pieces : piecesOf h.events = p.pieces
  /-- The same failure ended it, if any. -/
  failure : ∀ cause, h.result = .error cause ↔ p.failure = some cause

/-- Hashing from a source reads what reading a prefix of it does. -/
theorem Source.agrees (d : RunningDigest κ) (size : UInt64) {s : Source} (hgood : s.FailsForGood)
    (context : κ) (hashed : UInt64) :
    (reader.hashFrom d size context hashed s : PrefixHash α).Agrees
      (s.readPrefix size.toNat hashed.toNat) := by
  fun_induction ByteReader.hashFrom (α := α) reader d size context hashed s with
  | case1 context hashed s hmore rest hread =>
    have hdata := Answer.of_outcome_ok hread
    rw [request_eq hmore] at hdata
    rw [readPrefix_eq s (UInt64.lt_iff_toNat_lt.mp hmore), hdata]
    exact ⟨rfl, fun cause => by simp⟩
  | case2 context hashed s hmore b rest hread hb total ih =>
    have hdata := Answer.of_outcome_ok hread
    have hsteps := steps_subset_of_data hdata
    have hagrees := ih fun c hmem => hgood c (hsteps hmem)
    have hcount : total.toNat = hashed.toNat + b.length := toNat_hashed_add hmore hread
    rw [hcount] at hagrees
    rw [request_eq hmore] at hdata
    rw [readPrefix_eq s (UInt64.lt_iff_toNat_lt.mp hmore), hdata]
    dsimp only
    rw [if_neg hb]
    refine ⟨?_, hagrees.failure⟩
    exact (piecesOf_gave hb).trans (congrArg (b :: ·) hagrees.pieces)
  | case3 context hashed s hmore cause rest hread hkind ih =>
    rcases Answer.of_outcome_error hread with ⟨hinterrupted, -⟩ | ⟨hfailed, -⟩
    · have hsteps := steps_subset_of_interrupted hinterrupted
      have hagrees := ih fun c hmem => hgood c (hsteps hmem)
      rw [request_eq hmore] at hinterrupted
      rw [readPrefix_eq s (UInt64.lt_iff_toNat_lt.mp hmore), hinterrupted]
      exact ⟨hagrees.pieces, hagrees.failure⟩
    · exact absurd hkind (hgood cause (failed_mem_steps hfailed))
  | case4 context hashed s hmore cause rest hread hfinal =>
    rcases Answer.of_outcome_error hread with ⟨-, rfl⟩ | ⟨hfailed, -⟩
    · exact absurd rfl hfinal
    · rw [request_eq hmore] at hfailed
      rw [readPrefix_eq s (UInt64.lt_iff_toNat_lt.mp hmore), hfailed]
      exact ⟨rfl, fun cause' => by simp⟩
  | case5 context hashed s hfull =>
    have hfull' : ¬hashed.toNat < size.toNat := fun hlt => hfull (UInt64.lt_iff_toNat_lt.mpr hlt)
    rw [readPrefix, if_neg hfull']
    exact ⟨rfl, fun cause => by simp⟩

/-- What was read of a source is what hashing from it comes to. -/
theorem Source.digest_readPrefix (d : RunningDigest κ) (size : UInt64) {s : Source}
    (hgood : s.FailsForGood) :
    (s.readPrefix size.toNat 0).digest =
      (reader.hashPrefix d size s : PrefixHash α).result.map fun p => (p.1, p.2.toNat) := by
  have hagrees := Source.agrees (α := α) d size hgood d.start 0
  rw [UInt64.toNat_zero] at hagrees
  have horderly : (reader.hashPrefix d size s : PrefixHash α).Orderly size :=
    reader.hashPrefix_orderly d size s
  unfold ReadPrefix.digest
  cases hfailure : (s.readPrefix size.toNat 0).failure with
  | some cause =>
    have hresult : (reader.hashPrefix d size s : PrefixHash α).result = .error cause :=
      (hagrees.failure cause).mpr hfailure
    rw [hresult]
    rfl
  | none =>
    cases hresult : (reader.hashPrefix d size s : PrefixHash α).result with
    | error cause =>
      have hcause := (hagrees.failure cause).mp hresult
      rw [hfailure] at hcause
      cases hcause
    | ok p =>
      obtain ⟨hdigest, hn⟩ := horderly.digest p.1 p.2 hresult
      have hbytes : received (reader.hashPrefix d size s : PrefixHash α).events =
          (s.readPrefix size.toNat 0).bytes := congrArg List.flatten hagrees.pieces
      rw [hbytes] at hdigest hn
      show Except.ok (_, _) = .ok (p.1, p.2.toNat)
      rw [hdigest, hn]

/-- The shares that are reported of a source are those of hashing from it. -/
theorem Source.progress_readPrefix (d : RunningDigest κ) (size : UInt64) {s : Source}
    (hgood : s.FailsForGood) :
    (s.readPrefix size.toNat 0).progress size =
      hashShares (reader.hashPrefix d size s : PrefixHash α).events := by
  have hagrees := Source.agrees (α := α) d size hgood d.start 0
  have hshares := reader.hashShares_hashFrom (α := α) d size d.start 0 s
  rw [UInt64.toNat_zero] at hagrees hshares
  rw [hagrees.pieces] at hshares
  exact hshares.symm

end

/-! ## Files -/

/-- A source that cannot be read gives nothing. -/
theorem Source.gives_of_failed {contents : Bytes} {steps : List ReadStep} {cause : SystemError}
    (hfinal : cause.kind ≠ .interrupted) :
    reader.Gives (some cause) ⟨contents, .failed cause :: steps⟩ [] := by
  have hread : ∀ want, reader.read want ⟨contents, .failed cause :: steps⟩ =
      (.error cause, ⟨contents, steps⟩) := fun _ => rfl
  refine .intro (fun want rest _ h => ?_) (fun want b rest _ h => ?_) (fun want b rest _ h => ?_)
    (fun want cause' rest _ h hkind => ?_) (fun want cause' rest _ h hkind => ?_)
  · cases h
  · cases h
  · cases h
  · cases h
    exact absurd hkind hfinal
  · cases h
    exact ⟨rfl, rfl⟩

/-- What a path opens as gives its bytes, and then it ends or fails for good. -/
theorem FileTree.gives_of_openSource {t : FileTree} {path : Path} {s : Source}
    (h : t.openSource path = .ok s) :
    s.FailsForGood ∧ ∃ ending, Source.reader.Gives ending s s.contents := by
  have hends : ∀ contents, (⟨contents, []⟩ : Source).FailsForGood ∧
      ∃ ending, Source.reader.Gives ending ⟨contents, []⟩ contents := fun contents =>
    ⟨fun cause hmem => absurd hmem List.not_mem_nil,
      none, Source.gives fun cause => List.not_mem_nil⟩
  unfold openSource at h
  split at h
  · cases h
  · cases h
    exact hends _
  · cases h
    have hfinal : SystemError.isDirectory.kind ≠ .interrupted := by decide
    refine ⟨fun cause hmem => ?_, _, Source.gives_of_failed hfinal⟩
    cases List.mem_singleton.mp hmem
    exact hfinal
  · cases h
    exact hends _

/-! ## Digests of prefixes -/

/-- What hashing prefixes with a running digest comes to, wherever reads end. -/
structure RunningDigest.HashesPrefixes [LiteralReading] (d : RunningDigest κ) : Prop where
  /-- With a reader that gives bytes, in whatever pieces and with whatever interruptions, and then
  ends or fails, the result is the digest of the first of these bytes and their number, or the
  failure. -/
  given : ∀ {α σ : Type} [ProgressNumber α] {r : ByteReader σ} {ending s c} (size : UInt64),
    r.Gives ending s c → (r.hashPrefix d size s : PrefixHash α).OfPrefix size c ending
  /-- With another reader that gives the same bytes the result is the same. -/
  independent : ∀ {α β σ τ : Type} [ProgressNumber α] [ProgressNumber β] {r : ByteReader σ}
    {r' : ByteReader τ} {ending s s' c} (size : UInt64), r.Gives ending s c → r'.Gives ending s' c →
    (r.hashPrefix d size s : PrefixHash α).result = (r'.hashPrefix d size s' : PrefixHash β).result
  /-- In exact arithmetic the shares that are reported rise, and reach one exactly if there are
  enough bytes. -/
  rises : ∀ {σ : Type} {r : ByteReader σ} {ending s c} (size : UInt64), r.Gives ending s c →
    ∃ qs, (r.hashPrefix d size s).Rises size c qs
  /-- Whatever the reader gives, no byte behind the prefix is asked for, each piece is reported
  once, and only a failure that is no interruption ends it without a digest. -/
  orderly : ∀ {α σ : Type} [ProgressNumber α] (r : ByteReader σ) (size : UInt64) (s : σ),
    (r.hashPrefix d size s : PrefixHash α).Orderly size
  /-- Sources whose answers are short reads and interruptions are such readers. -/
  sources : ∀ s : Source, (∀ cause, .failed cause ∉ s.steps) → Source.reader.Gives none s s.contents
  /-- So is what a path opens as. -/
  opened : ∀ (t : FileTree) (path : Path) (s : Source), t.openSource path = .ok s →
    s.FailsForGood ∧ ∃ ending, Source.reader.Gives ending s s.contents
  /-- What a verification reads of a source, and the shares that it reports, are those of hashing
  from it. -/
  verified : ∀ {α : Type} [ProgressNumber α] (size : UInt64) (s : Source), s.FailsForGood →
    (s.readPrefix size.toNat 0).digest = (Source.reader.hashPrefix d size s :
      PrefixHash α).result.map (fun p => (p.1, p.2.toNat)) ∧
    (s.readPrefix size.toNat 0).progress size =
      hashShares (Source.reader.hashPrefix d size s : PrefixHash α).events

/-- A prefix is hashed to the same digest in any reads. -/
theorem prefix_hashed_in_any_reads [LiteralReading] (d : RunningDigest κ) : d.HashesPrefixes where
  given size hgives := hgives.ofPrefix d size
  independent size hgives hgives' := (hgives.ofPrefix d size).result_eq (hgives'.ofPrefix d size)
  rises size hgives := hgives.exists_rises d size
  orderly r size s := r.hashPrefix_orderly d size s
  sources _ h := Source.gives h
  opened _ _ _ h := FileTree.gives_of_openSource h
  verified size _ hgood :=
    ⟨Source.digest_readPrefix d size hgood, Source.progress_readPrefix d size hgood⟩

/-- Three of five bytes are hashed from a source that gives two of them, is interrupted, and then
gives one. -/
theorem three_bytes_hashed : letI := LiteralReading.written
    (Source.reader.hashPrefix Sha256.stream 3 ⟨[1, 2, 3, 4, 5], [.short 1, .interrupted]⟩ :
      PrefixHash ExactNumber).result = .ok (sha256 [1, 2, 3], 3) := by
  let : LiteralReading := .written
  have hashes := prefix_hashed_in_any_reads Sha256.stream
  have hgives := hashes.sources ⟨[1, 2, 3, 4, 5], [.short 1, .interrupted]⟩ (by simp)
  have hof := hashes.given (α := ExactNumber) 3 hgives
  obtain ⟨n, hn, hresult⟩ := hof.digest (.inr rfl)
  obtain rfl : n = 3 := UInt64.toNat_inj.mp hn
  exact hresult

end SlotUpdate
