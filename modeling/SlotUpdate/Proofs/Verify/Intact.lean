import Mathlib.Algebra.Ring.Nat
import SlotUpdate.Proofs.Verify.Prefix
import SlotUpdate.Verify.Partitions

/-!
# Exactly intact partitions are accepted

A partition is intact if it is empty, or its device can be read as far as its size says and the
digest of these bytes is the recorded one (`Partition.Intact`). Otherwise it has a fault
(`Partition.Faulty`). `verifyPartitions` accepts partitions exactly if there are some and all are
intact; else it gives the fault of the first that is not, and opens no device after that one
(`AcceptsIntact`). This is so as long as their bytes fit a word together (`bytesOf`). If they do not
the sum of their sizes overflows, and nothing is opened (`verifyPartitions_of_overflow`).

The outcome at one partition follows from what reading a prefix gives (`Intact.result_verify`,
`Faulty.result_verify`), and that at all of them by induction on the list (`verifyFrom_of_intact`,
`FirstFault.result_verifyFrom`). What a device holds behind the size of a partition, and whatever
the devices of empty ones hold, makes no difference (`verifyFrom_congr`).
-/

namespace SlotUpdate

variable {α : Type} {openDevice openDevice' : Path → Except SystemError Source} {p : Partition}
  {e : VerifyError}

/-! ## Bytes of partitions -/

/-- How many bytes partitions have together. -/
def bytesOf (ps : List Partition) : Nat := Aggregator.exactTotal (ps.map (·.size))

/-- The bytes of a partition and those of the others. -/
@[simp]
theorem bytesOf_cons (p : Partition) (ps : List Partition) :
    bytesOf (p :: ps) = p.size.toNat + bytesOf ps := rfl

/-- The bytes of some partitions and those of others. -/
@[simp]
theorem bytesOf_append (ps qs : List Partition) : bytesOf (ps ++ qs) = bytesOf ps + bytesOf qs := by
  unfold bytesOf
  rw [List.map_append, Aggregator.exactTotal_append]

/-- Partitions have no bytes exactly if all of them are empty. -/
theorem bytesOf_eq_zero_iff {ps : List Partition} : bytesOf ps = 0 ↔ ∀ p ∈ ps, p.size = 0 := by
  induction ps with
  | nil => exact iff_of_true rfl (List.forall_mem_nil _)
  | cons p ps ih =>
    have hsize : p.size.toNat = 0 ↔ p.size = 0 := by
      rw [← UInt64.toNat_inj, UInt64.toNat_zero]
    rw [bytesOf_cons, Nat.add_eq_zero_iff, List.forall_mem_cons, ih, hsize]

/-! ## Intact partitions -/

/-- A device holds what is recorded of a partition. Nothing is recorded of an empty one. -/
def Partition.Intact (openDevice : Path → Except SystemError Source) (p : Partition) : Prop :=
  p.size ≠ 0 → ∃ s, openDevice p.target = .ok s ∧ (∀ cause, ¬s.Fails p.size.toNat cause) ∧
    p.size.toNat ≤ s.contents.length ∧ sha256 (s.contents.take p.size.toNat) = p.hash

/-- What is wrong with a partition. -/
inductive Partition.Faulty (openDevice : Path → Except SystemError Source) (p : Partition) :
    VerifyError → Prop where
  /-- Its device cannot be opened. -/
  | cannotOpen {cause : SystemError} (size : p.size ≠ 0)
    (opens : openDevice p.target = .error cause) :
    Faulty openDevice p (.cannotOpen p.name p.target cause)
  /-- Its device cannot be read. -/
  | cannotRead {s : Source} {cause : SystemError} (size : p.size ≠ 0)
    (opens : openDevice p.target = .ok s) (fails : s.Fails p.size.toNat cause) :
    Faulty openDevice p (.cannotRead p.name cause)
  /-- Its device has too few bytes. -/
  | truncated {s : Source} (size : p.size ≠ 0) (opens : openDevice p.target = .ok s)
    (reads : ∀ cause, ¬s.Fails p.size.toNat cause) (few : s.contents.length < p.size.toNat) :
    Faulty openDevice p (.truncated p.name p.size s.contents.length)
  /-- The digest of its bytes is not the recorded one. -/
  | hashMismatch {s : Source} (size : p.size ≠ 0) (opens : openDevice p.target = .ok s)
    (reads : ∀ cause, ¬s.Fails p.size.toNat cause) (enough : p.size.toNat ≤ s.contents.length)
    (differs : sha256 (s.contents.take p.size.toNat) ≠ p.hash) :
    Faulty openDevice p (.hashMismatch p.name p.hash (sha256 (s.contents.take p.size.toNat)))

/-- The recorded digest of an intact partition has 32 bytes. -/
theorem Partition.Intact.length_hash (h : p.Intact openDevice) (hsize : p.size ≠ 0) :
    p.hash.length = 32 := by
  obtain ⟨s, -, -, -, hhash⟩ := h hsize
  rw [← hhash]
  exact length_sha256 _

/-- A partition on a file without failures is intact if the file is long enough and the digest is
the recorded one. -/
theorem Partition.intact_iff_of_unfailing {s : Source} (hsize : p.size ≠ 0)
    (hopen : openDevice p.target = .ok s) (hsteps : ∀ c, .failed c ∉ s.steps) :
    p.Intact openDevice ↔ p.size.toNat ≤ s.contents.length ∧
      sha256 (s.contents.take p.size.toNat) = p.hash := by
  constructor
  · intro h
    obtain ⟨s', hopen', -, hlength, hhash⟩ := h hsize
    obtain rfl := Except.ok.inj (hopen.symm.trans hopen')
    exact ⟨hlength, hhash⟩
  · rintro ⟨hlength, hhash⟩ -
    exact ⟨s, hopen, fun _ => not_failsWithin_of_not_mem hsteps, hlength, hhash⟩

/-- A partition on a file of the tree is intact if the file is long enough and the digest is the
recorded one. -/
theorem Partition.intact_openSource_iff {t : FileTree} {contents : Bytes} (hsize : p.size ≠ 0)
    (hfile : t.stat p.target = .ok (.file contents)) :
    p.Intact t.openSource ↔
      p.size.toNat ≤ contents.length ∧ sha256 (contents.take p.size.toNat) = p.hash := by
  have hopen : t.openSource p.target = .ok ⟨contents, []⟩ := by
    unfold FileTree.openSource
    rw [hfile]
  exact Partition.intact_iff_of_unfailing hsize hopen fun _ => List.not_mem_nil

/-- A partition with a fault is not intact. -/
theorem Partition.Faulty.not_intact (h : p.Faulty openDevice e) : ¬p.Intact openDevice := by
  intro hintact
  cases h with
  | cannotOpen hsize hopen =>
    obtain ⟨s, hopen', -⟩ := hintact hsize
    rw [hopen] at hopen'
    cases hopen'
  | cannotRead hsize hopen hfails =>
    obtain ⟨s, hopen', hreads, -⟩ := hintact hsize
    obtain rfl := Except.ok.inj (hopen.symm.trans hopen')
    exact hreads _ hfails
  | truncated hsize hopen _ hfew =>
    obtain ⟨s, hopen', -, henough, -⟩ := hintact hsize
    obtain rfl := Except.ok.inj (hopen.symm.trans hopen')
    omega
  | hashMismatch hsize hopen _ _ hdiffers =>
    obtain ⟨s, hopen', -, -, hhash⟩ := hintact hsize
    obtain rfl := Except.ok.inj (hopen.symm.trans hopen')
    exact hdiffers hhash

/-- A partition is intact or has a fault. -/
theorem Partition.intact_or_faulty (openDevice : Path → Except SystemError Source)
    (p : Partition) : p.Intact openDevice ∨ ∃ e, p.Faulty openDevice e := by
  by_cases hsize : p.size = 0
  · exact Or.inl fun hne => absurd hsize hne
  cases hopen : openDevice p.target with
  | error cause => exact Or.inr ⟨_, .cannotOpen hsize hopen⟩
  | ok s =>
    by_cases hfails : ∃ cause, s.Fails p.size.toNat cause
    · obtain ⟨cause, hcause⟩ := hfails
      exact Or.inr ⟨_, .cannotRead hsize hopen hcause⟩
    · have hreads : ∀ cause, ¬s.Fails p.size.toNat cause := not_exists.mp hfails
      by_cases hlength : p.size.toNat ≤ s.contents.length
      · by_cases hhash : sha256 (s.contents.take p.size.toNat) = p.hash
        · exact Or.inl fun _ => ⟨s, hopen, hreads, hlength, hhash⟩
        · exact Or.inr ⟨_, .hashMismatch hsize hopen hreads hlength hhash⟩
      · exact Or.inr ⟨_, .truncated hsize hopen hreads (Nat.lt_of_not_le hlength)⟩

/-- Only a partition that is not empty has a fault. -/
theorem Partition.Faulty.size_ne (h : p.Faulty openDevice e) : p.size ≠ 0 := by
  cases h <;> assumption

/-- Only a wrong digest is reported as an error of the new system. -/
theorem VerifyError.errorCode_eq_iff (e : VerifyError) :
    e.errorCode = .newRootfsVerificationError ↔
      ∃ partition expected actual, e = .hashMismatch partition expected actual := by
  cases e <;> simp [VerifyError.errorCode]

/-! ## One partition -/

/-- What is read of a device that fails is not compared. -/
theorem Partition.compare_of_fails {s : Source} {cause : SystemError}
    (h : s.Fails p.size.toNat cause) :
    p.compare (s.readPrefix p.size.toNat 0) = .error (.cannotRead p.name cause) := by
  have hfailure := (s.readPrefix_failure_iff p.size.toNat 0 cause).mpr h
  unfold Partition.compare ReadPrefix.digest
  rw [hfailure]

/-- What is read of a device that does not fail is as long as the partition, or all there is. -/
theorem Partition.compare_of_reads {s : Source} (h : ∀ cause, ¬s.Fails p.size.toNat cause) :
    p.compare (s.readPrefix p.size.toNat 0) =
      if p.size.toNat ≤ s.contents.length then .ok (sha256 (s.contents.take p.size.toNat))
      else .error (.truncated p.name p.size s.contents.length) := by
  have hfailure : (s.readPrefix p.size.toNat 0).failure = none := by
    rw [Option.eq_none_iff_forall_ne_some]
    intro cause hsome
    exact h cause ((s.readPrefix_failure_iff p.size.toNat 0 cause).mp hsome)
  have hbytes := Source.readPrefix_bytes hfailure
  unfold Partition.compare ReadPrefix.digest
  rw [hfailure, hbytes, Nat.sub_zero, List.length_take]
  by_cases hlength : p.size.toNat ≤ s.contents.length
  · rw [if_pos hlength, Nat.min_eq_left hlength]
    exact if_pos rfl
  · have hfew := Nat.le_of_not_le hlength
    have hne : s.contents.length ≠ p.size.toNat := fun heq => hlength (Nat.le_of_eq heq.symm)
    rw [if_neg hlength, Nat.min_eq_right hfew]
    exact if_neg hne

variable [ProgressNumber α]

/-- Verifying a partition opens its device, whatever that holds. -/
theorem Partition.opened_verify (p : Partition) (source : Except SystemError Source) :
    (p.verify source : Verification α).opened = [p.target] := by
  have hshares : ∀ shares : List α,
      (shares.map VerifyEvent.progress).filterMap VerifyEvent.opened? = [] := by
    intro shares
    rw [List.filterMap_map]
    exact List.filterMap_eq_nil_iff.mpr fun _ _ => rfl
  unfold Partition.verify Verification.opened
  cases source with
  | error cause => rfl
  | ok s =>
    dsimp only
    split
    · rw [List.filterMap_append, hshares]
      rfl
    · rw [List.filterMap_append, List.filterMap_append, hshares]
      rfl

/-- The outcome at a device that opens: what is read is compared, and then its digest. -/
theorem Partition.result_verify (p : Partition) (s : Source) :
    (p.verify (.ok s) : Verification α).result =
      (p.compare (s.readPrefix p.size.toNat 0)).bind fun digest =>
        if digest = p.hash then .ok () else .error (.hashMismatch p.name p.hash digest) := by
  unfold Partition.verify
  dsimp only
  cases p.compare (s.readPrefix p.size.toNat 0) with
  | error e => rfl
  | ok digest => rfl

/-- An intact partition is accepted. -/
theorem Partition.Intact.result_verify (h : p.Intact openDevice) (hsize : p.size ≠ 0) :
    (p.verify (openDevice p.target) : Verification α).result = .ok () := by
  obtain ⟨s, hopen, hreads, hlength, hhash⟩ := h hsize
  rw [hopen, p.result_verify, Partition.compare_of_reads hreads, if_pos hlength]
  exact if_pos hhash

/-- A fault of a partition is the error. -/
theorem Partition.Faulty.result_verify (h : p.Faulty openDevice e) :
    (p.verify (openDevice p.target) : Verification α).result = .error e := by
  cases h with
  | cannotOpen _ hopen =>
    rw [hopen]
    rfl
  | cannotRead _ hopen hfails =>
    rw [hopen, p.result_verify, Partition.compare_of_fails hfails]
    rfl
  | truncated _ hopen hreads hfew =>
    rw [hopen, p.result_verify, Partition.compare_of_reads hreads, if_neg (Nat.not_le_of_lt hfew)]
    rfl
  | hashMismatch _ hopen hreads henough hdiffers =>
    rw [hopen, p.result_verify, Partition.compare_of_reads hreads, if_pos henough]
    exact if_neg hdiffers

/-- What a device holds behind the size of a partition makes no difference. -/
theorem Partition.verify_congr {source source' : Except SystemError Source}
    (h : source.map (·.cut p.size.toNat) = source'.map (·.cut p.size.toNat)) :
    (p.verify source : Verification α) = p.verify source' := by
  cases source with
  | error cause =>
    cases source' with
    | error cause' => rw [Except.error.inj h]
    | ok s' => cases h
  | ok s =>
    cases source' with
    | error cause' => cases h
    | ok s' =>
      have hcut : s.cut p.size.toNat = s'.cut p.size.toNat := Except.ok.inj h
      have hread := s.readPrefix_cut p.size.toNat 0
      rw [Nat.sub_zero, hcut] at hread
      have hread' := s'.readPrefix_cut p.size.toNat 0
      rw [Nat.sub_zero, hread] at hread'
      simp only [Partition.verify, hread']

/-! ## All partitions -/

/-- The devices of partitions that are not empty. -/
def devicesOf (ps : List Partition) : List Path :=
  (ps.filter fun p => decide (p.size ≠ 0)).map (·.target)

/-- A partition of a list has a fault, and those before it are intact. -/
structure FirstFault (openDevice : Path → Except SystemError Source) (ps before : List Partition)
    (p : Partition) (e : VerifyError) : Prop where
  /-- The partition stands behind the others. -/
  stands : ∃ after, ps = before ++ p :: after
  /-- Those before it are intact. -/
  intact : ∀ q ∈ before, q.Intact openDevice
  /-- The partition has the fault. -/
  faulty : p.Faulty openDevice e

/-- An intact partition in front of others leaves the first fault where it is. -/
theorem FirstFault.cons {ps before : List Partition} {q : Partition}
    (h : FirstFault openDevice ps before q e) (hp : p.Intact openDevice) :
    FirstFault openDevice (p :: ps) (p :: before) q e where
  stands := by
    obtain ⟨after, rfl⟩ := h.stands
    exact ⟨after, rfl⟩
  intact := List.forall_mem_cons.mpr ⟨hp, h.intact⟩
  faulty := h.faulty

/-- All partitions are intact, or there is a first that is not. -/
theorem intact_or_firstFault (openDevice : Path → Except SystemError Source)
    (ps : List Partition) :
    (∀ p ∈ ps, p.Intact openDevice) ∨ ∃ before p e, FirstFault openDevice ps before p e := by
  induction ps with
  | nil => exact Or.inl fun _ hp => absurd hp List.not_mem_nil
  | cons p ps ih =>
    rcases p.intact_or_faulty openDevice with hp | ⟨e, hp⟩
    · rcases ih with hall | ⟨before, q, e, hfirst⟩
      · exact Or.inl (List.forall_mem_cons.mpr ⟨hp, hall⟩)
      · exact Or.inr ⟨p :: before, q, e, hfirst.cons hp⟩
    · exact Or.inr ⟨[], p, e, ⟨ps, rfl⟩, fun _ hq => absurd hq List.not_mem_nil, hp⟩

/-- The device of an empty partition is left out. -/
theorem devicesOf_cons_of_empty (h : p.size = 0) (ps : List Partition) :
    devicesOf (p :: ps) = devicesOf ps := by
  unfold devicesOf
  rw [List.filter_cons_of_neg (by simpa using h)]

/-- The device of a partition that is not empty comes first. -/
theorem devicesOf_cons (h : p.size ≠ 0) (ps : List Partition) :
    devicesOf (p :: ps) = p.target :: devicesOf ps := by
  unfold devicesOf
  rw [List.filter_cons_of_pos (by simpa using h), List.map_cons]

/-- Another share opens the same device. -/
theorem opened?_mapShare (a : Aggregator) (event : VerifyEvent α) :
    (event.mapShare a.progress).opened? = event.opened? := by
  cases event <;> rfl

/-- An empty partition is passed over. -/
theorem verifyFrom_cons_of_empty (openDevice : Path → Except SystemError Source) (a : Aggregator)
    (h : p.size = 0) (ps : List Partition) :
    (verifyFrom openDevice a (p :: ps) : Verification α).result =
        (verifyFrom openDevice a.advance ps : Verification α).result ∧
      (verifyFrom openDevice a (p :: ps) : Verification α).opened =
        (verifyFrom openDevice a.advance ps : Verification α).opened := by
  rw [verifyFrom, if_pos h]
  exact ⟨rfl, rfl⟩

/-- The first partition that is not empty is opened. If it is accepted the others follow, and
otherwise none does. -/
theorem verifyFrom_cons (openDevice : Path → Except SystemError Source) (a : Aggregator)
    (h : p.size ≠ 0) (ps : List Partition) :
    ((p.verify (openDevice p.target) : Verification α).result = .ok () →
        (verifyFrom openDevice a (p :: ps) : Verification α).result =
            (verifyFrom openDevice a.advance ps : Verification α).result ∧
          (verifyFrom openDevice a (p :: ps) : Verification α).opened =
            p.target :: (verifyFrom openDevice a.advance ps : Verification α).opened) ∧
      ∀ e, (p.verify (openDevice p.target) : Verification α).result = .error e →
        (verifyFrom openDevice a (p :: ps) : Verification α).result = .error e ∧
          (verifyFrom openDevice a (p :: ps) : Verification α).opened = [p.target] := by
  have hdevice : (p.verify (openDevice p.target) : Verification α).opened = [p.target] :=
    p.opened_verify _
  have hopened : ((p.verify (openDevice p.target) : Verification α).events.map
      (·.mapShare a.progress)).filterMap VerifyEvent.opened? = [p.target] := by
    have hsame : VerifyEvent.opened? ∘ (·.mapShare a.progress) = VerifyEvent.opened? (α := α) :=
      funext (opened?_mapShare a)
    rw [List.filterMap_map, hsame]
    exact hdevice
  rw [verifyFrom, if_neg h]
  dsimp only
  refine ⟨fun hok => ?_, fun e herror => ?_⟩
  · rw [hok]
    refine ⟨rfl, ?_⟩
    show List.filterMap VerifyEvent.opened? (_ ++ _) = _
    rw [List.filterMap_append, hopened]
    rfl
  · rw [herror]
    refine ⟨rfl, ?_⟩
    show List.filterMap VerifyEvent.opened? (_ ++ _) = _
    rw [List.filterMap_append, hopened]
    rfl

/-- Intact partitions are accepted, and their devices opened. -/
theorem verifyFrom_of_intact (a : Aggregator) {ps : List Partition}
    (h : ∀ p ∈ ps, p.Intact openDevice) :
    (verifyFrom openDevice a ps : Verification α).result = .ok () ∧
      (verifyFrom openDevice a ps : Verification α).opened = devicesOf ps := by
  induction ps generalizing a with
  | nil => exact ⟨rfl, rfl⟩
  | cons p ps ih =>
    obtain ⟨hp, hps⟩ := List.forall_mem_cons.mp h
    obtain ⟨hok, hdone⟩ := ih a.advance hps
    by_cases hsize : p.size = 0
    · obtain ⟨hresult, hopened⟩ := verifyFrom_cons_of_empty (α := α) openDevice a hsize ps
      rw [hresult, hopened, devicesOf_cons_of_empty hsize]
      exact ⟨hok, hdone⟩
    · obtain ⟨hgoesOn, -⟩ := verifyFrom_cons (α := α) openDevice a hsize ps
      obtain ⟨hresult, hopened⟩ := hgoesOn (hp.result_verify hsize)
      rw [hresult, hopened, devicesOf_cons hsize, hdone]
      exact ⟨hok, rfl⟩

/-- The fault of the first partition that is not intact is the error, and devices are opened as far
as that partition. -/
theorem FirstFault.result_verifyFrom (a : Aggregator) {ps before : List Partition}
    (h : FirstFault openDevice ps before p e) :
    (verifyFrom openDevice a ps : Verification α).result = .error e ∧
      (verifyFrom openDevice a ps : Verification α).opened =
        devicesOf (before ++ [p]) := by
  obtain ⟨⟨after, rfl⟩, hbefore, hfaulty⟩ := h
  induction before generalizing a with
  | nil =>
    have hsize := hfaulty.size_ne
    obtain ⟨-, hends⟩ := verifyFrom_cons (α := α) openDevice a hsize after
    obtain ⟨hresult, hopened⟩ := hends e hfaulty.result_verify
    rw [List.nil_append, hresult, hopened, List.nil_append, devicesOf_cons hsize]
    exact ⟨rfl, rfl⟩
  | cons q before ih =>
    obtain ⟨hq, hrest⟩ := List.forall_mem_cons.mp hbefore
    obtain ⟨herror, hdone⟩ := ih a.advance hrest
    by_cases hsize : q.size = 0
    · obtain ⟨hresult, hopened⟩ :=
        verifyFrom_cons_of_empty (α := α) openDevice a hsize (before ++ p :: after)
      rw [List.cons_append, hresult, hopened, List.cons_append, devicesOf_cons_of_empty hsize]
      exact ⟨herror, hdone⟩
    · obtain ⟨hgoesOn, -⟩ := verifyFrom_cons (α := α) openDevice a hsize (before ++ p :: after)
      obtain ⟨hresult, hopened⟩ := hgoesOn (hq.result_verify hsize)
      rw [List.cons_append, hresult, hopened, List.cons_append, devicesOf_cons hsize, hdone]
      exact ⟨herror, rfl⟩

/-- Partitions that the same is found of are verified in the same way. -/
theorem verifyFrom_congr (a : Aggregator) {ps : List Partition}
    (h : ∀ p ∈ ps, p.size ≠ 0 → (openDevice p.target).map (·.cut p.size.toNat) =
      (openDevice' p.target).map (·.cut p.size.toNat)) :
    (verifyFrom openDevice a ps : Verification α) = verifyFrom openDevice' a ps := by
  induction ps generalizing a with
  | nil => rfl
  | cons p ps ih =>
    obtain ⟨hp, hps⟩ := List.forall_mem_cons.mp h
    rw [verifyFrom, verifyFrom, ih a.advance hps]
    by_cases hsize : p.size = 0
    · rw [if_pos hsize, if_pos hsize]
    · rw [if_neg hsize, if_neg hsize, Partition.verify_congr (hp hsize)]

/-- Partitions are verified as their devices say. -/
structure AcceptsIntact (openDevice : Path → Except SystemError Source) (ps : List Partition)
    (v : Verification α) : Prop where
  /-- They are accepted exactly if there are some and all are intact. -/
  accepts : v.result = .ok () ↔ ps ≠ [] ∧ ∀ p ∈ ps, p.Intact openDevice
  /-- The recorded digests of accepted partitions have 32 bytes, apart from those of empty ones. -/
  digests : v.result = .ok () → ∀ p ∈ ps, p.size ≠ 0 → p.hash.length = 32
  /-- The devices of accepted partitions are opened, in order. -/
  opens : v.result = .ok () → v.opened = devicesOf ps
  /-- If there are none that is the error. -/
  missing : ps = [] → v.result = .error .noPartitions ∧ v.opened = []
  /-- Any other error is the fault of the first partition that is not intact. -/
  blames : ∀ e, v.result = .error e → ps ≠ [] → ∃ before p, FirstFault openDevice ps before p e
  /-- The first fault is the error, and no device of a later partition is opened. -/
  rejects : ∀ before p e, FirstFault openDevice ps before p e →
    v.result = .error e ∧ v.opened = devicesOf (before ++ [p])
  /-- Only a wrong digest is reported as an error of the new system. -/
  code : ∀ e, v.result = .error e → (e.errorCode = .newRootfsVerificationError ↔
    ∃ partition expected actual, e = .hashMismatch partition expected actual)

/-- Where there are partitions whose bytes fit a word, the outcome is that of going through them.
What is done at the beginning is reported before. -/
theorem verifyPartitions_of_fits (openDevice : Path → Except SystemError Source)
    {ps : List Partition} (hne : ps ≠ []) (hfits : bytesOf ps < 2 ^ 64) :
    (verifyPartitions openDevice ps : Verification α).result =
        (verifyFrom openDevice (.ofWeights (ps.map (·.size))) ps : Verification α).result ∧
      (verifyPartitions openDevice ps : Verification α).opened =
        (verifyFrom openDevice (.ofWeights (ps.map (·.size))) ps : Verification α).opened ∧
      (verifyPartitions openDevice ps : Verification α).progress =
        (Aggregator.ofWeights (ps.map (·.size))).progress ProgressNumber.zero ::
          (verifyFrom openDevice (.ofWeights (ps.map (·.size))) ps : Verification α).progress := by
  unfold verifyPartitions
  rw [if_neg hne, Aggregator.ofWeights?_of_lt hfits]
  exact ⟨rfl, rfl, rfl⟩

/-- Where the bytes do not fit a word, nothing is found out of the partitions. -/
theorem verifyPartitions_of_overflow (openDevice : Path → Except SystemError Source)
    {ps : List Partition} (h : 2 ^ 64 ≤ bytesOf ps) :
    (verifyPartitions openDevice ps : Verification α) = ⟨.error .sumOverflow, []⟩ := by
  have hne : ps ≠ [] := by
    rintro rfl
    exact absurd h (by decide)
  unfold verifyPartitions
  rw [if_neg hne, Aggregator.ofWeights?_of_le h]

/-- Where there are no partitions nothing is accepted. -/
theorem acceptsIntact_nil (openDevice : Path → Except SystemError Source) :
    AcceptsIntact openDevice [] (verifyPartitions openDevice [] : Verification α) where
  accepts := iff_of_false (fun hok => nomatch hok) fun h => h.1 rfl
  digests _ p hp := absurd hp List.not_mem_nil
  opens _ := rfl
  missing _ := ⟨rfl, rfl⟩
  blames e _ hne := absurd rfl hne
  rejects before p e hfirst := by
    obtain ⟨after, hnil⟩ := hfirst.stands
    simp at hnil
  code e _ := e.errorCode_eq_iff

/-- Partitions are accepted exactly if all are intact. -/
theorem acceptsIntact_of_fits (openDevice : Path → Except SystemError Source)
    {ps : List Partition} (hne : ps ≠ []) (hfits : bytesOf ps < 2 ^ 64) :
    AcceptsIntact openDevice ps (verifyPartitions openDevice ps : Verification α) := by
  obtain ⟨hresult, hopened, -⟩ := verifyPartitions_of_fits (α := α) openDevice hne hfits
  have hrejects : ∀ before p e, FirstFault openDevice ps before p e →
      (verifyPartitions openDevice ps : Verification α).result = .error e ∧
        (verifyPartitions openDevice ps : Verification α).opened = devicesOf (before ++ [p]) := by
    intro before p e hfirst
    rw [hresult, hopened]
    exact hfirst.result_verifyFrom _
  have hmissing : ps = [] → (verifyPartitions openDevice ps : Verification α).result =
      .error .noPartitions ∧ (verifyPartitions openDevice ps : Verification α).opened = [] :=
    fun hnil => absurd hnil hne
  rcases intact_or_firstFault openDevice ps with hall | ⟨before, p, e, hfirst⟩
  · obtain ⟨hok, hdone⟩ := verifyFrom_of_intact (α := α) (.ofWeights (ps.map (·.size))) hall
    rw [← hresult] at hok
    rw [← hopened] at hdone
    refine ⟨iff_of_true hok ⟨hne, hall⟩, fun _ p hp => (hall p hp).length_hash, fun _ => hdone,
      hmissing, fun e herror => ?_, hrejects, fun e _ => e.errorCode_eq_iff⟩
    rw [hok] at herror
    cases herror
  · obtain ⟨herror, -⟩ := hrejects before p e hfirst
    have hnotOk : (verifyPartitions openDevice ps : Verification α).result ≠ .ok () := by
      intro hok
      rw [herror] at hok
      cases hok
    have hnotIntact : ¬∀ q ∈ ps, q.Intact openDevice := by
      intro hall
      obtain ⟨after, hps⟩ := hfirst.stands
      exact hfirst.faulty.not_intact (hall p (by rw [hps]; simp))
    refine ⟨iff_of_false hnotOk fun h => hnotIntact h.2, fun hok => absurd hok hnotOk,
      fun hok => absurd hok hnotOk, hmissing, fun e' herror' _ => ?_, hrejects,
      fun e' _ => e'.errorCode_eq_iff⟩
    obtain rfl := Except.error.inj (herror.symm.trans herror')
    exact ⟨before, p, hfirst⟩

/-- Verification accepts exactly the intact partitions, and otherwise blames the first that is not,
as long as their bytes fit a word together. It finds out nothing of partitions whose bytes do not,
since the sum of their sizes overflows before a device is opened. What is behind the size of a
partition on its device makes no difference, nor do the devices of empty partitions. -/
theorem accepts_exactly_intact (openDevice : Path → Except SystemError Source)
    (ps : List Partition) :
    (bytesOf ps < 2 ^ 64 →
        AcceptsIntact openDevice ps (verifyPartitions openDevice ps : Verification α)) ∧
      (2 ^ 64 ≤ bytesOf ps →
        (verifyPartitions openDevice ps : Verification α) = ⟨.error .sumOverflow, []⟩) ∧
      ∀ openDevice' : Path → Except SystemError Source,
        (∀ p ∈ ps, p.size ≠ 0 → (openDevice p.target).map (·.cut p.size.toNat) =
          (openDevice' p.target).map (·.cut p.size.toNat)) →
        (verifyPartitions openDevice ps : Verification α) = verifyPartitions openDevice' ps := by
  refine ⟨fun hfits => ?_, verifyPartitions_of_overflow openDevice, fun openDevice' hsame => ?_⟩
  · by_cases hne : ps = []
    · rw [hne]
      exact acceptsIntact_nil openDevice
    · exact acceptsIntact_of_fits openDevice hne hfits
  · simp only [verifyPartitions, verifyFrom_congr _ hsame]

/-- The device of sample partitions. -/
def imageDevice : PartitionDevice := ⟨⟨"/dev/image"⟩, ⟨"/dev/image"⟩, false⟩

/-- An update to a partition of a size. -/
def updateOfSize (name : String) (size : UInt64) : PartitionUpdate :=
  { PartitionUpdate.kind.empty with
    partitionName := name, newPartitionInfo := some ⟨some size, none⟩ }

/-- The partition of this update. -/
def partitionOfSize (name : String) (size : UInt64) : Partition :=
  InstallPlan.partitionOf (updateOfSize name size) imageDevice

/-- An intact partition is accepted behind an empty one, although its device holds more. -/
theorem intact_image_accepted :
    let odm := partitionOfSize "odm" 0
    let system : Partition := { partitionOfSize "system" 2 with hash := sha256 [0x11, 0x22] }
    let openDevice : Path → Except SystemError Source := fun _ => .ok ⟨[0x11, 0x22, 0x33], []⟩
    let v : Verification Float := verifyPartitions openDevice [odm, system]
    bytesOf [odm, system] < 2 ^ 64 ∧ v.result = .ok () ∧ v.opened = [⟨"/dev/image"⟩] := by
  intro odm system openDevice v
  have hfits : bytesOf [odm, system] < 2 ^ 64 := by decide
  have hodm : odm.Intact openDevice := fun hsize => absurd rfl hsize
  have hsystem : system.Intact openDevice :=
    (Partition.intact_iff_of_unfailing (by decide) rfl fun _ => List.not_mem_nil).mpr
      ⟨by decide, congrArg sha256 rfl⟩
  have haccepts := (accepts_exactly_intact (α := Float) openDevice [odm, system]).1 hfits
  have hok : v.result = .ok () := haccepts.accepts.mpr
    ⟨List.cons_ne_nil _ _, List.forall_mem_cons.mpr ⟨hodm, List.forall_mem_singleton.mpr hsystem⟩⟩
  exact ⟨hfits, hok, haccepts.opens hok⟩

/-- The first of some partitions has no device, but that is not the error where their sizes do not
fit a word together. -/
theorem oversized_fault_unreported :
    let system := partitionOfSize "system" 18446744073709547520
    let vendor := partitionOfSize "vendor" 8192
    let openDevice : Path → Except SystemError Source := fun _ => .error .noEntry
    let v : Verification Float := verifyPartitions openDevice [system, vendor]
    FirstFault openDevice [system, vendor] [] system
        (.cannotOpen "system" ⟨"/dev/image"⟩ .noEntry) ∧
      v.result = .error .sumOverflow ∧ ¬AcceptsIntact openDevice [system, vendor] v := by
  intro system vendor openDevice v
  have hfirst : FirstFault openDevice [system, vendor] [] system
      (.cannotOpen "system" ⟨"/dev/image"⟩ .noEntry) :=
    ⟨⟨[vendor], rfl⟩, List.forall_mem_nil _, .cannotOpen (by decide) rfl⟩
  have hoverflow : v.result = .error .sumOverflow := by
    show (verifyPartitions openDevice [system, vendor] : Verification Float).result = _
    rw [verifyPartitions_of_overflow openDevice (by decide)]
  refine ⟨hfirst, hoverflow, fun haccepts => ?_⟩
  obtain ⟨herror, -⟩ := haccepts.rejects _ _ _ hfirst
  rw [hoverflow] at herror
  cases herror

end SlotUpdate
