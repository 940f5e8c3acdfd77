import SlotUpdate.Proofs.Hash.Stream
import SlotUpdate.Verify.Source

/-!
# Hashing from a reader

`ByteReader.hashPrefix` hashes a prefix of what a reader gives, as the program does it: it keeps a
running digest and the number of bytes in it as a word, asks for no more than is missing, repeats a
read that is interrupted, and reports a share after each piece. A reader may answer with any of the
bytes that it is asked for, and be interrupted any number of times, but not for ever. So the loop
comes to an end: each piece leaves fewer bytes to hash, since the word that counts them does not
wrap (`toNat_hashed_add`), and between two pieces there are only so many interruptions.

What holds of every reader is collected in `PrefixHash.Orderly` (`ByteReader.hashPrefix_orderly`):
the requests stay within the prefix, each piece is reported at once, and only a failure that is no
interruption ends the loop without a digest. Each part is an induction on the rounds of the loop;
what is said of single events is one of them, for a law that every event meets by what was read
before it and by what follows it (`ByteReader.throughout_hashFrom`).
-/

namespace SlotUpdate

open ProgressNumber

variable {α κ σ : Type}

/-- Where bytes are read. The reader has a state of type `σ`, which a failure may change as well. -/
structure ByteReader (σ : Type) where
  /-- Read at most `want` bytes. None are given at the end. -/
  read : (want : Nat) → σ → Except SystemError Bytes × σ
  /-- No more bytes are given than were asked for. -/
  length_le : ∀ {want s b rest}, read want s = (.ok b, rest) → b.length ≤ want
  /-- A reader is not interrupted for ever, whatever bytes it is asked for. -/
  settles : WellFounded fun rest s => ∃ want cause,
    0 < want ∧ read want s = (.error cause, rest) ∧ cause.kind = .interrupted

/-! ## Requests -/

/-- How many bytes are asked for when some of a prefix are hashed. -/
def request (size hashed : UInt64) : Nat := min (size - hashed).toNat readBufferSize

section

variable {size hashed : UInt64}

/-- While bytes are missing, a request is for no more than these and no more than the buffer. -/
theorem request_eq (hmore : hashed < size) :
    request size hashed = min (size.toNat - hashed.toNat) readBufferSize := by
  have hle : hashed.toNat ≤ size.toNat := Nat.le_of_lt (UInt64.lt_iff_toNat_lt.mp hmore)
  unfold request
  rw [UInt64.toNat_sub_of_le _ _ (UInt64.le_iff_toNat_le.mpr hle)]

/-- While bytes are missing, a request is for at least one. -/
theorem request_pos (hmore : hashed < size) : 0 < request size hashed := by
  have hlt : hashed.toNat < size.toNat := UInt64.lt_iff_toNat_lt.mp hmore
  have hbuffer : 0 < readBufferSize := by decide
  rw [request_eq hmore]
  omega

/-- A request is for no byte behind the prefix. -/
theorem add_request_le (hmore : hashed < size) :
    hashed.toNat + request size hashed ≤ size.toNat := by
  have hlt : hashed.toNat < size.toNat := UInt64.lt_iff_toNat_lt.mp hmore
  rw [request_eq hmore]
  omega

/-- The word that counts the bytes does not wrap. -/
theorem toNat_hashed_add {r : ByteReader σ} {s rest : σ} {b : Bytes} (hmore : hashed < size)
    (hread : r.read (request size hashed) s = (.ok b, rest)) :
    (hashed + .ofNat b.length).toNat = hashed.toNat + b.length := by
  have hlength := r.length_le hread
  have hwithin := add_request_le hmore
  have hsize := size.toNat_lt
  have hb : (UInt64.ofNat b.length).toNat = b.length :=
    UInt64.toNat_ofNat_of_lt' (Nat.lt_of_le_of_lt (by omega) hsize)
  rw [UInt64.toNat_add, hb]
  omega

end

/-! ## Events -/

/-- What happens while a prefix is hashed. -/
inductive HashEvent (α : Type) where
  /-- Bytes are asked for, `want` at most. -/
  | read (want : Nat) (answer : Except SystemError Bytes)
  /-- A share of the prefix is reported as hashed. -/
  | progress (share : α)

namespace HashEvent

/-- The bytes of an event that gives some. -/
def piece? : HashEvent α → Option Bytes
  | .read _ (.ok b) => if b = [] then none else some b
  | _ => none

/-- The share of an event that reports one. -/
def share? : HashEvent α → Option α
  | .progress share => some share
  | _ => none

end HashEvent

/-- The pieces that were read, in order. -/
def piecesOf (es : List (HashEvent α)) : List Bytes := es.filterMap HashEvent.piece?

/-- The bytes that were read. -/
def received (es : List (HashEvent α)) : Bytes := (piecesOf es).flatten

/-- The shares that were reported, in order. -/
def hashShares (es : List (HashEvent α)) : List α := es.filterMap HashEvent.share?

section

variable {want : Nat} {b : Bytes} {cause : SystemError} {q : α} {e : HashEvent α}
  {es before after : List (HashEvent α)}

/-- Bytes that are read are a piece, and the report of a share is none. -/
theorem piecesOf_gave (hb : b ≠ []) :
    piecesOf (.read want (.ok b) :: .progress q :: es) = b :: piecesOf es := by
  have hpiece : (HashEvent.read want (.ok b) : HashEvent α).piece? = some b := if_neg hb
  unfold piecesOf
  rw [List.filterMap_cons_some hpiece]
  rfl

/-- No piece is empty. -/
theorem ne_nil_of_mem_piecesOf (hb : b ∈ piecesOf es) : b ≠ [] := by
  obtain ⟨e, -, he⟩ := List.mem_filterMap.mp hb
  unfold HashEvent.piece? at he
  split at he
  · split at he
    · cases he
    · rename_i hne
      exact Option.some.inj he ▸ hne
  · cases he

/-- The bytes of one event come before those of the others. -/
theorem received_cons (e : HashEvent α) (es : List (HashEvent α)) :
    received (e :: es) = received [e] ++ received es := by
  unfold received piecesOf
  rw [← List.flatten_append, ← List.filterMap_append]
  rfl

/-- Each event meets a law, by how many bytes were read before it and by what follows it. -/
def Throughout (law : Nat → HashEvent α → List (HashEvent α) → Prop) :
    Nat → List (HashEvent α) → Prop
  | _, [] => True
  | n, e :: after => law n e after ∧ Throughout law (n + (received [e]).length) after

/-- An event among others meets the law. -/
theorem Throughout.at {law : Nat → HashEvent α → List (HashEvent α) → Prop} {n : Nat}
    (h : Throughout law n (before ++ e :: after)) : law (n + (received before).length) e after := by
  induction before generalizing n with
  | nil => exact h.1
  | cons e' before ih =>
    have hlaw := ih h.2
    rwa [Nat.add_assoc, ← List.length_append, ← received_cons] at hlaw

end

/-! ## The loop -/

/-- The outcome of hashing a prefix. -/
structure PrefixHash (α : Type) where
  /-- The digest and the number of bytes, or why they cannot be read. -/
  result : Except SystemError (Bytes × UInt64)
  /-- What happened, in order. -/
  events : List (HashEvent α)

/-- An outcome with other events before it. -/
def PrefixHash.after (first : List (HashEvent α)) (h : PrefixHash α) : PrefixHash α :=
  ⟨h.result, first ++ h.events⟩

/-- The last event is one of those that follow, unless it is the last of the first ones. -/
theorem PrefixHash.getLast?_after {first : List (HashEvent α)} {e : HashEvent α} (h : PrefixHash α)
    (hne : first.getLast? ≠ some e) :
    (h.after first).events.getLast? = some e ↔ h.events.getLast? = some e := by
  show (first ++ h.events).getLast? = some e ↔ _
  rw [List.getLast?_append]
  cases h.events.getLast? with
  | none => exact iff_of_false hne (Option.some_ne_none e).symm
  | some e' => exact Iff.rfl

variable [ProgressNumber α]

namespace ByteReader

/-- Hash the rest of a prefix, of which `hashed` bytes are in the running digest. -/
def hashFrom (r : ByteReader σ) (d : RunningDigest κ) (size : UInt64) (context : κ)
    (hashed : UInt64) (s : σ) : PrefixHash α :=
  if _hmore : hashed < size then
    match _hread : r.read (request size hashed) s with
    | (.ok b, rest) =>
      if _hb : b = [] then
        ⟨.ok (d.finish context, hashed), [.read (request size hashed) (.ok [])]⟩
      else
        let total := hashed + .ofNat b.length
        (hashFrom r d size (d.update context b) total rest).after
          [.read (request size hashed) (.ok b), .progress (ofWord total / ofWord size)]
    | (.error cause, rest) =>
      if _hkind : cause.kind = .interrupted then
        (hashFrom r d size context hashed rest).after [.read (request size hashed) (.error cause)]
      else ⟨.error cause, [.read (request size hashed) (.error cause)]⟩
  else ⟨.ok (d.finish context, hashed), []⟩
termination_by (size.toNat - hashed.toNat, r.settles.wrap s)
decreasing_by
  · -- The piece is not empty, so fewer bytes are missing.
    have hcount := toNat_hashed_add _hmore _hread
    have hlt : hashed.toNat < size.toNat := UInt64.lt_iff_toNat_lt.mp _hmore
    have hpos : 0 < b.length := List.length_pos_iff.mpr _hb
    apply Prod.Lex.left
    omega
  · -- As many bytes are missing as before, and the reader is nearer to its next answer.
    exact Prod.Lex.right _ ⟨_, _, request_pos _hmore, _hread, _hkind⟩

/-- Hash the first `size` bytes of what a reader gives. -/
def hashPrefix (r : ByteReader σ) (d : RunningDigest κ) (size : UInt64) (s : σ) : PrefixHash α :=
  r.hashFrom d size d.start 0 s

end ByteReader

/-! ## What holds of every reader -/

/-- How an event stands among the others when `n` bytes were read before it. -/
def HashEvent.Stands (size : UInt64) (n : Nat) :
    HashEvent α → (after : List (HashEvent α)) → Prop
  | .read want (.ok b), after => 0 < want ∧ n + want ≤ size.toNat ∧
    (b ≠ [] → after.head? = some (.progress (ofWord (.ofNat (n + b.length)) / ofWord size)))
  | .read want (.error cause), after => 0 < want ∧ n + want ≤ size.toNat ∧
    (cause.kind ≠ .interrupted → after = [])
  | .progress _, _ => True

/-- What hashing a prefix comes to, whatever the reader. -/
structure PrefixHash.Orderly (size : UInt64) (h : PrefixHash α) : Prop where
  /-- Each request is for at least one byte, and for none behind the prefix. -/
  requests : ∀ before want answer after, h.events = before ++ .read want answer :: after →
    0 < want ∧ (received before).length + want ≤ size.toNat
  /-- When bytes have been read, the share of all bytes so far is reported before anything else
  happens. -/
  reports : ∀ before want b after, h.events = before ++ .read want (.ok b) :: after → b ≠ [] →
    after.head? = some
      (.progress (ofWord (.ofNat ((received before).length + b.length)) / ofWord size))
  /-- There is one report for each piece. -/
  once : (hashShares h.events).length = (piecesOf h.events).length
  /-- A digest is that of the bytes that were read, and comes with their number. -/
  digest : ∀ digest n, h.result = .ok (digest, n) →
    digest = sha256 (received h.events) ∧ n.toNat = (received h.events).length
  /-- A read that fails, and is not only interrupted, is the last event. -/
  stops : ∀ before want cause after, h.events = before ++ .read want (.error cause) :: after →
    cause.kind ≠ .interrupted → after = []
  /-- There is a failure, and no digest, exactly if the last event is a read that fails so. -/
  fails : ∀ cause, h.result = .error cause ↔
    cause.kind ≠ .interrupted ∧ ∃ want, h.events.getLast? = some (.read want (.error cause))

/-- There are as many shares as pieces. -/
theorem ReadPrefix.length_shares (size : UInt64) (n : Nat) (pieces : List Bytes) :
    (ReadPrefix.shares size n pieces : List α).length = pieces.length := by
  induction pieces generalizing n with
  | nil => rfl
  | cons b pieces ih => exact congrArg (· + 1) (ih (n + b.length))

namespace ByteReader

variable (r : ByteReader σ) (d : RunningDigest κ) (size : UInt64) (context : κ) (hashed : UInt64)
  (s : σ)

/-- Events stand as they should, from the bytes on that are hashed before. -/
theorem throughout_hashFrom : Throughout (HashEvent.Stands size) hashed.toNat
    (r.hashFrom d size context hashed s : PrefixHash α).events := by
  fun_induction hashFrom (α := α) r d size context hashed s with
  | case1 context hashed s hmore rest hread =>
    exact ⟨⟨request_pos hmore, add_request_le hmore, fun hb => absurd rfl hb⟩, trivial⟩
  | case2 context hashed s hmore b rest hread hb total ih =>
    have hcount : total.toNat = hashed.toNat + b.length := toNat_hashed_add hmore hread
    -- The piece is reported, and what follows stands behind the bytes of the piece.
    refine ⟨⟨request_pos hmore, add_request_le hmore, fun _ => ?_⟩, trivial, ?_⟩
    · rw [← hcount, UInt64.ofNat_toNat]
      rfl
    · have hpiece : received [HashEvent.read (α := α) (request size hashed) (.ok b)] = b := by
        simp [received, piecesOf, HashEvent.piece?, hb]
      rw [hpiece, ← hcount]
      exact ih
  | case3 context hashed s hmore cause rest hread hkind ih =>
    exact ⟨⟨request_pos hmore, add_request_le hmore, fun hfinal => absurd hkind hfinal⟩, ih⟩
  | case4 context hashed s hmore cause rest hread hkind =>
    exact ⟨⟨request_pos hmore, add_request_le hmore, fun _ => rfl⟩, trivial⟩
  | case5 context hashed s hfull => trivial

/-- The shares are those of the pieces. -/
theorem hashShares_hashFrom :
    hashShares (r.hashFrom d size context hashed s : PrefixHash α).events =
      ReadPrefix.shares size hashed.toNat
        (piecesOf (r.hashFrom d size context hashed s : PrefixHash α).events) := by
  fun_induction hashFrom (α := α) r d size context hashed s with
  | case1 => rfl
  | case2 context hashed s hmore b rest hread hb total ih =>
    have hcount : total.toNat = hashed.toNat + b.length := toNat_hashed_add hmore hread
    show _ :: hashShares _ = ReadPrefix.shares size _ (piecesOf (_ :: _ :: _))
    rw [piecesOf_gave hb, ReadPrefix.shares, ← hcount, UInt64.ofNat_toNat]
    exact congrArg (_ :: ·) ih
  | case3 context hashed s hmore cause rest hread hkind ih => exact ih
  | case4 => rfl
  | case5 => rfl

/-- A digest is that of all pieces, and comes with the number of their bytes. -/
theorem hashFrom_eq_ok {digest : Bytes} {n : UInt64}
    (h : (r.hashFrom d size context hashed s : PrefixHash α).result = .ok (digest, n)) :
    digest = d.finish ((piecesOf (r.hashFrom d size context hashed s : PrefixHash α).events).foldl
        d.update context) ∧
      n.toNat = hashed.toNat +
        (received (r.hashFrom d size context hashed s : PrefixHash α).events).length := by
  fun_induction hashFrom (α := α) r d size context hashed s with
  | case1 =>
    cases h
    exact ⟨rfl, rfl⟩
  | case2 context hashed s hmore b rest hread hb total ih =>
    obtain ⟨hdigest, hn⟩ := ih h
    have hcount : total.toNat = hashed.toNat + b.length := toNat_hashed_add hmore hread
    show digest = d.finish ((piecesOf (_ :: _ :: _)).foldl d.update context) ∧
      n.toNat = hashed.toNat + (piecesOf (_ :: _ :: _)).flatten.length
    rw [piecesOf_gave hb, List.foldl_cons, List.flatten_cons, List.length_append, ← Nat.add_assoc,
      ← hcount]
    exact ⟨hdigest, hn⟩
  | case3 context hashed s hmore cause rest hread hkind ih => exact ih h
  | case4 => cases h
  | case5 =>
    cases h
    exact ⟨rfl, rfl⟩

/-- There is a failure exactly if the last event is a read with that failure, which is no
interruption. -/
theorem hashFrom_eq_error_iff {cause : SystemError} :
    (r.hashFrom d size context hashed s : PrefixHash α).result = .error cause ↔
      cause.kind ≠ .interrupted ∧ ∃ want,
        (r.hashFrom d size context hashed s : PrefixHash α).events.getLast? =
          some (.read want (.error cause)) := by
  fun_induction hashFrom (α := α) r d size context hashed s with
  | case1 context hashed s hmore rest hread => simp
  | case2 context hashed s hmore b rest hread hb total ih =>
    -- The report comes behind the read, so neither of the two is the failure.
    refine ih.trans (and_congr_right fun _ => exists_congr fun want => ?_)
    refine (PrefixHash.getLast?_after _ fun hlast => ?_).symm
    cases Option.some.inj hlast
  | case3 context hashed s hmore cause' rest hread hkind ih =>
    refine ih.trans (and_congr_right fun hfinal => exists_congr fun want => ?_)
    -- The read was only interrupted, so it is not the failure.
    refine (PrefixHash.getLast?_after _ fun hlast => ?_).symm
    obtain ⟨-, hcause⟩ := HashEvent.read.inj (Option.some.inj hlast)
    obtain rfl := Except.error.inj hcause
    exact hfinal hkind
  | case4 context hashed s hmore cause' rest hread hfinal =>
    -- The only event is this read, so the failures of both sides are its own.
    constructor
    · intro hresult
      obtain rfl := Except.error.inj hresult
      exact ⟨hfinal, _, rfl⟩
    · rintro ⟨-, want, hlast⟩
      obtain ⟨-, hcause⟩ := HashEvent.read.inj (Option.some.inj hlast)
      obtain rfl := Except.error.inj hcause
      rfl
  | case5 context hashed s hfull => simp

/-- Hashing is orderly, whatever the reader. -/
theorem hashPrefix_orderly : (r.hashPrefix d size s : PrefixHash α).Orderly size := by
  -- What is said of single events is the law that they meet, from no bytes on.
  have hstands : ∀ {before : List (HashEvent α)} {e after},
      (r.hashPrefix d size s).events = before ++ e :: after →
        e.Stands size (received before).length after := by
    intro before e after hevents
    have hthroughout := r.throughout_hashFrom (α := α) d size d.start 0 s
    have hat := (hevents ▸ hthroughout).at
    rwa [UInt64.toNat_zero, Nat.zero_add] at hat
  constructor
  case requests =>
    intro before want answer after hevents
    have h := hstands hevents
    cases answer with
    | ok b => exact ⟨h.1, h.2.1⟩
    | error cause => exact ⟨h.1, h.2.1⟩
  case reports => exact fun before want b after hevents => (hstands hevents).2.2
  case once =>
    have hshares := r.hashShares_hashFrom (α := α) d size d.start 0 s
    exact (congrArg List.length hshares).trans (ReadPrefix.length_shares _ _ _)
  case digest =>
    intro digest n hok
    obtain ⟨hdigest, hn⟩ := r.hashFrom_eq_ok d size d.start 0 s hok
    rw [UInt64.toNat_zero, Nat.zero_add] at hn
    exact ⟨hdigest.trans (d.finish_foldl _), hn⟩
  case stops => exact fun before want cause after hevents => (hstands hevents).2.2
  case fails => exact fun cause => r.hashFrom_eq_error_iff d size d.start 0 s

end ByteReader

end SlotUpdate
