import SlotUpdate.Mount.Handles
import SlotUpdate.Proofs.List.Places
import SlotUpdate.Proofs.Postinstall.Paths

/-!
# Every mount is undone once

Calls on any number of scoped mounts, on a platform on which every request may fail. `records` takes
the exchanges of the calls apart, one record for each call.

`Follows` says all that one call can do to the guards. That a guard at hand still has to be undone
(`AllMounted`) is kept by every call, so the flag of a guard never stands in the way of undoing it,
and it is used up by the call that does so. Through the later calls a place either keeps its guard
or is given up by one call (`records_of_held`), and a place without a guard stays silent
(`records_of_gone`). `UndoesOnce` puts this together for whole histories, and for those at whose end
every guard is given up.
-/

namespace SlotUpdate

open Runner (Acquires Clears acquire_ensures ensureUnmounted_ensures unmount_ensures)
open SlotUpdate.Action

variable {α σ : Type}

/-! ## Records -/

/-- What a call on scoped mounts did. -/
structure MountRecord (α : Type) where
  /-- The call. -/
  call : MountCall
  /-- Its answer. -/
  answer : MountAnswer
  /-- Its exchanges, in order. -/
  exchanges : List (Exchange α)

namespace MountCall

/-- Whether a call tries to mount. -/
def tries : MountCall → Bool
  | .acquire _ _ _ _ => true
  | _ => false

/-- The place of the guard that a call gives up. -/
def place? : MountCall → Option Nat
  | .unmount n | .drop n => some n
  | _ => none

/-- The calls that give the first guards up. -/
def drops (count : Nat) : List MountCall := (List.range count).map .drop

/-- How many calls try to mount. -/
def attempts (cs : List MountCall) : Nat := cs.countP tries

/-- The first call may be an attempt. -/
theorem attempts_cons (c : MountCall) (cs : List MountCall) :
    attempts (c :: cs) = attempts cs + if c.tries then 1 else 0 := List.countP_cons

/-- Giving up is no attempt. -/
theorem not_mem_drops_of_tries {c : MountCall} (h : c.tries = true) (count : Nat) :
    c ∉ drops count := by
  intro hmem
  obtain ⟨n, -, rfl⟩ := List.mem_map.mp hmem
  cases h

end MountCall

open MountCall (attempts drops)

namespace MountHandles

/-- The records of calls that are carried out in order. -/
def records (p : Platform α σ) : MountHandles → List MountCall → σ → List (MountRecord α)
  | _, [], _ => []
  | h, c :: rest, s =>
    let o := (h.call c).run p s
    ⟨c, o.result.2, o.exchanges⟩ :: records p o.result.1 rest o.state

/-- There is one record for each call. -/
theorem map_call_records (p : Platform α σ) (h : MountHandles) (cs : List MountCall) (s : σ) :
    (h.records p cs s).map (·.call) = cs := by
  induction cs generalizing h s with
  | nil => rfl
  | cons c cs ih => exact congrArg (c :: ·) (ih _ _)

/-- The exchanges of calls in order are those of their records. -/
theorem exchanges_calls (p : Platform α σ) (h : MountHandles) (cs : List MountCall) (s : σ) :
    ((h.calls cs).run p s).exchanges = (h.records p cs s).flatMap (·.exchanges) := by
  induction cs generalizing h s with
  | nil => rfl
  | cons c cs ih =>
    unfold calls
    rw [run_bind]
    exact congrArg (((h.call c).run p s).exchanges ++ ·) (ih _ _)

/-! ## What a call can do -/

/-- What a call exchanges, what becomes of the guards, and what it answers. -/
inductive Follows (h : MountHandles) :
    MountCall → List (Exchange α) → MountHandles → MountAnswer → Prop where
  /-- A device is mounted, and the mount is guarded. -/
  | mounted {device mountPoint : Path} {filesystem options : String} {xs : List (Exchange α)}
    (acquires : Acquires device mountPoint filesystem options xs (.ok ⟨mountPoint⟩)) :
    Follows h (.acquire device mountPoint filesystem options) xs (h.add (some ⟨⟨mountPoint⟩, true⟩))
      (.mounted mountPoint)
  /-- A device cannot be mounted, and there is nothing to guard. -/
  | refused {device mountPoint : Path} {filesystem options : String} {xs : List (Exchange α)}
    {e : MountError} (acquires : Acquires device mountPoint filesystem options xs (.error e)) :
    Follows h (.acquire device mountPoint filesystem options) xs (h.add none) (.failed e)
  /-- There is no guard to be given up. -/
  | gone {c : MountCall} {n : Nat} {answer : MountAnswer} (place : c.place? = some n)
    (missing : h.get? n = none) : Follows h c [] h answer
  /-- A mount is undone, with a report of failure. -/
  | unmounts {n : Nat} {g : MountGuard} (held : h.get? n = some g)
    (reply : Except SystemError Unit) :
    Follows h (.unmount n) [⟨.unmount g.mount.mountPoint, reply⟩] (h.remove n)
      (.ofOutcome (reply.mapError (.unmount g.mount.mountPoint)))
  /-- A mount is undone when its guard is given up. -/
  | drops {n : Nat} {g : MountGuard} (held : h.get? n = some g) (reply : Except SystemError Unit) :
    Follows h (.drop n) [⟨.unmount g.mount.mountPoint, reply⟩] (h.remove n) .nothing
  /-- A path is made free. -/
  | clears {mountPoint : Path} {xs : List (Exchange α)} {outcome : Except MountError Unit}
    (clears : Clears mountPoint xs outcome) :
    Follows h (.ensureUnmounted mountPoint) xs h (.ofOutcome outcome)

/-- Every guard at hand still has its mount to undo. -/
def AllMounted (h : MountHandles) : Prop := ∀ g, some g ∈ h.handles → g.mounted = true

/-- The guard at a place is one of those at hand. -/
theorem mem_of_get? {h : MountHandles} {n : Nat} {g : MountGuard} (hget : h.get? n = some g) :
    some g ∈ h.handles :=
  List.mem_of_getElem? (Option.join_eq_some_iff.mp hget)

end MountHandles

/-- Unmounting through a guard is unmounting: giving the guard up afterwards asks for nothing, also
if the platform could not unmount. -/
theorem MountGuard.unmount_eq (g : MountGuard) :
    (g.unmount : Action α _) = g.mount.unmount := by
  unfold unmount ScopedMount.unmount
  show ask _ _ = ask _ _
  congr 1
  funext reply
  cases reply with
  | error e => rfl
  | ok u => rfl

/-- Giving up a guard whose mount has to be undone asks for one unmount. -/
theorem MountGuard.release_ensures {g : MountGuard} (h : g.mounted = true) :
    (g.release : Action α Unit).Ensures fun xs _ =>
      ∃ reply : Except SystemError Unit, xs = [⟨.unmount g.mount.mountPoint, reply⟩] := by
  unfold release ScopedMount.drop
  rw [if_pos h, ensures_bind, ensures_request]
  intro reply
  cases reply with
  | error e => exact ⟨.error e, rfl⟩
  | ok u => exact ⟨.ok (), rfl⟩

/-- Guarding a mount asks for what mounting does. -/
theorem MountGuard.acquire_ensures (device mountPoint : Path) (filesystem options : String) :
    (MountGuard.acquire device mountPoint filesystem options : Action α _).Ensures fun xs outcome =>
      (Acquires device mountPoint filesystem options xs (.ok ⟨mountPoint⟩) ∧
          outcome = .ok ⟨⟨mountPoint⟩, true⟩) ∨
        ∃ e, Acquires device mountPoint filesystem options xs (.error e) ∧ outcome = .error e := by
  unfold MountGuard.acquire
  refine (Runner.acquire_ensures device mountPoint filesystem options).bind ?_
  intro xs outcome hxs
  cases outcome with
  | error e => exact Or.inr ⟨e, by simpa using hxs, rfl⟩
  | ok m =>
    have hm : m = ⟨mountPoint⟩ := by
      cases hxs
      rfl
    subst hm
    exact Or.inl ⟨by simpa using hxs, rfl⟩

namespace MountHandles

/-- Every call does what `Follows` says. -/
theorem call_ensures {h : MountHandles} (hall : h.AllMounted) (c : MountCall) :
    (h.call c : Action α _).Ensures fun xs out => h.Follows c xs out.1 out.2 := by
  unfold call
  cases c with
  | acquire device mountPoint filesystem options =>
    refine (MountGuard.acquire_ensures device mountPoint filesystem options).bind ?_
    rintro xs outcome (⟨hxs, rfl⟩ | ⟨e, hxs, rfl⟩)
    · exact .mounted (by simpa using hxs)
    · exact .refused (by simpa using hxs)
  | unmount n =>
    dsimp only
    split
    next hget => exact .gone rfl hget
    next g hget =>
      rw [MountGuard.unmount_eq]
      refine (unmount_ensures g.mount).bind ?_
      rintro xs outcome (⟨rfl, rfl⟩ | ⟨e, rfl, rfl⟩)
      · exact .unmounts hget (.ok ())
      · exact .unmounts hget (.error e)
  | drop n =>
    dsimp only
    split
    next hget => exact .gone rfl hget
    next g hget =>
      refine (MountGuard.release_ensures (hall g (mem_of_get? hget))).bind ?_
      rintro xs u ⟨reply, rfl⟩
      exact .drops hget reply
  | ensureUnmounted mountPoint =>
    refine (ensureUnmounted_ensures mountPoint).bind ?_
    intro xs outcome hxs
    exact .clears (by simpa using hxs)

/-! ### Guards through a call -/

/-- A new guard leaves the others as they are. -/
theorem get?_add_of_lt {h : MountHandles} (g : Option MountGuard) {n : Nat}
    (hn : n < h.handles.length) : (h.add g).get? n = h.get? n := by
  unfold add get?
  rw [List.getElem?_append_left hn]

/-- A new guard stands behind the others. -/
theorem get?_add_length (h : MountHandles) (g : Option MountGuard) :
    (h.add g).get? h.handles.length = g := by
  unfold add get?
  rw [List.getElem?_concat_length]
  rfl

/-- A guard that is given up leaves the others as they are. -/
theorem get?_remove_of_ne (h : MountHandles) {m n : Nat} (hne : m ≠ n) :
    (h.remove m).get? n = h.get? n := by
  unfold remove get?
  rw [List.getElem?_set_ne hne]

/-- A guard that is given up is gone. -/
theorem get?_remove_self (h : MountHandles) (n : Nat) : (h.remove n).get? n = none := by
  unfold remove get?
  rw [List.getElem?_set_self']
  cases h.handles[n]? with
  | none => rfl
  | some g => rfl

/-- There is no guard behind the last place. -/
theorem get?_of_length_le {h : MountHandles} {n : Nat} (hn : h.handles.length ≤ n) :
    h.get? n = none := by
  unfold get?
  rw [List.getElem?_eq_none hn]
  rfl

/-- A guard stands at one of the places. -/
theorem lt_length_of_get? {h : MountHandles} {n : Nat} {g : MountGuard}
    (hget : h.get? n = some g) : n < h.handles.length := by
  rcases Nat.lt_or_ge n h.handles.length with hlt | hle
  · exact hlt
  · rw [get?_of_length_le hle] at hget
    cases hget

namespace Follows

variable {h h' : MountHandles} {c : MountCall} {xs : List (Exchange α)} {answer : MountAnswer}

/-- Guards go on having their mounts to undo. -/
theorem allMounted (hf : Follows h c xs h' answer) (hall : h.AllMounted) : h'.AllMounted := by
  have hadd : ∀ {g : Option MountGuard}, (∀ g', g = some g' → g'.mounted = true) →
      (h.add g).AllMounted := by
    intro g hg g' hmem
    rcases List.mem_append.mp hmem with hmem | hmem
    · exact hall g' hmem
    · exact hg g' (List.mem_singleton.mp hmem).symm
  have hremove : ∀ n, (h.remove n).AllMounted := by
    intro n g hmem
    rcases List.mem_or_eq_of_mem_set hmem with hmem | hnone
    · exact hall g hmem
    · cases hnone
  cases hf with
  | mounted => exact hadd fun g' hg => by rw [← Option.some.inj hg]
  | refused => exact hadd nofun
  | gone => exact hall
  | unmounts => exact hremove _
  | drops => exact hremove _
  | clears => exact hall

/-- An attempt to mount adds a place, and no other call does. -/
theorem length_eq (hf : Follows h c xs h' answer) :
    h'.handles.length = h.handles.length + if c.tries then 1 else 0 := by
  cases hf with
  | mounted => exact List.length_append
  | refused => exact List.length_append
  | @gone c n _ hplace =>
    cases c with
    | acquire => cases hplace
    | _ => rfl
  | unmounts => exact List.length_set
  | drops => exact List.length_set
  | clears => rfl

/-- A call leaves the guards alone that it does not give up. -/
theorem get?_eq (hf : Follows h c xs h' answer) {n : Nat} (hn : n < h.handles.length)
    (hplace : c.place? ≠ some n) : h'.get? n = h.get? n := by
  cases hf with
  | mounted => exact get?_add_of_lt _ hn
  | refused => exact get?_add_of_lt _ hn
  | gone => rfl
  | unmounts => exact get?_remove_of_ne h fun heq => hplace (congrArg some heq)
  | drops => exact get?_remove_of_ne h fun heq => hplace (congrArg some heq)
  | clears => rfl

/-- A call on a place without a guard asks for nothing and leaves the guards as they are. -/
theorem of_get?_eq_none (hf : Follows h c xs h' answer) {n : Nat} (hplace : c.place? = some n)
    (hget : h.get? n = none) : xs = [] ∧ h' = h := by
  cases hf with
  | mounted => cases hplace
  | refused => cases hplace
  | gone => exact ⟨rfl, rfl⟩
  | unmounts hheld =>
    obtain rfl := Option.some.inj hplace
    rw [hget] at hheld
    cases hheld
  | drops hheld =>
    obtain rfl := Option.some.inj hplace
    rw [hget] at hheld
    cases hheld
  | clears => cases hplace

end Follows

/-- The first record is what the first call does, and the others start from there. -/
theorem exists_records_cons (p : Platform α σ) {h : MountHandles} (hall : h.AllMounted)
    (c : MountCall) (cs : List MountCall) (s : σ) :
    ∃ r h' s', h.records p (c :: cs) s = r :: h'.records p cs s' ∧ r.call = c ∧
      Follows h c r.exchanges h' r.answer :=
  ⟨_, _, _, rfl, rfl, ((call_ensures hall c).run p s).1⟩

end MountHandles

/-! ## What becomes of a place -/

namespace MountRecord

/-- No call gives the guard at a place up. -/
def Waiting (n : Nat) (rs : List (MountRecord α)) : Prop := ∀ r ∈ rs, r.call.place? ≠ some n

/-- Calls on a place ask for nothing. -/
def Silent (n : Nat) (rs : List (MountRecord α)) : Prop :=
  ∀ r ∈ rs, r.call.place? = some n → r.exchanges = []

/-- A call gives the guard at a place up and asks for one unmount, of the path of its mount. Only
an explicit unmount reports whether this was a success. -/
def Undoes (n : Nat) (mountPoint : Path) (r : MountRecord α) : Prop :=
  ∃ reply : Except SystemError Unit, r.exchanges = [⟨.unmount mountPoint, reply⟩] ∧
    (r.call = .unmount n ∧ r.answer = .ofOutcome (reply.mapError (.unmount mountPoint)) ∨
      r.call = .drop n ∧ r.answer = .nothing)

/-- The mount at a place is undone by the first call that gives its guard up, and later calls on the
place ask for nothing. -/
def UndoneIn (n : Nat) (mountPoint : Path) (rs : List (MountRecord α)) : Prop :=
  ∃ before r after, rs = before ++ r :: after ∧ Waiting n before ∧ Undoes n mountPoint r ∧
    Silent n after

/-- One call more before the others that leaves a place alone changes nothing about it. -/
theorem UndoneIn.cons {n : Nat} {mountPoint : Path} {rs : List (MountRecord α)}
    (h : UndoneIn n mountPoint rs) {r : MountRecord α} (hr : r.call.place? ≠ some n) :
    UndoneIn n mountPoint (r :: rs) := by
  obtain ⟨before, u, after, rfl, hwaiting, hrest⟩ := h
  exact ⟨r :: before, u, after, rfl, List.forall_mem_cons.mpr ⟨hr, hwaiting⟩, hrest⟩

end MountRecord

open MountRecord (Waiting Silent Undoes UndoneIn)

namespace MountHandles

/-- A place without a guard stays silent. -/
theorem records_of_gone (p : Platform α σ) {h : MountHandles} (hall : h.AllMounted) {n : Nat}
    (hn : n < h.handles.length) (hget : h.get? n = none) (cs : List MountCall) (s : σ) :
    Silent n (h.records p cs s) := by
  induction cs generalizing h s with
  | nil => exact List.forall_mem_nil _
  | cons c cs ih =>
    obtain ⟨r, h', s', hrecords, rfl, hf⟩ := exists_records_cons p hall c cs s
    rw [hrecords]
    refine List.forall_mem_cons.mpr ⟨fun hplace => (hf.of_get?_eq_none hplace hget).1, ?_⟩
    have hn' : n < h'.handles.length := by
      rw [hf.length_eq]
      omega
    refine ih (hf.allMounted hall) hn' ?_ s'
    by_cases hplace : r.call.place? = some n
    · rw [(hf.of_get?_eq_none hplace hget).2]
      exact hget
    · rw [hf.get?_eq hn hplace]
      exact hget

/-- A call that gives a guard at hand up undoes its mount, and the guard is gone. -/
theorem Follows.undoes {h h' : MountHandles} {r : MountRecord α}
    (hf : Follows h r.call r.exchanges h' r.answer) {n : Nat} (hplace : r.call.place? = some n)
    {g : MountGuard} (hget : h.get? n = some g) :
    Undoes n g.mount.mountPoint r ∧ h'.get? n = none := by
  obtain ⟨call, answer, xs⟩ := r
  cases hf with
  | mounted => cases hplace
  | refused => cases hplace
  | gone hplace' hmissing =>
    rw [hplace] at hplace'
    obtain rfl := Option.some.inj hplace'
    rw [hget] at hmissing
    cases hmissing
  | unmounts hheld reply =>
    obtain rfl := Option.some.inj hplace
    rw [hget] at hheld
    obtain rfl := Option.some.inj hheld
    exact ⟨⟨reply, rfl, Or.inl ⟨rfl, rfl⟩⟩, get?_remove_self h _⟩
  | drops hheld reply =>
    obtain rfl := Option.some.inj hplace
    rw [hget] at hheld
    obtain rfl := Option.some.inj hheld
    exact ⟨⟨reply, rfl, Or.inr ⟨rfl, rfl⟩⟩, get?_remove_self h _⟩
  | clears => cases hplace

/-- The mount of a guard at hand is undone by the first call that gives the guard up, if there is
one. -/
theorem records_of_held (p : Platform α σ) {h : MountHandles} (hall : h.AllMounted) {n : Nat}
    {g : MountGuard} (hget : h.get? n = some g) (cs : List MountCall) (s : σ) :
    Waiting n (h.records p cs s) ∨ UndoneIn n g.mount.mountPoint (h.records p cs s) := by
  induction cs generalizing h s with
  | nil => exact Or.inl (List.forall_mem_nil _)
  | cons c cs ih =>
    obtain ⟨r, h', s', hrecords, rfl, hf⟩ := exists_records_cons p hall c cs s
    have hall' := hf.allMounted hall
    have hn := lt_length_of_get? hget
    rw [hrecords]
    by_cases hplace : r.call.place? = some n
    · -- This call uses the guard up, so the place is silent from here on.
      obtain ⟨hundoes, hget'⟩ := hf.undoes hplace hget
      have hn' : n < h'.handles.length := by
        rw [hf.length_eq]
        omega
      exact Or.inr ⟨[], r, _, rfl, List.forall_mem_nil _, hundoes,
        records_of_gone p hall' hn' hget' cs s'⟩
    · have hget' : h'.get? n = some g := by rw [hf.get?_eq hn hplace, hget]
      rcases ih hall' hget' s' with hwaiting | hundone
      · exact Or.inl (List.forall_mem_cons.mpr ⟨hplace, hwaiting⟩)
      · exact Or.inr (hundone.cons hplace)

/-- What becomes of the place that an attempt to mount adds: calls on it before ask for nothing, and
afterwards its mount is undone, or it stays silent if there is none. -/
theorem records_of_attempt (p : Platform α σ) {h : MountHandles} (hall : h.AllMounted)
    (cs : List MountCall) (s : σ) {before after : List (MountRecord α)} {r : MountRecord α}
    (hsplit : h.records p cs s = before ++ r :: after) {device mountPoint : Path}
    {filesystem options : String} (hcall : r.call = .acquire device mountPoint filesystem options)
    {n : Nat} (hn : n = h.handles.length + attempts (before.map (·.call))) :
    Silent n before ∧
      (r.answer = .mounted mountPoint ∧ (Waiting n after ∨ UndoneIn n mountPoint after) ∨
        (∃ e, r.answer = .failed e) ∧ Silent n after) := by
  induction cs generalizing h s before with
  | nil =>
    have hne := List.append_ne_nil_of_right_ne_nil before (List.cons_ne_nil r after)
    exact absurd hsplit.symm hne
  | cons c cs ih =>
    obtain ⟨r', h', s', hrecords, rfl, hf⟩ := exists_records_cons p hall c cs s
    have hall' := hf.allMounted hall
    have hlength := hf.length_eq
    rw [hrecords] at hsplit
    cases before with
    | nil =>
      obtain ⟨rfl, rfl⟩ := List.cons.inj hsplit
      obtain rfl : n = h.handles.length := hn
      refine ⟨List.forall_mem_nil _, ?_⟩
      obtain ⟨call, answer, xs⟩ := r'
      obtain rfl : call = _ := hcall
      have hn' : h.handles.length < h'.handles.length := by
        rw [hlength]
        exact Nat.lt_succ_self _
      cases hf with
      | mounted =>
        exact Or.inl ⟨rfl, records_of_held p hall' (get?_add_length h _) cs s'⟩
      | refused =>
        exact Or.inr ⟨⟨_, rfl⟩, records_of_gone p hall' hn' (get?_add_length h _) cs s'⟩
      | gone hplace => cases hplace
    | cons b before =>
      obtain ⟨rfl, hsplit'⟩ := List.cons.inj hsplit
      rw [List.map_cons, MountCall.attempts_cons] at hn
      obtain ⟨hsilent, hrest⟩ := ih hall' s' hsplit' (by omega)
      refine ⟨List.forall_mem_cons.mpr ⟨fun hplace => ?_, hsilent⟩, hrest⟩
      exact (hf.of_get?_eq_none hplace (get?_of_length_le (by omega))).1

end MountHandles

/-! ## Attempts to mount -/

/-- Whether a request mounts a device. -/
def Request.mounts : Request α → Bool
  | .mount _ _ _ _ => true
  | _ => false

/-- All that has to go well before a device is mounted. -/
inductive Prepares (device mountPoint : Path) : List (Exchange α) → Prop where
  /-- Nothing was mounted. -/
  | free : Prepares device mountPoint
    [⟨.pathExists device, true⟩, ⟨.pathExists mountPoint, true⟩,
      ⟨.isMountPoint mountPoint, .ok false⟩, ⟨.setReadonly device true, .ok ()⟩]
  /-- What was mounted is gone. -/
  | cleared : Prepares device mountPoint
    [⟨.pathExists device, true⟩, ⟨.pathExists mountPoint, true⟩,
      ⟨.isMountPoint mountPoint, .ok true⟩, ⟨.unmount mountPoint, .ok ()⟩,
      ⟨.setReadonly device true, .ok ()⟩]

/-- Preparations do not mount. -/
theorem Prepares.mounts_eq_false {device mountPoint : Path} {xs : List (Exchange α)}
    (h : Prepares device mountPoint xs) : ∀ x ∈ xs, x.request.mounts = false := by
  cases h with
  | free => simp [Request.mounts]
  | cleared => simp [Request.mounts]

/-- Making a path free does not mount. -/
theorem Runner.Clears.mounts_eq_false {mountPoint : Path} {xs : List (Exchange α)}
    {outcome : Except MountError Unit} (h : Clears mountPoint xs outcome) :
    ∀ x ∈ xs, x.request.mounts = false := by
  cases h <;> simp [Request.mounts]

/-- A path that is free, and a device that is read-only, are all the preparations. -/
theorem Runner.Clears.prepares_mount {mountPoint : Path} {xs : List (Exchange α)}
    (h : Clears mountPoint xs (.ok ())) (device : Path) :
    Prepares device mountPoint
      ([⟨.pathExists device, true⟩, ⟨.pathExists mountPoint, true⟩] ++ xs ++
        [⟨.setReadonly device true, .ok ()⟩]) := by
  cases h with
  | free => exact .free
  | cleared => exact .cleared

/-- An attempt to mount asks for the mount last of all, after all preparations, or not at all. -/
theorem Runner.Acquires.mounts_last {device mountPoint : Path} {filesystem options : String}
    {xs : List (Exchange α)} {outcome : Except MountError ScopedMount}
    (h : Acquires device mountPoint filesystem options xs outcome) :
    ((∃ e, outcome = .error e) ∧ ∀ x ∈ xs, x.request.mounts = false) ∨
      ∃ (before : List (Exchange α)) (reply : Except SystemError Unit),
        Prepares device mountPoint before ∧
        xs = before ++ [⟨.mount device mountPoint filesystem options, reply⟩] ∧
        (reply = .ok () ∧ outcome = .ok ⟨mountPoint⟩ ∨
          ∃ e, reply = .error e ∧ outcome = .error (.mount device mountPoint e)) := by
  have hfound : ∀ x ∈ ([⟨.pathExists device, true⟩, ⟨.pathExists mountPoint, true⟩] :
      List (Exchange α)), x.request.mounts = false := by simp [Request.mounts]
  cases h with
  | noDevice => exact Or.inl ⟨⟨_, rfl⟩, by simp [Request.mounts]⟩
  | noDirectory => exact Or.inl ⟨⟨_, rfl⟩, by simp [Request.mounts]⟩
  | blocked hclears =>
    exact Or.inl ⟨⟨_, rfl⟩, List.forall_mem_append.mpr ⟨hfound, hclears.mounts_eq_false⟩⟩
  | writable e hclears =>
    refine Or.inl ⟨⟨_, rfl⟩, ?_⟩
    rw [List.forall_mem_append, List.forall_mem_append]
    exact ⟨⟨hfound, hclears.mounts_eq_false⟩, by simp [Request.mounts]⟩
  | refused e hclears =>
    refine Or.inr ⟨_, .error e, hclears.prepares_mount device, ?_, Or.inr ⟨e, rfl, rfl⟩⟩
    simp
  | mounted hclears =>
    refine Or.inr ⟨_, .ok (), hclears.prepares_mount device, ?_, Or.inl ⟨rfl, rfl⟩⟩
    simp

/-- What an attempt to mount a device did. -/
structure TriesToMount (device mountPoint : Path) (filesystem options : String)
    (r : MountRecord α) : Prop where
  /-- At most one request mounts. -/
  once : r.exchanges.countP (·.request.mounts) ≤ 1
  /-- It is as it was called for, the last request of all, and made after all preparations went
  well. -/
  last : ∀ before x after, r.exchanges = before ++ x :: after → x.request.mounts = true →
    x.request = .mount device mountPoint filesystem options ∧ Prepares device mountPoint before ∧
      after = []
  /-- The attempt is a success exactly if the platform has mounted the device. -/
  outcome : r.answer = .mounted mountPoint ∧
      ⟨.mount device mountPoint filesystem options, .ok ()⟩ ∈ r.exchanges ∨
    (∃ e, r.answer = .failed e) ∧
      ⟨.mount device mountPoint filesystem options, .ok ()⟩ ∉ r.exchanges

namespace TriesToMount

variable {device mountPoint : Path} {filesystem options : String} {r : MountRecord α}

/-- An attempt that gives up before it mounts is one that fails. -/
theorem of_none (hnone : ∀ x ∈ r.exchanges, x.request.mounts = false)
    (hfailed : ∃ e, r.answer = .failed e) :
    TriesToMount device mountPoint filesystem options r where
  once := by
    have hzero : r.exchanges.countP (·.request.mounts) = 0 :=
      List.countP_eq_zero.mpr fun x hx => by simp [hnone x hx]
    omega
  last before x after hsplit hx := by
    rw [hnone x (by simp [hsplit])] at hx
    cases hx
  outcome := Or.inr ⟨hfailed, fun hmem => Bool.noConfusion (hnone _ hmem)⟩

/-- An attempt that mounts last of all, after all preparations, has the outcome of the mount. -/
theorem of_last {before : List (Exchange α)} (hbefore : Prepares device mountPoint before)
    {reply : Except SystemError Unit}
    (hxs : r.exchanges = before ++ [⟨.mount device mountPoint filesystem options, reply⟩])
    (houtcome : reply = .ok () ∧ r.answer = .mounted mountPoint ∨
      (∃ cause, reply = .error cause) ∧ ∃ e, r.answer = .failed e) :
    TriesToMount device mountPoint filesystem options r where
  once := by
    have hzero : before.countP (·.request.mounts) = 0 :=
      List.countP_eq_zero.mpr fun x hx => by simp [hbefore.mounts_eq_false x hx]
    rw [hxs, List.countP_append, hzero]
    exact Nat.le_refl 1
  last before' x after hsplit hx := by
    rw [hxs] at hsplit
    rcases List.eq_nil_or_concat after with rfl | ⟨after', z, rfl⟩
    · obtain ⟨rfl, hlast⟩ := List.append_inj' hsplit rfl
      obtain rfl := List.singleton_inj.mp hlast
      exact ⟨rfl, hbefore, rfl⟩
    · -- A mount before the last request would be one of the preparations.
      rw [List.concat_eq_append, ← List.cons_append, ← List.append_assoc] at hsplit
      obtain ⟨rfl, -⟩ := List.append_inj' hsplit rfl
      rw [hbefore.mounts_eq_false x (by simp)] at hx
      cases hx
  outcome := by
    rw [hxs]
    rcases houtcome with ⟨rfl, hmounted⟩ | ⟨⟨cause, rfl⟩, hfailed⟩
    · exact Or.inl ⟨hmounted, by simp⟩
    · refine Or.inr ⟨hfailed, fun hmem => ?_⟩
      rcases List.mem_append.mp hmem with hmem | hmem
      · cases hbefore.mounts_eq_false _ hmem
      · cases List.mem_singleton.mp hmem

end TriesToMount

/-- An unmount removes what was found mounted at its path right before. -/
def RemovesFound (past : List (Exchange α)) (x : Exchange α) : Prop :=
  ∀ path, x.request = .unmount path →
    ∃ earlier, past = earlier ++ [⟨.isMountPoint path, .ok true⟩]

/-- Making a path free removes only what was found there. -/
theorem Runner.Clears.removes_found {mountPoint : Path} {xs : List (Exchange α)}
    {outcome : Except MountError Unit} (h : Clears mountPoint xs outcome)
    (past : List (Exchange α)) : Keeps RemovesFound past xs := by
  have hremoves : ∀ reply : Except SystemError Unit,
      RemovesFound (past ++ [⟨.isMountPoint mountPoint, .ok true⟩])
        ⟨.unmount mountPoint, reply⟩ := by
    intro reply path hpath
    obtain rfl := Request.unmount.inj hpath
    exact ⟨past, rfl⟩
  cases h with
  | free => exact ⟨nofun, trivial⟩
  | cleared => exact ⟨nofun, hremoves _, trivial⟩
  | unknown => exact ⟨nofun, trivial⟩
  | stuck e => exact ⟨nofun, hremoves _, trivial⟩

/-- An attempt to mount unmounts only what was found in its way. -/
theorem Runner.Acquires.removes_found {device mountPoint : Path} {filesystem options : String}
    {xs : List (Exchange α)} {outcome : Except MountError ScopedMount}
    (h : Acquires device mountPoint filesystem options xs outcome) : Keeps RemovesFound [] xs := by
  cases h with
  | noDevice => exact ⟨nofun, trivial⟩
  | noDirectory => exact ⟨nofun, nofun, trivial⟩
  | blocked hclears => exact ⟨nofun, nofun, hclears.removes_found _⟩
  | writable e hclears =>
    rw [keeps_append]
    exact ⟨⟨nofun, nofun, hclears.removes_found _⟩, nofun, trivial⟩
  | refused e hclears =>
    rw [keeps_append]
    exact ⟨⟨nofun, nofun, hclears.removes_found _⟩, nofun, nofun, trivial⟩
  | mounted hclears =>
    rw [keeps_append]
    exact ⟨⟨nofun, nofun, hclears.removes_found _⟩, nofun, nofun, trivial⟩

namespace MountHandles

/-- Every record is what its call does from some guards that still have their mounts to undo. -/
theorem follows_of_mem_records (p : Platform α σ) {h : MountHandles} (hall : h.AllMounted)
    (cs : List MountCall) (s : σ) {r : MountRecord α} (hr : r ∈ h.records p cs s) :
    ∃ h₁ h₂ : MountHandles, Follows h₁ r.call r.exchanges h₂ r.answer := by
  induction cs generalizing h s with
  | nil => cases hr
  | cons c cs ih =>
    obtain ⟨r', h', s', hrecords, rfl, hf⟩ := exists_records_cons p hall c cs s
    rw [hrecords] at hr
    rcases List.mem_cons.mp hr with rfl | hr
    · exact ⟨h, h', hf⟩
    · exact ih (hf.allMounted hall) s' hr

namespace Follows

variable {h h' : MountHandles} {r : MountRecord α}

/-- A call that tries to mount does so as it should. -/
theorem triesToMount (hf : Follows h r.call r.exchanges h' r.answer) {device mountPoint : Path}
    {filesystem options : String} (hcall : r.call = .acquire device mountPoint filesystem options) :
    TriesToMount device mountPoint filesystem options r := by
  obtain ⟨call, answer, xs⟩ := r
  obtain rfl : call = _ := hcall
  cases hf with
  | mounted hacquires =>
    rcases hacquires.mounts_last with ⟨⟨e, he⟩, -⟩ | ⟨before, reply, hbefore, hxs, hreply⟩
    · cases he
    · rcases hreply with ⟨rfl, -⟩ | ⟨e, -, he⟩
      · exact .of_last hbefore hxs (Or.inl ⟨rfl, rfl⟩)
      · cases he
  | refused hacquires =>
    rcases hacquires.mounts_last with ⟨-, hnone⟩ | ⟨before, reply, hbefore, hxs, hreply⟩
    · exact .of_none hnone ⟨_, rfl⟩
    · rcases hreply with ⟨-, hok⟩ | ⟨cause, rfl, -⟩
      · cases hok
      · exact .of_last hbefore hxs (Or.inr ⟨⟨cause, rfl⟩, ⟨_, rfl⟩⟩)
  | gone hplace => cases hplace

/-- No other call mounts. -/
theorem mounts_eq_false (hf : Follows h r.call r.exchanges h' r.answer)
    (htries : r.call.tries = false) : ∀ x ∈ r.exchanges, x.request.mounts = false := by
  obtain ⟨call, answer, xs⟩ := r
  cases hf with
  | mounted => cases htries
  | refused => cases htries
  | gone => exact List.forall_mem_nil _
  | unmounts => simp [Request.mounts]
  | drops => simp [Request.mounts]
  | clears hclears => exact hclears.mounts_eq_false

/-- A call that gives no guard up unmounts only what was found right before. -/
theorem removes_found (hf : Follows h r.call r.exchanges h' r.answer)
    (hplace : r.call.place? = none) : Keeps RemovesFound [] r.exchanges := by
  obtain ⟨call, answer, xs⟩ := r
  cases hf with
  | mounted hacquires => exact hacquires.removes_found
  | refused hacquires => exact hacquires.removes_found
  | gone => exact trivial
  | unmounts => cases hplace
  | drops => cases hplace
  | clears hclears => exact hclears.removes_found []

end Follows

/-- Mounts are made with care and undone once each, on a platform that starts in a state. -/
structure UndoesOnce (p : Platform α σ) (cs : List MountCall) (s : σ) : Prop where
  /-- What the calls exchange is what their records say, one after the other. -/
  exchanges : ((empty.calls cs).run p s).exchanges = (empty.records p cs s).flatMap (·.exchanges)
  /-- A device is mounted at most once in an attempt, last of all, and only if all that comes before
  goes well. -/
  tries : ∀ r ∈ empty.records p cs s, ∀ device mountPoint filesystem options,
    r.call = .acquire device mountPoint filesystem options →
      TriesToMount device mountPoint filesystem options r
  /-- Nothing is mounted by other calls. -/
  others : ∀ r ∈ empty.records p cs s, r.call.tries = false →
    ∀ x ∈ r.exchanges, x.request.mounts = false
  /-- An unmount that is not that of a guard removes what was found at its path right before. -/
  stale : ∀ r ∈ empty.records p cs s, r.call.place? = none →
    ∀ before path after (reply : Except SystemError Unit),
      r.exchanges = before ++ ⟨.unmount path, reply⟩ :: after →
        ∃ earlier, before = earlier ++ [⟨.isMountPoint path, .ok true⟩]
  /-- The place of an attempt is silent before it. After a success its guard waits, or its mount was
  undone by the first call that gave the guard up, with one request. After a failure the place stays
  silent. -/
  fate : ∀ before r after device mountPoint filesystem options,
    empty.records p cs s = before ++ r :: after →
    r.call = .acquire device mountPoint filesystem options →
    ∀ n, n = attempts (before.map (·.call)) →
      Silent n before ∧
        (r.answer = .mounted mountPoint ∧ (Waiting n after ∨ UndoneIn n mountPoint after) ∨
          (∃ e, r.answer = .failed e) ∧ Silent n after)
  /-- If all guards are given up in the end, every mount was undone. -/
  undone : ∀ before r after device mountPoint filesystem options,
    empty.records p (cs ++ drops (attempts cs)) s = before ++ r :: after →
    r.call = .acquire device mountPoint filesystem options → r.answer = .mounted mountPoint →
      UndoneIn (attempts (before.map (·.call))) mountPoint after

/-- Without attempts there is no guard at all. -/
theorem allMounted_empty : AllMounted empty := fun _ => nofun

/-- A guard does not wait for ever if all guards are given up in the end. -/
theorem not_waiting_of_drops {p : Platform α σ} {cs : List MountCall} {s : σ}
    {before after : List (MountRecord α)} {r : MountRecord α}
    (hsplit : empty.records p (cs ++ drops (attempts cs)) s = before ++ r :: after)
    (htries : r.call.tries = true) : ¬Waiting (attempts (before.map (·.call))) after := by
  have hcalls := congrArg (List.map (·.call)) hsplit
  rw [map_call_records, List.map_append, List.map_cons] at hcalls
  obtain ⟨between, hcs, hafter⟩ := split_append_of_not_mem hcalls
    (MountCall.not_mem_drops_of_tries htries _)
  have hlt : attempts (before.map (·.call)) < attempts cs := by
    rw [hcs]
    unfold attempts
    rw [List.countP_append, List.countP_cons, if_pos htries]
    omega
  have hmem : MountCall.drop (attempts (before.map (·.call))) ∈ after.map (·.call) := by
    rw [hafter]
    exact List.mem_append_right _ (List.mem_map_of_mem (List.mem_range.mpr hlt))
  obtain ⟨u, hu, hcall⟩ := List.mem_map.mp hmem
  intro hwaiting
  refine hwaiting u hu ?_
  rw [hcall]
  rfl

/-- Whatever the platform answers, and whatever is called on however many mounts: a device is
mounted only after all preparations went well, and each mount is undone once, also if the platform
fails to unmount. -/
theorem undoes_each_mount_once (p : Platform α σ) (cs : List MountCall) (s : σ) :
    UndoesOnce p cs s where
  exchanges := exchanges_calls p empty cs s
  tries r hr device mountPoint filesystem options hcall := by
    obtain ⟨h₁, h₂, hf⟩ := follows_of_mem_records p allMounted_empty cs s hr
    exact hf.triesToMount hcall
  others r hr htries := by
    obtain ⟨h₁, h₂, hf⟩ := follows_of_mem_records p allMounted_empty cs s hr
    exact hf.mounts_eq_false htries
  stale r hr hplace before path after reply hsplit := by
    obtain ⟨h₁, h₂, hf⟩ := follows_of_mem_records p allMounted_empty cs s hr
    exact (hf.removes_found hplace).of_split hsplit path rfl
  fate before r after device mountPoint filesystem options hsplit hcall n hn :=
    records_of_attempt p allMounted_empty cs s hsplit hcall (hn.trans (Nat.zero_add _).symm)
  undone before r after device mountPoint filesystem options hsplit hcall hanswer := by
    obtain ⟨-, hrest⟩ := records_of_attempt p allMounted_empty _ s hsplit hcall
      (Nat.zero_add _).symm
    have hended : ¬Waiting _ after := not_waiting_of_drops hsplit (by rw [hcall]; rfl)
    rcases hrest with ⟨-, hwaiting | hundone⟩ | ⟨⟨e, hfailed⟩, -⟩
    · exact absurd hwaiting hended
    · exact hundone
    · rw [hanswer] at hfailed
      cases hfailed

end MountHandles

end SlotUpdate
