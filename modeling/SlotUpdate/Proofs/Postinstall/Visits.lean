import SlotUpdate.Proofs.List.Places
import SlotUpdate.Proofs.Postinstall.Programs
import SlotUpdate.Proofs.Postinstall.Tale

/-!
# Where a record stands

The place of a partition is told by the record alone: the options for mounting are looked up once
for each partition that an attempt mounts, in the order of the plan. `visited` are the places that
were come to, `lastVisited?` is the last of them, and `standing` is the partition that the next
report would be of: that of the running program, or else the one after the last visited.

Along a tale these are the places of its posts (`Tale.visits`), and the program that is alive is the
one that is listened to (`Tale.alive`).
-/

namespace SlotUpdate.Runner

variable {α : Type}

/-- Whether an event begins to mount a partition. -/
def isMounting : Event α → Bool
  | .asked ⟨.mountOptions _, _⟩ => true
  | _ => false

/-- The places of the partitions that a record tells an attempt to have come to. -/
def visited (config : PostinstallConfig) (plan : InstallPlan) (es : List (Event α)) : List Nat :=
  (mountedPlaces config plan 0 plan.partitions).take (es.countP isMounting)

/-- The place of the last partition that an attempt has come to. -/
def lastVisited? (config : PostinstallConfig) (plan : InstallPlan) (es : List (Event α)) :
    Option Nat := (visited config plan es).getLast?

/-- The place of the partition that a report after a record is of: that of the running program, or
else the one after the last visited. -/
def standing (config : PostinstallConfig) (plan : InstallPlan) (es : List (Event α)) : Nat :=
  match lastVisited? config plan es with
  | none => 0
  | some i => if (Ledger.ofRecord es).alive = [] then i + 1 else i

variable {config : PostinstallConfig} {plan : InstallPlan}

/-! ## Places -/

/-- A place that is not mounted is passed over. -/
theorem mountedPlaces_drop_of_not {i : Nat} {p : Partition} (h : plan.partitions[i]? = some p)
    (hmounted : isMounted config plan p = false) :
    mountedPlaces config plan i (plan.partitions.drop i) =
      mountedPlaces config plan (i + 1) (plan.partitions.drop (i + 1)) := by
  obtain ⟨hlt, hp⟩ := List.getElem?_eq_some_iff.mp h
  rw [List.drop_eq_getElem_cons hlt, hp, mountedPlaces, if_neg (by simp [hmounted])]

/-- A place that is mounted is the next one. -/
theorem mountedPlaces_drop {i : Nat} {p : Partition} (h : plan.partitions[i]? = some p)
    (hmounted : isMounted config plan p = true) :
    mountedPlaces config plan i (plan.partitions.drop i) =
      i :: mountedPlaces config plan (i + 1) (plan.partitions.drop (i + 1)) := by
  obtain ⟨hlt, hp⟩ := List.getElem?_eq_some_iff.mp h
  rw [List.drop_eq_getElem_cons hlt, hp, mountedPlaces, if_pos hmounted]

/-- Places from a place on are not before it, and stand in order. -/
theorem mountedPlaces_sorted (config : PostinstallConfig) (plan : InstallPlan) (i : Nat)
    (ps : List Partition) :
    (mountedPlaces config plan i ps).Pairwise (· < ·) ∧
      ∀ j ∈ mountedPlaces config plan i ps, i ≤ j := by
  induction ps generalizing i with
  | nil => exact ⟨.nil, fun _ hj => nomatch hj⟩
  | cons p ps ih =>
    obtain ⟨hsorted, hle⟩ := ih (i + 1)
    have hlt : ∀ j ∈ mountedPlaces config plan (i + 1) ps, i < j := fun j hj => hle j hj
    unfold mountedPlaces
    split
    · refine ⟨List.pairwise_cons.mpr ⟨hlt, hsorted⟩, fun j hj => ?_⟩
      rcases List.mem_cons.mp hj with rfl | hj
      · exact Nat.le_refl j
      · exact Nat.le_of_lt (hlt j hj)
    · exact ⟨hsorted, fun j hj => Nat.le_of_lt (hlt j hj)⟩

/-- What the places that were visited say about a post, given how many they are. -/
def VisitsAt (config : PostinstallConfig) (plan : InstallPlan) (n : Nat) : Post → Prop
  | .opening => n = 0
  | .toward i => ∃ vs, vs.length = n ∧ mountedPlaces config plan 0 plan.partitions =
      vs ++ mountedPlaces config plan i (plan.partitions.drop i)
  | .inside i | .hearing i _ _ => ∃ vs, vs.length + 1 = n ∧
      mountedPlaces config plan 0 plan.partitions =
        vs ++ i :: mountedPlaces config plan (i + 1) (plan.partitions.drop (i + 1))
  | .finished => True

/-! ## Along a tale -/

/-- An exchange that is no news begins no partition. -/
theorem countP_isMounting_of_aside {xs : List (Exchange α)} (h : Aside xs) :
    (xs.map Event.asked).countP isMounting = 0 := by
  rw [List.countP_eq_zero]
  refine h.forall_asked (P := fun e => ¬isMounting e = true) ?_
  rintro ⟨request, reply⟩ hnews hmounting
  cases request with
  | mountOptions => cases hnews
  | _ => cases hmounting

/-- An event that ends a program begins no partition. -/
theorem isMounting_of_ends {e : Event α} {pid : Pid} (h : e.ends pid = true) :
    isMounting e = false := by
  cases e with
  | called c => rfl
  | asked x =>
    obtain ⟨request, reply⟩ := x
    cases request with
    | mountOptions => cases h
    | _ => rfl

variable [ProgressNumber α] {es : List (Event α)} {post : Post}

/-- Reports begin no partition. -/
theorem countP_isMounting_reports (plan : InstallPlan) (i : Nat) (numbers : List α) :
    ((numbers.map (told plan i)).map Event.asked).countP isMounting = 0 := by
  rw [List.countP_eq_zero]
  exact forall_reports (fun _ hmounting => by cases hmounting) numbers

/-- Along a tale the places that were visited are those of its posts. -/
theorem Tale.visits (h : Tale config plan es post) :
    VisitsAt config plan (es.countP isMounting) post := by
  induction h with
  | @opens before c hsilent _ =>
    have hnone : before.countP isMounting = 0 := by
      rw [List.countP_eq_zero]
      intro e he hmounting
      cases e with
      | called c => cases hmounting
      | asked x => exact Event.not_mem_of_silent hsilent x he
    rw [List.countP_append, hnone]
    rfl
  | noted _ c _ ih =>
    rw [List.countP_append]
    exact ih
  | aside _ hxs ih =>
    rw [List.countP_append, countP_isMounting_of_aside hxs]
    exact ih
  | @sets es _ ih =>
    have hnone : es.countP isMounting = 0 := ih
    rw [List.countP_append, hnone]
    exact ⟨[], rfl, rfl⟩
  | @skips es i p _ hcurrent hidle hprogram ih =>
    obtain ⟨vs, hlength, hplaces⟩ := ih
    have hmounted : isMounted config plan p = false := by
      unfold isMounted
      rw [hidle, hprogram]
      rfl
    rw [mountedPlaces_drop_of_not hcurrent hmounted] at hplaces
    exact ⟨vs, hlength, hplaces⟩
  | comes _ hcurrent hmounted options ih =>
    obtain ⟨vs, hlength, hplaces⟩ := ih
    rw [mountedPlaces_drop hcurrent hmounted] at hplaces
    rw [List.countP_append]
    exact ⟨vs, by rw [hlength]; rfl, hplaces⟩
  | @probed es i p _ _ _ ih =>
    obtain ⟨vs, hlength, hplaces⟩ := ih
    exact ⟨vs ++ [i], by simp [hlength], by simp [hplaces]⟩
  | starts _ _ _ _ _ ih =>
    rw [List.countP_append]
    exact ih
  | hears _ once reads _ ih =>
    rw [List.map_cons, List.countP_append, List.countP_cons, countP_isMounting_reports]
    exact ih
  | ends _ hends ih =>
    rw [List.countP_append, List.countP_singleton, isMounting_of_ends hends]
    exact ih
  | @leaves es i _ ih =>
    obtain ⟨vs, hlength, hplaces⟩ := ih
    rw [List.countP_append]
    exact ⟨vs ++ [i], by rw [List.length_append]; exact hlength, by simp [hplaces]⟩
  | finishes => trivial
  | fails => trivial

omit [ProgressNumber α] in
/-- Inside of a partition this is the one that was visited last. -/
theorem lastVisited?_eq {i : Nat} (h : VisitsAt config plan (es.countP isMounting) (.inside i)) :
    lastVisited? config plan es = some i := by
  obtain ⟨vs, hlength, hplaces⟩ := h
  have hsplit : vs ++ i :: mountedPlaces config plan (i + 1) (plan.partitions.drop (i + 1)) =
      (vs ++ [i]) ++ mountedPlaces config plan (i + 1) (plan.partitions.drop (i + 1)) := by simp
  have hcount : es.countP isMounting = (vs ++ [i]).length := by
    rw [← hlength, List.length_append]
    rfl
  unfold lastVisited? visited
  rw [hplaces, hsplit, hcount, List.take_left]
  exact List.getLast?_concat

omit [ProgressNumber α] in
/-- Before anything was reported an attempt stands at the first partition. -/
theorem standing_opening (h : VisitsAt config plan (es.countP isMounting) .opening) :
    standing config plan es = 0 := by
  have hcount : es.countP isMounting = 0 := h
  unfold standing lastVisited? visited
  rw [hcount]
  rfl

omit [ProgressNumber α] in
/-- While its program runs an attempt stands at the partition that was visited last. -/
theorem standing_hearing {i : Nat} (h : VisitsAt config plan (es.countP isMounting) (.inside i))
    (halive : (Ledger.ofRecord es).alive ≠ []) : standing config plan es = i := by
  unfold standing
  rw [lastVisited?_eq h]
  exact if_neg halive

omit [ProgressNumber α] in
/-- When no program runs any more an attempt stands behind the partition that was visited last. -/
theorem standing_inside {i : Nat} (h : VisitsAt config plan (es.countP isMounting) (.inside i))
    (halive : (Ledger.ofRecord es).alive = []) : standing config plan es = i + 1 := by
  unfold standing
  rw [lastVisited?_eq h]
  exact if_pos halive

omit [ProgressNumber α] in
/-- From one time at which no program runs to a later one an attempt does not go back. -/
theorem standing_mono {past past' : List (Event α)} (h : past <+: past')
    (halive : (Ledger.ofRecord past).alive = []) (halive' : (Ledger.ofRecord past').alive = []) :
    standing config plan past ≤ standing config plan past' := by
  have hprefix : visited config plan past <+: visited config plan past' := by
    obtain ⟨rest, rfl⟩ := h
    unfold visited
    rw [List.countP_append]
    exact List.take_prefix_take_left (Nat.le_add_right _ _)
  have hsorted : (visited config plan past').Pairwise (· < ·) :=
    (mountedPlaces_sorted config plan 0 plan.partitions).1.sublist (List.take_sublist _ _)
  cases hlast : lastVisited? config plan past with
  | none =>
    have hzero : standing config plan past = 0 := by
      unfold standing
      rw [hlast]
    rw [hzero]
    exact Nat.zero_le _
  | some i =>
    obtain ⟨j, hlast', hle⟩ := le_getLast?_of_prefix hsorted hprefix hlast
    have hi : standing config plan past = i + 1 := by
      unfold standing
      rw [hlast]
      exact if_pos halive
    have hj : standing config plan past' = j + 1 := by
      unfold standing lastVisited?
      rw [hlast']
      exact if_pos halive'
    omega

/-! ## The program that is alive -/

omit [ProgressNumber α] in
/-- An exchange that is no news leaves it as it is which programs are alive. -/
theorem alive_exchange_of_aside (l : Ledger) {x : Exchange α} (h : x.isNews = false) :
    (l.exchange x).alive = l.alive := by
  obtain ⟨request, reply⟩ := x
  cases request with
  | spawn argv statusFd =>
    cases reply with
    | error e => rfl
    | ok pid =>
      have hinvalid : ¬0 < pid := of_decide_eq_false h
      show (l.launch pid).alive = l.alive
      unfold Ledger.launch
      rw [if_neg hinvalid]
  | tryWait pid =>
    match reply with
    | .error e => rfl
    | .ok none => rfl
    | .ok (some code) => cases h
  | signal pid signal =>
    match signal, reply with
    | .terminate, _ => cases h
    | .stop, .error e => rfl
    | .stop, .ok () => rfl
    | .resume, .error e => rfl
    | .resume, .ok () => rfl
  | _ => rfl

omit [ProgressNumber α] in
/-- Exchanges that are no news leave it as it is which programs are alive. -/
theorem alive_events_of_aside (l : Ledger) {xs : List (Exchange α)} (h : Aside xs) :
    (l.events (xs.map Event.asked)).alive = l.alive := by
  induction xs generalizing l with
  | nil => rfl
  | cons x xs ih =>
    obtain ⟨hx, hxs⟩ := (Aside.cons_iff x xs).mp h
    rw [List.map_cons, Ledger.events_cons, ih _ hxs]
    exact alive_exchange_of_aside l hx

omit [ProgressNumber α] in
/-- The one program that is alive is not any more after an event that ends it. -/
theorem alive_event_of_ends {l : Ledger} {e : Event α} {pid : Pid} (hl : l.alive = [pid])
    (h : e.ends pid = true) : (l.event e).alive = [] := by
  have hexit : (l.exit pid).alive = [] := by simp [Ledger.exit, hl]
  have hterminate : (l.terminate pid).alive = [] := by simp [Ledger.terminate, hl]
  cases e with
  | called c =>
    cases c with
    | exited other code =>
      obtain rfl : other = pid := eq_of_beq h
      exact hexit
    | _ => cases h
  | asked x =>
    obtain ⟨request, reply⟩ := x
    cases request with
    | tryWait other =>
      rcases reply with e | _ | code
      · cases h
      · cases h
      · obtain rfl : other = pid := eq_of_beq h
        exact hexit
    | signal other signal =>
      cases signal with
      | terminate =>
        obtain rfl : other = pid := eq_of_beq h
        exact hterminate
      | stop => cases h
      | resume => cases h
    | _ => cases h

/-- Reports leave the ledger as it is. -/
theorem events_reports (l : Ledger) (plan : InstallPlan) (i : Nat) (numbers : List α) :
    l.events ((numbers.map (told plan i)).map Event.asked) = l := by
  apply Ledger.events_eq_self
  exact forall_reports (fun _ _ => rfl) numbers

/-- Along a tale the program that is alive is the one that is listened to. -/
theorem Tale.alive (h : Tale config plan es post) :
    (Ledger.ofRecord es).alive = post.child?.toList := by
  induction h with
  | @opens before c hsilent hstarts =>
    rw [Ledger.ofRecord_append, Ledger.ofRecord_of_silent hsilent]
    cases c with
    | exited => cases hstarts
    | _ => rfl
  | @noted es post _ c hexits ih =>
    rw [Ledger.ofRecord_append]
    cases c with
    | exited pid code =>
      -- The program that is said to have exited is not the one that is listened to.
      have hstale : pid ∉ (Ledger.ofRecord es).alive := by
        rw [ih, Option.mem_toList]
        exact hexits pid code rfl
      have hsame : (Ledger.ofRecord es).exit pid = Ledger.ofRecord es := if_neg hstale
      show ((Ledger.ofRecord es).exit pid).alive = _
      rw [hsame, ih]
    | _ => exact ih
  | aside _ hxs ih => rw [Ledger.ofRecord_append, alive_events_of_aside _ hxs, ih]
  | sets _ ih => rw [Ledger.ofRecord_append]; exact ih
  | skips _ _ _ _ ih => exact ih
  | comes _ _ _ _ ih => rw [Ledger.ofRecord_append]; exact ih
  | probed _ _ _ ih => exact ih
  | @starts es i p program pid _ _ _ _ hpositive ih =>
    have hnone : (Ledger.ofRecord es).alive = [] := ih
    rw [Ledger.ofRecord_append]
    show ((Ledger.ofRecord es).launch pid).alive = [pid]
    unfold Ledger.launch
    rw [if_pos hpositive, hnone]
    rfl
  | hears _ once reads _ ih =>
    rw [Ledger.ofRecord_append, List.map_cons, Ledger.events_cons, events_reports]
    exact ih
  | ends _ hends ih =>
    rw [Ledger.ofRecord_append]
    exact alive_event_of_ends ih hends
  | leaves _ ih => rw [Ledger.ofRecord_append]; exact ih
  | finishes _ _ _ ih => rw [Ledger.ofRecord_append]; exact ih
  | fails _ halone _ ih =>
    rw [Ledger.ofRecord_append]
    rw [halone] at ih
    exact ih

end SlotUpdate.Runner
