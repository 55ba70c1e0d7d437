import Mathlib.Data.List.Nodup
import WebhookRelay.Sync.Turns

/-!
# One at a time

At any time at most one call for an id holds the lock, whatever steps calls have taken, and when all
calls are over no lock is left (`Turns.exclusive`).

Both rest on what the table says. A call that refers to a lock finds it in the table under its id, so
calls for one id refer to one lock; and the lock can stay there, because it is taken out only when
nothing but the table refers to it (`Turns.references_eq_one_iff`). `Turns.Invariant` has the facts
about a table and the calls that each step preserves.
-/

namespace WebhookRelay

variable {id : String} {call lock : Nat} {stage : Stage} {v : Visit}

/-- Of the elements of a list without repetitions at most one satisfies a predicate, if two that do
are the same. -/
theorem countP_le_one {α : Type} {l : List α} {p : α → Bool} (hl : l.Nodup)
    (h : ∀ a ∈ l, ∀ b ∈ l, p a = true → p b = true → a = b) : l.countP p ≤ 1 := by
  induction l with
  | nil => exact Nat.zero_le _
  | cons a l ih =>
    obtain ⟨ha, hl⟩ := List.nodup_cons.mp hl
    rw [List.countP_cons]
    split
    · next hp =>
      have hzero : l.countP p = 0 := by
        rw [List.countP_eq_zero]
        intro b hb hpb
        obtain rfl := h a List.mem_cons_self b (List.mem_cons_of_mem _ hb) hp hpb
        exact ha hb
      omega
    · exact ih hl fun b hb c hc => h b (List.mem_cons_of_mem _ hb) c (List.mem_cons_of_mem _ hc)

namespace Visit

@[simp] theorem call_moved : (v.moved call stage).call = v.call := by
  rw [moved]
  split <;> rfl

@[simp] theorem id_moved : (v.moved call stage).id = v.id := by
  rw [moved]
  split <;> rfl

@[simp] theorem lock_moved : (v.moved call stage).lock = v.lock := by
  rw [moved]
  split <;> rfl

theorem stage_moved :
    (v.moved call stage).stage = if v.call = call then stage else v.stage := by
  rw [moved]
  split <;> rfl

end Visit

namespace Turns

variable {t t₁ t' : Turns} {s : Step}

theorem mem_of_visit?_eq_some (h : t.visit? call = some v) : v ∈ t.visits ∧ v.call = call :=
  ⟨List.mem_of_find?_eq_some h, by simpa using List.find?_some h⟩

theorem call_ne_of_visit?_eq_none (h : t.visit? call = none) : ∀ v ∈ t.visits, v.call ≠ call := by
  intro v hv
  simpa using List.find?_eq_none.mp h v hv

theorem isHeld_iff : t.isHeld lock = true ↔ ∃ v ∈ t.visits, v.lock = lock ∧ v.stage = .holds := by
  simp [isHeld, Visit.holdsLock]

/-! ## When a lock is taken out -/

/-- No lock is that of two ids. -/
def Apart (t : Turns) : Prop :=
  ∀ id id' lock, t.locks.get? id = some lock → t.locks.get? id' = some lock → id = id'

/-- Only the table refers to a lock just when each call that knows it has let go of it. -/
theorem references_eq_one_iff (ht : t.Apart) (hl : t.locks.get? id = some lock) :
    t.references lock = 1 ↔ ∀ v ∈ t.visits, v.lock = lock → v.stage = .gone := by
  have hpos : 0 < t.locks.entries.countP (·.2 = lock) :=
    List.countP_pos_iff.mpr ⟨_, Table.get?_eq_some_iff.mp hl, by simp⟩
  have hone : t.locks.entries.countP (·.2 = lock) ≤ 1 := by
    refine countP_le_one t.locks.nodup.of_map ?_
    rintro ⟨id₁, lock₁⟩ h₁ ⟨id₂, lock₂⟩ h₂ e₁ e₂
    obtain rfl : lock₁ = lock := by simpa using e₁
    obtain rfl : lock₂ = lock₁ := by simpa using e₂
    rw [ht id₁ id₂ lock₂ (Table.get?_eq_some_iff.mpr h₁) (Table.get?_eq_some_iff.mpr h₂)]
  have hcalls : t.visits.countP (Visit.refersTo lock) = 0 ↔
      ∀ v ∈ t.visits, v.lock = lock → v.stage = .gone := by
    simp [List.countP_eq_zero, Visit.refersTo]
  rw [← hcalls, references]
  omega

/-- The lock of an id is taken out if no call refers to it, and stays if one does. -/
theorem tidy_cases (ht : t.Apart) (id : String) :
    (t.tidy id = { t with locks := t.locks.erase id } ∧
      ∃ lock, t.locks.get? id = some lock ∧ ∀ v ∈ t.visits, v.lock = lock → v.stage = .gone) ∨
    (t.tidy id = t ∧ ∀ lock, t.locks.get? id = some lock →
      ∃ v ∈ t.visits, v.lock = lock ∧ v.stage ≠ .gone) := by
  rcases hl : t.locks.get? id with _ | lock
  · refine .inr ⟨by rw [tidy, hl], ?_⟩
    rintro lock ⟨⟩
  · have hiff := references_eq_one_iff ht hl
    by_cases hone : t.references lock = 1
    · refine .inl ⟨?_, lock, rfl, hiff.mp hone⟩
      simp only [tidy, hl, if_pos hone]
    · refine .inr ⟨?_, ?_⟩
      · simp only [tidy, hl, if_neg hone]
      · rintro lock ⟨⟩
        rw [hiff] at hone
        push Not at hone
        exact hone

/-! ## What a step does -/

/-- A step that can be taken, and what it does. -/
inductive Taken (t : Turns) : Step → Turns → Prop where
  | enter {call : Nat} {id : String} (hnew : t.visit? call = none) :
      Taken t (.enter call id) (t.enter call id)
  | acquire {call : Nat} {v : Visit} (hv : t.visit? call = some v) (hwaits : v.stage = .waits)
      (hfree : t.isHeld v.lock ≠ true) : Taken t (.acquire call) (t.move call .holds)
  | letGo {call : Nat} {v : Visit} (hv : t.visit? call = some v) (hwaits : v.stage = .waits) :
      Taken t (.letGo call) (t.move call .gone)
  | cancel {call : Nat} {v : Visit} (hv : t.visit? call = some v) (hwaits : v.stage = .waits) :
      Taken t (.cancel call) (t.leave v)
  | finish {call : Nat} {v : Visit} (hv : t.visit? call = some v) (hover : v.stage ≠ .waits) :
      Taken t (.finish call) (t.leave v)

/-- A step of a call that is there begins at a visit at which it can be taken. -/
theorem exists_visit_of_map_eq_some {p : Visit → Bool} {f : Visit → Turns}
    (hs : ((t.visit? call).filter p).map f = some t') :
    ∃ v, t.visit? call = some v ∧ p v = true ∧ f v = t' := by
  obtain ⟨v, hv, rfl⟩ := Option.map_eq_some_iff.mp hs
  obtain ⟨hv, hp⟩ := Option.filter_eq_some_iff.mp hv
  exact ⟨v, hv, hp, rfl⟩

theorem taken_of_step_eq_some (hs : t.step s = some t') : t.Taken s t' := by
  cases s with
  | enter call id =>
    rw [step] at hs
    split at hs
    · cases hs
    · next hnew =>
      cases hs
      exact .enter (Option.not_isSome_iff_eq_none.mp hnew)
  | acquire call =>
    obtain ⟨v, hv, hp, rfl⟩ := exists_visit_of_map_eq_some hs
    obtain ⟨hwaits, hfree⟩ := of_decide_eq_true hp
    exact .acquire hv hwaits hfree
  | letGo call =>
    obtain ⟨v, hv, hp, rfl⟩ := exists_visit_of_map_eq_some hs
    exact .letGo hv (of_decide_eq_true hp)
  | cancel call =>
    obtain ⟨v, hv, hp, rfl⟩ := exists_visit_of_map_eq_some hs
    exact .cancel hv (of_decide_eq_true hp)
  | finish call =>
    obtain ⟨v, hv, hp, rfl⟩ := exists_visit_of_map_eq_some hs
    exact .finish hv (of_decide_eq_true hp)

/-! ## The invariant -/

/-- What holds of the locks and the calls at any time. -/
structure Invariant (t : Turns) : Prop where
  /-- no call has two visits -/
  calls : (t.visits.map (·.call)).Nodup
  /-- a call that refers to a lock finds it under its id -/
  shared : ∀ v ∈ t.visits, v.stage ≠ .gone → t.locks.get? v.id = some v.lock
  /-- a lock is there only for an id that a call is concerned with -/
  needed : ∀ id lock, t.locks.get? id = some lock → ∃ v ∈ t.visits, v.id = id
  apart : t.Apart
  /-- the next new lock is none of those that are there -/
  fresh : ∀ id lock, t.locks.get? id = some lock → lock < t.next
  /-- two calls for one id that hold the lock are the same -/
  alone : ∀ v ∈ t.visits, ∀ v' ∈ t.visits, v.stage = .holds → v'.stage = .holds →
    v.id = v'.id → v = v'

theorem Invariant.empty : Invariant {} where
  calls := List.nodup_nil
  shared := by simp
  needed := by simp
  apart := by simp [Apart]
  fresh := by simp
  alone := by simp

namespace Invariant

theorem eq_of_call_eq (ht : t.Invariant) {v' : Visit} (hv : v ∈ t.visits) (hv' : v' ∈ t.visits)
    (h : v.call = v'.call) : v = v' :=
  List.inj_on_of_nodup_map ht.calls hv hv' h

/-! ### One step -/

theorem enter (ht : t.Invariant) (hnew : t.visit? call = none) :
    (t.enter call id).Invariant := by
  have hcalls (lock : Nat) :
      ((⟨call, id, lock, .waits⟩ :: t.visits : List Visit).map (·.call)).Nodup := by
    refine List.nodup_cons.mpr ⟨?_, ht.calls⟩
    rintro hm
    obtain ⟨v, hv, hcall⟩ := List.mem_map.mp hm
    exact call_ne_of_visit?_eq_none hnew v hv hcall
  have halone (lock : Nat) : ∀ v ∈ (⟨call, id, lock, .waits⟩ :: t.visits : List Visit),
      ∀ v' ∈ (⟨call, id, lock, .waits⟩ :: t.visits : List Visit),
        v.stage = .holds → v'.stage = .holds → v.id = v'.id → v = v' := by
    rintro v (_ | ⟨_, hv⟩) v' (_ | ⟨_, hv'⟩) hs hs' hid
    · rfl
    · cases hs
    · cases hs'
    · exact ht.alone v hv v' hv' hs hs' hid
  rw [Turns.enter]
  rcases hl : t.locks.get? id with _ | lock
  · refine ⟨hcalls _, ?_, ?_, ?_, ?_, halone _⟩
    · rintro v (_ | ⟨_, hv⟩) hs
      · exact Table.get?_insert_self _ _ _
      · have hshared := ht.shared v hv hs
        have hne : id ≠ v.id := by
          rintro rfl
          rw [hl] at hshared
          cases hshared
        rw [Table.get?_insert, if_neg hne, hshared]
    · intro id' lock' h
      rw [Table.get?_insert] at h
      split at h
      · next he => exact ⟨_, List.mem_cons_self, he⟩
      · obtain ⟨v, hv, he⟩ := ht.needed id' lock' h
        exact ⟨v, List.mem_cons_of_mem _ hv, he⟩
    · intro id₁ id₂ lock' h₁ h₂
      rw [Table.get?_insert] at h₁ h₂
      split at h₁ <;> split at h₂
      · next e₁ e₂ => exact e₁.symm.trans e₂
      · cases h₁
        exact absurd (ht.fresh _ _ h₂) (Nat.lt_irrefl _)
      · cases h₂
        exact absurd (ht.fresh _ _ h₁) (Nat.lt_irrefl _)
      · exact ht.apart id₁ id₂ lock' h₁ h₂
    · intro id' lock' h
      rw [Table.get?_insert] at h
      split at h
      · cases h
        exact Nat.lt_succ_self _
      · exact Nat.lt_succ_of_lt (ht.fresh id' lock' h)
  · refine ⟨hcalls _, ?_, ?_, ht.apart, ht.fresh, halone _⟩
    · rintro v (_ | ⟨_, hv⟩) hs
      · exact hl
      · exact ht.shared v hv hs
    · intro id' lock' h
      obtain ⟨v, hv, he⟩ := ht.needed id' lock' h
      exact ⟨v, List.mem_cons_of_mem _ hv, he⟩

/-- A call may come to another stage, if it is not to get back a lock that it let go of, nor to hold
one that another call for the id holds. -/
theorem move (ht : t.Invariant) (hv : t.visit? call = some v)
    (hkept : stage ≠ .gone → v.stage ≠ .gone)
    (hfree : stage = .holds → ∀ v' ∈ t.visits, v'.stage = .holds → v'.id ≠ v.id) :
    (t.move call stage).Invariant := by
  obtain ⟨hm, hcall⟩ := mem_of_visit?_eq_some hv
  have hself : ∀ u ∈ t.visits, u.call = call → u = v := fun u hu h =>
    ht.eq_of_call_eq hu hm (h.trans hcall.symm)
  refine ⟨?_, ?_, ?_, ht.apart, ht.fresh, ?_⟩
  · have hsame : ((fun w : Visit => w.call) ∘ Visit.moved call stage) = fun w => w.call :=
      funext fun _ => Visit.call_moved
    rw [Turns.move, List.map_map, hsame]
    exact ht.calls
  · intro w hw hs
    obtain ⟨u, hu, rfl⟩ := List.mem_map.mp hw
    rw [Visit.stage_moved] at hs
    rw [Visit.id_moved, Visit.lock_moved]
    apply ht.shared u hu
    split at hs
    · next he =>
      obtain rfl := hself u hu he
      exact hkept hs
    · exact hs
  · intro id lock h
    obtain ⟨u, hu, he⟩ := ht.needed id lock h
    exact ⟨_, List.mem_map_of_mem hu, Visit.id_moved.trans he⟩
  · intro w hw w' hw' hs hs' hid
    obtain ⟨u, hu, rfl⟩ := List.mem_map.mp hw
    obtain ⟨u', hu', rfl⟩ := List.mem_map.mp hw'
    rw [Visit.stage_moved] at hs hs'
    rw [Visit.id_moved, Visit.id_moved] at hid
    split at hs <;> split at hs'
    · next he he' => rw [hself u hu he, hself u' hu' he']
    · next he _ =>
      rw [hself u hu he] at hid
      exact absurd hid.symm (hfree hs u' hu' hs')
    · next _ he' =>
      rw [hself u' hu' he'] at hid
      exact absurd hid (hfree hs' u hu hs)
    · rw [ht.alone u hu u' hu' hs hs' hid]

/-- A call may leave at any time. The lock stays if a call refers to it, and otherwise nobody is
concerned with the id who would need it. -/
theorem leave (ht : t.Invariant) (hv : v ∈ t.visits) : (t.leave v).Invariant := by
  have hsub : ∀ w, w ∈ t.visits.filter (·.call ≠ v.call) → w ∈ t.visits :=
    fun w hw => (List.mem_filter.mp hw).1
  have hcalls : ((t.visits.filter (·.call ≠ v.call)).map (·.call)).Nodup :=
    ht.calls.sublist (List.filter_sublist.map _)
  have halone : ∀ w ∈ t.visits.filter (·.call ≠ v.call),
      ∀ w' ∈ t.visits.filter (·.call ≠ v.call), w.stage = .holds → w'.stage = .holds →
        w.id = w'.id → w = w' :=
    fun w hw w' hw' => ht.alone w (hsub w hw) w' (hsub w' hw')
  -- a visit for another id is still there
  have hother : ∀ id lock, id ≠ v.id → t.locks.get? id = some lock →
      ∃ w ∈ t.visits.filter (·.call ≠ v.call), w.id = id := by
    intro id lock hne h
    obtain ⟨w, hw, rfl⟩ := ht.needed id lock h
    refine ⟨w, List.mem_filter.mpr ⟨hw, ?_⟩, rfl⟩
    simp only [ne_eq, decide_eq_true_eq]
    intro hcall
    exact hne (congrArg Visit.id (ht.eq_of_call_eq hw hv hcall))
  have hapart : Apart { t with visits := t.visits.filter (·.call ≠ v.call) } := ht.apart
  rw [Turns.leave]
  rcases tidy_cases hapart v.id with ⟨he, lock, hl, hgone⟩ | ⟨he, hkept⟩
  · rw [he]
    refine ⟨hcalls, ?_, ?_, ?_, ?_, halone⟩
    · intro w hw hs
      have hshared := ht.shared w (hsub w hw) hs
      have hne : v.id ≠ w.id := by
        intro hid
        rw [← hid] at hshared
        obtain rfl := Option.some.inj (hl.symm.trans hshared)
        exact hs (hgone w hw rfl)
      rw [Table.get?_erase, if_neg hne, hshared]
    · intro id lock' h
      rw [Table.get?_erase] at h
      split at h
      · cases h
      · next hne => exact hother id lock' (Ne.symm hne) h
    · intro id id' lock' h h'
      rw [Table.get?_erase] at h h'
      split at h <;> split at h'
      · cases h
      · cases h
      · cases h'
      · exact ht.apart id id' lock' h h'
    · intro id lock' h
      rw [Table.get?_erase] at h
      split at h
      · cases h
      · exact ht.fresh id lock' h
  · rw [he]
    refine ⟨hcalls, fun w hw => ht.shared w (hsub w hw), ?_, ht.apart, ht.fresh, halone⟩
    intro id lock h
    by_cases hne : id = v.id
    · subst hne
      obtain ⟨w, hw, rfl, hs⟩ := hkept lock h
      exact ⟨w, hw, ht.apart _ _ _ (ht.shared w (hsub w hw) hs) h⟩
    · exact hother id lock hne h

/-- Every step preserves the invariant. -/
theorem step (ht : t.Invariant) (hs : t.step s = some t') : t'.Invariant := by
  cases taken_of_step_eq_some hs with
  | enter hnew => exact ht.enter hnew
  | @acquire call v hv hwaits hfree =>
    refine ht.move hv (fun _ => hwaits ▸ Stage.noConfusion) ?_
    intro _ w hw hholds hid
    refine hfree (isHeld_iff.mpr ⟨w, hw, ?_, hholds⟩)
    have hlock := ht.shared v (mem_of_visit?_eq_some hv).1 (hwaits ▸ Stage.noConfusion)
    rw [← hid, ht.shared w hw (hholds ▸ Stage.noConfusion)] at hlock
    exact Option.some.inj hlock
  | letGo hv hwaits => exact ht.move hv (fun h => absurd rfl h) fun h => nomatch h
  | cancel hv | finish hv => exact ht.leave (mem_of_visit?_eq_some hv).1

/-- So does any number of steps. -/
theorem steps {ss : List Step} (ht : t.Invariant) (hs : t.steps ss = some t') : t'.Invariant := by
  induction ss generalizing t with
  | nil =>
    obtain rfl := Option.some.inj hs
    exact ht
  | cons s ss ih =>
    rw [Turns.steps, List.foldlM_cons] at hs
    obtain ⟨t₁, hstep, hrest⟩ := Option.bind_eq_some_iff.mp hs
    exact ih (ht.step hstep) hrest

/-- At most one call for an id holds the lock. -/
theorem countP_holds_le_one (ht : t.Invariant) (id : String) :
    t.visits.countP (fun v => v.id = id ∧ v.stage = .holds) ≤ 1 := by
  refine countP_le_one ht.calls.of_map fun v hv v' hv' h h' => ?_
  obtain ⟨hid, hs⟩ : v.id = id ∧ v.stage = .holds := by simpa using h
  obtain ⟨hid', hs'⟩ : v'.id = id ∧ v'.stage = .holds := by simpa using h'
  exact ht.alone v hv v' hv' hs hs' (hid.trans hid'.symm)

/-- When no call is left, neither is a lock. -/
theorem locks_eq_empty (ht : t.Invariant) (hover : t.visits = []) : t.locks = ∅ := by
  have hnone : t.locks.entries = [] := by
    rw [List.eq_nil_iff_forall_not_mem]
    rintro ⟨id, lock⟩ hm
    obtain ⟨v, hv, -⟩ := ht.needed id lock (Table.get?_eq_some_iff.mpr hm)
    rw [hover] at hv
    cases hv
  exact Table.ext hnone

end Invariant

/-! ## Any steps of any calls -/

/-- A call that has left is forgotten, whatever stage it had come to. -/
theorem filter_move (t : Turns) (call : Nat) (stage : Stage) :
    (t.move call stage).visits.filter (·.call ≠ call) = t.visits.filter (·.call ≠ call) := by
  rw [move, List.filter_map]
  have hsame : ((fun w : Visit => decide (w.call ≠ call)) ∘ Visit.moved call stage) =
      fun w => decide (w.call ≠ call) := by
    funext w
    simp
  rw [hsame]
  refine (List.map_congr_left fun w hw => ?_).trans (List.map_id _)
  have hne : w.call ≠ call := by simpa using (List.mem_filter.mp hw).2
  rw [Visit.moved, if_neg hne, id]

theorem visit?_move (hv : t.visit? call = some v) :
    (t.move call stage).visit? call = some (v.moved call stage) := by
  rw [visit?, move, List.find?_map]
  have hsame : ((fun w : Visit => decide (w.call = call)) ∘ Visit.moved call stage) =
      fun w => decide (w.call = call) := by
    funext w
    simp
  rw [hsame, ← visit?, hv]
  rfl

/-- To give up waiting is to let go of the lock and then to leave. -/
theorem step_cancel (hs : t.step (.letGo call) = some t₁) :
    t₁.step (.finish call) = t.step (.cancel call) := by
  cases taken_of_step_eq_some hs with
  | @letGo _ v hv hwaits =>
    have hcall := (mem_of_visit?_eq_some hv).2
    have hgone : (v.moved call .gone).stage ≠ .waits := by
      rw [Visit.stage_moved, if_pos hcall]
      exact Stage.noConfusion
    have hleave : (t.move call .gone).leave (v.moved call .gone) = t.leave v := by
      rw [leave, leave, Visit.call_moved, Visit.id_moved, hcall, filter_move]
      rfl
    simp [step, visit?_move hv, hv, Option.filter, hgone, hwaits, hleave]

/-- **One at a time.** Calls for any ids have taken steps in any order, beginning with none. Then at
most one call for an id holds the lock; a call that refers to a lock finds it in the table under its
id, so calls for one id refer to one lock; a lock is in the table only for an id that a call is
concerned with; and when all calls are over, no lock is left. -/
theorem exclusive {ss : List Step} (hs : steps {} ss = some t) :
    (∀ id, t.visits.countP (fun v => v.id = id ∧ v.stage = .holds) ≤ 1) ∧
      (∀ v ∈ t.visits, v.stage ≠ .gone → t.locks.get? v.id = some v.lock) ∧
      (∀ id, (t.locks.get? id).isSome = true → ∃ v ∈ t.visits, v.id = id) ∧
      (t.visits = [] → t.locks = ∅) := by
  have ht : t.Invariant := Invariant.empty.steps hs
  refine ⟨ht.countP_holds_le_one, ht.shared, fun id h => ?_, ht.locks_eq_empty⟩
  obtain ⟨lock, hl⟩ := Option.isSome_iff_exists.mp h
  exact ht.needed id lock hl

/-- Two calls for one id of which one gives up while the other holds the lock, so that the lock is
taken out before the first has left; and one that comes then and makes another lock. -/
def overlapping : List Step :=
  [.enter 1 "a", .enter 2 "a", .acquire 1, .letGo 2, .finish 1, .enter 3 "a", .acquire 3]

/-- The call that came last holds the lock that it made and nobody else does, also when the call that
gave up leaves; and in the end no lock is left. -/
theorem exclusive_overlapping :
    (∃ t, steps {} (overlapping ++ [.finish 2]) = some t ∧ t.locks.get? "a" = some 1 ∧
      t.visits.countP (fun v => v.id = "a" ∧ v.stage = .holds) ≤ 1) ∧
    ∃ t, steps {} (overlapping ++ [.finish 2, .finish 3]) = some t ∧ t.locks = ∅ := by
  constructor
  · obtain ⟨t, hs, hm⟩ : ∃ t, steps {} (overlapping ++ [.finish 2]) = some t ∧
        t.visits = [⟨3, "a", 1, .holds⟩] := ⟨_, rfl, rfl⟩
    obtain ⟨hone, hshared, -, -⟩ := exclusive hs
    refine ⟨t, hs, hshared ⟨3, "a", 1, .holds⟩ ?_ Stage.noConfusion, hone "a"⟩
    rw [hm]
    exact List.mem_cons_self
  · obtain ⟨t, hs, hover⟩ : ∃ t, steps {} (overlapping ++ [.finish 2, .finish 3]) = some t ∧
        t.visits = [] := ⟨_, rfl, rfl⟩
    exact ⟨t, hs, (exclusive hs).2.2.2 hover⟩

end Turns

end WebhookRelay
