import WebhookRelay.Proofs.Sync.Growth

/-!
# A declaration that failed can be made again

A declaration that failed has left some of its hooks behind. When it is made again, they are found
to be there, and the declaration comes to the same end as if it had never failed: it succeeds or
fails as it would have, and when it succeeds the store is the same, and so are the hooks but for
their numbers.

The two ways meet at the end of the first phase. Both have let the same world grow, and both have a
hook on every repository that is gained, so the worlds are alike (`Memory.World.alike_of_grown`):
they differ in the numbers of hooks on repositories that are gained. The second phase takes hooks
off other repositories, and cannot tell the worlds apart (`Memory.World.Alike.answer`).
-/

namespace WebhookRelay

open Program Memory

namespace Memory.World

variable {client : Option String} {repos : NameSet} {v w w₀ : World}

/-- Two worlds that differ in the numbers of hooks on some repositories of a client, and else in
nothing that matters. -/
structure Alike (client : Option String) (repos : NameSet) (v w : World) : Prop where
  store : v.store = w.store
  failing : ∀ name, (v.provider name).failing = (w.provider name).failing
  hooks : ∀ name r, v.hooksOn name r = w.hooksOn name r ∨
    client = some name ∧ Text.asciiLower r ∈ repos ∧
      (v.hooksOn name r).map Hook.unnumbered = (w.hooksOn name r).map Hook.unnumbered

theorem Alike.unnumbered (h : Alike client repos v w) (name r : String) :
    (v.hooksOn name r).map Hook.unnumbered = (w.hooksOn name r).map Hook.unnumbered := by
  rcases h.hooks name r with e | ⟨-, -, e⟩
  · rw [e]
  · exact e

/-- On repositories besides these nothing differs. -/
theorem Alike.hooksOn_eq {name r : String} (h : Alike client repos v w)
    (hr : client = some name → Text.asciiLower r ∉ repos) :
    v.hooksOn name r = w.hooksOn name r := by
  rcases h.hooks name r with e | ⟨hc, hm, -⟩
  · exact e
  · exact absurd hm (hr hc)

/-- Two worlds that have grown from one are alike if both have the hook where it was to come. -/
theorem alike_of_grown {spec : HookSpec} {url : String} (hv : Grown client spec repos w₀ v)
    (hw : Grown client spec repos w₀ w) (hu : spec.url? = some url)
    (hthere : ∀ name r, client = some name → Text.asciiLower r ∈ repos →
      0 < v.tally name url r ∧ 0 < w.tally name url r) : Alike client repos v w := by
  refine ⟨hv.store.trans hw.store.symm, fun name => (hv.failing name).trans (hw.failing name).symm,
    fun name r => ?_⟩
  rcases hv.hooks name r with ev | ⟨hc, hr, hn, i, ev⟩
  · rcases hw.hooks name r with ew | ⟨hc, hr, hn, j, ew⟩
    · exact .inl (ev.trans ew.symm)
    · have hpos := (hthere name r hc hr).1
      have hzero : v.tally name url r = 0 := by
        rw [tally_eq_zero, ev, ← hu]
        exact hn
      exact absurd hzero (Nat.ne_of_gt hpos)
  · rcases hw.hooks name r with ew | ⟨-, -, -, j, ew⟩
    · have hpos := (hthere name r hc hr).2
      have hzero : w.tally name url r = 0 := by
        rw [tally_eq_zero, ew, ← hu]
        exact hn
      exact absurd hzero (Nat.ne_of_gt hpos)
    · refine .inr ⟨hc, hr, ?_⟩
      rw [ev, ew]
      simp

theorem Alike.save (h : Alike client repos v w) (s : Service) :
    Alike client repos (World.answer (.save s) v).2 (World.answer (.save s) w).2 :=
  ⟨congrArg (Table.insert · s.id s) h.store, h.failing, h.hooks⟩

/-- Calls of the second phase are answered alike, and leave worlds that are alike. -/
theorem Alike.answer {c : Call String} (h : Alike client repos v w)
    (hc : c.Removes client (fun repo => repo.key ∉ repos) ∨ ∃ id, c = .forget id) :
    (World.answer c v).1 = (World.answer c w).1 ∧
      Alike client repos (World.answer c v).2 (World.answer c w).2 := by
  have hfailing : ∀ name, ((World.answer c v).2.provider name).failing =
      ((World.answer c w).2.provider name).failing := fun name => by
    rw [failing_answer, failing_answer]
    exact h.failing name
  have hfails : ∀ name repo, v.FailsAt name repo ↔ w.FailsAt name repo := fun name repo => by
    rw [FailsAt, FailsAt, h.failing name]
  cases c with
  | forget id =>
    exact ⟨rfl, congrArg (Table.erase · id) h.store, h.failing, h.hooks⟩
  | listHooks name repo =>
    obtain ⟨-, hrepo⟩ := hc.resolve_right (by rintro ⟨_, ⟨⟩⟩)
    have hsame : v.hooksOn name repo.fullName = w.hooksOn name repo.fullName :=
      h.hooksOn_eq fun _ => hrepo
    refine ⟨?_, h.store, hfailing, fun n r => ?_⟩
    · simp only [listHooks_reply, hfails, hsame]
    · rw [hooksOn_answer rfl rfl, hooksOn_answer rfl rfl]
      exact h.hooks n r
  | deleteHook name repo id =>
    obtain ⟨-, hrepo⟩ := hc.resolve_right (by rintro ⟨_, ⟨⟩⟩)
    have hsame : v.hooksOn name repo.fullName = w.hooksOn name repo.fullName :=
      h.hooksOn_eq fun _ => hrepo
    refine ⟨?_, h.store, hfailing, fun n r => ?_⟩
    · simp only [deleteHook_reply, hfails, hsame]
    · rw [hooksOn_deleteHook, hooksOn_deleteHook]
      by_cases hk : name = n ∧ ¬w.FailsAt name repo ∧ Text.asciiLower r = repo.key
      · rw [if_pos hk, if_pos ⟨hk.1, (hfails _ _).not.mpr hk.2.1, hk.2.2⟩]
        have hsame' : v.hooksOn n r = w.hooksOn n r := h.hooksOn_eq fun _ => hk.2.2 ▸ hrepo
        exact .inl (by rw [hsame'])
      · rw [if_neg hk, if_neg fun hk' => hk ⟨hk'.1, (hfails _ _).not.mp hk'.2.1, hk'.2.2⟩]
        exact h.hooks n r
  | _ =>
    rcases hc with hc | ⟨_, ⟨⟩⟩
    cases hc

end Memory.World

/-! ## When a declaration succeeds -/

variable {credentials : Credentials String} {new : Service} {old : Option Service}
  {name : String} {v w w' : World}

/-- Installing succeeds unless the repository fails. -/
theorem Service.isOk_install {repo : String} {n : RepoName} (hn : RepoName.parse repo = .ok n) :
    ((new.install name repo).run World.answer w).1.isOk = true ↔ ¬w.FailsAt name n := by
  by_cases hf : w.FailsAt name n
  · have hreply : (World.answer (.createHook name n new.hookSpec) w).1 =
        .error (Provider.outage n) := by
      rw [World.createHook_reply, if_pos hf]
    simp only [install, hn, run_call, hreply, hf, not_true, iff_false]
    exact Bool.false_ne_true
  · by_cases ht : ∃ h ∈ w.hooksOn name n.fullName, h.callbackUrl? = new.hookSpec.url?
    · have hreply : (World.answer (.createHook name n new.hookSpec) w).1 =
          .error Provider.duplicate := by
        rw [World.createHook_reply, if_neg hf, if_pos ht]
      simp only [install, hn, run_call, hreply, Provider.isHookExists_duplicate, hf, not_false_iff,
        iff_true]
      rfl
    · have hreply : (World.answer (.createHook name n new.hookSpec) w).1 =
          .ok (new.hookSpec.install (w.provider name).nextId) := by
        rw [World.createHook_reply, if_neg hf, if_neg ht]
      simp only [install, hn, run_call, hreply, hf, not_false_iff, iff_true]
      rfl

namespace Reconcile

theorem isOk_installAll {report : Prepared} {list : List String}
    (hlist : ∀ repo ∈ list, ∃ n, RepoName.parse repo = .ok n) :
    ((installAll new name report list).run World.answer w).1.isOk = true ↔
      ∀ repo ∈ list, ∀ n, RepoName.parse repo = .ok n → ¬w.FailsAt name n := by
  induction list generalizing report w with
  | nil => simp [installAll, Except.isOk, Except.toBool]
  | cons repo rest ih =>
    obtain ⟨n, hn⟩ := hlist repo List.mem_cons_self
    have hrest := fun y hy => hlist y (List.mem_cons_of_mem _ hy)
    have hhere : ((new.install name repo).run World.answer w).1.isOk = true ↔ ¬w.FailsAt name n :=
      Service.isOk_install hn
    have hfailing := World.failing_run (new.install name repo) w name
    rw [installAll, run_onSuccess, List.forall_mem_cons]
    rcases he : (new.install name repo).run World.answer w with ⟨e | i, w₁⟩
    · rw [he] at hhere
      have hdown : ¬¬w.FailsAt name n := fun h => Bool.false_ne_true (hhere.mpr h)
      exact iff_of_false Bool.false_ne_true fun h => hdown (h.1 n hn)
    · rw [he] at hhere hfailing
      have hfirst : ∀ m, RepoName.parse repo = .ok m → ¬w.FailsAt name m := by
        intro m hm
        obtain rfl : n = m := Except.ok.inj (hn.symm.trans hm)
        exact hhere.mp rfl
      have hsame : ∀ m, w₁.FailsAt name m ↔ w.FailsAt name m := fun m => by
        rw [World.FailsAt, World.FailsAt, hfailing]
      rw [and_iff_right hfirst]
      simp only [← hsame]
      cases i with
      | created => exact ih hrest
      | alreadyThere => exact ih hrest

theorem isOk_joinAll {report : Prepared} {rooms : List String} :
    ((joinAll report rooms).run World.answer w).1.isOk = true ↔
      ∀ room ∈ rooms, room ∉ w.chat.failing := by
  induction rooms generalizing report w with
  | nil => simp [joinAll, Except.isOk, Except.toBool]
  | cons room rest ih =>
    have hfailing := World.rooms_answer (.join room) w
    rw [joinAll, run_call, List.forall_mem_cons]
    by_cases hf : room ∈ w.chat.failing
    · have hreply : (World.answer (.join room) w).1 =
          .error (.chat room "Simulated failure") := by
        rw [World.join_reply, Chat.admits, if_pos hf]
      rw [hreply]
      exact iff_of_false Bool.false_ne_true fun h => h.1 hf
    · have hreply : (World.answer (.join room) w).1 = .ok () := by
        rw [World.join_reply, Chat.admits, if_neg hf]
      rw [hreply, and_iff_right hf, ← hfailing]
      exact ih

/-- Whether the first phase succeeds depends on which repositories and rooms fail, and not on the
hooks that are there. -/
theorem isOk_prepare_congr (hf : ∀ name, (v.provider name).failing = (w.provider name).failing)
    (hrooms : v.chat.failing = w.chat.failing) :
    ((prepare credentials new old).run World.answer v).1.isOk =
      ((prepare credentials new old).run World.answer w).1.isOk := by
  unfold prepare
  split
  · rfl
  · next client hclient =>
    dsimp only
    split
    · rfl
    · have hlist : ∀ repo ∈ (change new old).added.toList, ∃ n, RepoName.parse repo = .ok n :=
        fun repo hm => (Service.exists_name_of_mem_repos (mem_added.mp hm).1).imp fun _ h => h.1
      have hfails : ∀ n, v.FailsAt client n ↔ w.FailsAt client n := fun n => by
        rw [World.FailsAt, World.FailsAt, hf client]
      rw [run_onSuccess, run_onSuccess]
      generalize hreport : ({ pending := (change new old).removed.toList } : Prepared) = report
      have hinstall : ((installAll new client report (change new old).added.toList).run
          World.answer v).1.isOk = true ↔ ((installAll new client report
            (change new old).added.toList).run World.answer w).1.isOk = true := by
        rw [isOk_installAll hlist, isOk_installAll hlist]
        simp only [hfails]
      have hrv := World.rooms_run (installAll new client report (change new old).added.toList) v
      have hrw := World.rooms_run (installAll new client report (change new old).added.toList) w
      rcases hv : (installAll new client report (change new old).added.toList).run World.answer v
        with ⟨e | a, v₁⟩
      · rcases hw : (installAll new client report (change new old).added.toList).run World.answer w
          with ⟨e' | b, w₁⟩
        · rfl
        · rw [hv, hw] at hinstall
          exact absurd (hinstall.mpr rfl) Bool.false_ne_true
      · rcases hw : (installAll new client report (change new old).added.toList).run World.answer w
          with ⟨e' | b, w₁⟩
        · rw [hv, hw] at hinstall
          exact absurd (hinstall.mp rfl) Bool.false_ne_true
        · rw [hv] at hrv
          rw [hw] at hrw
          rw [Bool.eq_iff_iff, isOk_joinAll, isOk_joinAll, hrv, hrw, hrooms]

end Reconcile

/-! ## The second attempt -/

namespace Service

open Reconcile

/-- A declaration succeeds when its first phase does, and ends as the second phase does. -/
theorem run_configure (credentials : Credentials String) (new : Service) (w : World) :
    (new.configure credentials).run World.answer w =
      match (prepare credentials new (w.store.get? new.id)).run World.answer w with
      | (.error e, v) => (.error e, v)
      | (.ok prepared, v) =>
        let (settled, w') := (settle credentials new (w.store.get? new.id)).run World.answer
          (World.answer (.save new) v).2
        (.ok ⟨w.store.get? new.id, new, prepared, settled⟩, w') := by
  rw [configure, run_call]
  show ((prepare credentials new (w.store.get? new.id)).onSuccess _).run World.answer w = _
  rw [run_onSuccess]
  rcases (prepare credentials new (w.store.get? new.id)).run World.answer w with ⟨e | prepared, v⟩
  · rfl
  · show ((settle credentials new (w.store.get? new.id)).bind _).run World.answer _ = _
    rw [run_bind]
    rfl

theorem isOk_configure (credentials : Credentials String) (new : Service) (w : World) :
    ((new.configure credentials).run World.answer w).1.isOk =
      ((prepare credentials new (w.store.get? new.id)).run World.answer w).1.isOk := by
  rw [run_configure]
  rcases (prepare credentials new (w.store.get? new.id)).run World.answer w with ⟨e | prepared, v⟩
  · rfl
  · rfl

variable {h : Hazard} {trace : List (Exchange String)} {e : Failure} {w₁ : World}

/-- A declaration that fails though no call does is turned away before it makes any. -/
theorem refused_of_configure_error
    (hr : Runs h.Conduct (new.configure credentials) w trace (.error e) w')
    (hok : ∀ x ∈ trace, ¬x.Failed) :
    prepare credentials new (w.store.get? new.id) = .done (.error e) := by
  cases runs_configure hr with
  | notLoaded hl => exact absurd (fun hx => Bool.false_ne_true hx.1) (hok _ List.mem_cons_self)
  | notPrepared hl hp =>
    obtain ⟨rfl, rfl⟩ := load_eq_ok hl
    rcases failed_or_refused_of_prepare_error hp with ⟨x, hx, hf⟩ | ⟨-, hp⟩
    · exact absurd hf (hok x (List.mem_cons_of_mem _ hx))
    · exact hp
  | notSaved hl hp hs =>
    exact absurd (fun hx => Bool.false_ne_true hx.1)
      (hok _ (List.mem_cons_of_mem _ (List.mem_append_right _ List.mem_cons_self)))

/-- And what is turned away changes nothing, whatever happens to it. -/
theorem eq_of_refused {e' : Failure}
    (hp : prepare credentials new (w.store.get? new.id) = .done (.error e'))
    (hr : Runs h.Conduct (new.configure credentials) w trace (.error e) w₁) : w₁ = w := by
  cases runs_configure hr with
  | notLoaded hl =>
    rcases hl.world_eq with rfl | rfl
    · rfl
    · rfl
  | notPrepared hl hp' =>
    obtain ⟨rfl, rfl⟩ := load_eq_ok hl
    rw [hp] at hp'
    exact (runs_done.mp hp').2.2
  | notSaved hl hp' hs =>
    obtain ⟨rfl, rfl⟩ := load_eq_ok hl
    rw [hp] at hp'
    cases (runs_done.mp hp').2.1

/-- Two first phases that succeed, from a world and from one that it has grown to, leave worlds that
are alike. -/
theorem alike_prepare {a b : Prepared} {v v₁ : World}
    (hg : World.Grown (new.client? credentials) new.hookSpec (change new old).added w w₁)
    (hv : (prepare credentials new old).run World.answer w = (.ok a, v))
    (hv₁ : (prepare credentials new old).run World.answer w₁ = (.ok b, v₁)) :
    World.Alike (new.client? credentials) (change new old).added v v₁ := by
  have hr := Hazard.plainStrike.runs_answer (prepare credentials new old) w
  have hr₁ := Hazard.plainStrike.runs_answer (prepare credentials new old) w₁
  rw [hv] at hr
  rw [hv₁] at hr₁
  refine World.alike_of_grown (grown_prepare hr) (hg.trans (grown_prepare hr₁))
    (Service.url?_hookSpec new) fun name r hclient hrepo => ?_
  exact ⟨tally_prepare hr hclient hrepo, tally_prepare hr₁ hclient hrepo⟩

/-- The second phase leaves worlds alike. -/
theorem alike_settle {v v₁ : World}
    (hv : World.Alike (new.client? credentials) (change new old).added v v₁) :
    World.Alike (new.client? credentials) (change new old).added
      ((settle credentials new old).run World.answer v).2
      ((settle credentials new old).run World.answer v₁).2 := by
  refine (run_congr (fun c s t hc hst => hst.answer ?_) makes_settle hv).2.2
  rcases hc with hc | ⟨hc, -⟩
  · refine .inl (hc.mono fun repo hremoved hadded => ?_)
    exact (mem_removed.mp hremoved).2 (mem_added.mp hadded).1
  · exact .inr ⟨_, hc⟩

/-- Two declarations that succeed, in a world and in one that it has grown to by declaring the same,
leave worlds that are alike, and name the same repositories. -/
theorem alike_configure {a b : Configured} {v v₁ : World}
    (hg : World.Grown (new.client? credentials) new.hookSpec
      (change new (w.store.get? new.id)).added w w₁)
    (hv : (new.configure credentials).run World.answer w = (.ok a, v))
    (hv₁ : (new.configure credentials).run World.answer w₁ = (.ok b, v₁)) :
    World.Alike (new.client? credentials) (change new (w.store.get? new.id)).added v v₁ ∧
      ∀ repo, repo ∈ b.prepared.created ++ b.prepared.alreadyThere ↔
        repo ∈ a.prepared.created ++ a.prepared.alreadyThere := by
  rw [run_configure] at hv hv₁
  rw [hg.store] at hv₁
  rcases hp : (prepare credentials new (w.store.get? new.id)).run World.answer w
    with ⟨e | pa, u⟩
  · rw [hp] at hv
    cases hv
  · rcases hp₁ : (prepare credentials new (w.store.get? new.id)).run World.answer w₁
      with ⟨e | pb, u₁⟩
    · rw [hp₁] at hv₁
      cases hv₁
    · rw [hp] at hv
      rw [hp₁] at hv₁
      cases hv
      cases hv₁
      refine ⟨alike_settle ((alike_prepare hg hp hp₁).save new), fun repo => ?_⟩
      have hr := runs_run World.answer (prepare credentials new (w.store.get? new.id)) w
      have hr₁ := runs_run World.answer (prepare credentials new (w.store.get? new.id)) w₁
      rw [hp] at hr
      rw [hp₁] at hr₁
      rw [mem_of_prepare_ok hr, mem_of_prepare_ok hr₁]

/-- What comes of a declaration in a world if nothing fails but what the world makes fail. -/
def undisturbed (credentials : Credentials String) (new : Service) (w : World) :
    Except Failure Configured × World :=
  (new.configure credentials).run World.answer w

/-- **A declaration that failed can be made again.** A declaration has failed because calls failed,
having changed nothing or, if they were to create a hook, having created it all the same. Made again
in the world this left, and undisturbed, it succeeds just when it would have succeeded in the world
before. If it does, or if no call fails, the store is the same in the end, and so are the hooks on
each repository but for their numbers; and the repositories on which hooks were created or were
there already are the same. -/
theorem configure_retry
    (hr : Runs Hazard.lossy.Conduct (new.configure credentials) w trace (.error e) w₁) :
    (new.undisturbed credentials w₁).1.isOk = (new.undisturbed credentials w).1.isOk ∧
      ((new.undisturbed credentials w).1.isOk = true ∨
          (∀ x ∈ (new.configure credentials).exchanges World.answer w, ¬x.Failed) →
        (new.undisturbed credentials w₁).2.store = (new.undisturbed credentials w).2.store ∧
          ∀ name r, ((new.undisturbed credentials w₁).2.hooksOn name r).map Hook.unnumbered =
            ((new.undisturbed credentials w).2.hooksOn name r).map Hook.unnumbered) ∧
      ∀ a b, (new.undisturbed credentials w).1 = .ok a →
        (new.undisturbed credentials w₁).1 = .ok b →
          ∀ repo, repo ∈ b.prepared.created ++ b.prepared.alreadyThere ↔
            repo ∈ a.prepared.created ++ a.prepared.alreadyThere := by
  have hg := grown_of_configure_error (fun s e h => Bool.false_ne_true h) hr
  have hisOk : (new.undisturbed credentials w₁).1.isOk =
      (new.undisturbed credentials w).1.isOk := by
    rw [undisturbed, undisturbed, isOk_configure, isOk_configure, hg.store]
    exact isOk_prepare_congr hg.failing hg.rooms
  refine ⟨hisOk, ?_⟩
  have hrun := Hazard.calm.runs_answer (new.configure credentials) w
  rcases hv : new.undisturbed credentials w with ⟨e | a, v⟩
  · rw [hv] at hisOk
    rw [show (new.configure credentials).run World.answer w = _ from hv] at hrun
    refine ⟨fun hor => ?_, fun a b ha => by cases ha⟩
    -- the declaration was turned away, so it had not done anything when it failed
    have hok := hor.resolve_left Bool.false_ne_true
    obtain rfl := eq_of_refused (refused_of_configure_error hrun hok) hr
    rw [hv]
    exact ⟨rfl, fun _ _ => rfl⟩
  · rw [hv] at hisOk
    rcases hv₁ : new.undisturbed credentials w₁ with ⟨e₁ | b, v₁⟩
    · rw [hv₁] at hisOk
      exact absurd hisOk Bool.false_ne_true
    · obtain ⟨halike, hnamed⟩ := alike_configure hg hv hv₁
      refine ⟨fun _ => ⟨halike.store.symm, fun name r => (halike.unnumbered name r).symm⟩, ?_⟩
      rintro _ _ ⟨⟩ ⟨⟩
      exact hnamed

/-- A service of two repositories, where the answer about the second is lost. -/
theorem configure_retry_dropping :
    ∃ e trace w₁, Runs Hazard.lossy.Conduct
        ((watching "svc" "u" ["Acme/A", "acme/b"]).configure soleUser) {} trace (.error e) w₁ ∧
      ((watching "svc" "u" ["Acme/A", "acme/b"]).undisturbed soleUser w₁).1.isOk = true ∧
      (((watching "svc" "u" ["Acme/A", "acme/b"]).undisturbed soleUser w₁).2.hooksOn "main"
          "acme/b").map Hook.unnumbered =
        (((watching "svc" "u" ["Acme/A", "acme/b"]).undisturbed soleUser {}).2.hooksOn "main"
          "acme/b").map Hook.unnumbered := by
  have hr := runs_dropping "acme/b"
    ((watching "svc" "u" ["Acme/A", "acme/b"]).configure soleUser) {}
  have hok : ((watching "svc" "u" ["Acme/A", "acme/b"]).undisturbed soleUser {}).1.isOk = true := by
    decide +kernel
  rcases he : (((watching "svc" "u" ["Acme/A", "acme/b"]).configure soleUser).run
    (dropping "acme/b") {}).1 with e | a
  · rw [he] at hr
    obtain ⟨hisOk, hsame, -⟩ := configure_retry hr
    exact ⟨e, _, _, hr, hisOk.trans hok, (hsame (.inl hok)).2 _ _⟩
  · have hf : (((watching "svc" "u" ["Acme/A", "acme/b"]).configure soleUser).run
        (dropping "acme/b") {}).1.isOk = false := by decide +kernel
    rw [he] at hf
    cases hf

end Service

end WebhookRelay
