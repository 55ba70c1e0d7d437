import WebhookRelay.Proofs.Memory.Keeping

/-!
# Taking a service down

A service is taken down by a declaration that needs no repository. Such a declaration is compared
with the one that is stored, and its first phase turns it away if that needs no repository either
(`Reconcile.prepare_of_isEmpty`). Otherwise nothing is left to be gained: rooms are joined, each
repository of the stored declaration is looked through for the hook once
(`Reconcile.listed_uninstallAll`), and the service is forgotten.

A declaration that needs no repository is stored for good only when forgetting it failed. From then on
it stands in its own way: no further declaration of this kind is let in (`Service.teardown_refused`).
-/

namespace WebhookRelay

open Program Memory

variable {C σ : Type} {conduct : Conduct C σ} {credentials : Credentials C} {client : C}
  {new old : Service} {stored : Option Service} {s s' : σ} {trace : List (Exchange C)} {t t' : Table Service}

/-- The repository that a call lists the hooks of, and the client that asks. -/
def Call.listed? : Call C → Option (C × String)
  | listHooks client repo => some (client, repo.fullName)
  | _ => none

/-! ## Declarations that need no repository -/

namespace Reconcile

/-- From a declaration to one that needs no repository, every repository is lost and none gained. -/
theorem change_of_isEmpty (hnone : new.repos.isEmpty = true) (old : Option Service) :
    change new old = ⟨∅, Service.reposOf old⟩ := by
  rw [change, RepoChange.between, NameSet.eq_empty_of_isEmpty hnone, NameSet.diff_empty]
  rfl

/-- A declaration that needs no repository is turned away if the old one needs none; otherwise there
are rooms to be joined, and no more. -/
theorem prepare_of_isEmpty (hclient : clientFor credentials new = .ok client)
    (hnone : new.repos.isEmpty = true) (old : Option Service) :
    prepare credentials new old =
      if (Service.reposOf old).isEmpty then .done (.error (.misconfigured "No webhooks specified"))
      else joinAll { pending := (Service.reposOf old).toList } new.rooms.keys := by
  simp only [prepare, hclient, change_of_isEmpty hnone, hnone, Bool.true_and]
  rfl

/-! ## What is taken off -/

/-- The removals name the repositories, in order. -/
theorem removals_uninstallAll {done removals : List Removal} {list : List String}
    (hr : Runs conduct (uninstallAll credentials new done list) s trace removals s') :
    removals.map (·.repo) = done.map (·.repo) ++ list := by
  induction list generalizing done s trace with
  | nil =>
    obtain ⟨-, rfl, -⟩ := runs_done.mp hr
    rw [List.append_nil]
  | cons repo rest ih =>
    obtain ⟨before, result, s₁, after, -, hn, -⟩ := runs_bind.mp hr
    rw [ih hn, List.map_append, List.append_assoc]
    rfl

end Reconcile

/-- Uninstalling lists the hooks of the repository once. -/
theorem Service.listed_uninstall {repo : RepoName} {result : Except Failure UInt64}
    (hr : Runs conduct (new.uninstall credentials repo) s trace result s')
    (hclient : new.client? credentials = some client) :
    trace.filterMap (·.call.listed?) = [(client, repo.fullName)] := by
  cases runs_uninstall hr with
  | nobody hnone => cases hnone.symm.trans hclient
  | notListed hc | notFound hc | found hc =>
    obtain rfl := Option.some.inj (hc.symm.trans hclient)
    rfl

namespace Reconcile

/-- The second phase lists the hooks of each repository that is lost, once and in order. -/
theorem listed_uninstallAll {done removals : List Removal} {list : List String}
    (hr : Runs conduct (uninstallAll credentials new done list) s trace removals s')
    (hclient : new.client? credentials = some client)
    (hlist : ∀ repo ∈ list, ∃ name, RepoName.parse repo = .ok name) :
    trace.filterMap (·.call.listed?) = list.map (client, ·) := by
  induction list generalizing done s trace with
  | nil =>
    obtain ⟨rfl, -, -⟩ := runs_done.mp hr
    rfl
  | cons repo rest ih =>
    obtain ⟨before, result, s₁, after, hu, hn, rfl⟩ := runs_bind.mp hr
    obtain ⟨name, hname⟩ := hlist repo List.mem_cons_self
    simp only [uninstallNamed, hname] at hu
    rw [List.filterMap_append, Service.listed_uninstall hu hclient,
      ih hn fun r hm => hlist r (List.mem_cons_of_mem _ hm), RepoName.fullName_of_parse hname]
    rfl

/-- Joining rooms lists no hooks. -/
theorem listed_joinAll {report : Prepared} {rooms : List String} {r : Except Failure Prepared}
    (hr : Runs conduct (joinAll report rooms) s trace r s') :
    trace.filterMap (·.call.listed?) = [] :=
  List.filterMap_eq_nil_iff.mpr
    (hr.mem_makes (makes_joinAll (P := fun c => c.listed? = none) (fun _ => rfl) report rooms))

/-- A second phase in which nothing fails forgets a service that needs no repository, having looked
for its hook on each repository that was needed before. -/
theorem runs_settle_of_isEmpty {settled : Settled}
    (hr : Runs Keeping (settle credentials new stored) t trace settled t')
    (hnone : new.repos.isEmpty = true) (hclient : new.client? credentials = some client)
    (hok : ∀ x ∈ trace, ¬x.Failed) :
    settled.pruned = true ∧ t' = t.erase new.id ∧
      settled.removals.map (·.repo) = (Service.reposOf stored).toList ∧
        trace.filterMap (·.call.listed?) = (Service.reposOf stored).toList.map (client, ·) := by
  obtain ⟨before, t₁, after, hu, rfl, hlast⟩ := runs_settle hr
  obtain rfl : t₁ = t :=
    Keeping.eq_of_makes hu ((makes_uninstall_removed new stored []).mono fun _ hc => hc.isStore)
  rw [change_of_isEmpty hnone] at hu
  have hlisted := listed_uninstallAll hu hclient fun repo hm =>
    (exists_name_of_mem_reposOf hm).imp fun _ hn => hn.1
  rcases hlast with ⟨hsome, -⟩ | ⟨-, e | ⟨⟩, hf, hpruned, rfl⟩
  · exact absurd hsome (ne_false_of_eq_true hnone)
  · exact absurd (fun hc => Bool.false_ne_true hc.1)
      (hok _ (List.mem_append_right _ List.mem_cons_self))
  · refine ⟨hpruned, hf.forget_eq_ok, removals_uninstallAll hu, ?_⟩
    rw [List.filterMap_append, hlisted]
    exact List.append_nil _

end Reconcile

/-! ## Taking down -/

namespace Service

open Reconcile

/-- A declaration that needs no repository is turned away if what is stored needs none either, and
nothing is done. -/
theorem configure_of_isEmpty {result : Except Failure Configured}
    (hr : Runs Keeping (new.configure credentials) t trace result t')
    (hclient : clientFor credentials new = .ok client) (hnone : new.repos.isEmpty = true)
    (hold : (reposOf (t.get? new.id)).isEmpty = true) (hok : ∀ x ∈ trace, ¬x.Failed) :
    result = .error (.misconfigured "No webhooks specified") ∧
      trace = [⟨.load new.id, .ok (t.get? new.id)⟩] ∧ t' = t := by
  have hprepare := prepare_of_isEmpty hclient hnone (t.get? new.id)
  rw [if_pos hold] at hprepare
  obtain ⟨loaded, t₁, rest, hl, hn, rfl⟩ := runs_call.mp hr
  rcases loaded with e | old
  · exact absurd (fun hc => Bool.false_ne_true hc.1) (hok _ List.mem_cons_self)
  · obtain ⟨rfl, rfl⟩ := hl.load_eq_ok
    simp only [hprepare] at hn
    obtain ⟨rfl, rfl, rfl⟩ := runs_done.mp hn
    exact ⟨rfl, rfl, rfl⟩

/-- A declaration that needs no repository takes effect, if what is stored needs some and nothing
fails. -/
theorem configure_of_gone {result : Except Failure Configured}
    (hr : Runs Keeping (new.configure credentials) t trace result t')
    (hclient : clientFor credentials new = .ok client) (hnone : new.repos.isEmpty = true)
    (hold : (reposOf (t.get? new.id)).isEmpty = false) (hok : ∀ x ∈ trace, ¬x.Failed) :
    ∃ configured, result = .ok configured ∧ configured.settled.pruned = true ∧
      t' = (t.insert new.id new).erase new.id ∧
      configured.settled.removals.map (·.repo) = (reposOf (t.get? new.id)).toList ∧
      trace.filterMap (·.call.listed?) = (reposOf (t.get? new.id)).toList.map (client, ·) := by
  have hprepare := prepare_of_isEmpty hclient hnone (t.get? new.id)
  rw [if_neg (ne_true_of_eq_false hold)] at hprepare
  cases runs_configure hr with
  | notLoaded hl => exact absurd (fun hc => Bool.false_ne_true hc.1) (hok _ List.mem_cons_self)
  | notPrepared hl hp =>
    obtain ⟨rfl, rfl⟩ := hl.load_eq_ok
    rw [hprepare] at hp
    obtain ⟨x, hx, hf⟩ := exists_failed_of_joinAll_error hp
    exact absurd hf (hok x (List.mem_cons_of_mem _ hx))
  | notSaved hl hp hs =>
    exact absurd (fun hc => Bool.false_ne_true hc.1)
      (hok _ (List.mem_cons_of_mem _ (List.mem_append_right _ List.mem_cons_self)))
  | settled hl hp hs ht =>
    obtain ⟨rfl, rfl⟩ := hl.load_eq_ok
    obtain rfl := Keeping.eq_of_makes hp (makes_prepare.mono fun _ hc => hc.isStore)
    obtain rfl := hs.save_eq_ok
    rw [hprepare] at hp
    obtain ⟨hpruned, rfl, hremovals, hlisted⟩ :=
      runs_settle_of_isEmpty ht hnone (client_of_clientFor hclient) fun x hx =>
        hok x (List.mem_cons_of_mem _ (List.mem_append_right _ (List.mem_cons_of_mem _ hx)))
    refine ⟨_, rfl, hpruned, rfl, hremovals, ?_⟩
    rw [List.filterMap_cons_none rfl, List.filterMap_append, listed_joinAll hp,
      List.filterMap_cons_none rfl, hlisted]
    rfl

/-- What is stored needs repositories, unless forgetting a service has failed. -/
theorem repos_of_series {ops : List (Operation C)} {u : Unit} {id : String}
    (hr : Runs Keeping (Operation.series ops) ∅ trace u t)
    (hforget : ∀ x ∈ trace, x.call.isForget = true → ¬x.Failed) (hs : t.get? id = some old) :
    old.repos.isEmpty = false :=
  Operation.stored_series (P := fun _ s => s.repos.isEmpty = false) hr hforget
    (fun _ _ _ _ _ hneeds => hneeds)
    (fun _ _ hs => nomatch (Table.get?_empty _).symm.trans hs) id old hs

/-- **Taking a service down works where there is something to take down.** After a run of operations
in which any call may have failed, a service is stored, and now its declaration needs no repository
any more; its user is named and signed in, at a named realm of the right kind, and no call fails. If
the stored declaration needs repositories, and it does unless forgetting a service has failed before,
then the service is forgotten and every other one kept, and the hook of the service is looked for on
each of these repositories once and in order. Otherwise the declaration is turned away, and nothing
is done but to look up what is stored. -/
theorem torn_down {ops : List (Operation C)} {before : List (Exchange C)} {u : Unit}
    {result : Except Failure Configured}
    (hreach : Runs Keeping (Operation.series ops) ∅ before u t)
    (hstored : t.get? new.id = some old) (hnone : new.repos.isEmpty = true)
    (hnamed : new.realm ≠ "" ∧ new.user ≠ "")
    (hrealm : credentials.realmType new.realm = some githubRealm)
    (hclient : new.client? credentials = some client)
    (hr : Runs Keeping (new.configure credentials) t trace result t')
    (hok : ∀ x ∈ trace, ¬x.Failed) :
    ((∀ x ∈ before, x.call.isForget = true → ¬x.Failed) → old.repos.isEmpty = false) ∧
    (old.repos.isEmpty = false → ∃ configured, result = .ok configured ∧
      configured.settled.pruned = true ∧ t'.get? new.id = none ∧
      (∀ id, id ≠ new.id → t'.get? id = t.get? id) ∧
      configured.settled.removals.map (·.repo) = old.repos.toList ∧
      trace.filterMap (·.call.listed?) = old.repos.toList.map (client, ·)) ∧
    (old.repos.isEmpty = true → result = .error (.misconfigured "No webhooks specified") ∧
      trace = [⟨.load new.id, .ok (some old)⟩] ∧ t' = t) := by
  have huser := clientFor_eq_ok_iff.mpr ⟨hnamed, hrealm, hclient⟩
  have hold : reposOf (t.get? new.id) = old.repos := by rw [hstored]; rfl
  refine ⟨fun hforget => repos_of_series hreach hforget hstored, fun hneeds => ?_, fun hneeds => ?_⟩
  · obtain ⟨configured, hresult, hpruned, rfl, hremovals, hlisted⟩ :=
      configure_of_gone hr huser hnone (hold ▸ hneeds) hok
    rw [hold] at hremovals hlisted
    refine ⟨configured, hresult, hpruned, ?_, fun id hid => ?_, hremovals, hlisted⟩
    · rw [Table.get?_erase, if_pos rfl]
    · rw [Table.get?_erase, if_neg (Ne.symm hid), Table.get?_insert, if_neg (Ne.symm hid)]
  · obtain ⟨hresult, htrace, rfl⟩ := configure_of_isEmpty hr huser hnone (hold ▸ hneeds) hok
    rw [hstored] at htrace
    exact ⟨hresult, htrace, rfl⟩

/-! ### Services that are taken down, and services that are not -/

/-- The world, where no service can be forgotten. -/
def unforgetting : Handler String World
  | .forget _, w => (.error (.storage "delete failed"), w)
  | c, w => World.answer c w

/-- The world in which services were declared one after the other. -/
def declaredWith (handler : Handler String World) (services : List Service) : World :=
  ((Operation.series (services.map (.configure soleUser))).run handler {}).2

theorem runs_declaredWith (services : List Service) :
    ∃ before u, Runs Keeping (Operation.series (services.map (.configure soleUser))) ∅ before u
      (declaredWith World.answer services).store :=
  ⟨_, _, runs_store _ {}⟩

/-- Two services that need a repository in common. -/
def pair : List Service := [watching "svc" "u" ["acme/b", "Acme/A"], watching "other" "v" ["acme/a"]]

/-- The one with two repositories is taken down, and the other is kept. -/
theorem torn_down_pair :
    ∃ configured t' trace, Runs Keeping ((watching "svc" "u" []).configure soleUser)
        (declaredWith World.answer pair).store trace (.ok configured) t' ∧
      configured.settled.pruned = true ∧ t'.get? "svc" = none ∧
      t'.get? "other" = some (watching "other" "v" ["acme/a"]) ∧
      trace.filterMap (·.call.listed?) = [("main", "acme/a"), ("main", "acme/b")] := by
  obtain ⟨before, u, hreach⟩ := runs_declaredWith pair
  have hr := runs_store ((watching "svc" "u" []).configure soleUser) (declaredWith World.answer pair)
  have hstored : (declaredWith World.answer pair).store.get? (watching "svc" "u" []).id =
      some (watching "svc" "u" ["acme/b", "Acme/A"]) := by decide +kernel
  have hclient : (watching "svc" "u" []).client? soleUser = some "main" := by decide
  obtain ⟨-, hgone, -⟩ := torn_down hreach hstored (by decide +kernel) (by decide) (by decide)
    hclient hr (by decide +kernel)
  obtain ⟨configured, hresult, hpruned, hnone, hothers, -, hlisted⟩ := hgone (by decide +kernel)
  refine ⟨configured, _, _, hresult ▸ hr, hpruned, hnone, ?_, ?_⟩
  · exact (hothers "other" (by decide)).trans (by decide +kernel)
  · exact hlisted.trans (by decide +kernel)

/-- A service is stored, and a declaration of it that needs no repository comes from a user who is
signed in at a realm of the right kind; no call fails, and still the declaration is turned away and
the service stays. -/
def Refuses (credentials : Credentials String) (s : Service) (w : World) : Prop :=
  (w.store.get? s.id).isSome = true ∧ s.repos.isEmpty = true ∧
    credentials.realmType s.realm = some githubRealm ∧ (s.client? credentials).isSome = true ∧
    (∀ x ∈ (s.configure credentials).exchanges World.answer w, ¬x.Failed) ∧
    ((s.configure credentials).run World.answer w).1.isOk = false ∧
    (((s.configure credentials).run World.answer w).2.store.get? s.id).isSome = true

/-- Every realm is of the right kind, the one with an empty name included, and everybody is signed
in. -/
def anyRealm : Credentials String := ⟨fun _ => some githubRealm, fun _ _ => some "main"⟩

/-- A service cannot be taken down when an attempt to do so has failed to forget it, nor under a realm
with an empty name. -/
theorem teardown_refused :
    Refuses soleUser (watching "svc" "u" [])
        (declaredWith unforgetting [watching "svc" "u" ["acme/a"], watching "svc" "u" []]) ∧
      Refuses anyRealm { watching "svc" "u" [] with realm := "" }
        (declaredWith World.answer [watching "svc" "u" ["acme/a"]]) := by
  unfold Refuses
  decide +kernel

end Service

end WebhookRelay
