import WebhookRelay.Proofs.Repositories
import WebhookRelay.Proofs.Runs
import WebhookRelay.Sync.Configure

/-!
# What the phases of a declaration can do

Every run of a declaration ends at one of four places, `Service.Configures` lists them, and
`Service.runs_configure` says that there are no others; `Reconcile.runs_prepare` does the same for
the first phase, and `Service.runs_uninstall` for one removal of the second. A first phase that
succeeds has a client of the right kind (`Reconcile.exists_clientFor_of_prepare_ok`).

Which calls the phases make is said call by call: the first phase joins rooms and creates hooks on
repositories that are gained (`Call.Prepares`), the second lists and deletes hooks on repositories
that are lost (`Call.Removes`) and forgets a service that needs none; a declaration makes no others
(`Call.Declares`).

Nothing here depends on how calls are answered.
-/

namespace WebhookRelay

open Program

variable {C σ : Type} {conduct : Conduct C σ} {credentials : Credentials C} {client : C}
  {new : Service} {old : Option Service} {s s' : σ} {trace : List (Exchange C)}

/-! ## Which calls are made -/

/-- A call of the first phase: a room is joined, or a hook is created on a repository, by a client
if there is one. -/
def Call.Prepares (client : Option C) (spec : HookSpec) (repos : NameSet) : Call C → Prop
  | join _ => True
  | createHook c repo sp => client = some c ∧ repo.key ∈ repos ∧ sp = spec
  | _ => False

/-- A call that looks for a hook on a repository or takes it off, by a client if there is one. -/
def Call.Removes (client : Option C) (repos : RepoName → Prop) : Call C → Prop
  | listHooks c repo => client = some c ∧ repos repo
  | deleteHook c repo _ => client = some c ∧ repos repo
  | _ => False

theorem Call.Removes.mono {client : Option C} {repos repos' : RepoName → Prop} {c : Call C}
    (h : c.Removes client repos) (hsub : ∀ repo, repos repo → repos' repo) :
    c.Removes client repos' := by
  cases c with
  | listHooks => exact ⟨h.1, hsub _ h.2⟩
  | deleteHook => exact ⟨h.1, hsub _ h.2⟩
  | _ => cases h

/-- No call of the first phase deletes a hook. -/
theorem Call.Prepares.isDelete {client : Option C} {spec : HookSpec} {repos : NameSet}
    {c : Call C} (h : c.Prepares client spec repos) : c.isDelete = false := by
  cases c with
  | deleteHook => cases h
  | _ => rfl

/-- No call of the phases goes to the store, but one to forget a service. -/
theorem Call.Prepares.isStore {client : Option C} {spec : HookSpec} {repos : NameSet} {c : Call C}
    (h : c.Prepares client spec repos) : c.isStore = false := by
  cases c with
  | load | save | forget => cases h
  | _ => rfl

theorem Call.Removes.isStore {client : Option C} {repos : RepoName → Prop} {c : Call C}
    (h : c.Removes client repos) : c.isStore = false := by
  cases c with
  | load | save | forget => cases h
  | _ => rfl

/-- The client of the user a service acts as. -/
def Service.client? (credentials : Credentials C) (s : Service) : Option C :=
  credentials.client s.realm s.user

namespace Service

/-- Installing asks for the hook of the service, under the key of the repository. -/
theorem makes_install {repo : String} {repos : NameSet}
    (h : ∀ name, RepoName.parse repo = .ok name → name.key ∈ repos) :
    (new.install client repo).Makes (Call.Prepares (some client) new.hookSpec repos) := by
  unfold install
  split
  · trivial
  · next name hn =>
    refine ⟨⟨rfl, h name hn, rfl⟩, fun reply => ?_⟩
    cases reply with
    | ok => trivial
    | error e => trivial

/-- Uninstalling lists and deletes on the one repository, as the user of the service. -/
theorem makes_uninstall {repo : RepoName} {repos : RepoName → Prop} (h : repos repo) :
    (new.uninstall credentials repo).Makes (Call.Removes (new.client? credentials) repos) := by
  unfold uninstall
  split
  · trivial
  · next client hc =>
    refine ⟨⟨hc, h⟩, fun reply => ?_⟩
    cases reply with
    | error e => trivial
    | ok hooks =>
      dsimp only
      split
      · trivial
      · refine ⟨⟨hc, h⟩, fun reply => ?_⟩
        cases reply with
        | ok => trivial
        | error e => trivial

end Service

namespace Reconcile

/-- The client of a service may be used just when the service names a realm of the right kind and a
user who is signed in there. -/
theorem clientFor_eq_ok_iff : clientFor credentials new = .ok client ↔
    (new.realm ≠ "" ∧ new.user ≠ "") ∧ credentials.realmType new.realm = some githubRealm ∧
      new.client? credentials = some client := by
  have hnamed : (new.realm.isEmpty || new.user.isEmpty) = true ↔
      ¬(new.realm ≠ "" ∧ new.user ≠ "") := by
    rw [Bool.or_eq_true, String.isEmpty_iff, String.isEmpty_iff, Classical.not_and_iff_not_or_not,
      Classical.not_not, Classical.not_not]
  unfold clientFor
  split
  · next h => exact iff_of_false (fun hk => nomatch hk) fun hk => hnamed.mp h hk.1
  · next h =>
    rw [hnamed, Classical.not_not] at h
    rw [and_iff_right h, Service.client?]
    rcases credentials.realmType new.realm with _ | kind
    · exact iff_of_false (fun hk => nomatch hk) fun hk => nomatch hk.1
    · by_cases hkind : kind = githubRealm
      · subst hkind
        rcases credentials.client new.realm new.user with _ | c
        · simp
        · simp
      · simp [hkind]

/-- The client of a service is one that the credentials hand out. -/
theorem client_of_clientFor (h : clientFor credentials new = .ok client) :
    new.client? credentials = some client :=
  (clientFor_eq_ok_iff.mp h).2.2

/-- A repository that is gained is one that is needed now and was not before. -/
theorem mem_added {repo : String} :
    repo ∈ (change new old).added ↔ repo ∈ new.repos ∧ repo ∉ Service.reposOf old :=
  NameSet.mem_diff

/-- A repository that is lost is one that was needed before and is not now. -/
theorem mem_removed {repo : String} :
    repo ∈ (change new old).removed ↔ repo ∈ Service.reposOf old ∧ repo ∉ new.repos :=
  NameSet.mem_diff

/-- A repository of a service that may be absent can be read as a name, whose key it is. -/
theorem exists_name_of_mem_reposOf {repo : String} (h : repo ∈ Service.reposOf old) :
    ∃ name, RepoName.parse repo = .ok name ∧ name.key = repo := by
  cases old with
  | none => cases h
  | some s => exact Service.exists_name_of_mem_repos h

theorem makes_installAll {repos : NameSet} {list : List String} (report : Prepared)
    (h : ∀ repo ∈ list, ∀ name, RepoName.parse repo = .ok name → name.key ∈ repos) :
    (installAll new client report list).Makes (Call.Prepares (some client) new.hookSpec repos) := by
  induction list generalizing report with
  | nil => trivial
  | cons repo rest ih =>
    have hrest := fun r hr => h r (List.mem_cons_of_mem _ hr)
    refine makes_onSuccess (Service.makes_install (h repo List.mem_cons_self)) fun i => ?_
    cases i with
    | created => exact ih _ hrest
    | alreadyThere => exact ih _ hrest

theorem makes_joinAll {P : Call C → Prop} (hP : ∀ room, P (.join room)) (report : Prepared)
    (rooms : List String) : (joinAll report rooms).Makes P := by
  induction rooms generalizing report with
  | nil => trivial
  | cons room rest ih =>
    refine ⟨hP room, fun reply => ?_⟩
    cases reply with
    | ok => exact ih _
    | error e => trivial

/-- A member of the repositories gained has its own name as a key. -/
theorem key_mem_added {repo : String} (h : repo ∈ (change new old).added) (name : RepoName)
    (hn : RepoName.parse repo = .ok name) : name.key ∈ (change new old).added := by
  obtain ⟨name', hn', hk⟩ := Service.exists_name_of_mem_repos (mem_added.mp h).1
  obtain rfl : name' = name := by
    rw [hn'] at hn
    exact Except.ok.inj hn
  rwa [hk]

/-! ## The first phase -/

/-- Where a run of the first phase can end. -/
inductive Prepares (conduct : Conduct C σ) (credentials : Credentials C) (new : Service)
    (old : Option Service) (s : σ) :
    List (Exchange C) → Except Failure Prepared → σ → Prop where
  /-- the declaration is turned away, and no call is made -/
  | refused {e : Failure} (hp : prepare credentials new old = .done (.error e)) :
      Prepares conduct credentials new old s [] (.error e) s
  /-- a hook cannot be installed -/
  | notInstalled {client : C} {e : Failure} {trace : List (Exchange C)} {s' : σ}
      (hclient : clientFor credentials new = .ok client)
      (hi : Runs conduct (installAll new client { pending := (change new old).removed.toList }
        (change new old).added.toList) s trace (.error e) s') :
      Prepares conduct credentials new old s trace (.error e) s'
  /-- the hooks are there, and the rooms are joined or one of them is not -/
  | installed {client : C} {report : Prepared} {r : Except Failure Prepared}
      {before after : List (Exchange C)} {s₁ s' : σ}
      (hclient : clientFor credentials new = .ok client)
      (hi : Runs conduct (installAll new client { pending := (change new old).removed.toList }
        (change new old).added.toList) s before (.ok report) s₁)
      (hj : Runs conduct (joinAll report new.rooms.keys) s₁ after r s') :
      Prepares conduct credentials new old s (before ++ after) r s'

theorem runs_prepare {r : Except Failure Prepared}
    (hr : Runs conduct (prepare credentials new old) s trace r s') :
    Prepares conduct credentials new old s trace r s' := by
  rcases hclient : clientFor credentials new with e | client
  · have hp : prepare credentials new old = .done (.error e) := by simp only [prepare, hclient]
    rw [hp] at hr
    obtain ⟨rfl, rfl, rfl⟩ := runs_done.mp hr
    exact .refused hp
  · by_cases hnone : (new.repos.isEmpty && (change new old).removed.isEmpty) = true
    · have hp : prepare credentials new old =
          .done (.error (.misconfigured "No webhooks specified")) := by
        simp only [prepare, hclient]
        exact if_pos hnone
      rw [hp] at hr
      obtain ⟨rfl, rfl, rfl⟩ := runs_done.mp hr
      exact .refused hp
    · simp only [prepare, hclient] at hr
      rw [if_neg hnone] at hr
      rcases runs_onSuccess.mp hr with ⟨e, rfl, hi⟩ | ⟨before, report, s₁, after, hi, hj, rfl⟩
      · exact .notInstalled hclient hi
      · exact .installed hclient hi hj

/-- The first phase joins rooms and creates the hook of the service on repositories that are
gained. -/
theorem makes_prepare :
    (prepare credentials new old).Makes
      (Call.Prepares (new.client? credentials) new.hookSpec (change new old).added) := by
  unfold prepare
  split
  · trivial
  · next client hclient =>
    rw [client_of_clientFor hclient]
    dsimp only
    split
    · trivial
    · exact makes_onSuccess (makes_installAll _ fun repo hm => key_mem_added hm) fun report =>
        makes_joinAll (fun room => trivial) _ _

/-! ## The second phase -/

theorem makes_uninstallAll {P : Call C → Prop} {list : List String} (done : List Removal)
    (h : ∀ repo ∈ list, ∀ name, RepoName.parse repo = .ok name →
      (new.uninstall credentials name).Makes P) :
    (uninstallAll credentials new done list).Makes P := by
  induction list generalizing done with
  | nil => trivial
  | cons repo rest ih =>
    refine makes_bind ?_ fun result => ih _ fun r hr => h r (List.mem_cons_of_mem _ hr)
    unfold uninstallNamed
    split
    · next name hn => exact h repo List.mem_cons_self name hn
    · trivial

/-- Of the repositories that are lost, hooks are looked for and taken off there alone. -/
theorem makes_uninstall_removed (new : Service) (old : Option Service) (done : List Removal) :
    (uninstallAll credentials new done (change new old).removed.toList).Makes
      (Call.Removes (new.client? credentials) fun repo => repo.key ∈ (change new old).removed) := by
  refine makes_uninstallAll _ fun repo hm name hn => Service.makes_uninstall ?_
  obtain ⟨name', hn', hk⟩ := exists_name_of_mem_reposOf (mem_removed.mp hm).1
  obtain rfl : name' = name := Except.ok.inj (hn'.symm.trans hn)
  rwa [hk]

/-- The second phase looks for hooks and takes them off on repositories that are lost, and forgets
the service if it needs no repository. -/
theorem makes_settle :
    (settle credentials new old).Makes fun c =>
      c.Removes (new.client? credentials) (fun repo => repo.key ∈ (change new old).removed) ∨
        c = .forget new.id ∧ new.repos.isEmpty = true := by
  refine makes_bind ((makes_uninstall_removed new old []).mono fun c h => .inl h) fun removals => ?_
  split
  · next he => exact ⟨.inr ⟨rfl, he⟩, fun reply => trivial⟩
  · trivial

end Reconcile

/-! ### One hook -/

namespace Service

/-- Where a run of uninstalling can end. -/
inductive Uninstalls (conduct : Conduct C σ) (credentials : Credentials C) (service : Service)
    (repo : RepoName) (s : σ) : List (Exchange C) → Except Failure UInt64 → σ → Prop where
  /-- the user is not signed in, and no call is made -/
  | nobody (hclient : service.client? credentials = none) :
      Uninstalls conduct credentials service repo s []
        (.error (.noSession service.realm service.user)) s
  /-- the hooks cannot be listed -/
  | notListed {client : C} {e : Failure} {s' : σ}
      (hclient : service.client? credentials = some client)
      (hl : conduct (.listHooks client repo) s (.error e) s') :
      Uninstalls conduct credentials service repo s [⟨.listHooks client repo, .error e⟩] (.error e) s'
  /-- none of them is for the service -/
  | notFound {client : C} {hooks : List Hook} {s' : σ}
      (hclient : service.client? credentials = some client)
      (hl : conduct (.listHooks client repo) s (.ok hooks) s')
      (hf : (hooks.find? fun h => h.callbackUrl? = some service.callbackUrl) = none) :
      Uninstalls conduct credentials service repo s [⟨.listHooks client repo, .ok hooks⟩]
        (.error (.hookNotFound repo.fullName service.callbackUrl)) s'
  /-- the first that is for the service is deleted, or it cannot be -/
  | found {client : C} {hooks : List Hook} {hook : Hook} {deleted : Except Failure Unit} {s₁ s' : σ}
      (hclient : service.client? credentials = some client)
      (hl : conduct (.listHooks client repo) s (.ok hooks) s₁)
      (hf : (hooks.find? fun h => h.callbackUrl? = some service.callbackUrl) = some hook)
      (hd : conduct (.deleteHook client repo hook.id) s₁ deleted s') :
      Uninstalls conduct credentials service repo s
        [⟨.listHooks client repo, .ok hooks⟩, ⟨.deleteHook client repo hook.id, deleted⟩]
        (deleted.map fun _ => hook.id) s'

theorem runs_uninstall {repo : RepoName} {result : Except Failure UInt64}
    (hr : Runs conduct (new.uninstall credentials repo) s trace result s') :
    Uninstalls conduct credentials new repo s trace result s' := by
  rcases hclient : new.client? credentials with _ | client
  · have hcred := hclient
    rw [client?] at hcred
    rw [uninstall, hcred] at hr
    obtain ⟨rfl, rfl, rfl⟩ := runs_done.mp hr
    exact .nobody hclient
  · have hcred := hclient
    rw [client?] at hcred
    rw [uninstall, hcred] at hr
    obtain ⟨listed, s₁, rest, hl, hn, rfl⟩ := runs_call.mp hr
    rcases listed with e | hooks
    · obtain ⟨rfl, rfl, rfl⟩ := runs_done.mp hn
      exact .notListed hclient hl
    · rcases hf : hooks.find? fun h => h.callbackUrl? = some new.callbackUrl with _ | hook
      · simp only [hf] at hn
        obtain ⟨rfl, rfl, rfl⟩ := runs_done.mp hn
        exact .notFound hclient hl hf
      · simp only [hf] at hn
        obtain ⟨deleted, s₂, last, hd, hend, rfl⟩ := runs_call.mp hn
        rcases deleted with e | ⟨⟩
        · obtain ⟨rfl, rfl, rfl⟩ := runs_done.mp hend
          exact .found hclient hl hf hd
        · obtain ⟨rfl, rfl, rfl⟩ := runs_done.mp hend
          exact .found hclient hl hf hd

end Service

/-! ## A declaration -/

namespace Service

open Reconcile

/-- Where a run of a declaration can end. -/
inductive Configures (conduct : Conduct C σ) (credentials : Credentials C) (new : Service) (s : σ) :
    List (Exchange C) → Except Failure Configured → σ → Prop where
  /-- what is stored cannot be looked up -/
  | notLoaded {e : Failure} {s' : σ} (hl : conduct (.load new.id) s (.error e) s') :
      Configures conduct credentials new s [⟨.load new.id, .error e⟩] (.error e) s'
  /-- the first phase fails -/
  | notPrepared {old : Option Service} {e : Failure} {phase : List (Exchange C)} {s₁ s' : σ}
      (hl : conduct (.load new.id) s (.ok old) s₁)
      (hp : Runs conduct (prepare credentials new old) s₁ phase (.error e) s') :
      Configures conduct credentials new s (⟨.load new.id, .ok old⟩ :: phase) (.error e) s'
  /-- the declaration cannot be stored -/
  | notSaved {old : Option Service} {prepared : Prepared} {e : Failure}
      {phase : List (Exchange C)} {s₁ s₂ s' : σ}
      (hl : conduct (.load new.id) s (.ok old) s₁)
      (hp : Runs conduct (prepare credentials new old) s₁ phase (.ok prepared) s₂)
      (hs : conduct (.save new) s₂ (.error e) s') :
      Configures conduct credentials new s
        (⟨.load new.id, .ok old⟩ :: (phase ++ [⟨.save new, .error e⟩])) (.error e) s'
  /-- the declaration takes effect, and the second phase runs -/
  | settled {old : Option Service} {prepared : Prepared} {settled : Settled}
      {phase last : List (Exchange C)} {s₁ s₂ s₃ s' : σ}
      (hl : conduct (.load new.id) s (.ok old) s₁)
      (hp : Runs conduct (prepare credentials new old) s₁ phase (.ok prepared) s₂)
      (hs : conduct (.save new) s₂ (.ok ()) s₃)
      (ht : Runs conduct (settle credentials new old) s₃ last settled s') :
      Configures conduct credentials new s
        (⟨.load new.id, .ok old⟩ :: (phase ++ ⟨.save new, .ok ()⟩ :: last))
        (.ok ⟨old, new, prepared, settled⟩) s'

theorem runs_configure {r : Except Failure Configured}
    (hr : Runs conduct (new.configure credentials) s trace r s') :
    Configures conduct credentials new s trace r s' := by
  obtain ⟨loaded, s₁, rest, hl, hn, rfl⟩ := runs_call.mp hr
  cases loaded with
  | error e =>
    obtain ⟨rfl, rfl, rfl⟩ := runs_done.mp hn
    exact .notLoaded hl
  | ok old =>
    rcases runs_onSuccess.mp hn with ⟨e, rfl, hp⟩ | ⟨phase, prepared, s₂, after, hp, hn', rfl⟩
    · exact .notPrepared hl hp
    · obtain ⟨saved, s₃, last, hs, ht, rfl⟩ := runs_call.mp hn'
      cases saved with
      | error e =>
        obtain ⟨rfl, rfl, rfl⟩ := runs_done.mp ht
        exact .notSaved hl hp hs
      | ok u =>
        obtain ⟨before, settled, s₄, after, ht, hd, rfl⟩ := runs_bind.mp ht
        obtain ⟨rfl, rfl, rfl⟩ := runs_done.mp hd
        rw [List.append_nil]
        exact .settled hl hp hs ht

end Service

/-! ### The calls of a declaration -/

/-- A call of a declaration: its service is looked up, stored or forgotten, a room is joined, its
hook is created where the service needs it, or looked for and taken off elsewhere. -/
def Call.Declares (credentials : Credentials C) (new : Service) : Call C → Prop
  | load id | forget id => id = new.id
  | save service => service = new
  | join _ => True
  | createHook client repo spec =>
    new.client? credentials = some client ∧ repo.key ∈ new.repos ∧ spec = new.hookSpec
  | listHooks client repo | deleteHook client repo _ =>
    new.client? credentials = some client ∧ repo.key ∉ new.repos
  | send .. => False

theorem Call.Prepares.declares {c : Call C}
    (h : c.Prepares (new.client? credentials) new.hookSpec (Reconcile.change new old).added) :
    c.Declares credentials new := by
  cases c with
  | join => trivial
  | createHook => exact ⟨h.1, (Reconcile.mem_added.mp h.2.1).1, h.2.2⟩
  | _ => cases h

theorem Call.Removes.declares {c : Call C}
    (h : c.Removes (new.client? credentials) fun repo =>
      repo.key ∈ (Reconcile.change new old).removed) : c.Declares credentials new := by
  cases c with
  | listHooks => exact ⟨h.1, (Reconcile.mem_removed.mp h.2).2⟩
  | deleteHook => exact ⟨h.1, (Reconcile.mem_removed.mp h.2).2⟩
  | _ => cases h

theorem Service.makes_configure :
    (new.configure credentials).Makes (Call.Declares credentials new) := by
  refine ⟨rfl, fun loaded => ?_⟩
  rcases loaded with e | old
  · trivial
  · refine makes_onSuccess (Reconcile.makes_prepare.mono fun c hc => hc.declares) fun prepared => ?_
    refine ⟨rfl, fun saved => ?_⟩
    rcases saved with e | u
    · trivial
    · refine makes_bind (Reconcile.makes_settle.mono fun c hc => ?_) fun settled => trivial
      rcases hc with hc | ⟨rfl, -⟩
      · exact hc.declares
      · rfl

/-! ## Failures -/

/-- Installing fails only if creating the hook does. -/
theorem Service.exists_failed_of_install_error {repo : String} {name : RepoName} {e : Failure}
    (hr : Runs conduct (new.install client repo) s trace (.error e) s')
    (hn : RepoName.parse repo = .ok name) : ∃ x ∈ trace, x.Failed := by
  simp only [install, hn] at hr
  obtain ⟨reply, s₁, rest, hc, hd, rfl⟩ := runs_call.mp hr
  rcases reply with f | hook
  · obtain ⟨-, he, -⟩ := runs_done.mp hd
    refine ⟨_, List.mem_cons_self, fun hx => ?_⟩
    rw [if_pos hx.2] at he
    cases he
  · obtain ⟨-, he, -⟩ := runs_done.mp hd
    cases he

namespace Reconcile

theorem exists_failed_of_installAll_error {report : Prepared} {list : List String} {e : Failure}
    (hr : Runs conduct (installAll new client report list) s trace (.error e) s')
    (h : ∀ repo ∈ list, ∃ name, RepoName.parse repo = .ok name) : ∃ x ∈ trace, x.Failed := by
  induction list generalizing report s trace with
  | nil =>
    obtain ⟨-, he, -⟩ := runs_done.mp hr
    cases he
  | cons repo rest ih =>
    rcases runs_onSuccess.mp hr with ⟨e', -, hi⟩ | ⟨before, i, s₁, after, hi, hn, rfl⟩
    · obtain ⟨name, hname⟩ := h repo List.mem_cons_self
      exact Service.exists_failed_of_install_error hi hname
    · have hrest := fun r hr => h r (List.mem_cons_of_mem _ hr)
      obtain ⟨x, hx, hf⟩ : ∃ x ∈ after, x.Failed := by
        cases i with
        | created => exact ih hn hrest
        | alreadyThere => exact ih hn hrest
      exact ⟨x, List.mem_append_right _ hx, hf⟩

theorem exists_failed_of_joinAll_error {report : Prepared} {rooms : List String} {e : Failure}
    (hr : Runs conduct (joinAll report rooms) s trace (.error e) s') : ∃ x ∈ trace, x.Failed := by
  induction rooms generalizing report s trace with
  | nil =>
    obtain ⟨-, he, -⟩ := runs_done.mp hr
    cases he
  | cons room rest ih =>
    obtain ⟨reply, s₁, after, hc, hn, rfl⟩ := runs_call.mp hr
    rcases reply with f | u
    · exact ⟨_, List.mem_cons_self, fun hx => Bool.false_ne_true hx.1⟩
    · obtain ⟨x, hx, hf⟩ := ih hn
      exact ⟨x, List.mem_cons_of_mem _ hx, hf⟩

/-- The first phase fails only if a call does, or before any call is made. -/
theorem failed_or_refused_of_prepare_error {e : Failure}
    (hr : Runs conduct (prepare credentials new old) s trace (.error e) s') :
    (∃ x ∈ trace, x.Failed) ∨ (s' = s ∧ prepare credentials new old = .done (.error e)) := by
  cases runs_prepare hr with
  | refused hp => exact .inr ⟨rfl, hp⟩
  | notInstalled hclient hi =>
    refine .inl (exists_failed_of_installAll_error hi fun repo hm => ?_)
    obtain ⟨name, hn, -⟩ := Service.exists_name_of_mem_repos (mem_added.mp hm).1
    exact ⟨name, hn⟩
  | installed hclient hi hj =>
    obtain ⟨x, hx, hf⟩ := exists_failed_of_joinAll_error hj
    exact .inl ⟨x, List.mem_append_right _ hx, hf⟩

/-- When installing succeeds, the report names the repositories besides those it named before. -/
theorem mem_of_installAll_ok {report prepared : Prepared} {list : List String}
    (hr : Runs conduct (installAll new client report list) s trace (.ok prepared) s')
    (repo : String) : repo ∈ prepared.created ++ prepared.alreadyThere ↔
      repo ∈ report.created ++ report.alreadyThere ∨ repo ∈ list := by
  induction list generalizing report s trace with
  | nil =>
    obtain ⟨-, he, -⟩ := runs_done.mp hr
    cases he
    simp
  | cons r rest ih =>
    rcases runs_onSuccess.mp hr with ⟨e, he, -⟩ | ⟨before, i, s₁, after, hi, hn, rfl⟩
    · cases he
    · cases i with
      | created =>
        rw [ih hn]
        simp only [List.mem_append, List.mem_cons, List.not_mem_nil]
        grind
      | alreadyThere =>
        rw [ih hn]
        simp only [List.mem_append, List.mem_cons, List.not_mem_nil]
        grind

theorem mem_of_joinAll_ok {report prepared : Prepared} {rooms : List String}
    (hr : Runs conduct (joinAll report rooms) s trace (.ok prepared) s') :
    prepared.created = report.created ∧ prepared.alreadyThere = report.alreadyThere := by
  induction rooms generalizing report s trace with
  | nil =>
    obtain ⟨-, he, -⟩ := runs_done.mp hr
    cases he
    exact ⟨rfl, rfl⟩
  | cons room rest ih =>
    obtain ⟨reply, s₁, after, hc, hn, rfl⟩ := runs_call.mp hr
    rcases reply with e | u
    · obtain ⟨-, he, -⟩ := runs_done.mp hn
      cases he
    · obtain ⟨hcreated, hthere⟩ := ih hn
      exact ⟨hcreated, hthere⟩

/-- When the first phase succeeds, its report names the repositories that are gained. -/
theorem mem_of_prepare_ok {prepared : Prepared}
    (hr : Runs conduct (prepare credentials new old) s trace (.ok prepared) s') (repo : String) :
    repo ∈ prepared.created ++ prepared.alreadyThere ↔ repo ∈ (change new old).added := by
  cases runs_prepare hr with
  | installed hclient hi hj =>
    obtain ⟨hcreated, hthere⟩ := mem_of_joinAll_ok hj
    rw [hcreated, hthere, mem_of_installAll_ok hi]
    simp [NameSet.mem_def]

/-- Only with a client that may be used does the first phase succeed. -/
theorem exists_clientFor_of_prepare_ok {prepared : Prepared}
    (hr : Runs conduct (prepare credentials new old) s trace (.ok prepared) s') :
    ∃ client, clientFor credentials new = .ok client := by
  cases runs_prepare hr with
  | installed hclient => exact ⟨_, hclient⟩

theorem exists_client_of_prepare_ok {prepared : Prepared}
    (hr : Runs conduct (prepare credentials new old) s trace (.ok prepared) s') :
    ∃ client, new.client? credentials = some client :=
  (exists_clientFor_of_prepare_ok hr).imp fun _ => client_of_clientFor

end Reconcile

end WebhookRelay
