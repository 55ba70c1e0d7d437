import WebhookRelay.Proofs.Delivery.Subscription
import WebhookRelay.Proofs.Sync.Stages
import WebhookRelay.Proofs.Sync.Teardown

/-!
# What a declaration accounts for

A declaration that takes effect reports what became of every repository that it gained or lost and of
every room, and each of them is reported once: the repositories that are gained are shared out between
those on which the hook was created and those that had it, and in the response those that are lost
between those that it was taken off and those where that failed (`NameSet.SharedOut`).

The record of its calls tells the same (`Http.Accounted`): one hook is asked for on each repository
that is gained, the hooks of each one that is lost are listed once, and on no other repository is
anything done.
-/

namespace WebhookRelay

open Program Memory

variable {C σ : Type} {conduct : Conduct C σ} {credentials : Credentials C} {client : C}
  {new : Service} {old : Option Service} {s s' : σ} {trace : List (Exchange C)}

/-! ## Sharing out -/

/-- Two lists share out a set: each member is in one of them, once, and nothing else is. -/
structure NameSet.SharedOut (whole : NameSet) (l l' : List String) : Prop where
  nodup_left : l.Nodup
  nodup_right : l'.Nodup
  disjoint : l.Disjoint l'
  together : ∀ name, name ∈ whole ↔ name ∈ l ∨ name ∈ l'

theorem NameSet.SharedOut.of_perm {whole : NameSet} {l l' : List String}
    (h : (l ++ l').Perm whole.toList) : whole.SharedOut l l' := by
  obtain ⟨hl, hl', hne⟩ := List.nodup_append.mp (h.nodup_iff.mpr whole.nodup)
  refine ⟨hl, hl', fun name hm hm' => hne name hm name hm' rfl, fun name => ?_⟩
  rw [NameSet.mem_def, ← h.mem_iff, List.mem_append]

/-! ## What is on record -/

/-- The repository that a call asks for a hook on, and the client that asks. -/
def Call.created? : Call C → Option (C × String)
  | createHook client repo _ => some (client, repo.fullName)
  | _ => none

/-- The repository that a call deletes a hook from, and the client that does it. -/
def Call.deleted? : Call C → Option (C × String)
  | deleteHook client repo _ => some (client, repo.fullName)
  | _ => none

/-- The first phase lists nothing and deletes nothing. -/
theorem Call.Prepares.removes_nothing {client : Option C} {spec : HookSpec} {repos : NameSet}
    {c : Call C} (h : c.Prepares client spec repos) : c.listed? = none ∧ c.deleted? = none := by
  cases c with
  | listHooks | deleteHook => cases h
  | _ => exact ⟨rfl, rfl⟩

/-- The second one creates nothing. -/
theorem Call.Removes.creates_nothing {client : Option C} {repos : RepoName → Prop} {c : Call C}
    (h : c.Removes client repos) : c.created? = none := by
  cases c with
  | createHook => cases h
  | _ => rfl

theorem Call.Prepares.target {client : Option C} {spec : HookSpec} {repos : NameSet} {c : Call C}
    {repo : RepoName} (h : c.Prepares client spec repos) (ht : c.target? = some repo) :
    repo.key ∈ repos := by
  cases c with
  | createHook => exact Option.some.inj ht ▸ h.2.1
  | listHooks | deleteHook => cases h
  | _ => cases ht

theorem Exchange.Puts.created?_eq {spec : HookSpec} {e : String × Installed} {x : Exchange C}
    (h : x.Puts client spec e) : x.call.created? = some (client, e.1) := by
  cases h with
  | created hn | alreadyThere hn => rw [← RepoName.fullName_of_parse hn, Call.created?]

/-- Each exchange that puts a hook on a repository asks for one there. -/
theorem created_of_puts {spec : HookSpec} {log : List (String × Installed)}
    (h : List.Forall₂ (Exchange.Puts client spec) log trace) :
    trace.filterMap (·.call.created?) = (log.map Prod.fst).map (client, ·) := by
  induction h with
  | nil => rfl
  | cons hx _ ih =>
    simp only [List.filterMap_cons, hx.created?_eq, ih, List.map_cons]

namespace Service

/-- Uninstalling deletes from the repository once at most. -/
theorem deleted_uninstall {repo : RepoName} {result : Except Failure UInt64}
    (hr : Runs conduct (new.uninstall credentials repo) s trace result s')
    (hclient : new.client? credentials = some client) :
    (trace.filterMap (·.call.deleted?)).Sublist [(client, repo.fullName)] := by
  cases runs_uninstall hr with
  | nobody hnone => cases hnone.symm.trans hclient
  | notListed | notFound => exact List.nil_sublist _
  | found hc =>
    obtain rfl := Option.some.inj (hc.symm.trans hclient)
    exact .refl _

end Service

namespace Reconcile

/-- The second phase deletes from each repository that is lost once at most, in order. -/
theorem deleted_uninstallAll {done removals : List Removal} {list : List String}
    (hr : Runs conduct (uninstallAll credentials new done list) s trace removals s')
    (hclient : new.client? credentials = some client)
    (hlist : ∀ repo ∈ list, ∃ name, RepoName.parse repo = .ok name) :
    (trace.filterMap (·.call.deleted?)).Sublist (list.map (client, ·)) := by
  induction list generalizing done s trace with
  | nil =>
    obtain ⟨rfl, -, -⟩ := runs_done.mp hr
    exact .refl _
  | cons repo rest ih =>
    obtain ⟨before, result, s₁, after, hu, hn, rfl⟩ := runs_bind.mp hr
    obtain ⟨name, hname⟩ := hlist repo List.mem_cons_self
    simp only [uninstallNamed, hname] at hu
    have hhere := Service.deleted_uninstall hu hclient
    rw [RepoName.fullName_of_parse hname] at hhere
    rw [List.filterMap_append]
    exact hhere.append (ih hn fun r hm => hlist r (List.mem_cons_of_mem _ hm))

/-- Every hook came there in one of the two ways. -/
theorem cameBy_perm (log : List (String × Installed)) :
    (cameBy .created log ++ cameBy .alreadyThere log).Perm (log.map Prod.fst) := by
  have hother : log.filter (·.2 = .alreadyThere) = log.filter fun e => !decide (e.2 = .created) := by
    refine List.filter_congr fun e _ => ?_
    cases e.2 <;> rfl
  rw [cameBy, cameBy, ← List.map_append, hother]
  exact (List.filter_append_perm _ log).map _

/-- A removal succeeded or failed. -/
theorem Settled.removed_append_failed_perm (settled : Settled) :
    (settled.removed ++ settled.failed).Perm (settled.removals.map (·.repo)) := by
  rw [removed, failed, ← List.map_append]
  exact (List.filter_append_perm _ _).map _

/-- What the second phase has on record. -/
theorem recorded_settle {settled : Settled}
    (hr : Runs conduct (settle credentials new old) s trace settled s')
    (hclient : new.client? credentials = some client) :
    settled.removals.map (·.repo) = (change new old).removed.toList ∧
      trace.filterMap (·.call.created?) = [] ∧
      trace.filterMap (·.call.listed?) = (change new old).removed.toList.map (client, ·) ∧
      (trace.filterMap (·.call.deleted?)).Sublist
        ((change new old).removed.toList.map (client, ·)) := by
  obtain ⟨before, s₁, after, hu, rfl, hlast⟩ := runs_settle hr
  have hnames : ∀ repo ∈ (change new old).removed.toList, ∃ name, RepoName.parse repo = .ok name :=
    fun repo hm => (exists_name_of_mem_reposOf (mem_removed.mp hm).1).imp fun _ hn => hn.1
  have hcreated : before.filterMap (·.call.created?) = [] :=
    List.filterMap_eq_nil_iff.mpr fun x hx =>
      (hu.mem_makes (makes_uninstall_removed new old []) x hx).creates_nothing
  -- forgetting a service asks no provider
  have hafter : ∀ f : Call C → Option (C × String), f (.forget new.id) = none →
      (before ++ after).filterMap (f ·.call) = before.filterMap (f ·.call) := by
    rintro f hf
    rcases hlast with ⟨-, -, rfl, -⟩ | ⟨-, reply, -, -, rfl⟩
    · rw [List.append_nil]
    · simp only [List.filterMap_append, List.filterMap_cons, hf, List.filterMap_nil, List.append_nil]
  rw [hafter Call.created? rfl, hafter Call.listed? rfl, hafter Call.deleted? rfl]
  exact ⟨removals_uninstallAll hu, hcreated, listed_uninstallAll hu hclient hnames,
    deleted_uninstallAll hu hclient hnames⟩

/-- What the first phase reports and has on record when it succeeds. -/
theorem recorded_prepare {prepared : Prepared}
    (hr : Runs conduct (prepare credentials new old) s trace (.ok prepared) s')
    (hclient : new.client? credentials = some client) :
    (prepared.created ++ prepared.alreadyThere).Perm (change new old).added.toList ∧
      prepared.joined = new.rooms.keys ∧ prepared.pending = (change new old).removed.toList ∧
      trace.filterMap (·.call.created?) = (change new old).added.toList.map (client, ·) ∧
      trace.filterMap (·.call.listed?) = [] ∧ trace.filterMap (·.call.deleted?) = [] := by
  have hfit : ¬Unfit credentials new old := by
    intro h
    obtain ⟨e, he⟩ := prepare_of_unfit h
    rw [he] at hr
    cases (runs_done.mp hr).2.1
  have hprepares := hr.mem_makes makes_prepare
  have hlisted : trace.filterMap (·.call.listed?) = [] :=
    List.filterMap_eq_nil_iff.mpr fun x hx => (hprepares x hx).removes_nothing.1
  have hdeleted : trace.filterMap (·.call.deleted?) = [] :=
    List.filterMap_eq_nil_iff.mpr fun x hx => (hprepares x hx).removes_nothing.2
  obtain ⟨client', hclient', hstages⟩ := stages_of_not_unfit hr hfit
  obtain rfl := Option.some.inj (hclient'.symm.trans hclient)
  cases hstages with
  | @prepared log before hrepos hput =>
    have hjoins : (new.rooms.keys.map joining : List (Exchange C)).filterMap (·.call.created?) = [] :=
      List.filterMap_eq_nil_iff.mpr fun x hx => by
        obtain ⟨room, -, rfl⟩ := List.mem_map.mp hx
        rfl
    refine ⟨hrepos ▸ cameBy_perm log, rfl, rfl, ?_, hlisted, hdeleted⟩
    rw [List.filterMap_append, hjoins, List.append_nil, created_of_puts hput, hrepos]

end Reconcile

/-! ## A declaration -/

namespace Http

/-- A member of the object in a response. -/
def Response.member? (r : Response) (name : String) : Option Json.Value :=
  match r.json with
  | some (.object members) => Entries.find? name members
  | _ => none

/-- Whether everything that a declaration gained, lost or kept is accounted for: in what is reported
of it, in the record of its calls and in the response. -/
structure Accounted (client : C) (c : Configured) (trace : List (Exchange C)) : Prop where
  /-- what was declared before is what the store knew -/
  old : ⟨.load c.new.id, .ok c.old⟩ ∈ trace
  /-- on what is gained the hook was created, or it was there -/
  gained : (c.new.repos.diff (Service.reposOf c.old)).SharedOut c.prepared.created
    c.prepared.alreadyThere
  /-- what is lost was left to the second phase -/
  pending : c.prepared.pending = ((Service.reposOf c.old).diff c.new.repos).toList
  /-- which took it up -/
  removals : c.settled.removals.map (·.repo) = ((Service.reposOf c.old).diff c.new.repos).toList
  /-- each room was joined, once -/
  joined : c.prepared.joined = c.new.rooms.keys ∧ c.prepared.joined.Nodup
  /-- one hook was asked for on each repository that is gained -/
  creates : trace.filterMap (·.call.created?) =
    (c.new.repos.diff (Service.reposOf c.old)).toList.map (client, ·)
  /-- the hooks of each one that is lost were listed once -/
  lists : trace.filterMap (·.call.listed?) =
    ((Service.reposOf c.old).diff c.new.repos).toList.map (client, ·)
  /-- and one was deleted at most -/
  deletes : (trace.filterMap (·.call.deleted?)).Sublist
    (((Service.reposOf c.old).diff c.new.repos).toList.map (client, ·))
  /-- about what is kept nobody was asked -/
  kept : ∀ x ∈ trace, ∀ repo, x.call.target? = some repo →
    ¬(repo.key ∈ c.new.repos ∧ repo.key ∈ Service.reposOf c.old)
  /-- in the response what is lost is what was taken off and what could not be -/
  responded : ∃ removed failed, (configured c).member? "removed" = some (.texts removed) ∧
    (configured c).member? "failed_removals" = some (.texts failed) ∧
      ((Service.reposOf c.old).diff c.new.repos).SharedOut removed failed

/-- **A declaration that takes effect accounts for everything once.** Calls may be answered in any
way, and whatever fails in the second phase: the repositories that are gained are shared out between
those on which the hook was created and those that had it, those that are lost are all tried and, in
the response, shared out between the ones it was taken off and the others, and every room was joined.
Of each repository that is gained a provider saw one request for a hook, of each that is lost one for
the hooks there and at most one to delete one, and of one that is kept it saw nothing. -/
theorem accounted_of_configure_ok {c : Configured}
    (hr : Runs conduct (new.configure credentials) s trace (.ok c) s') :
    c.new = new ∧ ∃ client, new.client? credentials = some client ∧ Accounted client c trace := by
  cases Service.runs_configure hr with
  | @settled old prepared settled phase last s₁ s₂ s₃ s' hl hp hs htail =>
    obtain ⟨client, hclient⟩ := Reconcile.exists_client_of_prepare_ok hp
    obtain ⟨hgained, hjoined, hpending, hcreates, hlists, hdeletes⟩ :=
      Reconcile.recorded_prepare hp hclient
    obtain ⟨hremovals, hcreates', hlists', hdeletes'⟩ := Reconcile.recorded_settle htail hclient
    -- looking up and storing ask no provider
    have hphases : ∀ f : Call C → Option (C × String), f (.load new.id) = none →
        f (.save new) = none →
        (⟨.load new.id, .ok old⟩ :: (phase ++ ⟨.save new, .ok ()⟩ :: last)).filterMap (f ·.call) =
          phase.filterMap (f ·.call) ++ last.filterMap (f ·.call) := by
      intro f hload hsave
      simp only [List.filterMap_cons, List.filterMap_append, hload, hsave]
    refine ⟨rfl, client, hclient, List.mem_cons_self, .of_perm hgained, hpending, hremovals,
      ⟨hjoined, hjoined ▸ new.rooms.nodup⟩, ?_, ?_, ?_, fun x hx repo ht hkept => ?_,
      settled.removed, settled.failed, rfl, rfl, ?_⟩
    · rw [hphases Call.created? rfl rfl, hcreates, hcreates', List.append_nil]
      rfl
    · rw [hphases Call.listed? rfl rfl, hlists, hlists', List.nil_append]
      rfl
    · rw [hphases Call.deleted? rfl rfl, hdeletes, List.nil_append]
      exact hdeletes'
    · rcases List.mem_cons.mp hx with rfl | hx
      · cases ht
      rcases List.mem_append.mp hx with hx | hx
      · exact (Reconcile.mem_added.mp ((hp.mem_makes Reconcile.makes_prepare x hx).target ht)).2
          hkept.2
      rcases List.mem_cons.mp hx with rfl | hx
      · cases ht
      rcases htail.mem_makes Reconcile.makes_settle x hx with hremoves | ⟨hforget, -⟩
      · exact (Reconcile.mem_removed.mp (hremoves.target ht)).2 hkept.1
      · rw [hforget] at ht
        cases ht
    · exact .of_perm (hremovals ▸ settled.removed_append_failed_perm)

/-- A world where a service of two repositories is stored, and nothing can be done on one of them. -/
def storedAndBroken : World :=
  { store := (∅ : Table Service).insert "svc" (watching "svc" "u" ["acme/a", "acme/b"])
    providers := (∅ : Table Provider).insert "main" (({} : Provider).fail "acme/a") }

/-- The service loses the one, keeps the other and gains a third. -/
theorem accounted_of_losing : ∃ c trace w',
    Runs (Handler.conduct World.answer)
        ((watching "svc" "u" ["acme/b", "Acme/C"]).configure soleUser) storedAndBroken trace (.ok c)
        w' ∧
      Accounted "main" c trace ∧ c.prepared.created = ["acme/c"] ∧
      c.settled.failed = ["acme/a"] := by
  have hr := runs_run World.answer ((watching "svc" "u" ["acme/b", "Acme/C"]).configure soleUser)
    storedAndBroken
  have hreport : (((watching "svc" "u" ["acme/b", "Acme/C"]).configure soleUser).run World.answer
      storedAndBroken).1.toOption.map (fun c => (c.prepared.created, c.settled.failed)) =
        some (["acme/c"], ["acme/a"]) := by decide
  rcases he : (((watching "svc" "u" ["acme/b", "Acme/C"]).configure soleUser).run World.answer
      storedAndBroken).1 with e | c
  · rw [he] at hreport
    cases hreport
  · rw [he] at hr hreport
    obtain ⟨-, client, hclient, haccounted⟩ := accounted_of_configure_ok hr
    obtain rfl := client_soleUser hclient
    obtain ⟨hcreated, hfailed⟩ := Prod.mk.inj (Option.some.inj hreport)
    exact ⟨c, _, _, hr, haccounted, hcreated, hfailed⟩

end Http

end WebhookRelay
