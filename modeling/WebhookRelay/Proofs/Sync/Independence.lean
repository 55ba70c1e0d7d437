import WebhookRelay.Proofs.Sync.Withdrawal

/-!
# Removals do not depend on each other

The second phase takes the hook off one repository after the other. What becomes of one repository
depends on the hooks there and on what fails, and on nothing else (`Service.uninstall_congr`); and
taking the hook off one leaves the others as they were. So each removal comes to what it would come to
by itself, and in the end just those hooks are gone whose removal succeeded
(`Reconcile.settle_independent`).
-/

namespace WebhookRelay

open Program Memory

variable {credentials : Credentials String} {s new : Service} {old : Option Service}
  {strike : Call String → Option Failure} {w v w' : World} {repo : RepoName}

/-! ## One repository -/

namespace Service

/-- Two worlds look the same on a repository, at the provider of the user of a service. -/
structure SameOn (credentials : Credentials String) (s : Service) (repo : RepoName) (w v : World) :
    Prop where
  hooks : ∀ name, s.client? credentials = some name →
    w.hooksOn name repo.fullName = v.hooksOn name repo.fullName
  fails : ∀ name, s.client? credentials = some name → (w.FailsAt name repo ↔ v.FailsAt name repo)

/-- They still do after a call about this repository. -/
theorem SameOn.answerUnless {c : Call String} (h : SameOn credentials s repo w v)
    (hc : c.Removes (s.client? credentials) (· = repo)) :
    (World.answerUnless strike c w).1 = (World.answerUnless strike c v).1 ∧
      SameOn credentials s repo (World.answerUnless strike c w).2
        (World.answerUnless strike c v).2 := by
  rcases hs : strike c with _ | e
  · rw [World.answerUnless_of_spared hs, World.answerUnless_of_spared hs]
    have hfails : ∀ name, s.client? credentials = some name →
        ((World.answer c w).2.FailsAt name repo ↔ (World.answer c v).2.FailsAt name repo) := by
      intro name hname
      rw [World.FailsAt, World.FailsAt, World.failing_answer, World.failing_answer]
      exact h.fails name hname
    cases c with
    | listHooks name r =>
      obtain ⟨hname, rfl⟩ := hc
      refine ⟨?_, ?_, hfails⟩
      · simp only [World.listHooks_reply, h.hooks name hname, h.fails name hname]
      · intro n hn
        rw [World.hooksOn_answer rfl rfl, World.hooksOn_answer rfl rfl, h.hooks n hn]
    | deleteHook name r id =>
      obtain ⟨hname, rfl⟩ := hc
      refine ⟨?_, ?_, hfails⟩
      · simp only [World.deleteHook_reply, h.hooks name hname, h.fails name hname]
      · intro n hn
        simp only [World.hooksOn_deleteHook, h.hooks n hn, h.fails name hname]
    | _ => cases hc
  · rw [World.answerUnless_of_struck hs, World.answerUnless_of_struck hs]
    exact ⟨rfl, h⟩

/-- So taking the hook off the repository comes to the same in both. -/
theorem uninstall_congr (h : SameOn credentials s repo w v) :
    ((s.uninstall credentials repo).run (World.answerUnless strike) w).1 =
      ((s.uninstall credentials repo).run (World.answerUnless strike) v).1 := by
  have hmakes : (s.uninstall credentials repo).Makes
      (Call.Removes (s.client? credentials) (· = repo)) := makes_uninstall rfl
  exact (run_congr (fun _ _ _ hc h => h.answerUnless hc) hmakes h).2.1

/-- At the provider of the user of a service, no number stands twice on one repository. -/
def Distinct (credentials : Credentials String) (s : Service) (w : World) : Prop :=
  ∀ name, s.client? credentials = some name → ∀ r, ((w.hooksOn name r).map (·.id)).Nodup

/-- The first hook for the service is gone from the repository if the removal succeeds, and no other
hook is. -/
theorem hooksOn_uninstall {trace : List (Exchange String)} {result : Except Failure UInt64}
    (hr : Runs (Hazard.planned strike).Conduct (s.uninstall credentials repo) w trace result w')
    (hn : s.Distinct credentials w) (n r : String) :
    w'.hooksOn n r =
      if s.client? credentials = some n ∧ Text.asciiLower r = repo.key ∧ result.isOk = true then
        (w.hooksOn n r).eraseP (Hook.reportsTo s.callbackUrl)
      else w.hooksOn n r := by
  rcases hclient : s.client? credentials with _ | name
  · cases runs_uninstall hr with
    | nobody => rfl
    | notListed hc | notFound hc | found hc => cases hclient.symm.trans hc
  · simp only [Option.some_inj]
    cases withdraws_of_runs hr hclient (hn name hclient _) with
    | taken _ hhooks => simp only [hhooks, Except.isOk, Except.toBool, and_true]
    | missing _ hhooks => rw [hhooks, if_neg fun h => Bool.false_ne_true h.2.2]
    | failed _ _ _ hhooks => rw [hhooks, if_neg fun h => Bool.false_ne_true h.2.2]

/-- The number that is told is that of the first hook for the service. -/
theorem head?_own_of_uninstall {trace : List (Exchange String)} {result : Except Failure UInt64}
    {id : UInt64}
    (hr : Runs (Hazard.planned strike).Conduct (s.uninstall credentials repo) w trace result w')
    (hn : s.Distinct credentials w) (hresult : result = .ok id) :
    ∃ name, s.client? credentials = some name ∧
      (s.own (w.hooksOn name repo.fullName)).head? = some id := by
  rcases hclient : s.client? credentials with _ | name
  · cases runs_uninstall hr with
    | nobody => cases hresult
    | notListed hc | notFound hc | found hc => cases hclient.symm.trans hc
  · refine ⟨name, rfl, ?_⟩
    cases withdraws_of_runs hr hclient (hn name hclient _) with
    | taken hf =>
      rw [own, List.head?_map, List.head?_filter, hf, ← Except.ok.inj hresult]
      rfl
    | missing => cases hresult
    | failed => cases hresult

end Service

/-! ## One after the other -/

namespace Reconcile

/-- What removing the hook of a service from a repository comes to by itself, and the world it
leaves. -/
def alone (credentials : Credentials String) (s : Service) (strike : Call String → Option Failure)
    (w : World) (repo : String) : Except Failure UInt64 × World :=
  (uninstallNamed credentials s repo).run (World.answerUnless strike) w

section Alone

variable {name : RepoName} {key other : String}

theorem alone_of_parse (hname : RepoName.parse key = .ok name) : alone credentials s strike w key =
    (s.uninstall credentials name).run (World.answerUnless strike) w := by
  simp only [alone, uninstallNamed, hname]

theorem hooksOn_alone (hname : RepoName.parse key = .ok name) (hkey : name.key = key)
    (hn : s.Distinct credentials w) (n r : String) :
    (alone credentials s strike w key).2.hooksOn n r =
      if s.client? credentials = some n ∧ Text.asciiLower r = key ∧
          (alone credentials s strike w key).1.isOk = true then
        (w.hooksOn n r).eraseP (Hook.reportsTo s.callbackUrl)
      else w.hooksOn n r := by
  rw [alone_of_parse hname, Service.hooksOn_uninstall (runs_answerUnless strike _ w) hn, hkey]

theorem distinct_alone (hname : RepoName.parse key = .ok name) (hkey : name.key = key)
    (hn : s.Distinct credentials w) :
    s.Distinct credentials (alone credentials s strike w key).2 := by
  intro n hclient r
  rw [hooksOn_alone hname hkey hn]
  split
  · exact (List.eraseP_sublist.map _).nodup (hn n hclient r)
  · exact hn n hclient r

/-- Removing the hook from one repository makes no difference to another. -/
theorem alone_after (hname : RepoName.parse key = .ok name) (hkey : name.key = key)
    (hn : s.Distinct credentials w) (hother : Text.asciiLower other ≠ key) :
    (alone credentials s strike (alone credentials s strike w key).2 other).1 =
      (alone credentials s strike w other).1 := by
  rcases hparse : RepoName.parse other with e | repo
  · simp only [alone, uninstallNamed, hparse, run_done]
  · rw [alone_of_parse hparse, alone_of_parse hparse]
    apply Service.uninstall_congr
    constructor
    · intro n hclient
      rw [← RepoName.fullName_of_parse hparse] at hother
      rw [hooksOn_alone hname hkey hn, if_neg fun h => hother h.2.1]
    · intro n hclient
      rw [World.FailsAt, World.FailsAt, alone_of_parse hname,
        Hazard.failing_of_runs (runs_answerUnless strike _ w)]

end Alone

/-- Each removal comes to what it comes to by itself, and just those hooks are gone in the end whose
removal succeeded. -/
theorem run_uninstallAll (strike : Call String → Option Failure) {list : List String}
    (hlist : list.Nodup)
    (hnamed : ∀ repo ∈ list, ∃ name, RepoName.parse repo = .ok name ∧ name.key = repo)
    (hn : s.Distinct credentials w) (done : List Removal) :
    ((uninstallAll credentials s done list).run (World.answerUnless strike) w).1 =
      done ++ list.map (fun repo => ⟨repo, (alone credentials s strike w repo).1⟩) ∧
    ∀ n r, ((uninstallAll credentials s done list).run (World.answerUnless strike) w).2.hooksOn n r =
      if s.client? credentials = some n ∧ Text.asciiLower r ∈ list ∧
          (alone credentials s strike w (Text.asciiLower r)).1.isOk = true then
        (w.hooksOn n r).eraseP (Hook.reportsTo s.callbackUrl)
      else w.hooksOn n r := by
  induction list generalizing w done with
  | nil => simp [uninstallAll]
  | cons repo rest ih =>
    obtain ⟨hfresh, hrest⟩ := List.nodup_cons.mp hlist
    obtain ⟨name, hname, hkey⟩ := hnamed repo List.mem_cons_self
    have hnamed' := fun r hr => hnamed r (List.mem_cons_of_mem _ hr)
    have hafter : ∀ other ∈ rest, (alone credentials s strike
        (alone credentials s strike w repo).2 other).1 = (alone credentials s strike w other).1 := by
      intro other hm
      obtain ⟨name', hname', hkey'⟩ := hnamed' other hm
      refine alone_after hname hkey hn ?_
      rw [← hkey', RepoName.key, Text.asciiLower_asciiLower, ← RepoName.key, hkey']
      exact fun he => hfresh (he ▸ hm)
    -- the others start from the world that this removal left, which is the same to them
    have hn' : s.Distinct credentials (alone credentials s strike w repo).2 :=
      distinct_alone hname hkey hn
    obtain ⟨hremovals, hhooks⟩ :=
      ih hrest hnamed' hn' (done ++ [⟨repo, (alone credentials s strike w repo).1⟩])
    rw [uninstallAll, run_bind]
    constructor
    · refine hremovals.trans ?_
      rw [List.append_assoc, List.map_congr_left fun other hm => by rw [hafter other hm]]
      rfl
    · intro n r
      refine (hhooks n r).trans ?_
      by_cases hr : Text.asciiLower r = repo
      · rw [if_neg fun h => hfresh (hr ▸ h.2.1), hooksOn_alone hname hkey hn]
        simp only [hr, List.mem_cons_self, true_and]
      · have hsame : (alone credentials s strike w repo).2.hooksOn n r = w.hooksOn n r := by
          rw [hooksOn_alone hname hkey hn, if_neg fun h => hr h.2.1]
        have hother : Text.asciiLower (Text.asciiLower r) ≠ repo := by
          rwa [Text.asciiLower_asciiLower]
        simp only [hsame, alone_after hname hkey hn hother, List.mem_cons, hr, false_or]

theorem Settled.mem_removed_of_map {settled : Settled} {list : List String}
    {f : String → Except Failure UInt64} (h : settled.removals = list.map fun r => ⟨r, f r⟩)
    {repo : String} : repo ∈ settled.removed ↔ repo ∈ list ∧ (f repo).isOk = true := by
  rw [removed, h, List.mem_map]
  constructor
  · rintro ⟨x, hx, rfl⟩
    obtain ⟨hm, hok⟩ := List.mem_filter.mp hx
    obtain ⟨r, hr, rfl⟩ := List.mem_map.mp hm
    exact ⟨hr, hok⟩
  · rintro ⟨hm, hok⟩
    exact ⟨_, List.mem_filter.mpr ⟨List.mem_map_of_mem hm, hok⟩, rfl⟩

/-- After the removals the service is forgotten if it is to be and the call is not struck, and nothing
else happens. -/
theorem run_settle (credentials : Credentials String) (new : Service) (old : Option Service)
    (strike : Call String → Option Failure) (w : World) :
    let settled := (settle credentials new old).run (World.answerUnless strike) w
    let removals := (uninstallAll credentials new [] (change new old).removed.toList).run
      (World.answerUnless strike) w
    settled.1.removals = removals.1 ∧
    (∀ n r, settled.2.hooksOn n r = removals.2.hooksOn n r) ∧
    (settled.1.pruned = true ↔ new.repos.isEmpty = true ∧ strike (.forget new.id) = none) ∧
    settled.2.store = if settled.1.pruned then w.store.erase new.id else w.store := by
  have hstore : ((uninstallAll credentials new [] (change new old).removed.toList).run
      (World.answerUnless strike) w).2.store = w.store :=
    (shrunk_uninstallAll (runs_answerUnless strike _ w)).store
  dsimp only
  rw [settle, run_bind]
  split
  · next hnone =>
    rcases hs : strike (.forget new.id) with _ | e
    · rw [run_call, World.answerUnless_of_spared hs]
      exact ⟨rfl, fun n r => rfl, iff_of_true rfl ⟨hnone, rfl⟩,
        congrArg (Table.erase · new.id) hstore⟩
    · rw [run_call, World.answerUnless_of_struck hs]
      exact ⟨rfl, fun n r => rfl,
        iff_of_false Bool.false_ne_true fun h => Option.some_ne_none e h.2, hstore⟩
  · next hsome =>
    exact ⟨rfl, fun n r => rfl, iff_of_false Bool.false_ne_true fun h => hsome h.1, hstore⟩

/-- **Removals do not depend on each other.** The hooks at the provider of the user of a service, if
the user is signed in, came about by its own operations, fewer than 2 ^ 64 of them in all, and any
calls may be struck. Then the second phase of a declaration attempts each repository that is lost,
and each removal comes to what removing the hook of the service from this repository alone comes to
in the world as it was. Where a removal succeeds, the number it tells is that of the first hook for
the service, and in the end just these hooks are gone. The service is forgotten if it needs no
repository and forgetting it is not struck, whatever became of the removals; otherwise the store is
as it was. -/
theorem settle_independent
    (hmade : ∀ name, new.client? credentials = some name →
      ∃ n, n < UInt64.size ∧ Provider.Made n (w.provider name)) :
    let settled := ((settle credentials new old).run (World.answerUnless strike) w).1
    let w' := ((settle credentials new old).run (World.answerUnless strike) w).2
    settled.removals.map (·.repo) = (change new old).removed.toList ∧
    (∀ x ∈ settled.removals, ∃ repo, RepoName.parse x.repo = .ok repo ∧
      x.result = ((new.uninstall credentials repo).run (World.answerUnless strike) w).1 ∧
      ∀ id, x.result = .ok id → ∃ name, new.client? credentials = some name ∧
        (new.own (w.hooksOn name x.repo)).head? = some id) ∧
    (∀ n r, w'.hooksOn n r =
      if new.client? credentials = some n ∧ Text.asciiLower r ∈ settled.removed then
        (w.hooksOn n r).eraseP (Hook.reportsTo new.callbackUrl)
      else w.hooksOn n r) ∧
    (settled.pruned = true ↔ new.repos.isEmpty = true ∧ strike (.forget new.id) = none) ∧
    w'.store = if settled.pruned then w.store.erase new.id else w.store := by
  have hn : new.Distinct credentials w := by
    intro name hclient r
    obtain ⟨n, hlt, hp⟩ := hmade name hclient
    exact (hp.numbered hlt).distinct r
  have hnamed : ∀ repo ∈ (change new old).removed.toList,
      ∃ name, RepoName.parse repo = .ok name ∧ name.key = repo := by
    intro repo hm
    exact exists_name_of_mem_reposOf (mem_removed.mp hm).1
  obtain ⟨halone, hgone⟩ := run_uninstallAll strike (change new old).removed.nodup hnamed hn []
  obtain ⟨hremovals, hhooks, hpruned, hstore⟩ := run_settle credentials new old strike w
  rw [halone, List.nil_append] at hremovals
  refine ⟨?_, ?_, ?_, hpruned, hstore⟩
  · rw [hremovals, List.map_map]
    exact List.map_id _
  · intro x hx
    rw [hremovals] at hx
    obtain ⟨repo, hm, rfl⟩ := List.mem_map.mp hx
    obtain ⟨name, hname, -⟩ := hnamed repo hm
    refine ⟨name, hname, congrArg Prod.fst (alone_of_parse hname), ?_⟩
    intro id hid
    rw [alone_of_parse hname] at hid
    rw [← RepoName.fullName_of_parse hname]
    exact Service.head?_own_of_uninstall (runs_answerUnless strike _ w) hn hid
  · intro n r
    rw [hhooks, hgone]
    simp only [Settled.mem_removed_of_map hremovals]

/-! ### Three removals, of which one succeeds -/

/-- Of three repositories that are lost, the first has two hooks for the URL, the second has one that
cannot be deleted, and the third has none. -/
def losing : Settled × World :=
  (settle soleUser (watching "svc" "u" [])
    (some (watching "svc" "u" ["acme/c", "acme/b", "Acme/A"]))).run
      (World.answerUnless (Service.undeletable "acme/b").strike) Service.cluttered

/-- One hook is gone from the first of them, and all the same the service is forgotten. -/
theorem settle_independent_losing :
    losing.1.removals.map (·.repo) = ["acme/a", "acme/b", "acme/c"] ∧
    losing.1.removed = ["acme/a"] ∧ losing.1.pruned = true ∧
    (losing.2.hooksOn "main" "acme/a").map (·.id) = [2, 3, 4, 5] ∧
    (losing.2.hooksOn "main" "acme/b").map (·.id) = [6] := by
  obtain ⟨hremovals, -, hhooks, hpruned, -⟩ := @settle_independent soleUser (watching "svc" "u" [])
    (some (watching "svc" "u" ["acme/c", "acme/b", "Acme/A"])) (Service.undeletable "acme/b").strike
    Service.cluttered fun name hclient =>
      ⟨_, by decide, client_soleUser hclient ▸ Service.made_cluttered⟩
  refine ⟨hremovals.trans (by decide), by decide, hpruned.mpr (by decide), ?_, ?_⟩
  · rw [losing, hhooks]
    decide
  · rw [losing, hhooks]
    decide

end Reconcile

end WebhookRelay
