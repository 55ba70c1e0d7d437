import WebhookRelay.Proofs.Delivery.Subscription
import WebhookRelay.Proofs.Sync.Presence

/-!
# Hooks that nobody needs any more

A declaration that fails half-way leaves hooks behind that it created, and one that succeeds leaves
those that it could not take off. As long as some declaration of the service is stored, each of them
goes with the next event that its repository reports: whatever failed before, the stored declaration
has the callback URL of the hook and a user who is signed in (`Memory.World.Attended`), so the event
is found to be of a repository that no room names, and the hook is looked for and taken off
(`Delivery.orphans_recoverable`).

Where nothing is stored, nobody is left to do it: the delivery is answered as one for an unknown
service, and the hook stays. The same is so of a hook on another provider than that of the user the
stored declaration names (`Delivery.orphans_beyond_reach`).
-/

namespace WebhookRelay

open Program Memory

variable {credentials : Credentials String} {new s : Service} {declared : List Service}
  {h : Hazard} {name url id r : String} {trace : List (Exchange String)} {w w' : World}

/-! ## What a run of declarations leaves -/

namespace Memory.World

/-- What is stored under an id, if anything, reports to a URL, and its user is signed in. -/
def Attended (credentials : Credentials String) (url id : String) (w : World) : Prop :=
  ∀ s, w.store.get? id = some s → s.callbackUrl = url ∧ ∃ name, s.client? credentials = some name

/-- A hook comes only by being created. -/
theorem mem_hooksOn_answer {c : Call String} {hook : Hook}
    (hm : hook ∈ (answer c w).2.hooksOn name r) :
    hook ∈ w.hooksOn name r ∨
      ∃ client repo spec, c = .createHook client repo spec ∧ Text.asciiLower r = repo.key := by
  cases c with
  | createHook client repo spec =>
    by_cases ha : (w.provider client).Accepts repo spec
    · rw [hooksOn_createHook_of_accepts ha] at hm
      split at hm
      · next hk => exact .inr ⟨client, repo, spec, rfl, hk.2⟩
      · exact .inl hm
    · rw [hooksOn_createHook_of_not_accepts ha] at hm
      exact .inl hm
  | deleteHook =>
    rw [hooksOn_deleteHook] at hm
    split at hm
    · exact .inl (List.mem_filter.mp hm).1
    · exact .inl hm
  | _ =>
    rw [hooksOn_answer rfl rfl] at hm
    exact .inl hm

end Memory.World

namespace Service

open Reconcile

/-- A declaration leaves the store as it was, or its user is signed in and it is stored, or stored
and then forgotten. -/
theorem store_configure {result : Except Failure Configured}
    (hr : Runs h.Conduct (new.configure credentials) w trace result w') :
    w'.store = w.store ∨ (∃ name, new.client? credentials = some name) ∧
      (w'.store = w.store.insert new.id new ∨
        w'.store = (w.store.insert new.id new).erase new.id) := by
  cases runs_configure hr with
  | notLoaded hl =>
    rcases hl.world_eq with rfl | rfl
    · exact .inl rfl
    · exact .inl rfl
  | notPrepared hl hp =>
    obtain ⟨-, rfl⟩ := load_eq_ok hl
    exact .inl (grown_prepare hp).store
  | notSaved hl hp hs =>
    obtain ⟨-, rfl⟩ := load_eq_ok hl
    rcases hs.world_eq with rfl | rfl
    · exact .inl (grown_prepare hp).store
    · rw [World.store_answer, (grown_prepare hp).store]
      exact .inr ⟨exists_client_of_prepare_ok hp, .inl rfl⟩
  | settled hl hp hs ht =>
    obtain ⟨-, rfl⟩ := load_eq_ok hl
    rw [hs.eq_of_ok] at ht
    have hsaved : (World.answer (.save new) _).2.store = _ :=
      (World.store_answer _ _).trans (congrArg (Table.insert · new.id new) (grown_prepare hp).store)
    refine .inr ⟨exists_client_of_prepare_ok hp, ?_⟩
    rcases store_settle ht with e | ⟨-, e⟩
    · exact .inl (e.trans hsaved)
    · exact .inr (e.trans (congrArg (Table.erase · new.id) hsaved))

/-- Whatever fails, a declaration keeps the stored service attended. -/
theorem attended_configure {result : Except Failure Configured}
    (hr : Runs h.Conduct (new.configure credentials) w trace result w') (hid : new.id = id)
    (hurl : new.callbackUrl = url) (ha : w.Attended credentials url id) :
    w'.Attended credentials url id := by
  subst hid hurl
  intro s hs
  rcases store_configure hr with e | ⟨hclient, e | e⟩
  · rw [e] at hs
    exact ha s hs
  · rw [e, Table.get?_insert_self] at hs
    cases hs
    exact ⟨rfl, hclient⟩
  · rw [e, Table.get?_erase_self] at hs
    cases hs

end Service

namespace Operation

variable {u : Unit}

/-- Whatever fails, a run of declarations keeps the stored service attended. -/
theorem attended_series (hdeclared : ∀ new ∈ declared, new.id = id ∧ new.callbackUrl = url)
    (hr : Runs h.Conduct (series (declared.map (.configure credentials))) w trace u w')
    (ha : w.Attended credentials url id) : w'.Attended credentials url id := by
  induction declared generalizing w trace with
  | nil =>
    obtain ⟨-, -, rfl⟩ := runs_done.mp hr
    exact ha
  | cons new rest ih =>
    obtain ⟨before, w₁, after, hnew, hrest, rfl⟩ := runs_series_cons hr
    obtain ⟨result, hnew⟩ := runs_configure hnew
    obtain ⟨hid, hurl⟩ := hdeclared new List.mem_cons_self
    have ha₁ := Service.attended_configure hnew hid hurl ha
    exact ih (fun n hn => hdeclared n (List.mem_cons_of_mem _ hn)) hrest ha₁

/-- A run of declarations creates hooks on repositories that have a name. -/
theorem makes_series : (series (declared.map (.configure credentials))).Makes fun c =>
    ∀ client repo spec, c = .createHook client repo spec → RepoName.wellFormed repo.key = true := by
  induction declared with
  | nil => trivial
  | cons new rest ih =>
    refine makes_bind (makes_bind (Service.makes_configure.mono ?_) fun _ => trivial) fun _ => ih
    rintro c hc client repo spec rfl
    obtain ⟨n, hn, -⟩ := Service.exists_name_of_mem_repos hc.2.1
    exact RepoName.wellFormed_iff.mpr ⟨n, hn⟩

/-- So the hooks that have come in the meantime are on repositories that have a name. -/
theorem wellFormed_of_series
    (hr : Runs h.Conduct (series (declared.map (.configure credentials))) w trace u w')
    {hook : Hook} (hm : hook ∈ w'.hooksOn name r) :
    hook ∈ w.hooksOn name r ∨ RepoName.wellFormed r = true := by
  refine hr.induct (I := fun v => hook ∈ v.hooksOn name r →
    hook ∈ w.hooksOn name r ∨ RepoName.wellFormed r = true) makes_series ?_ .inl hm
  intro c v reply v' hc hstep ih hm
  rcases hstep.world_eq with rfl | rfl
  · exact ih hm
  · rcases World.mem_hooksOn_answer hm with hm | ⟨client, repo, spec, rfl, hk⟩
    · exact ih hm
    · right
      rw [← RepoName.wellFormed_asciiLower, hk]
      exact hc client repo spec rfl

end Operation

/-! ## What a delivery does about it -/

/-- Uninstalling takes a hook off, if there is one and the repository does not fail. -/
theorem Service.run_uninstall {repo : RepoName} (hclient : s.client? credentials = some name)
    (hup : ¬w.FailsAt name repo)
    (hthere : ∃ hook ∈ w.hooksOn name repo.fullName, hook.callbackUrl? = some s.callbackUrl) :
    ∃ hook ∈ w.hooksOn name repo.fullName, hook.callbackUrl? = some s.callbackUrl ∧
      ∃ w', (s.uninstall credentials repo).run World.answer w = (.ok hook.id, w') ∧
        ∀ n r, w'.hooksOn n r = if name = n ∧ Text.asciiLower r = repo.key then
          (w.hooksOn n r).filter (·.id ≠ hook.id) else w.hooksOn n r := by
  rw [Service.client?] at hclient
  rcases hf : (w.hooksOn name repo.fullName).find?
      fun hook => hook.callbackUrl? = some s.callbackUrl with _ | hook
  · obtain ⟨hook, hm, hu⟩ := hthere
    have hnone := List.find?_eq_none.mp hf hook hm
    simp [hu] at hnone
  · have hm := List.mem_of_find?_eq_some hf
    have hu : hook.callbackUrl? = some s.callbackUrl := by simpa using List.find?_some hf
    have hlist : (World.answer (.listHooks name repo) w).1 =
        .ok (w.hooksOn name repo.fullName) := by
      rw [World.listHooks_reply, if_neg hup]
    have hsame : ∀ n r, (World.answer (.listHooks name repo) w).2.hooksOn n r = w.hooksOn n r :=
      fun n r => World.hooksOn_answer rfl rfl
    have hup₁ : ¬(World.answer (.listHooks name repo) w).2.FailsAt name repo := by
      rw [World.FailsAt, World.failing_answer]
      exact hup
    have hdelete : (World.answer (.deleteHook name repo hook.id)
        (World.answer (.listHooks name repo) w).2).1 = .ok () := by
      rw [World.deleteHook_reply, if_neg hup₁, if_pos ⟨hook, hsame _ _ ▸ hm, rfl⟩]
    refine ⟨hook, hm, hu, (World.answer (.deleteHook name repo hook.id)
      (World.answer (.listHooks name repo) w).2).2, ?_, fun n r => ?_⟩
    · simp only [uninstall, hclient, run_call, hlist, hf, hdelete]
      rfl
    · simp only [World.hooksOn_deleteHook, hsame, hup₁, not_false_iff, true_and]

namespace Delivery

variable {request : Request} {e : Event}

/-- A delivery for a service that is not stored is answered at once. -/
theorem run_handleFor_of_none (hs : w.store.get? id = none) :
    (handleFor credentials id request).run World.answer w = (⟨404, {}⟩, w) := by
  have hreply : (World.answer (.load id) w).1 = .ok none := congrArg Except.ok hs
  simp only [handleFor, run_call, hreply]
  rfl

/-- A delivery for one that is stored is handled for it. -/
theorem run_handleFor_of_some (hs : w.store.get? id = some s) :
    (handleFor credentials id request).run World.answer w =
      (handle credentials s request).run World.answer w := by
  have hreply : (World.answer (.load id) w).1 = .ok (some s) := congrArg Except.ok hs
  simp only [handleFor, run_call, hreply]
  rfl

/-- An event of a repository that is not needed has the hook taken off. -/
theorem run_handle_of_not_mem_repos (hv : request.verify s.secret = .ok (.event e))
    {repo : RepoName} (hp : RepoName.parse e.repo = .ok repo)
    (hnot : Text.asciiLower e.repo ∉ s.repos) :
    (handle credentials s request).run World.answer w =
      let (result, w') := (s.uninstall credentials repo).run World.answer w
      (⟨200, { event := some e.kind, repo := some e.repo, cleanup := some result }⟩, w') := by
  have hw : RepoName.wellFormed e.repo = true := RepoName.wellFormed_iff.mpr ⟨repo, hp⟩
  have hb : s.bindings e.repo = [] := (Service.bindings_eq_nil_iff_not_mem_repos hw).mpr hnot
  rw [handle_of_verify hv]
  simp only [route, hb, List.isEmpty_nil, if_true, hp, run_bind]
  rfl

/-- **Hooks that nobody needs are recoverable while the service is stored.** A service is declared
again and again, under one id and with one callback URL, and whatever call may fail does. Hooks that
come meanwhile are on repositories that have a name. If nothing is stored in the end, every delivery
for the id is answered as one for an unknown service, and nothing is done. If a declaration is
stored, its user is signed in, and an event that passes the check against it, of a repository that it
does not need and that does not fail, takes off one hook for the URL, if there is one on the
repository at the provider of this user. -/
theorem orphans_recoverable (hdeclared : ∀ new ∈ declared, new.id = id ∧ new.callbackUrl = url)
    (hfirst : w.Attended credentials url id)
    (hr : Runs h.Conduct (Operation.series (declared.map (.configure credentials))) w trace () w') :
    (∀ n r, ∀ hook ∈ w'.hooksOn n r,
      hook ∈ w.hooksOn n r ∨ RepoName.wellFormed r = true) ∧
    (w'.store.get? id = none → ∀ request,
      (handleFor credentials id request).run World.answer w' = (⟨404, {}⟩, w')) ∧
    ∀ s, w'.store.get? id = some s → ∃ name, s.client? credentials = some name ∧
      ∀ request e repo, request.verify s.secret = .ok (.event e) →
        RepoName.parse e.repo = .ok repo → repo.key ∉ s.repos → ¬w'.FailsAt name repo →
        (∃ hook ∈ w'.hooksOn name e.repo, hook.callbackUrl? = some url) →
        ∃ hook ∈ w'.hooksOn name e.repo, hook.callbackUrl? = some url ∧
          ∃ w'', (handleFor credentials id request).run World.answer w' =
              (⟨200, { event := some e.kind, repo := some e.repo,
                       cleanup := some (.ok hook.id) }⟩, w'') ∧
            ∀ n r, w''.hooksOn n r = if name = n ∧ Text.asciiLower r = repo.key then
              (w'.hooksOn n r).filter (·.id ≠ hook.id) else w'.hooksOn n r := by
  refine ⟨fun n r hook hm => Operation.wellFormed_of_series hr hm,
    fun hs request => run_handleFor_of_none hs, fun s hs => ?_⟩
  obtain ⟨hurl, name, hclient⟩ := Operation.attended_series hdeclared hr hfirst s hs
  refine ⟨name, hclient, fun request e repo hv hp hnot hup hthere => ?_⟩
  obtain rfl := hurl
  have hfull := RepoName.fullName_of_parse hp
  rw [RepoName.key, hfull] at hnot
  rw [← hfull] at hthere
  obtain ⟨hook, hm, hu, w'', hrun, hooks⟩ := Service.run_uninstall hclient hup hthere
  rw [hfull] at hm
  refine ⟨hook, hm, hu, w'', ?_, hooks⟩
  rw [run_handleFor_of_some hs, run_handle_of_not_mem_repos hv hp hnot, hrun]

/-! ### Hooks that are recovered, and hooks that are not -/

/-- The world, where creating hooks on one repository fails. -/
def striking (repo : String) : Handler String World
  | .createHook client r spec, w =>
    if r.key = repo then (.error (.refused 502 "Bad Gateway" []), w)
    else World.answer (.createHook client r spec) w
  | c, w => World.answer c w

theorem runs_striking (repo : String) {α : Type} (p : Program String α) (w : World) :
    Runs Hazard.anyStrike.Conduct p w (p.exchanges (striking repo) w) (p.run (striking repo) w).1
      (p.run (striking repo) w).2 := by
  refine (runs_run (striking repo) p w).mono fun c w reply w' hc => ?_
  cases c with
  | createHook client r spec =>
    rw [Handler.conduct, striking] at hc
    split at hc
    · cases hc
      exact .struck trivial w
    · exact Hazard.conduct_of_answer hc
  | _ => exact Hazard.conduct_of_answer hc

/-- The world in which services were declared, where creating hooks on one repository failed. -/
def declaredStruck (credentials : Credentials String) (services : List Service) (repo : String) :
    World :=
  ((Operation.series (services.map (.configure credentials))).run (striking repo) {}).2

/-- A service with a secret that needs hooks on some repositories. -/
def guardedOn (repos : List String) : Service :=
  { Memory.watching "svc" "u" repos with secretToken := "s3cret" }

/-- The second of these declarations creates a hook on one of its new repositories and then fails. -/
def growing : List Service := [guardedOn ["acme/a"], guardedOn ["acme/a", "acme/b", "acme/c"]]

/-- A signed push from the repository that the second declaration left a hook on takes it off. -/
theorem orphans_recoverable_struck :
    ∃ hook ∈ (declaredStruck soleUser growing "acme/c").hooksOn "main" "Acme/B",
      hook.callbackUrl? = some "u" ∧
      ∃ w'', (handleFor soleUser "svc" (pushOf "Acme/B" [signatureOf "s3cret" "Acme/B"])).run
          World.answer (declaredStruck soleUser growing "acme/c") =
        (⟨200, { event := some "push", repo := some "Acme/B", cleanup := some (.ok hook.id) }⟩,
          w'') := by
  have hstored : (declaredStruck soleUser growing "acme/c").store.get? "svc" =
      some (guardedOn ["acme/a"]) := by decide +kernel
  have hverified : ((pushOf "Acme/B" [signatureOf "s3cret" "Acme/B"]).verify
      (guardedOn ["acme/a"]).secret).toOption = some (.event
        ⟨"push", "Acme/B", .notice "[Acme/B] someone pushed 0 commits to ?", none⟩) := by
    decide +kernel
  have hparse : RepoName.parse "Acme/B" = .ok ⟨"Acme", "B"⟩ := by rfl
  rcases hv : (pushOf "Acme/B" [signatureOf "s3cret" "Acme/B"]).verify
      (guardedOn ["acme/a"]).secret with fault | verified
  · rw [hv] at hverified
    cases hverified
  · rw [hv] at hverified
    obtain rfl := Option.some.inj hverified
    have hdeclared : ∀ new ∈ growing, new.id = "svc" ∧ new.callbackUrl = "u" := by decide
    have hfirst : World.Attended soleUser "u" "svc" {} := by
      intro s hs
      cases hs
    obtain ⟨-, -, hall⟩ := orphans_recoverable hdeclared hfirst (runs_striking "acme/c" _ {})
    obtain ⟨name, hclient, hdelivered⟩ := hall _ hstored
    obtain rfl := client_soleUser hclient
    obtain ⟨hook, hm, hu, w'', hrun, -⟩ := hdelivered _ _ _ hv hparse (by decide +kernel)
      (by decide +kernel) (by decide +kernel)
    exact ⟨hook, hm, hu, w'', hrun⟩

/-- Every user is signed in, each at a provider of their own. -/
def everybody : Credentials String where
  realmType realm := if realm = "github" then some githubRealm else none
  client _ user := some user

/-- After declarations that failed in part, a provider has a hook on a repository that what is stored
does not need; no call fails any more, and when the repository delivers a push no hook is taken
off. -/
def OutOfReach (services : List Service) (name : String) : Prop :=
  (∃ hook ∈ (declaredStruck everybody services "acme/c").hooksOn name "acme/b",
    hook.callbackUrl? = some "u") ∧
  "acme/b" ∉ Service.reposOf ((declaredStruck everybody services "acme/c").store.get? "svc") ∧
  (((handleFor everybody "svc" (pushOf "acme/b" [])).run World.answer
      (declaredStruck everybody services "acme/c")).2.hooksOn name "acme/b").map (·.id) =
    ((declaredStruck everybody services "acme/c").hooksOn name "acme/b").map (·.id)

/-- A hook is out of reach when nothing is stored, and when it is at the provider of another user
than what is stored. -/
theorem orphans_beyond_reach :
    OutOfReach [watching "svc" "u" ["acme/b", "acme/c"]] "bot" ∧
      OutOfReach [watching "svc" "u" ["acme/a"],
        { watching "svc" "u" ["acme/a", "acme/b", "acme/c"] with user := "ann" }] "ann" := by
  unfold OutOfReach
  decide +kernel

end Delivery

end WebhookRelay
