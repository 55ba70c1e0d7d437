import WebhookRelay.Proofs.Sync.Withdrawal

/-!
# Putting a hook on, again and again

A provider takes a hook for a URL once to a repository. So installing the hook of a service has two
ends where nothing fails: it is there already and nothing changes (`Service.install_of_carried`), or it
is put behind the others (`Service.install_of_missing`). Whoever asks for it again finds it there
(`Service.installEach_of_carried`, by induction on how often), and as its number is a new one, taking it
off takes off nothing else (`Service.installed_once`).
-/

namespace WebhookRelay

open Program Memory

variable {credentials : Credentials String} {s : Service} {name text : String} {repo : RepoName}
  {w : World}

/-! ## Names in any letter case -/

/-- A text that is a name in other letter case is a name too, of the same repository. -/
theorem RepoName.exists_parse_of_key {other : String} (hname : parse text = .ok repo)
    (hother : Text.asciiLower other = repo.key) :
    ∃ again, parse other = .ok again ∧ again.key = repo.key := by
  have hkey : Text.asciiLower other = Text.asciiLower text := by
    rw [hother, key, fullName_of_parse hname]
  have hwell : wellFormed other = true := by
    rw [← wellFormed_asciiLower, hkey, wellFormed_asciiLower, wellFormed_iff]
    exact ⟨repo, hname⟩
  obtain ⟨again, hagain⟩ := wellFormed_iff.mp hwell
  refine ⟨again, hagain, ?_⟩
  rw [key, fullName_of_parse hagain, hother]

namespace Service

/-! ## Once -/

/-- Whether a repository carries the hook of a service at a provider. -/
def CarriedOn (s : Service) (w : World) (name r : String) : Prop :=
  ∃ h ∈ w.hooksOn name r, h.callbackUrl? = some s.callbackUrl

instance (r : String) : Decidable (s.CarriedOn w name r) :=
  inferInstanceAs (Decidable (∃ h ∈ w.hooksOn name r, h.callbackUrl? = some s.callbackUrl))

theorem CarriedOn.congr {w' : World} {r r' : String} (h : s.CarriedOn w name r)
    (hhooks : w'.hooksOn name r' = w.hooksOn name r) : s.CarriedOn w' name r' := by
  rw [CarriedOn, hhooks]
  exact h

theorem run_install (hname : RepoName.parse text = .ok repo) (w : World) :
    (s.install name text).run World.answer w =
      (match (World.answer (.createHook name repo s.hookSpec) w).1 with
        | .ok _ => .ok .created
        | .error e => if e.isHookExists then .ok .alreadyThere else .error e,
        (World.answer (.createHook name repo s.hookSpec) w).2) := by
  simp only [install, hname, run_call]
  rcases (World.answer (.createHook name repo s.hookSpec) w).1 with e | hook
  · rfl
  · rfl

/-- A hook that is there is not created, and no hook changes. -/
theorem install_of_carried (hname : RepoName.parse text = .ok repo) (hup : ¬w.FailsAt name repo)
    (hthere : s.CarriedOn w name repo.fullName) :
    ((s.install name text).run World.answer w).1 = .ok .alreadyThere ∧
      ∀ n r, ((s.install name text).run World.answer w).2.hooksOn n r = w.hooksOn n r := by
  have htaken : ∃ h ∈ w.hooksOn name repo.fullName, h.callbackUrl? = s.hookSpec.url? := by
    rw [url?_hookSpec]
    exact hthere
  rw [run_install hname]
  constructor
  · simp only [World.createHook_reply, if_neg hup, if_pos htaken, Provider.isHookExists_duplicate,
      if_true]
  · intro n r
    apply World.hooksOn_createHook_of_not_accepts
    rintro ⟨-, hfree⟩
    obtain ⟨h, hm, hurl⟩ := htaken
    exact hfree h hm hurl

/-- A hook that is not there is put behind the others, under the next number. -/
theorem install_of_missing (hname : RepoName.parse text = .ok repo) (hup : ¬w.FailsAt name repo)
    (hmissing : ¬s.CarriedOn w name repo.fullName) :
    ((s.install name text).run World.answer w).1 = .ok .created ∧
      ∀ n r, ((s.install name text).run World.answer w).2.hooksOn n r =
        if name = n ∧ Text.asciiLower r = repo.key then
          w.hooksOn n r ++ [s.hookSpec.install (w.provider name).nextId]
        else w.hooksOn n r := by
  have hfree : ¬∃ h ∈ w.hooksOn name repo.fullName, h.callbackUrl? = s.hookSpec.url? := by
    rw [url?_hookSpec]
    exact hmissing
  rw [run_install hname]
  constructor
  · simp only [World.createHook_reply, if_neg hup, if_neg hfree]
  · intro n r
    apply World.hooksOn_createHook_of_accepts
    exact ⟨hup, fun h hm hurl => hfree ⟨h, hm, hurl⟩⟩

/-! ## Again and again -/

/-- Asks for the hook of a service on repositories, one after the other, whatever comes of it. -/
def installEach (s : Service) (client : String) :
    List String → Program String (List (Except Failure Installed))
  | [] => .done []
  | repo :: rest =>
    (s.install client repo).bind fun result =>
      (installEach s client rest).bind fun results => .done (result :: results)

theorem run_installEach_cons (others : List String) (w : World) :
    (s.installEach name (text :: others)).run World.answer w =
      (((s.install name text).run World.answer w).1 ::
        ((s.installEach name others).run World.answer
          ((s.install name text).run World.answer w).2).1,
        ((s.installEach name others).run World.answer
          ((s.install name text).run World.answer w).2).2) := by
  rw [installEach, run_bind, run_bind]
  rfl

/-- Whoever asks for a hook that is there finds it there, however often. -/
theorem installEach_of_carried {others : List String} (hname : RepoName.parse text = .ok repo)
    (hup : ¬w.FailsAt name repo) (hthere : s.CarriedOn w name repo.fullName)
    (hothers : ∀ other ∈ others, Text.asciiLower other = repo.key) :
    ((s.installEach name others).run World.answer w).1 =
        List.replicate others.length (.ok .alreadyThere) ∧
      ∀ n r, ((s.installEach name others).run World.answer w).2.hooksOn n r = w.hooksOn n r := by
  induction others generalizing w with
  | nil => exact ⟨rfl, fun n r => rfl⟩
  | cons other rest ih =>
    obtain ⟨again, hagain, hkey⟩ :=
      RepoName.exists_parse_of_key hname (hothers other List.mem_cons_self)
    have hsame : w.hooksOn name again.fullName = w.hooksOn name repo.fullName :=
      World.hooksOn_congr hkey
    have hupAgain : ¬w.FailsAt name again := by
      rw [World.FailsAt, hkey]
      exact hup
    obtain ⟨hfirst, hkept⟩ := install_of_carried hagain hupAgain (hthere.congr hsame)
    -- in the world that is left the repository is up and carries the hook as before
    have hupLeft : ¬((s.install name other).run World.answer w).2.FailsAt name repo := by
      rw [World.FailsAt, World.failing_run]
      exact hup
    obtain ⟨hresults, hleft⟩ := ih hupLeft (hthere.congr (hkept name repo.fullName))
      fun o ho => hothers o (List.mem_cons_of_mem _ ho)
    rw [run_installEach_cons]
    constructor
    · rw [hfirst, hresults]
      rfl
    · intro n r
      rw [hleft, hkept]

/-- Whoever asks for a hook that is not there finds it there from the second time on, and it was put
behind the others once. -/
theorem installEach_of_missing {others : List String} (hname : RepoName.parse text = .ok repo)
    (hup : ¬w.FailsAt name repo) (hmissing : ¬s.CarriedOn w name repo.fullName)
    (hothers : ∀ other ∈ others, Text.asciiLower other = repo.key) :
    ((s.installEach name (text :: others)).run World.answer w).1 =
        .ok .created :: List.replicate others.length (.ok .alreadyThere) ∧
      ∀ n r, ((s.installEach name (text :: others)).run World.answer w).2.hooksOn n r =
        if name = n ∧ Text.asciiLower r = repo.key then
          w.hooksOn n r ++ [s.hookSpec.install (w.provider name).nextId]
        else w.hooksOn n r := by
  obtain ⟨hcreated, hput⟩ := install_of_missing hname hup hmissing
  have hupAfter : ¬((s.install name text).run World.answer w).2.FailsAt name repo := by
    rw [World.FailsAt, World.failing_run]
    exact hup
  have hthere : s.CarriedOn ((s.install name text).run World.answer w).2 name repo.fullName := by
    rw [CarriedOn, hput, if_pos ⟨rfl, rfl⟩]
    exact ⟨_, List.mem_append_right _ List.mem_cons_self, by simp⟩
  obtain ⟨hagain, hkept⟩ := installEach_of_carried hname hupAfter hthere hothers
  rw [run_installEach_cons]
  constructor
  · rw [hcreated, hagain]
  · intro n r
    rw [hkept, hput]

/-! ## And off again -/

/-- A hook that stands behind the others, none of which is for the service or has its number, is the one
that is taken off. -/
theorem uninstall_of_last {back : RepoName} {hooks : List Hook} {id : UInt64}
    (hclient : s.client? credentials = some name) (hup : ¬w.FailsAt name back)
    (hhooks : w.hooksOn name back.fullName = hooks ++ [s.hookSpec.install id])
    (hothers : ∀ h ∈ hooks, h.callbackUrl? ≠ some s.callbackUrl)
    (hdistinct : (hooks.map (·.id)).Nodup) (hnew : ∀ h ∈ hooks, h.id ≠ id) :
    ((s.uninstall credentials back).run World.answer w).1 = .ok id ∧
      ∀ n r, ((s.uninstall credentials back).run World.answer w).2.hooksOn n r =
        if name = n ∧ Text.asciiLower r = back.key then hooks else w.hooksOn n r := by
  have hnone : ∀ h ∈ hooks, ¬Hook.reportsTo s.callbackUrl h = true := by simpa using hothers
  have hlast : (s.hookSpec.install id).reportsTo s.callbackUrl = true := by simp
  have hown : s.own (w.hooksOn name back.fullName) = [id] := by
    rw [own, hhooks, List.filter_append, List.filter_eq_nil_iff.mpr hnone,
      List.filter_cons_of_pos hlast]
    rfl
  have herase : (w.hooksOn name back.fullName).eraseP (Hook.reportsTo s.callbackUrl) = hooks := by
    rw [hhooks, List.eraseP_append_right _ hnone, List.eraseP_cons_of_pos hlast, List.append_nil]
  have hnodup : ((w.hooksOn name back.fullName).map (·.id)).Nodup := by
    rw [hhooks, List.map_append, List.nodup_append]
    refine ⟨hdistinct, List.nodup_singleton _, ?_⟩
    rintro _ hx _ hy rfl
    obtain ⟨h, hm, rfl⟩ := List.mem_map.mp hx
    exact hnew h hm (List.mem_singleton.mp hy)
  have hends := withdraws_of_runs
    ((Hazard.planned fun _ => none).runs_answer (s.uninstall credentials back) w) hclient hnodup
  have hsound := hends.not_failed (fun _ => rfl) hup
  constructor
  · have hresult := (hends.takes hsound).result
    rwa [hown] at hresult
  · intro n r
    rw [hends.hooksOn_eq, decide_eq_true hsound]
    split
    · next hk =>
      obtain ⟨rfl, hk⟩ := hk
      have hhere : w.hooksOn name r = w.hooksOn name back.fullName := World.hooksOn_congr hk
      rw [hhere]
      exact herase
    · rfl

/-- **A hook is put on once, and taken off without a trace.** The hooks of a provider came about by its
own operations, fewer than 2 ^ 64 of them in all, the user of a service is signed in there, and the
repository does not fail. The hook of the service is asked for on the repository and then again any
number of times, its name written in any letter case. If the repository carries a hook for the URL of
the service, it is there already each time, and no hook changes. If not, it is created the first time
and there already every other time, and all that is changed is that one hook stands behind the others
on the repository, which is as the service specifies it; and taking the hook of the service off the
repository tells its number and leaves on every repository what was there at first. -/
theorem installed_once {n : Nat} {others : List String} {back : RepoName}
    (hclient : s.client? credentials = some name)
    (hmade : Provider.Made n (w.provider name)) (hn : n < UInt64.size)
    (hname : RepoName.parse text = .ok repo) (hup : ¬w.FailsAt name repo)
    (hothers : ∀ other ∈ others, Text.asciiLower other = repo.key) (hback : back.key = repo.key) :
    (s.CarriedOn w name text →
      ((s.installEach name (text :: others)).run World.answer w).1 =
          List.replicate (others.length + 1) (.ok .alreadyThere) ∧
        ∀ n r, ((s.installEach name (text :: others)).run World.answer w).2.hooksOn n r =
          w.hooksOn n r) ∧
    (¬s.CarriedOn w name text → ∃ id,
      ((s.installEach name (text :: others)).run World.answer w).1 =
          .ok .created :: List.replicate others.length (.ok .alreadyThere) ∧
        (∀ n r, ((s.installEach name (text :: others)).run World.answer w).2.hooksOn n r =
          if name = n ∧ Text.asciiLower r = repo.key then
            w.hooksOn n r ++ [s.hookSpec.install id]
          else w.hooksOn n r) ∧
        ((s.uninstall credentials back).run World.answer
            ((s.installEach name (text :: others)).run World.answer w).2).1 = .ok id ∧
          ∀ n r, ((s.uninstall credentials back).run World.answer
            ((s.installEach name (text :: others)).run World.answer w).2).2.hooksOn n r =
              w.hooksOn n r) := by
  have hfull : repo.fullName = text := RepoName.fullName_of_parse hname
  constructor
  · intro hthere
    have hkey : Text.asciiLower text = repo.key := by rw [RepoName.key, hfull]
    exact installEach_of_carried hname hup (hfull ▸ hthere) (List.forall_mem_cons.mpr ⟨hkey, hothers⟩)
  · intro hmissing
    obtain ⟨hresults, hhooks⟩ := installEach_of_missing hname hup (hfull ▸ hmissing) hothers
    generalize hid : (w.provider name).nextId = id at hhooks
    generalize hrun : (s.installEach name (text :: others)).run World.answer w = run at hresults hhooks ⊢
    have hupBack : ¬run.2.FailsAt name back := by
      rw [← hrun, World.FailsAt, World.failing_run, hback]
      exact hup
    have hlast : run.2.hooksOn name back.fullName =
        w.hooksOn name repo.fullName ++ [s.hookSpec.install id] := by
      rw [hhooks, if_pos ⟨rfl, hback⟩, World.hooksOn_congr hback]
    obtain ⟨hresult, hleft⟩ := uninstall_of_last hclient hupBack hlast
      (fun h hm hurl => hmissing (hfull ▸ ⟨h, hm, hurl⟩))
      ((hmade.numbered hn).distinct repo.fullName)
      (fun h hm => hid ▸ hmade.id_ne_nextId hn repo.fullName h hm)
    refine ⟨id, hresults, hhooks, hresult, ?_⟩
    intro n r
    rw [hleft, hhooks, hback]
    split
    · next hk =>
      obtain ⟨rfl, hk⟩ := hk
      exact (World.hooksOn_congr hk).symm
    · rfl

/-- The hooks on the repository, after one that is not for the URLs there was put on and taken off. -/
def restored : World :=
  (((watching "svc" "w" []).uninstall soleUser ⟨"Acme", "A"⟩).run World.answer
    (((watching "svc" "w" []).installEach "main" ["acme/a", "ACME/a", "acme/A"]).run World.answer
      cluttered).2).2

/-- One hook that is asked for is there; another one is created and leaves no trace. -/
theorem installed_once_cluttered :
    (((watching "svc" "u" []).installEach "main" ["acme/a", "ACME/a", "acme/A"]).run World.answer
      cluttered).1 = [.ok .alreadyThere, .ok .alreadyThere, .ok .alreadyThere] ∧
    (((watching "svc" "w" []).installEach "main" ["acme/a", "ACME/a", "acme/A"]).run World.answer
      cluttered).1 = [.ok .created, .ok .alreadyThere, .ok .alreadyThere] ∧
    (restored.hooksOn "main" "ACME/A").map (·.id) = [1, 2, 3, 4, 5] := by
  have hup : ¬cluttered.FailsAt "main" ⟨"acme", "a"⟩ := by decide
  obtain ⟨hthere, -⟩ := @installed_once soleUser (watching "svc" "u" []) "main" "acme/a" ⟨"acme", "a"⟩
    cluttered _ ["ACME/a", "acme/A"] ⟨"Acme", "A"⟩ (by decide) made_cluttered (by decide) (by decide)
    hup (by decide) (by decide)
  obtain ⟨-, hmissing⟩ := @installed_once soleUser (watching "svc" "w" []) "main" "acme/a"
    ⟨"acme", "a"⟩ cluttered _ ["ACME/a", "acme/A"] ⟨"Acme", "A"⟩ (by decide) made_cluttered
    (by decide) (by decide) hup (by decide) (by decide)
  obtain ⟨id, hcreated, -, -, hleft⟩ := hmissing (by decide)
  refine ⟨(hthere (by decide)).1, hcreated, ?_⟩
  rw [restored, hleft]
  decide

end Service

end WebhookRelay
