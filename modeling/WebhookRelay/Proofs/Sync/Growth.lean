import WebhookRelay.Proofs.Memory.Hazards
import WebhookRelay.Proofs.Sync.Phases

/-!
# What the first phase leaves behind

Wherever the first phase stops, the world has only grown: the store is as it was, every hook is
still there, and at most one hook of the service has come to each repository that is gained
(`Memory.World.Grown`). Since a hook is created only where none reports to the same URL, growing
twice is growing once, so what one call does (`grown_answer`) is what the whole phase does
(`grown_prepare`), and all that a declaration has done that fails (`grown_of_configure_error`).
-/

namespace WebhookRelay

open Program

namespace Memory

namespace World

/-- What asking for a hook on some repositories does to a world, as often as one likes. -/
structure Grown (client : Option String) (spec : HookSpec) (repos : NameSet) (w w' : World) :
    Prop where
  /-- the store is as it was -/
  store : w'.store = w.store
  /-- the same repositories fail -/
  failing : ∀ name, (w'.provider name).failing = (w.provider name).failing
  /-- the same rooms fail -/
  rooms : w'.chat.failing = w.chat.failing
  /-- hooks are as they were, or one has come where none was -/
  hooks : ∀ name r, w'.hooksOn name r = w.hooksOn name r ∨
    client = some name ∧ Text.asciiLower r ∈ repos ∧
      (∀ h ∈ w.hooksOn name r, h.callbackUrl? ≠ spec.url?) ∧
        ∃ id, w'.hooksOn name r = w.hooksOn name r ++ [spec.install id]

variable {client : Option String} {spec : HookSpec} {repos : NameSet} {w w₁ w' : World}

theorem Grown.refl (w : World) : Grown client spec repos w w :=
  ⟨rfl, fun _ => rfl, rfl, fun _ _ => .inl rfl⟩

/-- The hook that has come keeps a second one away. -/
theorem Grown.trans (h₁ : Grown client spec repos w w₁) (h₂ : Grown client spec repos w₁ w') :
    Grown client spec repos w w' := by
  refine ⟨h₂.store.trans h₁.store, fun name => (h₂.failing name).trans (h₁.failing name),
    h₂.rooms.trans h₁.rooms, fun name r => ?_⟩
  rcases h₁.hooks name r with e₁ | ⟨hc, hr, hn, id, e₁⟩
  · rw [← e₁]
    exact h₂.hooks name r
  · rcases h₂.hooks name r with e₂ | ⟨-, -, hn', -⟩
    · exact .inr ⟨hc, hr, hn, id, e₂.trans e₁⟩
    · have hlast : spec.install id ∈ w₁.hooksOn name r := by simp [e₁]
      exact absurd (HookSpec.callbackUrl?_install spec id) (hn' _ hlast)

/-- The hooks that report to the service are as many as they were, or the first one has come. -/
theorem Grown.tally (h : Grown client spec repos w w') {url : String} (hu : spec.url? = some url)
    (name r : String) : w'.tally name url r = w.tally name url r ∨
      client = some name ∧ Text.asciiLower r ∈ repos ∧ w.tally name url r = 0 ∧
        w'.tally name url r = 1 := by
  rcases h.hooks name r with e | ⟨hc, hr, hn, id, e⟩
  · exact .inl (by rw [World.tally, World.tally, e])
  · have hnone : w.tally name url r = 0 := by
      rw [tally_eq_zero, ← hu]
      exact hn
    refine .inr ⟨hc, hr, hnone, ?_⟩
    rw [World.tally, e, List.countP_append, ← World.tally, hnone]
    simp [hu]

theorem Grown.tally_le (h : Grown client spec repos w w') {url : String}
    (hu : spec.url? = some url) (name r : String) : w.tally name url r ≤ w'.tally name url r := by
  rcases h.tally hu name r with e | ⟨-, -, e, -⟩
  · exact Nat.le_of_eq e.symm
  · rw [e]
    exact Nat.zero_le _

/-- A call of the first phase lets a world grow. -/
theorem grown_answer {c : Call String} (hc : c.Prepares client spec repos) (w : World) :
    Grown client spec repos w (answer c w).2 := by
  cases c with
  | join room =>
    exact ⟨rfl, fun _ => rfl, rooms_answer _ w, fun _ _ => .inl rfl⟩
  | createHook name repo sp =>
    obtain ⟨hclient, hrepo, rfl⟩ := hc
    refine ⟨rfl, fun _ => failing_answer _ w _, rfl, fun n r => ?_⟩
    by_cases ha : (w.provider name).Accepts repo sp
    · rw [hooksOn_createHook_of_accepts ha]
      split
      · next h =>
        obtain ⟨rfl, hr⟩ := h
        refine .inr ⟨hclient, hr ▸ hrepo, fun x hx => ?_, _, rfl⟩
        have hk : Text.asciiLower r = Text.asciiLower repo.fullName := hr
        rw [hooksOn_congr hk] at hx
        exact ha.2 x hx
      · exact .inl rfl
    · exact .inl (hooksOn_createHook_of_not_accepts ha)
  | _ => cases hc

end World

/-- Whatever befalls a call of the first phase, the world only grows. -/
theorem Hazard.Conduct.grown {h : Hazard} {c : Call String} {reply : c.Reply}
    {client : Option String}
    {spec : HookSpec} {repos : NameSet} {w w' : World} (hc : h.Conduct c w reply w')
    (hp : c.Prepares client spec repos) : World.Grown client spec repos w w' := by
  rcases hc.world_eq with rfl | rfl
  · exact .refl w'
  · exact World.grown_answer hp w

/-- Whatever befalls a program of such calls, the world only grows. -/
theorem grown_of_runs {h : Hazard} {α : Type} {p : Program String α} {a : α} {w w' : World}
    {trace : List (Exchange String)} {client : Option String} {spec : HookSpec} {repos : NameSet}
    (hr : Runs h.Conduct p w trace a w') (hp : p.Makes (Call.Prepares client spec repos)) :
    World.Grown client spec repos w w' :=
  hr.induct hp (fun _ _ _ _ hc hstep hg => hg.trans (hstep.grown hc)) (.refl w)

end Memory

open Memory

namespace Reconcile

/-- Wherever the first phase stops, the world has only grown, by hooks of the service on
repositories that are gained. -/
theorem grown_prepare {h : Hazard} {credentials : Credentials String} {new : Service}
    {old : Option Service} {r : Except Failure Prepared} {trace : List (Exchange String)}
    {w w' : World} (hr : Runs h.Conduct (prepare credentials new old) w trace r w') :
    World.Grown (new.client? credentials) new.hookSpec (change new old).added w w' :=
  grown_of_runs hr makes_prepare

end Reconcile

namespace Service

/-- Looking up tells what is stored and changes nothing. -/
theorem load_eq_ok {h : Hazard} {id : String} {old : Option Service} {w w₁ : World}
    (hl : h.Conduct (.load id) w (.ok old) w₁) : old = w.store.get? id ∧ w₁ = w := by
  have he : (Except.ok (w.store.get? id), w) = (Except.ok old, w₁) := hl.eq_answer
  cases he
  exact ⟨rfl, rfl⟩

/-- A declaration that fails has left the world grown, if storing a service is not lost. -/
theorem grown_of_configure_error {h : Hazard} {credentials : Credentials String} {new : Service}
    {e : Failure} {trace : List (Exchange String)} {w w' : World}
    (hlost : ∀ s e, ¬h.loses (.save s) e)
    (hr : Runs h.Conduct (new.configure credentials) w trace (.error e) w') :
    World.Grown (new.client? credentials) new.hookSpec
      (Reconcile.change new (w.store.get? new.id)).added w w' := by
  cases runs_configure hr with
  | notLoaded hl =>
    rcases hl.world_eq with rfl | rfl
    · exact .refl w'
    · exact .refl _
  | notPrepared hl hp =>
    obtain ⟨rfl, rfl⟩ := load_eq_ok hl
    exact Reconcile.grown_prepare hp
  | notSaved hl hp hs =>
    obtain ⟨rfl, rfl⟩ := load_eq_ok hl
    rcases hs.of_error with he | ⟨-, rfl⟩ | ⟨he, -⟩
    · cases congrArg Prod.fst he
    · exact Reconcile.grown_prepare hp
    · exact absurd he (hlost _ _)

end Service

/-! ## When nothing is amiss -/

variable {name : String} {credentials : Credentials String} {new : Service} {old : Option Service}
  {trace : List (Exchange String)} {w w' : World}

/-- When installing succeeds, the hook is there. -/
theorem Service.tally_install {repo : String} {n : RepoName} {i : Installed}
    (hr : Runs Hazard.plainStrike.Conduct (new.install name repo) w trace (.ok i) w')
    (hn : RepoName.parse repo = .ok n) : 0 < w'.tally name new.callbackUrl n.fullName := by
  simp only [install, hn] at hr
  obtain ⟨reply, w₁, rest, hc, hd, rfl⟩ := runs_call.mp hr
  rcases reply with e | hook
  · obtain ⟨-, hreply, rfl⟩ := runs_done.mp hd
    -- the provider says that the hook is there, and it says so itself
    have he : e.isHookExists = true := by
      by_contra hne
      rw [if_neg hne] at hreply
      cases hreply
    rcases hc.of_error with ha | ⟨hs, -⟩ | ⟨hl, -⟩
    · have hex := World.createHook_eq_exists (congrArg Prod.fst ha) he
      have hna : ¬(w.provider name).Accepts n new.hookSpec := fun h =>
        hex.elim fun x hx => h.2 x hx.1 hx.2
      obtain rfl : (World.answer _ w).2 = w' := congrArg Prod.snd ha
      rw [World.tally_pos, World.hooksOn_createHook_of_not_accepts hna]
      simpa using hex
    · exact absurd ⟨rfl, he⟩ hs
    · exact hl.elim
  · obtain ⟨-, -, rfl⟩ := runs_done.mp hd
    have ha := World.createHook_eq_ok (congrArg Prod.fst hc.eq_answer)
    rw [World.tally_pos, hc.eq_of_ok, World.hooksOn_createHook_of_accepts ha, if_pos ⟨rfl, rfl⟩]
    exact ⟨_, List.mem_append_right _ (List.mem_singleton_self _), by simp⟩

namespace Reconcile

/-- When installing succeeds on all of some repositories, each of them has the hook. -/
theorem tally_installAll {report prepared : Prepared} {list : List String}
    (hr : Runs Hazard.plainStrike.Conduct (installAll new name report list) w trace
      (.ok prepared) w')
    (hlist : ∀ repo ∈ list, ∃ n, RepoName.parse repo = .ok n ∧ n.key = repo) :
    ∀ repo ∈ list, 0 < w'.tally name new.callbackUrl repo := by
  induction list generalizing report w trace with
  | nil => simp
  | cons repo rest ih =>
    rcases runs_onSuccess.mp hr with ⟨e, he, -⟩ | ⟨before, i, w₁, after, hi, hn, rfl⟩
    · cases he
    · have hrest := fun y hy => hlist y (List.mem_cons_of_mem _ hy)
      obtain ⟨n, hname, hk⟩ := hlist repo List.mem_cons_self
      have hhere : 0 < w₁.tally name new.callbackUrl repo := by
        have hsame : Text.asciiLower repo = Text.asciiLower n.fullName := by
          rw [← hk, RepoName.key, Text.asciiLower_asciiLower]
        rw [World.tally_congr hsame]
        exact Service.tally_install hi hname
      obtain ⟨report', hn⟩ : ∃ report', Runs Hazard.plainStrike.Conduct
          (installAll new name report' rest) w₁ after (.ok prepared) w' := by
        cases i with
        | created => exact ⟨_, hn⟩
        | alreadyThere => exact ⟨_, hn⟩
      have hg : World.Grown (some name) new.hookSpec (NameSet.ofList rest) w₁ w' := by
        refine grown_of_runs hn (makes_installAll _ fun y hy m hm => ?_)
        obtain ⟨m', hm', hk'⟩ := hrest y hy
        obtain rfl : m' = m := Except.ok.inj (hm'.symm.trans hm)
        rw [hk']
        exact NameSet.mem_ofList.mpr hy
      intro y hy
      rcases List.mem_cons.mp hy with rfl | hy
      · exact Nat.lt_of_lt_of_le hhere (hg.tally_le (Service.url?_hookSpec new) name y)
      · exact ih hn hrest y hy

/-- When the first phase succeeds, the repositories that are gained have the hook. -/
theorem tally_prepare {prepared : Prepared} {r : String}
    (hr : Runs Hazard.plainStrike.Conduct (prepare credentials new old) w trace (.ok prepared) w')
    (hclient : new.client? credentials = some name)
    (hrepo : Text.asciiLower r ∈ (change new old).added) :
    0 < w'.tally name new.callbackUrl r := by
  cases runs_prepare hr with
  | installed hcl hi hj =>
    obtain rfl := Option.some.inj ((client_of_clientFor hcl).symm.trans hclient)
    have hthere := tally_installAll hi
      (fun repo hm => Service.exists_name_of_mem_repos (mem_added.mp hm).1) _ hrepo
    have hjoin : World.Grown none new.hookSpec ∅ _ w' :=
      grown_of_runs hj (makes_joinAll (fun room => trivial) _ _)
    rw [World.tally_congr (Text.asciiLower_asciiLower r).symm]
    exact Nat.lt_of_lt_of_le hthere (hjoin.tally_le (Service.url?_hookSpec new) _ _)

end Reconcile

end WebhookRelay
