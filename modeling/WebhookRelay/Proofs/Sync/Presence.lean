import WebhookRelay.Proofs.Sync.Removal

/-!
# The hooks of a service are there

One service is declared again and again, under one id and with one callback URL, deliveries come in,
and any call may fail. Between two operations every repository that the stored declaration needs
carries exactly one hook of the service; and as long as no call has failed, no other repository
carries one.

The invariant is `Memory.World.Present`: nothing is stored under another id, no repository carries
two hooks of the service, and those that the stored declaration needs carry one
(`Memory.World.Covered`). It is inductive by itself. The second half, `Memory.World.Tidy`, needs the
first, since the second phase takes one hook off a repository and no more. Both are about how often
the URL is found on a repository (`Memory.World.tally`), which the first phase raises from zero to
one (`Grown.tally`) and the second phase lowers.
-/

namespace WebhookRelay

open Program Memory

variable {name url id : String} {credentials : Credentials String} {new : Service}
  {old : Option Service} {repos : NameSet} {trace : List (Exchange String)} {w w' : World}

/-! ## What is kept -/

namespace Memory.World

/-- Each of some repositories carries a hook for a URL, and no repository carries two. -/
structure Covered (name url : String) (repos : NameSet) (w : World) : Prop where
  single : ∀ r, w.tally name url r ≤ 1
  there : ∀ r, Text.asciiLower r ∈ repos → 0 < w.tally name url r

/-- No repository besides some carries a hook for a URL. -/
def Tidy (name url : String) (repos : NameSet) (w : World) : Prop :=
  ∀ r, Text.asciiLower r ∉ repos → w.tally name url r = 0

/-- At most one service is stored, and its repositories carry their hook. -/
structure Present (name url id : String) (w : World) : Prop where
  /-- nothing is stored under another id -/
  sole : ∀ i, i ≠ id → w.store.get? i = none
  /-- the stored service has its hooks -/
  covered : w.Covered name url (Service.reposOf (w.store.get? id))

/-- A hook comes only where there is none. -/
theorem Grown.tally_le_one {client : Option String} {spec : HookSpec} {gained : NameSet}
    (hg : Grown client spec gained w w') (hu : spec.url? = some url)
    (hone : ∀ r, w.tally name url r ≤ 1) (r : String) : w'.tally name url r ≤ 1 := by
  rcases hg.tally hu name r with e | ⟨-, -, -, e⟩
  · rw [e]
    exact hone r
  · exact Nat.le_of_eq e

theorem Covered.of_grown {client : Option String} {spec : HookSpec} {gained : NameSet}
    (hc : w.Covered name url repos) (hg : Grown client spec gained w w')
    (hu : spec.url? = some url) : w'.Covered name url repos :=
  ⟨hg.tally_le_one hu hc.single, fun r hr =>
    Nat.lt_of_lt_of_le (hc.there r hr) (hg.tally_le hu name r)⟩

theorem Covered.of_shrunk {lost : RepoName → Prop} (hc : w.Covered name url repos)
    (hs : Shrunk lost w w') (hlost : ∀ repo, lost repo → repo.key ∉ repos) :
    w'.Covered name url repos := by
  refine ⟨fun r => Nat.le_trans (hs.tally_le name url r) (hc.single r), fun r hr => ?_⟩
  have hkeep : w'.hooksOn name r = w.hooksOn name r :=
    hs.elsewhere name r fun repo hl hk => hlost repo hl (hk ▸ hr)
  rw [tally, hkeep]
  exact hc.there r hr

theorem Covered.of_tally (hc : w.Covered name url repos)
    (h : ∀ r, w'.tally name url r = w.tally name url r) : w'.Covered name url repos :=
  ⟨fun r => (h r).symm ▸ hc.single r, fun r hr => (h r).symm ▸ hc.there r hr⟩

theorem Tidy.of_shrunk {lost : RepoName → Prop} (ht : w.Tidy name url repos)
    (hs : Shrunk lost w w') : w'.Tidy name url repos := by
  intro r hr
  have hle := hs.tally_le name url r
  rw [ht r hr] at hle
  exact Nat.le_zero.mp hle

end Memory.World

/-! ## A declaration -/

/-- Whether an operation serves the one service: a declaration is for its id and its callback URL,
and the credentials hand out clients of its provider alone. -/
structure Operation.Serves (name url id : String) (op : Operation String) : Prop where
  client : ∀ realm user c, op.credentials.client realm user = some c → c = name
  declares : ∀ credentials new, op = .configure credentials new →
    new.id = id ∧ new.callbackUrl = url

namespace Reconcile

/-- When the first phase succeeds, the repositories of the new declaration are covered if those of
the old one were. -/
theorem covered_prepare {prepared : Prepared}
    (hr : Runs Hazard.plainStrike.Conduct (prepare credentials new old) w trace (.ok prepared) w')
    (hclient : ∀ c, new.client? credentials = some c → c = name)
    (hc : w.Covered name new.callbackUrl (Service.reposOf old)) :
    w'.Covered name new.callbackUrl new.repos := by
  have hg := grown_prepare hr
  refine ⟨(hc.of_grown hg (Service.url?_hookSpec new)).single, fun r hnew => ?_⟩
  by_cases hold : Text.asciiLower r ∈ Service.reposOf old
  · exact (hc.of_grown hg (Service.url?_hookSpec new)).there r hold
  · obtain ⟨client, hcl⟩ := exists_client_of_prepare_ok hr
    obtain rfl := hclient client hcl
    exact tally_prepare hr hcl (mem_added.mpr ⟨hnew, hold⟩)

/-- The second phase lets the world shrink where repositories are lost, and may then forget a service
that needs none. -/
theorem shrunk_settle {h : Hazard} {settled : Settled}
    (hr : Runs h.Conduct (settle credentials new old) w trace settled w') :
    ∃ w₁, World.Shrunk (fun repo => repo.key ∈ (change new old).removed) w w₁ ∧
      (w' = w₁ ∨ new.repos.isEmpty = true ∧ w' = (World.answer (.forget new.id) w₁).2) := by
  obtain ⟨before, w₁, after, hu, -, hlast⟩ := runs_settle hr
  refine ⟨w₁, shrunk_uninstallAll hu, ?_⟩
  rcases hlast with ⟨-, -, -, rfl⟩ | ⟨he, reply, hf, -⟩
  · exact .inl rfl
  · rcases hf.world_eq with rfl | rfl
    · exact .inl rfl
    · exact .inr ⟨he, rfl⟩

/-- The second phase leaves the store as it was, or forgets a service that needs no repository. -/
theorem store_settle {h : Hazard} {settled : Settled}
    (hr : Runs h.Conduct (settle credentials new old) w trace settled w') :
    w'.store = w.store ∨ new.repos.isEmpty = true ∧ w'.store = w.store.erase new.id := by
  obtain ⟨w₁, hs, rfl | ⟨he, rfl⟩⟩ := shrunk_settle hr
  · exact .inl hs.store
  · exact .inr ⟨he, by rw [World.store_answer, hs.store]⟩

/-- No hook comes in the second phase. -/
theorem hooks_settle {h : Hazard} {settled : Settled}
    (hr : Runs h.Conduct (settle credentials new old) w trace settled w') (name r : String) :
    (w'.hooksOn name r).Sublist (w.hooksOn name r) := by
  obtain ⟨w₁, hs, rfl | ⟨-, rfl⟩⟩ := shrunk_settle hr
  · exact hs.hooks name r
  · rw [World.hooksOn_answer rfl rfl]
    exact hs.hooks name r

/-- The second phase keeps the repositories of the new declaration covered, and leaves that
declaration stored or forgets it. -/
theorem covered_settle {h : Hazard} {settled : Settled}
    (hr : Runs h.Conduct (settle credentials new old) w trace settled w')
    (hstored : w.store.get? new.id = some new) (hc : w.Covered name url new.repos) :
    w'.Covered name url (Service.reposOf (w'.store.get? new.id)) := by
  obtain ⟨w₁, hs, hend⟩ := shrunk_settle hr
  have hc₁ : w₁.Covered name url new.repos :=
    hc.of_shrunk hs fun repo hl => (mem_removed.mp hl).2
  rcases hend with rfl | ⟨-, rfl⟩
  · rw [hs.store, hstored]
    exact hc₁
  · rw [World.store_answer, Table.get?_erase, if_pos rfl]
    refine ⟨fun r => ?_, fun r hr => absurd hr (NameSet.not_mem_empty _)⟩
    rw [World.tally_answer rfl rfl]
    exact hc₁.single r

/-- When no call fails, the second phase takes the hook off every repository that is lost. -/
theorem tidy_settle {h : Hazard} {settled : Settled}
    (hr : Runs h.Conduct (settle credentials new old) w trace settled w')
    (hclient : new.client? credentials = some name) (hok : ∀ x ∈ trace, ¬x.Failed)
    (hstored : w.store.get? new.id = some new)
    (hone : ∀ r, w.tally name new.callbackUrl r ≤ 1)
    (ht : ∀ r, Text.asciiLower r ∉ Service.reposOf old → Text.asciiLower r ∉ new.repos →
      w.tally name new.callbackUrl r = 0) :
    w'.Tidy name new.callbackUrl (Service.reposOf (w'.store.get? new.id)) := by
  obtain ⟨before, w₁, after, hu, rfl, hlast⟩ := runs_settle hr
  have hs := shrunk_uninstallAll hu
  have ht₁ : w₁.Tidy name new.callbackUrl new.repos := by
    intro r hnew
    by_cases hold : Text.asciiLower r ∈ Service.reposOf old
    · rw [World.tally_congr (Text.asciiLower_asciiLower r).symm]
      exact tally_uninstallAll hu hclient (fun x hx => hok x (List.mem_append_left _ hx)) hone
        (fun repo hm => exists_name_of_mem_reposOf (mem_removed.mp hm).1) _
        (mem_removed.mpr ⟨hold, hnew⟩)
    · have hle := hs.tally_le name new.callbackUrl r
      rw [ht r hold hnew] at hle
      exact Nat.le_zero.mp hle
  rcases hlast with ⟨-, -, -, rfl⟩ | ⟨he, reply, hf, -, rfl⟩
  · rw [hs.store, hstored]
    exact ht₁
  · intro r _
    have hnone := ht₁ r (NameSet.isEmpty_iff.mp he _)
    rcases hf.world_eq with rfl | rfl
    · exact hnone
    · rw [World.tally_answer rfl rfl]
      exact hnone

end Reconcile

namespace Service

open Reconcile

/-- A declaration concerns no other id. -/
theorem get?_store_configure {result : Except Failure Configured}
    (hr : Runs Hazard.plainStrike.Conduct (new.configure credentials) w trace result w') {i : String}
    (hi : i ≠ new.id) : w'.store.get? i = w.store.get? i := by
  rcases result with e | configured
  · rw [(grown_of_configure_error (fun _ _ hl => hl) hr).store]
  · cases runs_configure hr with
    | settled hl hprep hs ht =>
      obtain ⟨-, rfl⟩ := load_eq_ok hl
      rw [hs.eq_of_ok] at ht
      rcases store_settle ht with e | ⟨-, e⟩
      · rw [e, World.store_answer, Table.get?_insert, if_neg hi.symm, (grown_prepare hprep).store]
      · rw [e, Table.get?_erase, if_neg hi.symm, World.store_answer, Table.get?_insert,
          if_neg hi.symm, (grown_prepare hprep).store]

/-- A declaration keeps the repositories that the stored service needs covered. -/
theorem covered_configure {result : Except Failure Configured}
    (hr : Runs Hazard.plainStrike.Conduct (new.configure credentials) w trace result w')
    (hclient : ∀ c, new.client? credentials = some c → c = name)
    (hc : w.Covered name new.callbackUrl (reposOf (w.store.get? new.id))) :
    w'.Covered name new.callbackUrl (reposOf (w'.store.get? new.id)) := by
  rcases result with e | configured
  · have hg := grown_of_configure_error (fun _ _ hl => hl) hr
    rw [hg.store]
    exact hc.of_grown hg (Service.url?_hookSpec new)
  · cases runs_configure hr with
    | settled hl hprep hs ht =>
      obtain ⟨rfl, rfl⟩ := load_eq_ok hl
      have hc₁ := covered_prepare hprep hclient hc
      rw [hs.eq_of_ok] at ht
      refine covered_settle ht ?_ (hc₁.of_tally fun r => World.tally_answer rfl rfl _)
      rw [World.store_answer, Table.get?_insert, if_pos rfl]

/-- A declaration of the service keeps its hooks there. -/
theorem present_configure {result : Except Failure Configured}
    (hr : Runs Hazard.plainStrike.Conduct (new.configure credentials) w trace result w')
    (hclient : ∀ c, new.client? credentials = some c → c = name) (hid : new.id = id)
    (hurl : new.callbackUrl = url) (hp : w.Present name url id) : w'.Present name url id := by
  subst hid hurl
  exact ⟨fun i hi => (get?_store_configure hr hi).trans (hp.sole i hi),
    covered_configure hr hclient hp.covered⟩

/-- A declaration in which no call fails leaves no hook of the service where it is not needed, if
there was none. -/
theorem tidy_configure {h : Hazard} {result : Except Failure Configured}
    (hr : Runs h.Conduct (new.configure credentials) w trace result w')
    (hclient : ∀ c, new.client? credentials = some c → c = name) (hid : new.id = id)
    (hurl : new.callbackUrl = url) (hone : ∀ r, w.tally name url r ≤ 1)
    (hok : ∀ x ∈ trace, ¬x.Failed) (ht : w.Tidy name url (reposOf (w.store.get? id))) :
    w'.Tidy name url (reposOf (w'.store.get? id)) := by
  subst hid hurl
  cases runs_configure hr with
  | notLoaded hl => exact absurd (fun hx => Bool.false_ne_true hx.1) (hok _ List.mem_cons_self)
  | notPrepared hl hprep =>
    obtain ⟨rfl, rfl⟩ := load_eq_ok hl
    rcases failed_or_refused_of_prepare_error hprep with ⟨x, hx, hf⟩ | ⟨rfl, -⟩
    · exact absurd hf (hok x (List.mem_cons_of_mem _ hx))
    · exact ht
  | notSaved hl hprep hs =>
    exact absurd (fun hx => Bool.false_ne_true hx.1)
      (hok _ (List.mem_cons_of_mem _ (List.mem_append_right _ List.mem_cons_self)))
  | settled hl hprep hs hset =>
    obtain ⟨rfl, rfl⟩ := load_eq_ok hl
    rw [hs.eq_of_ok] at hset
    obtain ⟨client, hcl⟩ := exists_client_of_prepare_ok hprep
    obtain rfl := hclient client hcl
    have hg := grown_prepare hprep
    refine tidy_settle hset hcl (fun x hx => hok x ?_) ?_ (fun r => ?_) fun r hold hnew => ?_
    · exact List.mem_cons_of_mem _ (List.mem_append_right _ (List.mem_cons_of_mem _ hx))
    · rw [World.store_answer, Table.get?_insert, if_pos rfl]
    · rw [World.tally_answer rfl rfl]
      exact hg.tally_le_one (Service.url?_hookSpec new) hone r
    · rw [World.tally_answer rfl rfl]
      rcases hg.tally (Service.url?_hookSpec new) client r with e | ⟨-, hr, -, -⟩
      · rw [e]
        exact ht r hold
      · exact absurd (mem_added.mp hr).1 hnew

end Service

/-! ## Operations -/

namespace Operation

variable {op : Operation String} {ops : List (Operation String)} {u : Unit}

/-- An operation keeps the hooks of the service there. -/
theorem present_program (hop : op.Serves name url id)
    (hr : Runs Hazard.plainStrike.Conduct op.program w trace u w') (hp : w.Present name url id) :
    w'.Present name url id := by
  cases op with
  | configure credentials new =>
    obtain ⟨result, hr⟩ := runs_configure hr
    obtain ⟨hid, hurl⟩ := hop.declares _ _ rfl
    exact Service.present_configure hr (hop.client _ _) hid hurl hp
  | deliver credentials i request =>
    obtain ⟨response, hr⟩ := runs_deliver hr
    have hs := Delivery.shrunk_handleFor hr
    refine ⟨fun j hj => ?_, ?_⟩
    · rw [hs.store]
      exact hp.sole j hj
    · rw [hs.store]
      refine hp.covered.of_shrunk hs fun repo ⟨service, hget, hrepo⟩ => ?_
      obtain rfl : i = id := by
        by_contra hi
        rw [hp.sole i hi] at hget
        cases hget
      rw [hget]
      exact hrepo

/-- An operation in which no call fails keeps hooks away from where they are not needed. -/
theorem tidy_program (hop : op.Serves name url id)
    (hr : Runs Hazard.plainStrike.Conduct op.program w trace u w') (hp : w.Present name url id)
    (hok : ∀ x ∈ trace, ¬x.Failed) (ht : w.Tidy name url (Service.reposOf (w.store.get? id))) :
    w'.Tidy name url (Service.reposOf (w'.store.get? id)) := by
  cases op with
  | configure credentials new =>
    obtain ⟨result, hr⟩ := runs_configure hr
    obtain ⟨hid, hurl⟩ := hop.declares _ _ rfl
    exact Service.tidy_configure hr (hop.client _ _) hid hurl hp.covered.single hok ht
  | deliver credentials i request =>
    obtain ⟨response, hr⟩ := runs_deliver hr
    have hs := Delivery.shrunk_handleFor hr
    rw [hs.store]
    exact ht.of_shrunk hs

theorem present_series (hops : ∀ op ∈ ops, op.Serves name url id)
    (hr : Runs Hazard.plainStrike.Conduct (series ops) w trace u w')
    (hp : w.Present name url id) :
    w'.Present name url id ∧ ((∀ x ∈ trace, ¬x.Failed) →
      w.Tidy name url (Service.reposOf (w.store.get? id)) →
        w'.Tidy name url (Service.reposOf (w'.store.get? id))) := by
  induction ops generalizing w trace with
  | nil =>
    obtain ⟨-, -, rfl⟩ := runs_done.mp hr
    exact ⟨hp, fun _ ht => ht⟩
  | cons op rest ih =>
    obtain ⟨before, w₁, after, hop, hrest, rfl⟩ := runs_series_cons hr
    have hserves := hops op List.mem_cons_self
    have hp₁ := present_program hserves hop hp
    obtain ⟨hp', htidy⟩ := ih (fun op ho => hops op (List.mem_cons_of_mem _ ho)) hrest hp₁
    refine ⟨hp', fun hok ht => ?_⟩
    refine htidy (fun x hx => hok x (List.mem_append_right _ hx)) ?_
    exact tidy_program hserves hop hp (fun x hx => hok x (List.mem_append_left _ hx)) ht

/-- **The hooks of a service are there.** Nothing is stored, and a provider has no hook for a URL.
Then the service of that URL is declared and delivered to, again and again, by whoever is a user of
the provider, with any call failing that may. After that, each repository that the stored
declaration needs carries exactly one hook for the URL; and if no call has failed, no other
repository carries one. -/
theorem hooks_of_series (hops : ∀ op ∈ ops, op.Serves name url id) (hstore : w.store = ∅)
    (hnone : ∀ r, ∀ h ∈ w.hooksOn name r, h.callbackUrl? ≠ some url)
    (hr : Runs Hazard.plainStrike.Conduct (series ops) w trace u w') :
    (∀ s, w'.store.get? id = some s → ∀ r ∈ s.repos, w'.tally name url r = 1) ∧
      ((∀ x ∈ trace, ¬x.Failed) → ∀ r, Text.asciiLower r ∉ Service.reposOf (w'.store.get? id) →
        ∀ h ∈ w'.hooksOn name r, h.callbackUrl? ≠ some url) := by
  have hzero : ∀ r, w.tally name url r = 0 := fun r => World.tally_eq_zero.mpr (hnone r)
  have hget : ∀ i, w.store.get? i = none := fun i => by rw [hstore, Table.get?_empty]
  have hp : w.Present name url id := by
    refine ⟨fun i _ => hget i, fun r => ?_, fun r hr => ?_⟩
    · rw [hzero]
      exact Nat.zero_le 1
    · rw [hget] at hr
      cases hr
  obtain ⟨hp', htidy⟩ := present_series hops hr hp
  refine ⟨fun s hs r hm => ?_, fun hok r hm => ?_⟩
  · obtain ⟨n, -, hk⟩ := Service.exists_name_of_mem_repos hm
    have hlow : Text.asciiLower r = r := by
      rw [← hk, RepoName.key, Text.asciiLower_asciiLower]
    have hthere : 0 < w'.tally name url r := by
      refine hp'.covered.there r ?_
      rw [hs, hlow]
      exact hm
    exact Nat.le_antisymm (hp'.covered.single r) hthere
  · exact World.tally_eq_zero.mp (htidy hok (fun r _ => hzero r) r hm)

/-- A service that moves from one repository to another, and a request that is no delivery. -/
def moving : List (Operation String) :=
  [.configure soleUser (watching "svc" "u" ["Acme/A"]), .deliver soleUser "svc" {},
    .configure soleUser (watching "svc" "u" ["acme/b"])]

/-- When the service has moved, the hook has moved with it. -/
theorem hooks_of_moving : ∃ trace w',
    Runs Hazard.plainStrike.Conduct (series moving) {} trace () w' ∧
      w'.tally "main" "u" "acme/b" = 1 ∧
        ∀ h ∈ w'.hooksOn "main" "acme/a", h.callbackUrl? ≠ some "u" := by
  have hr := Hazard.plainStrike.runs_answer (series moving) {}
  have hops : ∀ op ∈ moving, op.Serves "main" "u" "svc" := by
    intro op ho
    simp only [moving, List.mem_cons, List.not_mem_nil, or_false] at ho
    rcases ho with rfl | rfl | rfl <;> refine ⟨fun _ _ _ => client_soleUser, ?_⟩
    · rintro _ _ ⟨⟩
      exact ⟨rfl, rfl⟩
    · rintro _ _ ⟨⟩
    · rintro _ _ ⟨⟩
      exact ⟨rfl, rfl⟩
  obtain ⟨hthere, htidy⟩ := hooks_of_series hops rfl (fun r h hh => by cases hh) hr
  refine ⟨_, _, hr, ?_, ?_⟩
  · exact hthere (watching "svc" "u" ["acme/b"]) (by decide +kernel) _ (by decide)
  · exact htidy (by decide +kernel) "acme/a" (by decide +kernel)

end Operation

end WebhookRelay
