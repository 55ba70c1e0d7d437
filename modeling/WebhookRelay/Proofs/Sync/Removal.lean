import WebhookRelay.Proofs.Operations
import WebhookRelay.Proofs.Sync.Growth

/-!
# What the second phase leaves behind

Taking hooks off some repositories lets a world shrink: the store is as it was, no repository gains
a hook, and the other repositories are not touched (`Memory.World.Shrunk`). This is so whatever
fails. Where nothing fails, the hook is gone in the end (`Service.tally_uninstall`), from every
repository it was to be taken off (`Reconcile.tally_uninstallAll`).
-/

namespace WebhookRelay

open Program

namespace Memory

namespace World

/-- What taking hooks off some repositories does to a world. -/
structure Shrunk (repos : RepoName → Prop) (w w' : World) : Prop where
  /-- the store is as it was -/
  store : w'.store = w.store
  /-- no hook has come -/
  hooks : ∀ name r, (w'.hooksOn name r).Sublist (w.hooksOn name r)
  /-- no hook has gone from a repository that is none of these -/
  elsewhere : ∀ name r, (∀ repo, repos repo → repo.key ≠ Text.asciiLower r) →
    w'.hooksOn name r = w.hooksOn name r

variable {repos : RepoName → Prop} {w w₁ w' : World}

theorem Shrunk.refl (w : World) : Shrunk repos w w :=
  ⟨rfl, fun _ _ => .refl _, fun _ _ _ => rfl⟩

theorem Shrunk.trans (h₁ : Shrunk repos w w₁) (h₂ : Shrunk repos w₁ w') : Shrunk repos w w' :=
  ⟨h₂.store.trans h₁.store, fun name r => (h₂.hooks name r).trans (h₁.hooks name r),
    fun name r hr => (h₂.elsewhere name r hr).trans (h₁.elsewhere name r hr)⟩

theorem Shrunk.mono {repos' : RepoName → Prop} (h : Shrunk repos w w')
    (hsub : ∀ repo, repos repo → repos' repo) : Shrunk repos' w w' :=
  ⟨h.store, h.hooks, fun name r hr => h.elsewhere name r fun repo hm => hr repo (hsub repo hm)⟩

theorem Shrunk.tally_le (h : Shrunk repos w w') (name url r : String) :
    w'.tally name url r ≤ w.tally name url r :=
  (h.hooks name r).countP_le

/-- Sending messages, listing hooks and deleting hooks lets a world shrink. -/
theorem shrunk_answer {client : Option String} {c : Call String}
    (hc : c.isSend = true ∨ c.Removes client repos) (w : World) :
    Shrunk repos w (answer c w).2 := by
  cases c with
  | send room m => exact ⟨rfl, fun _ _ => .refl _, fun _ _ _ => rfl⟩
  | listHooks name repo =>
    have he : ∀ n r, (answer (.listHooks name repo) w).2.hooksOn n r = w.hooksOn n r :=
      fun n r => hooksOn_answer rfl rfl
    exact ⟨rfl, fun n r => he n r ▸ .refl _, fun n r _ => he n r⟩
  | deleteHook name repo id =>
    obtain ⟨-, hrepo⟩ := hc.resolve_left Bool.false_ne_true
    refine ⟨rfl, fun n r => ?_, fun n r hr => ?_⟩
    · rw [hooksOn_deleteHook]
      split
      · exact List.filter_sublist
      · exact .refl _
    · rw [hooksOn_deleteHook, if_neg fun h => hr repo hrepo h.2.2.symm]
  | _ => rcases hc with hc | hc <;> cases hc

end World

/-- Whatever befalls such a call, the world only shrinks. -/
theorem Hazard.Conduct.shrunk {h : Hazard} {c : Call String} {reply : c.Reply} {w w' : World}
    {client : Option String} {repos : RepoName → Prop} (hc : h.Conduct c w reply w')
    (hp : c.isSend = true ∨ c.Removes client repos) : World.Shrunk repos w w' := by
  rcases hc.world_eq with rfl | rfl
  · exact .refl _
  · exact World.shrunk_answer hp w

/-- Whatever befalls a program of such calls, the world only shrinks. -/
theorem shrunk_of_runs {h : Hazard} {α : Type} {p : Program String α} {a : α} {w w' : World}
    {trace : List (Exchange String)} {client : Option String} {repos : RepoName → Prop}
    (hr : Runs h.Conduct p w trace a w')
    (hp : p.Makes fun c => c.isSend = true ∨ c.Removes client repos) : World.Shrunk repos w w' :=
  hr.induct hp (fun _ _ _ _ hc hstep hs => hs.trans (hstep.shrunk hc)) (.refl w)

end Memory

open Memory

variable {h : Hazard} {credentials : Credentials String} {service : Service} {name : String}
  {trace : List (Exchange String)} {w w' : World}

/-- A hook that reports to the service is the only one, and is taken out, so none is left. -/
theorem countP_filter_id_ne {url : String} {hooks : List Hook} {hook : Hook} (hm : hook ∈ hooks)
    (hu : hook.callbackUrl? = some url) (hone : hooks.countP (Hook.reportsTo url) ≤ 1) :
    (hooks.filter (·.id ≠ hook.id)).countP (Hook.reportsTo url) = 0 := by
  have hsplit := List.countP_eq_countP_filter_add hooks (Hook.reportsTo url)
    fun h => h.id ≠ hook.id
  have hgone : 0 < (hooks.filter fun h => !decide (h.id ≠ hook.id)).countP (Hook.reportsTo url) :=
    List.countP_pos_iff.mpr ⟨hook, by simp [hm], by simp [hu]⟩
  omega

/-- Uninstalling without a failure leaves no hook of the service on the repository, if there was
one at most. -/
theorem Service.tally_uninstall {repo : RepoName} {result : Except Failure UInt64}
    (hr : Runs h.Conduct (service.uninstall credentials repo) w trace result w')
    (hclient : service.client? credentials = some name) (hok : ∀ x ∈ trace, ¬x.Failed)
    (hone : w.tally name service.callbackUrl repo.fullName ≤ 1) :
    w'.tally name service.callbackUrl repo.fullName = 0 := by
  cases runs_uninstall hr with
  | nobody hnone => cases hnone.symm.trans hclient
  | notListed _ hl => exact absurd (fun hc => Bool.false_ne_true hc.1) (hok _ List.mem_cons_self)
  | notFound hc hl hf =>
    obtain rfl := Option.some.inj (hc.symm.trans hclient)
    obtain ⟨rfl, hsame, -⟩ := hl.of_listed
    rw [World.tally, hsame, ← World.tally, World.tally_eq_zero]
    intro x hx
    simpa using List.find?_eq_none.mp hf x hx
  | @found client hooks hook deleted w₁ w' hc hl hf hd =>
    obtain rfl := Option.some.inj (hc.symm.trans hclient)
    obtain ⟨rfl, hsame, hup⟩ := hl.of_listed
    rcases deleted with e | u
    · exact absurd (fun hc => Bool.false_ne_true hc.1)
        (hok _ (List.mem_cons_of_mem _ List.mem_cons_self))
    · rw [World.tally, hd.eq_of_ok, World.hooksOn_deleteHook, if_pos ⟨rfl, hup, rfl⟩, hsame]
      refine countP_filter_id_ne (List.mem_of_find?_eq_some hf) ?_ hone
      simpa using List.find?_some hf

namespace Reconcile

/-- The second phase takes hooks off the repositories that are lost, and that is all; or the service
needs no repository and is to be forgotten. -/
theorem runs_settle {C σ : Type} {conduct : Conduct C σ} {credentials : Credentials C}
    {new : Service} {old : Option Service} {s s' : σ} {trace : List (Exchange C)}
    {settled : Settled} (hr : Runs conduct (settle credentials new old) s trace settled s') :
    ∃ before s₁ after,
      Runs conduct (uninstallAll credentials new [] (change new old).removed.toList)
        s before settled.removals s₁ ∧ trace = before ++ after ∧
      ((new.repos.isEmpty = false ∧ settled.pruned = false ∧ after = [] ∧ s' = s₁) ∨
        (new.repos.isEmpty = true ∧ ∃ reply, conduct (.forget new.id) s₁ reply s' ∧
          settled.pruned = reply.isOk ∧ after = [⟨.forget new.id, reply⟩])) := by
  obtain ⟨before, removals, s₁, after, hu, hn, rfl⟩ := runs_bind.mp hr
  split at hn
  · next he =>
    obtain ⟨reply, s₂, rest, hf, hd, rfl⟩ := runs_call.mp hn
    obtain ⟨rfl, rfl, rfl⟩ := runs_done.mp hd
    exact ⟨before, s₁, _, hu, rfl, .inr ⟨he, reply, hf, rfl, rfl⟩⟩
  · next he =>
    obtain ⟨rfl, rfl, rfl⟩ := runs_done.mp hn
    exact ⟨before, s', [], hu, rfl, .inl ⟨Bool.eq_false_iff.mpr he, rfl, rfl, rfl⟩⟩

/-- Taking hooks off the repositories that are lost lets a world shrink there. -/
theorem shrunk_uninstallAll {new : Service} {old : Option Service} {removals : List Removal}
    (hr : Runs h.Conduct (uninstallAll credentials new [] (change new old).removed.toList)
      w trace removals w') :
    World.Shrunk (fun repo => repo.key ∈ (change new old).removed) w w' :=
  shrunk_of_runs hr ((makes_uninstall_removed new old []).mono fun _ hc => .inr hc)

/-- Uninstalling without a failure leaves no hook of the service on any of the repositories. -/
theorem tally_uninstallAll {done removals : List Removal} {list : List String}
    (hr : Runs h.Conduct (uninstallAll credentials service done list) w trace removals w')
    (hclient : service.client? credentials = some name) (hok : ∀ x ∈ trace, ¬x.Failed)
    (hone : ∀ r, w.tally name service.callbackUrl r ≤ 1)
    (hlist : ∀ repo ∈ list, ∃ n, RepoName.parse repo = .ok n ∧ n.key = repo) :
    ∀ repo ∈ list, w'.tally name service.callbackUrl repo = 0 := by
  induction list generalizing w trace done with
  | nil => simp
  | cons repo rest ih =>
    obtain ⟨before, result, w₁, after, hu, hn, rfl⟩ := runs_bind.mp hr
    obtain ⟨n, hn', hk⟩ := hlist repo List.mem_cons_self
    simp only [uninstallNamed, hn'] at hu
    have hsame : Text.asciiLower repo = Text.asciiLower n.fullName := by
      rw [← hk, RepoName.key, Text.asciiLower_asciiLower]
    have hgone := Service.tally_uninstall hu hclient
      (fun x hx => hok x (List.mem_append_left _ hx)) (hone _)
    have hshrunk : World.Shrunk (fun _ => True) w w₁ :=
      shrunk_of_runs hu ((Service.makes_uninstall trivial).mono fun c hc => .inr hc)
    have hrest : World.Shrunk (fun _ => True) w₁ w' :=
      shrunk_of_runs hn (makes_uninstallAll _ fun _ _ _ _ =>
        (Service.makes_uninstall trivial).mono fun c hc => .inr hc)
    intro x hx
    rcases List.mem_cons.mp hx with rfl | hx
    · have hle := hrest.tally_le name service.callbackUrl n.fullName
      rw [hgone] at hle
      rw [World.tally_congr hsame]
      exact Nat.le_zero.mp hle
    · exact ih hn (fun x hx => hok x (List.mem_append_right _ hx))
        (fun r => Nat.le_trans (hshrunk.tally_le name _ r) (hone r))
        (fun y hy => hlist y (List.mem_cons_of_mem _ hy)) x hx

end Reconcile

/-- A delivery lets a world shrink on repositories that the stored service does not need. -/
theorem Delivery.shrunk_handleFor {id : String} {request : Request} {response : Response}
    (hr : Runs h.Conduct (handleFor credentials id request) w trace response w') :
    World.Shrunk (fun repo => ∃ service, w.store.get? id = some service ∧
      repo.key ∉ service.repos) w w' := by
  obtain ⟨loaded, w₁, rest, hl, -, hend⟩ := runs_handleFor hr
  have hw : w₁ = w := by
    rcases hl.world_eq with e | e
    · exact e
    · exact e
  subst hw
  rcases hend with ⟨-, rfl⟩ | ⟨service, rfl, hn⟩
  · exact .refl _
  · obtain ⟨hs, -⟩ := Service.load_eq_ok hl
    exact (shrunk_of_runs hn makes_handle).mono fun repo hrepo => ⟨service, hs.symm, hrepo⟩

end WebhookRelay
