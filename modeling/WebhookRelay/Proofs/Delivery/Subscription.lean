import WebhookRelay.Proofs.Delivery.Gate
import WebhookRelay.Proofs.Sync.Removal

/-!
# Deliveries and declarations agree on what is subscribed

A declaration creates hooks on the set `Service.repos`, a delivery looks for rooms in the list
`Service.bindings`; the one leaves out keys that name no repository, the other does not, and both
fold letter case in their own way. They agree all the same
(`Service.bindings_eq_nil_iff_not_mem_repos`), so a delivery takes a hook off just where the
declaration needs none.

Routing an event ends at one of three places: `Delivery.Routes` lists them, and
`Delivery.runs_route` says that there are no others.
-/

namespace WebhookRelay

open Program Memory

variable {C σ : Type} {conduct : Conduct C σ} {credentials : Credentials C} {s : Service}
  {st st' : σ} {trace : List (Exchange C)}

/-- The repository that a call to a provider is about. -/
def Call.target? : Call C → Option RepoName
  | listHooks _ repo | createHook _ repo _ | deleteHook _ repo _ => some repo
  | _ => none

theorem Call.Removes.target {client : Option C} {repos : RepoName → Prop} {c : Call C}
    {repo : RepoName} (h : c.Removes client repos) (ht : c.target? = some repo) : repos repo := by
  cases c with
  | listHooks => exact Option.some.inj ht ▸ h.2
  | deleteHook => exact Option.some.inj ht ▸ h.2
  | _ => cases h

namespace Delivery

variable {r : Request} {e : Event} {response : Response}

/-! ## Where an event can end -/

/-- Where a run of routing an event can end. -/
inductive Routes (conduct : Conduct C σ) (credentials : Credentials C) (s : Service) (e : Event)
    (st : σ) : List (Exchange C) → Response → σ → Prop where
  /-- rooms name the repository, and those that want the event are told -/
  | told {trace : List (Exchange C)} {sent : List Sent} {st' : σ} (hb : s.bindings e.repo ≠ [])
      (hr : Runs conduct (sendAll e.message []
        (((s.bindings e.repo).filter (·.2.wants e.kind)).map (·.1))) st trace sent st') :
      Routes conduct credentials s e st trace
        ⟨200, { event := some e.kind
                repo := some e.repo
                matched := (s.bindings e.repo).length
                sent := sent }⟩ st'
  /-- no room names the repository, and nothing can be done about it -/
  | malformed (hb : s.bindings e.repo = []) (hp : RepoName.wellFormed e.repo = false) :
      Routes conduct credentials s e st []
        ⟨400, { event := some e.kind, repo := some e.repo }⟩ st
  /-- no room names the repository, and the hook is taken off -/
  | orphaned {trace : List (Exchange C)} {repo : RepoName} {result : Except Failure UInt64}
      {st' : σ} (hb : s.bindings e.repo = []) (hp : RepoName.parse e.repo = .ok repo)
      (hr : Runs conduct (s.uninstall credentials repo) st trace result st') :
      Routes conduct credentials s e st trace
        ⟨200, { event := some e.kind, repo := some e.repo, cleanup := some result }⟩ st'

theorem runs_route (hr : Runs conduct (route credentials s e) st trace response st') :
    Routes conduct credentials s e st trace response st' := by
  unfold route at hr
  dsimp only at hr
  split at hr
  · next hb =>
    have hb := List.isEmpty_iff.mp hb
    rw [hb] at hr
    split at hr
    · next hp =>
      obtain ⟨rfl, rfl, rfl⟩ := runs_done.mp hr
      exact .malformed hb (by rw [RepoName.wellFormed, hp]; rfl)
    · next repo hp =>
      obtain ⟨before, result, st₁, after, hu, hd, rfl⟩ := runs_bind.mp hr
      obtain ⟨rfl, rfl, rfl⟩ := runs_done.mp hd
      rw [List.append_nil]
      exact .orphaned hb hp hu
  · next hb =>
    obtain ⟨before, sent, st₁, after, hs, hd, rfl⟩ := runs_bind.mp hr
    obtain ⟨rfl, rfl, rfl⟩ := runs_done.mp hd
    rw [List.append_nil]
    exact .told (fun h => hb (List.isEmpty_iff.mpr h)) hs

/-- Routing tries to take a hook off just where the service needs none. -/
theorem Routes.cleanup_iff (h : Routes conduct credentials s e st trace response st') :
    response.report.cleanup.isSome = true ↔
      RepoName.wellFormed e.repo = true ∧ Text.asciiLower e.repo ∉ s.repos := by
  cases h with
  | told hb hr =>
    simp only [Option.isSome_none, Bool.false_eq_true, false_iff, not_and, not_not]
    intro hw
    by_contra hn
    exact hb ((Service.bindings_eq_nil_iff_not_mem_repos hw).mpr hn)
  | malformed hb hp => simp [hp]
  | orphaned hb hp hr =>
    have hw := RepoName.wellFormed_iff.mpr ⟨_, hp⟩
    simp [hw, (Service.bindings_eq_nil_iff_not_mem_repos hw).mp hb]

/-- Routing finds fault with a repository just when it is malformed and no key is the same text,
letter case apart. -/
theorem Routes.status_eq_iff (h : Routes conduct credentials s e st trace response st') :
    response.status = 400 ↔ RepoName.wellFormed e.repo = false ∧
      ∀ key ∈ s.repoKeys, Text.asciiLower key ≠ Text.asciiLower e.repo := by
  rw [← Service.bindings_eq_nil_iff]
  cases h with
  | told hb hr => simp [hb]
  | malformed hb hp => simp [hb, hp]
  | orphaned hb hp hr => simp [RepoName.wellFormed_iff.mpr ⟨_, hp⟩]

theorem Routes.status_or (h : Routes conduct credentials s e st trace response st') :
    response.status = 400 ∨ response.status = 200 := by
  cases h with
  | malformed => exact .inl rfl
  | told | orphaned => exact .inr rfl

/-! ## Deliveries -/

theorem handle_of_verify (hv : r.verify s.secret = .ok (.event e)) :
    handle credentials s r = route credentials s e := by
  rw [handle, hv]

/-- Whatever comes in, no call to a provider is about a repository that the service needs. -/
theorem not_mem_repos_of_handle (hr : Runs conduct (handle credentials s r) st trace response st') :
    ∀ x ∈ trace, ∀ repo, x.call.target? = some repo → repo.key ∉ s.repos := by
  intro x hx repo ht
  rcases hr.mem_makes makes_handle x hx with hsend | hremoves
  · rcases x with ⟨c, reply⟩
    cases c with
    | send => cases ht
    | _ => cases hsend
  · exact hremoves.target ht

/-- **Deliveries and declarations agree on what is subscribed.** If a request is verified to be an
event of a repository, taking a hook off is tried just when the repository is well-formed and the
service needs no hook on it; the answer is that the request is bad just when the repository is
malformed and no key of the service is that text, letter case apart, and that all is well otherwise.
Whatever the request is, no call to a provider is about a repository that the service needs, and
where a provider is one in memory, the hooks there are as they were, whatever fails. -/
theorem handle_agrees (hr : Runs conduct (handle credentials s r) st trace response st') :
    (∀ e, r.verify s.secret = .ok (.event e) →
      (response.report.cleanup.isSome = true ↔
        (RepoName.parse e.repo).isOk = true ∧ Text.asciiLower e.repo ∉ s.repos) ∧
      (response.status = 400 ↔ (RepoName.parse e.repo).isOk = false ∧
        ∀ key ∈ s.repoKeys, Text.asciiLower key ≠ Text.asciiLower e.repo) ∧
      (response.status = 400 ∨ response.status = 200)) ∧
    (∀ x ∈ trace, ∀ repo, x.call.target? = some repo → repo.key ∉ s.repos) ∧
    ∀ (h : Hazard) (users : Credentials String) (w w' : World) (calls : List (Exchange String))
      (answer : Response), Runs h.Conduct (handle users s r) w calls answer w' →
        ∀ provider repo, Text.asciiLower repo ∈ s.repos →
          w'.hooksOn provider repo = w.hooksOn provider repo := by
  refine ⟨fun e hv => ?_, not_mem_repos_of_handle hr, fun h users w w' calls answer hworld
    provider repo hrepo => ?_⟩
  · rw [handle_of_verify hv] at hr
    have hroutes := runs_route hr
    exact ⟨hroutes.cleanup_iff, hroutes.status_eq_iff, hroutes.status_or⟩
  · exact (shrunk_of_runs hworld makes_handle).elsewhere provider repo fun other hother hkey =>
      hother (hkey ▸ hrepo)

/-- A service with a hook on `acme/a` hears of a push to a repository it has nothing to do with,
and of one to no repository. -/
theorem handle_agrees_pushes :
    (∃ trace response w', Runs (Handler.conduct World.answer)
        (handle soleUser (watching "svc" "u" ["acme/a"]) (pushOf "Acme/Ghost" [])) {} trace response
        w' ∧ response.report.cleanup.isSome = true) ∧
    ∃ trace response w', Runs (Handler.conduct World.answer)
        (handle soleUser (watching "svc" "u" ["acme/a"]) (pushOf "Ghost" [])) {} trace response w' ∧
      response.status = 400 := by
  constructor
  · have hr := runs_run World.answer
      (handle soleUser (watching "svc" "u" ["acme/a"]) (pushOf "Acme/Ghost" [])) {}
    have hv : (pushOf "Acme/Ghost" []).verify (watching "svc" "u" ["acme/a"]).secret =
        .ok (.event ⟨"push", "Acme/Ghost",
          .notice "[Acme/Ghost] someone pushed 0 commits to ?", none⟩) := by rfl
    exact ⟨_, _, _, hr, ((handle_agrees hr).1 _ hv).1.mpr (by decide +kernel)⟩
  · have hr := runs_run World.answer
      (handle soleUser (watching "svc" "u" ["acme/a"]) (pushOf "Ghost" [])) {}
    have hv : (pushOf "Ghost" []).verify (watching "svc" "u" ["acme/a"]).secret =
        .ok (.event ⟨"push", "Ghost", .notice "[Ghost] someone pushed 0 commits to ?", none⟩) := by
      rfl
    exact ⟨_, _, _, hr, ((handle_agrees hr).1 _ hv).2.1.mpr (by decide +kernel)⟩

end Delivery

end WebhookRelay
