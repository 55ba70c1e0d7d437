import WebhookRelay.Proofs.Sync.Growth

/-!
# A declaration that fails does no harm

Whichever call fails, a declaration that ends in a failure leaves the store alone, deletes nothing,
and adds nothing but its own hook to repositories that it would have gained, once to each.
-/

namespace WebhookRelay.Service

open Program Memory Reconcile

/-- A declaration that fails deletes nothing. -/
theorem not_isDelete_of_configure_error {C σ : Type} {conduct : Conduct C σ}
    {credentials : Credentials C} {new : Service} {e : Failure} {trace : List (Exchange C)}
    {s s' : σ} (hr : Runs conduct (new.configure credentials) s trace (.error e) s') :
    ∀ x ∈ trace, x.call.isDelete = false := by
  have hphase : ∀ {old : Option Service} {phase : List (Exchange C)} {r s₁ s₂},
      Runs conduct (prepare credentials new old) s₁ phase r s₂ →
        ∀ x ∈ phase, x.call.isDelete = false :=
    fun hp x hx => (hp.mem_makes makes_prepare x hx).isDelete
  cases runs_configure hr with
  | notLoaded hl => simp [Call.isDelete]
  | notPrepared hl hp =>
    intro x hx
    rcases List.mem_cons.mp hx with rfl | hx
    · rfl
    · exact hphase hp x hx
  | notSaved hl hp hs =>
    intro x hx
    rcases List.mem_cons.mp hx with rfl | hx
    · rfl
    · rcases List.mem_append.mp hx with hx | hx
      · exact hphase hp x hx
      · obtain rfl := List.mem_singleton.mp hx
        rfl

/-- **A declaration that fails does no harm.** Any call may fail, having changed nothing or, if it
was to create a hook, having created it all the same. Then the store is as it was, no hook was
deleted, and on each repository of each provider the hooks are as they were or, if it is one that is
needed now and was not before, the hook of the service has come behind them. -/
theorem configure_error_harmless {credentials : Credentials String} {new : Service} {e : Failure}
    {trace : List (Exchange String)} {w w' : World}
    (hr : Runs Hazard.lossy.Conduct (new.configure credentials) w trace (.error e) w') :
    w'.store = w.store ∧ (∀ x ∈ trace, x.call.isDelete = false) ∧
      ∀ client r, w'.hooksOn client r = w.hooksOn client r ∨
        new.client? credentials = some client ∧ Text.asciiLower r ∈ new.repos ∧
          Text.asciiLower r ∉ reposOf (w.store.get? new.id) ∧
            ∃ id, w'.hooksOn client r = w.hooksOn client r ++ [new.hookSpec.install id] := by
  have hg := grown_of_configure_error (fun s e h => Bool.false_ne_true h) hr
  refine ⟨hg.store, not_isDelete_of_configure_error hr, fun client r => ?_⟩
  rcases hg.hooks client r with he | ⟨hclient, hrepo, -, id, he⟩
  · exact .inl he
  · obtain ⟨hnew, hold⟩ := mem_added.mp hrepo
    exact .inr ⟨hclient, hnew, hold, id, he⟩

/-- A service of two repositories, where the answer about the second is lost. -/
theorem configure_error_harmless_dropping :
    ∃ e trace w', Runs Hazard.lossy.Conduct
        ((watching "svc" "u" ["Acme/A", "acme/b"]).configure soleUser) {} trace (.error e) w' ∧
      w'.store = ∅ ∧ ∀ x ∈ trace, x.call.isDelete = false := by
  have hr := runs_dropping "acme/b"
    ((watching "svc" "u" ["Acme/A", "acme/b"]).configure soleUser) {}
  rcases he : (((watching "svc" "u" ["Acme/A", "acme/b"]).configure soleUser).run
    (dropping "acme/b") {}).1 with e | a
  · rw [he] at hr
    obtain ⟨hstore, hdelete, -⟩ := configure_error_harmless hr
    exact ⟨e, _, _, hr, hstore, hdelete⟩
  · have hf : (((watching "svc" "u" ["Acme/A", "acme/b"]).configure soleUser).run
        (dropping "acme/b") {}).1.isOk = false := by decide +kernel
    rw [he] at hf
    cases hf

end WebhookRelay.Service
