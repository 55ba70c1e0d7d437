import WebhookRelay.Proofs.Sync.Presence

/-!
# Where a declaration does not look

A declaration is compared with the one that is stored, and not with the hooks that are there. So it
can be said of each repository that it needs whether the hook is there once the declaration has
succeeded (`Service.carries_of_configure_ok`): a repository that is gained carries it, whatever was
on it before, and one that is kept carries it if it did before, since its hooks are as they were.

It follows that a hook that has gone from a repository that is kept, or that reports to another URL
because the service was moved, is not replaced (`Service.kept_overlooked`).
-/

namespace WebhookRelay

open Program Memory

variable {credentials : Credentials String} {new : Service} {old : Option Service}
  {trace : List (Exchange String)} {w w' : World} {r : String}

namespace Reconcile

/-- The first phase leaves repositories alone that are needed already. -/
theorem hooksOn_prepare {h : Hazard} {result : Except Failure Prepared}
    (hr : Runs h.Conduct (prepare credentials new old) w trace result w')
    (hold : Text.asciiLower r ∈ Service.reposOf old) (name : String) :
    w'.hooksOn name r = w.hooksOn name r := by
  rcases (grown_prepare hr).hooks name r with e | ⟨-, hgained, -⟩
  · exact e
  · exact absurd hold (mem_added.mp hgained).2

/-- The second phase leaves repositories alone that are needed now. -/
theorem hooksOn_settle {h : Hazard} {settled : Settled}
    (hr : Runs h.Conduct (settle credentials new old) w trace settled w')
    (hnew : Text.asciiLower r ∈ new.repos) (name : String) :
    w'.hooksOn name r = w.hooksOn name r := by
  obtain ⟨w₁, hs, hend⟩ := shrunk_settle hr
  have hkeep : w₁.hooksOn name r = w.hooksOn name r := by
    apply hs.elsewhere name r
    intro repo hlost hk
    exact (mem_removed.mp hlost).2 (hk ▸ hnew)
  rcases hend with rfl | ⟨-, rfl⟩
  · exact hkeep
  · rw [World.hooksOn_answer rfl rfl]
    exact hkeep

end Reconcile

namespace Service

open Reconcile

/-- **A declaration that succeeds has its hook on what it gained.** Any call may fail, but a provider
does not say of itself that a hook is there. If the declaration succeeds all the same, then on the
provider of its user each repository that it needs carries a hook for its URL just when the stored
declaration did not need the repository, or it carried one before; and the hooks on a repository that
the stored declaration needed are what they were, on every provider. -/
theorem carries_of_configure_ok {configured : Configured}
    (hr : Runs Hazard.plainStrike.Conduct (new.configure credentials) w trace (.ok configured) w') :
    ∃ name, new.client? credentials = some name ∧ ∀ r ∈ new.repos,
      ((∃ h ∈ w'.hooksOn name r, h.callbackUrl? = some new.callbackUrl) ↔
        r ∉ reposOf (w.store.get? new.id) ∨
          ∃ h ∈ w.hooksOn name r, h.callbackUrl? = some new.callbackUrl) ∧
      (r ∈ reposOf (w.store.get? new.id) →
        ∀ provider, w'.hooksOn provider r = w.hooksOn provider r) := by
  cases runs_configure hr with
  | settled hl hprep hs ht =>
    obtain ⟨rfl, hw⟩ := load_eq_ok hl
    rw [hw] at hprep
    obtain ⟨name, hclient⟩ := exists_client_of_prepare_ok hprep
    refine ⟨name, hclient, fun r hnew => ?_⟩
    have hlow := asciiLower_of_mem_repos hnew
    rw [hs.eq_of_ok] at ht
    -- storing the declaration comes in between, and changes no hook
    have hlast := fun provider =>
      (hooksOn_settle ht (hlow.symm ▸ hnew) provider).trans (World.hooksOn_answer rfl rfl)
    by_cases hold : r ∈ reposOf (w.store.get? new.id)
    · have hkept : ∀ provider, w'.hooksOn provider r = w.hooksOn provider r := by
        intro provider
        rw [hlast, hooksOn_prepare hprep (hlow.symm ▸ hold)]
      refine ⟨?_, fun _ => hkept⟩
      rw [hkept]
      simp [hold]
    · have hthere := tally_prepare hprep hclient (hlow.symm ▸ mem_added.mpr ⟨hnew, hold⟩)
      rw [World.tally_pos, ← hlast] at hthere
      exact ⟨iff_of_true hthere (.inl hold), fun h => absurd h hold⟩

/-! ### Repositories that are overlooked -/

/-- A declaration succeeds, no call fails, and a repository that it needs carries no hook for its URL
on the provider of its user. -/
def Overlooks (s : Service) (w : World) (r : String) : Prop :=
  ((s.configure soleUser).run World.answer w).1.isOk = true ∧
    (∀ x ∈ (s.configure soleUser).exchanges World.answer w, ¬x.Failed) ∧
      s.client? soleUser = some "main" ∧ r ∈ s.repos ∧
        ∀ h ∈ ((s.configure soleUser).run World.answer w).2.hooksOn "main" r,
          h.callbackUrl? ≠ some s.callbackUrl

/-- The world in which a service was declared. -/
def declaredAlone (s : Service) : World := ((s.configure soleUser).run World.answer {}).2

/-- The same, where a repository was cleared behind everybody's back. -/
def declaredAndCleared (s : Service) (r : String) : World :=
  (declaredAlone s).setProvider "main" (((declaredAlone s).provider "main").clear r)

/-- A repository that is kept is overlooked when its hook has gone, and when the service has moved. -/
theorem kept_overlooked :
    Overlooks (watching "svc" "u" ["acme/a"])
        (declaredAndCleared (watching "svc" "u" ["acme/a"]) "acme/a") "acme/a" ∧
      Overlooks (watching "svc" "v" ["acme/a"]) (declaredAlone (watching "svc" "u" ["acme/a"]))
        "acme/a" := by
  unfold Overlooks
  decide +kernel

/-- A service that keeps one repository and gains another, which it finds a hook for already. -/
theorem carries_of_configure_gaining :
    ∃ trace configured w', Runs Hazard.plainStrike.Conduct
        ((watching "svc" "u" ["Acme/A", "acme/b"]).configure soleUser)
        (declaredAlone (watching "svc" "u" ["acme/a"])) trace (.ok configured) w' ∧
      (∃ h ∈ w'.hooksOn "main" "acme/b", h.callbackUrl? = some "u") ∧
      w'.hooksOn "main" "acme/a" =
        (declaredAlone (watching "svc" "u" ["acme/a"])).hooksOn "main" "acme/a" := by
  have hr := Hazard.plainStrike.runs_answer
    ((watching "svc" "u" ["Acme/A", "acme/b"]).configure soleUser)
    (declaredAlone (watching "svc" "u" ["acme/a"]))
  rcases he : (((watching "svc" "u" ["Acme/A", "acme/b"]).configure soleUser).run World.answer
    (declaredAlone (watching "svc" "u" ["acme/a"]))).1 with e | configured
  · have hok : (((watching "svc" "u" ["Acme/A", "acme/b"]).configure soleUser).run World.answer
        (declaredAlone (watching "svc" "u" ["acme/a"]))).1.isOk = true := by decide +kernel
    rw [he] at hok
    cases hok
  · rw [he] at hr
    obtain ⟨name, hclient, hall⟩ := carries_of_configure_ok hr
    obtain rfl := client_soleUser hclient
    refine ⟨_, configured, _, hr, ?_, ?_⟩
    · exact (hall "acme/b" (by decide +kernel)).1.mpr (.inl (by decide +kernel))
    · exact (hall "acme/a" (by decide +kernel)).2 (by decide +kernel) "main"

end Service

end WebhookRelay
