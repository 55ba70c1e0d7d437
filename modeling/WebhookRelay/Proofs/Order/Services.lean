import WebhookRelay.Proofs.Sync.Phases
import Mathlib.Data.List.Forall2
import Mathlib.Data.List.Perm.Basic

/-!
# Services that are written in another order

A service is written down with its rooms in some order, and each room with its repositories in some
order. `Service.Rearranged` says that two services differ in nothing else. What follows from a service
then is the same, as far as it has no order of its own: the repositories that it needs
(`Service.Rearranged.repos_eq`), and its hook. What does have one is the same up to that: the names
of the rooms, and the rooms that an event goes to (`Service.Rearranged.bindings_perm`).
-/

namespace WebhookRelay

/-! ## Tables -/

namespace Table

variable {α β γ : Type} {R : α → β → Prop} {s : Table α} {t : Table β}

instance [DecidableEq α] (s t : Table α) : Decidable (s.Same t) :=
  inferInstanceAs (Decidable (s.entries.Perm t.entries))

/-- Two tables with the same keys, in whatever order, and with values under them that are alike. -/
def SameBy (R : α → β → Prop) (s : Table α) (t : Table β) : Prop :=
  ∃ entries, s.entries.Perm entries ∧
    List.Forall₂ (fun e f => e.1 = f.1 ∧ R e.2 f.2) entries t.entries

/-- What is gathered from the entries of such tables is the same but for its order, if it is so from
entries that are alike. -/
theorem SameBy.flatMap_perm (h : s.SameBy R t) {f : String × α → List γ} {g : String × β → List γ}
    (hfg : ∀ key a b, R a b → (f (key, a)).Perm (g (key, b))) :
    (s.entries.flatMap f).Perm (t.entries.flatMap g) := by
  obtain ⟨entries, hperm, hall⟩ := h
  refine (hperm.flatMap_right f).trans ?_
  clear hperm
  generalize t.entries = entries' at hall ⊢
  induction hall with
  | nil => exact .refl _
  | @cons e e' _ _ hhead _ ih =>
    obtain ⟨key, a⟩ := e
    obtain ⟨key', b⟩ := e'
    obtain ⟨rfl, hab⟩ := hhead
    rw [List.flatMap_cons, List.flatMap_cons]
    exact (hfg key a b hab).append ih

theorem SameBy.keys_perm (h : s.SameBy R t) : s.keys.Perm t.keys := by
  rw [keys, keys, List.map_eq_flatMap, List.map_eq_flatMap]
  exact h.flatMap_perm fun _ _ _ _ => .refl _

end Table

namespace Service

/-! ## Services -/

/-- Two services that differ only in the order of their rooms, and of the repositories of a room. -/
structure Rearranged (s s' : Service) : Prop where
  id_eq : s.id = s'.id
  callbackUrl_eq : s.callbackUrl = s'.callbackUrl
  realm_eq : s.realm = s'.realm
  user_eq : s.user = s'.user
  secretToken_eq : s.secretToken = s'.secretToken
  rooms : s.rooms.SameBy (fun r r' => r.repos.Same r'.repos) s'.rooms

namespace Rearranged

variable {C : Type} {credentials : Credentials C} {s s' : Service}

theorem refl (s : Service) : s.Rearranged s :=
  ⟨rfl, rfl, rfl, rfl, rfl, s.rooms.entries, .refl _,
    List.forall₂_same.mpr fun _ _ => ⟨rfl, .refl _⟩⟩

theorem rooms_perm (h : s.Rearranged s') : s.rooms.keys.Perm s'.rooms.keys := h.rooms.keys_perm

theorem repoKeys_perm (h : s.Rearranged s') : s.repoKeys.Perm s'.repoKeys :=
  h.rooms.flatMap_perm fun _ _ _ hr => hr.map Prod.fst

theorem repos_eq (h : s.Rearranged s') : s.repos = s'.repos :=
  NameSet.ext_mem fun repo => by simp only [mem_repos, h.repoKeys_perm.mem_iff]

theorem bindings_perm (h : s.Rearranged s') (repo : String) :
    (s.bindings repo).Perm (s'.bindings repo) :=
  h.rooms.flatMap_perm fun room _ _ hr => (hr.filter _).map fun e => (room, e.2)

theorem secret_eq (h : s.Rearranged s') : s.secret = s'.secret := by
  rw [secret, secret, h.secretToken_eq]

theorem hookSpec_eq (h : s.Rearranged s') : s.hookSpec = s'.hookSpec := by
  rw [hookSpec, hookSpec, h.callbackUrl_eq, h.secret_eq]

theorem install_eq (h : s.Rearranged s') (client : C) (repo : String) :
    s.install client repo = s'.install client repo := by
  have hspec := h.hookSpec_eq
  unfold install
  rcases RepoName.parse repo with e | name
  · rfl
  · dsimp only
    rw [hspec]
    congr 1
    funext reply
    rcases reply with e | hook
    · rfl
    · rfl

theorem uninstall_eq (h : s.Rearranged s') (repo : RepoName) :
    s.uninstall credentials repo = s'.uninstall credentials repo := by
  rw [uninstall, uninstall, h.realm_eq, h.user_eq, h.callbackUrl_eq]

end Rearranged

/-- Services that may be absent, and differ only in such an order. -/
abbrev RearrangedIf : Option Service → Option Service → Prop := Option.Rel Rearranged

theorem RearrangedIf.reposOf_eq {old old' : Option Service} (h : RearrangedIf old old') :
    reposOf old = reposOf old' := by
  cases h with
  | none => rfl
  | some h => exact h.repos_eq

end Service

/-! ## Phases -/

namespace Reconcile

open Service

variable {C : Type} {credentials : Credentials C} {client : C} {new new' : Service}
  {old old' : Option Service}

theorem clientFor_eq (h : new.Rearranged new') :
    clientFor credentials new = clientFor credentials new' := by
  rw [clientFor, clientFor, h.realm_eq, h.user_eq]

theorem change_eq (h : new.Rearranged new') (ho : RearrangedIf old old') :
    change new old = change new' old' := by
  rw [change, change, h.repos_eq, ho.reposOf_eq]

theorem installAll_eq (h : new.Rearranged new') (report : Prepared) (list : List String) :
    installAll new client report list = installAll new' client report list := by
  induction list generalizing report with
  | nil => rfl
  | cons repo rest ih => simp only [installAll, h.install_eq, ih]

theorem uninstallAll_eq (h : new.Rearranged new') (done : List Removal) (list : List String) :
    uninstallAll credentials new done list = uninstallAll credentials new' done list := by
  induction list generalizing done with
  | nil => rfl
  | cons repo rest ih => simp only [uninstallAll, uninstallNamed, h.uninstall_eq, ih]

/-- The second phase is one and the same. -/
theorem settle_eq (h : new.Rearranged new') (ho : RearrangedIf old old') :
    settle credentials new old = settle credentials new' old' := by
  have hid := h.id_eq
  simp only [settle, change_eq h ho, uninstallAll_eq h, h.repos_eq]
  generalize new.id = id at hid ⊢
  subst hid
  rfl

/-- The first phase, as far as the rooms, which come last. -/
def installs (credentials : Credentials C) (new : Service) (old : Option Service) :
    Program C (Except Failure Prepared) :=
  match clientFor credentials new with
  | .error e => .done (.error e)
  | .ok client =>
    if new.repos.isEmpty && (change new old).removed.isEmpty then
      .done (.error (.misconfigured "No webhooks specified"))
    else
      installAll new client { pending := (change new old).removed.toList }
        (change new old).added.toList

theorem prepare_eq_installs : prepare credentials new old =
    (installs credentials new old).onSuccess fun report => joinAll report new.rooms.keys := by
  rcases hclient : clientFor credentials new with e | client
  · simp only [prepare, installs, hclient]
    rfl
  · simp only [prepare, installs, hclient]
    split
    · rfl
    · rfl

theorem makes_installs : (installs credentials new old).Makes fun c => c.isStore = false := by
  unfold installs
  split
  · trivial
  · split
    · trivial
    · exact (makes_installAll _ fun repo hm => key_mem_added hm).mono fun _ hc => hc.isStore

/-- As far as the rooms, the first phase is one and the same. -/
theorem installs_eq (h : new.Rearranged new') (ho : RearrangedIf old old') :
    installs credentials new old = installs credentials new' old' := by
  simp only [installs, clientFor_eq h, change_eq h ho, h.repos_eq, installAll_eq h]

end Reconcile

end WebhookRelay
