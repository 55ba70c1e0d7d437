import WebhookRelay.Proofs.Delivery.Gate
import WebhookRelay.Proofs.Sync.Presence

/-!
# Which secret a hook signs with

A hook is created with the secret its service has at the time, and is left alone for as long as the
service needs it. So while a service is declared again and again, its hook on a repository is the one
that was asked for when the repository was last gained (`Service.issuer`), and signs with the secret
of that declaration, whereas deliveries are checked against the secret of the latest one. The two
agree unless the secret was changed on a repository that was kept (`Delivery.passes_of_declared`).

The invariant is `Memory.World.Issued`; that it is kept rests on the fact that a hook comes only to a
repository that had none (`Memory.World.Grown`), and that none is left where it is not needed
(`Memory.World.Tidy`).
-/

namespace WebhookRelay

open Program Memory

variable {name url id repo : String} {credentials : Credentials String} {new : Service}
  {history : List Service} {configured : Configured} {trace : List (Exchange String)}
  {w w₁ w' : World}

/-! ## Hooks and their secrets -/

/-- The secret of a hook, if it has one. -/
def Hook.secret? (h : Hook) : Option String := (h.config.get? "secret").bind Json.Value.text?

/-- What a provider sends for a hook: it is signed with the secret of the hook, if it has one. -/
def Hook.delivery (h : Hook) (kind : String) (body : Bytes) : Delivery.Request :=
  ({ body := body } : Delivery.Request).withHeaders (("X-GitHub-Event", kind) ::
    match h.secret? with
    | some key => [("X-Hub-Signature-256", Signature.header key body)]
    | none => [])

/-- The hook of a service has its secret. -/
@[simp] theorem Service.secret?_install (s : Service) (id : UInt64) :
    (s.hookSpec.install id).secret? = s.secret := by
  have hspec : s.hookSpec.config.get? "secret" = s.secret := by
    rw [hookSpec]
    rcases s.secret with _ | secret
    · rfl
    · show (Table.insert _ "secret" secret).get? "secret" = _
      rw [Table.get?_insert, if_pos rfl]
  rw [Hook.secret?, HookSpec.install, Table.get?_ofList_map, hspec]
  rcases s.secret with _ | secret <;> rfl

/-- A hook has its secret whatever its number is. -/
theorem Hook.secret?_of_unnumbered {h : Hook} {spec : HookSpec}
    (he : h.unnumbered = spec.install 0) : h.secret? = (spec.install 0).secret? := by
  rw [← he]
  rfl

namespace Delivery

theorem lower_signatureName : Text.lower "X-Hub-Signature-256" = signatureHeader := by decide

theorem lower_eventName : Text.lower "X-GitHub-Event" ≠ signatureHeader := by decide

/-- What a hook sends is signed with a secret if the hook has one that hashes the body alike. -/
theorem signedWith_delivery {h : Hook} {kind secret : String} {body : Bytes} :
    (h.delivery kind body).SignedWith secret ↔ ∃ key, h.secret? = some key ∧
      Digest.hmac (Utf8.encode key) body = Digest.hmac (Utf8.encode secret) body := by
  rw [Hook.delivery, Request.signedWith_withHeaders]
  rcases h.secret? with _ | key
  · simp [lower_eventName]
  · simp [lower_signatureName, Signature.check_header]

/-- What a hook sends passes the check if there is no secret, or the hook has one that hashes the
body alike. -/
theorem checkSignature_delivery {h : Hook} {kind : String} {body : Bytes} {secret : Option String} :
    (h.delivery kind body).checkSignature secret = .ok () ↔ ∀ s, secret = some s →
      ∃ key, h.secret? = some key ∧
        Digest.hmac (Utf8.encode key) body = Digest.hmac (Utf8.encode s) body := by
  cases secret with
  | none => simp [Request.checkSignature]
  | some s => simp [Request.checkSignature_eq_ok_iff, signedWith_delivery]

end Delivery

/-! ## Who asked for a hook -/

/-- The declaration that asked for the hook on a repository, of declarations with the latest first:
the earliest of those without a break up to the latest that need the repository. -/
def Service.issuer (repo : String) : List Service → Option Service
  | [] => none
  | new :: earlier => if repo ∈ new.repos then some ((issuer repo earlier).getD new) else none

namespace Memory.World

/-- A run of declarations that are made of one id with one callback URL, the latest first; each
succeeds, no call fails, and the credentials hand out clients of one provider alone. -/
inductive Declared (name url id : String) : List Service → World → World → Prop where
  | nil (w : World) : Declared name url id [] w w
  | cons {history : List Service} {w w₁ w' : World} {credentials : Credentials String}
      {new : Service} {trace : List (Exchange String)} {configured : Configured}
      (hd : Declared name url id history w w₁) (hid : new.id = id) (hurl : new.callbackUrl = url)
      (hclient : ∀ c, new.client? credentials = some c → c = name)
      (hr : Runs (Handler.conduct World.answer) (new.configure credentials) w₁ trace
        (.ok configured) w') (hok : ∀ x ∈ trace, ¬x.Failed) :
      Declared name url id (new :: history) w w'

/-- A declaration that the world answers without a failure. -/
theorem Declared.run (hd : Declared name url id history w w₁) (hid : new.id = id)
    (hurl : new.callbackUrl = url) (hclient : ∀ c, new.client? credentials = some c → c = name)
    (hsome : ((new.configure credentials).run World.answer w₁).1.isOk = true)
    (hok : ∀ x ∈ (new.configure credentials).exchanges World.answer w₁, ¬x.Failed) :
    Declared name url id (new :: history) w ((new.configure credentials).run World.answer w₁).2 := by
  have hr := runs_run World.answer (new.configure credentials) w₁
  generalize ((new.configure credentials).run World.answer w₁).1 = result at hr hsome
  cases result with
  | error e => cases hsome
  | ok configured => exact .cons hd hid hurl hclient hr hok

/-- Every hook of a service is the one that the issuer asked for. -/
structure Issued (name url id : String) (history : List Service) (w : World) : Prop where
  /-- no repository carries two hooks -/
  single : ∀ r, w.tally name url r ≤ 1
  /-- no repository carries a hook that is not needed -/
  tidy : w.Tidy name url (Service.reposOf (w.store.get? id))
  /-- where no hook is needed, nobody has asked for one -/
  vacant : ∀ repo, repo ∉ Service.reposOf (w.store.get? id) → Service.issuer repo history = none
  /-- a hook is the one that was asked for -/
  issued : ∀ r, ∀ h ∈ w.hooksOn name r, h.callbackUrl? = some url →
    ∃ s, Service.issuer (Text.asciiLower r) history = some s ∧ h.unnumbered = s.hookSpec.install 0

theorem issued_nil (hnone : ∀ r, ∀ h ∈ w.hooksOn name r, h.callbackUrl? ≠ some url) :
    w.Issued name url id [] := by
  have hzero : ∀ r, w.tally name url r = 0 := fun r => tally_eq_zero.mpr (hnone r)
  exact ⟨fun r => (hzero r).symm ▸ Nat.zero_le 1, fun r _ => hzero r, fun _ _ => rfl,
    fun r h hh hu => absurd hu (hnone r h hh)⟩

end Memory.World

namespace Service

open Reconcile

/-- A declaration that succeeds is stored, or it needs no repository and nothing is. -/
theorem get?_store_of_configure_ok {h : Hazard}
    (hr : Runs h.Conduct (new.configure credentials) w trace (.ok configured) w') :
    w'.store.get? new.id = some new ∨
      new.repos.isEmpty = true ∧ w'.store.get? new.id = none := by
  cases runs_configure hr with
  | settled hl hprep hs ht =>
    rw [hs.eq_of_ok] at ht
    rcases store_settle ht with e | ⟨he, e⟩
    · rw [e, World.store_answer, Table.get?_insert, if_pos rfl]
      exact .inl rfl
    · rw [e, Table.get?_erase, if_pos rfl]
      exact .inr ⟨he, rfl⟩

theorem mem_reposOf_of_configure_ok {h : Hazard}
    (hr : Runs h.Conduct (new.configure credentials) w trace (.ok configured) w') :
    repo ∈ reposOf (w'.store.get? new.id) ↔ repo ∈ new.repos := by
  rcases get?_store_of_configure_ok hr with e | ⟨he, e⟩
  · rw [e]
    rfl
  · rw [e]
    exact ⟨fun h => absurd h (NameSet.not_mem_empty _),
      fun h => absurd h (NameSet.isEmpty_iff.mp he _)⟩

/-- A hook of a service, after a declaration that succeeds, was there before it or is the one that
the declaration asked for, where there was none. -/
theorem hooks_of_configure_ok {h : Hazard}
    (hr : Runs h.Conduct (new.configure credentials) w trace (.ok configured) w') {r : String}
    {hook : Hook} (hh : hook ∈ w'.hooksOn name r) :
    hook ∈ w.hooksOn name r ∨
      Text.asciiLower r ∉ reposOf (w.store.get? new.id) ∧
        hook.unnumbered = new.hookSpec.install 0 := by
  cases runs_configure hr with
  | settled hl hprep hs ht =>
    obtain ⟨rfl, rfl⟩ := load_eq_ok hl
    rw [hs.eq_of_ok] at ht
    have hbefore := (hooks_settle ht name r).subset hh
    rw [World.hooksOn_answer rfl rfl] at hbefore
    rcases (grown_prepare hprep).hooks name r with e | ⟨-, hgained, -, number, e⟩
    · exact .inl (e ▸ hbefore)
    · rw [e] at hbefore
      rcases List.mem_append.mp hbefore with hold | hnew
      · exact .inl hold
      · obtain rfl := List.mem_singleton.mp hnew
        exact .inr ⟨(mem_added.mp hgained).2, HookSpec.unnumbered_install _ _⟩

/-- A declaration that succeeds without a failure asks for hooks where they are needed anew, and
lets those that are there be. -/
theorem issued_configure {h : Hazard}
    (hr : Runs h.Conduct (new.configure credentials) w trace (.ok configured) w')
    (hclient : ∀ c, new.client? credentials = some c → c = name) (hid : new.id = id)
    (hurl : new.callbackUrl = url) (hok : ∀ x ∈ trace, ¬x.Failed)
    (hi : w.Issued name url id history) : w'.Issued name url id (new :: history) := by
  have htidy := tidy_configure hr hclient hid hurl hi.single hok hi.tidy
  subst hid hurl
  refine ⟨fun r => ?_, htidy, fun repo hrepo => ?_, fun r hook hh hu => ?_⟩
  · cases runs_configure hr with
    | settled hl hprep hs ht =>
      obtain ⟨-, rfl⟩ := load_eq_ok hl
      rw [hs.eq_of_ok] at ht
      refine Nat.le_trans (hooks_settle ht name r).countP_le ?_
      rw [← World.tally, World.tally_answer rfl rfl]
      exact (grown_prepare hprep).tally_le_one (Service.url?_hookSpec new) hi.single r
  · rw [mem_reposOf_of_configure_ok hr] at hrepo
    exact if_neg hrepo
  · have hneeded : Text.asciiLower r ∈ new.repos := by
      by_contra hn
      rw [← mem_reposOf_of_configure_ok hr] at hn
      exact World.tally_eq_zero.mp (htidy r hn) hook hh hu
    rw [issuer, if_pos hneeded]
    rcases hooks_of_configure_ok hr hh with hold | ⟨hgained, hnew⟩
    · obtain ⟨s, hs, hspec⟩ := hi.issued r hook hold hu
      exact ⟨s, by rw [hs]; rfl, hspec⟩
    · exact ⟨new, by rw [hi.vacant _ hgained]; rfl, hnew⟩

end Service

namespace Memory.World

theorem Declared.issued (hd : Declared name url id history w w')
    (hnone : ∀ r, ∀ h ∈ w.hooksOn name r, h.callbackUrl? ≠ some url) :
    w'.Issued name url id history := by
  induction hd with
  | nil => exact issued_nil hnone
  | cons hd hid hurl hclient hr hok ih =>
    exact Service.issued_configure (hr.mono fun _ _ _ _ => Hazard.calm.conduct_of_answer)
      hclient hid hurl hok (ih hnone)

/-- If nothing was stored at first, every repository that is needed carries the hook. -/
theorem Declared.covered (hd : Declared name url id history w w')
    (hnone : ∀ r, ∀ h ∈ w.hooksOn name r, h.callbackUrl? ≠ some url)
    (hfirst : w.store.get? id = none) :
    w'.Covered name url (Service.reposOf (w'.store.get? id)) := by
  induction hd with
  | nil =>
    rw [hfirst]
    refine ⟨fun r => ?_, fun r hr => absurd hr (NameSet.not_mem_empty _)⟩
    rw [tally_eq_zero.mpr (hnone r)]
    exact Nat.zero_le 1
  | cons hd hid hurl hclient hr hok ih =>
    subst hid hurl
    exact Service.covered_configure (hr.mono fun _ _ _ _ => Hazard.plainStrike.conduct_of_answer)
      hclient (ih hnone hfirst)

end Memory.World

namespace Delivery

/-- **A hook signs with the secret it was asked for with.** A provider has no hook for a URL, and a
service of that URL is declared again and again; each declaration succeeds, and no call fails. Then
on each repository that the stored service needs, a hook for the URL is the one that was asked for
by the declaration that gained the repository, with the secret of that declaration; if nothing was
stored at first, there is exactly one. What the provider sends for it passes the check against the
stored service if and only if that has no secret, or the secrets of the two hash the body alike; so
it does if the secret is the same. -/
theorem passes_of_declared (hd : World.Declared name url id history w w')
    (hnone : ∀ r, ∀ h ∈ w.hooksOn name r, h.callbackUrl? ≠ some url) :
    ∀ s, w'.store.get? id = some s → ∀ r ∈ s.repos,
      (w.store.get? id = none → w'.tally name url r = 1) ∧
      ∀ h ∈ w'.hooksOn name r, h.callbackUrl? = some url →
        ∃ issuer, Service.issuer r history = some issuer ∧
          h.unnumbered = issuer.hookSpec.install 0 ∧ h.secret? = issuer.secret ∧
          (∀ kind body, (h.delivery kind body).checkSignature s.secret = .ok () ↔
            ∀ secret, s.secret = some secret → ∃ key, issuer.secret = some key ∧
              Digest.hmac (Utf8.encode key) body = Digest.hmac (Utf8.encode secret) body) ∧
          (issuer.secretToken = s.secretToken →
            ∀ kind body, (h.delivery kind body).checkSignature s.secret = .ok ()) := by
  intro s hs r hr
  have hlow := Service.asciiLower_of_mem_repos hr
  have hi := hd.issued hnone
  refine ⟨fun hfirst => Nat.le_antisymm (hi.single r) ?_, fun h hh hu => ?_⟩
  · refine (hd.covered hnone hfirst).there r ?_
    rw [hs, hlow]
    exact hr
  · obtain ⟨issuer, hissuer, hspec⟩ := hi.issued r h hh hu
    have hsecret : h.secret? = issuer.secret := by
      rw [Hook.secret?_of_unnumbered hspec, Service.secret?_install]
    have hiff : ∀ kind body, (h.delivery kind body).checkSignature s.secret = .ok () ↔
        ∀ secret, s.secret = some secret → ∃ key, issuer.secret = some key ∧
          Digest.hmac (Utf8.encode key) body = Digest.hmac (Utf8.encode secret) body := by
      intro kind body
      rw [checkSignature_delivery, hsecret]
    rw [hlow] at hissuer
    refine ⟨issuer, hissuer, hspec, hsecret, hiff, fun hsame kind body => (hiff kind body).mpr ?_⟩
    intro secret hsome
    exact ⟨secret, by rw [Service.secret, hsame, ← Service.secret, hsome], rfl⟩

/-! ### A secret that is changed -/

/-- A service with a hook on `acme/a`, and a secret. -/
def keeping (secret : String) : Service :=
  { watching "svc" "u" ["acme/a"] with secretToken := secret }

/-- The world in which it was declared with a secret, and with another one after that. -/
def rotated : World :=
  (((keeping "second").configure soleUser).run World.answer
    (((keeping "first").configure soleUser).run World.answer {}).2).2

theorem declared_rotated :
    World.Declared "main" "u" "svc" [keeping "second", keeping "first"] {} rotated :=
  have hfirst : World.Declared "main" "u" "svc" [keeping "first"] {}
      (((keeping "first").configure soleUser).run World.answer {}).2 :=
    .run (.nil {}) rfl rfl (fun _ => client_soleUser) (by decide) (by decide)
  .run hfirst rfl rfl (fun _ => client_soleUser) (by decide) (by decide)

/-- The hook has the first secret still. -/
theorem passes_of_declared_rotated : World.Declared "main" "u" "svc"
    [keeping "second", keeping "first"] {} rotated ∧
      ∃ h ∈ rotated.hooksOn "main" "acme/a", h.secret? = some "first" := by
  obtain ⟨hone, hall⟩ := passes_of_declared declared_rotated (fun r h hh => by cases hh)
    (keeping "second") (by decide +kernel) "acme/a" (by decide +kernel)
  obtain ⟨h, hh, hu⟩ := World.tally_pos.mp (Nat.lt_of_lt_of_eq Nat.one_pos (hone rfl).symm)
  obtain ⟨issuer, hissuer, -, hsecret, -⟩ := hall h hh hu
  have hfirst : some (keeping "first") = some issuer := .trans (by decide +kernel) hissuer
  obtain rfl := Option.some.inj hfirst
  exact ⟨declared_rotated, h, hh, hsecret⟩

/-- So what is sent for it is turned away. -/
theorem rotated_secret_rejected : World.Declared "main" "u" "svc"
    [keeping "second", keeping "first"] {} rotated ∧
      (∀ r, ∀ h ∈ ({} : World).hooksOn "main" r, h.callbackUrl? ≠ some "u") ∧
      rotated.store.get? "svc" = some (keeping "second") ∧ "acme/a" ∈ (keeping "second").repos ∧
      ∃ h ∈ rotated.hooksOn "main" "acme/a", h.callbackUrl? = some "u" ∧
        ((h.delivery "ping" []).checkSignature (keeping "second").secret).isOk = false :=
  ⟨declared_rotated, fun r h hh => (by cases hh), by decide +kernel, by decide +kernel,
    by decide +kernel⟩

end Delivery

end WebhookRelay
