import WebhookRelay.Proofs.Memory.Keeping

/-!
# What a server has stored

Requests come to a server one after the other, and anybody may send them. One that is answered is
turned away, or is a delivery, or holds a declaration; in the last case its service has a name, and
its callback URL is the server's (`Http.runs_answer`). A delivery changes nothing that is stored, and
a declaration is stored only when its user is signed in and as long as it needs a repository. So as
much is known of every service that a server has stored (`Http.Registered`).
-/

namespace WebhookRelay.Http

open Program Memory

variable {C σ : Type} {conduct : Conduct C σ} {credentials : Credentials C}
  {settings : ServerSettings} {r : Request} {response : Response} {s s' : σ}
  {trace : List (Exchange C)} {t t' : Table Service}

/-- Answers requests one after the other. -/
def answerAll (settings : ServerSettings) (credentials : Credentials C) :
    List Request → Program C (List Response)
  | [] => .done []
  | r :: rest =>
    (answer settings credentials r).bind fun response =>
      (answerAll settings credentials rest).bind fun responses => .done (response :: responses)

/-! ## What a request can be -/

/-- What comes of a request that is a delivery to an id. -/
theorem runs_deliver {id : List Char}
    (hr : Runs conduct (deliver credentials id r) s trace response s') :
    (trace = [] ∧ s' = s) ∨ ∃ id answered,
      Runs conduct (Delivery.handleFor credentials id r.toDelivery) s trace answered s' := by
  unfold deliver at hr
  split at hr
  · obtain ⟨rfl, -, rfl⟩ := runs_done.mp hr
    exact .inl ⟨rfl, rfl⟩
  · next id _ =>
    obtain ⟨before, answered, s₁, after, hh, hd, rfl⟩ := runs_bind.mp hr
    obtain ⟨rfl, -, rfl⟩ := runs_done.mp hd
    rw [List.append_nil]
    exact .inr ⟨id, answered, hh⟩

/-- What comes of a request to configure a service. The service has a name, and the server says where
deliveries go. -/
theorem runs_configure (hr : Runs conduct (configure settings credentials r) s trace response s') :
    (trace = [] ∧ s' = s) ∨ ∃ new result, new.id ≠ "" ∧
      new.callbackUrl = settings.callbackUrl new.id ∧
        Runs conduct (Service.configure credentials new) s trace result s' := by
  unfold configure at hr
  split at hr
  · obtain ⟨rfl, -, rfl⟩ := runs_done.mp hr
    exact .inl ⟨rfl, rfl⟩
  · next declared _ =>
    split at hr
    · obtain ⟨rfl, -, rfl⟩ := runs_done.mp hr
      exact .inl ⟨rfl, rfl⟩
    · next hid =>
      obtain ⟨before, result, s₁, after, hc, hd, rfl⟩ := runs_bind.mp hr
      have hend : after = [] ∧ s' = s₁ := by
        cases result with
        | ok c => exact ⟨(runs_done.mp hd).1, (runs_done.mp hd).2.2⟩
        | error e => exact ⟨(runs_done.mp hd).1, (runs_done.mp hd).2.2⟩
      obtain ⟨rfl, rfl⟩ := hend
      rw [List.append_nil]
      refine .inr ⟨_, result, ?_, rfl, hc⟩
      exact fun h => hid (String.isEmpty_iff.mpr h)

/-- What comes of a request: it is turned away, or it is a delivery, or a service is declared. -/
theorem runs_answer (hr : Runs conduct (answer settings credentials r) s trace response s') :
    (trace = [] ∧ s' = s) ∨
      (∃ id answered,
        Runs conduct (Delivery.handleFor credentials id r.toDelivery) s trace answered s') ∨
      ∃ new result, new.id ≠ "" ∧ new.callbackUrl = settings.callbackUrl new.id ∧
        Runs conduct (Service.configure credentials new) s trace result s' := by
  unfold answer at hr
  split at hr
  · obtain ⟨rfl, -, rfl⟩ := runs_done.mp hr
    exact .inl ⟨rfl, rfl⟩
  · next route _ =>
    split at hr
    · obtain ⟨rfl, -, rfl⟩ := runs_done.mp hr
      exact .inl ⟨rfl, rfl⟩
    · cases route with
      | hooks id => exact (runs_deliver hr).imp_right .inl
      | configure => exact (runs_configure hr).imp_right .inr

/-! ## What is known -/

/-- What is known of a service that a server has stored under an id. -/
structure Registered (settings : ServerSettings) (credentials : Credentials C) (id : String)
    (s : Service) : Prop where
  /-- it is stored under its own name -/
  id_eq : s.id = id
  /-- which is one -/
  named : id ≠ ""
  /-- deliveries go where the server says -/
  callbackUrl : s.callbackUrl = settings.callbackUrl id
  /-- its realm is of the right kind -/
  realm : credentials.realmType s.realm = some githubRealm
  /-- its user is signed in there -/
  client : ∃ client, s.client? credentials = some client
  /-- it needs a repository -/
  repos : s.repos.isEmpty = false

/-- A request keeps everything that is stored registered. -/
theorem registered_answer (hr : Runs Keeping (answer settings credentials r) t trace response t')
    (hforget : ∀ x ∈ trace, x.call.isForget = true → ¬x.Failed)
    (ht : ∀ id s, t.get? id = some s → Registered settings credentials id s) :
    ∀ id s, t'.get? id = some s → Registered settings credentials id s := by
  rcases runs_answer hr with ⟨-, rfl⟩ | ⟨id, answered, hh⟩ | ⟨new, result, hid, hurl, hc⟩
  · exact ht
  · rwa [Delivery.kept_handleFor hh]
  · refine Service.stored_configure hc hforget (fun client hclient hneeds => ?_) ht
    obtain ⟨-, hrealm, hsigned⟩ := Reconcile.clientFor_eq_ok_iff.mp hclient
    exact ⟨rfl, hid, hurl, hrealm, ⟨client, hsigned⟩, hneeds⟩

/-- A server at work does so, whatever the network answers. -/
theorem registered_respond {τ : Type} {settings : Settings} {peer : Rest.Peer τ} {pages : Nat}
    {server : Server τ} (hs : ∀ id s, server.store.get? id = some s →
      Registered settings.server (TokenBook.ofTokens settings.tokens).credentials id s) :
    ∀ id s, (Server.respond settings peer pages r server).2.store.get? id = some s →
      Registered settings.server (TokenBook.ofTokens settings.tokens).credentials id s := by
  have hr := runs_run (Server.answer settings peer pages)
    (answer settings.server (TokenBook.ofTokens settings.tokens).credentials r) server
  have hkept : Runs Keeping _ server.store _ _ _ :=
    hr.map (f := Server.store) fun _ _ _ _ => Server.keeping_answer
  refine registered_answer hkept (fun x hx hforget => ?_) hs
  obtain ⟨s, s', hc⟩ := hr.exists_conduct x hx
  exact Server.not_failed_of_isForget hc hforget

theorem registered_answerAll {requests : List Request} {responses : List Response}
    (hr : Runs Keeping (answerAll settings credentials requests) t trace responses t')
    (hforget : ∀ x ∈ trace, x.call.isForget = true → ¬x.Failed)
    (ht : ∀ id s, t.get? id = some s → Registered settings credentials id s) :
    ∀ id s, t'.get? id = some s → Registered settings credentials id s := by
  induction requests generalizing t trace responses with
  | nil =>
    obtain ⟨-, -, rfl⟩ := runs_done.mp hr
    exact ht
  | cons r rest ih =>
    obtain ⟨before, response, t₁, after, ha, hn, rfl⟩ := runs_bind.mp hr
    obtain ⟨between, tail, t₂, last, hrest, hd, rfl⟩ := runs_bind.mp hn
    obtain ⟨rfl, -, rfl⟩ := runs_done.mp hd
    rw [List.append_nil] at hforget
    refine ih hrest (fun x hx => hforget x (List.mem_append_right _ hx)) ?_
    exact registered_answer ha (fun x hx => hforget x (List.mem_append_left _ hx)) ht

/-- **What a server has stored is registered.** Nothing is stored at first, and requests come in, of
any kind and in any number; any call may fail, except those that forget a service. Then everything
that is stored under an id has this id and a name, reports to where the server says, is of a user who
is signed in at a realm of the right kind, and needs a repository. -/
theorem registered_of_stored {requests : List Request} {responses : List Response}
    (hr : Runs Keeping (answerAll settings credentials requests) ∅ trace responses t)
    (hforget : ∀ x ∈ trace, x.call.isForget = true → ¬x.Failed) {id : String} {s : Service}
    (hs : t.get? id = some s) : Registered settings credentials id s :=
  registered_answerAll hr hforget (fun _ _ hs => nomatch (Table.get?_empty _).symm.trans hs) id s hs

/-- A request to configure a service, which says where deliveries are to go. -/
def declaring (s : Service) : Request where
  method := "POST"
  target := "/admin/configureService"
  headers := [("content-type", "application/json")]
  body := s.toJson.toBytes

/-- Two services, one of which is given up again. -/
def declaredRequests : List Request :=
  [declaring (watching "svc" "elsewhere" ["acme/a"]), declaring (watching "other" "u" ["acme/b"]),
    declaring (watching "other" "u" [])]

/-- The one that is left reports to where the server says. -/
theorem registered_declared : ∃ s,
    ((answerAll {} soleUser declaredRequests).run World.answer {}).2.store.get? "svc" = some s ∧
      Registered {} soleUser "svc" s := by
  have hr := runs_store (answerAll {} soleUser declaredRequests) {}
  have hsome : (((answerAll {} soleUser declaredRequests).run World.answer {}).2.store.get?
      "svc").isSome = true := by decide +kernel
  obtain ⟨s, hs⟩ := Option.isSome_iff_exists.mp hsome
  exact ⟨s, hs, registered_of_stored hr (by decide +kernel) hs⟩

end WebhookRelay.Http
