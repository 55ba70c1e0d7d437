import WebhookRelay.Delivery.Route
import WebhookRelay.Proofs.Sync.Phases

/-!
# What the relay is asked to do

Two things come to the relay from outside: a service is declared, or a provider delivers an event.
An `Operation` is one of the two, together with who is signed in where at the time, and
`Operation.series` does operations one after the other.

A declaration is taken apart by `Service.runs_configure`; a delivery is taken apart here. It looks
up a service (`Delivery.runs_handleFor`), and from then on it sends messages and takes hooks off
repositories that the service does not need (`Delivery.makes_handle`).
-/

namespace WebhookRelay

open Program

variable {C σ : Type}

/-- Something the relay is asked to do. -/
inductive Operation (C : Type) where
  /-- a service is declared -/
  | configure (credentials : Credentials C) (new : Service)
  /-- a request comes in that is a delivery to the service stored under an id -/
  | deliver (credentials : Credentials C) (id : String) (request : Delivery.Request)

namespace Operation

/-- Who is signed in where. -/
def credentials : Operation C → Credentials C
  | configure credentials _ | deliver credentials _ _ => credentials

/-- What the relay does; its answer does not matter here. -/
def program : Operation C → Program C Unit
  | configure credentials new => (new.configure credentials).bind fun _ => .done ()
  | deliver credentials id request =>
    (Delivery.handleFor credentials id request).bind fun _ => .done ()

/-- Does operations one after the other. -/
def series : List (Operation C) → Program C Unit
  | [] => .done ()
  | op :: rest => op.program.bind fun _ => series rest

variable {conduct : Conduct C σ} {s s' : σ} {trace : List (Exchange C)}

theorem runs_configure {credentials : Credentials C} {new : Service} {u : Unit}
    (hr : Runs conduct (configure credentials new).program s trace u s') :
    ∃ result, Runs conduct (new.configure credentials) s trace result s' := by
  obtain ⟨before, result, s₁, after, hp, hd, rfl⟩ := runs_bind.mp hr
  obtain ⟨rfl, -, rfl⟩ := runs_done.mp hd
  exact ⟨result, by rwa [List.append_nil]⟩

theorem runs_deliver {credentials : Credentials C} {id : String} {request : Delivery.Request}
    {u : Unit} (hr : Runs conduct (deliver credentials id request).program s trace u s') :
    ∃ response, Runs conduct (Delivery.handleFor credentials id request) s trace response s' := by
  obtain ⟨before, response, s₁, after, hp, hd, rfl⟩ := runs_bind.mp hr
  obtain ⟨rfl, -, rfl⟩ := runs_done.mp hd
  exact ⟨response, by rwa [List.append_nil]⟩

theorem runs_series_cons {op : Operation C} {ops : List (Operation C)} {u : Unit}
    (hr : Runs conduct (series (op :: ops)) s trace u s') :
    ∃ before s₁ after, Runs conduct op.program s before () s₁ ∧
      Runs conduct (series ops) s₁ after u s' ∧ trace = before ++ after := by
  obtain ⟨before, ⟨⟩, s₁, after, hop, hrest, htrace⟩ := runs_bind.mp hr
  exact ⟨before, s₁, after, hop, hrest, htrace⟩

end Operation

namespace Delivery

variable {conduct : Conduct C σ} {credentials : Credentials C} {s s' : σ}
  {trace : List (Exchange C)}

theorem makes_sendAll {P : Call C → Prop} (hP : ∀ room m, P (.send room m)) (message : Message)
    (done : List Sent) (rooms : List String) : (sendAll message done rooms).Makes P := by
  induction rooms generalizing done with
  | nil => trivial
  | cons room rest ih => exact ⟨hP room message, fun reply => ih _⟩

/-- An event makes the relay send messages; or, if no room names the repository, look for the hook
and take it off. -/
theorem makes_route {service : Service} {e : Event} :
    (route credentials service e).Makes fun c =>
      c.isSend = true ∨
        c.Removes (service.client? credentials) fun repo => repo.key ∉ service.repos := by
  unfold route
  dsimp only
  split
  · next hb =>
    split
    · trivial
    · next repo hrepo =>
      have hnot : repo.key ∉ service.repos := by
        rw [RepoName.key, RepoName.fullName_of_parse hrepo]
        exact Service.not_mem_repos_of_bindings_eq_nil (List.isEmpty_iff.mp hb)
      have hu : (service.uninstall credentials repo).Makes (Call.Removes
          (service.client? credentials) fun repo => repo.key ∉ service.repos) :=
        Service.makes_uninstall hnot
      exact makes_bind (hu.mono fun c hc => .inr hc) fun result => trivial
  · exact makes_bind (makes_sendAll (fun room m => .inl rfl) _ _ _) fun sent => trivial

theorem makes_handle {service : Service} {request : Request} :
    (handle credentials service request).Makes fun c =>
      c.isSend = true ∨
        c.Removes (service.client? credentials) fun repo => repo.key ∉ service.repos := by
  unfold handle
  split
  · trivial
  · trivial
  · exact makes_route

/-- A delivery looks up a service, and ends there or is handled for it. -/
theorem runs_handleFor {id : String} {request : Request} {response : Response}
    (hr : Runs conduct (handleFor credentials id request) s trace response s') :
    ∃ loaded s₁ rest, conduct (.load id) s loaded s₁ ∧ trace = ⟨.load id, loaded⟩ :: rest ∧
      ((rest = [] ∧ s' = s₁) ∨ ∃ service, loaded = .ok (some service) ∧
        Runs conduct (handle credentials service request) s₁ rest response s') := by
  obtain ⟨loaded, s₁, rest, hl, hn, rfl⟩ := runs_call.mp hr
  refine ⟨loaded, s₁, rest, hl, rfl, ?_⟩
  rcases loaded with e | _ | service
  · obtain ⟨rfl, -, rfl⟩ := runs_done.mp hn
    exact .inl ⟨rfl, rfl⟩
  · obtain ⟨rfl, -, rfl⟩ := runs_done.mp hn
    exact .inl ⟨rfl, rfl⟩
  · exact .inr ⟨service, rfl, hn⟩

end Delivery

end WebhookRelay
