import WebhookRelay.Proofs.Memory.Hazards
import WebhookRelay.Proofs.Sync.Removal
import WebhookRelay.Server

/-!
# What is stored

Of everything the relay works with only the store keeps services, and only three calls go to it. So
what is stored after a run can be told without a look at providers and rooms: `Memory.Keeping` is
the conduct of a store in memory, beside which anything may be answered by anybody. A world under a
hazard goes that way as far as its store goes (`Memory.Hazard.Conduct.keeping`), and so does a
server, whatever the network answers (`Server.keeping_answer`).

A declaration that is stored has passed the checks of the first phase, and one that needs no
repository is forgotten again unless forgetting fails (`Service.kept_configure`). So what can be said
of every such service can be said of everything that is ever stored (`Service.stored_configure`,
`Operation.stored_series`).
-/

namespace WebhookRelay

open Program

variable {C : Type}

namespace Memory

/-! ## The conduct of a store -/

/-- The conduct of a store in memory. A call to it is answered as the store is, or fails and changes
nothing; every other call may be answered in any way. -/
inductive Keeping : Program.Conduct C (Table Service) where
  | load (id : String) (t : Table Service) : Keeping (.load id) t (.ok (t.get? id)) t
  | save (s : Service) (t : Table Service) : Keeping (.save s) t (.ok ()) (t.insert s.id s)
  | forget (id : String) (t : Table Service) : Keeping (.forget id) t (.ok ()) (t.erase id)
  | failed {c : Call C} (e : Failure) (t : Table Service) : Keeping c t (.error e) t
  | elsewhere {c : Call C} (hc : c.isStore = false) (reply : c.Reply) (t : Table Service) :
      Keeping c t reply t

namespace Keeping

variable {c : Call C} {reply : c.Reply} {t t' : Table Service} {e : Failure} {id : String}
  {s : Service}

/-- Calls to others change nothing. -/
theorem eq_of_not_isStore (hc : Keeping c t reply t') (h : c.isStore = false) : t' = t := by
  cases hc with
  | load | save | forget => cases h
  | failed => rfl
  | elsewhere => rfl

/-- A call that fails changes nothing. -/
theorem eq_of_error (hc : Keeping c t (.error e) t') : t' = t := by
  generalize hr : (Except.error e : c.Reply) = reply at hc
  cases hc with
  | load | save | forget => cases hr
  | failed => rfl
  | elsewhere => rfl

theorem load_eq_ok {old : Option Service} (hc : Keeping (C := C) (.load id) t (.ok old) t') :
    old = t.get? id ∧ t' = t := by
  generalize hr : (Except.ok old : (Call.load (C := C) id).Reply) = reply at hc
  cases hc with
  | load =>
    cases hr
    exact ⟨rfl, rfl⟩
  | failed => cases hr
  | elsewhere h => cases h

theorem save_eq_ok (hc : Keeping (C := C) (.save s) t (.ok ()) t') : t' = t.insert s.id s := by
  generalize hr : (Except.ok () : (Call.save (C := C) s).Reply) = reply at hc
  cases hc with
  | save => rfl
  | failed => cases hr
  | elsewhere h => cases h

theorem forget_eq_ok (hc : Keeping (C := C) (.forget id) t (.ok ()) t') : t' = t.erase id := by
  generalize hr : (Except.ok () : (Call.forget (C := C) id).Reply) = reply at hc
  cases hc with
  | forget => rfl
  | failed => cases hr
  | elsewhere h => cases h

end Keeping

/-- A world under a hazard keeps its store that way, if no call to the store is lost. -/
theorem Hazard.Conduct.keeping {h : Hazard} (hkept : ∀ c e, h.loses c e → c.isStore = false)
    {c : Call String} {reply : c.Reply} {w w' : World} (hc : h.Conduct c w reply w') :
    Keeping c w.store reply w'.store := by
  cases hc with
  | met c w =>
    rw [World.store_answer]
    cases c with
    | load id => exact .load id w.store
    | save s => exact .save s w.store
    | forget id => exact .forget id w.store
    | _ => exact .elsewhere rfl _ _
  | struck he w => exact .failed _ _
  | @lost c e he w =>
    have hstore : (World.answer c w).2.store = w.store := by
      have hc := hkept c e he
      rw [World.store_answer]
      cases c with
      | save | forget => cases hc
      | _ => rfl
    rw [hstore]
    exact .failed _ _

/-- So what a world makes of a program may come of it, as far as its store goes. -/
theorem runs_store {α : Type} (p : Program String α) (w : World) :
    Runs Keeping p w.store (p.exchanges World.answer w) (p.run World.answer w).1
      (p.run World.answer w).2.store :=
  (Hazard.calm.runs_answer p w).map fun _ _ _ _ hc => hc.keeping fun _ _ => False.elim

end Memory

/-- And so does a server, whatever the network answers. -/
theorem Server.keeping_answer {σ : Type} {settings : Settings} {peer : Rest.Peer σ} {pages : Nat}
    {c : Call String} {reply : c.Reply} {s s' : Server σ}
    (hc : Handler.conduct (Server.answer settings peer pages) c s reply s') :
    Memory.Keeping c s.store reply s'.store := by
  cases c with
  | load id =>
    obtain ⟨rfl, rfl⟩ := Prod.mk.inj hc
    exact .load id s.store
  | save service =>
    obtain ⟨rfl, rfl⟩ := Prod.mk.inj hc
    exact .save service s.store
  | forget id =>
    obtain ⟨rfl, rfl⟩ := Prod.mk.inj hc
    exact .forget id s.store
  | _ =>
    obtain ⟨-, rfl⟩ := Prod.mk.inj hc
    exact .elsewhere rfl _ _

/-- A server does not fail to forget a service. -/
theorem Server.not_failed_of_isForget {σ : Type} {settings : Settings} {peer : Rest.Peer σ}
    {pages : Nat} {x : Exchange String} {s s' : Server σ}
    (hc : Handler.conduct (Server.answer settings peer pages) x.call s x.reply s')
    (hx : x.call.isForget = true) : ¬x.Failed := by
  obtain ⟨c, reply⟩ := x
  cases c with
  | forget id =>
    obtain ⟨rfl, -⟩ := Prod.mk.inj hc
    exact not_false
  | _ => cases hx

/-! ## Declarations -/

open Memory Reconcile

variable {credentials : Credentials C} {new : Service} {old : Option Service}
  {trace : List (Exchange C)} {t t' : Table Service}

/-- A program that makes no call to the store changes nothing. -/
theorem Memory.Keeping.eq_of_makes {α : Type} {p : Program C α} {a : α}
    (hr : Runs Keeping p t trace a t') (hp : p.Makes fun c => c.isStore = false) : t' = t :=
  hr.induct (I := (· = t)) hp (fun _ _ _ _ hc hstep hi => (hstep.eq_of_not_isStore hc).trans hi) rfl

/-- The second phase leaves what is stored, or forgets a service that needs no repository; if it
needs none and is not forgotten, that is because forgetting failed. -/
theorem Reconcile.kept_settle {settled : Settled}
    (hr : Runs Keeping (settle credentials new old) t trace settled t') :
    (t' = t ∧ (new.repos.isEmpty = false ∨ ∃ x ∈ trace, x.call.isForget = true ∧ x.Failed)) ∨
      t' = t.erase new.id := by
  obtain ⟨before, t₁, after, hu, rfl, hlast⟩ := runs_settle hr
  obtain rfl : t₁ = t :=
    Keeping.eq_of_makes hu ((makes_uninstall_removed new old []).mono fun _ hc => hc.isStore)
  rcases hlast with ⟨he, -, -, rfl⟩ | ⟨-, e | ⟨⟩, hf, -, rfl⟩
  · exact .inl ⟨rfl, .inl he⟩
  · refine .inl ⟨hf.eq_of_error, .inr ⟨_, List.mem_append_right _ List.mem_cons_self, rfl, ?_⟩⟩
    exact fun hc => Bool.false_ne_true hc.1
  · exact .inr hf.forget_eq_ok

namespace Service

/-- What a declaration does to what is stored. -/
theorem kept_configure {result : Except Failure Configured}
    (hr : Runs Keeping (new.configure credentials) t trace result t') :
    t' = t ∨ (∃ client, clientFor credentials new = .ok client) ∧
      ((t' = t.insert new.id new ∧
          (new.repos.isEmpty = false ∨ ∃ x ∈ trace, x.call.isForget = true ∧ x.Failed)) ∨
        t' = (t.insert new.id new).erase new.id) := by
  have hprepare : ∀ {old phase r t₁ t₂}, Runs Keeping (prepare credentials new old) t₁ phase r t₂ →
      t₂ = t₁ := fun hp => Keeping.eq_of_makes hp (makes_prepare.mono fun _ hc => hc.isStore)
  cases runs_configure hr with
  | notLoaded hl => exact .inl hl.eq_of_error
  | notPrepared hl hp => exact .inl ((hprepare hp).trans hl.load_eq_ok.2)
  | notSaved hl hp hs =>
    exact .inl (hs.eq_of_error.trans ((hprepare hp).trans hl.load_eq_ok.2))
  | settled hl hp hs ht =>
    refine .inr ⟨exists_clientFor_of_prepare_ok hp, ?_⟩
    obtain rfl := hl.load_eq_ok.2
    obtain rfl := hprepare hp
    obtain rfl := hs.save_eq_ok
    rcases kept_settle ht with ⟨rfl, he | ⟨x, hx, hforget, hfailed⟩⟩ | rfl
    · exact .inl ⟨rfl, .inl he⟩
    · refine .inl ⟨rfl, .inr ⟨x, ?_, hforget, hfailed⟩⟩
      exact List.mem_cons_of_mem _ (List.mem_append_right _ (List.mem_cons_of_mem _ hx))
    · exact .inr rfl

/-- What is true of every service that is declared, may be used by its user and needs a repository
stays true of everything that is stored, unless forgetting fails. -/
theorem stored_configure {P : String → Service → Prop} {result : Except Failure Configured}
    (hr : Runs Keeping (new.configure credentials) t trace result t')
    (hforget : ∀ x ∈ trace, x.call.isForget = true → ¬x.Failed)
    (hnew : ∀ client, clientFor credentials new = .ok client → new.repos.isEmpty = false →
      P new.id new) (ht : ∀ id s, t.get? id = some s → P id s) :
    ∀ id s, t'.get? id = some s → P id s := by
  intro id s hs
  rcases kept_configure hr with rfl | ⟨⟨client, hclient⟩, ⟨rfl, he⟩ | rfl⟩
  · exact ht id s hs
  · have hneeds : new.repos.isEmpty = false :=
      he.resolve_right fun ⟨x, hx, hf, hfailed⟩ => hforget x hx hf hfailed
    rw [Table.get?_insert] at hs
    split at hs
    · next hid =>
      cases hs
      exact hid ▸ hnew client hclient hneeds
    · exact ht id s hs
  · rw [Table.get?_erase, Table.get?_insert] at hs
    split at hs
    · cases hs
    · exact ht id s hs

end Service

/-- A delivery changes nothing that is stored. -/
theorem Delivery.kept_handleFor {id : String} {request : Request} {response : Response}
    (hr : Runs Keeping (handleFor credentials id request) t trace response t') : t' = t := by
  obtain ⟨loaded, t₁, rest, hl, -, hend⟩ := runs_handleFor hr
  have hload : t₁ = t := by
    rcases loaded with e | old
    · exact hl.eq_of_error
    · exact hl.load_eq_ok.2
  subst hload
  rcases hend with ⟨-, rfl⟩ | ⟨service, -, hn⟩
  · rfl
  · refine Keeping.eq_of_makes hn (makes_handle.mono fun c hc => ?_)
    rcases hc with hc | hc
    · cases c with
      | send => rfl
      | _ => cases hc
    · exact hc.isStore

/-! ## Operations -/

namespace Operation

variable {op : Operation C} {ops : List (Operation C)} {u : Unit} {P : String → Service → Prop}

theorem stored_program (hr : Runs Keeping op.program t trace u t')
    (hforget : ∀ x ∈ trace, x.call.isForget = true → ¬x.Failed)
    (hnew : ∀ credentials new, op = .configure credentials new →
      ∀ client, clientFor credentials new = .ok client → new.repos.isEmpty = false → P new.id new)
    (ht : ∀ id s, t.get? id = some s → P id s) : ∀ id s, t'.get? id = some s → P id s := by
  cases op with
  | configure credentials new =>
    obtain ⟨result, hr⟩ := runs_configure hr
    exact Service.stored_configure hr hforget (hnew _ _ rfl) ht
  | deliver credentials i request =>
    obtain ⟨response, hr⟩ := runs_deliver hr
    rwa [Delivery.kept_handleFor hr]

/-- What is true of every service that is declared, may be used by its user and needs a repository
is true of everything that is stored after a run of operations, unless forgetting fails. -/
theorem stored_series (hr : Runs Keeping (series ops) t trace u t')
    (hforget : ∀ x ∈ trace, x.call.isForget = true → ¬x.Failed)
    (hnew : ∀ credentials new, .configure credentials new ∈ ops →
      ∀ client, clientFor credentials new = .ok client → new.repos.isEmpty = false → P new.id new)
    (ht : ∀ id s, t.get? id = some s → P id s) : ∀ id s, t'.get? id = some s → P id s := by
  induction ops generalizing t trace with
  | nil =>
    obtain ⟨-, -, rfl⟩ := runs_done.mp hr
    exact ht
  | cons op rest ih =>
    obtain ⟨before, t₁, after, hop, hrest, rfl⟩ := runs_series_cons hr
    refine ih hrest (fun x hx => hforget x (List.mem_append_right _ hx))
      (fun _ _ hm => hnew _ _ (List.mem_cons_of_mem _ hm)) ?_
    refine stored_program hop (fun x hx => hforget x (List.mem_append_left _ hx)) ?_ ht
    rintro credentials new rfl
    exact hnew _ _ List.mem_cons_self

end Operation

end WebhookRelay
