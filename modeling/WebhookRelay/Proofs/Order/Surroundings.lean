import WebhookRelay.Memory.World
import WebhookRelay.Proofs.Order.Services

/-!
# Two runs side by side

What a program comes to is to be compared with what another one comes to in the same surroundings:
with the same store, the same providers, and rooms that answer as they do whenever they are asked
(`Surroundings`). Two programs are `Surroundings.Alike` if they make the same exchanges with
providers, end in values that are related, and leave all the same, services being the same when they
differ in the order of their rooms alone.

There is a rule for each way in which programs are put together, so that two programs are compared
along their text. Where both are one program of calls that do not look at such an order, they do alike
(`Surroundings.alike_refl`).
-/

namespace WebhookRelay

open Program

variable {C π α β γ δ : Type}

/-- What becomes of a call to the store. -/
inductive Fate where
  /-- it takes effect -/
  | met
  /-- it fails, and changes nothing -/
  | struck (e : Failure)
  /-- it takes effect, and is answered with a failure all the same -/
  | lost (e : Failure)

/-- What is around the relay, besides the services that are stored. Providers and the store may do as
they like, with a state that is theirs, but the store does not see how a service is written; a room
answers in one way, and so it does to a message. -/
structure Surroundings (C π : Type) where
  /-- what becomes of looking up a service -/
  load : String → π → Fate × π
  /-- what becomes of storing a service -/
  save : String → π → Fate × π
  /-- what becomes of forgetting a service -/
  forget : String → π → Fate × π
  /-- what comes of joining a room -/
  join : String → Except Failure Unit
  /-- what comes of sending a message to a room -/
  send : String → Message → Except Failure Unit
  /-- what providers do -/
  provider : Handler C π

namespace Surroundings

variable {E : Surroundings C π}

/-- A call to the store, which makes one table of another if it takes effect. -/
def stored (fate : Fate × π) (a : α) (t t' : Table Service) : Except Failure α × (Table Service × π) :=
  match fate.1 with
  | .met => (.ok a, (t', fate.2))
  | .struck e => (.error e, (t, fate.2))
  | .lost e => (.error e, (t', fate.2))

/-- How calls are answered, with what is stored and the state of the surroundings as a state. -/
def answer (E : Surroundings C π) : Handler C (Table Service × π)
  | .load id, w => stored (E.load id w.2) (w.1.get? id) w.1 w.1
  | .save s, w => stored (E.save s.id w.2) () w.1 (w.1.insert s.id s)
  | .forget id, w => stored (E.forget id w.2) () w.1 (w.1.erase id)
  | .join room, w => (E.join room, w)
  | .send room m, w => (E.send room m, w)
  | c, w =>
    let (reply, p) := E.provider c w.2
    (reply, (w.1, p))

/-- The exchanges of a program with providers, in order. -/
def provided (E : Surroundings C π) (p : Program C α) (w : Table Service × π) : List (Exchange C) :=
  (p.exchanges E.answer w).filter (·.call.isProvider)

/-- Whether all is the same, up to the order of rooms in what is stored. -/
structure Like (w w' : Table Service × π) : Prop where
  stored : ∀ id, Service.RearrangedIf (w.1.get? id) (w'.1.get? id)
  state : w.2 = w'.2

/-- Whether two programs do alike, in surroundings that are the same. -/
def Alike (E : Surroundings C π) (Q : α → β → Prop) (p : Program C α) (q : Program C β) : Prop :=
  ∀ w w', Like w w' → E.provided p w = E.provided q w' ∧
    Q (p.run E.answer w).1 (q.run E.answer w').1 ∧
      Like (p.run E.answer w).2 (q.run E.answer w').2

theorem Like.refl (w : Table Service × π) : Like w w := by
  refine ⟨fun id => ?_, rfl⟩
  cases w.1.get? id with
  | none => exact .none
  | some s => exact .some (.refl s)

/-! ## Rules -/

theorem alike_done {Q : α → β → Prop} {a : α} {b : β} (h : Q a b) :
    E.Alike Q (.done a) (.done b) :=
  fun _ _ hw => ⟨rfl, h, hw⟩

theorem Alike.bind {Q : α → β → Prop} {Q' : γ → δ → Prop} {p : Program C α} {q : Program C β}
    {f : α → Program C γ} {g : β → Program C δ} (h : E.Alike Q p q)
    (hfg : ∀ a b, Q a b → E.Alike Q' (f a) (g b)) : E.Alike Q' (p.bind f) (q.bind g) := by
  intro w w' hw
  obtain ⟨hx, hQ, hw₁⟩ := h w w' hw
  obtain ⟨hx', hQ', hw₂⟩ := hfg _ _ hQ _ _ hw₁
  rw [provided, provided, exchanges_bind, exchanges_bind, List.filter_append, List.filter_append,
    run_bind, run_bind]
  exact ⟨congrArg₂ _ hx hx', hQ', hw₂⟩

theorem Alike.mono {Q Q' : α → β → Prop} {p : Program C α} {q : Program C β} (h : E.Alike Q p q)
    (hQ : ∀ a b, Q a b → Q' a b) : E.Alike Q' p q := by
  intro w w' hw
  obtain ⟨hx, ha, hw'⟩ := h w w' hw
  exact ⟨hx, hQ _ _ ha, hw'⟩

/-- A call to the store that replies alike, and leaves what is stored alike. -/
theorem like_stored {t t' u u' : Table Service} (fate : Fate × π)
    (ht : ∀ id, Service.RearrangedIf (t.get? id) (t'.get? id))
    (hu : ∀ id, Service.RearrangedIf (u.get? id) (u'.get? id)) (a : α) :
    (stored fate a t u).1 = (stored fate a t' u').1 ∧
      Like (stored fate a t u).2 (stored fate a t' u').2 := by
  obtain ⟨fate, p⟩ := fate
  cases fate with
  | met => exact ⟨rfl, hu, rfl⟩
  | struck e => exact ⟨rfl, ht, rfl⟩
  | lost e => exact ⟨rfl, hu, rfl⟩

/-- One program does as it does, if it neither looks up a service nor stores one. -/
theorem alike_refl {p : Program C α} (hp : p.Makes fun c => c.isStore = false ∨ c.isForget = true) :
    E.Alike Eq p p := by
  intro w w' hw
  have hstep : ∀ c w w', (c.isStore = false ∨ c.isForget = true) → Like w w' →
      (E.answer c w).1 = (E.answer c w').1 ∧ Like (E.answer c w).2 (E.answer c w').2 := by
    rintro c ⟨t, p⟩ ⟨t', p'⟩ hc ⟨ht, rfl⟩
    cases c with
    | join | send | listHooks | createHook | deleteHook => exact ⟨rfl, ht, rfl⟩
    | forget id =>
      refine like_stored (E.forget id p) ht (fun i => ?_) ()
      rw [Table.get?_erase, Table.get?_erase]
      split
      · exact .none
      · exact ht i
    | load | save => rcases hc with hc | hc <;> cases hc
  obtain ⟨hx, ha, hw'⟩ := run_congr hstep hp hw
  exact ⟨congrArg (List.filter _) hx, ha, hw'⟩

/-- To look up one service fails in both, or finds services that are the same. -/
theorem alike_load {Q : α → β → Prop} {id id' : String} (hid : id = id')
    {f : (Call.load (C := C) id).Reply → Program C α}
    {g : (Call.load (C := C) id').Reply → Program C β}
    (herror : ∀ e, E.Alike Q (f (.error e)) (g (.error e)))
    (hok : ∀ old old', Service.RearrangedIf old old' → E.Alike Q (f (.ok old)) (g (.ok old'))) :
    E.Alike Q (.call (.load id) f) (.call (.load id') g) := by
  subst hid
  rintro ⟨t, p⟩ ⟨t', p'⟩ ⟨ht, rfl⟩
  have hanswer : ∀ t : Table Service,
      E.answer (.load id) (t, p) = stored (E.load id p) (t.get? id) t t := fun _ => rfl
  rw [provided, provided, exchanges, exchanges, List.filter_cons_of_neg Bool.false_ne_true,
    List.filter_cons_of_neg Bool.false_ne_true, run_call, run_call, hanswer, hanswer]
  rcases E.load id p with ⟨fate, p'⟩
  cases fate with
  | met => exact hok _ _ (ht id) _ _ ⟨ht, rfl⟩
  | struck e | lost e => exact herror e _ _ ⟨ht, rfl⟩

/-- To store services that are the same fails in both, or succeeds. -/
theorem alike_save {Q : α → β → Prop} {s s' : Service} (hs : s.Rearranged s')
    {f : (Call.save (C := C) s).Reply → Program C α}
    {g : (Call.save (C := C) s').Reply → Program C β}
    (hfg : ∀ reply, E.Alike Q (f reply) (g reply)) :
    E.Alike Q (.call (.save s) f) (.call (.save s') g) := by
  rintro ⟨t, p⟩ ⟨t', p'⟩ ⟨ht, rfl⟩
  have hinsert : ∀ i, Service.RearrangedIf ((t.insert s.id s).get? i)
      ((t'.insert s'.id s').get? i) := by
    intro i
    rw [Table.get?_insert, Table.get?_insert, hs.id_eq]
    split
    · exact .some hs
    · exact ht i
  obtain ⟨hreply, hlike⟩ := like_stored (E.save s.id p) ht hinsert ()
  have hanswer' : E.answer (.save s') (t', p) =
      stored (E.save s.id p) () t' (t'.insert s'.id s') := by
    rw [hs.id_eq]
    rfl
  rw [provided, provided, exchanges, exchanges, List.filter_cons_of_neg Bool.false_ne_true,
    List.filter_cons_of_neg Bool.false_ne_true, run_call, run_call, hanswer', ← hreply]
  exact hfg _ _ _ hlike

/-! ## Failures -/

/-- Two results that are related: both are successes, or both are the same failure, or both are
failures that may differ. -/
inductive Outcome (differ : Failure → Prop) (Q : α → β → Prop) :
    Except Failure α → Except Failure β → Prop where
  | ok {a : α} {b : β} (h : Q a b) : Outcome differ Q (.ok a) (.ok b)
  | same (e : Failure) : Outcome differ Q (.error e) (.error e)
  | other {e e' : Failure} (he : differ e) (he' : differ e') :
      Outcome differ Q (.error e) (.error e')

theorem Outcome.refl {differ : Failure → Prop} (r : Except Failure α) : Outcome differ Eq r r := by
  rcases r with e | a
  · exact .same e
  · exact .ok rfl

theorem Alike.onSuccess {differ : Failure → Prop} {Q : α → β → Prop} {Q' : γ → δ → Prop}
    {p : Program C (Except Failure α)} {q : Program C (Except Failure β)}
    {f : α → Program C (Except Failure γ)} {g : β → Program C (Except Failure δ)}
    (h : E.Alike (Outcome differ Q) p q)
    (hfg : ∀ a b, Q a b → E.Alike (Outcome differ Q') (f a) (g b)) :
    E.Alike (Outcome differ Q') (p.onSuccess f) (q.onSuccess g) := by
  refine h.bind fun a b hab => ?_
  cases hab with
  | ok h => exact hfg _ _ h
  | same e => exact alike_done (.same e)
  | other he he' => exact alike_done (.other he he')

/-! ## Rooms -/

/-- A program that has to do with rooms alone makes no exchange with a provider. -/
theorem provided_eq_nil {p : Program C α} (hp : p.Makes fun c => c.isProvider = false)
    (w : Table Service × π) : E.provided p w = [] :=
  List.filter_eq_nil_iff.mpr fun x hx =>
    Bool.not_eq_true _ ▸ (runs_run E.answer p w).mem_makes hp x hx

end Surroundings

/-! ## In memory -/

namespace Memory.Rehearsal

/-- What becomes of an operation of the store. -/
def fate (r : Rehearsal) (op : String) : Fate :=
  match r.faults.ofStore op with
  | some e => .struck e
  | none => .met

/-- What is around the relay in a rehearsal. -/
def surroundings (r : Rehearsal) : Surroundings String (Table Provider) where
  load _ p := (fate r "get", p)
  save _ p := (fate r "put", p)
  forget _ p := (fate r "delete", p)
  join := r.world.chat.admits
  send room _ := r.world.chat.admits room
  provider c p :=
    match r.faults.strike c with
    | some e => (.error e, p)
    | none =>
      let (reply, w) := World.answer c { providers := p }
      (reply, w.providers)

/-- A rehearsal is as what is around the relay in it, given what its rooms and faults are. -/
structure Within (r : Rehearsal) (r' : Rehearsal) (w : Table Service × Table Provider) : Prop where
  faults : r'.faults = r.faults
  failing : r'.world.chat.failing = r.world.chat.failing
  store : r'.world.store = w.1
  providers : r'.world.providers = w.2

theorem Within.answer {r r' : Rehearsal} {w : Table Service × Table Provider} (h : r.Within r' w)
    (c : Call String) : (Rehearsal.answer c r').1 = (r.surroundings.answer c w).1 ∧
      r.Within (Rehearsal.answer c r').2 (r.surroundings.answer c w).2 := by
  obtain ⟨⟨store, chat, providers⟩, faults, log⟩ := r'
  obtain ⟨rfl, hfailing, rfl, rfl⟩ : faults = r.faults ∧ chat.failing = r.world.chat.failing ∧
    store = w.1 ∧ providers = w.2 := ⟨h.faults, h.failing, h.store, h.providers⟩
  have hadmits : ∀ room, chat.admits room = r.world.chat.admits room := fun room => by
    rw [Chat.admits, Chat.admits, hfailing]
  cases c with
  | load id =>
    simp only [Rehearsal.answer, Faults.strike, method, Surroundings.answer, surroundings, fate]
    cases r.faults.ofStore "get" with
    | none | some => exact ⟨rfl, rfl, hfailing, rfl, rfl⟩
  | save s =>
    simp only [Rehearsal.answer, Faults.strike, method, Surroundings.answer, surroundings, fate]
    cases r.faults.ofStore "put" with
    | none | some => exact ⟨rfl, rfl, hfailing, rfl, rfl⟩
  | forget id =>
    simp only [Rehearsal.answer, Faults.strike, method, Surroundings.answer, surroundings, fate]
    cases r.faults.ofStore "delete" with
    | none | some => exact ⟨rfl, rfl, hfailing, rfl, rfl⟩
  | join room =>
    simp only [Rehearsal.answer, Faults.strike, World.answer, Chat.join, Surroundings.answer,
      surroundings, ← hadmits]
    cases chat.admits room with
    | ok | error => exact ⟨rfl, rfl, hfailing, rfl, rfl⟩
  | send room m =>
    simp only [Rehearsal.answer, Faults.strike, World.answer, Chat.send, Surroundings.answer,
      surroundings, ← hadmits]
    cases chat.admits room with
    | ok | error => exact ⟨rfl, rfl, hfailing, rfl, rfl⟩
  | listHooks | createHook | deleteHook =>
    simp only [Rehearsal.answer, Surroundings.answer, surroundings]
    cases r.faults.strike _ with
    | none | some => exact ⟨rfl, rfl, hfailing, rfl, rfl⟩

/-- A program comes to the same in a rehearsal as in what is around the relay there. -/
theorem run_surroundings {α : Type} (p : Program String α) (r : Rehearsal) :
    p.exchanges Rehearsal.answer r =
        p.exchanges r.surroundings.answer (r.world.store, r.world.providers) ∧
      (p.run Rehearsal.answer r).1 =
        (p.run r.surroundings.answer (r.world.store, r.world.providers)).1 ∧
      r.Within (p.run Rehearsal.answer r).2
        (p.run r.surroundings.answer (r.world.store, r.world.providers)).2 :=
  run_congr (fun c _ _ _ h => h.answer c) (makes_true p) ⟨rfl, rfl, rfl, rfl⟩

end Memory.Rehearsal

end WebhookRelay
