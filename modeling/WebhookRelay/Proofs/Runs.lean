import WebhookRelay.Program

/-!
# Runs of a program

`Program.run` takes its replies from a handler, which has one reply to each call. Where a
collaborator may fail, a call has several possible replies, so a `Conduct` says which ones it may
get and which state each leaves; `Program.Runs` relates a program to everything that may come of it,
with the record of its calls.

Two statements carry the inductions over programs: `Runs.induct`, which takes what one call
preserves to what a run preserves, and `run_congr`, which takes two states that answer one call
alike to two runs that end alike. A run seen from one part of the state is a run there (`Runs.map`).
Which calls a program can make at all is said by `Program.Makes`.
-/

namespace WebhookRelay

variable {C α β σ τ : Type}

/-! ## Exchanges -/

/-- Whether a call creates a hook. -/
def Call.isCreate : Call C → Bool
  | createHook .. => true
  | _ => false

/-- Whether a call deletes a hook. -/
def Call.isDelete : Call C → Bool
  | deleteHook .. => true
  | _ => false

/-- Whether a call sends a message. -/
def Call.isSend : Call C → Bool
  | send .. => true
  | _ => false

/-- Whether a call goes to a provider. -/
def Call.isProvider : Call C → Bool
  | listHooks .. | createHook .. | deleteHook .. => true
  | _ => false

/-- Whether a call goes to the store. -/
def Call.isStore : Call C → Bool
  | load _ | save _ | forget _ => true
  | _ => false

/-- Whether a call is to forget a service. -/
def Call.isForget : Call C → Bool
  | forget _ => true
  | _ => false

/-- A call that creates or deletes a hook goes to a provider. -/
theorem Call.changes_of_not_isProvider {c : Call C} (h : c.isProvider = false) :
    c.isCreate = false ∧ c.isDelete = false := by
  cases c with
  | createHook | deleteHook => cases h
  | _ => exact ⟨rfl, rfl⟩

/-- A call together with the reply it got. -/
structure Exchange (C : Type) where
  call : Call C
  reply : call.Reply

/-- Whether a call failed. That a hook could not be created because it is there is an answer and no
failure. -/
def Exchange.Failed (x : Exchange C) : Prop :=
  match x.reply with
  | .ok _ => False
  | .error e => ¬(x.call.isCreate = true ∧ e.isHookExists = true)

instance : DecidablePred (Exchange.Failed (C := C)) := fun
  | ⟨_, .ok _⟩ => inferInstanceAs (Decidable False)
  | ⟨c, .error e⟩ =>
    inferInstanceAs (Decidable ¬(c.isCreate = true ∧ e.isHookExists = true))

namespace Program

/-! ## Conducts and runs -/

/-- How calls may go: which reply a call may get in a state, and which state it leaves then. -/
abbrev Conduct (C σ : Type) := (c : Call C) → σ → c.Reply → σ → Prop

/-- The conduct of a handler, which leaves nothing open. -/
def Handler.conduct (handler : Handler C σ) : Conduct C σ :=
  fun c s reply s' => handler c s = (reply, s')

/-- What may come of a program that begins in a state: the exchanges it makes, the value it ends in
and the state it leaves. -/
inductive Runs (conduct : Conduct C σ) : Program C α → σ → List (Exchange C) → α → σ → Prop where
  /-- the program has ended -/
  | done (a : α) (s : σ) : Runs conduct (.done a) s [] a s
  /-- the next call gets a reply, and the program goes on with it -/
  | call {c : Call C} {next : c.Reply → Program C α} {reply : c.Reply} {s s₁ s' : σ}
      {trace : List (Exchange C)} {a : α} (hc : conduct c s reply s₁)
      (hr : Runs conduct (next reply) s₁ trace a s') :
      Runs conduct (.call c next) s (⟨c, reply⟩ :: trace) a s'

variable {conduct conduct' : Conduct C σ} {s s' : σ} {trace : List (Exchange C)}

/-! ### Inversion -/

theorem runs_done {a b : α} :
    Runs conduct (.done a) s trace b s' ↔ trace = [] ∧ b = a ∧ s' = s := by
  constructor
  · intro h
    cases h
    exact ⟨rfl, rfl, rfl⟩
  · rintro ⟨rfl, rfl, rfl⟩
    exact .done _ _

theorem runs_call {c : Call C} {next : c.Reply → Program C α} {a : α} :
    Runs conduct (.call c next) s trace a s' ↔
      ∃ reply s₁ rest, conduct c s reply s₁ ∧ Runs conduct (next reply) s₁ rest a s' ∧
        trace = ⟨c, reply⟩ :: rest := by
  constructor
  · intro h
    cases h with
    | call hc hr => exact ⟨_, _, _, hc, hr, rfl⟩
  · rintro ⟨reply, s₁, rest, hc, hr, rfl⟩
    exact .call hc hr

/-- A run in sequence is a run of the one and then a run of the other. -/
theorem runs_bind {p : Program C α} {f : α → Program C β} {b : β} :
    Runs conduct (p.bind f) s trace b s' ↔
      ∃ before a s₁ after, Runs conduct p s before a s₁ ∧ Runs conduct (f a) s₁ after b s' ∧
        trace = before ++ after := by
  constructor
  · intro h
    induction p generalizing s trace with
    | done a => exact ⟨[], a, s, trace, .done a s, h, rfl⟩
    | call c next ih =>
      obtain ⟨reply, s₁, rest, hc, hr, rfl⟩ := runs_call.mp h
      obtain ⟨before, a, s₂, after, hp, hf, rfl⟩ := ih reply hr
      exact ⟨_, a, s₂, after, .call hc hp, hf, rfl⟩
  · rintro ⟨before, a, s₁, after, hp, hf, rfl⟩
    induction hp with
    | done a s => exact hf
    | call hc _ ih => exact .call hc (ih hf)

/-- A run that goes on with a success ends in a failure at once, or goes on. -/
theorem runs_onSuccess {p : Program C (Except Failure α)} {f : α → Program C (Except Failure β)}
    {r : Except Failure β} :
    Runs conduct (p.onSuccess f) s trace r s' ↔
      (∃ e, r = .error e ∧ Runs conduct p s trace (.error e) s') ∨
        ∃ before a s₁ after, Runs conduct p s before (.ok a) s₁ ∧
          Runs conduct (f a) s₁ after r s' ∧ trace = before ++ after := by
  rw [onSuccess, runs_bind]
  constructor
  · rintro ⟨before, a | a, s₁, after, hp, hf, rfl⟩
    · obtain ⟨rfl, rfl, rfl⟩ := runs_done.mp hf
      exact .inl ⟨a, rfl, by rwa [List.append_nil]⟩
    · exact .inr ⟨before, a, s₁, after, hp, hf, rfl⟩
  · rintro (⟨e, rfl, hp⟩ | ⟨before, a, s₁, after, hp, hf, rfl⟩)
    · exact ⟨trace, _, s', [], hp, .done _ _, (List.append_nil _).symm⟩
    · exact ⟨before, .ok a, s₁, after, hp, hf, rfl⟩

/-! ### Which calls a program makes -/

/-- Whether every call that a program can come to, whatever the replies, is one of `P`. -/
def Makes (P : Call C → Prop) : Program C α → Prop
  | .done _ => True
  | .call c next => P c ∧ ∀ reply, Makes P (next reply)

theorem makes_true (p : Program C α) : p.Makes fun _ => True := by
  induction p with
  | done a => trivial
  | call c next ih => exact ⟨trivial, ih⟩

theorem makes_bind {P : Call C → Prop} {p : Program C α} {f : α → Program C β}
    (hp : p.Makes P) (hf : ∀ a, (f a).Makes P) : (p.bind f).Makes P := by
  induction p with
  | done a => exact hf a
  | call c next ih => exact ⟨hp.1, fun reply => ih reply (hp.2 reply)⟩

theorem makes_onSuccess {P : Call C → Prop} {p : Program C (Except Failure α)}
    {f : α → Program C (Except Failure β)} (hp : p.Makes P) (hf : ∀ a, (f a).Makes P) :
    (p.onSuccess f).Makes P :=
  makes_bind hp fun
    | .ok a => hf a
    | .error _ => trivial

theorem Makes.mono {P Q : Call C → Prop} (hPQ : ∀ c, P c → Q c) {p : Program C α}
    (hp : p.Makes P) : p.Makes Q := by
  induction p with
  | done a => trivial
  | call c next ih => exact ⟨hPQ c hp.1, fun reply => ih reply (hp.2 reply)⟩

/-- Every call on record is one that the program makes. -/
theorem Runs.mem_makes {P : Call C → Prop} {p : Program C α} {a : α}
    (hr : Runs conduct p s trace a s') (hp : p.Makes P) : ∀ x ∈ trace, P x.call := by
  induction hr with
  | done a s => simp
  | call hc _ ih =>
    intro x hx
    rcases List.mem_cons.mp hx with rfl | hx
    · exact hp.1
    · exact ih (hp.2 _) x hx

/-- Every exchange on record is one that the conduct allows. -/
theorem Runs.exists_conduct {p : Program C α} {a : α} (hr : Runs conduct p s trace a s') :
    ∀ x ∈ trace, ∃ t t', conduct x.call t x.reply t' := by
  induction hr with
  | done a s => simp
  | call hc _ ih =>
    intro x hx
    rcases List.mem_cons.mp hx with rfl | hx
    · exact ⟨_, _, hc⟩
    · exact ih x hx

/-- What every call of a program preserves, every run of it preserves. -/
theorem Runs.induct {P : Call C → Prop} {I : σ → Prop} {p : Program C α} {a : α}
    (hr : Runs conduct p s trace a s') (hp : p.Makes P)
    (hstep : ∀ c s reply s', P c → conduct c s reply s' → I s → I s') (hi : I s) : I s' := by
  induction hr with
  | done a s => exact hi
  | call hc _ ih => exact ih (hp.2 _) (hstep _ _ _ _ hp.1 hc hi)

/-- Where more may happen to calls, more may come of a program. -/
theorem Runs.mono (hcc : ∀ c s reply s', conduct c s reply s' → conduct' c s reply s')
    {p : Program C α} {a : α} (hr : Runs conduct p s trace a s') :
    Runs conduct' p s trace a s' := by
  induction hr with
  | done a s => exact .done a s
  | call hc _ ih => exact .call (hcc _ _ _ _ hc) ih

/-- What may come of a program may come of it in a part of the state, if calls go there as they do in
that part. -/
theorem Runs.map {f : σ → τ} {conduct' : Conduct C τ}
    (hcc : ∀ c s reply s', conduct c s reply s' → conduct' c (f s) reply (f s'))
    {p : Program C α} {a : α} (hr : Runs conduct p s trace a s') :
    Runs conduct' p (f s) trace a (f s') := by
  induction hr with
  | done a s => exact .done a (f s)
  | call hc _ ih => exact .call (hcc _ _ _ _ hc) ih

/-! ### Runs under a handler -/

/-- The exchanges a program makes with a handler. -/
def exchanges (handler : Handler C σ) : Program C α → σ → List (Exchange C)
  | .done _, _ => []
  | .call c next, s =>
    ⟨c, (handler c s).1⟩ :: exchanges handler (next (handler c s).1) (handler c s).2

theorem exchanges_bind (handler : Handler C σ) (p : Program C α) (f : α → Program C β) (s : σ) :
    (p.bind f).exchanges handler s = p.exchanges handler s ++
      (f (p.run handler s).1).exchanges handler (p.run handler s).2 := by
  induction p generalizing s with
  | done a => rfl
  | call c next ih => exact congrArg (List.cons _) (ih _ _)

/-- Running on with a success is running on, and a failure ends it. -/
theorem run_onSuccess (handler : Handler C σ) (p : Program C (Except Failure α))
    (f : α → Program C (Except Failure β)) (s : σ) :
    (p.onSuccess f).run handler s =
      match p.run handler s with
      | (.ok a, s) => (f a).run handler s
      | (.error e, s) => (.error e, s) := by
  rw [onSuccess, run_bind]
  rcases p.run handler s with ⟨e | a, s₁⟩
  · rfl
  · rfl

/-- A run under a handler is one of the runs under its conduct. -/
theorem runs_run (handler : Handler C σ) (p : Program C α) (s : σ) :
    Runs handler.conduct p s (p.exchanges handler s) (p.run handler s).1 (p.run handler s).2 := by
  induction p generalizing s with
  | done a => exact .done a s
  | call c next ih => exact .call rfl (ih _ _)

/-- Two states that answer every call of a program alike, and are left alike, make the program end
alike. -/
theorem run_congr {handler : Handler C σ} {handler' : Handler C τ} {P : Call C → Prop}
    {R : σ → τ → Prop}
    (hstep : ∀ c s t, P c → R s t →
      (handler c s).1 = (handler' c t).1 ∧ R (handler c s).2 (handler' c t).2)
    {p : Program C α} (hp : p.Makes P) {s : σ} {t : τ} (hst : R s t) :
    p.exchanges handler s = p.exchanges handler' t ∧
      (p.run handler s).1 = (p.run handler' t).1 ∧
        R (p.run handler s).2 (p.run handler' t).2 := by
  induction p generalizing s t with
  | done a => exact ⟨rfl, rfl, hst⟩
  | call c next ih =>
    obtain ⟨hreply, hnext⟩ := hstep c s t hp.1 hst
    obtain ⟨hx, ha, hR⟩ := ih (handler c s).1 (hp.2 _) hnext
    rw [run_call, run_call, exchanges, exchanges]
    rw [← hreply, ← hx, ← ha]
    exact ⟨rfl, rfl, hR⟩

end Program

end WebhookRelay
