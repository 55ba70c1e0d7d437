import WebhookRelay.Proofs.Memory.Hazards
import WebhookRelay.Proofs.Operations
import WebhookRelay.Proofs.Order.Surroundings

/-!
# The order of rooms does not matter

A service is declared, or an event is delivered to it; and the same is done with the service written
in another order, in the same surroundings. Then providers see the same, the result is the same up to
the order in which rooms were joined and messages sent, and the same is left behind
(`Service.order_immaterial`).

Both go along one text until it comes to the rooms. Joining them stops at the first that cannot be
joined, which may be another one in another order, so the failure may differ; but whether there is
one does not depend on the order (`Surroundings.alike_joinAll`). Sending to rooms goes on whatever
fails.
-/

namespace WebhookRelay

open Program Reconcile Delivery

variable {C π : Type} {E : Surroundings C π} {credentials : Credentials C} {s s' : Service}

/-! ## Results -/

/-- Reports of the first phase that differ only in the order in which rooms were joined. -/
structure Reconcile.Prepared.Rearranged (p p' : Prepared) : Prop where
  created : p.created = p'.created
  alreadyThere : p.alreadyThere = p'.alreadyThere
  joined : p.joined.Perm p'.joined
  pending : p.pending = p'.pending

/-- What became of a declaration and of one in another order, when both took effect. -/
structure Configured.Rearranged (c c' : Configured) : Prop where
  old : Service.RearrangedIf c.old c'.old
  new : c.new.Rearranged c'.new
  prepared : c.prepared.Rearranged c'.prepared
  settled : c.settled = c'.settled

/-- Answers to a delivery that differ only in the order in which messages were sent. -/
structure Delivery.Response.Rearranged (r r' : Response) : Prop where
  status : r.status = r'.status
  event : r.report.event = r'.report.event
  repo : r.report.repo = r'.report.repo
  matched : r.report.matched = r'.report.matched
  sent : r.report.sent.Perm r'.report.sent
  cleanup : r.report.cleanup = r'.report.cleanup

namespace Surroundings

/-! ## Joining rooms -/

/-- Whether a failure is that of joining one of some rooms. -/
def Unjoined (E : Surroundings C π) (rooms : List String) (e : Failure) : Prop :=
  ∃ room ∈ rooms, E.join room = .error e

/-- Joining rooms succeeds if each of them can be joined, and otherwise fails with the failure of one
of them. -/
theorem run_joinAll (report : Prepared) (rooms : List String) (w : Table Service × π) :
    ((∀ room ∈ rooms, E.join room = .ok ()) ∧ (joinAll report rooms).run E.answer w =
        (.ok { report with joined := report.joined ++ rooms }, w)) ∨
      ∃ e, E.Unjoined rooms e ∧ (joinAll report rooms).run E.answer w = (.error e, w) := by
  induction rooms generalizing report with
  | nil => exact .inl ⟨nofun, by rw [List.append_nil]; rfl⟩
  | cons room rest ih =>
    have hanswer : E.answer (.join room) w = (E.join room, w) := rfl
    rw [joinAll, run_call, hanswer]
    rcases hjoin : E.join room with e | ⟨⟩
    · exact .inr ⟨e, ⟨room, List.mem_cons_self, hjoin⟩, rfl⟩
    · rcases ih { report with joined := report.joined ++ [room] } with ⟨hall, hrun⟩ | ⟨e, he, hrun⟩
      · refine .inl ⟨fun r hr => ?_, ?_⟩
        · rcases List.mem_cons.mp hr with rfl | hr
          · exact hjoin
          · exact hall r hr
        · rw [List.append_assoc] at hrun
          exact hrun
      · obtain ⟨r, hr, hfail⟩ := he
        exact .inr ⟨e, ⟨r, List.mem_cons_of_mem _ hr, hfail⟩, hrun⟩

/-- In another order the same rooms are joined, or some room cannot be joined. -/
theorem alike_joinAll {rooms rooms' : List String} (h : rooms.Perm rooms') (report : Prepared) :
    E.Alike (Outcome (E.Unjoined rooms) Prepared.Rearranged) (joinAll report rooms)
      (joinAll report rooms') := by
  intro w w' hw
  have hnil : ∀ rooms w, E.provided (joinAll report rooms) w = [] := fun rooms =>
    provided_eq_nil (makes_joinAll (fun _ => rfl) report rooms)
  have hunjoined : ∀ e, E.Unjoined rooms' e → E.Unjoined rooms e := fun e ⟨room, hr, he⟩ =>
    ⟨room, h.mem_iff.mpr hr, he⟩
  rw [hnil, hnil]
  refine ⟨rfl, ?_⟩
  rcases run_joinAll (E := E) report rooms w with ⟨hall, hrun⟩ | ⟨e, he, hrun⟩
  · -- every room can be joined, so the other order does not end early
    rcases run_joinAll (E := E) report rooms' w' with ⟨-, hrun'⟩ | ⟨e, he, -⟩
    · rw [hrun, hrun']
      exact ⟨.ok ⟨rfl, rfl, h.append_left _, rfl⟩, hw⟩
    · obtain ⟨room, hr, hfail⟩ := hunjoined e he
      cases (hall room hr).symm.trans hfail
  · -- some room cannot, and the other order comes to it or to another such room
    rcases run_joinAll (E := E) report rooms' w' with ⟨hall, -⟩ | ⟨e', he', hrun'⟩
    · obtain ⟨room, hr, hfail⟩ := he
      cases (hall room (h.mem_iff.mp hr)).symm.trans hfail
    · rw [hrun, hrun']
      exact ⟨.other he (hunjoined e' he'), hw⟩

/-! ## Sending messages -/

theorem run_sendAll (message : Message) (done : List Sent) (rooms : List String)
    (w : Table Service × π) : (sendAll message done rooms).run E.answer w =
      (done ++ rooms.map fun room => ⟨room, E.send room message⟩, w) := by
  induction rooms generalizing done with
  | nil => rw [List.map_nil, List.append_nil]; rfl
  | cons room rest ih =>
    have hanswer : E.answer (.send room message) w = (E.send room message, w) := rfl
    rw [sendAll, run_call, hanswer, ih, List.append_assoc]
    rfl

/-- In another order the same messages are sent. -/
theorem alike_sendAll {rooms rooms' : List String} (h : rooms.Perm rooms') (message : Message) :
    E.Alike List.Perm (sendAll message [] rooms) (sendAll message [] rooms') := by
  intro w w' hw
  have hnil : ∀ rooms w, E.provided (sendAll message [] rooms) w = [] := fun rooms =>
    provided_eq_nil (makes_sendAll (fun _ _ => rfl) message [] rooms)
  rw [hnil, hnil, run_sendAll, run_sendAll]
  exact ⟨rfl, h.map _, hw⟩

/-! ## Declarations -/

theorem alike_prepare {old old' : Option Service} (h : s.Rearranged s')
    (ho : Service.RearrangedIf old old') :
    E.Alike (Outcome (E.Unjoined s.rooms.keys) Prepared.Rearranged) (prepare credentials s old)
      (prepare credentials s' old') := by
  -- what comes before the rooms is one and the same program
  rw [prepare_eq_installs, prepare_eq_installs, ← installs_eq h ho]
  refine Alike.onSuccess (Q := Eq) ((alike_refl (makes_installs.mono fun _ => .inl)).mono ?_) ?_
  · rintro r _ rfl
    exact .refl r
  · rintro report _ rfl
    exact alike_joinAll h.rooms_perm report

theorem alike_settle {old old' : Option Service} (h : s.Rearranged s')
    (ho : Service.RearrangedIf old old') :
    E.Alike Eq (settle credentials s old) (settle credentials s' old') := by
  rw [← settle_eq h ho]
  refine alike_refl (makes_settle.mono fun c hc => ?_)
  rcases hc with hc | ⟨rfl, -⟩
  · exact .inl hc.isStore
  · exact .inr rfl

theorem alike_configure (h : s.Rearranged s') :
    E.Alike (Outcome (E.Unjoined s.rooms.keys) Configured.Rearranged) (s.configure credentials)
      (s'.configure credentials) := by
  refine alike_load h.id_eq (fun e => alike_done (.same e)) fun old old' ho => ?_
  refine Alike.onSuccess (alike_prepare h ho) fun prepared prepared' hp => ?_
  refine alike_save h fun reply => ?_
  rcases reply with e | ⟨⟩
  · exact alike_done (.same e)
  · refine Alike.bind (alike_settle h ho) ?_
    rintro settled _ rfl
    exact alike_done (.ok ⟨ho, h, hp, rfl⟩)

/-! ## Deliveries -/

theorem alike_route (h : s.Rearranged s') (e : Event) :
    E.Alike Response.Rearranged (route credentials s e) (route credentials s' e) := by
  have hb := h.bindings_perm e.repo
  have hempty : (s.bindings e.repo).isEmpty = (s'.bindings e.repo).isEmpty := by
    rw [Bool.eq_iff_iff, List.isEmpty_iff_length_eq_zero, List.isEmpty_iff_length_eq_zero,
      hb.length_eq]
  simp only [route, hb.length_eq, hempty, h.uninstall_eq]
  split
  · split
    · exact alike_done ⟨rfl, rfl, rfl, rfl, .refl _, rfl⟩
    · next repo _ =>
      have hmakes : (s'.uninstall credentials repo).Makes
          (Call.Removes (s'.client? credentials) fun _ => True) := Service.makes_uninstall trivial
      refine Alike.bind (alike_refl (hmakes.mono fun _ hc => .inl hc.isStore)) ?_
      rintro result _ rfl
      exact alike_done ⟨rfl, rfl, rfl, rfl, .refl _, rfl⟩
  · refine Alike.bind (alike_sendAll ((hb.filter _).map _) e.message) fun sent sent' hs => ?_
    exact alike_done ⟨rfl, rfl, rfl, rfl, hs, rfl⟩

theorem alike_handle (h : s.Rearranged s') (request : Request) :
    E.Alike Response.Rearranged (handle credentials s request) (handle credentials s' request) := by
  simp only [handle, h.secret_eq]
  split
  · exact alike_done ⟨rfl, rfl, rfl, rfl, .refl _, rfl⟩
  · exact alike_done ⟨rfl, rfl, rfl, rfl, .refl _, rfl⟩
  · next e _ => exact alike_route h e

/-- So it is with a delivery to what is stored under an id, in whichever order that is. -/
theorem alike_handleFor (id : String) (request : Request) :
    E.Alike Response.Rearranged (handleFor credentials id request)
      (handleFor credentials id request) := by
  refine alike_load rfl (fun e => alike_done ⟨rfl, rfl, rfl, rfl, .refl _, rfl⟩) fun old old' ho => ?_
  cases ho with
  | none => exact alike_done ⟨rfl, rfl, rfl, rfl, .refl _, rfl⟩
  | some h => exact alike_handle h request

end Surroundings

/-- **The order of rooms does not matter.** A service is written in two orders of its rooms, and of
the repositories of each room. In surroundings that are the same, whichever of the two is declared,
providers are asked the same in the same order, the declaration takes effect in both cases or fails
in both, and what is stored and the state of all else are the same afterwards; only the order in which
rooms were joined may differ, and which failure it was if a room could not be joined. Whichever of the
two a delivery is for, providers are asked the same, and the answer is the same but for the order in
which messages were sent. -/
theorem Service.order_immaterial (E : Surroundings C π) (credentials : Credentials C)
    (h : s.Rearranged s') :
    E.Alike (Surroundings.Outcome (E.Unjoined s.rooms.keys) Configured.Rearranged)
        (s.configure credentials) (s'.configure credentials) ∧
      ∀ request, E.Alike Response.Rearranged (handle credentials s request)
        (handle credentials s' request) :=
  ⟨Surroundings.alike_configure h, Surroundings.alike_handle h⟩

/-! ### A service written in two orders -/

namespace Service

open Memory

/-- A service whose rooms all hear of pushes to the same repositories, written in these orders. -/
def writtenAs (rooms repos : List String) : Service :=
  rooms.foldl (fun s room => repos.foldl (fun s repo => s.bind room repo ["push"]) s)
    { id := "svc", callbackUrl := "u", realm := "github", user := "bot" }

theorem rearranged_writtenAs :
    (writtenAs ["lobby", "ops"] ["acme/b", "Acme/a"]).Rearranged
      (writtenAs ["ops", "lobby"] ["Acme/a", "acme/b"]) where
  id_eq := rfl
  callbackUrl_eq := rfl
  realm_eq := rfl
  user_eq := rfl
  secretToken_eq := rfl
  rooms := by
    have hsame : ∀ room ∈ ["ops", "lobby"],
        (((writtenAs ["ops", "lobby"] ["acme/b", "Acme/a"]).rooms.get? room).getD {}).repos.Same
          (((writtenAs ["ops", "lobby"] ["Acme/a", "acme/b"]).rooms.get? room).getD {}).repos := by
      decide
    refine ⟨(writtenAs ["ops", "lobby"] ["acme/b", "Acme/a"]).rooms.entries, by decide, ?_⟩
    exact .cons ⟨rfl, hsame _ (.head _)⟩ (.cons ⟨rfl, hsame _ (.tail _ (.head _))⟩ .nil)

/-- A world with nothing in it, where some rooms fail. -/
def failing (rooms : List String) : Rehearsal :=
  { world := { chat := { failing := NameSet.ofList rooms } } }

/-- What comes of declaring a service in such a world. -/
def declaredWhere (rooms : List String) (s : Service) : Except Failure Configured :=
  ((s.configure soleUser).run Rehearsal.answer (failing rooms)).1

/-- Where no room fails, the same hooks are created, in one order, and the same rooms joined, in
two. -/
theorem declared_in_either_order : ∃ c c',
    declaredWhere [] (writtenAs ["lobby", "ops"] ["acme/b", "Acme/a"]) = .ok c ∧
      declaredWhere [] (writtenAs ["ops", "lobby"] ["Acme/a", "acme/b"]) = .ok c' ∧
      c.Rearranged c' ∧ c.prepared.created = ["acme/a", "acme/b"] ∧
      c.prepared.joined = ["lobby", "ops"] ∧ c'.prepared.joined = ["ops", "lobby"] := by
  let r := failing []
  obtain ⟨hconfigure, -⟩ := order_immaterial r.surroundings soleUser rearranged_writtenAs
  obtain ⟨-, houtcome, -⟩ := hconfigure _ _ (.refl (r.world.store, r.world.providers))
  rw [← (r.run_surroundings _).2.1, ← (r.run_surroundings _).2.1] at houtcome
  have hdone : ((declaredWhere [] (writtenAs ["lobby", "ops"] ["acme/b", "Acme/a"])).map fun c =>
      (c.prepared.created, c.prepared.joined)) =
        .ok (["acme/a", "acme/b"], ["lobby", "ops"]) := rfl
  have hjoined' : ((declaredWhere [] (writtenAs ["ops", "lobby"] ["Acme/a", "acme/b"])).map fun c =>
      c.prepared.joined) = .ok ["ops", "lobby"] := rfl
  change Surroundings.Outcome _ _ (declaredWhere [] _) (declaredWhere [] _) at houtcome
  generalize declaredWhere [] _ = result, declaredWhere [] _ = result' at *
  cases houtcome with
  | ok h =>
    obtain ⟨hcreated, hjoined⟩ := Prod.mk.inj (Except.ok.inj hdone)
    exact ⟨_, _, rfl, rfl, h, hcreated, hjoined, Except.ok.inj hjoined'⟩
  | same => cases hdone
  | other => cases hdone

/-- Where every room fails, the failure is that of the room which is written first. -/
example : declaredWhere ["lobby", "ops"] (writtenAs ["ops", "lobby"] ["acme/a"]) =
    .error (.chat "ops" "Simulated failure") := rfl

end Service

end WebhookRelay
