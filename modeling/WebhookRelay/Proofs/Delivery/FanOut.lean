import WebhookRelay.Proofs.Delivery.Subscription
import Mathlib.Algebra.Ring.Nat
import Mathlib.Data.List.Dedup

/-!
# Whom an event is told to

An event goes to every room that names its repository and wants its kind, and a room that fails keeps
none of the others from hearing of it (`Delivery.fanned_out`).

A room may name a repository more than once, by keys that differ in letter case. Each of them counts:
the room is sent the message once for each key under which it wants the event, and the report counts
each key as a room (`Delivery.told_by_keys`). So a room is told once, and counted once, just when it has
one such key.
-/

namespace WebhookRelay

open Program Memory

/-! ## Keys that name a repository -/

/-- The keys by which a room names a repository, each with what is wanted of it. -/
def Room.namings (r : Room) (repo : String) : List (String × Watch) :=
  r.repos.entries.filter fun e => Text.asciiLower e.1 = Text.asciiLower repo

/-- Those of the keys under which a room wants a kind of event. -/
def Room.wishes (r : Room) (repo kind : String) : List (String × Watch) :=
  (r.namings repo).filter (·.2.wants kind)

namespace Entries

variable {α : Type}

/-- Keys are listed once, so a key is repeated as often as its own value says. -/
theorem count_flatMap_replicate (n : α → Nat) {entries : List (String × α)}
    (hn : (entries.map Prod.fst).Nodup) (key : String) :
    (entries.flatMap fun e => List.replicate (n e.2) e.1).count key =
      ((find? key entries).map n).getD 0 := by
  induction entries with
  | nil => rfl
  | cons e rest ih =>
    obtain ⟨k, v⟩ := e
    obtain ⟨hk, hrest⟩ := List.nodup_cons.mp hn
    rw [List.flatMap_cons, List.count_append, ih hrest, List.count_replicate, find?]
    by_cases h : k = key
    · have hnone : find? key rest = none :=
        Table.get?_eq_none_iff (t := ⟨rest, hrest⟩).mpr (h ▸ hk)
      simp [h, hnone]
    · simp [h]

end Entries

namespace Service

variable {s : Service} {repo kind : String}

/-- The room of a name; one that watches nothing, if there is none. -/
def room (s : Service) (name : String) : Room := (s.rooms.get? name).getD {}

/-- The rooms that name a repository, each once. -/
def roomsNaming (s : Service) (repo : String) : List String :=
  s.rooms.keys.filter fun name => !((s.room name).namings repo).isEmpty

/-- Whether a room wants to hear of a kind of event in a repository. -/
def Subscribes (s : Service) (name repo kind : String) : Prop :=
  ∃ r, (name, r) ∈ s.rooms.entries ∧ ∃ key watch, (key, watch) ∈ r.repos.entries ∧
    Text.asciiLower key = Text.asciiLower repo ∧ kind ∈ watch.events

/-- The rooms that an event is sent to, in order. -/
def audience (s : Service) (repo kind : String) : List String :=
  ((s.bindings repo).filter (·.2.wants kind)).map (·.1)

theorem mem_audience {name : String} :
    name ∈ s.audience repo kind ↔ s.Subscribes name repo kind := by
  simp only [audience, bindings, Subscribes, Watch.wants, List.mem_map, List.mem_filter,
    List.mem_flatMap, decide_eq_true_eq]
  constructor
  · rintro ⟨_, ⟨⟨⟨name, r⟩, hroom, ⟨key, watch⟩, ⟨hkey, hlower⟩, rfl⟩, hwants⟩, rfl⟩
    exact ⟨r, hroom, key, watch, hkey, hlower, hwants⟩
  · rintro ⟨r, hroom, key, watch, hkey, hlower, hwants⟩
    exact ⟨(name, watch), ⟨⟨(name, r), hroom, (key, watch), ⟨hkey, hlower⟩, rfl⟩, hwants⟩, rfl⟩

instance (name : String) : Decidable (s.Subscribes name repo kind) :=
  decidable_of_iff _ mem_audience

/-- Of the bindings of a repository, a room has one for each of its keys. -/
theorem count_bindings (repo : String) (wanted : Watch → Bool) (name : String) :
    (((s.bindings repo).filter (wanted ·.2)).map Prod.fst).count name =
      (((s.room name).namings repo).filter (wanted ·.2)).length := by
  have hrooms : ((s.bindings repo).filter (wanted ·.2)).map Prod.fst =
      s.rooms.entries.flatMap fun e =>
        List.replicate ((e.2.namings repo).filter (wanted ·.2)).length e.1 := by
    have hbindings : s.bindings repo =
        s.rooms.entries.flatMap fun e => (e.2.namings repo).map fun k => (e.1, k.2) := rfl
    rw [hbindings, List.filter_flatMap, List.map_flatMap]
    refine List.flatMap_congr fun e _ => ?_
    rw [List.filter_map, List.map_map]
    exact List.map_const'
  rw [hrooms, Entries.count_flatMap_replicate
    (fun r => ((Room.namings r repo).filter (wanted ·.2)).length) s.rooms.nodup, room]
  show ((s.rooms.get? name).map _).getD 0 = _
  cases s.rooms.get? name <;> rfl

theorem mem_roomsNaming {name : String} :
    name ∈ s.roomsNaming repo ↔ (s.room name).namings repo ≠ [] := by
  rw [roomsNaming, List.mem_filter, Bool.not_eq_true', ← Bool.not_eq_true, List.isEmpty_iff,
    and_iff_right_iff_imp]
  intro h
  by_contra hkey
  rw [room, Table.get?_eq_none_iff.mpr hkey] at h
  exact h rfl

/-- There is a binding for each key by which a room names a repository. -/
theorem length_bindings : (s.bindings repo).length =
    (s.rooms.keys.map fun name => ((s.room name).namings repo).length).sum := by
  have hroom : ∀ e ∈ s.rooms.entries, s.room e.1 = e.2 := fun e he => by
    rw [room, Table.get?_eq_some_iff.mpr he, Option.getD_some]
  rw [bindings, List.length_flatMap, Table.keys, List.map_map]
  refine congrArg List.sum (List.map_congr_left fun e he => ?_)
  rw [List.length_map, Function.comp_apply, hroom e he, Room.namings]

/-- Each binding is of a room of its own just when no room names the repository twice. -/
theorem length_bindings_eq_iff : (s.bindings repo).length = (s.roomsNaming repo).length ↔
    ∀ name, ((s.room name).namings repo).length ≤ 1 := by
  have hcount : ∀ name, ((s.bindings repo).map Prod.fst).count name =
      ((s.room name).namings repo).length := by
    intro name
    have h := s.count_bindings repo (fun _ => true) name
    rwa [List.filter_true, List.filter_true] at h
  have hnodup : (s.roomsNaming repo).Nodup := s.rooms.nodup.filter _
  have hperm : ((s.bindings repo).map Prod.fst).dedup.Perm (s.roomsNaming repo) := by
    refine (List.perm_ext_iff_of_nodup (List.nodup_dedup _) hnodup).mpr fun name => ?_
    rw [List.mem_dedup, ← List.count_pos_iff, hcount, mem_roomsNaming, List.length_pos_iff]
  have hlength : (s.bindings repo).length = ((s.bindings repo).map Prod.fst).length := by
    rw [List.length_map]
  rw [← hperm.length_eq, hlength]
  simp only [← hcount, ← List.nodup_iff_count_le_one]
  constructor
  · intro h
    exact List.dedup_eq_self.mp ((List.dedup_sublist _).eq_of_length h.symm)
  · intro h
    rw [h.dedup]

end Service

namespace Delivery

variable {C σ : Type} {conduct : Conduct C σ} {credentials : Credentials C} {s : Service}
  {r : Request} {e : Event} {st st' : σ} {trace : List (Exchange C)} {response : Response}

theorem runs_sendAll {message : Message} {done sent : List Sent} {rooms : List String}
    (hr : Runs conduct (sendAll message done rooms) st trace sent st') :
    ∃ attempts, sent = done ++ attempts ∧ attempts.map (·.room) = rooms ∧
      trace = attempts.map fun x => ⟨.send x.room message, x.result⟩ := by
  induction rooms generalizing done st trace with
  | nil =>
    obtain ⟨rfl, rfl, -⟩ := runs_done.mp hr
    exact ⟨[], (List.append_nil _).symm, rfl, rfl⟩
  | cons room rest ih =>
    obtain ⟨reply, st₁, after, -, hnext, rfl⟩ := runs_call.mp hr
    obtain ⟨attempts, rfl, rfl, rfl⟩ := ih hnext
    exact ⟨⟨room, reply⟩ :: attempts, List.append_assoc _ _ _, rfl, rfl⟩

/-- What becomes of a message to some rooms in memory. -/
def sentTo (chat : Chat) (rooms : List String) : List Sent :=
  rooms.map fun room => ⟨room, chat.admits room⟩

theorem isOk_admits (chat : Chat) (room : String) :
    (chat.admits room).isOk = decide (room ∉ chat.failing) := by
  rw [Chat.admits]
  split
  · next h => simp [h, Except.isOk, Except.toBool]
  · next h => simp [h, Except.isOk, Except.toBool]

/-- The rooms that got it are those that do not fail. -/
theorem notified_of_sent {report : Report} {chat : Chat} {rooms : List String}
    (h : report.sent = sentTo chat rooms) :
    report.notified = rooms.filter (· ∉ chat.failing) := by
  rw [Report.notified, h, sentTo, List.filter_map, List.map_map]
  simp [Function.comp_def, isOk_admits]

theorem run_sendAll_answer (message : Message) (done : List Sent) (rooms : List String) (w : World) :
    (sendAll message done rooms).run World.answer w =
      (done ++ sentTo w.chat rooms, { w with chat := { w.chat with
        sent := w.chat.sent ++ (rooms.filter (· ∉ w.chat.failing)).map (·, message) } }) := by
  induction rooms generalizing done w with
  | nil =>
    rw [sentTo, List.map_nil, List.append_nil, List.filter_nil, List.map_nil, List.append_nil]
    rfl
  | cons room rest ih =>
    rw [sendAll, run_call, ih]
    by_cases hf : room ∈ w.chat.failing
    · have hadmits : w.chat.admits room = .error (.chat room "Simulated failure") := if_pos hf
      have hanswer : World.answer (.send room message) w =
          (.error (.chat room "Simulated failure"), w) := by
        simp only [World.answer, Chat.send, hadmits]
      rw [hanswer]
      simp [hf, hadmits, sentTo]
    · have hadmits : w.chat.admits room = .ok () := if_neg hf
      have hanswer : World.answer (.send room message) w =
          (.ok (), { w with chat := { w.chat with sent := w.chat.sent ++ [(room, message)] } }) := by
        simp only [World.answer, Chat.send, hadmits]
      rw [hanswer]
      simp [hf, sentTo, Chat.admits]

/-- An event of a repository that rooms name is sent to its audience. -/
theorem route_of_bindings (hb : s.bindings e.repo ≠ []) : route credentials s e =
    (sendAll e.message [] (s.audience e.repo e.kind)).bind fun sent =>
      .done ⟨200, { event := some e.kind
                    repo := some e.repo
                    matched := (s.bindings e.repo).length
                    sent := sent }⟩ :=
  if_neg fun h => hb (List.isEmpty_iff.mp h)

/-- What rooms are told of an event is the notice about the payload that it came with. -/
theorem exists_payload_of_verify {secret : Option String}
    (hv : r.verify secret = .ok (.event e)) :
    ∃ p, Json.decode Payload.ofDoc r.body = .ok p ∧ e.message = p.notice e.kind := by
  obtain ⟨kind, he⟩ : ∃ kind, r.event kind = .ok e := by
    rcases hk : r.eventKind with f | kind
    · simp [Request.verify, hk, bind, Except.bind] at hv
    rcases hc : r.checkSignature secret with f | ⟨⟩
    · simp [Request.verify, hk, hc, bind, Except.bind] at hv
    simp only [Request.verify, hk, hc, bind, Except.bind] at hv
    split at hv
    · cases hv
    · rcases he : r.event kind with f | e'
      · simp [he] at hv
      · rw [he] at hv
        cases hv
        exact ⟨kind, he⟩
  rw [Request.event] at he
  split at he
  · cases he
  · next p hp =>
    split at he
    · cases he
    · cases he
      exact ⟨p, hp, rfl⟩

/-! ## Fan-out -/

theorem run_route_of_bindings (users : Credentials String) (hb : s.bindings e.repo ≠ [])
    (w : World) : ∃ report : Report, report.sent = sentTo w.chat (s.audience e.repo e.kind) ∧
      report.cleanup = none ∧
      (route users s e).run World.answer w = (⟨200, report⟩, { w with chat := { w.chat with
        sent := w.chat.sent ++ report.notified.map (·, e.message) } }) ∧
      (route users s e).exchanges World.answer w =
        report.sent.map fun x => ⟨.send x.room e.message, x.result⟩ := by
  have hrun := run_sendAll_answer e.message [] (s.audience e.repo e.kind) w
  obtain ⟨attempts, hsent, -, htrace⟩ :=
    runs_sendAll (runs_run World.answer (sendAll e.message [] (s.audience e.repo e.kind)) w)
  rw [hrun, List.nil_append, List.nil_append] at hsent
  refine ⟨{ event := some e.kind
            repo := some e.repo
            matched := (s.bindings e.repo).length
            sent := sentTo w.chat (s.audience e.repo e.kind) }, rfl, rfl, ?_, ?_⟩
  · rw [route_of_bindings hb, run_bind, hrun, run_done, notified_of_sent rfl]
    rfl
  · rw [route_of_bindings hb, exchanges_bind, htrace, ← hsent]
    exact List.append_nil _

/-- **An event is told to every room that wants it.** A request is verified to be an event of a
repository that some key of a service names, letter case apart. Whichever rooms fail, and in whatever
order the rooms are written, the answer is that all is well, and nobody tries to take a hook off. The
rooms that the event is sent to are those that have such a key under which they want the kind of event;
sending fails for those that fail, and the others get the notice about the payload. Nothing else is asked
of anybody, and nothing else changes. -/
theorem fanned_out (users : Credentials String) (w : World)
    (hv : r.verify s.secret = .ok (.event e))
    (hk : ∃ key ∈ s.repoKeys, Text.asciiLower key = Text.asciiLower e.repo) :
    ∃ report : Report,
      (handle users s r).run World.answer w = (⟨200, report⟩, { w with chat := { w.chat with
        sent := w.chat.sent ++ report.notified.map (·, e.message) } }) ∧
      (handle users s r).exchanges World.answer w =
        report.sent.map (fun x => ⟨.send x.room e.message, x.result⟩) ∧
      report.cleanup = none ∧
      (∀ name, name ∈ report.sent.map (·.room) ↔ s.Subscribes name e.repo e.kind) ∧
      (∀ x ∈ report.sent, x.result.isOk = false ↔ x.room ∈ w.chat.failing) ∧
      (∀ name, name ∈ report.notified ↔
        s.Subscribes name e.repo e.kind ∧ name ∉ w.chat.failing) ∧
      ∃ p, Json.decode Payload.ofDoc r.body = .ok p ∧ e.message = p.notice e.kind := by
  have hb : s.bindings e.repo ≠ [] := by
    obtain ⟨key, hkey, hlower⟩ := hk
    exact fun h => Service.bindings_eq_nil_iff.mp h key hkey hlower
  obtain ⟨report, hsent, hcleanup, hrun, hcalls⟩ := run_route_of_bindings users hb w
  rw [handle_of_verify hv]
  refine ⟨report, hrun, hcalls, hcleanup, fun name => ?_, fun x hx => ?_, fun name => ?_,
    exists_payload_of_verify hv⟩
  · rw [hsent, sentTo, List.map_map, ← Service.mem_audience]
    simp [Function.comp_def]
  · rw [hsent] at hx
    obtain ⟨room, -, rfl⟩ := List.mem_map.mp hx
    simp [isOk_admits]
  · rw [notified_of_sent hsent, ← Service.mem_audience]
    simp

/-- A service of which one room wants pushes to a repository, another too but under a key in another
letter case, and a third one wants something else. -/
def crowded : Service :=
  ((watching "svc" "u" ["acme/a"]).bind "ops" "Acme/A" ["push"]).bind "quiet" "acme/a" ["issues"]

/-- A push is told to the first room, also when the second one fails. -/
theorem fanned_out_crowded : ∃ report w', (handle soleUser crowded (pushOf "acme/A" [])).run
      World.answer { chat := { failing := NameSet.ofList ["ops"] } } = (⟨200, report⟩, w') ∧
    "room" ∈ report.notified ∧ "ops" ∈ report.sent.map (·.room) ∧ "ops" ∉ report.notified ∧
    "quiet" ∉ report.sent.map (·.room) := by
  have hv : (pushOf "acme/A" []).verify crowded.secret = .ok (.event ⟨"push", "acme/A",
      .notice "[acme/A] someone pushed 0 commits to ?", none⟩) := by rfl
  obtain ⟨report, hrun, -, -, hsent, -, hnotified, -⟩ := fanned_out soleUser
    { chat := { failing := NameSet.ofList ["ops"] } } hv ⟨"acme/a", by decide, by decide⟩
  refine ⟨report, _, hrun, (hnotified _).mpr ?_, (hsent _).mpr ?_, fun h => ?_, fun h => ?_⟩
  · decide
  · decide
  · exact absurd (hnotified _ |>.mp h) (by decide)
  · exact absurd (hsent _ |>.mp h) (by decide)

/-! ## One room, many keys -/

/-- The room that a call sends a message to. -/
def recipient? : Call C → Option String
  | .send room _ => some room
  | _ => none

theorem Routes.rooms_sent (h : Routes conduct credentials s e st trace response st') :
    response.report.sent.map (·.room) = s.audience e.repo e.kind := by
  cases h with
  | told hb hr =>
    obtain ⟨attempts, rfl, hrooms, -⟩ := runs_sendAll hr
    exact hrooms
  | malformed hb | orphaned hb =>
    rw [Service.audience, hb]
    rfl

theorem Routes.matched_eq (h : Routes conduct credentials s e st trace response st') :
    response.report.matched = (s.bindings e.repo).length := by
  cases h with
  | told => rfl
  | malformed hb | orphaned hb =>
    rw [hb]
    rfl

/-- The report tells of each message that was sent. -/
theorem Routes.recipients (h : Routes conduct credentials s e st trace response st') :
    trace.filterMap (recipient? ·.call) = response.report.sent.map (·.room) := by
  cases h with
  | told hb hr =>
    obtain ⟨attempts, rfl, -, rfl⟩ := runs_sendAll hr
    rw [List.filterMap_map]
    simp [Function.comp_def, recipient?]
  | malformed => rfl
  | @orphaned _ repo _ _ hb hp hr =>
    have hmakes : (s.uninstall credentials repo).Makes
        (Call.Removes (s.client? credentials) fun _ => True) := Service.makes_uninstall trivial
    refine List.filterMap_eq_nil_iff.mpr fun x hx => ?_
    have hremoves := hr.mem_makes hmakes x hx
    rcases x with ⟨c, reply⟩
    cases c with
    | send => exact hremoves.elim
    | _ => rfl

/-- **A room is told once for each of its keys.** A request is verified to be an event. Each room is
sent a message as often as it has keys that name the repository and under which it wants the kind of
event, and the report tells of each of these messages; the rooms that it counts are all the keys that
name the repository. So every room is told at most once just when no room wants the event under two
keys, and the count is that of the rooms just when no room names the repository by two. -/
theorem told_by_keys (hv : r.verify s.secret = .ok (.event e))
    (hr : Runs conduct (handle credentials s r) st trace response st') :
    (∀ name, (response.report.sent.map (·.room)).count name =
      ((s.room name).wishes e.repo e.kind).length) ∧
    trace.filterMap (recipient? ·.call) = response.report.sent.map (·.room) ∧
    response.report.matched =
      (s.rooms.keys.map fun name => ((s.room name).namings e.repo).length).sum ∧
    ((∀ name, (response.report.sent.map (·.room)).count name ≤ 1) ↔
      ∀ name, ((s.room name).wishes e.repo e.kind).length ≤ 1) ∧
    (response.report.matched = (s.roomsNaming e.repo).length ↔
      ∀ name, ((s.room name).namings e.repo).length ≤ 1) := by
  rw [handle_of_verify hv] at hr
  have hroutes := runs_route hr
  have hcount : ∀ name, (response.report.sent.map (·.room)).count name =
      ((s.room name).wishes e.repo e.kind).length := fun name => by
    rw [hroutes.rooms_sent]
    exact s.count_bindings e.repo (·.wants e.kind) name
  refine ⟨hcount, hroutes.recipients, ?_, ?_, ?_⟩
  · rw [hroutes.matched_eq]
    exact Service.length_bindings
  · simp only [hcount]
  · rw [hroutes.matched_eq]
    exact Service.length_bindings_eq_iff

/-- A service of which the one room names a repository in two letter cases. -/
def doubled : Service := watching "svc" "u" ["acme/a", "Acme/A"]

/-- A push that was sent to the room was sent to it twice. -/
theorem told_by_keys_doubled : ∃ trace response w', Runs (Handler.conduct World.answer)
      (handle soleUser doubled (pushOf "acme/a" [])) {} trace response w' ∧
    (response.report.sent.map (·.room)).count "room" = 2 := by
  have hv : (pushOf "acme/a" []).verify doubled.secret = .ok (.event ⟨"push", "acme/a",
      .notice "[acme/a] someone pushed 0 commits to ?", none⟩) := by rfl
  have hr := runs_run World.answer (handle soleUser doubled (pushOf "acme/a" [])) {}
  exact ⟨_, _, _, hr, ((told_by_keys hv hr).1 "room").trans (by decide)⟩

/-- So the room is not told once, and it is counted as two. -/
theorem told_twice : ∃ report w',
    (handle soleUser doubled (pushOf "acme/a" [])).run World.answer {} = (⟨200, report⟩, w') ∧
      report.sent.map (·.room) = ["room", "room"] ∧ report.matched = 2 ∧
      doubled.roomsNaming "acme/a" = ["room"] := by
  refine ⟨_, _, rfl, ?_, ?_, ?_⟩
  · decide +kernel
  · decide +kernel
  · decide

end Delivery

end WebhookRelay
