import SvmCourse.Events.Recording
import SvmCourse.Events.Rooms

/-!
# Delivering Events

Events are stored and sent while sockets connect, subscribe, unsubscribe and disconnect.
What is sent to a room is received by the sockets that are in it at this moment.

So a socket whose subscription has been acknowledged receives every event of the type
that is sent from then on, in the order in which they are sent, until it sends for the
opposite or disconnects. Since every event that is stored is sent once, it receives what
is stored, each event once. And when it is acknowledged that the subscription has ended
it receives no more of them.

## Main definitions

* `Live`, `step`: The gateway, the recording of events, and what sockets receive.
* `Acknowledged`: A message that was sent has succeeded.
* `Served`: A socket receives what is stored of a type.

## Theorems

* `hears_inside`, `hears_outside`: Who is in a room hears everything, and who is not in
  it nothing.
* `served_of_subscribed`: Who has subscribed receives everything.
* `silent_of_unsubscribed`: Who has unsubscribed receives nothing.
-/

namespace SvmCourse

namespace Events

namespace Delivery

open Core Core.Sched Core.Machine Rooms Recording

/-! ### Everything at once -/

/-- The gateway, the service that records events, and what each socket has
    received. -/
structure Live where
  gateway : Recorded World String Events.Event := ⟨{}, []⟩
  recorder : Recorded Store String Call := ⟨{}, []⟩
  received : Nat → List (String × Message) := fun _ => []

/-- A move of one of the two. -/
inductive Turn where
  | gateway (move : Move Events.Event)
  | recorder (move : Move Call)

/-- What is sent is received by the sockets that are in the room. -/
def Live.deliver (live : Live) (sent : List (String × Message)) (n : Nat) :
    List (String × Message) :=
  live.received n ++ sent.filter fun entry => entry.1 ∈ live.gateway.store.rooms n

/-- One turn: what is recorded meanwhile is delivered at once. -/
def step (live : Live) : Turn → Unit × Live
  | .gateway move => ((), { live with gateway := (record program live.gateway move).2 })
  | .recorder move =>
    let recorder := (record Call.program live.recorder move).2
    let sent := recorder.store.sent.drop live.recorder.store.sent.length
    ((), { live with recorder, received := live.deliver sent })

/-- The move of the gateway, if it is one. -/
def Turn.ofGateway : Turn → Option (Move Events.Event)
  | .gateway move => some move
  | .recorder _ => none

/-- The move of the recorder, if it is one. -/
def Turn.ofRecorder : Turn → Option (Move Call)
  | .gateway _ => none
  | .recorder move => some move

/-- The calls to the gateway that are started. -/
def started (turns : List Turn) : List Events.Event :=
  (turns.filterMap Turn.ofGateway).filterMap Move.started

/-- The messages that a socket has received from a room. -/
def Live.heard (live : Live) (n : Nat) (room : String) : List Message :=
  ((live.received n).filter fun entry => entry.1 = room).map Prod.snd

/-- The messages that have been sent to a room. -/
def Live.sent (live : Live) (room : String) : List Message :=
  (live.recorder.store.sent.filter fun entry => entry.1 = room).map Prod.snd

/-- How many of the stored events belong in a room, by what is asked of their messages. -/
def Live.stored (live : Live) (room : String) (p : Message → Bool) : Nat :=
  live.recorder.store.stored room p

/-- No event is on its way. -/
def Live.idle (live : Live) : Prop := Quiet (fun _ : Call => True) live.recorder

/-- A message that was sent has succeeded. -/
def Acknowledged (event : Events.Event) (live : Live) (turns : List Turn) : Prop :=
  ∃ w, (after step (.gateway (.start event) :: turns) live).gateway.calls[
    live.gateway.calls.length]? = some w ∧ w.rest.outcome = some (.ok ())

/-! ### What is sent -/

/-- The gateway does not depend on the recording of events. -/
theorem gateway_after (turns : List Turn) (live : Live) :
    (after step turns live).gateway =
      after (record program) (turns.filterMap Turn.ofGateway) live.gateway := by
  induction turns generalizing live with
  | nil => rfl
  | cons turn turns ih =>
      cases turn with
      | gateway move => exact ih _
      | recorder move => exact ih _

/-- The recording of events does not depend on the gateway. -/
theorem recorder_after (turns : List Turn) (live : Live) :
    (after step turns live).recorder =
      after (record Call.program) (turns.filterMap Turn.ofRecorder) live.recorder := by
  induction turns generalizing live with
  | nil => rfl
  | cons turn turns ih =>
      cases turn with
      | gateway move => exact ih _
      | recorder move => exact ih _

/-- Every call of the recorder has written what it has seen itself write. -/
abbrev Recorder.Sound (r : Recorded Store String Call) : Prop :=
  Followed Call.writes (fun _ seen _ => Paired seen) r

/-- Nothing that was sent is taken back. -/
theorem sent_record {r : Recorded Store String Call} (h : Recorder.Sound r) (move : Move Call) :
    r.store.sent <+: (record Call.program r move).2.store.sent := by
  rcases followed_cases Call.program h move with hsame | ⟨call, -, hnew⟩ |
    ⟨before, call, rest, seen, lived, after, next, t, -, -, -, hwrites, -, hnew⟩
  · rw [hsame]
  · rw [hnew]
  · rw [hnew]
    obtain ⟨dto, -, ⟨-, rfl | rfl⟩ | ⟨-, rfl, -⟩⟩ := hwrites
    · exact List.prefix_refl _
    · exact List.prefix_refl _
    · exact List.prefix_append _ _

section

variable {n : Nat} {room : String} {live : Live}

/-- What has been sent to a room since, and what a socket has heard from it since. -/
def Hears (n : Nat) (room : String) (live live' : Live) (heard : List Message → List Message) :
    Prop :=
  ∃ since, live'.sent room = live.sent room ++ since ∧
    live'.heard n room = live.heard n room ++ heard since

/-- A socket hears what is sent to a room that it is in, and nothing from another. -/
theorem hears_step (h : Recorder.Sound live.recorder) (turn : Turn) :
    (room ∈ live.gateway.store.rooms n → Hears n room live (step live turn).2 id) ∧
      (room ∉ live.gateway.store.rooms n →
        Hears n room live (step live turn).2 fun _ => []) := by
  cases turn with
  | gateway move =>
      exact ⟨fun _ => ⟨[], (List.append_nil _).symm, (List.append_nil _).symm⟩,
        fun _ => ⟨[], (List.append_nil _).symm, (List.append_nil _).symm⟩⟩
  | recorder move =>
      obtain ⟨since, hsince⟩ := sent_record h move
      have hsent : (step live (.recorder move)).2.sent room =
          live.sent room ++ (since.filter fun entry => entry.1 = room).map Prod.snd := by
        change (((record Call.program live.recorder move).2.store.sent.filter _).map _) = _
        rw [← hsince, List.filter_append, List.map_append]
        rfl
      have hheard : (step live (.recorder move)).2.heard n room = live.heard n room ++
          ((since.filter fun entry => entry.1 ∈ live.gateway.store.rooms n).filter
            fun entry => entry.1 = room).map Prod.snd := by
        have hdrop : (record Call.program live.recorder move).2.store.sent.drop
            live.recorder.store.sent.length = since := by
          rw [← hsince, List.drop_left]
        change (((live.received n ++ ((record Call.program live.recorder move).2.store.sent.drop
          live.recorder.store.sent.length).filter _).filter _).map _) = _
        rw [hdrop, List.filter_append, List.map_append]
        rfl
      rw [List.filter_filter] at hheard
      refine ⟨fun hin => ⟨_, hsent, hheard.trans ?_⟩, fun hout => ⟨_, hsent, hheard.trans ?_⟩⟩
      · -- What is sent to the room is sent to a room of the socket.
        have hsame : (since.filter fun entry => decide (entry.1 = room) &&
            decide (entry.1 ∈ live.gateway.store.rooms n)) =
              since.filter fun entry => decide (entry.1 = room) := by
          refine List.filter_congr fun entry _ => ?_
          by_cases hroom : entry.1 = room
          · simp [hroom, hin]
          · simp [hroom]
        rw [hsame]
        rfl
      · have hnone : (since.filter fun entry => decide (entry.1 = room) &&
            decide (entry.1 ∈ live.gateway.store.rooms n)) = [] := by
          refine List.filter_eq_nil_iff.mpr fun entry _ => ?_
          by_cases hroom : entry.1 = room
          · simp [hroom, hout]
          · simp [hroom]
        rw [hnone]
        rfl

theorem hears_refl {heard : List Message → List Message} (hnil : heard [] = []) (live : Live) :
    Hears n room live live heard :=
  ⟨[], (List.append_nil _).symm, by rw [hnil, List.append_nil]⟩

theorem hears_trans {heard : List Message → List Message}
    (happend : ∀ a b, heard (a ++ b) = heard a ++ heard b) {live' live'' : Live}
    (h : Hears n room live live' heard) (h' : Hears n room live' live'' heard) :
    Hears n room live live'' heard := by
  obtain ⟨since, hsent, hheard⟩ := h
  obtain ⟨since', hsent', hheard'⟩ := h'
  refine ⟨since ++ since', ?_, ?_⟩
  · rw [hsent', hsent, List.append_assoc]
  · rw [hheard', hheard, happend, List.append_assoc]

theorem sound_step (h : Recorder.Sound live.recorder) (turn : Turn) :
    Recorder.Sound (step live turn).2.recorder := by
  cases turn with
  | gateway move => exact h
  | recorder move => exact followed_record Recording.call_follows h move

theorem sound_turns (turns : List Turn) : Recorder.Sound (after step turns {}).recorder := by
  refine after_invariant (I := fun live : Live => Recorder.Sound live.recorder)
    (fun turn live _ h => sound_step h turn) (fun w hw => ?_)
    (along_of_forall (fun _ _ => trivial) turns _)
  cases hw

/-- The calls to the gateway are those that are started where a turn is made. -/
theorem along_started_turns {kind : Events.Event → Prop} {turns : List Turn}
    (h : ∀ event ∈ started turns, ¬kind event) :
    Along step (fun turn _ _ _ => ∀ event, turn = .gateway (.start event) → ¬kind event) turns
      live := by
  induction turns generalizing live with
  | nil => exact trivial
  | cons turn turns ih =>
      refine ⟨fun event hturn => h event ?_, ih fun event hevent => h event ?_⟩
      · rw [hturn]
        exact List.mem_cons_self ..
      · rcases turn with (call | i) | move
        · exact List.mem_cons_of_mem _ hevent
        · exact hevent
        · exact hevent

/-! ### Who receives what -/

/-- A socket that stays in a room hears everything that is sent there. -/
theorem hears_inside (hsound : Recorder.Sound live.recorder) (h : Inside n room live.gateway)
    {turns : List Turn} (hturns : ∀ event ∈ started turns, ¬takes n room event) :
    Hears n room live (after step turns live) id := by
  refine (after_invariant (I := fun live' : Live => Recorder.Sound live'.recorder ∧
    Inside n room live'.gateway ∧ Hears n room live live' id) (fun turn live' hturn h => ?_)
    ⟨hsound, h, hears_refl rfl live⟩ (along_started_turns hturns)).2.2
  obtain ⟨hsound', hinside, hears⟩ := h
  refine ⟨sound_step hsound' turn, ?_,
    hears_trans (fun _ _ => rfl) hears ((hears_step hsound' turn).1 hinside.member)⟩
  cases turn with
  | gateway move => exact inside_record hinside fun event hmove => hturn event (hmove ▸ rfl)
  | recorder move => exact hinside

/-- A socket that stays out of the room of a type hears nothing of it. -/
theorem hears_outside {eventType : String} (hsound : Recorder.Sound live.recorder)
    (h : Outside n eventType live.gateway) {turns : List Turn}
    (hturns : ∀ event ∈ started turns, ¬brings n (eventRoom eventType) event) :
    Hears n (eventRoom eventType) live (after step turns live) fun _ => [] := by
  refine (after_invariant (I := fun live' : Live => Recorder.Sound live'.recorder ∧
    Outside n eventType live'.gateway ∧ Hears n (eventRoom eventType) live live' fun _ => [])
    (fun turn live' hturn h => ?_) ⟨hsound, h, hears_refl rfl live⟩
    (along_started_turns hturns)).2.2
  obtain ⟨hsound', houtside, hears⟩ := h
  refine ⟨sound_step hsound' turn, ?_,
    hears_trans (fun _ _ => rfl) hears ((hears_step hsound' turn).2 houtside.absent)⟩
  cases turn with
  | gateway move => exact outside_record houtside fun event hmove => hturn event (hmove ▸ rfl)
  | recorder move => exact houtside

/-- What has been sent to a room by the time a turn is made, against what is stored. -/
theorem settled_turns (turns : List Turn) : Settled (after step turns {}).recorder := by
  rw [recorder_after]
  exact sent_once _

theorem delivered_eq (live : Live) (room : String) (p : Message → Bool) :
    live.recorder.store.delivered room p = (live.sent room).countP p := by
  rw [Store.delivered, Live.sent, List.countP_map, List.countP_filter]
  refine List.countP_congr fun entry _ => ?_
  rw [Function.comp_apply, Bool.and_eq_true, Bool.and_eq_true, beq_iff_eq, decide_eq_true_iff,
    and_comm]

/-- The messages of the events that are stored have been sent, if none is on its way. -/
theorem stored_eq {live : Live} (h : Settled live.recorder) (hidle : live.idle)
    (p : Message → Bool) : live.stored room p = (live.sent room).countP p := by
  rw [← delivered_eq]
  exact (h.done (fun w hw => hidle w hw trivial) room p).symm

/-- From one state to another a socket hears what is sent to a room, in this order. When
    no event is on its way it has heard of all that have been stored, and if none was
    on its way before, of no others. -/
structure Served (n : Nat) (room : String) (live live' : Live) : Prop where
  inOrder : Hears n room live live' id
  complete : live'.idle → ∀ p, live'.stored room p + (live.heard n room).countP p ≤
    live.stored room p + (live'.heard n room).countP p
  once : live.idle → live'.idle → ∀ p, live'.stored room p + (live.heard n room).countP p =
    live.stored room p + (live'.heard n room).countP p

theorem served_of_hears {live' : Live} (hsettled : Settled live.recorder)
    (hsettled' : Settled live'.recorder) (h : Hears n room live live' id) :
    Served n room live live' := by
  obtain ⟨since, hsent, hheard⟩ := h
  refine ⟨⟨since, hsent, hheard⟩, fun hidle p => ?_, fun hidle hidle' p => ?_⟩
  · have hsafe := hsettled.safe room p
    rw [delivered_eq] at hsafe
    rw [stored_eq hsettled' hidle, hsent, hheard, List.countP_append, List.countP_append, id]
    change _ ≤ live.recorder.store.stored room p + _
    omega
  · rw [stored_eq hsettled' hidle', stored_eq hsettled hidle, hsent, hheard, List.countP_append,
      List.countP_append, id]
    omega

/-- What is asked of the calls since a message was sent: those of a kind have returned,
    and no other is started. -/
structure Calm (kind : Events.Event → Prop) (live : Live) (turns : List Turn) : Prop where
  quiet : Quiet kind live.gateway
  starts : ∀ event ∈ started turns, ¬kind event

/-- The calls that are started are those of the first turns and those of the others. -/
theorem Calm.split {kind : Events.Event → Prop} {turns turns' : List Turn}
    (h : Calm kind live (turns ++ turns')) :
    Undisturbed kind live.gateway (turns.filterMap Turn.ofGateway) ∧
      ∀ event ∈ started turns', ¬kind event := by
  have hsplit : started (turns ++ turns') = started turns ++ started turns' := by
    rw [started, List.filterMap_append, List.filterMap_append]
    rfl
  have hstarts := h.starts
  rw [hsplit] at hstarts
  exact ⟨⟨h.quiet, fun event hevent => hstarts event (List.mem_append_left _ hevent)⟩,
    fun event hevent => hstarts event (List.mem_append_right _ hevent)⟩

theorem sound_gateway (turns : List Turn) : Sound (after step turns {}).gateway := by
  rw [gateway_after]
  exact sound_after _

/-- Who has subscribed receives everything: from the moment a subscription has been
    acknowledged, in every schedule in which the socket does not send for the opposite
    and does not disconnect. -/
theorem served_of_subscribed (before waiting later : List Turn) {n : Nat}
    {eventTypes : List String} {eventType : String} (hmem : eventType ∈ eventTypes)
    (hok : Acknowledged (.subscribe n eventTypes) (after step before {}) waiting)
    (hcalm : Calm (takes n (eventRoom eventType)) (after step before {}) (waiting ++ later)) :
    Served n (eventRoom eventType)
      (after step (before ++ .gateway (.start (.subscribe n eventTypes)) :: waiting) {})
      (after step (before ++ .gateway (.start (.subscribe n eventTypes)) :: waiting ++ later)
        {}) := by
  obtain ⟨hwaiting, hlater⟩ := hcalm.split
  obtain ⟨w, hw, houtcome⟩ := hok
  have hgateway := gateway_after (.gateway (.start (.subscribe n eventTypes)) :: waiting)
    (after step before {})
  rw [hgateway] at hw
  have hinside := inside_of_acknowledged hmem (sound_gateway before) hwaiting hw houtcome
  refine served_of_hears (settled_turns _) (settled_turns _) ?_
  have hsound := sound_turns (before ++ .gateway (.start (.subscribe n eventTypes)) :: waiting)
  rw [after_append _ later]
  rw [after_append before] at hsound ⊢
  exact hears_inside hsound (hgateway ▸ hinside) hlater

/-- Who has unsubscribed receives nothing: from the moment it has been acknowledged, in
    every schedule in which the socket does not subscribe to the type again. -/
theorem silent_of_unsubscribed (before waiting later : List Turn) {n : Nat}
    {eventTypes : List String} {eventType : String} (hmem : eventType ∈ eventTypes)
    (hok : Acknowledged (.unsubscribe n eventTypes) (after step before {}) waiting)
    (hcalm : Calm (brings n (eventRoom eventType)) (after step before {}) (waiting ++ later)) :
    (after step (before ++ .gateway (.start (.unsubscribe n eventTypes)) :: waiting ++ later)
        {}).heard n (eventRoom eventType) =
      (after step (before ++ .gateway (.start (.unsubscribe n eventTypes)) :: waiting)
        {}).heard n (eventRoom eventType) := by
  obtain ⟨hwaiting, hlater⟩ := hcalm.split
  obtain ⟨w, hw, houtcome⟩ := hok
  have hgateway := gateway_after (.gateway (.start (.unsubscribe n eventTypes)) :: waiting)
    (after step before {})
  rw [hgateway] at hw
  have houtside := outside_of_acknowledged hmem (sound_gateway before) hwaiting hw houtcome
  have hsound := sound_turns (before ++ .gateway (.start (.unsubscribe n eventTypes)) :: waiting)
  rw [after_append _ later]
  rw [after_append before] at hsound ⊢
  obtain ⟨since, -, hheard⟩ := hears_outside hsound (hgateway ▸ houtside) hlater
  exact hheard.trans (List.append_nil _)

end

/-! ### Tests -/

/-- The event of the witness. -/
def sampleEvent : Call := .createEvent ⟨.SLOT_UPDATED, "network", .null, none, none⟩ (.ok ())

/-- A client connects, and an event is stored that is not sent yet. -/
def sampleBefore : List Turn :=
  [.gateway (.start (.connect (some "c"))), .gateway (.access 0), .gateway (.access 0),
    .recorder (.start sampleEvent), .recorder (.access 0), .gateway (.access 0)]

/-- All accesses of the second call to the gateway. -/
def sampleWaiting : List Turn := List.replicate 5 (.gateway (.access 1))

/-- The event is sent, and another one is stored and sent. -/
def sampleLater : List Turn :=
  [.recorder (.access 0), .recorder (.start sampleEvent), .recorder (.access 1),
    .recorder (.access 1)]

theorem sample_served : Served 0 (eventRoom "slot_updated")
    (after step (sampleBefore ++ .gateway (.start (.subscribe 0 ["slot_updated"])) ::
      sampleWaiting) {})
    (after step (sampleBefore ++ .gateway (.start (.subscribe 0 ["slot_updated"])) ::
      sampleWaiting ++ sampleLater) {}) := by
  refine served_of_subscribed sampleBefore sampleWaiting sampleLater (List.mem_singleton_self _)
    ⟨_, rfl, rfl⟩ ⟨fun w hw htakes => ?_, fun event hevent => ?_⟩
  · obtain rfl : w = _ := List.mem_singleton.mp hw
    cases htakes
  · cases hevent

/-- The client subscribes, and then unsubscribes. -/
def sampleSubscribed : List Turn :=
  sampleBefore ++ .gateway (.start (.subscribe 0 ["slot_updated"])) :: sampleWaiting

theorem sample_silent :
    (after step (sampleSubscribed ++ .gateway (.start (.unsubscribe 0 ["slot_updated"])) ::
        List.replicate 5 (.gateway (.access 2)) ++ sampleLater) {}).heard 0
          (eventRoom "slot_updated") =
      (after step (sampleSubscribed ++ .gateway (.start (.unsubscribe 0 ["slot_updated"])) ::
        List.replicate 5 (.gateway (.access 2))) {}).heard 0 (eventRoom "slot_updated") := by
  refine silent_of_unsubscribed sampleSubscribed _ sampleLater (List.mem_singleton_self _)
    ⟨_, rfl, rfl⟩ ⟨fun w hw hbrings => ?_, fun event hevent => ?_⟩
  · -- The connection and the subscription have returned.
    rcases List.mem_cons.mp hw with rfl | hw
    · cases hbrings
    · obtain rfl : w = _ := List.mem_singleton.mp hw
      rfl
  · cases hevent

end Delivery

end Events

end SvmCourse
