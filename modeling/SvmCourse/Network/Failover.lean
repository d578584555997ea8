import Mathlib.Algebra.Order.BigOperators.Group.List
import Mathlib.Algebra.Order.Group.Int
import SvmCourse.Network.Endpoints

/-!
# Failover

Which endpoint of a network is served, in every schedule of health checks and
network switches. Overlapping passes do not count an answer twice and do not
lose one, so an endpoint is out exactly while its last three answers were
failures, and the connection is that of the first of the best of the others.

## Main definitions

* `scheduled`: The service after a schedule.
* `Failing`: The last three answers of an endpoint were failures.
* `standing`: The endpoints that are not failing.
* `Pass`: A call is a pass that is over.

## Theorems

* `endpoint_after`: What the counters say.
* `getConnection_after`: What is served.
* `answers_perm`: Every answer that was given is counted once.
* `failover_after`: An endpoint that has only failed during three whole passes
  is out, and one that has only answered during one is in.
-/

namespace SvmCourse

namespace Network

open Core Core.Prog Core.Sched Core.Machine

variable (clusterApiUrl : SolanaNetwork → String) (created : Nat)

/-- The service after a schedule, with every call that was started. -/
def scheduled (moves : List (Move NetworkCall)) : Recorded World Empty NetworkCall :=
  after (record (NetworkCall.program clusterApiUrl)) moves ⟨World.create clusterApiUrl created, []⟩

/-- The last three checks of the endpoint failed. -/
def World.Failing (w : World) (network : SolanaNetwork) (i : Nat) : Prop :=
  List.replicate 3 false <:+ (w.answers network i).map (·.passed)

instance (w : World) (network : SolanaNetwork) (i : Nat) : Decidable (w.Failing network i) :=
  inferInstanceAs (Decidable (_ <:+ _))

/-- A lower number is preferred. -/
def preference (endpoint : RpcEndpoint) : Natᵒᵈ := OrderDual.toDual endpoint.priority

/-- The endpoints of a network that are not failing, as they were built. -/
def standing (w : World) (network : SolanaNetwork) : List RpcEndpoint :=
  ((rpcEndpoints clusterApiUrl created network).zipIdx.filter fun entry =>
    ¬w.Failing network entry.2).map Prod.fst

variable {clusterApiUrl : SolanaNetwork → String} {created : Nat}

theorem recalled_create (moves : List (Move NetworkCall)) :
    Recalled (NetworkCall.writes clusterApiUrl) (fun _ _ _ _ => True)
      (fun call seen _ => NetworkCall.ended clusterApiUrl call seen)
      (fun s t => s.checks <+: t.checks) (Agrees clusterApiUrl created)
      (scheduled clusterApiUrl created moves) :=
  recalled_after (network_law clusterApiUrl created) (networkCall_follows clusterApiUrl)
    (recalled_start (agrees_create clusterApiUrl created)) 
    (along_heeds (fun _ _ _ _ => trivial) moves _)

/-- Calls have made the accesses they make, in their order. -/
theorem met_scheduled (moves : List (Move NetworkCall)) :
    ∀ w ∈ (scheduled clusterApiUrl created moves).calls,
      Met (NetworkCall.writes clusterApiUrl) w.call w.seen := fun w hw =>
  (met_after (networkCall_follows clusterApiUrl) moves (World.create clusterApiUrl created) w hw).1

theorem agrees_after (moves : List (Move NetworkCall)) :
    Agrees clusterApiUrl created (scheduled clusterApiUrl created moves).store :=
  (recalled_create moves).store

/-! ### Counters -/

/-- Endpoints begin healthy, with no failures. -/
theorem rpcEndpoints_fresh {network : SolanaNetwork} {endpoint : RpcEndpoint}
    (h : endpoint ∈ rpcEndpoints clusterApiUrl created network) :
    endpoint.consecutiveFailures = 0 ∧ endpoint.isHealthy = true := by
  cases network with
  | MAINNET =>
      simp only [rpcEndpoints, List.mem_cons, List.not_mem_nil, or_false] at h
      rcases h with rfl | rfl | rfl | rfl <;> exact ⟨rfl, rfl⟩
  | DEVNET =>
      simp only [rpcEndpoints, List.mem_cons, List.not_mem_nil, or_false] at h
      rcases h with rfl | rfl <;> exact ⟨rfl, rfl⟩
  | TESTNET =>
      obtain rfl := List.mem_singleton.mp h
      exact ⟨rfl, rfl⟩

theorem healthy_iff {w : World} {network : SolanaNetwork} {i : Nat} {endpoint : RpcEndpoint}
    (h : endpoint ∈ rpcEndpoints clusterApiUrl created network) :
    (endpoint.checkedBy 3 (w.answers network i)).isHealthy = true ↔ ¬w.Failing network i := by
  obtain ⟨hfailures, hhealthy⟩ := rpcEndpoints_fresh h
  rw [checkedBy_healthy hfailures hhealthy (by omega), World.Failing, ← le_streak_iff]
  omega

/-- In every schedule the counter of an endpoint is the number of failures since
    its last success, and it is healthy until its last three answers were
    failures. -/
theorem endpoint_after (moves : List (Move NetworkCall)) {network : SolanaNetwork} {i : Nat}
    {endpoint : RpcEndpoint}
    (h : ((scheduled clusterApiUrl created moves).store.networkConfigs network).rpcEndpoints[i]? =
      some endpoint) :
    endpoint.consecutiveFailures =
        streak (((scheduled clusterApiUrl created moves).store.answers network i).map (·.passed)) ∧
      (endpoint.isHealthy = true ↔
        ¬(scheduled clusterApiUrl created moves).store.Failing network i) := by
  rw [(agrees_after moves).get] at h
  obtain ⟨built, hbuilt, rfl⟩ := Option.map_eq_some_iff.mp h
  have hmem := List.mem_of_getElem? hbuilt
  exact ⟨checkedBy_failures (rpcEndpoints_fresh hmem).1 _, healthy_iff hmem⟩

/-- A pass over the devnet in which the official endpoint fails and the other one
    answers. -/
def failingPass : NetworkCall := .performHealthChecks .DEVNET fun i => ⟨i = 1, i⟩

/-- Three such passes, each begun before the one before is over. -/
def outage : List (Move NetworkCall) :=
  [.start failingPass, .start failingPass, .access 0, .access 1, .start failingPass, .access 1,
    .access 2, .access 0, .access 2]

theorem endpoint_after_outage :
    3 = streak (((scheduled (fun _ => "") 0 outage).store.answers .DEVNET 0).map (·.passed)) ∧
      (false = true ↔ ¬(scheduled (fun _ => "") 0 outage).store.Failing .DEVNET 0) :=
  @endpoint_after (fun _ => "") 0 outage .DEVNET 0 ⟨"", "Official Devnet", 1, false, 0, 3⟩
    (by decide +kernel)

/-! ### Connections -/

/-- The healthy endpoints are the standing ones, as their answers have left
    them. -/
theorem healthy_eq {w : World} (h : Agrees clusterApiUrl created w) (network : SolanaNetwork) :
    (w.networkConfigs network).rpcEndpoints.filter (·.isHealthy) =
      ((rpcEndpoints clusterApiUrl created network).zipIdx.filter fun entry =>
        ¬w.Failing network entry.2).map fun entry =>
          entry.1.checkedBy 3 (w.answers network entry.2) := by
  rw [h.networks, List.mapIdx_eq_zipIdx_map, List.filter_map]
  refine congrArg _ (List.filter_congr fun entry hentry => ?_)
  have hmem := List.mem_of_getElem? (List.mem_zipIdx_iff_getElem?.mp hentry)
  rw [Function.comp_apply, Bool.eq_iff_iff, healthy_iff hmem]
  exact (decide_eq_true_iff).symm

/-- The endpoint that is served is the first of the best of those that are
    standing. -/
theorem getHealthyEndpoint_some {w : World} (h : Agrees clusterApiUrl created w)
    {network : SolanaNetwork} {best : RpcEndpoint}
    (hbest : w.getHealthyEndpoint network = some best) :
    ∃ endpoint, Foremost (preference)
        (standing clusterApiUrl created w network) endpoint ∧
      best.url = endpoint.url ∧ best.name = endpoint.name ∧ best.priority = endpoint.priority := by
  have hforemost : Foremost preference _ best := foremost_of_head (fun _ _ => Iff.rfl) hbest
  rw [healthy_eq h] at hforemost
  obtain ⟨entry, rfl, hentry⟩ := foremost_map hforemost
  -- Answers do not change what the endpoints are ranked by.
  have hscore : (preference ∘ fun entry => entry.1.checkedBy 3 (w.answers network entry.2)) =
      preference ∘ Prod.fst := by
    funext entry
    exact congrArg OrderDual.toDual (checkedBy_constant entry.1 3 _).2.2
  rw [hscore] at hentry
  exact ⟨entry.1, hentry.map, checkedBy_constant entry.1 3 _⟩

theorem getHealthyEndpoint_none {w : World} (h : Agrees clusterApiUrl created w)
    {network : SolanaNetwork} :
    w.getHealthyEndpoint network = none ↔ standing clusterApiUrl created w network = [] := by
  rw [World.getHealthyEndpoint, List.head?_eq_none_iff, healthy_eq h, standing, List.map_eq_nil_iff,
    ← List.length_eq_zero_iff, List.length_insertionSort, List.length_map, List.length_eq_zero_iff]

/-- In every schedule the connection is that of the first of the best of the
    endpoints whose last three answers were not failures, and it is refused only
    when there is none. -/
theorem getConnection_after (moves : List (Move NetworkCall)) (network : Option SolanaNetwork) :
    let w := (scheduled clusterApiUrl created moves).store
    let targetNetwork := network.getD w.currentNetwork
    (∀ connection, w.getConnection network = .ok connection →
      ∃ endpoint, Foremost (preference)
          (standing clusterApiUrl created w targetNetwork) endpoint ∧
        connection = ⟨endpoint.url, .confirmed⟩) ∧
    ∀ message, w.getConnection network = .error message →
      standing clusterApiUrl created w targetNetwork = [] ∧
        message = "No healthy RPC endpoints available for network: " ++ targetNetwork.text := by
  intro w targetNetwork
  have hagrees : Agrees clusterApiUrl created w := agrees_after moves
  cases hhealthy : w.getHealthyEndpoint targetNetwork with
  | none =>
      have hget : w.getConnection network = .error
          ("No healthy RPC endpoints available for network: " ++ targetNetwork.text) := by
        simp only [World.getConnection, hhealthy, targetNetwork]
      rw [hget]
      refine ⟨fun _ hno => (by cases hno), fun message hmessage => ?_⟩
      exact ⟨(getHealthyEndpoint_none hagrees).mp hhealthy, (Except.error.inj hmessage).symm⟩
  | some best =>
      obtain ⟨endpoint, hforemost, -, hname, -⟩ := getHealthyEndpoint_some hagrees hhealthy
      -- Every endpoint that stands has a connection under its name.
      obtain ⟨entry, hentry, hbuilt⟩ := List.mem_map.mp hforemost.mem
      have hmem := List.mem_of_getElem?
        (List.mem_zipIdx_iff_getElem?.mp (List.mem_filter.mp hentry).1)
      rw [hbuilt] at hmem
      have hlookup := lookup_connection hmem
      rw [← hagrees.connections, ← hname] at hlookup
      have hget : w.getConnection network = .ok ⟨endpoint.url, .confirmed⟩ := by
        simp only [World.getConnection, hhealthy, targetNetwork, hlookup]
      rw [hget]
      exact ⟨fun c hc => ⟨endpoint, hforemost, (Except.ok.inj hc).symm⟩,
        fun _ hno => by cases hno⟩

/-! ### Outages -/

/-- The answers of an endpoint that came after another state of the service. -/
def World.since (w : World) (earlier : World) (network : SolanaNetwork) (i : Nat) : List Answer :=
  ((w.checks.drop earlier.checks.length).filter fun check =>
    check.network = network ∧ check.endpoint = i).map (·.answer)

/-- The call is a pass over the network, and it is over. -/
def Pass (network : SolanaNetwork) (w : Watched World Empty NetworkCall) : Bool :=
  match w.call with
  | .performHealthChecks network' _ => network' = network && !w.rest.unfinished
  | .setCurrentNetwork _ => false

theorem answers_eq_since {w earlier : World} (h : earlier.checks <+: w.checks)
    (network : SolanaNetwork) (i : Nat) :
    w.answers network i = earlier.answers network i ++ w.since earlier network i := by
  obtain ⟨later, hlater⟩ := h
  rw [World.since, World.answers, World.answers, ← hlater, List.drop_left, List.filter_append,
    List.map_append]

/-- Answers since then are only added to. -/
theorem since_mono {s t earlier : World} (h : s.checks <+: t.checks) (network : SolanaNetwork)
    (i : Nat) : (s.since earlier network i).length ≤ (t.since earlier network i).length := by
  obtain ⟨later, hlater⟩ := h
  rw [World.since, World.since, ← hlater, List.drop_append, List.filter_append, List.map_append,
    List.length_append]
  omega

/-- The counted answer is one more. -/
theorem since_check {s earlier : World} (h : Agrees clusterApiUrl created s)
    (hlater : earlier.checks <+: s.checks) {network : SolanaNetwork} {i : Nat}
    (hi : i < (rpcEndpoints clusterApiUrl created network).length) (answer : Answer) :
    ((s.check network i answer).since earlier network i).length =
      (s.since earlier network i).length + 1 := by
  have hget := List.getElem?_eq_getElem hi
  have hlength := hlater.length_le
  rw [check_eq h hget]
  simp [World.since, List.drop_append_of_le_length hlength]

section

variable {now : World} {w : Watched World Empty NetworkCall}

/-- What a call is remembered for: its accesses, and what it has done when it is
    over. -/
abbrev Known (clusterApiUrl : SolanaNetwork → String) (created : Nat) (now : World)
    (w : Watched World Empty NetworkCall) : Prop :=
  Remembered (NetworkCall.writes clusterApiUrl) (fun _ _ _ _ => True)
    (fun call seen _ => NetworkCall.ended clusterApiUrl call seen)
    (fun s t => s.checks <+: t.checks) (Agrees clusterApiUrl created) now w

/-- No access takes an answer away. -/
theorem accesses_nonneg (h : Known clusterApiUrl created now w) (earlier : World)
    (network : SolanaNetwork) (i : Nat) :
    ∀ x ∈ w.seen.map fun p => ((p.2.since earlier network i).length : Int) -
      (p.1.since earlier network i).length, 0 ≤ x := by
  refine List.forall_mem_map.mpr fun p hp => ?_
  have hmono : (p.1.since earlier network i).length ≤ _ :=
    since_mono (h.past.access p hp) network i
  omega

/-- A pass that has begun since then and is over has an answer of the endpoint. -/
theorem pass_change (h : Known clusterApiUrl created now w)
    (hmet : Met (NetworkCall.writes clusterApiUrl) w.call w.seen) {earlier : World}
    (hlived : ∀ u ∈ w.lived, earlier.checks <+: u.checks) {network : SolanaNetwork} {i : Nat}
    (hi : i < (rpcEndpoints clusterApiUrl created network).length)
    (hpass : Pass network w = true) :
    1 ≤ w.change fun s => ((s.since earlier network i).length : Int) := by
  have hend : ∃ answers, w.call = .performHealthChecks network answers ∧
      w.rest.unfinished = false := by
    unfold Pass at hpass
    cases hcall : w.call with
    | setCurrentNetwork network' => simp [hcall] at hpass
    | performHealthChecks network' answers =>
        simp only [hcall, Bool.and_eq_true, decide_eq_true_eq, Bool.not_eq_true'] at hpass
        exact ⟨answers, by rw [hpass.1], hpass.2⟩
  obtain ⟨answers, hcall, hover⟩ := hend
  obtain ⟨outcome, houtcome⟩ := outcome_of_finished hover
  have hended := follows_outcome h.follows houtcome
  rw [hcall] at hended
  -- The access of this pass that has counted the endpoint's answer.
  have hlt : i < w.seen.length := by
    refine lt_of_lt_of_le ?_ hended
    cases network <;> exact hi
  have hsplit : w.seen = w.seen.take i ++ w.seen[i] :: w.seen.drop (i + 1) := by
    rw [List.getElem_cons_drop, List.take_append_drop]
  have hwrites := hmet _ _ _ hsplit
  rw [hcall] at hwrites
  obtain ⟨-, hcheck⟩ := hwrites
  rw [List.length_take, min_eq_left hlt.le] at hcheck
  have hp : w.seen[i] ∈ w.seen := List.getElem_mem hlt
  generalize w.seen[i] = p at hcheck hp
  have hone := since_check (h.past.kept p hp) (hlived _ (h.found p hp)) hi (answers i)
  have hsingle := List.single_le_sum (accesses_nonneg h earlier network i) _
    (List.mem_map_of_mem hp)
  rw [hcheck, hone] at hsingle
  rw [Watched.change]
  push_cast at hsingle
  omega

end

/-- There are as many answers of an endpoint at least as passes that have begun
    since then and are over. -/
theorem passes_le_since (before later : List (Move NetworkCall)) {network : SolanaNetwork} {i : Nat}
    (hi : i < (rpcEndpoints clusterApiUrl created network).length) :
    ((scheduled clusterApiUrl created (before ++ later)).calls.drop
        (scheduled clusterApiUrl created before).calls.length).countP (Pass network) ≤
      ((scheduled clusterApiUrl created (before ++ later)).store.since
        (scheduled clusterApiUrl created before).store network i).length := by
  have hlived := lived_later (network_law clusterApiUrl created) (networkCall_follows clusterApiUrl)
    (recalled_create before) (along_heeds (fun _ _ _ _ => trivial) later _)
  rw [scheduled, ← after_append, ← scheduled, ← scheduled] at hlived
  have hcalls : ∀ w ∈ (scheduled clusterApiUrl created (before ++ later)).calls, Known _ _ _ w :=
    (recalled_create (before ++ later)).calls
  have hmet : ∀ w ∈ (scheduled clusterApiUrl created (before ++ later)).calls,
      Met _ w.call w.seen :=
    met_scheduled (before ++ later)
  have hchange := change_after (fun s =>
    ((s.since (scheduled clusterApiUrl created before).store network i).length : Int))
    (NetworkCall.program clusterApiUrl) (before ++ later) ⟨World.create clusterApiUrl created, []⟩
  rw [← scheduled] at hchange
  generalize (scheduled clusterApiUrl created before).store = earlier at hlived hchange ⊢
  generalize (scheduled clusterApiUrl created before).calls.length = n at hlived ⊢
  generalize scheduled clusterApiUrl created (before ++ later) = now at hcalls hlived hmet hchange ⊢
  -- At first there are no answers and no calls.
  have hnothing : (((World.create clusterApiUrl created).since earlier network i).length : Int) -
      Recorded.change (fun s => ((s.since earlier network i).length : Int))
        (⟨World.create clusterApiUrl created, []⟩ : Recorded World Empty NetworkCall) = 0 := by
    simp [World.since, World.create, Recorded.change]
  rw [hnothing, Recorded.change, ← List.take_append_drop n now.calls, List.map_append,
    List.sum_append] at hchange
  have hold : 0 ≤ ((now.calls.take n).map (Watched.change fun s =>
      ((s.since earlier network i).length : Int))).sum := by
    refine List.sum_nonneg (List.forall_mem_map.mpr fun w hw => ?_)
    exact List.sum_nonneg (accesses_nonneg (hcalls w (List.mem_of_mem_take hw)) earlier network i)
  have hnew : ∀ w ∈ now.calls.drop n, (if Pass network w then 1 else 0) ≤
      w.change fun s => ((s.since earlier network i).length : Int) := by
    intro w hw
    have hw' := hcalls w (List.mem_of_mem_drop hw)
    split
    · exact pass_change hw' (hmet w (List.mem_of_mem_drop hw)) (hlived w hw) hi ‹_›
    · exact List.sum_nonneg (accesses_nonneg hw' earlier network i)
  have hcount := countP_le_change hnew
  omega

/-! ### Every answer once -/

/-- What an endpoint has answered to a call: something, if the call is a pass that
    has come to the endpoint. -/
def answered (network : SolanaNetwork) (i : Nat) (call : NetworkCall)
    (seen : List (World × World)) : List Answer :=
  match call with
  | .performHealthChecks network' answers =>
    if network' = network ∧ i < seen.length then [answers i] else []
  | .setCurrentNetwork _ => []

section

variable {s t : World} {call : NetworkCall} {seen : List (World × World)} {network : SolanaNetwork}
  {i : Nat}

/-- An access counts the answer to it, and no other. -/
theorem answered_snoc (hagrees : Agrees clusterApiUrl created s)
    (hwrites : call.writes clusterApiUrl seen s t) (answer : Answer) :
    (t.answers network i).count answer +
        (answered network i call seen).count answer =
      (s.answers network i).count answer +
        (answered network i call (seen ++ [(s, t)])).count answer := by
  cases call with
  | setCurrentNetwork network' =>
      obtain rfl := hwrites
      rfl
  | performHealthChecks network' answers =>
      obtain ⟨hlt, rfl⟩ := hwrites
      have hlt' : seen.length < (rpcEndpoints clusterApiUrl created network').length := by
        cases network' <;> exact hlt
      rw [check_eq hagrees (List.getElem?_eq_getElem hlt'), answers_snoc, List.count_append]
      simp only [answered, List.length_append, List.length_singleton]
      -- It is the turn of the endpoint, or it was before, or it is not yet.
      by_cases hnetwork : network' = network
      · rcases Nat.lt_trichotomy i seen.length with hi | rfl | hi
        · simp [hnetwork, hi, Nat.ne_of_gt hi, Nat.lt_succ_of_lt hi]
        · simp [hnetwork]
        · have hnot : ¬i < seen.length := by omega
          have hnot' : ¬i < seen.length + 1 := by omega
          simp [hnetwork, hnot, hnot', Nat.ne_of_lt hi]
      · simp [hnetwork]

/-- The accesses of a call count what the endpoint has answered to it. -/
theorem change_answered (hkept : ∀ p ∈ seen, Agrees clusterApiUrl created p.1)
    (hmet : Met (NetworkCall.writes clusterApiUrl) call seen) (answer : Answer) :
    (seen.map fun p => ((p.2.answers network i).count answer : Int) -
        (p.1.answers network i).count answer).sum =
      (answered network i call seen).count answer := by
  -- Over the accesses of the call, the last one of which has answered.
  induction seen using List.reverseRecOn with
  | nil => cases call <;> simp [answered]
  | append_singleton seen p ih =>
      rcases p with ⟨s, t⟩
      have hrest := ih (fun q hq => hkept q (List.mem_append_left _ hq))
        fun before q after hsplit => hmet before q (after ++ [(s, t)]) (by rw [hsplit]; simp)
      have hlast : (t.answers network i).count answer +
          (answered network i call seen).count answer =
          (s.answers network i).count answer +
            (answered network i call (seen ++ [(s, t)])).count answer :=
        answered_snoc (hkept (s, t) (by simp)) (hmet seen (s, t) [] rfl) answer
      rw [List.map_append, List.sum_append, hrest, List.map_singleton, List.sum_singleton]
      dsimp only
      omega

end

/-- The answers of an endpoint are those it has given to the passes, each once. -/
theorem answers_perm (moves : List (Move NetworkCall)) (network : SolanaNetwork) (i : Nat) :
    ((scheduled clusterApiUrl created moves).store.answers network i).Perm
      ((scheduled clusterApiUrl created moves).calls.flatMap fun w =>
        answered network i w.call w.seen) := by
  refine List.perm_iff_count.mpr fun answer => ?_
  have hchange := change_after (fun s => ((s.answers network i).count answer : Int))
    (NetworkCall.program clusterApiUrl) moves ⟨World.create clusterApiUrl created, []⟩
  rw [← scheduled] at hchange
  have hnothing : (((World.create clusterApiUrl created).answers network i).count answer : Int) -
      Recorded.change (fun s => ((s.answers network i).count answer : Int))
        (⟨World.create clusterApiUrl created, []⟩ : Recorded World Empty NetworkCall) = 0 := by
    simp [World.answers, World.create, Recorded.change]
  -- Each pass adds the answers it was given, and no pass takes one away.
  have hcalls : (scheduled clusterApiUrl created moves).calls.map (Watched.change fun s =>
      ((s.answers network i).count answer : Int)) =
        (scheduled clusterApiUrl created moves).calls.map fun w =>
          ((answered network i w.call w.seen).count answer : Int) :=
    List.map_congr_left fun w hw => change_answered
      ((recalled_create moves).calls w hw).past.kept (met_scheduled moves w hw) answer
  rw [hnothing, Recorded.change, hcalls] at hchange
  rw [List.count_flatMap]
  have hcast : (((scheduled clusterApiUrl created moves).calls.map fun w =>
      ((answered network i w.call w.seen).count answer : Int)).sum : Int) =
        (((scheduled clusterApiUrl created moves).calls.map
          (List.count answer ∘ fun w => answered network i w.call w.seen)).sum : Nat) := by
    refine Eq.trans ?_ (map_list_sum (Nat.castAddMonoidHom Int) _).symm
    rw [List.map_map]
    rfl
  omega

theorem failing_of_since {w earlier : World} (h : earlier.checks <+: w.checks)
    {network : SolanaNetwork} {i : Nat} (hlength : 3 ≤ (w.since earlier network i).length)
    (hfailed : ∀ answer ∈ w.since earlier network i, answer.passed = false) :
    w.Failing network i := by
  have hall : (w.since earlier network i).map (·.passed) =
      List.replicate (w.since earlier network i).length false :=
    List.eq_replicate_iff.mpr ⟨List.length_map .., List.forall_mem_map.mpr hfailed⟩
  rw [World.Failing, answers_eq_since h, List.map_append, hall]
  refine List.suffix_append_of_suffix ?_
  rw [List.suffix_iff_eq_drop]
  simp only [List.length_replicate, List.drop_replicate]
  congr 1
  omega

theorem not_failing_of_since {w earlier : World} (h : earlier.checks <+: w.checks)
    {network : SolanaNetwork} {i : Nat} (hlength : 1 ≤ (w.since earlier network i).length)
    (hpassed : ∀ answer ∈ w.since earlier network i, answer.passed = true) :
    ¬w.Failing network i := by
  rcases List.eq_nil_or_concat (w.since earlier network i) with hnil | ⟨init, last, hsince⟩
  · rw [hnil] at hlength
    exact absurd hlength (Nat.not_succ_le_zero 0)
  · -- The last answer ends every streak.
    have hlast := hpassed last (by simp [hsince])
    rw [World.Failing, ← le_streak_iff, answers_eq_since h, hsince, List.concat_eq_append,
      ← List.append_assoc, List.map_append, List.map_singleton, streak_snoc, hlast, if_pos rfl]
    omega

/-- Endpoints of a network have different names. -/
theorem name_inj {network : SolanaNetwork} {i j : Nat} {endpoint endpoint' : RpcEndpoint}
    (hi : (rpcEndpoints clusterApiUrl created network)[i]? = some endpoint)
    (hj : (rpcEndpoints clusterApiUrl created network)[j]? = some endpoint')
    (h : endpoint.name = endpoint'.name) : i = j := by
  have hnodup : ((rpcEndpoints clusterApiUrl created network).map (·.name)).Nodup := by
    cases network <;> simp [rpcEndpoints, rpcEndpoint]
  have hlt := (List.getElem?_eq_some_iff.mp hi).1
  refine (List.getElem?_inj (by rwa [List.length_map]) hnodup).mp ?_
  rw [List.getElem?_map, List.getElem?_map, hi, hj, Option.map_some, Option.map_some, h]

/-- In every schedule: when three passes over a network have begun and ended since
    some moment, an endpoint that has only failed since then is not served, and
    when one has, an endpoint that has only answered is healthy, and one that is not
    less preferred is served. However passes overlap, the answers of the endpoint
    are those it has given to each of them. -/
theorem failover_after (before later : List (Move NetworkCall)) {network : SolanaNetwork} {i : Nat}
    {endpoint : RpcEndpoint}
    (h : (rpcEndpoints clusterApiUrl created network)[i]? = some endpoint) :
    let earlier := scheduled clusterApiUrl created before
    let now := scheduled clusterApiUrl created (before ++ later)
    let passes := (now.calls.drop earlier.calls.length).countP (Pass network)
    (3 ≤ passes → (∀ answer ∈ now.store.since earlier.store network i, answer.passed = false) →
      ∀ best, now.store.getHealthyEndpoint network = some best → best.name ≠ endpoint.name) ∧
    (1 ≤ passes → (∀ answer ∈ now.store.since earlier.store network i, answer.passed = true) →
      (∃ current, (now.store.networkConfigs network).rpcEndpoints[i]? = some current ∧
        current.isHealthy = true) ∧
      ∃ best, now.store.getHealthyEndpoint network = some best ∧
        best.priority ≤ endpoint.priority) ∧
    (now.store.answers network i).Perm
      (now.calls.flatMap fun w => answered network i w.call w.seen) := by
  intro earlier now passes
  have hlt := (List.getElem?_eq_some_iff.mp h).1
  have hcount : passes ≤ _ := passes_le_since before later hlt
  have hagrees : Agrees clusterApiUrl created now.store := agrees_after (before ++ later)
  have hgrown : earlier.store.checks <+: now.store.checks := by
    have hext := (extended_after (network_law clusterApiUrl created)
      (networkCall_follows clusterApiUrl) (recalled_create before)
      (along_heeds (fun _ _ _ _ => trivial) later _)).2
    rwa [scheduled, ← after_append] at hext
  refine ⟨?_, ?_, answers_perm (before ++ later) network i⟩
  · intro hpasses hfailed best hbest hname
    have hfailing := failing_of_since hgrown (hpasses.trans hcount) hfailed
    obtain ⟨served, hforemost, -, hserved, -⟩ := getHealthyEndpoint_some hagrees hbest
    -- What is served stands at a place that is not failing.
    obtain ⟨⟨_, j⟩, hentry, rfl⟩ := List.mem_map.mp hforemost.mem
    obtain ⟨hplace, hstanding⟩ := List.mem_filter.mp hentry
    obtain rfl := name_inj h (List.mem_zipIdx_iff_getElem?.mp hplace) (hname.symm.trans hserved)
    exact of_decide_eq_true hstanding hfailing
  · intro hpasses hpassed
    have hstands := not_failing_of_since hgrown (hpasses.trans hcount) hpassed
    have hmem : endpoint ∈ standing clusterApiUrl created now.store network :=
      List.mem_map.mpr ⟨(endpoint, i), List.mem_filter.mpr
        ⟨List.mem_zipIdx_iff_getElem?.mpr h, decide_eq_true hstands⟩, rfl⟩
    refine ⟨⟨endpoint.checkedBy 3 (now.store.answers network i), ?_,
      (healthy_iff (List.mem_of_getElem? h)).mpr hstands⟩, ?_⟩
    · rw [hagrees.get, h, Option.map_some]
    cases hbest : now.store.getHealthyEndpoint network with
    | none =>
        rw [(getHealthyEndpoint_none hagrees).mp hbest] at hmem
        exact absurd hmem List.not_mem_nil
    | some best =>
        obtain ⟨served, hforemost, -, -, hpriority⟩ := getHealthyEndpoint_some hagrees hbest
        refine ⟨best, rfl, ?_⟩
        rw [hpriority]
        exact hforemost.le endpoint hmem

theorem failover_after_outage :
    ((scheduled (fun _ => "") 0 outage).store.getHealthyEndpoint .DEVNET).isSome ∧
      ∀ best, (scheduled (fun _ => "") 0 outage).store.getHealthyEndpoint .DEVNET = some best →
        best.name ≠ "Official Devnet" := by
  refine ⟨by decide +kernel, ?_⟩
  exact (@failover_after (fun _ => "") 0 [] outage .DEVNET 0 (rpcEndpoint 0 "" "Official Devnet" 1)
    (by decide)).1 (by decide +kernel) (by decide +kernel)

end Network

end SvmCourse
