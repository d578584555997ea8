import Mathlib.Order.OrderDual
import SvmCourse.Core.Contributions
import SvmCourse.Core.Ranking
import SvmCourse.Core.Streak

/-!
# Networks and Their Endpoints

A network has several endpoints, and calls go to the healthy one of the least
priority number. Every thirty seconds a pass over the endpoints of a network
asks each of them in turn. A timer starts the passes and does not wait for the
one before, so passes over slow endpoints overlap, and the counter of an
endpoint is written by whichever pass has its answer next.

What an endpoint answers, and when, comes with the pass. The store keeps every
answer beside the counters, in the order in which they came.

## Main definitions

* `NetworkConfig`, `networkConfigs`: The networks as they are built.
* `performHealthChecks`: A pass over the endpoints of a network.
* `World.getConnection`: The connection that is served.
* `World.answers`: What an endpoint has answered so far.
* `Agrees`: Every endpoint is what its answers have made of it.

## Theorems

* `checkedBy_failures`, `checkedBy_healthy`: What answers make of an endpoint.
* `agrees_check`: A check keeps endpoints and answers together.
* `networkCall_follows`, `network_law`: What passes do, in any schedule.
-/

namespace SvmCourse

namespace Network

open Core Core.Prog Core.Sched Core.Machine

/-! ### Networks -/

/-- The networks. -/
inductive SolanaNetwork where
  | MAINNET | DEVNET | TESTNET
  deriving DecidableEq, Repr

/-- The text of a network. -/
def SolanaNetwork.text : SolanaNetwork → String
  | .MAINNET => "mainnet-beta"
  | .DEVNET => "devnet"
  | .TESTNET => "testnet"

/-- How sure an answer has to be. -/
inductive Commitment where
  | processed | confirmed | finalized
  deriving DecidableEq, Repr

/-- An endpoint, with what the health checks know of it. -/
structure RpcEndpoint where
  url : String
  name : String
  priority : Nat
  isHealthy : Bool
  lastHealthCheck : Nat
  consecutiveFailures : Nat
  deriving DecidableEq

/-- The endpoints of a network. -/
structure NetworkConfig where
  name : SolanaNetwork
  rpcEndpoints : List RpcEndpoint
  commitment : Commitment
  timeout : Nat
  healthCheckInterval : Nat
  maxConsecutiveFailures : Nat
  deriving DecidableEq

/-- A connection to an endpoint. -/
structure Connection where
  url : String
  commitment : Commitment
  deriving DecidableEq

section

/-! ### What a service is built with -/

-- What `clusterApiUrl` gives for a network, and when the service is built.
variable (clusterApiUrl : SolanaNetwork → String) (created : Nat)

/-- An endpoint that no check has seen. -/
def rpcEndpoint (url name : String) (priority : Nat) : RpcEndpoint where
  url := url
  name := name
  priority := priority
  isHealthy := true
  lastHealthCheck := created
  consecutiveFailures := 0

/-- The endpoints that come with the service. -/
def rpcEndpoints : SolanaNetwork → List RpcEndpoint
  | .MAINNET => [
    rpcEndpoint created "https://api.mainnet-beta.solana.com" "Official Mainnet" 1,
    rpcEndpoint created "https://solana-api.projectserum.com" "Project Serum" 2,
    rpcEndpoint created "https://rpc.ankr.com/solana" "Ankr" 3,
    rpcEndpoint created "https://ssc-dao.genesysgo.net" "GenesysGo" 4]
  | .DEVNET => [
    rpcEndpoint created (clusterApiUrl .DEVNET) "Official Devnet" 1,
    rpcEndpoint created "https://devnet.solana.com" "Devnet Fallback" 2]
  | .TESTNET => [rpcEndpoint created (clusterApiUrl .TESTNET) "Official Testnet" 1]

/-- The configuration of a network. -/
def networkConfigs (network : SolanaNetwork) : NetworkConfig where
  name := network
  rpcEndpoints := rpcEndpoints clusterApiUrl created network
  commitment := .confirmed
  timeout := 30000
  healthCheckInterval := 30000
  maxConsecutiveFailures := 3

end

/-- Whether an endpoint has answered, and when. -/
structure Answer where
  passed : Bool
  time : Nat
  deriving DecidableEq

/-- An answer that was counted. -/
structure Check where
  network : SolanaNetwork
  endpoint : Nat
  answer : Answer
  deriving DecidableEq

/-- The configurations, the connections, and the network in use. -/
structure World where
  currentNetwork : SolanaNetwork
  networkConfigs : SolanaNetwork → NetworkConfig
  connections : List (String × Connection)
  checks : List Check

/-- The name of a connection. -/
def connectionKey (network : SolanaNetwork) (name : String) : String := network.text ++ "-" ++ name

/-- Setting a key puts it before what it had before. -/
def createConnection (config : NetworkConfig) (network : SolanaNetwork)
    (connections : List (String × Connection)) (endpoint : RpcEndpoint) :
    List (String × Connection) :=
  (connectionKey network endpoint.name, ⟨endpoint.url, config.commitment⟩) :: connections

/-- Connect to all endpoints of a network. -/
def initializeNetwork (config : SolanaNetwork → NetworkConfig)
    (connections : List (String × Connection)) (network : SolanaNetwork) :
    List (String × Connection) :=
  (config network).rpcEndpoints.foldl (createConnection (config network) network) connections

/-- All networks. -/
def getAllNetworks : List SolanaNetwork := [.MAINNET, .DEVNET, .TESTNET]

/-- The service as it is built. -/
def World.create (clusterApiUrl : SolanaNetwork → String) (created : Nat) : World where
  currentNetwork := .DEVNET
  networkConfigs := Network.networkConfigs clusterApiUrl created
  connections :=
    getAllNetworks.foldl (initializeNetwork (Network.networkConfigs clusterApiUrl created)) []
  checks := []

/-! ### Health checks -/

/-- The endpoint after a check. -/
def RpcEndpoint.checked (endpoint : RpcEndpoint) (maxConsecutiveFailures : Nat)
    (answer : Answer) : RpcEndpoint :=
  if answer.passed then
    { endpoint with isHealthy := true, lastHealthCheck := answer.time, consecutiveFailures := 0 }
  else
    { endpoint with
      consecutiveFailures := endpoint.consecutiveFailures + 1
      lastHealthCheck := answer.time
      -- A failure alone does not make it unhealthy.
      isHealthy := if maxConsecutiveFailures ≤ endpoint.consecutiveFailures + 1 then false
        else endpoint.isHealthy }

/-- The same network with another endpoint at a place. -/
def NetworkConfig.replace (config : NetworkConfig) (i : Nat) (endpoint : RpcEndpoint) :
    NetworkConfig :=
  { config with rpcEndpoints := config.rpcEndpoints.set i endpoint }

/-- The answer of one endpoint. One without a connection is not asked. -/
def World.check (w : World) (network : SolanaNetwork) (i : Nat) (answer : Answer) : World :=
  let config := w.networkConfigs network
  match config.rpcEndpoints[i]? with
  -- An endpoint without a connection is not asked.
  | none => w
  | some endpoint =>
    match w.connections.lookup (connectionKey network endpoint.name) with
    | none => w
    | some _ =>
      { w with
        networkConfigs := Function.update w.networkConfigs network
          (config.replace i (endpoint.checked config.maxConsecutiveFailures answer))
        checks := w.checks ++ [⟨network, i, answer⟩] }

/-- Something done in one step that does not fail. -/
def atomically (f : World → World) : Prog World Empty Unit :=
  .access (fun w => ((), f w)) .done (.done ())

/-- A pass asks one endpoint after another, the next when the last has
    answered. -/
def performHealthChecks (endpoints : Nat) (network : SolanaNetwork) (answers : Nat → Answer) :
    Prog World Empty Unit :=
  each (List.range endpoints) fun i => atomically fun w => w.check network i (answers i)

/-- Use another network. -/
def World.setCurrentNetwork (w : World) (network : SolanaNetwork) : World :=
  { w with currentNetwork := network }

/-- The calls of the service. -/
inductive NetworkCall where
  | performHealthChecks (network : SolanaNetwork) (answers : Nat → Answer)
  | setCurrentNetwork (network : SolanaNetwork)

/-- What a call does, access by access. -/
def NetworkCall.program (clusterApiUrl : SolanaNetwork → String) :
    NetworkCall → Prog World Empty Unit
  | .performHealthChecks network answers =>
    -- No network gains or loses an endpoint after it is built.
    Network.performHealthChecks (rpcEndpoints clusterApiUrl 0 network).length network answers
  | .setCurrentNetwork network => atomically fun w => w.setCurrentNetwork network

/-! ### Connections -/

/-- The healthy endpoint with the lowest priority number. -/
def World.getHealthyEndpoint (w : World) (network : SolanaNetwork) : Option RpcEndpoint :=
  (((w.networkConfigs network).rpcEndpoints.filter (·.isHealthy)).insertionSort
    fun a b => a.priority ≤ b.priority).head?

/-- The connection to that endpoint, or an error when there is none. -/
def World.getConnection (w : World) (network : Option SolanaNetwork) : Except String Connection :=
  let targetNetwork := network.getD w.currentNetwork
  match w.getHealthyEndpoint targetNetwork with
  | none => .error ("No healthy RPC endpoints available for network: " ++ targetNetwork.text)
  | some healthyEndpoint =>
    match w.connections.lookup (connectionKey targetNetwork healthyEndpoint.name) with
    | none => .error ("No connection available for network: " ++ targetNetwork.text ++
        ", endpoint: " ++ healthyEndpoint.name)
    | some connection => .ok connection

/-! ### Counters and answers -/

/-- What an endpoint has answered so far. -/
def World.answers (w : World) (network : SolanaNetwork) (i : Nat) : List Answer :=
  (w.checks.filter fun check => check.network = network ∧ check.endpoint = i).map (·.answer)

/-- The endpoint after some answers. -/
def RpcEndpoint.checkedBy (endpoint : RpcEndpoint) (maxConsecutiveFailures : Nat)
    (answers : List Answer) : RpcEndpoint :=
  answers.foldl (fun endpoint answer => endpoint.checked maxConsecutiveFailures answer) endpoint

section

variable {endpoint : RpcEndpoint} {max : Nat}

theorem checkedBy_snoc (endpoint : RpcEndpoint) (max : Nat) (answers : List Answer)
    (answer : Answer) : endpoint.checkedBy max (answers ++ [answer]) =
      (endpoint.checkedBy max answers).checked max answer :=
  List.foldl_append

/-- A check changes nothing but the health, the time and the counter. -/
theorem checked_constant (endpoint : RpcEndpoint) (max : Nat) (answer : Answer) :
    (endpoint.checked max answer).url = endpoint.url ∧
      (endpoint.checked max answer).name = endpoint.name ∧
      (endpoint.checked max answer).priority = endpoint.priority := by
  unfold RpcEndpoint.checked
  split <;> exact ⟨rfl, rfl, rfl⟩

theorem checkedBy_constant (endpoint : RpcEndpoint) (max : Nat) (answers : List Answer) :
    (endpoint.checkedBy max answers).url = endpoint.url ∧
      (endpoint.checkedBy max answers).name = endpoint.name ∧
      (endpoint.checkedBy max answers).priority = endpoint.priority := by
  induction answers using List.reverseRecOn with
  | nil => exact ⟨rfl, rfl, rfl⟩
  | append_singleton answers answer ih =>
      obtain ⟨hurl, hname, hpriority⟩ :=
        checked_constant (endpoint.checkedBy max answers) max answer
      rw [checkedBy_snoc, hurl, hname, hpriority]
      exact ih

/-- The counter is the streak of failures. -/
theorem checkedBy_failures (h : endpoint.consecutiveFailures = 0) (answers : List Answer) :
    (endpoint.checkedBy max answers).consecutiveFailures = streak (answers.map (·.passed)) := by
  induction answers using List.reverseRecOn with
  | nil => exact h
  | append_singleton answers answer ih =>
      rw [checkedBy_snoc, List.map_append, List.map_singleton, streak_snoc, ← ih]
      unfold RpcEndpoint.checked
      split <;> rfl

/-- The endpoint is healthy as long as the streak is short. -/
theorem checkedBy_healthy (h : endpoint.consecutiveFailures = 0)
    (hhealthy : endpoint.isHealthy = true)
    (hmax : 0 < max) (answers : List Answer) :
    (endpoint.checkedBy max answers).isHealthy = true ↔ streak (answers.map (·.passed)) < max := by
  induction answers using List.reverseRecOn with
  | nil => exact ⟨fun _ => hmax, fun _ => hhealthy⟩
  | append_singleton answers answer ih =>
      have hfailures : (endpoint.checkedBy max answers).consecutiveFailures = _ :=
        checkedBy_failures h answers
      rw [checkedBy_snoc, List.map_append, List.map_singleton, streak_snoc]
      unfold RpcEndpoint.checked
      rw [hfailures]
      by_cases hpassed : answer.passed = true
      · rw [if_pos hpassed, if_pos hpassed]
        exact ⟨fun _ => hmax, fun _ => rfl⟩
      · rw [if_neg hpassed, if_neg hpassed]
        by_cases hreached : max ≤ streak (answers.map (·.passed)) + 1
        · simp only [if_pos hreached]
          exact ⟨fun hno => (Bool.noConfusion hno), fun hlt => absurd hlt (not_lt.mpr hreached)⟩
        · -- Not many enough yet, so it is what it was.
          simp only [if_neg hreached]
          rw [ih]
          omega

end

section

variable {clusterApiUrl : SolanaNetwork → String} {created : Nat} {w : World}

/-- Every endpoint is what its own answers have made of it, and nothing else has
    changed. -/
structure Agrees (clusterApiUrl : SolanaNetwork → String) (created : Nat) (w : World) : Prop where
  networks : ∀ network, w.networkConfigs network =
    { Network.networkConfigs clusterApiUrl created network with
      rpcEndpoints := (rpcEndpoints clusterApiUrl created network).mapIdx fun i endpoint =>
        endpoint.checkedBy 3 (w.answers network i) }
  connections : w.connections = (World.create clusterApiUrl created).connections

/-- Every endpoint has a connection. -/
theorem lookup_connection {network : SolanaNetwork} {endpoint : RpcEndpoint}
    (h : endpoint ∈ rpcEndpoints clusterApiUrl created network) :
    (World.create clusterApiUrl created).connections.lookup
      (connectionKey network endpoint.name) = some ⟨endpoint.url, .confirmed⟩ := by
  cases network with
  | MAINNET =>
      simp only [rpcEndpoints, List.mem_cons, List.not_mem_nil, or_false] at h
      rcases h with rfl | rfl | rfl | rfl <;> rfl
  | DEVNET =>
      simp only [rpcEndpoints, List.mem_cons, List.not_mem_nil, or_false] at h
      rcases h with rfl | rfl <;> rfl
  | TESTNET =>
      obtain rfl := List.mem_singleton.mp h
      rfl

theorem agrees_create (clusterApiUrl : SolanaNetwork → String) (created : Nat) :
    Agrees clusterApiUrl created (World.create clusterApiUrl created) where
  networks network := by
    have hsame : ((rpcEndpoints clusterApiUrl created network).mapIdx fun i endpoint =>
        endpoint.checkedBy 3 ((World.create clusterApiUrl created).answers network i)) =
          rpcEndpoints clusterApiUrl created network :=
      List.mapIdx_eq_iff.mpr fun i => by simp [World.answers, World.create, RpcEndpoint.checkedBy]
    rw [hsame]
    rfl
  connections := rfl

/-- What is at a place of a network that agrees with its answers. -/
theorem Agrees.get (h : Agrees clusterApiUrl created w) (network : SolanaNetwork) (i : Nat) :
    (w.networkConfigs network).rpcEndpoints[i]? =
      (rpcEndpoints clusterApiUrl created network)[i]?.map fun endpoint =>
        endpoint.checkedBy 3 (w.answers network i) := by
  rw [h.networks, List.getElem?_mapIdx]

/-- A check of an endpoint counts its answer. -/
theorem check_eq (h : Agrees clusterApiUrl created w) {network : SolanaNetwork} {i : Nat}
    {endpoint : RpcEndpoint} (hget : (rpcEndpoints clusterApiUrl created network)[i]? =
      some endpoint)
    (answer : Answer) : w.check network i answer =
      { w with
        networkConfigs := Function.update w.networkConfigs network
          ((w.networkConfigs network).replace i
            ((endpoint.checkedBy 3 (w.answers network i)).checked 3 answer))
        checks := w.checks ++ [⟨network, i, answer⟩] } := by
  have hplace := h.get network i
  rw [hget, Option.map_some] at hplace
  have hmax : (w.networkConfigs network).maxConsecutiveFailures = 3 := by
    rw [h.networks]
    rfl
  have hconnection := lookup_connection (List.mem_of_getElem? hget)
  rw [← h.connections, ← (checkedBy_constant endpoint 3 (w.answers network i)).2.1] at hconnection
  simp only [World.check, hplace, hconnection, hmax]

theorem answers_snoc {networkConfigs : SolanaNetwork → NetworkConfig} (w : World)
    (network network' : SolanaNetwork) (i j : Nat) (answer : Answer) :
    ({ w with networkConfigs := networkConfigs,
              checks := w.checks ++ [⟨network, i, answer⟩] } : World).answers network' j =
      w.answers network' j ++ if network = network' ∧ i = j then [answer] else [] := by
  simp only [World.answers, List.filter_append, List.map_append, List.filter_singleton,
    decide_eq_true_eq, cond_eq_ite]
  split <;> rfl

theorem agrees_check (h : Agrees clusterApiUrl created w) (network : SolanaNetwork) (i : Nat)
    (answer : Answer) : Agrees clusterApiUrl created (w.check network i answer) := by
  cases hget : (rpcEndpoints clusterApiUrl created network)[i]? with
  | none =>
      -- There is no endpoint to check.
      have hplace := h.get network i
      rw [hget, Option.map_none] at hplace
      simp only [World.check, hplace]
      exact h
  | some endpoint =>
      rw [check_eq h hget]
      refine ⟨fun network' => ?_, h.connections⟩
      simp only [answers_snoc]
      by_cases hne : network' = network
      · subst hne
        rw [Function.update_self, NetworkConfig.replace, h.networks]
        simp only [NetworkConfig.mk.injEq, true_and, and_true]
        refine List.ext_getElem? fun j => ?_
        rw [List.getElem?_set, List.getElem?_mapIdx, List.getElem?_mapIdx, List.length_mapIdx]
        by_cases hj : i = j
        · subst hj
          obtain ⟨hlt, rfl⟩ := List.getElem?_eq_some_iff.mp hget
          simp [hlt, checkedBy_snoc]
        · simp [hj]
      · rw [Function.update_of_ne hne, h.networks]
        simp [Ne.symm hne]

/-- Checks are counted one after another. -/
theorem checks_check (h : Agrees clusterApiUrl created w) (network : SolanaNetwork) (i : Nat)
    (answer : Answer) : w.checks <+: (w.check network i answer).checks := by
  cases hget : (rpcEndpoints clusterApiUrl created network)[i]? with
  | none =>
      have hplace := h.get network i
      rw [hget, Option.map_none] at hplace
      simp only [World.check, hplace]
      exact List.prefix_rfl
  | some endpoint =>
      rw [check_eq h hget]
      exact List.prefix_append ..

/-! ### Schedules -/

/-- What an access of a call does. A pass checks the endpoints in their order. -/
def NetworkCall.writes (clusterApiUrl : SolanaNetwork → String) (call : NetworkCall)
    (seen : List (World × World)) (s t : World) : Prop :=
  match call with
  | .performHealthChecks network answers =>
    seen.length < (rpcEndpoints clusterApiUrl 0 network).length ∧
      t = s.check network seen.length (answers seen.length)
  | .setCurrentNetwork network => t = s.setCurrentNetwork network

/-- What a call that is done has done. -/
def NetworkCall.ended (clusterApiUrl : SolanaNetwork → String) (call : NetworkCall)
    (seen : List (World × World)) : Prop :=
  match call with
  | .performHealthChecks network _ => (rpcEndpoints clusterApiUrl 0 network).length ≤ seen.length
  | .setCurrentNetwork _ => True

theorem networkCall_follows (clusterApiUrl : SolanaNetwork → String) (call : NetworkCall) :
    (call.program clusterApiUrl).Follows (watching (call.writes clusterApiUrl))
      (fun seen _ => call.ended clusterApiUrl seen) [] := by
  cases call with
  | setCurrentNetwork network => exact fun s _ => ⟨_, ⟨rfl, rfl⟩, trivial⟩
  | performHealthChecks network answers =>
      -- The endpoints that have not been checked are those to come.
      refine follows_each (J := fun rest seen => rest =
        (List.range (rpcEndpoints clusterApiUrl 0 network).length).drop seen.length) ?_ ?_ rfl
      · rintro i rest seen hrest s -
        have hlt : seen.length < (rpcEndpoints clusterApiUrl 0 network).length := by
          by_contra hge
          rw [List.drop_eq_nil_of_le (by rw [List.length_range]; omega)] at hrest
          exact List.cons_ne_nil _ _ hrest
        rw [List.drop_eq_getElem_cons (by rwa [List.length_range]), List.getElem_range] at hrest
        obtain ⟨rfl, rfl⟩ := List.cons.inj hrest
        refine ⟨_, ⟨rfl, hlt, rfl⟩, congrArg (fun k => (List.range _).drop k) ?_⟩
        exact by simp
      · intro seen hnil
        have hlength := congrArg List.length hnil
        rw [List.length_nil, List.length_drop, List.length_range] at hlength
        exact Nat.sub_eq_zero_iff_le.mp hlength.symm

theorem network_law (clusterApiUrl : SolanaNetwork → String) (created : Nat) :
    HistoryLaw (NetworkCall.writes clusterApiUrl) (fun _ _ _ _ => True)
      (fun s t => s.checks <+: t.checks) (Agrees clusterApiUrl created) where
  refl _ := List.prefix_rfl
  trans _ _ _ := List.IsPrefix.trans
  step call seen s t hs _ _ hwrites _ := by
    cases call with
    | setCurrentNetwork network =>
        obtain rfl := hwrites
        exact ⟨List.prefix_rfl, hs.networks, hs.connections⟩
    | performHealthChecks network answers =>
        obtain ⟨-, rfl⟩ := hwrites
        exact ⟨checks_check hs network _ _, agrees_check hs network _ _⟩

end

end Network

end SvmCourse
