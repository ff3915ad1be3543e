import Courier.Proofs.Server.WirePath
import Mathlib.Data.List.Forall2
import Mathlib.Data.List.Pairwise

/-!
# Runs of calls

A run is planned as a list of steps, and each step of a session carries one of them out: the calls
of a group arrive in any order (`PlannedStep.Arrives`). One step adds the wire forms of its own
requests to the log and gives every caller the meaning of its own request
(`step_of_arrives`); a whole run does so step by step, whatever came before (`run_of_arrives`).
-/

namespace Courier

/-! ## Plans -/

/-- A step of a run, before it is known in which order its calls arrive. -/
inductive PlannedStep where
  | call (client : Nat) (r : Request)
  | group (client : Nat) (rs : List Request)
  | clone (client : Nat)

namespace PlannedStep

/-- The requests of a step, in the order of their places. -/
def requests : PlannedStep → List Request
  | .call _ r => [r]
  | .group _ rs => rs
  | .clone _ => []

/-- Whether a step adds a client. -/
def isClone : PlannedStep → Bool
  | .call _ _ => false
  | .group _ _ => false
  | .clone _ => true

/-- What a step gives when there are `clients` clients before it: to each of its requests, the
meaning of that request. -/
def result (clients : Nat) : PlannedStep → StepResult
  | .call _ r => .outcome (r.meaning "")
  | .group _ rs => .outcomes (rs.map (·.meaning ""))
  | .clone _ => .client clients

/-- A request at its place, as it arrives in a group. -/
def arrival (placed : Request × Nat) : Nat × Call := (placed.2, { request := placed.1 })

/-- How a step comes about. The calls of a group arrive in any order. -/
inductive Arrives : PlannedStep → SessionStep → Prop
  | call (client : Nat) (r : Request) : Arrives (.call client r) (.call client { request := r })
  | group (client : Nat) (rs : List Request) (order : List (Request × Nat)) :
      order.Perm rs.zipIdx → Arrives (.group client rs) (.group client (order.map arrival))
  | clone (client : Nat) : Arrives (.clone client) (.clone client)

end PlannedStep

/-! ## Calls without options -/

/-- A request that is short enough to be taken. -/
def Request.IsShort (r : Request) : Prop := Wire.Record.size r.toWire ≤ messageLimit

instance (r : Request) : Decidable r.IsShort := inferInstanceAs (Decidable (_ ≤ _))

namespace Recorder

/-- A call without options is recorded and means what its request means. -/
theorem call_request (server : Recorder) {r : Request} :
    r.IsShort → server.call .direct { request := r } =
      ({ log := server.log ++ [r.toWire] }, r.meaning "") := by
  intro short
  have brief : Options.IsBrief {} := by
    intro d set
    cases set
  have room : Options.HasRoom {} := Options.hasRoom_of_few (by decide)
  have untraced : Wire.Record.size (traceResponse "") ≤ messageLimit := by decide +kernel
  obtain ⟨http, handed, recorded, meant⟩ :=
    Call.toHttp_means (c := { request := r }) brief room rfl short (fun _ => untraced)
  rw [call_of_toHttp server handed recorded, meant]
  rfl

/-- Calls without options are recorded in the order of their arrival, and each outcome is the
meaning of the request at its place. -/
theorem calls_requests (server : Recorder) (order : List (Request × Nat)) :
    (∀ placed ∈ order, placed.1.IsShort) →
      server.calls .direct (order.map PlannedStep.arrival) =
        ({ log := server.log ++ order.map (·.1.toWire) },
          order.map fun placed => (placed.2, placed.1.meaning "")) := by
  intro short
  induction order generalizing server with
  | nil =>
    show (server, []) = _
    rw [List.map_nil, List.append_nil]
    rfl
  | cons placed rest ih =>
    obtain ⟨r, place⟩ := placed
    -- The other calls find one more request in the log, which is why the server is general.
    have first := call_request server (short _ List.mem_cons_self)
    have others := ih { log := server.log ++ [r.toWire] } fun p mem =>
      short p (List.mem_cons_of_mem _ mem)
    rw [List.map_cons, PlannedStep.arrival, calls, first]
    simp only [others, List.map_cons, List.append_assoc, List.singleton_append]

end Recorder

/-! ## Places -/

namespace Session

/-- Outcomes that arrive in any order are sorted by their places, of which no two are equal. -/
theorem byPlace_of_ordered {arrived ordered : List (Nat × Outcome String)}
    (places : ordered.Pairwise fun a b => a.1 < b.1) :
    arrived.Perm ordered → byPlace arrived = ordered.map (·.2) := by
  intro perm
  let le : Nat × Outcome String → Nat × Outcome String → Bool := fun a b => a.1 ≤ b.1
  have sorted : (arrived.mergeSort le).Pairwise fun a b => le a b = true := by
    apply List.pairwise_mergeSort
    · intro a b c first second
      exact decide_eq_true (Nat.le_trans (of_decide_eq_true first) (of_decide_eq_true second))
    · intro a b
      rcases Nat.le_total a.1 b.1 with below | above
      · exact Bool.or_eq_true_iff.mpr (.inl (decide_eq_true below))
      · exact Bool.or_eq_true_iff.mpr (.inr (decide_eq_true above))
  have inOrder : ordered.Pairwise fun a b => le a b = true :=
    places.imp fun below => decide_eq_true (Nat.le_of_lt below)
  have arranged : (arrived.mergeSort le).Perm ordered := (List.mergeSort_perm _ _).trans perm
  -- Two sorted arrangements agree once equal places mean equal outcomes.
  have same : arrived.mergeSort le = ordered := by
    refine arranged.eq_of_pairwise ?_ sorted inOrder
    intro a b inside inside' below above
    have place : a.1 = b.1 := Nat.le_antisymm (of_decide_eq_true below) (of_decide_eq_true above)
    have symm : Std.Symm fun a b : Nat × Outcome String => a.1 ≠ b.1 := ⟨fun _ _ ne => ne.symm⟩
    have distinct : ordered.Pairwise fun a b => a.1 ≠ b.1 := places.imp Nat.ne_of_lt
    by_contra other
    exact distinct.forall (arranged.mem_iff.mp inside) inside' other place
  show (arrived.mergeSort le).map (·.2) = _
  rw [same]

/-- The outcomes of a group are those of its requests, whatever the order of arrival. -/
theorem byPlace_of_perm (f : Request → Outcome String) {rs : List Request}
    {order : List (Request × Nat)} :
    order.Perm rs.zipIdx →
      byPlace (order.map fun placed => (placed.2, f placed.1)) = rs.map f := by
  intro perm
  have places : (rs.zipIdx.map (·.2)).Pairwise (· < ·) := by
    rw [List.zipIdx_map_snd]
    exact List.pairwise_lt_range'
  have arrived := perm.map fun placed => (placed.2, f placed.1)
  rw [byPlace_of_ordered _ arrived, List.map_map]
  · show rs.zipIdx.map (f ∘ Prod.fst) = _
    rw [← List.map_map, List.zipIdx_map_fst]
  · rw [List.pairwise_map] at places ⊢
    exact places

/-! ## One step -/

/-- A step adds the wire forms of its own requests to the log and gives each of them its
meaning. -/
theorem step_of_arrives {s : Session} {p : PlannedStep} {step : SessionStep} :
    p.Arrives step → s.link = .direct → (∀ r ∈ p.requests, r.IsShort) →
      ∃ received : List Wire.SendRequest,
        received.Perm (p.requests.map Request.toWire) ∧
        s.step step =
          ({ s with
              server := { log := s.server.log ++ received }
              clients := s.clients + if p.isClone then 1 else 0 },
            p.result s.clients) := by
  intro arrives direct short
  cases arrives with
  | call client r =>
    refine ⟨[r.toWire], List.Perm.refl _, ?_⟩
    have called := Recorder.call_request s.server (short r List.mem_cons_self)
    rw [Session.step, direct]
    simp only [called]
    rfl
  | group client rs order perm =>
    have inside : ∀ placed ∈ order, placed.1.IsShort := by
      intro placed mem
      apply short
      rw [PlannedStep.requests, ← List.zipIdx_map_fst 0 rs]
      exact List.mem_map_of_mem (perm.mem_iff.mp mem)
    -- The log keeps the order of arrival; only as multisets are its entries those of the plan.
    refine ⟨order.map (·.1.toWire), ?_, ?_⟩
    · have wires := perm.map fun placed => placed.1.toWire
      have inOrder : rs.zipIdx.map (fun placed => placed.1.toWire) = rs.map Request.toWire := by
        show rs.zipIdx.map (Request.toWire ∘ Prod.fst) = _
        rw [← List.map_map, List.zipIdx_map_fst]
      rw [inOrder] at wires
      exact wires
    · have called := Recorder.calls_requests s.server order inside
      rw [Session.step, direct]
      simp only [called, byPlace_of_perm (·.meaning "") perm]
      rfl
  | clone client =>
    refine ⟨[], List.Perm.refl _, ?_⟩
    rw [Session.step, List.append_nil]
    rfl

/-! ## Whole runs -/

/-- The session after a row of steps. -/
def after (s : Session) : List SessionStep → Session
  | [] => s
  | step :: rest => (s.step step).1.after rest

theorem length_run (s : Session) (steps : List SessionStep) :
    (s.run steps).length = steps.length := by
  induction steps generalizing s with
  | nil => rfl
  | cons step rest ih => rw [run, List.length_cons, List.length_cons, ih]

/-- What is reported of step `k` in a run that carries out a plan. -/
structure Fits (s : Session) (plan : List PlannedStep) (steps : List SessionStep) (k : Nat)
    (p : PlannedStep) (report : StepReport) : Prop where
  /-- Every caller gets the meaning of its own request. -/
  result : report.result = p.result (s.clients + (plan.take k).countP PlannedStep.isClone)
  /-- What is received are the requests of this step, each once. -/
  received : report.received.Perm (p.requests.map Request.toWire)
  /-- The log grows at its end only. -/
  log : (s.after (steps.take (k + 1))).server.log =
    (s.after (steps.take k)).server.log ++ report.received
  /-- Every call made so far was received once. -/
  total : report.total =
    s.server.log.length + ((plan.take (k + 1)).flatMap PlannedStep.requests).length

/-- A run that carries out a plan reports on every step, and fittingly. The first step is taken,
and what the rest reports from there is what it reports from the start. -/
theorem run_of_arrives {plan : List PlannedStep} {steps : List SessionStep}
    (carried : List.Forall₂ PlannedStep.Arrives plan steps) {s : Session} :
    s.link = .direct → (∀ p ∈ plan, ∀ r ∈ p.requests, r.IsShort) →
      ∀ k p, plan[k]? = some p →
        ∃ report, (s.run steps)[k]? = some report ∧ s.Fits plan steps k p report := by
  induction carried generalizing s with
  | nil =>
    intro direct short k p planned
    cases planned
  | @cons first step plan steps arrives rest ih =>
    intro direct short k p planned
    obtain ⟨received, perm, stepped⟩ :=
      step_of_arrives arrives direct (short first List.mem_cons_self)
    let next : Session :=
      { s with
          server := { log := s.server.log ++ received }
          clients := s.clients + if first.isClone then 1 else 0 }
    have length : next.server.log.length = s.server.log.length + first.requests.length := by
      show (s.server.log ++ received).length = _
      rw [List.length_append, perm.length_eq, List.length_map]
    have onward : ∀ l, s.after (step :: l) = next.after l := by
      intro l
      rw [after, stepped]
    rw [run_cons stepped rfl]
    -- Step `k + 1` of this run is step `k` of the run from the session after the first step.
    cases k with
    | zero =>
      cases planned
      refine ⟨_, rfl, ?_⟩
      constructor
      · rfl
      · exact perm
      · rw [List.take_succ_cons, onward]
        rfl
      · show next.server.log.length = _
        rw [length, List.take_succ_cons, List.take_zero, List.flatMap_cons, List.flatMap_nil,
          List.append_nil]
    | succ k =>
      obtain ⟨report, reported, fits⟩ :=
        ih (s := next) direct (fun q mem => short q (List.mem_cons_of_mem _ mem)) k p planned
      refine ⟨report, reported, ?_⟩
      constructor
      · rw [fits.result, List.take_succ_cons, List.countP_cons, Nat.add_comm (List.countP ..),
          ← Nat.add_assoc]
      · exact fits.received
      · rw [List.take_succ_cons, List.take_succ_cons, onward, onward]
        exact fits.log
      · rw [fits.total, length, List.take_succ_cons, List.flatMap_cons, List.length_append,
          ← Nat.add_assoc]

end Session

open Session (Fits)

/-- Over a whole run and in whatever order calls arrive, every request is recorded once, in its
own step, and answered as if it were the only one. -/
theorem runs_never_cross_calls (plan : List PlannedStep) (steps : List SessionStep)
    (carried : List.Forall₂ PlannedStep.Arrives plan steps)
    (short : ∀ p ∈ plan, ∀ r ∈ p.requests, r.IsShort) :
    (Session.run {} steps).length = plan.length ∧
    (∀ k p, plan[k]? = some p →
      ∃ report, (Session.run {} steps)[k]? = some report ∧
        Fits {} plan steps k p report) ∧
    (∀ p ∈ plan, ∀ r ∈ p.requests,
      Session.run {} [.call 0 { request := r }] =
        [{ result := .outcome (r.meaning ""), received := [r.toWire], total := 1 }]) := by
  refine ⟨?_, Session.run_of_arrives carried rfl short, ?_⟩
  · rw [Session.length_run, carried.length_eq]
  · intro p mem r inside
    exact Session.run_call (Recorder.call_request {} (short p mem r inside))

/-- A peer that cannot be reached, a new client, and a group of three in which one peer says
nothing. -/
def mixedPlan : List PlannedStep :=
  [.call 0 { peerId := "unreachable", data := "a" },
    .clone 0,
    .group 1
      [{ peerId := "p", data := "b" }, { peerId := "silent", data := "c" },
        { peerId := "p", data := "d", topic := .present "" }]]

/-- The group of the plan, its last call first. -/
def mixedOrder : List (Request × Nat) :=
  [({ peerId := "p", data := "d", topic := .present "" }, 2),
    ({ peerId := "silent", data := "c" }, 1), ({ peerId := "p", data := "b" }, 0)]

/-- A run that carries out the plan. -/
def mixedSteps : List SessionStep :=
  [.call 0 { request := { peerId := "unreachable", data := "a" } },
    .clone 0,
    .group 1 (mixedOrder.map PlannedStep.arrival)]

theorem mixed_run_answers_by_place :
    List.Forall₂ PlannedStep.Arrives mixedPlan mixedSteps ∧
    (∀ p ∈ mixedPlan, ∀ r ∈ p.requests, r.IsShort) ∧
    ∃ report, (Session.run {} mixedSteps)[2]? = some report ∧
      report.result =
        .outcomes
          [.ok "b", .error (.failed
            { code := .internal, message := "Malformed response: missing payload" }), .ok "d"] ∧
      report.total = 4 := by
  have carried : List.Forall₂ PlannedStep.Arrives mixedPlan mixedSteps := by
    refine .cons (.call _ _) (.cons (.clone _) (.cons (.group _ _ _ ?_) .nil))
    decide +kernel
  have short : ∀ p ∈ mixedPlan, ∀ r ∈ p.requests, r.IsShort := by decide +kernel
  obtain ⟨-, each, -⟩ := runs_never_cross_calls mixedPlan mixedSteps carried short
  obtain ⟨report, reported, fits⟩ := each 2 _ rfl
  refine ⟨carried, short, report, reported, fits.result, fits.total⟩

end Courier
