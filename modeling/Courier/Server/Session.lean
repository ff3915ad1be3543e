import Courier.Server.Recorder

/-!
# Sessions

A run of calls by any number of clients against one recording server. Clients share nothing but
the server, so a session keeps only their number. The calls of a group reach the server in any
order; each has its place in the group, where its outcome is found.
-/

namespace Courier

/-- How clients reach a server. -/
inductive Link where
  | direct
  /-- There is no server where the clients look for it. -/
  | refused (why : Failure)
  /-- The connection is lost before a call is made. -/
  | lost (why : Failure)
  /-- A network, which decides what a client gets back for a request and whether the request gets to
  the server. -/
  | network (transport : Http.Request → Reply) (delivers : Http.Request → Bool)

namespace Recorder

/-- Takes one call over a link. -/
def call (server : Recorder) (link : Link) (c : Call) : Recorder × Outcome String :=
  match link with
  | .refused why => (server, (c.perform (.failure why)).outcome)
  | .lost why => (server, (c.perform (.notReady why)).outcome)
  | .direct =>
    match c.toHttp with
    | .error crash => (server, .error (.crashed crash))
    | .ok request => (server.receive request, (c.perform (.response request.answer)).outcome)
  | .network transport delivers =>
    match c.toHttp with
    | .error crash => (server, .error (.crashed crash))
    | .ok request =>
      (if delivers request then server.receive request else server,
        (c.perform (transport request)).outcome)

/-- Takes calls in the order of their arrival; each outcome keeps the place of its call. -/
def calls (server : Recorder) (link : Link) :
    List (Nat × Call) → Recorder × List (Nat × Outcome String)
  | [] => (server, [])
  | (place, c) :: rest =>
    let (server, outcome) := server.call link c
    let (server, outcomes) := server.calls link rest
    (server, (place, outcome) :: outcomes)

end Recorder

/-- What is done in a session. -/
inductive SessionStep where
  | call (client : Nat) (c : Call)
  /-- Calls in flight together, with their places, in the order of their arrival. -/
  | group (client : Nat) (arrivals : List (Nat × Call))
  | clone (client : Nat)

/-- What a step gives. -/
inductive StepResult where
  | outcome (o : Outcome String)
  /-- The outcomes of a group, by place. -/
  | outcomes (os : List (Outcome String))
  | client (index : Nat)

structure Session where
  link : Link := .direct
  server : Recorder := {}
  clients : Nat := 1

namespace Session

/-- The outcomes in the order of their places. -/
def byPlace (outcomes : List (Nat × Outcome String)) : List (Outcome String) :=
  (outcomes.mergeSort fun a b => a.1 ≤ b.1).map (·.2)

/-- The session after a step, and the result. -/
def step (s : Session) : SessionStep → Session × StepResult
  | .call _ c =>
    let (server, outcome) := s.server.call s.link c
    ({ s with server }, .outcome outcome)
  | .group _ arrivals =>
    let (server, outcomes) := s.server.calls s.link arrivals
    ({ s with server }, .outcomes (byPlace outcomes))
  | .clone _ => ({ s with clients := s.clients + 1 }, .client s.clients)

/-- What is known after a step: its result, what it added to the log, and the length of the log. -/
structure StepReport where
  result : StepResult
  received : List Wire.SendRequest
  total : Nat

/-- The reports of all steps. -/
def run (s : Session) : List SessionStep → List StepReport
  | [] => []
  | first :: rest =>
    let (after, result) := s.step first
    { result
      received := after.server.log.drop s.server.log.length
      total := after.server.log.length } :: after.run rest

end Session

end Courier
