import Courier.Proofs.CommandLine.Ending
import Courier.Proofs.Log.Cuts
import Courier.Proofs.Server.Log

/-!
# What a run promises

The contract of a command line that is accepted: exit code 0 with the reply alone on the standard
output, or exit code 1 with nothing there and a report on the standard error, and at most its own
request in the log of the server. The reply is what came back over the link, whatever that is. The
contract holds of every run whose threads start, whose log is settled and which does not crash
(`Environment.contract_invoke`), and what is logged and in which colours makes no difference to it
(`SameWorld.invoke`). Settling the log is one place where a run may crash: a directive is cut at places
that blanks in front of it have shifted, and the cut may go through a character
(`shifted_log_setting_crashes_run`).
-/

namespace Courier.CommandLine

/-! ## The contract -/

/-- The request of an invocation as it is recorded. Without a topic on the command line there is
none in it, and an empty topic stays an empty topic. -/
def Invocation.wire (i : Invocation) : Wire.SendRequest :=
  { peer := some { peerId := i.command.peerId }
    msg := some
      { data := some { data := i.command.data }
        topic := some { topic := i.command.topic.map fun topic => { topic } } } }

theorem Invocation.toWire_call (i : Invocation) (options : Options) :
    (i.call options).request.toWire = i.wire := by
  unfold Request.toWire Topic.toWire call
  rw [Topic.toOption_ofOption]
  rfl

/-- The call of an invocation is made and returns a reply: its headers are accepted, its server is there,
its request is handed over, and the reply is what the call makes of that which comes back. -/
def Returns (env : Environment) (i : Invocation) (reply : String) : Prop :=
  ∃ options endpoint http, callOptions i.command.headers i.command.timeoutMs = .ok options ∧
    Endpoint.connect env.listening i.url = .ok endpoint ∧ (i.call options).toHttp = .ok http ∧
    ((i.call options).perform (env.link.reply http)).outcome = .ok reply

/-- What the end of a run promises about it. -/
structure Contract (env : Environment) (i : Invocation) (result : RunResult) : Prop where
  code : result.exitCode = 0 ∨ result.exitCode = 1
  success : result.exitCode = 0 ↔ ∃ reply, Returns env i reply
  reply : ∀ reply, Returns env i reply → result.stdout = reply ++ "\n"
  failure : result.exitCode = 1 → result.stdout = "" ∧ result.stderr ≠ ""
  /-- At most one request is recorded, the one that was asked for. -/
  log : ∃ added, result.server.log = env.server.log ++ added ∧ added.length ≤ 1 ∧
    ∀ m ∈ added, m = i.wire
  /-- Nothing is recorded if any header is refused or there is no connection. -/
  refused :
    (∃ h ∈ i.command.headers, ∃ fault, Options.header h.1 h.2 = .error fault) ∨
      (∃ fault, Endpoint.connect env.listening i.url = .error fault) →
    result.server = env.server

namespace Environment

variable {env : Environment} {i : Invocation} {filter : Log.Filter}

theorem stderr_reported_ne (logged : String) (report : Report) :
    (env.reported logged report).stderr ≠ "" :=
  ne_of_apply_ne String.toList (by simp [reported])

/-- A run that reports before it makes its call keeps the contract. -/
theorem contract_reported (never : ∀ reply, ¬Returns env i reply) (logged : String)
    (report : Report) : Contract env i (env.reported logged report) where
  code := .inr rfl
  success := iff_of_false (show ¬1 = 0 by decide) fun ⟨reply, returns⟩ => never reply returns
  reply reply returns := absurd returns (never reply)
  failure _ := ⟨rfl, stderr_reported_ne logged report⟩
  log := ⟨[], (List.append_nil _).symm, Nat.zero_le _, nofun⟩
  refused _ := rfl

section Sends

variable {options : Options} {endpoint : Endpoint}

/-- A header that is refused, or a server that is not there, does not come to a call. -/
theorem not_refused
    (accepted : callOptions i.command.headers i.command.timeoutMs = .ok options)
    (connected : Endpoint.connect env.listening i.url = .ok endpoint) :
    ¬((∃ h ∈ i.command.headers, ∃ fault, Options.header h.1 h.2 = .error fault) ∨
      ∃ fault, Endpoint.connect env.listening i.url = .error fault) := by
  rintro (⟨h, mem, fault, judged⟩ | ⟨fault, failed⟩)
  · obtain ⟨entry, allowed⟩ := Options.header_of_withHeaders accepted h mem
    rw [judged] at allowed
    cases allowed
  · rw [connected] at failed
    cases failed

/-- The reply to the request that is handed over is what is returned. -/
theorem returns_iff {http : Http.Request}
    (accepted : callOptions i.command.headers i.command.timeoutMs = .ok options)
    (connected : Endpoint.connect env.listening i.url = .ok endpoint)
    (handed : (i.call options).toHttp = .ok http) {reply : String} :
    Returns env i reply ↔ (env.link.reply http).outcome = .ok reply := by
  constructor
  · rintro ⟨options', endpoint', http', accepted', -, handed', returned⟩
    rw [accepted] at accepted'
    cases accepted'
    rw [handed] at handed'
    cases handed'
    rw [Call.outcome_of_toHttp handed] at returned
    exact returned
  · intro replied
    refine ⟨options, endpoint, http, accepted, connected, handed, ?_⟩
    rw [Call.outcome_of_toHttp handed]
    exact replied

/-- Whatever the link does with a request, the server has recorded at most this request. -/
theorem log_after {http : Http.Request} (handed : (i.call options).toHttp = .ok http) :
    ∃ added, (env.link.after env.server http).log = env.server.log ++ added ∧ added.length ≤ 1 ∧
      ∀ m ∈ added, m = i.wire := by
  rcases env.link.after_cases env.server http with same | received
  · exact ⟨[], by rw [same, List.append_nil], Nat.zero_le _, nofun⟩
  · rw [received]
    refine ⟨http.recorded?.toList, rfl, Option.length_toList_le, fun m mem => ?_⟩
    rw [← i.toWire_call options]
    exact Call.recorded?_of_toHttp handed (Option.mem_toList.mp mem)

/-- A run that makes its call keeps the contract, or it crashes. -/
theorem contract_send
    (accepted : callOptions i.command.headers i.command.timeoutMs = .ok options)
    (connected : Endpoint.connect env.listening i.url = .ok endpoint) (logged : String) :
    Contract env i (env.send logged (i.call options)) ∨
      ∃ crash server, env.send logged (i.call options) = { env.crashed crash with server } := by
  have refused := not_refused accepted connected
  rcases env.send_cases (i.call options) logged with
    ⟨http, handed, ⟨reply, replied, same⟩ | ⟨status, failed, same⟩ | ⟨crash, -, same⟩⟩ |
    ⟨crash, unsent, same | ⟨status, same⟩⟩
  · have returns : ∀ {r}, Returns env i r ↔ reply = r := fun {r} => by
      rw [returns_iff accepted connected handed, replied, Except.ok.injEq]
    rw [same]
    exact .inl
      { code := .inl rfl
        success := iff_of_true rfl ⟨reply, returns.mpr rfl⟩
        reply := fun r returned => by rw [returns.mp returned]
        failure := nofun
        log := log_after handed
        refused := fun none => absurd none refused }
  · have never : ∀ r, ¬Returns env i r := fun r returned => by
      rw [returns_iff accepted connected handed, failed] at returned
      cases returned
    rw [same]
    exact .inl
      { code := .inr rfl
        success := iff_of_false (show ¬1 = 0 by decide) fun ⟨r, returned⟩ => never r returned
        reply := fun r returned => absurd returned (never r)
        failure := fun _ => ⟨rfl, stderr_reported_ne _ _⟩
        log := log_after handed
        refused := fun none => absurd none refused }
  · exact .inr ⟨crash, _, same⟩
  · exact .inr ⟨crash, env.server, same⟩
  · rw [same]
    refine .inl (contract_reported ?_ _ _)
    rintro r ⟨options', endpoint', http, accepted', -, handed, -⟩
    rw [accepted] at accepted'
    cases accepted'
    rw [unsent] at handed
    cases handed

end Sends

/-- An invocation keeps the contract, or it crashes. -/
theorem contract_invoke (env : Environment) (filter : Log.Filter) (i : Invocation) :
    Contract env i (env.invoke filter i) ∨
      ∃ crash server, env.invoke filter i = { env.crashed crash with server } := by
  rcases env.invoke_cases filter i with
    ⟨fault, refused, same⟩ | ⟨-, same⟩ |
    ⟨options, accepted, ⟨fault, failed, same⟩ | ⟨endpoint, connected, same⟩⟩
  · rw [same]
    refine .inl (contract_reported ?_ _ _)
    rintro reply ⟨options, endpoint, http, accepted, -⟩
    rw [refused] at accepted
    cases accepted
  · exact .inr ⟨_, env.server, same⟩
  · rw [same]
    refine .inl (contract_reported ?_ _ _)
    rintro reply ⟨options, endpoint, http, -, connected, -⟩
    rw [failed] at connected
    cases connected
  · rw [same]
    exact contract_send accepted connected _

/-- With room for its headers, a brief deadline and a reply that can be read, it does not crash. -/
theorem contract_of_readable (filter : Log.Filter) (room : ¬Crowded i) (readable : Readable env i)
    (short : ∀ n, i.command.timeoutMs = some n → n < 360000000000000) :
    Contract env i (env.invoke filter i) := by
  rcases env.contract_invoke filter i with keeps | ⟨crash, server, same⟩
  · exact keeps
  · have code : (env.invoke filter i).exitCode = 101 := by
      rw [same]
      rfl
    have fine : ¬Overlong env i := fun overlong =>
      let ⟨n, set, above⟩ := overlong.deadline
      Nat.not_lt.mpr above (short n set)
    rcases Environment.ending_of_invoke filter fine with
      zero | one | ⟨crowded, -⟩ | ⟨unread, -⟩
    · rw [code] at zero
      cases zero
    · rw [code] at one
      cases one
    · exact absurd crowded room
    · exact absurd readable unread

end Environment

/-! ## What makes no difference -/

/-- The settings that decide about what is logged and about colours. -/
def displaySettings : List String := ["RUST_LOG", "NO_COLOR", "CLICOLOR", "CLICOLOR_FORCE"]

/-- Two environments with the same servers behind the same link, which differ at most in the time and in
what is logged and in which colours. -/
structure SameWorld (env env' : Environment) : Prop where
  listening : env'.listening = env.listening
  link : env'.link = env.link
  server : env'.server = env.server
  settings : ∀ name ∉ displaySettings, env'.get? name = env.get? name

/-- Such a setting makes no other world. -/
theorem sameWorld_of_display (env : Environment) {name : String}
    (display : name ∈ displaySettings) (value time : String) :
    SameWorld env { env with settings := (name, value) :: env.settings, time } where
  listening := rfl
  link := rfl
  server := rfl
  settings other outside := by
    have differs : (other == name) = false :=
      beq_false_of_ne fun same => outside (by rw [same]; exact display)
    unfold Environment.get?
    rw [List.lookup_cons, differs]

namespace SameWorld

variable {env env' : Environment} (same : SameWorld env env')

include same

theorem startWorkers : env'.startWorkers = env.startWorkers := by
  unfold Environment.startWorkers
  rw [same.settings _ (by decide), same.settings _ (by decide)]

/-- What a run leaves behind, its log and its reports apart. -/
theorem invoke (filter filter' : Log.Filter) (i : Invocation) :
    (env'.invoke filter' i).exitCode = (env.invoke filter i).exitCode ∧
    (env'.invoke filter' i).stdout = (env.invoke filter i).stdout ∧
    (env'.invoke filter' i).server = (env.invoke filter i).server := by
  unfold Environment.invoke
  cases callOptions i.command.headers i.command.timeoutMs with
  | error fault => cases fault <;> exact ⟨rfl, rfl, same.server⟩
  | ok options =>
    dsimp only
    rw [same.listening]
    cases Endpoint.connect env.listening i.url with
    | error fault => exact ⟨rfl, rfl, same.server⟩
    | ok endpoint =>
      dsimp only
      unfold Environment.send
      rw [same.server, same.link]
      dsimp only
      split
      · exact ⟨rfl, rfl, rfl⟩
      · exact ⟨rfl, rfl, rfl⟩
      · exact ⟨rfl, rfl, rfl⟩

end SameWorld

/-! ## Runs -/

namespace Environment

variable {env : Environment} {args : List Argument} {i : Invocation} {crash : Crash}

theorem run_of_workers (stopped : env.startWorkers = .error crash) :
    run env args = env.crashed crash := by
  rw [run, stopped]

theorem run_of_filter (started : env.startWorkers = .ok ()) (accepted : parse args = .ok i)
    (cut : env.logFilter = .error crash) : run env args = env.crashed crash := by
  rw [run, started, accepted, cut]

theorem run_of_invoke {filter : Log.Filter} (started : env.startWorkers = .ok ())
    (accepted : parse args = .ok i) (settled : env.logFilter = .ok filter) :
    run env args = env.invoke filter i := by
  rw [run, started, accepted, settled]

/-- A log setting of straight directives is settled. -/
theorem logFilter_of_straight
    (straight : ∀ value, env.get? "RUST_LOG" = some value →
      ∀ s ∈ value.splitOn ",", Log.Straight s) : ∃ filter, env.logFilter = .ok filter := by
  obtain ⟨filter, settled⟩ := Log.Filter.ofSetting_of_straight straight
  exact ⟨filter, by rw [logFilter, settled]; rfl⟩

end Environment

/-- A run of an accepted command line with a deadline, if any, below 10⁸ whole hours keeps the contract
over any link, as soon as its threads have started and its log is settled, its headers find room and what
comes back can be read. Its log always is settled when no directive has both a blank in front and a
character beyond ASCII, its headers find room with fewer than 6,552 names, and only a network brings what
cannot be read. Otherwise it may crash, but it does nothing else. What is logged, when and in which
colours makes no difference to exit code, standard output and server. -/
theorem accepted_runs_keep_contract (env : Environment) (args : List Argument) (i : Invocation)
    (accepted : parse args = .ok i)
    (short : ∀ n, i.command.timeoutMs = some n → n < 360000000000000) :
    (∀ crash, env.startWorkers = .error crash → run env args = env.crashed crash) ∧
    (env.startWorkers = .ok () →
      (∀ filter, env.logFilter = .ok filter →
        (¬Crowded i → Readable env i → Contract env i (run env args)) ∧
        (Contract env i (run env args) ∨
          ∃ crash server, run env args = { env.crashed crash with server })) ∧
      (∀ crash, env.logFilter = .error crash → run env args = env.crashed crash) ∧
      ((∀ value, env.get? "RUST_LOG" = some value →
        ∀ s ∈ value.splitOn ",", Log.Straight s) → ∃ filter, env.logFilter = .ok filter) ∧
      ∀ env' filter filter', SameWorld env env' → env.logFilter = .ok filter →
        env'.logFilter = .ok filter' →
        (run env' args).exitCode = (run env args).exitCode ∧
        (run env' args).stdout = (run env args).stdout ∧
        (run env' args).server = (run env args).server) ∧
    ((Options.keyNames i.command.headers).card < 6552 → ¬Crowded i) ∧
    ((∀ transport delivers, env.link ≠ .network transport delivers) → Readable env i) := by
  refine ⟨fun crash => Environment.run_of_workers, ?_, not_crowded_of_few,
    readable_of_not_network⟩
  intro started
  refine ⟨?_, ?_, Environment.logFilter_of_straight, ?_⟩
  · intro filter settled
    rw [Environment.run_of_invoke started accepted settled]
    exact ⟨fun room readable => Environment.contract_of_readable filter room readable short,
      env.contract_invoke filter i⟩
  · exact fun crash => Environment.run_of_filter started accepted
  · intro env' filter filter' same settled settled'
    rw [Environment.run_of_invoke started accepted settled,
      Environment.run_of_invoke (same.startWorkers.trans started) accepted settled']
    exact same.invoke filter filter' i

/-- A command line with everything that a call can have. -/
def greetingLine : List Argument :=
  ["http://127.0.0.1:50051", "send", "headers", "d", "--topic", "", "-H", "x-trace:t",
    "--timeout-ms", "30000"].map .ofText

/-- What it asks for. -/
def greetingInvocation : Invocation :=
  { url := "http://127.0.0.1:50051"
    command :=
      { peerId := "headers"
        data := "d"
        topic := some ""
        headers := [("x-trace", "t")]
        timeoutMs := some 30000 } }

/-- The world with a server wherever one is looked for, in colours. -/
def colouredWorld : Environment :=
  { servedWorld with settings := [("CLICOLOR_FORCE", "1")], time := "2024-05-06T07:08:09Z" }

theorem greeting_keeps_contract :
    parse greetingLine = .ok greetingInvocation ∧
    Contract servedWorld greetingInvocation (run servedWorld greetingLine) ∧
    (run colouredWorld greetingLine).exitCode = (run servedWorld greetingLine).exitCode := by
  have parsed : parse greetingLine = .ok greetingInvocation := by decide +kernel
  have short : ∀ n, greetingInvocation.command.timeoutMs = some n → n < 360000000000000 := by
    rintro n ⟨rfl⟩
    decide
  have started : servedWorld.startWorkers = .ok () := by decide +kernel
  have settled : servedWorld.logFilter = .ok .standard := rfl
  have world : SameWorld servedWorld colouredWorld := sameWorld_of_display _ (by decide) _ _
  have few : (Options.keyNames greetingInvocation.command.headers).card < 6552 := by decide +kernel
  obtain ⟨-, runs, rooms, reads⟩ :=
    accepted_runs_keep_contract servedWorld greetingLine greetingInvocation parsed short
  obtain ⟨keeps, -, -, agrees⟩ := runs started
  exact ⟨parsed, (keeps .standard settled).1 (rooms few) (reads nofun),
    (agrees colouredWorld _ _ world settled rfl).1⟩

/-- A command line whose URL is none. -/
def homelessLine : List Argument := ["not a url", "send", "p", "d"].map .ofText

/-- What it asks for. -/
def homelessInvocation : Invocation :=
  { url := "not a url", command := { peerId := "p", data := "d" } }

/-- A world whose log setting has a blank in front of a letter of two bytes. -/
def shiftedWorld : Environment := { settings := [("RUST_LOG", " é=debug")] }

/-- A run that reports its URL crashes where the log setting is shifted: the target of the directive
is cut behind the first byte of its letter. -/
theorem shifted_log_setting_crashes_run :
    parse homelessLine = .ok homelessInvocation ∧ SameWorld {} shiftedWorld ∧
    (run {} homelessLine).exitCode = 1 ∧ (run shiftedWorld homelessLine).exitCode = 101 := by
  have parsed : parse homelessLine = .ok homelessInvocation := by decide +kernel
  have started : shiftedWorld.startWorkers = .ok () := by decide +kernel
  have single : " é=debug".splitOn "," = [" é=debug"] := by
    unfold String.splitOn
    rw [if_neg (by decide)]
    iterate 8 rw [String.splitOnAux.eq_1, if_neg (by decide +kernel), if_neg (by decide +kernel)]
    rw [String.splitOnAux.eq_1, if_pos (by decide +kernel)]
    decide +kernel
  have cut : shiftedWorld.logFilter =
      .error (.cutCharacter { edge := .stop, place := 2, character := 'é', first := 1 }) := by
    change (Log.Filter.ofSetting (some " é=debug")).mapError _ = _
    rw [Log.Filter.ofSetting, Option.map_some, Log.Filter.read, single]
    decide +kernel
  have world : SameWorld {} shiftedWorld := sameWorld_of_display {} (by decide) _ _
  refine ⟨parsed, world, by decide +kernel, ?_⟩
  rw [Environment.run_of_filter started parsed cut]
  rfl

end Courier.CommandLine
