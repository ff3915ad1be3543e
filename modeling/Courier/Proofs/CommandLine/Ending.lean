import Courier.Proofs.CommandLine.HeaderLists
import Courier.Proofs.Server.Refusals
import Courier.Proofs.Server.WirePath

/-!
# How a run ends

A run whose threads and log have started ends with a reply, with a report or with a crash, over any link
to its server. `invoke_cases` says how far an invocation comes, and `send_cases` what becomes of its
call. A run crashes over a header that finds the header map full (`Crowded`), over a reply that cannot be
read (`Readable`), or over its deadline, which is accepted with the command line and written only when
the call is made (`invoke_of_overlong`). Few headers never fill the map, and the answer of the recording
server can always be read (`readable_of_not_network`).
-/

namespace Courier

open Http (Headers)

namespace CommandLine

/-! ## Invocations -/

/-- An invocation whose headers are accepted and whose server is there, but whose deadline is too
long to be written: it has 10^8 hours or more. -/
structure Overlong (env : Environment) (i : Invocation) : Prop where
  headers : ∃ options, callOptions i.command.headers i.command.timeoutMs = .ok options
  server : ∃ endpoint, Endpoint.connect env.listening i.url = .ok endpoint
  deadline : ∃ n, i.command.timeoutMs = some n ∧ 360000000000000 ≤ n

/-- A deadline in milliseconds is brief when its hours have eight digits. -/
theorem isBrief_ofMillis_iff {o : Options} {timeoutMs : Option Nat}
    (set : o.timeout = timeoutMs.map .ofMillis) :
    o.IsBrief ↔ ∀ n, timeoutMs = some n → n < 360000000000000 := by
  have hours (n : Nat) : (Duration.ofMillis n).nanos / TimeUnit.hour.nanos < 100000000 ↔
      n < 360000000000000 := by
    show 1000000 * n / 3600000000000 < 100000000 ↔ _
    omega
  unfold Options.IsBrief
  rw [set]
  cases timeoutMs with
  | none => simp
  | some n => simp [hours]

/-- The call that an invocation makes. -/
def Invocation.call (i : Invocation) (options : Options) : Call :=
  { request :=
      { peerId := i.command.peerId
        data := i.command.data
        topic := .ofOption i.command.topic }
    options }

/-- The headers of an invocation, or those that its call adds to them, find the header map full. -/
def Crowded (i : Invocation) : Prop :=
  ¬FindRoom i.command.headers ∨
    ∃ options, callOptions i.command.headers i.command.timeoutMs = .ok options ∧ ¬options.HasRoom

/-- What comes back for the call of an invocation can be read. -/
def Readable (env : Environment) (i : Invocation) : Prop :=
  ∀ options http, callOptions i.command.headers i.command.timeoutMs = .ok options →
    (i.call options).toHttp = .ok http → (env.link.reply http).IsReadable

/-- Headers that are accepted make options with their names and the deadline of the command line. -/
theorem of_callOptions_eq_ok {headers : List (String × String)} {timeoutMs : Option Nat}
    {options : Options} (built : callOptions headers timeoutMs = .ok options) :
    options.headers.names = Options.keyNames headers ∧
      (options.IsBrief ↔ ∀ n, timeoutMs = some n → n < 360000000000000) := by
  have room : FindRoom headers := findRoom_of_callOptions (by rw [built]; nofun)
  rcases callOptions_cases room timeoutMs with
    ⟨accepted, same⟩ | ⟨-, -, -, -, fault, -, -, -, -, same⟩
  · rw [same] at built
    cases built
    refine ⟨?_, isBrief_ofMillis_iff rfl⟩
    rw [Headers.names_insertAll, Options.names_entryOf accepted]
    exact Finset.empty_union _
  · rw [same] at built
    cases built

theorem not_crowded_of_few {i : Invocation}
    (few : (Options.keyNames i.command.headers).card < 6552) : ¬Crowded i := by
  rintro (full | ⟨options, built, crowded⟩)
  · exact full (findRoom_of_few (Nat.lt_trans few (by decide)))
  · refine crowded (Options.hasRoom_of_few ?_)
    rw [(of_callOptions_eq_ok built).1]
    exact few

/-- Without a network in between, there is nothing that cannot be read. -/
theorem readable_of_not_network {env : Environment} {i : Invocation}
    (near : ∀ transport delivers, env.link ≠ .network transport delivers) : Readable env i := by
  intro options http _ handed
  cases link : env.link with
  | direct =>
    exact Http.Request.isReadable_answer fun _ refused => Call.isOwn_of_receive_eq_error handed refused
  | refused why => exact nofun
  | lost why => exact nofun
  | network transport delivers => exact absurd link (near transport delivers)

namespace Environment

variable {env : Environment} {i : Invocation} {filter : Log.Filter}

/-- What becomes of a call. If it is handed over, the outcome of the reply decides, and the server is
what the link makes of it; otherwise the run crashes, or the link is lost before it would. -/
theorem send_cases (env : Environment) (c : Call) (logged : String) :
    (∃ http, c.toHttp = .ok http ∧
      ((∃ reply, (env.link.reply http).outcome = .ok reply ∧
        env.send logged c =
          { exitCode := 0
            stdout := reply ++ "\n"
            stderr := logged
            server := env.link.after env.server http }) ∨
      (∃ status, (env.link.reply http).outcome = .error (.failed status) ∧
        env.send logged c =
          { env.reported logged (.ofStatus status) with
            server := env.link.after env.server http }) ∨
      ∃ crash, (env.link.reply http).outcome = .error (.crashed crash) ∧
        env.send logged c =
          { env.crashed crash with server := env.link.after env.server http })) ∨
    ∃ crash, c.toHttp = .error crash ∧
      (env.send logged c = env.crashed crash ∨
        ∃ status, env.send logged c = env.reported logged (.ofStatus status)) := by
  unfold send
  cases handed : c.toHttp with
  | ok http =>
    rw [env.server.call_of_handed env.link handed]
    refine .inl ⟨http, rfl, ?_⟩
    cases outcome : (env.link.reply http).outcome with
    | ok reply => exact .inl ⟨reply, rfl, rfl⟩
    | error e =>
      cases e with
      | failed status => exact .inr (.inl ⟨status, rfl, rfl⟩)
      | crashed crash => exact .inr (.inr ⟨crash, rfl, rfl⟩)
  | error crash =>
    refine .inr ⟨crash, rfl, ?_⟩
    rcases env.server.call_of_unsent env.link handed with called | ⟨-, status, -, called⟩
    · rw [called]
      exact .inl rfl
    · rw [called]
      exact .inr ⟨status, rfl⟩

/-- A call with a longer deadline crashes, and the server never hears of it. -/
theorem send_of_long {c : Call} (long : ¬c.options.IsBrief) (logged : String) :
    env.send logged c = env.crashed .deadlineTooLong := by
  have called : env.server.call env.link c =
      (env.server, .error (.crashed .deadlineTooLong)) := by
    unfold Recorder.call
    rw [Call.toHttp_of_long long]
    cases env.link with
    | direct => rfl
    | network transport delivers => rfl
    | refused why => exact congrArg _ (congrArg _ (Call.perform_of_long long _))
    | lost why => exact congrArg _ (congrArg _ (Call.perform_of_long long _))
  rw [send, called]
  rfl

/-- How far an invocation comes: to a header that is refused, to one that finds no room, to a server that
is not there, or to its call. -/
theorem invoke_cases (env : Environment) (filter : Log.Filter) (i : Invocation) :
    (∃ fault, callOptions i.command.headers i.command.timeoutMs = .error fault ∧
      env.invoke filter i = env.reported "" (.header fault)) ∨
    (¬FindRoom i.command.headers ∧ env.invoke filter i = env.crashed .headersFull) ∨
    ∃ options, callOptions i.command.headers i.command.timeoutMs = .ok options ∧
      ((∃ fault, Endpoint.connect env.listening i.url = .error fault ∧
        env.invoke filter i = env.reported (env.connectingLog filter i.url) (.connection fault)) ∨
      ∃ endpoint, Endpoint.connect env.listening i.url = .ok endpoint ∧
        env.invoke filter i = env.send (env.connectingLog filter i.url) (i.call options)) := by
  by_cases room : FindRoom i.command.headers
  · unfold invoke
    rcases callOptions_cases room i.command.timeoutMs with
      ⟨-, same⟩ | ⟨-, -, -, -, fault, -, -, -, named, same⟩
    · rw [same]
      refine .inr (.inr ⟨_, rfl, ?_⟩)
      dsimp only
      cases Endpoint.connect env.listening i.url with
      | error fault => exact .inl ⟨fault, rfl, rfl⟩
      | ok endpoint => exact .inr ⟨endpoint, rfl, rfl⟩
    · rw [same]
      cases fault with
      | noRoom => exact absurd rfl named
      | invalidKey key => exact .inl ⟨_, rfl, rfl⟩
      | invalidValue key => exact .inl ⟨_, rfl, rfl⟩
  · refine .inr (.inl ⟨room, ?_⟩)
    rw [invoke, callOptions_of_not_findRoom room]

/-- An overlong invocation crashes, and the server never hears of it. -/
theorem invoke_of_overlong (overlong : Overlong env i) :
    env.invoke filter i = env.crashed .deadlineTooLong := by
  obtain ⟨options, accepted⟩ := overlong.headers
  obtain ⟨endpoint, connected⟩ := overlong.server
  obtain ⟨n, set, above⟩ := overlong.deadline
  have long : ¬options.IsBrief := by
    rw [(of_callOptions_eq_ok accepted).2]
    exact fun short => Nat.not_lt.mpr above (short n set)
  unfold invoke
  rw [accepted]
  dsimp only
  rw [connected]
  exact send_of_long (c := i.call options) long _

/-- Every other invocation ends with exit code 0 or 1, or it crashes over a full header map or a reply
that cannot be read. -/
theorem ending_of_invoke (filter : Log.Filter) (fine : ¬Overlong env i) :
    (env.invoke filter i).exitCode = 0 ∨ (env.invoke filter i).exitCode = 1 ∨
    (Crowded i ∧ env.invoke filter i = env.crashed .headersFull) ∨
    (¬Readable env i ∧
      ∃ crash server, env.invoke filter i = { env.crashed crash with server }) := by
  rcases env.invoke_cases filter i with
    ⟨fault, -, same⟩ | ⟨full, same⟩ |
    ⟨options, accepted, ⟨fault, -, same⟩ | ⟨endpoint, connected, same⟩⟩
  · exact .inr (.inl (by rw [same]; rfl))
  · exact .inr (.inr (.inl ⟨.inl full, same⟩))
  · exact .inr (.inl (by rw [same]; rfl))
  · have short : options.IsBrief := by
      rw [(of_callOptions_eq_ok accepted).2]
      intro n set
      by_contra long
      exact fine ⟨⟨options, accepted⟩, ⟨endpoint, connected⟩, n, set, Nat.not_lt.mp long⟩
    rw [same]
    rcases env.send_cases (i.call options) (env.connectingLog filter i.url) with
      ⟨http, handed, ⟨reply, -, ends⟩ | ⟨status, -, ends⟩ | ⟨crash, crashes, ends⟩⟩ |
      ⟨crash, unsent, ends | ⟨status, ends⟩⟩
    · exact .inl (by rw [ends])
    · exact .inr (.inl (by rw [ends]; rfl))
    · refine .inr (.inr (.inr ⟨?_, crash, _, ends⟩))
      intro readable
      rcases Reply.outcome_of_isReadable (readable options http accepted handed) with
        ⟨reply, replied⟩ | ⟨status, failed⟩
      · rw [replied] at crashes
        cases crashes
      · rw [failed] at crashes
        cases crashes
    · have crowded : ¬options.HasRoom := by
        intro room
        obtain ⟨http, handed, -⟩ := Call.toHttp_of_room (c := i.call options) short room
        rw [handed] at unsent
        cases unsent
      rw [Call.toHttp_of_crowded (c := i.call options) short crowded] at unsent
      cases unsent
      exact .inr (.inr (.inl ⟨.inr ⟨options, accepted, crowded⟩, ends⟩))
    · exact .inr (.inl (by rw [ends]; rfl))

end Environment

/-! ## Deadlines and crashes -/

/-- A call with a deadline of fewer than 10^8 hours succeeds or fails with a status, as far as its
headers find room and its reply can be read; with a longer one it crashes, and nothing is handed to the
transport. So a command line that is accepted crashes over its deadline if its headers are accepted and
its server is there. Otherwise it crashes over headers without room or a reply that cannot be read, or
over the settings of threads and log, which are none of its own. Fewer than 6,552 names always find room,
and only a network brings replies that cannot be read. -/
theorem only_long_deadlines_crash (c : Call) (reply : Reply) :
    (c.options.IsBrief → c.options.HasRoom → reply.IsReadable →
      (∃ s, (c.perform reply).outcome = .ok s) ∨
        ∃ status, (c.perform reply).outcome = .error (.failed status)) ∧
    (c.options.IsBrief → ¬c.options.HasRoom → (∀ cause, reply ≠ .notReady cause) →
      c.perform reply = { sent := none, outcome := .error (.crashed .headersFull) }) ∧
    (c.options.headers.names.card < 6552 → c.options.HasRoom) ∧
    (¬c.options.IsBrief →
      c.perform reply = { sent := none, outcome := .error (.crashed .deadlineTooLong) }) ∧
    ∀ (env : Environment) (args : List Argument) (i : Invocation), parse args = .ok i →
      ((run env args).exitCode = 0 ∨ (run env args).exitCode = 1 ∨
        (∃ crash, env.startWorkers = .error crash ∧ run env args = env.crashed crash) ∨
        (∃ crash, env.logFilter = .error crash ∧ run env args = env.crashed crash) ∨
        (Overlong env i ∧ run env args = env.crashed .deadlineTooLong) ∨
        (Crowded i ∧ run env args = env.crashed .headersFull) ∨
        (¬Readable env i ∧ ∃ crash server, run env args = { env.crashed crash with server })) ∧
      (env.startWorkers = .ok () → (∃ filter, env.logFilter = .ok filter) → Overlong env i →
        run env args = env.crashed .deadlineTooLong) ∧
      ((Options.keyNames i.command.headers).card < 6552 → ¬Crowded i) ∧
      ((∀ transport delivers, env.link ≠ .network transport delivers) → Readable env i) := by
  refine ⟨?_, ?_, Options.hasRoom_of_few, fun long => Call.perform_of_long long reply, ?_⟩
  · intro brief room readable
    obtain ⟨http, handed, -⟩ := Call.toHttp_of_room brief room
    rw [Call.outcome_of_toHttp handed reply]
    exact Reply.outcome_of_isReadable readable
  · intro brief crowded ready
    exact Call.perform_of_crowded brief crowded ready
  · intro env args i parsed
    refine ⟨?_, ?_, not_crowded_of_few, readable_of_not_network⟩
    · unfold run
      rw [parsed]
      cases started : env.startWorkers with
      | error crash => exact .inr (.inr (.inl ⟨crash, rfl, rfl⟩))
      | ok =>
        cases logging : env.logFilter with
        | error crash => exact .inr (.inr (.inr (.inl ⟨crash, rfl, rfl⟩)))
        | ok filter =>
          dsimp only
          by_cases overlong : Overlong env i
          · exact .inr (.inr (.inr (.inr (.inl
              ⟨overlong, Environment.invoke_of_overlong overlong⟩))))
          · rcases Environment.ending_of_invoke filter overlong with
              zero | one | crowded | unread
            · exact .inl zero
            · exact .inr (.inl one)
            · exact .inr (.inr (.inr (.inr (.inr (.inl crowded)))))
            · exact .inr (.inr (.inr (.inr (.inr (.inr unread)))))
    · rintro started ⟨filter, logging⟩ overlong
      rw [run, started, parsed]
      dsimp only
      rw [logging]
      exact Environment.invoke_of_overlong overlong

/-- A command line whose deadline has 10^8 hours to the millisecond. -/
def overlongLine : List Argument :=
  ["http://127.0.0.1:50051", "send", "p", "größe", "-H", "x-trace: é", "--timeout-ms",
    "360000000000000"].map .ofText

/-- What this command line asks for. -/
def overlongInvocation : Invocation :=
  { url := "http://127.0.0.1:50051"
    command :=
      { peerId := "p"
        data := "größe"
        headers := [("x-trace", "é")]
        timeoutMs := some 360000000000000 } }

/-- A world with a server wherever one is looked for. -/
def servedWorld : Environment := { listening := fun _ => true }

/-- The call that it comes to. -/
def overlongCall : Call :=
  { request := { peerId := "p", data := "größe" }
    options :=
      { timeout := some (.ofMillis 360000000000000)
        headers := .ofList [("x-trace", utf8 "é")] } }

theorem overlong_line_crashes :
    ¬overlongCall.options.IsBrief ∧
    overlongCall.perform (.response {}) =
      { sent := none, outcome := .error (.crashed .deadlineTooLong) } ∧
    parse overlongLine = .ok overlongInvocation ∧
    servedWorld.startWorkers = .ok () ∧ Overlong servedWorld overlongInvocation ∧
    run servedWorld overlongLine = servedWorld.crashed .deadlineTooLong := by
  have long : ¬overlongCall.options.IsBrief := fun brief => absurd (brief _ rfl) (by decide)
  have parsed : parse overlongLine = .ok overlongInvocation := by decide +kernel
  have started : servedWorld.startWorkers = .ok () := by decide +kernel
  have logging : ∃ filter, servedWorld.logFilter = .ok filter := ⟨_, rfl⟩
  have accepted : callOptions overlongInvocation.command.headers
      overlongInvocation.command.timeoutMs = .ok overlongCall.options := by decide +kernel
  have overlong : Overlong servedWorld overlongInvocation :=
    ⟨⟨_, accepted⟩, ⟨_, rfl⟩, ⟨_, rfl, Nat.le_refl _⟩⟩
  obtain ⟨-, -, -, crashes, lines⟩ := only_long_deadlines_crash overlongCall (.response {})
  obtain ⟨-, ends, -⟩ := lines servedWorld overlongLine overlongInvocation parsed
  exact ⟨long, crashes long, parsed, started, overlong, ends started logging overlong⟩

end CommandLine

/-- The longest deadline in milliseconds of 64 bits is taken into options, and the call crashes. -/
theorem longest_deadline_crashes_call :
    Session.run {}
        [.call 0
          { request := { peerId := "p", data := "d" }
            options := ({} : Options).withTimeout (.ofMillis 18446744073709551615) }] =
      [{ result := .outcome (.error (.crashed .deadlineTooLong))
         received := []
         total := 0 }] := by
  have long : ¬Options.IsBrief (({} : Options).withTimeout (.ofMillis 18446744073709551615)) :=
    fun brief => absurd (brief _ rfl) (by decide)
  have crashes := Call.toHttp_of_long
    (c := { request := { peerId := "p", data := "d" }
            options := ({} : Options).withTimeout (.ofMillis 18446744073709551615) }) long
  exact Session.run_call (Recorder.call_of_crash {} crashes)

end Courier
