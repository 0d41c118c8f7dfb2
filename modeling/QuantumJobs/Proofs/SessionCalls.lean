import QuantumJobs.Proofs.ConnectChecks

/-!
# SessionCalls — logins that take time

A session is taken into use and its token is renewed by calls that wait for the answer to a login.
While one waits, others may ask the session for its headers, renew the token as well, or give up.
Taking a configuration into use needs the session alone: nothing else is under way meanwhile.

Renewals may be under way side by side here, each with a login of its own.  That covers renewals
that share one login: whoever shares it has the answer that the first was given, and to record the
same token again is to change nothing that is shown.

Between two answers a call goes on without a break.  So a session only ever changes when a call
starts and when a call is answered, and there are few ways in which it can change.
-/

namespace QuantumJobs

/-! ## Dialogues up to their next request -/

namespace Dialogue

variable {σ τ α : Type}

/-- Lets a dialogue go on until it waits for an answer or ends. -/
def advance (time : Instant) : Dialogue σ α → σ → Dialogue σ α × σ
  | .done a, s => (.done a, s)
  | .change f next, s => (next s).advance time (f s)
  | .clock next, s => (next time).advance time s
  | .send r next, s => (.send r next, s)

end Dialogue

namespace Fermioniq
namespace Session

/-- What changes a session. -/
inductive Call
  | connect (env : Environment) (c : Config)
  | refresh

namespace Call

def dialogue : Call → Dialogue Session (Outcome Unit)
  | .connect env c => backend.connect env c
  | .refresh => backend.refresh

/-- The configuration that a call takes into use: that of a connection, if it is valid. -/
def configuration? : Call → Option (Environment × Config)
  | .connect env c => (Settings.ofConfig env c).toOption.map fun _ => (env, c)
  | .refresh => none

end Call

/-- A call that waits for an answer, and how it goes on. -/
structure Waiting where
  call : Call
  rest : Dialogue Session (Outcome Unit)

/-- A call that has come to its end. -/
structure Ended where
  call : Call
  outcome : Outcome Unit

/-- A session and the calls that are under way, by their callers. -/
structure Busy where
  session : Session
  waiting : Nat → Option Waiting

namespace Busy

inductive Event
  | start (caller : Nat) (call : Call)
  /-- The request that a caller waits for is answered. -/
  | answer (caller : Nat) (answer : Outcome Json)
  /-- A caller gives its call up. -/
  | drop (caller : Nat)

/-- The configuration that an event takes into use. -/
def Event.configuration? : Event → Option (Environment × Config)
  | .start _ call => call.configuration?
  | _ => none

/-- The configuration that was taken into use last. -/
def inForce (past : Past Event Ended) : Option (Environment × Config) :=
  past.findSome? fun e => e.1.configuration?

/-- A session that no call is under way on. -/
def idle (s : Session) : Busy := ⟨s, fun _ => none⟩

/-- A call goes on with what is left of it; if that is its end, its caller is answered. -/
def goOn (b : Busy) (caller : Nat) (call : Call) (time : Instant)
    (d : Dialogue Session (Outcome Unit)) : Busy × Option Ended :=
  match d.advance time b.session with
  | (.done outcome, s) => (⟨s, Function.update b.waiting caller none⟩, some ⟨call, outcome⟩)
  | (rest, s) => (⟨s, Function.update b.waiting caller (some ⟨call, rest⟩)⟩, none)

/-- Whether a call may start beside those under way: a connection only on an idle session, and
nothing beside a connection. -/
def Admits (b : Busy) : Call → Prop
  | .connect _ _ => ∀ caller, b.waiting caller = none
  | .refresh => ∀ caller w, b.waiting caller = some w → w.call = .refresh

/-- What can happen: every answer may be given, at any time. -/
inductive Moves (b : Busy) : Event → Option Ended → Busy → Prop where
  | starts {caller : Nat} {call : Call} (time : Instant) :
      b.waiting caller = none → b.Admits call →
        Moves b (.start caller call) (b.goOn caller call time call.dialogue).2
          (b.goOn caller call time call.dialogue).1
  | answered {caller : Nat} {call : Call} {r : Request}
      {next : Outcome Json → Dialogue Session (Outcome Unit)} (time : Instant)
      (answer : Outcome Json) :
      b.waiting caller = some ⟨call, .send r next⟩ →
        Moves b (.answer caller answer) (b.goOn caller call time (next answer)).2
          (b.goOn caller call time (next answer)).1
  | dropped (caller : Nat) :
      Moves b (.drop caller) none { b with waiting := Function.update b.waiting caller none }

/-! ## A call by itself -/

section Alone

variable {τ : Type} {net : Network τ} {now : Instant} {call : Call} {caller : Nat}

/-- Answered by a network until it ends, a call does what its dialogue does on that network. -/
theorem run_of_goOn {start : Busy} {waiting : Nat → Option Waiting}
    (d : Dialogue Session (Outcome Unit))
    (free : Function.update waiting caller none = fun _ => none) :
    ∀ (line : Line Session τ) {e : Event} {past : Past Event Ended},
      Run Moves start
          ((e, (goOn ⟨line.state, waiting⟩ caller call now d).2) :: past)
          (goOn ⟨line.state, waiting⟩ caller call now d).1 →
        ∃ e' past', Run Moves start ((e', some ⟨call, (d.run net now line).1⟩) :: past')
          (idle (d.run net now line).2.state) := by
  -- The induction is on what is left of the call, up to its next request.
  induction d generalizing waiting with
  | done outcome =>
      intro line e past run
      refine ⟨e, past, ?_⟩
      have ended : goOn ⟨line.state, waiting⟩ caller call now (.done outcome)
          = (idle line.state, some ⟨call, outcome⟩) := by
        show ((⟨line.state, _⟩ : Busy), _) = _
        rw [free]
        rfl
      rw [ended] at run
      exact run
  | change f next ih =>
      intro line e past run
      exact ih line.state free { line with state := f line.state } run
  | clock next ih =>
      intro line e past run
      exact ih now free line run
  | send r next ih =>
      intro line e past run
      -- The call waits until the network answers, and then goes on with a rest that is smaller.
      let answer := net.answer r line.wire
      let asked : Busy := ⟨line.state, Function.update waiting caller (some ⟨call, .send r next⟩)⟩
      have waits : asked.waiting caller = some ⟨call, .send r next⟩ := Function.update_self ..
      have freed : Function.update asked.waiting caller none = fun _ => none := by
        show Function.update (Function.update _ _ _) _ _ = _
        rw [Function.update_idem, free]
      exact ih answer.1 freed { line with wire := answer.2, sent := line.sent ++ [r] }
        (run.step (.answered now answer.1 waits))

/-- A call on an idle session that nobody disturbs does what it does on its own. -/
theorem run_of_call (call : Call) (caller : Nat) (line : Line Session τ) :
    ∃ e past,
      Run Moves (idle line.state) ((e, some ⟨call, (call.dialogue.run net now line).1⟩) :: past)
        (idle (call.dialogue.run net now line).2.state) := by
  have admitted : (idle line.state).Admits call := by
    cases call with
    | connect env c => exact fun _ => rfl
    | refresh => exact nofun
  have free : Function.update (idle line.state).waiting caller none = fun _ => none :=
    Function.update_eq_self caller (idle line.state).waiting
  exact run_of_goOn call.dialogue free line (Run.start.step (.starts now rfl admitted))

end Alone

/-! ## Calls that wait for a login -/

/-- What is left of a call records the login that the answer makes, and ends. -/
def AwaitsLogin (d : Dialogue Session (Outcome Unit)) : Prop :=
  ∃ r next, d = .send r next ∧ ∀ answer time s,
    (next answer).advance time s
      = (.done (((s.tokens.record (tokenOf time answer)).1).map fun _ => ()),
          s.record (tokenOf time answer))

variable {time : Instant} {s : Session}

/-- A session without settings has nothing to log in with. -/
theorem advance_refresh_of_none (settings : s.settings = none) :
    refresh.advance time s
      = (.done ((s.tokens.record (.error Problem.notInitialized.toFault)).1.map fun _ => ()),
          s.record (.error Problem.notInitialized.toFault)) := by
  obtain ⟨_, tokens⟩ := s
  cases settings
  rfl

/-- A session with settings sends its login and is what it was until the answer comes. -/
theorem advance_refresh (time : Instant) {a : Settings} (settings : s.settings = some a) :
    ∃ d, refresh.advance time s = (d, s) ∧ AwaitsLogin d := by
  obtain ⟨_, tokens⟩ := s
  cases settings
  refine ⟨_, rfl, _, _, rfl, ?_⟩
  intro answer time s
  cases answer with
  | error fault => rfl
  | ok m => rfl

/-- A connection whose configuration is valid brings the settings into force, sends the login and
waits. -/
theorem advance_connect (time : Instant) (s : Session) {env : Environment} {c : Config}
    {a : Settings} (valid : Settings.ofConfig env c = .ok a) :
    ∃ d, (connect env c).advance time s = (d, s.configure a) ∧ AwaitsLogin d := by
  have settings : (s.configure a).settings = some a := rfl
  rw [connect_of_ok valid]
  exact advance_refresh time settings

/-! ## What a call can do -/

/-- How a call begins on a session, and with what left to do. -/
inductive Begins (s : Session) (call : Call) :
    Dialogue Session (Outcome Unit) × Session → Prop where
  | refused {fault : Fault} {s' : Session} : call.configuration? = none →
      s'.settings = s.settings → s'.tokens.current = s.tokens.current →
        Begins s call (.done (.error fault), s')
  | asks {d : Dialogue Session (Outcome Unit)} : call = .refresh → AwaitsLogin d →
      Begins s call (d, s)
  | configures {env : Environment} {c : Config} {a : Settings}
      {d : Dialogue Session (Outcome Unit)} : call = .connect env c →
        Settings.ofConfig env c = .ok a → AwaitsLogin d → Begins s call (d, s.configure a)

theorem begins_call (s : Session) (call : Call) (time : Instant) :
    Begins s call (call.dialogue.advance time s) := by
  cases call with
  | refresh =>
      cases settings : s.settings with
      | none =>
          show Begins s _ (refresh.advance time s)
          rw [advance_refresh_of_none settings]
          exact .refused rfl rfl rfl
      | some a =>
          obtain ⟨d, begun, awaits⟩ := advance_refresh time settings
          show Begins s _ (refresh.advance time s)
          rw [begun]
          exact .asks rfl awaits
  | connect env c =>
      show Begins s _ ((connect env c).advance time s)
      cases valid : Settings.ofConfig env c with
      | error fault =>
          have none : (Call.connect env c).configuration? = none := by
            simp [Call.configuration?, valid, Except.toOption]
          rw [connect_of_error valid]
          exact .refused none rfl rfl
      | ok a =>
          obtain ⟨d, begun, awaits⟩ := advance_connect time s valid
          rw [begun]
          exact .configures rfl valid awaits

theorem configuration?_start {caller : Nat} {env : Environment} {c : Config} {a : Settings}
    (valid : Settings.ofConfig env c = .ok a) :
    (Event.start caller (.connect env c)).configuration? = some (env, c) := by
  simp [Event.configuration?, Call.configuration?, valid, Except.toOption]

/-- A call that waits since an event: it has started then, and if it is a connection, the event has
taken its configuration into use. -/
structure Began (e : Event) (caller : Nat) (w : Waiting) : Prop where
  started : e = .start caller w.call
  awaits : AwaitsLogin w.rest
  configures : ∀ env c, w.call = .connect env c → e.configuration? = some (env, c)

/-- What an event makes of the session, and the reply that is then given. -/
inductive Effect (b : Busy) : Event → Option Ended → Session → Prop where
  /-- No call succeeds; settings and token stay. -/
  | kept {e : Event} {reply : Option Ended} {s : Session} : e.configuration? = none →
      s.settings = b.session.settings → s.tokens.current = b.session.tokens.current →
        (∀ call, reply ≠ some ⟨call, .ok ()⟩) → Effect b e reply s
  /-- A configuration is taken into use; there is no token before its login is answered. -/
  | configured {caller : Nat} {env : Environment} {c : Config} {a : Settings} :
      Settings.ofConfig env c = .ok a →
        Effect b (.start caller (.connect env c)) none (b.session.configure a)
  /-- A login is granted, and the call that waited for it succeeds. -/
  | granted {caller : Nat} {answer : Outcome Json} {w : Waiting} {s : Session} {t : Token}
      {user : String} : b.waiting caller = some w → s.settings = b.session.settings →
        s.tokens.current = some t → t.user = some user → Grants answer t.text user →
          Effect b (.answer caller answer) (some ⟨w.call, .ok ()⟩) s

/-- All calls that are under way wait for a login. -/
def AllAwait (b : Busy) : Prop := ∀ caller w, b.waiting caller = some w → AwaitsLogin w.rest

section Step

variable {b b' : Busy} {e : Event} {reply : Option Ended} {caller : Nat} {call : Call}
  {d : Dialogue Session (Outcome Unit)}

theorem goOn_of_done {outcome : Outcome Unit} {s : Session}
    (ends : d.advance time b.session = (.done outcome, s)) :
    b.goOn caller call time d
      = (⟨s, Function.update b.waiting caller none⟩, some ⟨call, outcome⟩) := by
  unfold goOn
  rw [ends]

theorem goOn_of_awaits {rest : Dialogue Session (Outcome Unit)} {s : Session}
    (waits : d.advance time b.session = (rest, s)) (awaits : AwaitsLogin rest) :
    b.goOn caller call time d
      = (⟨s, Function.update b.waiting caller (some ⟨call, rest⟩)⟩, none) := by
  obtain ⟨r, next, rfl, _⟩ := awaits
  unfold goOn
  rw [waits]

theorem waiting_of_free {k : Nat} {w : Waiting}
    (waits : Function.update b.waiting caller none k = some w) : b.waiting k = some w := by
  rcases eq_or_ne k caller with rfl | differ
  · exact absurd ((Function.update_self k none b.waiting).symm.trans waits) nofun
  · exact (Function.update_of_ne differ none b.waiting).symm.trans waits

/-- What is left of a call that has been answered is its end. -/
theorem goOn_of_answer {r : Request} {next : Outcome Json → Dialogue Session (Outcome Unit)}
    (awaits : AwaitsLogin (.send r next)) (answer : Outcome Json) :
    b.goOn caller call time (next answer)
      = (⟨b.session.record (tokenOf time answer), Function.update b.waiting caller none⟩,
          some ⟨call, (b.session.tokens.record (tokenOf time answer)).1.map fun _ => ()⟩) := by
  obtain ⟨_, _, same, records⟩ := awaits
  cases same
  exact goOn_of_done (records answer time b.session)

/-- A login that is answered is either granted or leaves the token that there was. -/
theorem effect_of_answer {w : Waiting} (waits : b.waiting caller = some w) (answer : Outcome Json) :
    Effect b (.answer caller answer)
      (some ⟨w.call, (b.session.tokens.record (tokenOf time answer)).1.map fun _ => ()⟩)
      (b.session.record (tokenOf time answer)) := by
  cases read : tokenOf time answer with
  | error fault =>
      refine .kept rfl rfl rfl ?_
      rintro _ ⟨⟩
  | ok t =>
      obtain ⟨user, whole, grants⟩ := tokenOf_eq_ok.1 read
      exact .granted waits rfl rfl (congrArg Token.user whole) grants

/-- A call starts, waits, and ends when its login is answered. -/
theorem run_of_awaits (call : Call) (caller : Nat) {rest : Dialogue Session (Outcome Unit)} {s : Session}
    (begun : call.dialogue.advance time b.session = (rest, s)) (awaits : AwaitsLogin rest)
    (free : b.waiting caller = none) (admitted : b.Admits call) (answer : Outcome Json) :
    Run Moves b
      [(.answer caller answer,
          some ⟨call, (s.tokens.record (tokenOf time answer)).1.map fun _ => ()⟩),
        (.start caller call, none)]
      ⟨s.record (tokenOf time answer), b.waiting⟩ := by
  let asked : Busy := ⟨s, Function.update b.waiting caller (some ⟨call, rest⟩)⟩
  have starts : Run Moves b [(.start caller call, none)] asked := by
    have move := Run.start.step (Moves.starts time free admitted)
    rw [goOn_of_awaits begun awaits] at move
    exact move
  have waits : asked.waiting caller = some ⟨call, rest⟩ := Function.update_self ..
  have freed : Function.update asked.waiting caller none = b.waiting := by
    show Function.update (Function.update _ _ _) _ _ = _
    rw [Function.update_idem, ← free, Function.update_eq_self]
  obtain ⟨r, next, rfl, _⟩ := id awaits
  have ends := starts.step (.answered time answer waits)
  rw [goOn_of_answer awaits, freed] at ends
  exact ends

/-- Nobody waits any more who has not waited before, unless the caller that starts does. -/
theorem waiting_of_started {rest : Dialogue Session (Outcome Unit)} {k : Nat} {w : Waiting}
    (began : Began e caller ⟨call, rest⟩)
    (waits : Function.update b.waiting caller (some ⟨call, rest⟩) k = some w) :
    b.waiting k = some w ∨ Began e k w := by
  rcases eq_or_ne k caller with rfl | differ
  · cases (Function.update_self k (some ⟨call, rest⟩) b.waiting).symm.trans waits
    exact .inr began
  · exact .inl ((Function.update_of_ne differ _ b.waiting).symm.trans waits)

/-- The inversion of a move: its effect on the session, and whoever waits after it has waited before
or has just started to. -/
theorem Moves.effect (move : b.Moves e reply b') (all : b.AllAwait) :
    Effect b e reply b'.session ∧
      ∀ k w, b'.waiting k = some w → b.waiting k = some w ∨ Began e k w := by
  cases move with
  | @starts caller call time _ _ =>
      -- What is left of the call is named, so that the ways to begin can be told apart.
      have begins := begins_call b.session call time
      generalize begun : call.dialogue.advance time b.session = left at begins
      cases begins with
      | refused other settings current =>
          rw [goOn_of_done begun]
          refine ⟨.kept other settings current ?_, fun k w waits => .inl (waiting_of_free waits)⟩
          rintro _ ⟨⟩
      | asks same awaits =>
          cases same
          rw [goOn_of_awaits begun awaits]
          have began : Began (.start caller .refresh) caller ⟨.refresh, _⟩ := ⟨rfl, awaits, nofun⟩
          exact ⟨.kept rfl rfl rfl nofun, fun k w waits => waiting_of_started began waits⟩
      | @configures env c a d same valid awaits =>
          cases same
          rw [goOn_of_awaits begun awaits]
          have began : Began (.start caller (.connect env c)) caller ⟨.connect env c, d⟩ := by
            refine ⟨rfl, awaits, ?_⟩
            rintro _ _ ⟨⟩
            exact configuration?_start valid
          exact ⟨.configured valid, fun k w waits => waiting_of_started began waits⟩
  | answered time answer waits =>
      rw [goOn_of_answer (all _ _ waits)]
      exact ⟨effect_of_answer waits answer, fun k w waits => .inl (waiting_of_free waits)⟩
  | dropped caller =>
      exact ⟨.kept rfl rfl rfl nofun, fun k w waits => .inl (waiting_of_free waits)⟩

theorem AllAwait.step (all : b.AllAwait) (move : b.Moves e reply b') : b'.AllAwait := by
  intro caller w waits
  rcases (move.effect all).2 caller w waits with before | began
  · exact all caller w before
  · exact began.awaits

/-- A configuration is taken into use while nothing else is under way. -/
theorem Moves.alone (move : b.Moves e reply b') {x : Environment × Config}
    (taken : e.configuration? = some x) (caller : Nat) : b.waiting caller = none := by
  cases move with
  | @starts _ call _ _ admitted =>
      cases call with
      | connect env c => exact admitted caller
      | refresh => cases taken
  | answered => cases taken
  | dropped => cases taken

end Step

/-! ## What a past says -/

/-- The settings are those of the configuration, if there is one. -/
def Brings : Option (Environment × Config) → Option Settings → Prop
  | none, settings => settings = none
  | some (env, c), settings => ∃ a, Settings.ofConfig env c = .ok a ∧ settings = some a

/-- What a session is, as far as its past tells it. -/
structure Agrees (past : Past Event Ended) (b : Busy) : Prop where
  settings : Brings (inForce past) b.session.settings
  /-- Every token can be shown, and was issued to a user. -/
  usable : ∀ t, b.session.tokens.current = some t → t.text ≠ "" ∧ ∃ user, t.user = some user
  awaits : b.AllAwait
  /-- The configuration that a connection logs in with is the one in force. -/
  connecting : ∀ caller w env c, b.waiting caller = some w → w.call = .connect env c →
    inForce past = some (env, c)

variable {b b' : Busy} {e : Event} {reply : Option Ended} {past : Past Event Ended}

theorem inForce_cons (e : Event) (reply : Option Ended) (past : Past Event Ended) :
    inForce ((e, reply) :: past) = e.configuration?.or (inForce past) := by
  unfold inForce
  rw [List.findSome?_cons]
  cases e.configuration? <;> rfl

theorem agrees_idle_fresh : Agrees [] (idle fresh) where
  settings := rfl
  usable := nofun
  awaits := nofun
  connecting := nofun

/-- A connection that waits logs in with the configuration in force. -/
theorem Agrees.connecting_step (agrees : Agrees past b) (move : b.Moves e reply b') {caller : Nat}
    {w : Waiting} {env : Environment} {c : Config} (waits : b'.waiting caller = some w)
    (connects : w.call = .connect env c) : inForce ((e, reply) :: past) = some (env, c) := by
  rw [inForce_cons]
  rcases (move.effect agrees.awaits).2 caller w waits with before | began
  · -- Nobody has waited before a configuration is taken into use, so none has been.
    cases taken : e.configuration? with
    | none => exact agrees.connecting caller w env c before connects
    | some x => exact absurd ((move.alone taken caller).symm.trans before) nofun
  · rw [began.configures env c connects]
    rfl

theorem Agrees.step (agrees : Agrees past b) (move : b.Moves e reply b') :
    Agrees ((e, reply) :: past) b' := by
  have awaits := agrees.awaits.step move
  have connecting : ∀ caller w env c, b'.waiting caller = some w → w.call = .connect env c →
      inForce ((e, reply) :: past) = some (env, c) :=
    fun _ _ _ _ waits connects => agrees.connecting_step move waits connects
  obtain ⟨effect, _⟩ := move.effect agrees.awaits
  generalize after : b'.session = s at effect
  -- What does not take a configuration into use leaves the one in force, and its settings.
  have unmoved : e.configuration? = none → s.settings = b.session.settings →
      Brings (inForce ((e, reply) :: past)) s.settings := by
    intro other settings
    rw [inForce_cons, other, settings]
    exact agrees.settings
  cases effect with
  | kept other settings current =>
      refine ⟨?_, ?_, awaits, connecting⟩
      · rw [after]
        exact unmoved other settings
      · rw [after, current]
        exact agrees.usable
  | @configured _ _ _ a valid =>
      refine ⟨?_, ?_, awaits, connecting⟩
      · rw [inForce_cons, configuration?_start valid, after]
        exact ⟨a, valid, rfl⟩
      · rw [after]
        exact nofun
  | @granted _ _ _ _ t user _ settings current whose grants =>
      refine ⟨?_, ?_, awaits, connecting⟩
      · rw [after]
        exact unmoved rfl settings
      · rw [after, current]
        rintro _ ⟨⟩
        obtain ⟨_, _, _, notEmpty, _⟩ := grants
        exact ⟨notEmpty, user, whose⟩

/-- After every run a session has what its past says. -/
theorem agrees_of_run (run : Run Moves (idle fresh) past b) : Agrees past b :=
  run.invariant agrees_idle_fresh fun _ _ _ _ _ agrees move => agrees.step move

/-! ## Until the next configuration -/

/-- No configuration is taken into use. -/
def Unconfigured (past : Past Event Ended) : Prop := ∀ e ∈ past, e.1.configuration? = none

/-- No call succeeds. -/
def AllFail (past : Past Event Ended) : Prop := ∀ e ∈ past, ∀ call, e.2 ≠ some ⟨call, .ok ()⟩

/-- Until a configuration is taken into use, settings and token stay; the token only gives way to a
new one, and if no call succeeds, not even that. -/
structure Lasts (late : Past Event Ended) (s s' : Session) : Prop where
  settings : s'.settings = s.settings
  held : s.tokens.current.isSome = true → s'.tokens.current.isSome = true
  unchanged : AllFail late → s'.tokens.current = s.tokens.current

theorem Lasts.step {late : Past Event Ended} {s₀ : Session} (lasts : Lasts late s₀ b.session)
    (all : b.AllAwait) (move : b.Moves e reply b') (other : e.configuration? = none) :
    Lasts ((e, reply) :: late) s₀ b'.session := by
  obtain ⟨effect, _⟩ := move.effect all
  generalize b'.session = s at effect
  cases effect with
  | kept _ settings current =>
      refine ⟨settings.trans lasts.settings, ?_, ?_⟩
      · rw [current]
        exact lasts.held
      · intro fail
        exact current.trans (lasts.unchanged (List.forall_mem_cons.1 fail).2)
  | configured valid => exact absurd ((configuration?_start valid).symm.trans other) nofun
  | granted _ settings current =>
      refine ⟨settings.trans lasts.settings, ?_, ?_⟩
      · rw [current]
        exact fun _ => rfl
      · -- The login has just succeeded, so not all calls have failed.
        intro fail
        exact absurd rfl (fail _ List.mem_cons_self _)

theorem lasts_of_run {late : Past Event Ended} (all : b.AllAwait) (run : Run Moves b late b') :
    b'.AllAwait ∧ (Unconfigured late → Lasts late b.session b'.session) := by
  induction run with
  | start => exact ⟨all, fun _ => ⟨rfl, id, fun _ => rfl⟩⟩
  | step _ move ih =>
      obtain ⟨all, lasts⟩ := ih
      refine ⟨all.step move, ?_⟩
      intro quiet
      obtain ⟨other, before⟩ := List.forall_mem_cons.1 quiet
      exact (lasts before).step all move other

/-- A call that succeeds leaves a token. -/
theorem current_of_ok {call : Call} (all : b.AllAwait)
    (move : b.Moves e (some ⟨call, .ok ()⟩) b') :
    b'.session.tokens.current.isSome = true ∧ e.configuration? = none ∧
      ∃ caller w, b.waiting caller = some w ∧ w.call = call := by
  obtain ⟨effect, _⟩ := move.effect all
  generalize b'.session = s at effect
  generalize given : some (Ended.mk call (.ok ())) = reply at effect
  cases effect with
  | kept _ _ _ failed => exact absurd given.symm (failed call)
  | configured => cases given
  | granted waits _ current =>
      cases given
      exact ⟨by rw [current]; rfl, rfl, _, _, waits, rfl⟩

end Busy
end Session
end Fermioniq
end QuantumJobs
