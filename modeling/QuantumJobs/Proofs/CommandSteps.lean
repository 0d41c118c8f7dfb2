import QuantumJobs.CommandLine.Command
import QuantumJobs.Proofs.SharedFile
import QuantumJobs.Proofs.WaitSteps

/-!
# CommandSteps — commands as steps on a handle file

A command that is left alone takes the steps that a client takes on a shared handle file: it loads
the file, asks the backend if the job has not ended, and saves.  Everything else that it does leaves
the files as they are.
-/

namespace QuantumJobs
namespace CommandLine

open Files (Path Tree)
open SharedFile (Errand Event Hand Moves State)

variable {σ τ α β : Type}

/-! ## Actions that leave the files -/

namespace Action

theorem run_bind_ok {x : Action σ τ α} {f : α → Action σ τ β} {w w' : World σ τ} {a : α}
    (ran : x.run w = (.ok a, w')) : (x >>= f).run w = (f a).run w' := by
  rw [run_bind, ran]

theorem run_bind_error {x : Action σ τ α} {f : α → Action σ τ β} {w w' : World σ τ} {halt : Halt}
    (ran : x.run w = (.error halt, w')) : (x >>= f).run w = (.error halt, w') := by
  rw [run_bind, ran]

/-- The action leaves the files as they are. -/
def Keeps (x : Action σ τ α) : Prop := ∀ w, (x.run w).2.files = w.files

theorem keeps_pure (a : α) : (pure a : Action σ τ α).Keeps := fun _ => rfl

theorem Keeps.bind {x : Action σ τ α} {f : α → Action σ τ β} (first : x.Keeps)
    (next : ∀ a, (f a).Keeps) : (x >>= f).Keeps := by
  intro w
  have before := first w
  rcases ran : x.run w with ⟨halt | a, w'⟩
  · rw [run_bind_error ran]
    rw [ran] at before
    exact before
  · rw [run_bind_ok ran]
    rw [ran] at before
    exact (next a w').trans before

/-- What comes after an action and leaves the files does not change what the action has made of
them. -/
theorem files_bind {x : Action σ τ α} {f : α → Action σ τ β} (next : ∀ a, (f a).Keeps)
    (w : World σ τ) : ((x >>= f).run w).2.files = (x.run w).2.files := by
  rcases ran : x.run w with ⟨halt | a, w'⟩
  · rw [run_bind_error ran]
  · rw [run_bind_ok ran]
    exact next a w'

theorem keeps_require (e : Except Trouble α) : (require e : Action σ τ α).Keeps := by
  intro w
  cases e <;> rfl

theorem keeps_fail (cause : String) : (fail cause : Action σ τ α).Keeps := fun _ => rfl

theorem keeps_files : (files : Action σ τ Tree).Keeps := fun _ => rfl

theorem keeps_say (text : String) : (say text : Action σ τ Unit).Keeps := fun _ => rfl

theorem keeps_sayAll : ∀ texts : List String, (sayAll texts : Action σ τ Unit).Keeps
  | [] => keeps_pure ()
  | text :: texts => (keeps_say text).bind fun _ => keeps_sayAll texts

theorem keeps_talk (site : Site σ τ) (d : Dialogue σ α) : (talk site d).Keeps := fun _ => rfl

end Action

open QuantumJobs.CommandLine.Action (Keeps)

variable (site : Site σ τ)

theorem keeps_reconnect (h : Handle) (sources : Sources) : (reconnect site h sources).Keeps :=
  Action.keeps_files.bind fun _ => (Action.keeps_require _).bind fun _ =>
    (Action.keeps_talk site _).bind fun _ => Action.keeps_require _

theorem keeps_tellResults (context : String) (answer : Outcome SampleResult) :
    (tellResults context answer : Action σ τ Unit).Keeps :=
  (Action.keeps_require _).bind fun _ => Action.keeps_sayAll _

theorem keeps_requireChecked (answer : Outcome Poll) (h : Handle) :
    (requireChecked answer h : Action σ τ Unit).Keeps := by
  unfold requireChecked
  cases answer with
  | ok _ => exact Action.keeps_pure ()
  | error fault =>
      simp only
      split
      · exact Action.keeps_pure ()
      · exact Action.keeps_require _

theorem keeps_requireEnded (handle : String) (answer : Outcome Poll) (h : Handle) :
    (requireEnded handle answer h : Action σ τ Unit).Keeps := by
  unfold requireEnded
  split
  · exact Action.keeps_fail _
  · exact Action.keeps_pure ()

/-- What a load has opened is what the file holds. -/
theorem load_of_openHandle {handle : String} {w w' : World σ τ} {p : Path} {h : Handle}
    (opened : (openHandle site handle).run w = (.ok (p, h), w')) :
    Handle.load w'.files p = .ok h := by
  unfold openHandle at opened
  rcases found : (jobsDirectory site).run w with ⟨halt | jobs, w₁⟩
  · rw [Action.run_bind_error found] at opened
    cases opened
  · rw [Action.run_bind_ok found] at opened
    simp only [Action.run_bind, Action.run_files] at opened
    cases loaded : Handle.load w₁.files (handleFile w₁.files jobs handle) with
    | error fault =>
        rw [loaded] at opened
        cases opened
    | ok g =>
        rw [loaded] at opened
        cases opened
        exact loaded

/-! ## What actions come to -/

/-- Whatever a client asks about a handle, it comes back with a handle of the same job. -/
theorem sameJob_of_asks {errand : Errand} {h g : Handle} (asks : errand.Asks h (.saving g)) :
    h.SameJob g := by
  cases asks with
  | status polled _ => exact Handle.sameJob_of_poll polled
  | result polled => exact Handle.sameJob_of_poll polled
  | wait waited => exact Handle.sameJob_of_wait waited
  | waitUntil waited => exact Handle.sameJob_of_waitUntil waited

theorem run_require_inContext_ok (context : String) (a : α) (w : World σ τ) :
    (Action.require (inContext context (.ok a))).run w = (.ok a, w) := rfl

theorem run_require_inContext_error (context : String) (fault : Fault) (w : World σ τ) :
    (Action.require (inContext context (.error fault)) : Action σ τ α).run w
      = (.error (.trouble ((Trouble.ofFault fault).within context)), w) := rfl

/-- The directory for the program's own files is found, or made, or cannot be made. -/
theorem run_stateDirectory (w : World σ τ) :
    (stateDirectory site).run w
      = match site.home with
        | none => (.error (.trouble (.because "Could not determine home directory")), w)
        | some home =>
            if w.files.doesExist (stateIn home) then (.ok (stateIn home), w)
            else
              match w.files.makeDirectories (stateIn home) with
              | .ok t => (.ok (stateIn home), { w with files := t })
              | .error o =>
                  (.error (.trouble ((Trouble.ofObstacle o).within
                    ("Failed to create state directory: " ++ stateIn home))), w) := by
  unfold stateDirectory
  cases site.home with
  | none => rfl
  | some home =>
      simp only
      rw [Action.run_bind_ok (Action.run_files w)]
      by_cases there : w.files.doesExist (stateIn home) = true
      · rw [if_pos there, if_pos there]
        rfl
      · rw [if_neg there, if_neg there]
        cases w.files.makeDirectories (stateIn home) with
        | ok t => rfl
        | error o => rfl

theorem run_jobsDirectory (w : World σ τ) :
    (jobsDirectory site).run w
      = match (stateDirectory site).run w with
        | (.ok dir, w') => (.ok (jobsIn dir), w')
        | (.error halt, w') => (.error halt, w') := by
  unfold jobsDirectory
  rw [Action.run_bind]
  rcases (stateDirectory site).run w with ⟨_ | _, _⟩
  · rfl
  · rfl

/-- A save gives the tree with the saved file, or leaves the tree. -/
theorem run_saveHandle (p : Path) (h : Handle) (w : World σ τ) :
    (saveHandle p h).run w
      = match h.save w.files p with
        | .ok t => (.ok (), { w with files := t })
        | .error fault =>
            (.error (.trouble ((Trouble.ofFault fault).within ("Failed to save job handle: " ++ p))),
              w) := by
  unfold saveHandle
  rw [Action.run_bind_ok (Action.run_files w)]
  cases h.save w.files p with
  | ok t => rfl
  | error fault => rfl

/-- Lines are printed, and nothing else happens. -/
theorem run_sayAll (texts : List String) (w : World σ τ) :
    ∃ w', (Action.sayAll texts : Action σ τ Unit).run w = (.ok (), w') ∧ w'.files = w.files ∧
      w'.line = w.line := by
  induction texts generalizing w with
  | nil => exact ⟨w, rfl, rfl, rfl⟩
  | cons text texts ih =>
      obtain ⟨w', said, files, line⟩ := ih { w with printed := w.printed ++ text ++ "\n" }
      exact ⟨w', said, files, line⟩

theorem not_isResolved {h : Handle} (pending : h.outcome = none) : ¬ h.isResolved = true := by
  simp [Handle.isResolved, pending]

/-- A poll that went wrong ends the command, unless it has ended the job. -/
theorem run_requireChecked (answer : Outcome Poll) (h : Handle) (w : World σ τ) :
    ((requireChecked answer h).run w = (.ok (), w) ∧
      ∀ fault, answer = .error fault → h.isResolved = true) ∨
    ∃ fault halt, answer = .error fault ∧ h.outcome = none ∧
      (requireChecked answer h).run w = (.error halt, w) := by
  unfold requireChecked
  cases answer with
  | ok _ =>
      refine .inl ⟨rfl, ?_⟩
      intro fault never
      cases never
  | error fault =>
      cases outcome : h.outcome with
      | some o =>
          have resolved : h.isResolved = true := by simp [Handle.isResolved, outcome]
          simp only [if_pos resolved]
          exact .inl ⟨rfl, fun _ _ => resolved⟩
      | none =>
          simp only [if_neg (not_isResolved outcome)]
          exact .inr ⟨fault, _, rfl, trivial, rfl⟩

/-! ## A command left alone -/

/-- Left alone from a state on, a client's command takes steps after which the files are the given
ones and every hand is as it was. -/
def Solo (p : Path) (s : State) (client : Nat) (files : Tree) : Prop :=
  ∃ past s', Run (Moves p) s past s' ∧ (∀ e ∈ past, e.1.client? = some client) ∧
    s'.files = files ∧ s'.hands = s.hands

variable {p : Path} {s : State} {client : Nat} {h g : Handle} {errand : Errand}

/-- A command that finds an outcome in the file only loads it. -/
theorem solo_told (errand : Errand) (free : s.hands client = .idle)
    (loaded : Handle.load s.files p = .ok h) (settled : h.isResolved = true) :
    Solo p s client s.files := by
  obtain ⟨o, outcome⟩ := Option.isSome_iff_exists.1 settled
  refine ⟨_, s, .step .start (@Moves.tells p s client errand h o free loaded outcome), ?_, rfl, rfl⟩
  intro e here
  obtain rfl := List.mem_singleton.1 here
  rfl

/-- What the hands are after a client has taken things and put everything away. -/
theorem hands_after (free : s.hands client = .idle) {x : State}
    (others : ∀ c, c ≠ client → x.hands c = s.hands c) (own : x.hands client = .idle) :
    x.hands = s.hands := by
  funext c
  by_cases same : c = client
  · rw [same, own, free]
  · exact others c same

/-- A command that gets no further than loading, or whose asking ends it, writes nothing. -/
theorem solo_idle (errand : Errand) (free : s.hands client = .idle)
    (loaded : Handle.load s.files p = .ok h) (pending : h.outcome = none) {last : Event}
    (own : last.client? = some client)
    (ends : Moves p (s.give client (.holding errand h)) last none
      ((s.give client (.holding errand h)).give client .idle)) : Solo p s client s.files := by
  have first : Moves p s (.load client errand) (some h) (s.give client (.holding errand h)) :=
    .loads free loaded pending
  refine ⟨_, _, (Run.start.step first).step ends, ?_, rfl, ?_⟩
  · intro e here
    simp only [List.mem_cons, List.not_mem_nil, or_false] at here
    rcases here with rfl | rfl
    · exact own
    · rfl
  · refine hands_after free ?_ (State.give_self _ client .idle)
    intro c other
    rw [State.give_other _ other, State.give_other _ other]

/-- A step that puts everything away after loading and asking ends the command. -/
theorem solo_ended (free : s.hands client = .idle) {loaded asked : Hand}
    (run : Run (Moves p) s [(.ask client, none), (.load client errand, some h)]
      ((s.give client loaded).give client asked))
    {last : Event} {reply : Option Handle} {after : State} (own : last.client? = some client)
    (ends : Moves p ((s.give client loaded).give client asked) last reply after)
    (away : after.hands = (((s.give client loaded).give client asked).give client .idle).hands) :
    Solo p s client after.files := by
  refine ⟨_, after, run.step ends, ?_, rfl, ?_⟩
  · intro e here
    simp only [List.mem_cons, List.not_mem_nil, or_false] at here
    rcases here with rfl | rfl | rfl
    · exact own
    · rfl
    · rfl
  · rw [away]
    refine hands_after free ?_ (State.give_self _ client .idle)
    intro c other
    rw [State.give_other _ other, State.give_other _ other, State.give_other _ other]

/-- A command that has asked saves what it then holds, or cannot. -/
theorem solo_saved (free : s.hands client = .idle) (loaded : Handle.load s.files p = .ok h)
    (pending : h.outcome = none) (asked : errand.Asks h (.saving g)) {w : World σ τ}
    (shared : w.files = s.files) : Solo p s client ((saveHandle p g).run w).2.files := by
  have first : Moves p s (.load client errand) (some h) (s.give client (.holding errand h)) :=
    .loads free loaded pending
  have second : Moves p (s.give client (.holding errand h)) (.ask client) none
      ((s.give client (.holding errand h)).give client (.saving g)) :=
    .asks (State.give_self s client _) asked
  have ready : ((s.give client (.holding errand h)).give client (.saving g)).hands client
      = .saving g := State.give_self _ client _
  have run := (Run.start.step first).step second
  cases saved : g.save s.files p with
  | error fault =>
      have files : ((saveHandle p g).run w).2.files = s.files := by
        simp [saveHandle, Action.run_bind, shared, saved, inContext, Except.mapError]
      rw [files]
      have solo := solo_ended free run rfl (.cannotSave ready saved) rfl
      exact solo
  | ok after =>
      have files : ((saveHandle p g).run w).2.files = after := by
        simp [saveHandle, Action.run_bind, shared, saved, inContext, Except.mapError]
      rw [files]
      have solo := solo_ended free run rfl (.saves ready saved) rfl
      exact solo

/-! ## The commands -/

theorem run_tellNext (answer : Outcome Poll) (w : World σ τ) :
    ∃ w', (tellNext answer : Action σ τ Unit).run w = (.ok (), w') ∧ w'.files = w.files := by
  unfold tellNext
  split
  · exact ⟨_, Action.run_say _ w, rfl⟩
  · exact ⟨w, rfl, rfl⟩

variable {site} {handle : String} {sources : Sources} {w w₁ : World σ τ}

/-- What `reconnect` comes to leaves the files, and a command that it ends writes nothing. -/
theorem solo_reconnect (errand : Errand) (shared : s.files = w₁.files)
    (free : s.hands client = .idle) (loaded : Handle.load s.files p = .ok h)
    (pending : h.outcome = none) {next : Unit → Action σ τ Unit}
    (goesOn : ∀ w₂ : World σ τ, w₂.files = s.files → Solo p s client ((next ()).run w₂).2.files) :
    Solo p s client ((reconnect site h sources >>= next).run w₁).2.files := by
  have kept := keeps_reconnect site h sources w₁
  rcases reconnected : (reconnect site h sources).run w₁ with ⟨halt | _, w₂⟩
  · rw [reconnected] at kept
    rw [Action.run_bind_error reconnected]
    have same : w₂.files = s.files := kept.trans shared.symm
    rw [same]
    exact solo_idle errand free loaded pending rfl .quits
  · rw [reconnected] at kept
    rw [Action.run_bind_ok reconnected]
    exact goesOn w₂ (kept.trans shared.symm)

theorem solo_status (opened : (openHandle site handle).run w = (.ok (p, h), w₁))
    (shared : s.files = w₁.files) (free : s.hands client = .idle) :
    Solo p s client ((status site handle sources).run w).2.files := by
  have loaded := load_of_openHandle site opened
  rw [← shared] at loaded
  unfold status
  rw [Action.run_bind_ok opened]
  simp only
  by_cases settled : h.isResolved = true
  · rw [if_pos settled, Action.keeps_sayAll _ w₁, ← shared]
    exact solo_told .status free loaded settled
  · rw [if_neg settled]
    have pending : h.outcome = none := by simpa [Handle.isResolved] using settled
    refine solo_reconnect .status shared free loaded pending ?_
    intro w₂ same
    rw [Action.run_bind_ok (Action.run_talk site _ w₂)]
    rcases polled : (site.backend.poll h).run site.network site.time w₂.line with ⟨⟨answer, g⟩, line⟩
    simp only
    obtain ⟨w₃, told, quiet⟩ := run_tellNext answer { w₂ with line }
    rw [Action.run_bind_ok told]
    have still : w₃.files = s.files := quiet.trans same
    -- A check that could not be made ends the command, every other one is saved.
    rcases run_requireChecked answer g w₃ with
      ⟨checked, sound⟩ | ⟨fault, halt, rfl, unresolved, checked⟩
    · rw [Action.run_bind_ok checked, Action.files_bind fun _ => Action.keeps_sayAll _]
      exact solo_saved free loaded pending (.status polled sound) still
    · rw [Action.run_bind_error checked, still]
      have failed : g.isResolved = false := by simp [Handle.isResolved, unresolved]
      have ends : Moves p (s.give client (.holding .status h)) (.ask client) none
          ((s.give client (.holding .status h)).give client .idle) :=
        .asks (State.give_self s client _) (.statusFails polled failed)
      exact solo_idle .status free loaded pending rfl ends

theorem solo_result (format : String) (opened : (openHandle site handle).run w = (.ok (p, h), w₁))
    (shared : s.files = w₁.files) (free : s.hands client = .idle) :
    Solo p s client ((result site handle format sources).run w).2.files := by
  have loaded := load_of_openHandle site opened
  rw [← shared] at loaded
  unfold result
  rw [Action.run_bind_ok opened]
  simp only
  by_cases settled : h.isResolved = true
  · rw [if_pos settled, Action.keeps_sayAll _ w₁, ← shared]
    exact solo_told .result free loaded settled
  · rw [if_neg settled]
    have pending : h.outcome = none := by simpa [Handle.isResolved] using settled
    refine solo_reconnect .result shared free loaded pending ?_
    intro w₂ same
    rw [Action.run_bind_ok (Action.run_talk site _ w₂)]
    rcases polled : (site.backend.poll h).run site.network site.time w₂.line with ⟨⟨answer, g⟩, line⟩
    simp only
    rw [Action.files_bind fun _ => (keeps_requireEnded _ _ _).bind fun _ =>
      (keeps_requireChecked _ _).bind fun _ => Action.keeps_sayAll _]
    exact solo_saved free loaded pending (.result polled) same

/-- A wait with a deadline comes to the handle that it has found. -/
theorem run_await_some (seconds : Nat) (h : Handle) (w : World σ τ) :
    (await site (some seconds) h).run w
      = let (answer, wait) :=
          Wait.runUntil site.backend site.network site.time (.ofSeconds seconds) h w.line
        (.ok (answer, wait.handle),
          { w with line := wait.line, rested := w.rested + wait.elapsed }) := rfl

/-- A wait without a deadline comes to its handle too, unless it is broken off. -/
theorem run_await_none (h : Handle) (w : World σ τ) :
    (await site none h).run w
      = let (answer, wait) := Wait.run site.backend site.network site.time site.patience h w.line
        (if answer.isNone then .error .interrupted else .ok (answer, wait.handle),
          { w with line := wait.line, rested := w.rested + wait.elapsed }) := by
  have got : (get : Action σ τ (World σ τ)).run w = (.ok w, w) := rfl
  have put : ∀ w' : World σ τ, (set w' : Action σ τ Unit).run w = (.ok (), w') := fun _ => rfl
  unfold await
  rw [Action.run_bind_ok got]
  rcases Wait.run site.backend site.network site.time site.patience h w.line with ⟨_ | answer, wait⟩
  · exact Action.run_bind_ok (put _)
  · exact Action.run_bind_ok (put _)

/-- A wait that ends leaves a handle to be saved; one that is broken off from outside leaves the
files. -/
theorem run_await (timeout : Option Nat) (h : Handle) (w : World σ τ) :
    ∃ w', w'.files = w.files ∧
      ((∃ halt, (await site timeout h).run w = (.error halt, w')) ∨
        ∃ answer g, (await site timeout h).run w = (.ok (answer, g), w') ∧
          (Errand.wait timeout).Asks h (.saving g)) := by
  cases timeout with
  | some seconds =>
      refine ⟨_, ?_, .inr ⟨_, _, rfl, .waitUntil rfl⟩⟩
      rfl
  | none =>
      rw [run_await_none]
      rcases waited : Wait.run site.backend site.network site.time site.patience h w.line with
        ⟨answer, wait⟩
      refine ⟨{ w with line := wait.line, rested := w.rested + wait.elapsed }, rfl, ?_⟩
      cases answer with
      | none => exact .inl ⟨.interrupted, rfl⟩
      | some answer => exact .inr ⟨some answer, wait.handle, rfl, .wait waited⟩

theorem solo_wait (timeout : Option Nat) (opened : (openHandle site handle).run w = (.ok (p, h), w₁))
    (shared : s.files = w₁.files) (free : s.hands client = .idle) :
    Solo p s client ((wait site handle timeout sources).run w).2.files := by
  have loaded := load_of_openHandle site opened
  rw [← shared] at loaded
  unfold wait
  rw [Action.run_bind_ok opened]
  simp only
  cases outcome : h.outcome with
  | some o =>
      have settled : h.isResolved = true := by simp [Handle.isResolved, outcome]
      simp only
      rw [keeps_tellResults _ _ w₁, ← shared]
      exact solo_told (.wait timeout) free loaded settled
  | none =>
      simp only
      refine solo_reconnect (.wait timeout) shared free loaded outcome ?_
      intro w₂ same
      rw [Action.run_bind_ok (Action.run_say _ w₂)]
      obtain ⟨w₃, kept, ⟨halt, broken⟩ | ⟨answer, g, waited, asked⟩⟩ :=
        @run_await σ τ site timeout h { w₂ with
          printed := w₂.printed ++ (arrow ++ " Waiting for job " ++ h.job ++ limitText timeout)
            ++ "\n" }
      · rw [Action.run_bind_error broken]
        have still : w₃.files = s.files := kept.trans same
        rw [still]
        exact solo_idle (.wait timeout) free loaded outcome rfl .quits
      · rw [Action.run_bind_ok waited]
        simp only
        rw [Action.files_bind fun _ => ?_]
        · exact solo_saved free loaded outcome asked (kept.trans same)
        · cases answer with
          | some answer => exact keeps_tellResults _ _
          | none => exact Action.keeps_fail _

/-- The command that runs an errand. -/
def command (handle format : String) (sources : Sources) : Errand → Command
  | .status => .status handle sources
  | .result => .result handle format sources
  | .wait timeout => .wait handle timeout sources

/-- A command that opens the file of a handle and is left alone does to it what the steps of one
client do that loads the file, asks and saves. -/
theorem solo_command (errand : Errand) (format : String)
    (opened : (openHandle site handle).run w = (.ok (p, h), w₁)) (shared : s.files = w₁.files)
    (free : s.hands client = .idle) :
    Solo p s client (((command handle format sources errand).run site).run w).2.files := by
  cases errand with
  | status => exact solo_status opened shared free
  | result => exact solo_result format opened shared free
  | wait timeout => exact solo_wait timeout opened shared free

end CommandLine
end QuantumJobs
