import QuantumJobs.Proofs.Run
import QuantumJobs.Proofs.StoredHandles

/-!
# SharedFile — several commands on one handle file

A command loads a handle file, asks the backend, and saves what it then holds.  Other commands may
load and save the same file in between, and nothing tells a command that they did: no file is locked
and none is read again before it is written.  What holds is that a command writes only what it has
loaded while the file held no outcome.  So an outcome in the file is replaced by no command that
comes after it, but it may be by one that was under way.
-/

namespace QuantumJobs
namespace SharedFile

open Files (Path Tree)

/-! ## Commands in steps -/

/-- The commands that load a handle file and may save it. -/
inductive Errand
  | status
  | result
  /-- A wait, at most for the given number of seconds. -/
  | wait (timeout : Option Nat)
  deriving DecidableEq

/-- What a client has in hand between two steps. -/
inductive Hand
  | idle
  /-- A handle that was loaded without an outcome; the backend is to be asked. -/
  | holding (errand : Errand) (h : Handle)
  /-- A handle that is to be saved. -/
  | saving (h : Handle)

/-- What asking the backend makes of a handle in hand, with any backend and any network. -/
inductive Errand.Asks : Errand → Handle → Hand → Prop where
  /-- A poll that ended the job or found it unfinished. -/
  | status {σ τ : Type} {b : Backend σ} {net : Network τ} {now : Instant} {line line' : Line σ τ}
      {h h' : Handle} {answer : Outcome Poll} :
      (b.poll h).run net now line = ((answer, h'), line') →
        (∀ fault, answer = .error fault → h'.isResolved = true) →
          Asks .status h (.saving h')
  /-- A poll that could not be made ends the command. -/
  | statusFails {σ τ : Type} {b : Backend σ} {net : Network τ} {now : Instant}
      {line line' : Line σ τ} {h h' : Handle} {fault : Fault} :
      (b.poll h).run net now line = ((.error fault, h'), line') → h'.isResolved = false →
        Asks .status h .idle
  /-- The result command saves whatever a poll has left. -/
  | result {σ τ : Type} {b : Backend σ} {net : Network τ} {now : Instant} {line line' : Line σ τ}
      {h h' : Handle} {answer : Outcome Poll} :
      (b.poll h).run net now line = ((answer, h'), line') → Asks .result h (.saving h')
  | wait {σ τ : Type} {b : Backend σ} {net : Network τ} {now : Instant} {line : Line σ τ}
      {rounds : Nat} {h : Handle} {answer : Outcome SampleResult} {w : Wait σ τ} :
      Wait.run b net now rounds h line = (some answer, w) →
        Asks (.wait none) h (.saving w.handle)
  | waitUntil {σ τ : Type} {b : Backend σ} {net : Network τ} {now : Instant} {line : Line σ τ}
      {seconds : Nat} {h : Handle} {answer : Option (Outcome SampleResult)} {w : Wait σ τ} :
      Wait.runUntil b net now (.ofSeconds seconds) h line = (answer, w) →
        Asks (.wait (some seconds)) h (.saving w.handle)

/-- The files, and what every client has in hand. -/
structure State where
  files : Tree
  hands : Nat → Hand

/-- A client's hand is changed. -/
def State.give (s : State) (client : Nat) (hand : Hand) : State :=
  { s with hands := fun c => if c = client then hand else s.hands c }

inductive Event
  | load (client : Nat) (errand : Errand)
  | ask (client : Nat)
  | save (client : Nat)
  /-- A command ends early. -/
  | quit (client : Nat)
  /-- Other files are changed. -/
  | elsewhere

def Event.client? : Event → Option Nat
  | .load client _ => some client
  | .ask client => some client
  | .save client => some client
  | .quit client => some client
  | .elsewhere => none

/-- One step of a client on the file at a path.  The reply to a load is what was loaded, the reply
to a save what was saved. -/
inductive Moves (p : Path) (s : State) : Event → Option Handle → State → Prop where
  | loads {client : Nat} {errand : Errand} {h : Handle} :
      s.hands client = .idle → Handle.load s.files p = .ok h → h.outcome = none →
        Moves p s (.load client errand) (some h) (s.give client (.holding errand h))
  /-- A job that has ended is told, and the command is over. -/
  | tells {client : Nat} {errand : Errand} {h : Handle} {o : JobOutcome} :
      s.hands client = .idle → Handle.load s.files p = .ok h → h.outcome = some o →
        Moves p s (.load client errand) (some h) s
  | cannotLoad {client : Nat} {errand : Errand} {fault : Fault} :
      s.hands client = .idle → Handle.load s.files p = .error fault →
        Moves p s (.load client errand) none s
  | asks {client : Nat} {errand : Errand} {h : Handle} {hand : Hand} :
      s.hands client = .holding errand h → errand.Asks h hand →
        Moves p s (.ask client) none (s.give client hand)
  | saves {client : Nat} {h : Handle} {files : Tree} :
      s.hands client = .saving h → h.save s.files p = .ok files →
        Moves p s (.save client) (some h) { s.give client .idle with files }
  | cannotSave {client : Nat} {h : Handle} {fault : Fault} :
      s.hands client = .saving h → h.save s.files p = .error fault →
        Moves p s (.save client) none (s.give client .idle)
  | quits {client : Nat} : Moves p s (.quit client) none (s.give client .idle)
  | elsewhere {files : Tree} : files.read p = s.files.read p →
      Moves p s .elsewhere none { s with files }

/-! ## Commands under way -/

/-- Since the start of a past, a client has done nothing but ask. -/
def OnlyAsked (client : Nat) (past : Past Event Handle) : Prop :=
  ∀ e ∈ past, e.1.client? = some client → e.1 = .ask client

/-- By the end of a past, a client's command is under way: it has loaded a handle without an outcome
and has done nothing since but ask. -/
inductive UnderWay (client : Nat) : Past Event Handle → Prop where
  | loaded {errand : Errand} {h : Handle} {before : Past Event Handle} :
      h.outcome = none → UnderWay client ((.load client errand, some h) :: before)
  | later {e : Event} {reply : Option Handle} {before : Past Event Handle} :
      UnderWay client before → (e.client? = some client → e = .ask client) →
        UnderWay client ((e, reply) :: before)

/-! ## What one step does -/

variable {p : Path} {s s' : State} {e : Event} {reply : Option Handle}

theorem State.give_self (s : State) (client : Nat) (hand : Hand) :
    (s.give client hand).hands client = hand := if_pos rfl

theorem State.give_other (s : State) {client other : Nat} (differ : other ≠ client) (hand : Hand) :
    (s.give client hand).hands other = s.hands other := if_neg differ

/-- Whoever has something in hand after another client has moved had it before. -/
theorem State.busy_before {client mover : Nat} {hand : Hand} (differ : client ≠ mover)
    (busy : (s.give mover hand).hands client ≠ .idle) : s.hands client ≠ .idle := by
  rw [State.give_other s differ] at busy
  exact busy

/-- Whoever has something in hand is not the client that has put everything away. -/
theorem State.not_away {client mover : Nat} (busy : (s.give mover .idle).hands client ≠ .idle) :
    client ≠ mover := by
  rintro rfl
  exact busy (State.give_self s client .idle)

/-- A client that has something in hand has it from before, or has just loaded it from a file
without an outcome. -/
theorem Moves.inHand (move : Moves p s e reply s') (client : Nat)
    (busy : s'.hands client ≠ .idle) :
    (s.hands client ≠ .idle ∧ (e.client? = some client → e = .ask client)) ∨
      ∃ errand h, e = .load client errand ∧ reply = some h ∧ h.outcome = none ∧
        Handle.load s.files p = .ok h := by
  have noOther : ∀ {mover : Nat} {P : Prop}, client ≠ mover → some mover = some client → P := by
    intro mover P differ same
    exact absurd (Option.some.inj same).symm differ
  -- Whose step it was decides: the client's own leaves it something only by a load or by asking.
  cases move with
  | @loads mover errand h idle loaded pending =>
      by_cases own : client = mover
      · subst own
        exact .inr ⟨errand, h, rfl, rfl, pending, loaded⟩
      · exact .inl ⟨State.busy_before own busy, noOther own⟩
  | @asks mover errand h hand holds asked =>
      by_cases own : client = mover
      · subst own
        refine .inl ⟨?_, fun _ => rfl⟩
        rw [holds]
        exact Hand.noConfusion
      · exact .inl ⟨State.busy_before own busy, noOther own⟩
  | @tells mover errand h o idle loaded settled =>
      have differ : client ≠ mover := by
        rintro rfl
        exact busy idle
      exact .inl ⟨busy, noOther differ⟩
  | @cannotLoad mover errand fault idle failed =>
      have differ : client ≠ mover := by
        rintro rfl
        exact busy idle
      exact .inl ⟨busy, noOther differ⟩
  | @saves mover h files ready saved =>
      have differ : client ≠ mover := State.not_away busy
      exact .inl ⟨State.busy_before differ busy, noOther differ⟩
  | @cannotSave mover h fault ready failed =>
      have differ : client ≠ mover := State.not_away busy
      exact .inl ⟨State.busy_before differ busy, noOther differ⟩
  | @quits mover =>
      have differ : client ≠ mover := State.not_away busy
      exact .inl ⟨State.busy_before differ busy, noOther differ⟩
  | elsewhere _ => exact .inl ⟨busy, fun never => by cases never⟩

/-- Only a save changes the file, and only of what a client has in hand. -/
theorem Moves.file (move : Moves p s e reply s') :
    s'.files.read p = s.files.read p ∨
      ∃ client h, e = .save client ∧ reply = some h ∧ s.hands client = .saving h := by
  cases move with
  | saves ready _ => exact .inr ⟨_, _, rfl, rfl, ready⟩
  | elsewhere same => exact .inl same
  | _ => exact .inl rfl

theorem load_congr {t t' : Tree} (same : t'.read p = t.read p) :
    Handle.load t' p = Handle.load t p := by
  unfold Handle.load
  rw [same]

/-! ## What a whole run does -/

variable {start : State} {past late : Past Event Handle}

/-- Whoever has something in hand is under way. -/
def AllUnderWay (past : Past Event Handle) (s : State) : Prop :=
  ∀ client, s.hands client ≠ .idle → UnderWay client past

theorem AllUnderWay.step (all : AllUnderWay past s) (move : Moves p s e reply s') :
    AllUnderWay ((e, reply) :: past) s' := by
  intro client busy
  rcases move.inHand client busy with ⟨before, own⟩ | ⟨errand, h, rfl, rfl, pending, _⟩
  · exact .later (all client before) own
  · exact .loaded pending

theorem allUnderWay_of_run (free : ∀ client, start.hands client = .idle)
    (run : Run (Moves p) start past s) : AllUnderWay past s := by
  have atStart : AllUnderWay [] start := by
    intro client busy
    exact absurd (free client) busy
  apply run.invariant atStart
  intro past s e reply s' all move
  exact all.step move

/-- Since a state the file has not changed, and whoever has something in hand had it then and has
done nothing but ask. -/
structure Untouched (p : Path) (s : State) (late : Past Event Handle) (s' : State) : Prop where
  file : s'.files.read p = s.files.read p
  hands : ∀ client, s'.hands client ≠ .idle → s.hands client ≠ .idle ∧ OnlyAsked client late

/-- Since a state a client that had something in hand then has saved, and had done nothing before
that but ask. -/
def Overwritten (s : State) (late : Past Event Handle) : Prop :=
  ∃ client h later earlier, late = later ++ (.save client, some h) :: earlier ∧
    s.hands client ≠ .idle ∧ OnlyAsked client earlier

/-- As long as the file holds an outcome no further client takes anything in hand, so the first save
is one of a client that had something in hand before. -/
theorem Untouched.step {x x' : State} {h : Handle} (loaded : Handle.load s.files p = .ok h)
    (settled : h.isResolved = true) (untouched : Untouched p s late x)
    (move : Moves p x e reply x') :
    Untouched p s ((e, reply) :: late) x' ∨ Overwritten s ((e, reply) :: late) := by
  rcases move.file with unchanged | ⟨client, g, rfl, rfl, ready⟩
  · refine .inl ⟨unchanged.trans untouched.file, ?_⟩
    intro client busy
    rcases move.inHand client busy with ⟨before, own⟩ | ⟨_, g, _, _, pending, again⟩
    · obtain ⟨early, asked⟩ := untouched.hands client before
      refine ⟨early, ?_⟩
      intro d here
      rcases List.mem_cons.1 here with rfl | here
      · exact own
      · exact asked d here
    · -- What the file holds has an outcome.
      rw [load_congr untouched.file, loaded] at again
      cases again
      unfold Handle.isResolved at settled
      rw [pending] at settled
      cases settled
  · have before : x.hands client ≠ .idle := by
      rw [ready]
      exact Hand.noConfusion
    obtain ⟨early, asked⟩ := untouched.hands client before
    exact .inr ⟨client, g, [], late, rfl, early, asked⟩

theorem untouched_or_overwritten {h : Handle} (loaded : Handle.load s.files p = .ok h)
    (settled : h.isResolved = true) (run : Run (Moves p) s late s') :
    Untouched p s late s' ∨ Overwritten s late := by
  have atStart : Untouched p s [] s ∨ Overwritten s [] := by
    refine .inl ⟨rfl, ?_⟩
    intro client busy
    exact ⟨busy, fun _ here => by cases here⟩
  apply run.invariant atStart
  intro late x e reply x' holds move
  rcases holds with untouched | ⟨client, g, later, earlier, rfl, busy, asked⟩
  · exact untouched.step loaded settled move
  · exact .inr ⟨client, g, (e, reply) :: later, earlier, rfl, busy, asked⟩

/-- Once the file holds an outcome, what it holds stays, whatever any number of clients do, until a
client saves that was under way by then: its command has loaded the file while there was no outcome
in it, and has done nothing since but ask its backend.  So a command that loads the file after that
moment does not change it, and if no command was under way nothing does. -/
theorem outcome_stays_until_saved_over (free : ∀ client, start.hands client = .idle)
    (before : Run (Moves p) start past s) {h : Handle} (loaded : Handle.load s.files p = .ok h)
    (settled : h.isResolved = true) (after : Run (Moves p) s late s') :
    Handle.load s'.files p = .ok h ∨
      ∃ client g later earlier, late = later ++ (.save client, some g) :: earlier ∧
        UnderWay client past ∧ OnlyAsked client earlier := by
  rcases untouched_or_overwritten loaded settled after with
    untouched | ⟨client, g, later, earlier, split, busy, asked⟩
  · exact .inl ((load_congr untouched.file).trans loaded)
  · have underWay := allUnderWay_of_run free before client busy
    exact .inr ⟨client, g, later, earlier, split, underWay, asked⟩

/-! ## Two status checks at once -/

open Fermioniq (Session acceptedJob loggedIn)

/-- A network that answers every request with the same message. -/
def saying (m : Json) : Network Unit := ⟨fun _ wire => (.ok m, wire)⟩

def running : Json := .obj [("status", .str "running")]

/-- A status and the results in one message. -/
def finished : Json :=
  .obj [("emulator_output", .arr [.obj [("output", .obj [("samples", .obj [("00", .int 7)])])]]),
    ("status", .str "finished"), ("status_code", .int 0)]

/-- The accepted job once it is done. -/
def doneJob : Handle :=
  { acceptedJob with outcome := some (.done ⟨[⟨"bell", Dict.ofList [("00", 7)]⟩]⟩) }

theorem asks_running : Errand.Asks .status acceptedJob (.saving acceptedJob) := by
  have polled : ((Fermioniq.backend.poll acceptedJob).run (saying running) ⟨0, 0, 0⟩
      ⟨loggedIn, (), []⟩).1 = (.ok (.pending Fermioniq.pollingInterval), acceptedJob) := by
    rfl
  exact .status (Prod.ext polled rfl) fun fault same => by cases same

theorem asks_finished : Errand.Asks .status acceptedJob (.saving doneJob) := by
  have polled : ((Fermioniq.backend.poll acceptedJob).run (saying finished) ⟨0, 0, 0⟩
      ⟨loggedIn, (), []⟩).1 = (.ok (.done ⟨[⟨"bell", Dict.ofList [("00", 7)]⟩]⟩), doneJob) := by
    rfl
  exact .status (Prod.ext polled rfl) fun fault same => by cases same

/-- A directory with nothing but the file of a handle. -/
def folder (h : Handle) : Tree := ⟨Dict.ofList [("/job.json", .file (.text h.toText))], []⟩

/-- A directory with nothing but one file. -/
def folderWith (b : Blob) : Tree := ⟨Dict.ofList [("/job.json", .file b)], []⟩

/-- A handle that is saved in a directory with one file replaces what the file held. -/
theorem save_folderWith (b : Blob) (g : Handle) :
    g.save (folderWith b) "job.json" = .ok (folder g) := by
  have parents : (folderWith b).makeParents "job.json" = .ok (folderWith b) := by rfl
  have located : (folderWith b).locate "job.json" = .ok (.named [] "job.json") := by rfl
  have found : (folderWith b).lookUp [] "job.json" = .ok (some (.file b)) := by rfl
  have text : Files.Location.text ["job.json"] = "/job.json" := by rfl
  have put : (folderWith b).put ["job.json"] (.file (.text g.toText)) = folder g := by
    simp [Tree.put, folder, folderWith, text, Dict.ofList, Dict.insertMany, Dict.insert,
      Dict.empty, Entries.insert]
  have noSlash : Path.endsInSlash "job.json" = false := by rfl
  simp [Handle.save, Tree.save, Tree.write, parents, located, found, put, noSlash, Bind.bind,
    Except.bind, Except.mapError]

theorem load_folderWith (b : Blob) : Handle.load (folderWith b) "job.json" = Handle.ofBlob b := by
  rfl

theorem save_folder (h g : Handle) : g.save (folder h) "job.json" = .ok (folder g) :=
  save_folderWith (.text h.toText) g

theorem load_folder {h : Handle} (fits : h.Fits) (keeps : h.kept? = none) :
    Handle.load (folder h) "job.json" = .ok h.restored :=
  Handle.load_of_keepsNone fits keeps (save_folder h h)

theorem fits_acceptedJob : acceptedJob.Fits where
  submittedAt := by
    show (⟨0, 0, 0⟩ : Instant).Valid
    decide
  outcome := by
    intro o settled
    cases settled

theorem fits_doneJob : doneJob.Fits where
  submittedAt := fits_acceptedJob.submittedAt
  outcome := by
    intro o settled
    cases settled
    intro e here
    obtain rfl := List.mem_singleton.1 here
    intro c count
    have only : c = ("00", 7) := by simpa [Dict.ofList, Dict.insertMany, Dict.insert, Dict.empty,
      Entries.insert] using count
    rw [only]
    decide

theorem load_acceptedJob : Handle.load (folder acceptedJob) "job.json" = .ok acceptedJob :=
  load_folder fits_acceptedJob rfl

theorem load_doneJob : Handle.load (folder doneJob) "job.json" = .ok doneJob :=
  load_folder fits_doneJob rfl

/-- Nobody is doing anything, and the file holds the accepted job. -/
def opened : State := ⟨folder acceptedJob, fun _ => .idle⟩

/-- Two clients have loaded the file. -/
def bothHolding : State :=
  (opened.give 0 (.holding .status acceptedJob)).give 1 (.holding .status acceptedJob)

/-- Both have asked, and the second, which has found the job done, has saved it. -/
def savedOnce : State :=
  { ((bothHolding.give 0 (.saving acceptedJob)).give 1 (.saving doneJob)).give 1 .idle with
    files := folder doneJob }

/-- The first client, which has found the job unfinished, has saved it after that. -/
def savedTwice : State := { savedOnce.give 0 .idle with files := folder acceptedJob }

/-- What has happened until the second client has saved. -/
def firstSave : Past Event Handle :=
  [(.save 1, some doneJob), (.ask 1, none), (.ask 0, none), (.load 1 .status, some acceptedJob),
    (.load 0 .status, some acceptedJob)]

theorem run_bothHolding :
    Run (Moves "job.json") opened
      [(.load 1 .status, some acceptedJob), (.load 0 .status, some acceptedJob)] bothHolding := by
  have first : Moves "job.json" opened (.load 0 .status) (some acceptedJob)
      (opened.give 0 (.holding .status acceptedJob)) :=
    .loads rfl load_acceptedJob rfl
  have second : Moves "job.json" (opened.give 0 (.holding .status acceptedJob)) (.load 1 .status)
      (some acceptedJob) bothHolding :=
    .loads rfl load_acceptedJob rfl
  exact (Run.start.step first).step second

theorem run_firstSave : Run (Moves "job.json") opened firstSave savedOnce := by
  have third := @Moves.asks "job.json" bothHolding 0 _ _ _ rfl asks_running
  have fourth := @Moves.asks "job.json" (bothHolding.give 0 (.saving acceptedJob)) 1 _ _ _ rfl
    asks_finished
  have fifth : Moves "job.json" _ (.save 1) (some doneJob) savedOnce :=
    .saves rfl (save_folder acceptedJob doneJob)
  exact ((run_bothHolding.step third).step fourth).step fifth

theorem load_savedOnce : Handle.load savedOnce.files "job.json" = .ok doneJob := load_doneJob

theorem run_secondSave :
    Run (Moves "job.json") savedOnce [(.save 0, some acceptedJob)] savedTwice :=
  .step .start (.saves rfl (save_folder doneJob acceptedJob))

/-- The file is saved over by a client that was under way. -/
theorem savedTwice_saved_over :
    (∀ client, opened.hands client = .idle) ∧ Run (Moves "job.json") opened firstSave savedOnce ∧
      Handle.load savedOnce.files "job.json" = .ok doneJob ∧ doneJob.isResolved = true ∧
      Run (Moves "job.json") savedOnce [(.save 0, some acceptedJob)] savedTwice ∧
      (Handle.load savedTwice.files "job.json" = .ok doneJob ∨
        ∃ client g later earlier,
          [(.save 0, some acceptedJob)] = later ++ (.save client, some g) :: earlier ∧
            UnderWay client firstSave ∧ OnlyAsked client earlier) :=
  ⟨fun _ => rfl, run_firstSave, load_savedOnce, rfl, run_secondSave,
    outcome_stays_until_saved_over (fun _ => rfl) run_firstSave load_savedOnce rfl run_secondSave⟩

/-- The file holds an outcome, and a later step of a client replaces it with a record that has
none. -/
theorem outcome_lost :
    ∃ past late s s', Run (Moves "job.json") opened past s ∧
      (∃ h, Handle.load s.files "job.json" = .ok h ∧ h.isResolved = true) ∧
      Run (Moves "job.json") s late s' ∧
      ∃ h, Handle.load s'.files "job.json" = .ok h ∧ h.outcome = none :=
  ⟨_, _, savedOnce, savedTwice, run_firstSave, ⟨doneJob, load_savedOnce, rfl⟩, run_secondSave,
    acceptedJob, load_acceptedJob, rfl⟩

end SharedFile
end QuantumJobs
