import QuantumJobs.Network.Script
import QuantumJobs.Proofs.Run

/-!
# PreparedAnswers — which answer a request is given

Answers are queued by route and handed out one after another, and the last one again and again.  The
turn passes on with a request, and only if another answer stands behind by then.  So what is queued
after all answers have been handed out comes one request late: the request that follows is given the
answer of the one before it once more.  An answer that is the last of its queue is told anew, and
then only the faults of the transport and of authentication stay what they are.
-/

namespace QuantumJobs

/-! ## Queues -/

namespace Queues

variable {α : Type} {q q' : Queues α} {route r : Route}

theorem lookup_filter_ne {routes : List (Route × List α)} (other : r ≠ route) :
    (routes.filter (·.1 ≠ route)).lookup r = routes.lookup r := by
  induction routes with
  | nil => rfl
  | cons entry routes ih =>
      by_cases dropped : entry.1 = route
      · have skipped : (r == entry.1) = false := beq_false_of_ne (dropped ▸ other)
        rw [List.filter_cons_of_neg (by simp [dropped]), ih, List.lookup_cons, skipped]
      · rw [List.filter_cons_of_pos (by simp [dropped]), List.lookup_cons, List.lookup_cons, ih]

@[simp]
theorem queue_setQueue_self (answers : List α) :
    (q.setQueue route answers).queue route = answers := by
  simp [setQueue, queue]

theorem queue_setQueue_of_ne (answers : List α) (other : r ≠ route) :
    (q.setQueue route answers).queue r = q.queue r := by
  unfold setQueue queue
  rw [List.lookup_cons, beq_false_of_ne other, lookup_filter_ne other]

theorem queue_on_self (a : α) : (q.on route a).queue route = q.queue route ++ [a] :=
  queue_setQueue_self _

theorem queue_on_of_ne (a : α) (other : r ≠ route) : (q.on route a).queue r = q.queue r :=
  queue_setQueue_of_ne _ other

theorem queue_take_of_ne (other : r ≠ route) : (q.take route).2.queue r = q.queue r := by
  unfold take
  split
  · rfl
  · rfl
  · exact queue_setQueue_of_ne _ other

/-- What is left in a queue has been there before. -/
theorem queue_take_subset : (q.take route).2.queue r ⊆ q.queue r := by
  by_cases same : r = route
  · subst same
    unfold take
    split
    · exact List.Subset.refl _
    · exact List.Subset.refl _
    · rename_i next rest _ queued
      rw [queue_setQueue_self, queued]
      exact List.subset_cons_self next rest
  · rw [queue_take_of_ne same]
    exact List.Subset.refl _

/-- What is taken, and what is left, depends on the queue alone. -/
theorem take_congr (same : q.queue route = q'.queue route) :
    (q.take route).1 = (q'.take route).1 ∧
      (q.take route).2.queue route = (q'.take route).2.queue route := by
  unfold take
  rw [← same]
  split
  · exact ⟨rfl, same⟩
  · exact ⟨rfl, same⟩
  · exact ⟨rfl, by rw [queue_setQueue_self, queue_setQueue_self]⟩

/-- An answer that is taken has been in its queue. -/
theorem mem_of_take {a : α} (taken : (q.take route).1 = .removed a ∨ (q.take route).1 = .kept a) :
    a ∈ q.queue route := by
  unfold take at taken
  split at taken
  · simp at taken
  · rename_i last queued
    simp only [reduceCtorEq, Taken.kept.injEq, false_or] at taken
    simp [queued, taken]
  · rename_i next rest _ queued
    simp only [Taken.removed.injEq, reduceCtorEq, or_false] at taken
    simp [queued, taken]

theorem take_of_nil (queued : q.queue route = []) : q.take route = (.nothing, q) := by
  unfold take
  rw [queued]

theorem take_of_last {last : α} (queued : q.queue route = [last]) :
    q.take route = (.kept last, q) := by
  unfold take
  rw [queued]

theorem take_of_more {next other : α} {rest : List α}
    (queued : q.queue route = next :: other :: rest) :
    q.take route = (.removed next, q.setQueue route (other :: rest)) := by
  unfold take
  rw [queued]

end Queues

def Request.route (r : Request) : Route := (r.method, r.path)

namespace Script

/-- The answer that is given for what is taken. -/
def answerOf (r : Request) : Taken (Outcome Json) → Outcome Json
  | .nothing => .error (unscripted r)
  | .removed a => a
  | .kept a => restated a

theorem answer_eq (r : Request) (s : Script) :
    answer r s = (answerOf r (s.take r.route).1, (s.take r.route).2) := by
  unfold answer Request.route
  split <;> rename_i taken <;> rw [taken] <;> rfl

/-! ## Events -/

inductive Event
  | queue (route : Route) (a : Outcome Json)
  | send (r : Request)

/-- Answers can be queued and requests sent at any time; only requests are answered. -/
def step (s : Script) : Event → Option (Script × Option (Outcome Json))
  | .queue route a => some (s.on route a, none)
  | .send r => some ((answer r s).2, some (answer r s).1)

/-! ## What a past says -/

/-- All answers that were queued for a route, the oldest first. -/
def queued (route : Route) : Past Event (Outcome Json) → List (Outcome Json)
  | [] => []
  | (.queue target a, _) :: before =>
      if target = route then queued route before ++ [a] else queued route before
  | (.send _, _) :: before => queued route before

/-- The number of the answer whose turn it is.  The turn passes on with a request, if another answer
has been queued by then. -/
def turn (route : Route) : Past Event (Outcome Json) → Nat
  | [] => 0
  | (.queue _ _, _) :: before => turn route before
  | (.send r, _) :: before =>
      if r.route = route ∧ turn route before + 1 < (queued route before).length then
        turn route before + 1
      else turn route before

/-- The answer with this number has been handed out: it was its turn when a request came. -/
inductive HandedOut (route : Route) (i : Nat) : Past Event (Outcome Json) → Prop where
  | now {r : Request} {reply : Option (Outcome Json)} {before : Past Event (Outcome Json)} :
      r.route = route → queued route before ≠ [] → turn route before = i →
        HandedOut route i ((.send r, reply) :: before)
  | earlier {e : Event × Option (Outcome Json)} {before : Past Event (Outcome Json)} :
      HandedOut route i before → HandedOut route i (e :: before)

/-- The answer with this number is due: the oldest that has not been handed out, or the last one if
all have been. -/
inductive Due (route : Route) (past : Past Event (Outcome Json)) (i : Nat) : Prop where
  | next : i < (queued route past).length → ¬ HandedOut route i past →
      (∀ j < i, HandedOut route j past) → Due route past i
  | again : i + 1 = (queued route past).length → (∀ j ≤ i, HandedOut route j past) →
      Due route past i

/-- Answers have been queued for a route when all had been handed out, and no request has been sent
to it since. -/
inductive Refilled (route : Route) : Past Event (Outcome Json) → Prop where
  | refills {a : Outcome Json} {reply : Option (Outcome Json)}
      {before : Past Event (Outcome Json)} :
      queued route before ≠ [] → (∀ j < (queued route before).length, HandedOut route j before) →
        Refilled route ((.queue route a, reply) :: before)
  | later {e : Event} {reply : Option (Outcome Json)} {before : Past Event (Outcome Json)} :
      (∀ r, e = .send r → r.route ≠ route) → Refilled route before →
        Refilled route ((e, reply) :: before)

/-- The answers that stay what they are however they are told. -/
inductive Lasting : Outcome Json → Prop where
  | message (m : Json) : Lasting (.ok m)
  | transport (status : Option Nat) (message : String) :
      Lasting (.error (.transport status message))
  | authentication (message : String) : Lasting (.error (.authentication message))

variable {route target : Route} {past before : Past Event (Outcome Json)} {s : Script} {r : Request}
  {a : Outcome Json} {reply : Option (Outcome Json)} {i : Nat}

/-! ## Turns -/

@[simp]
theorem queued_send : queued route ((.send r, reply) :: past) = queued route past := rfl

theorem queued_queue_self :
    queued route ((.queue route a, reply) :: past) = queued route past ++ [a] := if_pos rfl

theorem queued_queue_of_ne (other : target ≠ route) :
    queued route ((.queue target a, reply) :: past) = queued route past := if_neg other

@[simp]
theorem turn_queue : turn route ((.queue target a, reply) :: past) = turn route past := rfl

theorem turn_passes (own : r.route = route)
    (more : turn route past + 1 < (queued route past).length) :
    turn route ((.send r, reply) :: past) = turn route past + 1 := if_pos ⟨own, more⟩

theorem turn_stays (stays : ¬ (r.route = route ∧
      turn route past + 1 < (queued route past).length)) :
    turn route ((.send r, reply) :: past) = turn route past := if_neg stays

/-- With a request the turn passes on by one, which takes an answer behind, or stays. -/
theorem turn_send_cases (route : Route) (past : Past Event (Outcome Json)) (r : Request)
    (reply : Option (Outcome Json)) :
    (r.route = route ∧ turn route past + 1 < (queued route past).length ∧
        turn route ((.send r, reply) :: past) = turn route past + 1) ∨
      turn route ((.send r, reply) :: past) = turn route past := by
  by_cases passes : r.route = route ∧ turn route past + 1 < (queued route past).length
  · exact .inl ⟨passes.1, passes.2, turn_passes passes.1 passes.2⟩
  · exact .inr (turn_stays passes)

/-- Answers only come in addition. -/
theorem length_queued_le_cons (e : Event × Option (Outcome Json)) :
    (queued route past).length ≤ (queued route (e :: past)).length := by
  obtain ⟨e, reply⟩ := e
  cases e with
  | queue target a =>
      by_cases own : target = route
      · subst own
        rw [queued_queue_self, List.length_append]
        exact Nat.le_add_right _ _
      · rw [queued_queue_of_ne own]
  | send r => exact Nat.le_refl _

/-- The turn never goes back. -/
theorem turn_le_cons (e : Event × Option (Outcome Json)) :
    turn route past ≤ turn route (e :: past) := by
  obtain ⟨e, reply⟩ := e
  cases e with
  | queue _ _ => exact Nat.le_refl _
  | send r =>
      rcases turn_send_cases route past r reply with ⟨_, _, passed⟩ | stayed
      · rw [passed]
        exact Nat.le_succ _
      · rw [stayed]

theorem turn_le (route : Route) (past : Past Event (Outcome Json)) :
    turn route past ≤ (queued route past).length - 1 := by
  induction past with
  | nil => exact Nat.zero_le _
  | cons e before ih =>
      obtain ⟨e, reply⟩ := e
      cases e with
      | queue target a =>
          have longer := @length_queued_le_cons route before (.queue target a, reply)
          rw [turn_queue]
          omega
      | send r =>
          rw [queued_send]
          rcases turn_send_cases route before r reply with ⟨_, behind, passed⟩ | stayed
          · rw [passed]
            omega
          · rw [stayed]
            exact ih

/-- As long as anything is queued, it is the turn of something. -/
theorem turn_lt (prepared : queued route past ≠ []) :
    turn route past < (queued route past).length := by
  have bound := turn_le route past
  have notEmpty := List.length_pos_iff.2 prepared
  omega

/-- Every answer that has been passed was handed out. -/
theorem handedOut_of_lt (passed : i < turn route past) : HandedOut route i past := by
  induction past with
  | nil => cases passed
  | cons e before ih =>
      obtain ⟨e, reply⟩ := e
      cases e with
      | queue _ _ => exact .earlier (ih passed)
      | send r =>
          rcases turn_send_cases route before r reply with ⟨own, behind, next⟩ | stayed
          · rw [next] at passed
            rcases Nat.lt_succ_iff_lt_or_eq.1 passed with older | rfl
            · exact .earlier (ih older)
            · refine .now own (List.length_pos_iff.1 ?_) rfl
              exact Nat.lt_of_le_of_lt (Nat.zero_le _) behind
          · rw [stayed] at passed
            exact .earlier (ih passed)

/-- No answer is handed out before its turn. -/
theorem le_turn_of_handedOut (handed : HandedOut route i past) : i ≤ turn route past := by
  induction handed with
  | now _ _ here => exact here ▸ turn_le_cons _
  | earlier _ ih => exact Nat.le_trans ih (turn_le_cons _)

/-- Nothing is handed out but with requests to the route. -/
theorem handedOut_cons_iff {e : Event} (other : ∀ r, e = .send r → r.route ≠ route) :
    HandedOut route i ((e, reply) :: past) ↔ HandedOut route i past := by
  constructor
  · intro handed
    cases handed with
    | now own _ _ => exact absurd own (other _ rfl)
    | earlier before => exact before
  · exact .earlier

theorem prepared_of_handedOut (handed : HandedOut route i past) : queued route past ≠ [] := by
  rw [← List.length_pos_iff]
  induction handed with
  | now _ prepared _ =>
      exact Nat.lt_of_lt_of_le (List.length_pos_iff.2 prepared) (length_queued_le_cons _)
  | earlier _ ih => exact Nat.lt_of_lt_of_le ih (length_queued_le_cons _)

/-- All have been handed out exactly if the one whose turn it is has been and is the last. -/
theorem all_handedOut_iff (prepared : queued route past ≠ []) :
    (∀ j < (queued route past).length, HandedOut route j past) ↔
      HandedOut route (turn route past) past ∧
        turn route past + 1 = (queued route past).length := by
  have inside := turn_lt prepared
  constructor
  · intro all
    refine ⟨all _ inside, ?_⟩
    have last := le_turn_of_handedOut (all ((queued route past).length - 1) (by omega))
    omega
  · rintro ⟨handed, last⟩ j bound
    rcases Nat.lt_or_eq_of_le (Nat.le_of_lt_succ (last ▸ bound)) with passed | rfl
    · exact handedOut_of_lt passed
    · exact handed

/-! ## Whose turn it is and who is due -/

theorem refilled_queue_iff (ih : Refilled route past ↔
      HandedOut route (turn route past) past ∧
        turn route past + 1 < (queued route past).length) :
    Refilled route ((.queue target a, reply) :: past) ↔
      HandedOut route (turn route past) past ∧
        turn route past + 1 < (queued route ((.queue target a, reply) :: past)).length := by
  have noSend : ∀ r, Event.queue target a = .send r → r.route ≠ route := nofun
  by_cases own : target = route
  · subst own
    rw [queued_queue_self, List.length_append, List.length_singleton]
    constructor
    · intro refilled
      cases refilled with
      | refills prepared all =>
          obtain ⟨handed, last⟩ := (all_handedOut_iff prepared).1 all
          exact ⟨handed, by omega⟩
      | later _ earlier =>
          obtain ⟨handed, behind⟩ := ih.1 earlier
          exact ⟨handed, by omega⟩
    · rintro ⟨handed, behind⟩
      by_cases last : turn target past + 1 = (queued target past).length
      · have prepared := prepared_of_handedOut handed
        exact .refills prepared ((all_handedOut_iff prepared).2 ⟨handed, last⟩)
      · exact .later noSend (ih.2 ⟨handed, by omega⟩)
  · rw [queued_queue_of_ne own, ← ih]
    constructor
    · intro refilled
      cases refilled with
      | refills => exact absurd rfl own
      | later _ earlier => exact earlier
    · exact .later noSend

/-- After a request to the route, either the turn has passed to an answer that is still to be handed
out, or nothing stands behind. -/
theorem not_refilled_send (own : r.route = route) :
    ¬ (HandedOut route (turn route ((.send r, reply) :: past)) ((.send r, reply) :: past) ∧
      turn route ((.send r, reply) :: past) + 1 < (queued route past).length) := by
  rintro ⟨handed, behind⟩
  by_cases more : turn route past + 1 < (queued route past).length
  · rw [turn_passes own more] at handed
    cases handed with
    | now _ _ here => omega
    | earlier older =>
        have bound := le_turn_of_handedOut older
        omega
  · rw [turn_stays (fun both => more both.2)] at behind
    exact more behind

/-- Others stand behind an answer that has been handed out exactly if they were queued when all had
been handed out. -/
theorem refilled_iff :
    Refilled route past ↔
      HandedOut route (turn route past) past ∧
        turn route past + 1 < (queued route past).length := by
  induction past with
  | nil =>
      constructor
      · exact nofun
      · rintro ⟨⟨⟩, _⟩
  | cons e before ih =>
      obtain ⟨e, reply⟩ := e
      cases e with
      | queue target a =>
          have noSend : ∀ r, Event.queue target a = .send r → r.route ≠ route := nofun
          rw [turn_queue, handedOut_cons_iff noSend]
          exact refilled_queue_iff ih
      | send r =>
          by_cases own : r.route = route
          · refine iff_of_false ?_ (not_refilled_send own)
            intro refilled
            cases refilled with
            | later other _ => exact other r rfl own
          · have other : ∀ r', Event.send r = .send r' → r'.route ≠ route := by
              rintro _ ⟨⟩
              exact own
            rw [turn_stays (fun both => own both.1), handedOut_cons_iff other, queued_send, ← ih]
            constructor
            · intro refilled
              cases refilled with
              | later _ earlier => exact earlier
            · exact .later other

/-- Only one answer is due. -/
theorem due_unique {j : Nat} (first : Due route past i) (second : Due route past j) : i = j := by
  rcases first with ⟨inside, fresh, older⟩ | ⟨last, all⟩ <;>
    rcases second with ⟨inside', fresh', older'⟩ | ⟨last', all'⟩
  · rcases Nat.lt_trichotomy i j with before | same | after
    · exact absurd (older' i before) fresh
    · exact same
    · exact absurd (older j after) fresh'
  · exact absurd (all' i (by omega)) fresh
  · exact absurd (all j (by omega)) fresh'
  · omega

/-- It is the turn of the one that is due, unless the route was refilled. -/
theorem due_turn_iff (prepared : queued route past ≠ []) :
    Due route past (turn route past) ↔ ¬ Refilled route past := by
  have inside := turn_lt prepared
  rw [refilled_iff, not_and_or, Nat.not_lt]
  constructor
  · rintro (⟨_, fresh, _⟩ | ⟨last, _⟩)
    · exact .inl fresh
    · exact .inr (Nat.le_of_eq last.symm)
  · intro either
    by_cases handed : HandedOut route (turn route past) past
    · have last : turn route past + 1 = (queued route past).length := by
        have noneBehind := either.resolve_left (not_not_intro handed)
        omega
      have all := (all_handedOut_iff prepared).2 ⟨handed, last⟩
      exact .again last fun j bound => all j (by omega)
    · exact .next inside handed fun j passed => handedOut_of_lt passed

/-- Where the route was refilled, the one behind is due. -/
theorem due_of_refilled (refilled : Refilled route past) :
    HandedOut route (turn route past) past ∧ Due route past (turn route past + 1) := by
  obtain ⟨handed, behind⟩ := refilled_iff.1 refilled
  refine ⟨handed, .next behind ?_ ?_⟩
  · intro early
    have bound := le_turn_of_handedOut early
    omega
  · intro j bound
    rcases Nat.lt_or_eq_of_le (Nat.le_of_lt_succ bound) with passed | rfl
    · exact handedOut_of_lt passed
    · exact handed

/-! ## Answers -/

/-- A queue holds the answers from the one whose turn it is. -/
def Holds (past : Past Event (Outcome Json)) (s : Script) : Prop :=
  ∀ route, s.queue route = (queued route past).drop (turn route past)

theorem Holds.queue (holds : Holds past s) (target : Route) (a : Outcome Json) :
    Holds ((.queue target a, reply) :: past) (s.on target a) := by
  intro route
  rw [turn_queue]
  by_cases own : route = target
  · subst own
    have bound := turn_le route past
    rw [Queues.queue_on_self, holds route, queued_queue_self,
      List.drop_append_of_le_length (by omega)]
  · rw [Queues.queue_on_of_ne a own, holds route, queued_queue_of_ne (Ne.symm own)]

/-- What is left after a request depends on how many answers the queue had. -/
theorem Holds.send (holds : Holds past s) (r : Request) :
    Holds ((.send r, reply) :: past) (answer r s).2 := by
  intro route
  rw [answer_eq, queued_send]
  by_cases own : route = r.route
  · subst own
    have rest := holds r.route
    have length := congrArg List.length rest
    rw [List.length_drop] at length
    match here : s.queue r.route with
    | [] =>
        rw [here, List.length_nil] at length
        rw [Queues.take_of_nil here, turn_stays (by omega), rest]
    | [last] =>
        rw [here, List.length_singleton] at length
        rw [Queues.take_of_last here, turn_stays (by omega), rest]
    | next :: other :: more =>
        rw [here, List.length_cons, List.length_cons] at length
        rw [Queues.take_of_more here, Queues.queue_setQueue_self, turn_passes rfl (by omega),
          ← List.tail_drop, ← rest, here, List.tail_cons]
  · rw [Queues.queue_take_of_ne own, holds route, turn_stays (fun both => own both.1.symm)]

theorem holds_of_run (run : Run (Steps step) Queues.empty past s) : Holds past s := by
  apply run.invariant
  · intro route
    exact List.drop_nil.symm
  · intro past s e reply s' holds move
    cases e with
    | queue target a =>
        cases move
        exact holds.queue target a
    | send r =>
        cases move
        exact holds.send r

theorem answer_of_nothing (holds : Holds past s) (nothing : queued r.route past = []) :
    (answer r s).1 = .error (unscripted r) := by
  have empty : s.queue r.route = [] := by rw [holds, nothing, List.drop_nil]
  rw [answer_eq, Queues.take_of_nil empty]
  rfl

/-- A request is given the answer whose turn it is, told anew if it is the last one. -/
theorem answer_of_prepared (holds : Holds past s) (prepared : queued r.route past ≠ []) :
    ∃ a, (queued r.route past)[turn r.route past]? = some a ∧
      (answer r s).1
        = if turn r.route past + 1 = (queued r.route past).length then restated a else a := by
  have inside := turn_lt prepared
  have rest := holds r.route
  rw [List.drop_eq_getElem_cons inside] at rest
  refine ⟨_, List.getElem?_eq_getElem inside, ?_⟩
  have length := @List.length_drop _ (turn r.route past + 1) (queued r.route past)
  rw [answer_eq]
  match behind : (queued r.route past).drop (turn r.route past + 1) with
  | [] =>
      rw [behind, List.length_nil] at length
      rw [behind] at rest
      rw [Queues.take_of_last rest, if_pos (by omega)]
      rfl
  | other :: more =>
      rw [behind, List.length_cons] at length
      rw [behind] at rest
      rw [Queues.take_of_more rest, if_neg (by omega)]
      rfl

theorem restated_eq_iff {a : Outcome Json} : restated a = a ↔ Lasting a := by
  constructor
  · intro same
    cases a with
    | ok m => exact .message m
    | error fault =>
        cases fault with
        | transport status message => exact .transport status message
        | authentication message => exact .authentication message
        | _ => cases same
  · rintro (_ | _ | _) <;> rfl

/-! ## Runs -/

/-- In every run, whatever is queued and sent on this route and on others in between: a request to a
route for which something was queued is given the answer whose turn it is.  It is given as it was
queued if others are queued behind it.  If it is the last one, it is told anew, and it stays what it
is exactly if it is a message or a fault of the transport or of authentication.  It is the turn of
the answer that is due, which is the oldest one that has not been handed out or, if all have been,
the last one, unless answers have been queued since all had been handed out: then the request is
given the answer of the request before it once more, and the one behind it is due. -/
theorem given_in_turn (run : Run (Steps step) Queues.empty past s)
    (moment : (.send r, reply) :: before <:+ past) :
    (queued r.route before = [] → reply = some (.error (unscripted r))) ∧
    (queued r.route before ≠ [] →
      ∃ a, (queued r.route before)[turn r.route before]? = some a ∧
        (turn r.route before + 1 < (queued r.route before).length → reply = some a) ∧
        (turn r.route before + 1 = (queued r.route before).length → reply = some (restated a)) ∧
        (restated a = a ↔ Lasting a) ∧
        (Due r.route before (turn r.route before) ↔ ¬ Refilled r.route before) ∧
        (Refilled r.route before →
          HandedOut r.route (turn r.route before) before ∧
            Due r.route before (turn r.route before + 1))) := by
  obtain ⟨_, upToThen⟩ := run.at_suffix moment
  cases upToThen with
  | @step _ s₀ _ _ _ earlier move =>
      cases move
      have holds := holds_of_run earlier
      constructor
      · intro nothing
        rw [answer_of_nothing holds nothing]
      · intro prepared
        obtain ⟨a, here, given⟩ := answer_of_prepared holds prepared
        refine ⟨a, here, ?_, ?_, restated_eq_iff, due_turn_iff prepared, due_of_refilled⟩
        · intro behind
          rw [given, if_neg (Nat.ne_of_lt behind)]
        · intro last
          rw [given, if_pos last]

/-- A status that is asked for. -/
def statusRequest : Request := .get "https://h" "/jobs/1" Dict.empty

def statusIs (status : String) : Outcome Json := .ok (.obj [("status", .str status)])

/-- The job is finished after its status was asked for once. -/
def finishedLater : Past Event (Outcome Json) :=
  [(.send statusRequest, some (statusIs "running")),
    (.queue (.get, "/jobs/1") (statusIs "finished"), none),
    (.send statusRequest, some (statusIs "running")),
    (.queue (.get, "/jobs/1") (statusIs "running"), none)]

theorem run_finishedLater : ∃ s, Run (Steps step) Queues.empty finishedLater s :=
  ⟨_, Run.of_replay [.queue (.get, "/jobs/1") (statusIs "running"), .send statusRequest,
    .queue (.get, "/jobs/1") (statusIs "finished"), .send statusRequest] .start rfl⟩

/-- The second request is given what the first one was, though something else is due. -/
theorem finishedLater_refilled :
    ∃ s, Run (Steps step) Queues.empty finishedLater s ∧
      (.send statusRequest, some (statusIs "running")) :: finishedLater.tail <:+ finishedLater ∧
      Refilled statusRequest.route finishedLater.tail ∧
      Due statusRequest.route finishedLater.tail 1 := by
  obtain ⟨s, run⟩ := run_finishedLater
  have moment : (.send statusRequest, some (statusIs "running")) :: finishedLater.tail
      <:+ finishedLater := List.suffix_refl _
  have refilled : Refilled statusRequest.route finishedLater.tail := by
    refine .refills (List.cons_ne_nil _ _) ?_
    intro j bound
    obtain rfl : j = 0 := Nat.lt_one_iff.1 bound
    exact .now rfl (List.cons_ne_nil _ _) rfl
  obtain ⟨_, _, _, _, _, _, late⟩ :=
    (given_in_turn run moment).2 (List.cons_ne_nil _ _)
  exact ⟨s, run, moment, refilled, (late refilled).2⟩

/-- A request for which only a wrong use is queued. -/
def misusedOnce : Past Event (Outcome Json) :=
  [(.send statusRequest, some (.error (.transport none "Invalid state: no job"))),
    (.queue (.get, "/jobs/1") (.error (.invalidState "no job")), none)]

theorem run_misusedOnce : ∃ s, Run (Steps step) Queues.empty misusedOnce s :=
  ⟨_, Run.of_replay [.queue (.get, "/jobs/1") (.error (.invalidState "no job")),
    .send statusRequest] .start rfl⟩

/-- It is not so that every request is given the answer that is due, whether told anew or not: what
was queued after the only answer had been handed out is not given to the next request.  Nor is it so
that every request is given something that was queued: the last fault of a queue is given as a fault
of the transport, with its wording as the message. -/
theorem given_late_or_changed :
    (¬ ∀ (past : Past Event (Outcome Json)) (s : Script), Run (Steps step) Queues.empty past s →
      ∀ (r : Request) (reply : Option (Outcome Json)) (before : Past Event (Outcome Json)),
        (.send r, reply) :: before <:+ past → queued r.route before ≠ [] →
          ∃ i a, Due r.route before i ∧ (queued r.route before)[i]? = some a ∧
            (reply = some a ∨ reply = some (restated a))) ∧
    ¬ ∀ (past : Past Event (Outcome Json)) (s : Script), Run (Steps step) Queues.empty past s →
      ∀ (r : Request) (reply : Option (Outcome Json)) (before : Past Event (Outcome Json)),
        (.send r, reply) :: before <:+ past → queued r.route before ≠ [] →
          ∃ a ∈ queued r.route before, reply = some a := by
  constructor
  · intro always
    obtain ⟨s, run⟩ := run_finishedLater
    obtain ⟨i, a, due, here, given⟩ :=
      always finishedLater s run statusRequest _ _ (List.suffix_refl _) (List.cons_ne_nil _ _)
    -- The first answer has been handed out, so the second one is due.
    have second : Due statusRequest.route finishedLater.tail 1 := by
      refine .next (Nat.lt_succ_self 1) ?_ ?_
      · intro early
        have bound := le_turn_of_handedOut early
        exact absurd bound (by decide)
      · intro j bound
        obtain rfl : j = 0 := Nat.lt_one_iff.1 bound
        exact .earlier (.now rfl (List.cons_ne_nil _ _) rfl)
    obtain rfl : i = 1 := due_unique due second
    cases here
    rcases given with given | given
    · exact absurd given (by simp [statusIs])
    · exact absurd given (by simp [statusIs, restated])
  · intro always
    obtain ⟨s, run⟩ := run_misusedOnce
    obtain ⟨a, here, given⟩ :=
      always misusedOnce s run statusRequest _ _ (List.suffix_refl _) (List.cons_ne_nil _ _)
    obtain rfl : a = .error (.invalidState "no job") := List.mem_singleton.1 here
    cases given

end Script
end QuantumJobs
