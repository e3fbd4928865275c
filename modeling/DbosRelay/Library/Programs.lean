import DbosRelay.Library.Runs
import Mathlib.Data.List.Basic

/-!
# Programs which ask a shared state

A program is a tree of requests: it asks one, and the reply decides how it goes
on.  Requests are atomic on the state they are performed on; between two of
them other programs may have theirs performed.  How a request comes out (a
failure, a choice the state leaves open) is resolved by a choice.

This module runs a program on its own, runs any number of them interleaved with
requests of others, and supplies the rule with which a property of one program
is carried over to every interleaving.
-/

namespace DbosRelay.Library.Programs

open DbosRelay.Library.Runs

/-- A program over requests. -/
inductive Program (Request : Type) (Reply : Request → Type) (Value : Type) where
  | done (value : Value)
  | call (request : Request)
      (next : Reply request → Program Request Reply Value)

variable {Request : Type} {Reply : Request → Type} {Value Result : Type}

namespace Program

/-- Continue with the result of a program. -/
def bind (program : Program Request Reply Value)
    (next : Value → Program Request Reply Result) :
    Program Request Reply Result :=
  match program with
  | .done value => next value
  | .call request rest => .call request fun reply => (rest reply).bind next

instance : Monad (Program Request Reply) where
  pure := .done
  bind := bind

/-- Ask one request. -/
def ask (request : Request) : Program Request Reply (Reply request) :=
  .call request .done

@[simp]
theorem pure_eq (value : Value) :
    (pure value : Program Request Reply Value) = .done value :=
  rfl

@[simp]
theorem done_bind (value : Value)
    (next : Value → Program Request Reply Result) :
    (.done value : Program Request Reply Value) >>= next = next value :=
  rfl

@[simp]
theorem call_bind (request : Request)
    (rest : Reply request → Program Request Reply Value)
    (next : Value → Program Request Reply Result) :
    Program.call request rest >>= next =
      .call request fun reply => rest reply >>= next :=
  rfl

@[simp]
theorem ask_bind (request : Request)
    (next : Reply request → Program Request Reply Result) :
    ask request >>= next = .call request next :=
  rfl

theorem bind_assoc {Last : Type} (program : Program Request Reply Value)
    (next : Value → Program Request Reply Result)
    (rest : Result → Program Request Reply Last) :
    program >>= next >>= rest = program >>= fun value => next value >>= rest := by
  induction program with
  | done value => rfl
  | call request more induction =>
      exact congrArg (Program.call request) (funext induction)

/-- Whatever the replies, the program ends with such a value. -/
def Yields (right : Value → Prop) : Program Request Reply Value → Prop
  | .done value => right value
  | .call _ next => ∀ reply, (next reply).Yields right

theorem Yields.bind {middle : Value → Prop} {right : Result → Prop}
    {program : Program Request Reply Value}
    {next : Value → Program Request Reply Result}
    (first : program.Yields middle)
    (second : ∀ value, middle value → (next value).Yields right) :
    (program >>= next).Yields right := by
  induction program with
  | done value => exact second value first
  | call request rest induction => exact fun reply => induction reply (first reply)

theorem yields_true (program : Program Request Reply Value) :
    program.Yields fun _ => True := by
  induction program with
  | done value => trivial
  | call request next induction => exact induction

/-- Whatever the replies, every request is an allowed one. -/
def Only (allowed : Request → Prop) :
    Program Request Reply Value → Prop
  | .done _ => True
  | .call request next => allowed request ∧ ∀ reply, (next reply).Only allowed

theorem Only.bind {allowed : Request → Prop}
    {program : Program Request Reply Value}
    {next : Value → Program Request Reply Result}
    (first : program.Only allowed) (second : ∀ value, (next value).Only allowed) :
    (program >>= next).Only allowed := by
  induction program with
  | done value => exact second value
  | call request rest induction =>
      exact ⟨first.1, fun reply => induction reply (first.2 reply)⟩

theorem Only.mono {allowed weaker : Request → Prop}
    {program : Program Request Reply Value} (only : program.Only allowed)
    (implies : ∀ request, allowed request → weaker request) :
    program.Only weaker := by
  induction program with
  | done value => trivial
  | call request rest induction =>
      exact ⟨implies request only.1, fun reply => induction reply (only.2 reply)⟩

/-! ## A program on its own -/

section Alone

variable {State Choice : Type}
variable (perform : Choice → (request : Request) → State → Reply request × State)

/-- Run a program with nobody else at work; `none` when the choices run out. -/
def run : Program Request Reply Value → List Choice → State →
    Option (Value × State)
  | .done value, _, state => some (value, state)
  | .call _ _, [], _ => none
  | .call request next, choice :: choices, state =>
      (next (perform choice request state).1).run choices
        (perform choice request state).2

/-- The program may end so when nobody else is at work. -/
def Ends (program : Program Request Reply Value) (before : State)
    (value : Value) (after : State) : Prop :=
  ∃ choices, program.run perform choices before = some (value, after)

variable {perform}

theorem ends_done {value result : Value} {before after : State} :
    (.done value : Program Request Reply Value).Ends perform before result
        after ↔
      result = value ∧ after = before := by
  constructor
  · rintro ⟨choices, ran⟩
    cases ran
    exact ⟨rfl, rfl⟩
  · rintro ⟨rfl, rfl⟩
    exact ⟨[], rfl⟩

theorem ends_call {request : Request}
    {next : Reply request → Program Request Reply Value} {before after : State}
    {value : Value} :
    (Program.call request next).Ends perform before value after ↔
      ∃ choice, (next (perform choice request before).1).Ends perform
        (perform choice request before).2 value after := by
  constructor
  · rintro ⟨choices, ran⟩
    cases choices with
    | nil => cases ran
    | cons choice choices => exact ⟨choice, choices, ran⟩
  · rintro ⟨choice, choices, ran⟩
    exact ⟨choice :: choices, ran⟩

/-- However the program is run, it ends with what it yields. -/
theorem Yields.ends {right : Value → Prop} {program : Program Request Reply Value}
    {before after : State} {value : Value} (yields : program.Yields right)
    (ends : program.Ends perform before value after) : right value := by
  induction program generalizing before with
  | done result =>
      obtain ⟨rfl, -⟩ := ends_done.mp ends
      exact yields
  | call request next induction =>
      obtain ⟨choice, ends⟩ := ends_call.mp ends
      exact induction _ (yields _) ends

theorem ends_ask {request : Request}
    {next : Reply request → Program Request Reply Value} {before after : State}
    {value : Value} :
    (ask request >>= next).Ends perform before value after ↔
      ∃ choice, (next (perform choice request before).1).Ends perform
        (perform choice request before).2 value after :=
  ends_call

theorem ends_bind {program : Program Request Reply Value}
    {next : Value → Program Request Reply Result} {before after : State}
    {result : Result} :
    (program >>= next).Ends perform before result after ↔
      ∃ value middle, program.Ends perform before value middle ∧
        (next value).Ends perform middle result after := by
  induction program generalizing before with
  | done value =>
      constructor
      · exact fun ends => ⟨value, before, ends_done.mpr ⟨rfl, rfl⟩, ends⟩
      · rintro ⟨other, middle, first, second⟩
        obtain ⟨rfl, rfl⟩ := ends_done.mp first
        exact second
  | call request rest induction =>
      rw [call_bind, ends_call]
      constructor
      · rintro ⟨choice, ends⟩
        obtain ⟨value, middle, first, second⟩ := (induction _).mp ends
        exact ⟨value, middle, ends_call.mpr ⟨choice, first⟩, second⟩
      · rintro ⟨value, middle, first, second⟩
        obtain ⟨choice, first⟩ := ends_call.mp first
        exact ⟨choice, (induction _).mpr ⟨value, middle, first, second⟩⟩

/-- What no request of a program changes, the program does not change. -/
theorem Only.preserves {Aspect : Type*} {allowed : Request → Prop}
    {program : Program Request Reply Value} (only : program.Only allowed)
    (aspect : State → Aspect)
    (kept : ∀ choice request state, allowed request →
      aspect (perform choice request state).2 = aspect state)
    {before after : State} {value : Value}
    (ends : program.Ends perform before value after) :
    aspect after = aspect before := by
  induction program generalizing before with
  | done other =>
      obtain ⟨-, rfl⟩ := ends_done.mp ends
      rfl
  | call request next induction =>
      obtain ⟨choice, ends⟩ := ends_call.mp ends
      rw [induction _ (only.2 _) ends, kept choice request before only.1]

end Alone

end Program

/-! ## Traces -/

/-- A request which was performed, its reply and the state it was performed on. -/
structure Event (Request : Type) (Reply : Request → Type) (State : Type) where
  request : Request
  reply : Reply request
  before : State

section Traces

variable {State Ghost : Type}

namespace Program

/-- After the events of the trace the program has come to `rest`. -/
inductive Follows (program : Program Request Reply Value) :
    List (Event Request Reply State) → Program Request Reply Value → Prop where
  | start : Follows program [] program
  | step {trace : List (Event Request Reply State)} {request : Request}
      {next : Reply request → Program Request Reply Value}
      (earlier : Follows program trace (.call request next))
      (reply : Reply request) (before : State) :
      Follows program (trace ++ [⟨request, reply, before⟩]) (next reply)

/-- The trace of a program from its first request on. -/
theorem Follows.call {request : Request} {reply : Reply request} {before : State}
    {next : Reply request → Program Request Reply Value}
    {trace : List (Event Request Reply State)}
    {rest : Program Request Reply Value}
    (follows : (next reply).Follows trace rest) :
    (Program.call request next).Follows (⟨request, reply, before⟩ :: trace)
      rest := by
  induction follows with
  | start => exact .step .start reply before
  | step earlier later state induction => exact .step induction later state

/--
A property of a program whatever happens between its requests: with what it has
observed so far, every request is allowed and every result is right.  Only
events which meet the side condition are considered.
-/
def Keeps (meets : Event Request Reply State → Prop)
    (observe : Ghost → Event Request Reply State → Ghost)
    (allowed : Ghost → Request → Prop) (right : Ghost → Value → Prop) :
    Ghost → Program Request Reply Value → Prop
  | ghost, .done value => right ghost value
  | ghost, .call request next =>
      allowed ghost request ∧ ∀ reply before,
        meets ⟨request, reply, before⟩ →
          (next reply).Keeps meets observe allowed right
            (observe ghost ⟨request, reply, before⟩)

variable {meets : Event Request Reply State → Prop}
variable {observe : Ghost → Event Request Reply State → Ghost}
variable {allowed : Ghost → Request → Prop}

/-- The property of a program in two parts. -/
theorem keeps_bind {right : Ghost → Result → Prop} {ghost : Ghost}
    {program : Program Request Reply Value}
    {next : Value → Program Request Reply Result}
    (first : program.Keeps meets observe allowed
      (fun ghost value => (next value).Keeps meets observe allowed right ghost)
      ghost) :
    (program >>= next).Keeps meets observe allowed right ghost := by
  induction program generalizing ghost with
  | done value => exact first
  | call request rest induction =>
      exact ⟨first.1, fun reply before met => induction reply (first.2 reply before met)⟩

theorem Keeps.mono {right weaker : Ghost → Value → Prop} {ghost : Ghost}
    {program : Program Request Reply Value}
    (keeps : program.Keeps meets observe allowed right ghost)
    (implies : ∀ ghost value, right ghost value → weaker ghost value) :
    program.Keeps meets observe allowed weaker ghost := by
  induction program generalizing ghost with
  | done value => exact implies ghost value keeps
  | call request next induction =>
      exact ⟨keeps.1, fun reply before met =>
        induction reply (keeps.2 reply before met)⟩

/-- What no event of a program's requests ends is still there after the program. -/
theorem Only.keeps {still : Request → Prop} {holds : Ghost → Prop}
    {ghost : Ghost} {program : Program Request Reply Value}
    (only : program.Only still)
    (allows : ∀ ghost request, holds ghost → still request →
      allowed ghost request)
    (kept : ∀ ghost (event : Event Request Reply State), holds ghost →
      still event.request → holds (observe ghost event))
    (initially : holds ghost) :
    program.Keeps meets observe allowed (fun ghost _ => holds ghost) ghost := by
  induction program generalizing ghost with
  | done value => exact initially
  | call request next induction =>
      refine ⟨allows ghost request initially only.1, fun reply before _ => ?_⟩
      exact induction reply (only.2 reply)
        (kept ghost ⟨request, reply, before⟩ initially only.1)

/-- The property is still there after any trace of events which meet the condition. -/
theorem Keeps.rest {right : Ghost → Value → Prop} {ghost : Ghost}
    {program rest : Program Request Reply Value}
    {trace : List (Event Request Reply State)}
    (keeps : program.Keeps meets observe allowed right ghost)
    (follows : program.Follows trace rest) (met : ∀ event ∈ trace, meets event) :
    rest.Keeps meets observe allowed right (trace.foldl observe ghost) := by
  induction follows with
  | start => exact keeps
  | step earlier reply before induction =>
      rw [List.forall_mem_append] at met
      have kept := induction met.1
      rw [List.foldl_append]
      exact kept.2 reply before (met.2 _ (List.mem_singleton_self _))

/-- Every event of the trace was allowed by what had been observed before it. -/
theorem Keeps.event {right : Ghost → Value → Prop} {ghost : Ghost}
    {program rest : Program Request Reply Value}
    {trace earlier later : List (Event Request Reply State)}
    {event : Event Request Reply State}
    (keeps : program.Keeps meets observe allowed right ghost)
    (follows : program.Follows trace rest) (met : ∀ event ∈ trace, meets event)
    (split : trace = earlier ++ event :: later) :
    allowed (earlier.foldl observe ghost) event.request := by
  induction follows generalizing later with
  | start => exact absurd split.symm (by simp)
  | step before reply state induction =>
      rw [List.forall_mem_append] at met
      rcases List.eq_nil_or_concat' later with rfl | ⟨init, last, rfl⟩
      · obtain ⟨rfl, same⟩ := List.append_inj' split rfl
        cases same
        exact (keeps.rest before met.1).1
      · rw [← List.cons_append, ← List.append_assoc] at split
        obtain ⟨same, -⟩ := List.append_inj' split rfl
        exact induction met.1 same

/-- The trace itself as what has been observed. -/
def record (trace : List (Event Request Reply State))
    (event : Event Request Reply State) : List (Event Request Reply State) :=
  trace ++ [event]

theorem foldl_record (earlier trace : List (Event Request Reply State)) :
    trace.foldl record earlier = earlier ++ trace := by
  induction trace generalizing earlier with
  | nil => exact (List.append_nil earlier).symm
  | cons event trace induction =>
      rw [List.foldl_cons, induction, record, List.append_assoc,
        List.singleton_append]

end Program

end Traces

/-! ## Programs in parallel -/

section Pools

variable {State Choice Label : Type}

/--
Programs running on one state, in the order they were started, and everything
that has been performed so far with the number of its program; requests of
others have none.
-/
structure Pool (Request : Type) (Reply : Request → Type)
    (State Label Value : Type) where
  state : State
  threads : List (Label × Program Request Reply Value)
  history : List (Option Nat × Event Request Reply State)

/-- One step: a program starts, one has its next request performed, others do. -/
inductive PoolStep (Request Choice Label : Type) where
  | start (label : Label)
  | advance (thread : Nat) (choice : Choice)
  | other (request : Request) (choice : Choice)

variable (perform : Choice → (request : Request) → State → Reply request × State)
variable (body : Label → Program Request Reply Value)

namespace Pool

/-- Nothing has started. -/
def idle (state : State) : Pool Request Reply State Label Value :=
  ⟨state, [], []⟩

/-- Perform a request and write it down. -/
def performed (pool : Pool Request Reply State Label Value)
    (issuer : Option Nat) (request : Request)
    (answer : Reply request × State) : Pool Request Reply State Label Value :=
  { pool with
    state := answer.2
    history := pool.history ++ [(issuer, ⟨request, answer.1, pool.state⟩)] }

/-- A program goes on as `rest`. -/
def resume (pool : Pool Request Reply State Label Value) (thread : Nat)
    (label : Label) (rest : Program Request Reply Value) :
    Pool Request Reply State Label Value :=
  { pool with threads := pool.threads.set thread (label, rest) }

/-- The step function. -/
def step (pool : Pool Request Reply State Label Value) :
    PoolStep Request Choice Label →
      Option (Pool Request Reply State Label Value)
  | .start label =>
      some { pool with threads := pool.threads ++ [(label, body label)] }
  | .advance thread choice =>
      match pool.threads[thread]? with
      | some (label, .call request next) =>
          let answer := perform choice request pool.state
          some ((pool.performed (some thread) request answer).resume thread
            label (next answer.1))
      | _ => none
  | .other request choice =>
      some (pool.performed none request (perform choice request pool.state))

/-- The request a step has performed. -/
def Issues (pool : Pool Request Reply State Label Value) :
    PoolStep Request Choice Label → Request → Prop
  | .start _, _ => False
  | .advance thread _, request =>
      ∃ label next, pool.threads[thread]? = some (label, .call request next)
  | .other other _, request => other = request

/-- The events of one program. -/
def trace (pool : Pool Request Reply State Label Value) (thread : Nat) :
    List (Event Request Reply State) :=
  pool.history.filterMap fun entry =>
    if entry.1 = some thread then some entry.2 else none

variable {perform body}
variable {pool after : Pool Request Reply State Label Value}

/-- Everything a step can do. -/
inductive Takes (perform : Choice → (request : Request) → State →
      Reply request × State)
    (body : Label → Program Request Reply Value)
    (pool : Pool Request Reply State Label Value) :
    PoolStep Request Choice Label →
      Pool Request Reply State Label Value → Prop where
  | start (label : Label) :
      Takes perform body pool (.start label)
        { pool with threads := pool.threads ++ [(label, body label)] }
  | advance {thread : Nat} {choice : Choice} {label : Label} {request : Request}
      {next : Reply request → Program Request Reply Value}
      (running : pool.threads[thread]? = some (label, .call request next)) :
      Takes perform body pool (.advance thread choice)
        ((pool.performed (some thread) request
          (perform choice request pool.state)).resume thread label
            (next (perform choice request pool.state).1))
  | other (request : Request) (choice : Choice) :
      Takes perform body pool (.other request choice)
        (pool.performed none request (perform choice request pool.state))

theorem takes_of_step {label : PoolStep Request Choice Label}
    (taken : pool.step perform body label = some after) :
    Takes perform body pool label after := by
  cases label with
  | start label =>
      cases taken
      exact .start label
  | advance thread choice =>
      unfold step at taken
      simp only at taken
      split at taken
      · rename_i label request next running
        cases taken
        exact .advance running
      · cases taken
  | other request choice =>
      cases taken
      exact .other request choice

@[simp]
theorem trace_resume (thread : Nat) (label : Label)
    (rest : Program Request Reply Value) (other : Nat) :
    (pool.resume thread label rest).trace other = pool.trace other :=
  rfl

theorem trace_performed (issuer : Option Nat) (request : Request)
    (answer : Reply request × State) (thread : Nat) :
    (pool.performed issuer request answer).trace thread =
      if issuer = some thread then
        pool.trace thread ++ [⟨request, answer.1, pool.state⟩]
      else pool.trace thread := by
  unfold trace performed
  rw [List.filterMap_append]
  split_ifs with own
  · simp [own]
  · simp [own]

/-- Another program after one has gone on. -/
theorem getElem?_resume {thread other : Nat} {label : Label}
    {rest : Program Request Reply Value}
    {found : Label × Program Request Reply Value}
    (present : (pool.resume thread label rest).threads[other]? = some found) :
    other = thread ∧ found = (label, rest) ∨
      other ≠ thread ∧ pool.threads[other]? = some found := by
  have bound : other < pool.threads.length := by
    have := (List.getElem?_eq_some_iff.mp present).1
    rwa [resume, List.length_set] at this
  rw [resume] at present
  by_cases same : thread = other
  · subst same
    rw [List.getElem?_set_self bound] at present
    cases present
    exact Or.inl ⟨rfl, rfl⟩
  · rw [List.getElem?_set_ne same] at present
    exact Or.inr ⟨fun equal => same equal.symm, present⟩

/-- A program after one has started. -/
theorem getElem?_start {label : Label} {thread : Nat}
    {found : Label × Program Request Reply Value}
    (present : (pool.threads ++ [(label, body label)])[thread]? = some found) :
    pool.threads[thread]? = some found ∨
      thread = pool.threads.length ∧ found = (label, body label) := by
  rcases Nat.lt_or_ge thread pool.threads.length with old | new
  · rw [List.getElem?_append_left old] at present
    exact Or.inl present
  · rw [List.getElem?_append_right new, List.getElem?_singleton] at present
    split_ifs at present with first
    cases present
    exact Or.inr ⟨by omega, rfl⟩

/-- Every program has come as far as its events say. -/
structure Faithful (body : Label → Program Request Reply Value)
    (pool : Pool Request Reply State Label Value) : Prop where
  follows : ∀ {thread label rest}, pool.threads[thread]? = some (label, rest) →
    (body label).Follows (pool.trace thread) rest
  unused : ∀ {thread}, pool.threads.length ≤ thread → pool.trace thread = []

theorem Faithful.step {label : PoolStep Request Choice Label}
    (faithful : pool.Faithful body)
    (taken : pool.step perform body label = some after) :
    after.Faithful body := by
  cases takes_of_step taken with
  | start label =>
      refine ⟨fun {thread other rest} present => ?_, fun {thread} beyond => ?_⟩
      · rcases getElem?_start present with old | ⟨rfl, new⟩
        · exact faithful.follows old
        · cases new
          have events := faithful.unused (Nat.le_refl pool.threads.length)
          show (body label).Follows (pool.trace pool.threads.length) _
          rw [events]
          exact .start
      · rw [List.length_append] at beyond
        exact faithful.unused (Nat.le_of_add_right_le beyond)
  | @advance mover choice label request next running =>
      refine ⟨fun {thread other rest} present => ?_, fun {thread} beyond => ?_⟩
      · rw [trace_resume, trace_performed]
        rcases getElem?_resume present with ⟨rfl, moved⟩ | ⟨different, present⟩
        · cases moved
          rw [if_pos rfl]
          exact .step (faithful.follows running) _ _
        · rw [if_neg fun same => different (Option.some.inj same).symm]
          exact faithful.follows present
      · rw [resume, List.length_set] at beyond
        have different : ¬some mover = some thread := by
          intro same
          cases same
          have := (List.getElem?_eq_some_iff.mp running).1
          exact absurd this (Nat.not_lt.mpr beyond)
        rw [trace_resume, trace_performed, if_neg different]
        exact faithful.unused beyond
  | other request choice =>
      refine ⟨fun {thread other rest} present => ?_, fun {thread} beyond => ?_⟩
      · rw [trace_performed, if_neg nofun]
        exact faithful.follows present
      · rw [trace_performed, if_neg nofun]
        exact faithful.unused beyond

theorem faithful_idle (state : State) :
    (idle state : Pool Request Reply State Label Value).Faithful body := by
  refine ⟨fun {thread label rest} present => ?_, fun {thread} beyond => rfl⟩
  cases present

/-- What a program keeps, it still keeps with the events it has had. -/
theorem Faithful.keeps {meets : Event Request Reply State → Prop}
    {allowed : List (Event Request Reply State) → Request → Prop}
    {right : List (Event Request Reply State) → Value → Prop} {thread : Nat}
    {label : Label} {rest : Program Request Reply Value}
    (faithful : pool.Faithful body)
    (present : pool.threads[thread]? = some (label, rest))
    (met : ∀ event ∈ pool.trace thread, meets event)
    (keeps : (body label).Keeps meets Program.record allowed right []) :
    rest.Keeps meets Program.record allowed right (pool.trace thread) := by
  have kept := keeps.rest (faithful.follows present) met
  rwa [Program.foldl_record, List.nil_append] at kept

/-- Every event of a program meets a condition for its label. -/
def Observed (meets : Label → Event Request Reply State → Prop)
    (pool : Pool Request Reply State Label Value) : Prop :=
  ∀ thread label rest, pool.threads[thread]? = some (label, rest) →
    ∀ event ∈ pool.trace thread, meets label event

theorem Observed.step {meets : Label → Event Request Reply State → Prop}
    {label : PoolStep Request Choice Label} (faithful : pool.Faithful body)
    (observed : pool.Observed meets)
    (taken : pool.step perform body label = some after)
    (performed : ∀ thread choice who request next,
      label = .advance thread choice →
        pool.threads[thread]? = some (who, .call request next) →
          meets who ⟨request, (perform choice request pool.state).1,
            pool.state⟩) :
    after.Observed meets := by
  cases takes_of_step taken with
  | start label =>
      intro thread who rest present event member
      rcases getElem?_start present with old | ⟨rfl, -⟩
      · exact observed thread who rest old event member
      · have none := faithful.unused (Nat.le_refl pool.threads.length)
        have member : event ∈ pool.trace pool.threads.length := member
        rw [none] at member
        cases member
  | advance running =>
      intro other who rest present event member
      rw [trace_resume, trace_performed] at member
      rcases getElem?_resume present with ⟨rfl, same⟩ | ⟨different, old⟩
      · cases same
        rw [if_pos rfl, List.mem_append, List.mem_singleton] at member
        rcases member with earlier | rfl
        · exact observed _ _ _ running event earlier
        · exact performed _ _ _ _ _ rfl running
      · rw [if_neg fun same => different (Option.some.inj same).symm] at member
        exact observed other who rest old event member
  | other request choice =>
      intro thread who rest present event member
      rw [trace_performed, if_neg nofun] at member
      exact observed thread who rest present event member

/-- In a guarded run every program follows its events, and these meet a condition. -/
theorem observed_of_run {meets : Label → Event Request Reply State → Prop}
    {guard : Pool Request Reply State Label Value →
      PoolStep Request Choice Label → Prop}
    {steps : List (PoolStep Request Choice Label)} {state : State}
    (ran : GuardedRun (step perform body) guard (idle state) steps pool)
    (ensures : ∀ (pool : Pool Request Reply State Label Value) thread choice who
      request next, guard pool (.advance thread choice) →
        pool.threads[thread]? = some (who, .call request next) →
          meets who ⟨request, (perform choice request pool.state).1,
            pool.state⟩) :
    pool.Faithful body ∧ pool.Observed meets := by
  refine ran.invariant (fun pool => pool.Faithful body ∧ pool.Observed meets)
    (fun {before after label} allowed taken both => ?_)
    ⟨faithful_idle state, fun thread who rest present => by cases present⟩
  refine ⟨both.1.step taken, both.2.step both.1 taken ?_⟩
  rintro thread choice who request next rfl running
  exact ensures before thread choice who request next allowed running

end Pool

end Pools

end DbosRelay.Library.Programs
