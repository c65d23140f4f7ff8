/-
  ApiTools.Proofs.Session.Publication
  ───────────────────────────────────
  **REGISTRIES ARE SWAPPED WHOLE.**

  Calls take time: a call starts, which builds its message, and is over when
  the reply has come.  In between anything can happen: files are loaded,
  documents compiled and merged, registries published, other calls started and
  finished.  A `Run` is the list of such events, each with what it gave.

  What one event does to the published registry is said once
  (`current_step`): only publishing changes it.  So at any time it is the one
  that the events before have published last (`current_of_run`), and a call
  that starts then is sent by it, whatever is published before the call is over
  (`atomic_of_run`).
-/
import ApiTools.Proofs.Proxy.Lookup
import ApiTools.Proofs.Specification.Concurrency
import ApiTools.Session

namespace ApiTools.Publication

open Execution

/-! ## §1. Events. -/

/-- How far a call is: its message has been sent and waits for the reply, or the call has ended. -/
inductive Stage where
  | waiting (message : Reported Http.Message)
  | ended (execution : Execution)

/-- The stage of a call that has just started; without a message it is over at once. -/
def Stage.start (m : Reported Http.Message) : Stage :=
  match m.outcome with
  | .ok _ => .waiting m
  | .error f => .ended { sent := [], result := ⟨m.notices, .error f⟩ }

theorem Stage.eq_of_start_eq_waiting {m m' : Reported Http.Message}
    (h : Stage.start m = .waiting m') : m = m' := by
  unfold Stage.start at h
  split at h
  next => exact Stage.waiting.inj h
  next => exact absurd h (by simp)

/-- Where a registry that is published comes from: it was built last, kept as a snapshot, or given
by the caller. -/
inductive Source where
  | built
  | kept
  | given (r : Registry)

def Source.registry (s : Session) : Source → Registry
  | built => s.last.getD Registry.empty
  | kept => s.snapshot.getD Registry.empty
  | given r => r

/-- What happens, and what it gives. -/
inductive Event where
  | load (loaded : Reported Loaded)
  | compile (compiled : Reported Compiled)
  | merge (merged : Registry)
  | publish (source : Source) (new old : Registry)
  | snapshot (taken : Registry)
  | start (place : Nat) (call : Call) (message : Reported Http.Message)
  | finish (place : Nat) (reply : Reply) (execution : Execution)

/-- The registry that an event publishes. -/
def Event.published? : Event → Option Registry
  | publish _ new _ => some new
  | _ => none

/-- The registry that an event gives to the caller to keep. -/
def Event.handed? : Event → Option Registry
  | publish _ _ old => some old
  | snapshot taken => some taken
  | _ => none

/-- The registry that events have published last, or the one from before. -/
def lastPublished (first : Registry) (es : List Event) : Registry :=
  (es.filterMap Event.published?).getLastD first

/-- A session, the calls in the order of their starts, and the registries that the caller holds. -/
structure State where
  session : Session
  stages : List Stage
  held : List Registry

namespace State

/-- The registry that is published. -/
def current (s : State) : Registry := s.session.catalog.current

/-- A session with an initial registry, before any call. -/
def begin (files : Files) (first : Registry) : State where
  session := { Session.start files with catalog := ⟨first⟩ }
  stages := []
  held := []

end State

/-- One event.  Files may have changed before a load, and a call can be over only once. -/
inductive Step (client : Http.Client) : State → Event → State → Prop
  | load {s : State} (settings : LoaderSettings) (library : Library) (files : Files)
      (integrations : List Integration) :
      Step client s (.load (Loaded.load settings library files integrations))
        { s with session :=
            s.session.keepLoaded (Loaded.load settings library files integrations) }
  | compile {s : State} (document name id : Value) :
      Step client s (.compile (Compile.document document name id))
        { s with session := s.session.keepCompiled (Compile.document document name id) }
  | merge {s : State} :
      Step client s (.merge s.session.merge.2.1) { s with session := s.session.merge.1 }
  | publish {s : State} (source : Source) :
      Step client s
        (.publish source (source.registry s.session)
          (s.session.publishRegistry (source.registry s.session)).2)
        { s with
          session := (s.session.publishRegistry (source.registry s.session)).1
          held := s.held ++ [(s.session.publishRegistry (source.registry s.session)).2] }
  | snapshot {s : State} :
      Step client s (.snapshot s.current)
        { s with session := s.session.takeSnapshot, held := s.held ++ [s.current] }
  | start {s : State} (call : Call) :
      Step client s (.start s.stages.length call (call.message client s.current))
        { s with stages := s.stages ++ [Stage.start (call.message client s.current)] }
  | finish {s : State} {place : Nat} {m : Reported Http.Message} (reply : Reply)
      (waits : s.stages[place]? = some (.waiting m)) :
      Step client s (.finish place reply (send client m reply))
        { s with stages := s.stages.set place (.ended (send client m reply)) }

/-- What can happen, and the states it leads to. -/
inductive Run (client : Http.Client) (files : Files) (first : Registry) :
    List Event → State → Prop
  | nil : Run client files first [] (State.begin files first)
  | snoc {es : List Event} {e : Event} {s t : State} (before : Run client files first es s)
      (last : Step client s e t) : Run client files first (es ++ [e]) t

/-! ## §2. What one event changes. -/

section OneStep

variable {client : Http.Client} {s t : State} {e : Event}

theorem catalog_keepLoaded (loaded : Reported Loaded) (s : Session) :
    (s.keepLoaded loaded).catalog = s.catalog ∧ (s.keepLoaded loaded).snapshot = s.snapshot := by
  unfold Session.keepLoaded
  split <;> exact ⟨rfl, rfl⟩

theorem catalog_keepCompiled (compiled : Reported Compiled) (s : Session) :
    (s.keepCompiled compiled).catalog = s.catalog
      ∧ (s.keepCompiled compiled).snapshot = s.snapshot := by
  unfold Session.keepCompiled
  split <;> exact ⟨rfl, rfl⟩

/-- **Only publishing changes the published registry.** -/
theorem current_step (h : Step client s e t) : t.current = e.published?.getD s.current := by
  cases h with
  | load settings library files integrations =>
      exact congrArg Catalog.current (catalog_keepLoaded _ _).1
  | compile document name id =>
      exact congrArg Catalog.current (catalog_keepCompiled _ _).1
  | merge => rfl
  | publish source => rfl
  | snapshot => rfl
  | start call => rfl
  | finish reply waits => rfl

/-- The caller keeps what it holds, and gets what the event hands out. -/
theorem held_step (h : Step client s e t) : t.held = s.held ++ e.handed?.toList := by
  cases h with
  | publish source => rfl
  | snapshot => rfl
  | _ => exact (List.append_nil _).symm

/-- Loading, and starting and finishing calls. -/
def Event.isWork : Event → Bool
  | load _ => true
  | start .. => true
  | finish .. => true
  | _ => false

/-- **Loads and calls leave what is published and all snapshots as they are**, also those that
fail. -/
theorem work_step (h : Step client s e t) (work : e.isWork = true) :
    t.current = s.current ∧ t.session.snapshot = s.session.snapshot ∧ t.held = s.held := by
  have current := current_step h
  have held := held_step h
  cases h with
  | load settings library files integrations =>
      exact ⟨current, (catalog_keepLoaded _ _).2, rfl⟩
  | start call => exact ⟨rfl, rfl, rfl⟩
  | finish reply waits => exact ⟨rfl, rfl, rfl⟩
  | _ => exact absurd work Bool.false_ne_true

theorem publish_step {source : Source} {new old : Registry}
    (h : Step client s (.publish source new old) t) :
    new = source.registry s.session ∧ old = s.current := by
  cases h
  exact ⟨rfl, rfl⟩

theorem start_step {place : Nat} {call : Call} {m : Reported Http.Message}
    (h : Step client s (.start place call m) t) :
    place = s.stages.length ∧ m = call.message client s.current := by
  cases h
  exact ⟨rfl, rfl⟩

theorem snapshot_step {r : Registry} (h : Step client s (.snapshot r) t) : r = s.current := by
  cases h
  rfl

theorem finish_step {place : Nat} {reply : Reply} {x : Execution}
    (h : Step client s (.finish place reply x) t) :
    ∃ m, s.stages[place]? = some (.waiting m) ∧ x = send client m reply := by
  cases h with
  | finish reply waits => exact ⟨_, waits, rfl⟩

end OneStep

/-! ## §3. What every run keeps. -/

section Runs

variable {client : Http.Client} {files : Files} {first : Registry} {es : List Event} {s : State}

theorem lastPublished_concat (first : Registry) (es : List Event) (e : Event) :
    lastPublished first (es ++ [e]) = e.published?.getD (lastPublished first es) := by
  unfold lastPublished
  rw [List.filterMap_append]
  cases published : e.published? with
  | none => simp [published]
  | some r => simp [published]

/-- **What is published is what was published last.** -/
theorem current_of_run (run : Run client files first es s) : s.current = lastPublished first es := by
  induction run with
  | nil => rfl
  | snoc before last ih => rw [current_step last, lastPublished_concat, ih]

theorem held_of_run (run : Run client files first es s) : s.held = es.filterMap Event.handed? := by
  induction run with
  | nil => rfl
  | @snoc es e s t before last ih =>
      rw [held_step last, List.filterMap_append, ih]
      cases handed : e.handed? <;> simp [handed]

/-- A run can be cut in front of any of its events. -/
theorem exists_step_of_run {before after : List Event} {e : Event}
    (run : Run client files first (before ++ e :: after) s) :
    ∃ u v, Run client files first before u ∧ Step client u e v := by
  -- the run grows at its end: its last event is the one in question, or one behind it
  generalize whole : before ++ e :: after = es at run
  induction run generalizing after with
  | nil => exact absurd whole (by simp)
  | @snoc es f s t earlier last ih =>
      rcases List.eq_nil_or_concat after with rfl | ⟨others, g, rfl⟩
      · obtain ⟨rfl, same⟩ := List.append_inj' whole rfl
        injection same with same
        subst same
        exact ⟨s, t, earlier, last⟩
      · have shorter : (before ++ e :: others) ++ [g] = es ++ [f] := by
          rw [← whole]
          simp
        exact ih (List.append_inj' shorter rfl).1

/-- A call that has started waits with its message, or is over. -/
theorem stage_of_start {place : Nat} {call : Call} {m : Reported Http.Message}
    (run : Run client files first es s) (started : .start place call m ∈ es) :
    s.stages[place]? = some (Stage.start m) ∨ ∃ x, s.stages[place]? = some (.ended x) := by
  induction run with
  | nil => exact absurd started (List.not_mem_nil)
  | @snoc es e s t before last ih =>
      rw [List.mem_append, List.mem_singleton] at started
      rcases started with earlier | now
      · have stage := ih earlier
        have inside : place < s.stages.length := by
          rcases stage with waits | ⟨x, ended⟩
          · exact (List.getElem?_eq_some_iff.mp waits).1
          · exact (List.getElem?_eq_some_iff.mp ended).1
        cases last with
        | start other =>
            show (s.stages ++ [_])[place]? = _ ∨ ∃ x, (s.stages ++ [_])[place]? = _
            rw [List.getElem?_append_left inside]
            exact stage
        | @finish other m' reply waits =>
            show (s.stages.set other _)[place]? = _ ∨ ∃ x, (s.stages.set other _)[place]? = _
            -- finishing ends one call and leaves the others
            by_cases same : other = place
            · subst same
              right
              exact ⟨_, List.getElem?_set_self inside⟩
            · rw [List.getElem?_set_ne same]
              exact stage
        | _ => exact stage
      · subst now
        obtain ⟨rfl, rfl⟩ := start_step last
        cases last
        left
        exact List.getElem?_concat_length

/-- Whatever waits has started. -/
theorem start_of_waiting {place : Nat} {m : Reported Http.Message}
    (run : Run client files first es s) (waits : s.stages[place]? = some (.waiting m)) :
    ∃ call, .start place call m ∈ es := by
  induction run with
  | nil => exact absurd waits (by simp [State.begin])
  | @snoc es e s t before last ih =>
      have earlier (old : s.stages[place]? = some (.waiting m)) :
          ∃ call, .start place call m ∈ es ++ [e] := by
        obtain ⟨call, mem⟩ := ih old
        exact ⟨call, List.mem_append_left _ mem⟩
      cases last with
      | start call =>
          have stage : (s.stages ++ [Stage.start (call.message client s.current)])[place]?
              = some (.waiting m) := waits
          by_cases old : place < s.stages.length
          · rw [List.getElem?_append_left old] at stage
            exact earlier stage
          · -- it is the call that has just started
            have inside := (List.getElem?_eq_some_iff.mp stage).1
            rw [List.length_append, List.length_singleton] at inside
            have here : place = s.stages.length := by omega
            subst here
            rw [List.getElem?_concat_length, Option.some.injEq] at stage
            rw [← Stage.eq_of_start_eq_waiting stage]
            exact ⟨call, List.mem_append_right _ (List.mem_singleton_self _)⟩
      | @finish other m' reply waiting =>
          have stage : (s.stages.set other (.ended (send client m' reply)))[place]?
              = some (.waiting m) := waits
          by_cases same : other = place
          · subst same
            have inside := (List.getElem?_eq_some_iff.mp waiting).1
            rw [List.getElem?_set_self inside] at stage
            exact absurd stage (by simp)
          · rw [List.getElem?_set_ne same] at stage
            exact earlier stage
      | _ => exact earlier waits

/-! ## §4. Where published registries come from. -/

/-- A registry that was put together at once: the initial one, an empty one, one that the caller
gave, or what a single load or merge has built. -/
inductive Whole (first : Registry) (es : List Event) : Registry → Prop
  | initial : Whole first es first
  | empty : Whole first es Registry.empty
  | given {r old : Registry} (mem : .publish (.given r) r old ∈ es) : Whole first es r
  | loaded {x : Reported Loaded} {l : Loaded} (mem : .load x ∈ es) (answer : x.outcome = .ok l) :
      Whole first es l.registry
  | merged {r : Registry} (mem : .merge r ∈ es) : Whole first es r

theorem Whole.mono {es fs : List Event} {r : Registry} (sub : es ⊆ fs) (h : Whole first es r) :
    Whole first fs r := by
  cases h with
  | initial => exact .initial
  | empty => exact .empty
  | given mem => exact .given (sub mem)
  | loaded mem answer => exact .loaded (sub mem) answer
  | merged mem => exact .merged (sub mem)

/-- All registries of a session were put together at once. -/
structure AllWhole (first : Registry) (es : List Event) (s : Session) : Prop where
  current : Whole first es s.catalog.current
  last : ∀ r, s.last = some r → Whole first es r
  snapshot : ∀ r, s.snapshot = some r → Whole first es r

theorem AllWhole.mono {es fs : List Event} {s : Session} (sub : es ⊆ fs)
    (h : AllWhole first es s) : AllWhole first fs s where
  current := h.current.mono sub
  last r built := (h.last r built).mono sub
  snapshot r kept := (h.snapshot r kept).mono sub

theorem AllWhole.registry {source : Source} {old : Registry} {s : Session}
    (h : AllWhole first es s) (mem : .publish source (source.registry s) old ∈ es) :
    Whole first es (source.registry s) := by
  cases source with
  | built =>
      show Whole first es (s.last.getD Registry.empty)
      cases built : s.last with
      | none => exact .empty
      | some r => exact h.last r built
  | kept =>
      show Whole first es (s.snapshot.getD Registry.empty)
      cases kept : s.snapshot with
      | none => exact .empty
      | some r => exact h.snapshot r kept
  | given r => exact .given mem

theorem allWhole_step {t : State} {e : Event} (h : Step client s e t)
    (whole : AllWhole first es s.session) : AllWhole first (es ++ [e]) t.session := by
  have old : AllWhole first (es ++ [e]) s.session := whole.mono (List.subset_append_left _ _)
  have now : e ∈ es ++ [e] := List.mem_append_right _ (List.mem_singleton_self e)
  -- only loads and merges build registries; the other events pass on what is there
  cases h with
  | load settings library files integrations =>
      dsimp only
      unfold Session.keepLoaded
      split
      next l answer =>
        refine ⟨old.current, ?_, old.snapshot⟩
        intro r built
        injection built with built
        rw [← built]
        exact .loaded now answer
      next => exact old
  | compile document name id =>
      dsimp only
      unfold Session.keepCompiled
      split
      next => exact ⟨old.current, old.last, old.snapshot⟩
      next => exact old
  | merge =>
      refine ⟨old.current, ?_, old.snapshot⟩
      intro r built
      injection built with built
      rw [← built]
      exact .merged now
  | publish source => exact ⟨old.registry now, old.last, old.snapshot⟩
  | snapshot =>
      refine ⟨old.current, old.last, ?_⟩
      intro r kept
      injection kept with kept
      rw [← kept]
      exact old.current
  | start call => exact old
  | finish reply waits => exact old

theorem allWhole_of_run (run : Run client files first es s) : AllWhole first es s.session := by
  induction run with
  | nil =>
      refine ⟨.initial, ?_, ?_⟩
      · intro r built
        exact absurd built (by simp [State.begin, Session.start])
      · intro r kept
        exact absurd kept (by simp [State.begin, Session.start])
  | snoc before last ih => exact allWhole_step last ih

/-! ## §5. The whole run. -/

/-- What is true of the events of a run and of the state that it leads to. -/
structure Atomic (client : Http.Client) (first : Registry) (es : List Event) (s : State) :
    Prop where
  /-- what is published is what was published last -/
  current : s.current = lastPublished first es
  /-- publishing gives back what was published before -/
  replaced : ∀ before source new old after, es = before ++ .publish source new old :: after →
    old = lastPublished first before
  /-- a call that starts is built against what was published last … -/
  built : ∀ before place call m after, es = before ++ .start place call m :: after →
    m = call.message client (lastPublished first before)
  /-- … from the entry of its tool, or not at all if there is none -/
  entry : ∀ before place call m after, es = before ++ .start place call m :: after →
    ∀ action arguments n, call.wanted.read = .ok (action, arguments) → action.name = .str n →
      m = match Table.get? n (lastPublished first before).requests with
        | some request => messageFor client request call.settings action arguments call.credential
        | none => Reported.fail (.toolNotFound n)
  /-- when the reply comes, that message has been sent, whatever was published in between -/
  sent : ∀ before place call m between reply x after,
    es = before ++ .start place call m :: (between ++ .finish place reply x :: after) →
      x = send client m reply
  /-- nothing is finished that has not started -/
  begun : ∀ before place reply x after, es = before ++ .finish place reply x :: after →
    ∃ call m, .start place call m ∈ before
  /-- loads and calls leave what is published and all snapshots as they are -/
  kept : ∀ e t, Step client s e t → e.isWork = true →
    t.current = s.current ∧ t.session.snapshot = s.session.snapshot ∧ t.held = s.held
  /-- the caller still holds all that was handed out, and a snapshot is what was published last -/
  held : s.held = es.filterMap Event.handed?
  taken : ∀ before r after, es = before ++ .snapshot r :: after → r = lastPublished first before
  /-- what a call is built against was put together at once, so never from two loads -/
  whole : ∀ before place call m after, es = before ++ .start place call m :: after →
    Whole first before (lastPublished first before)

/-- **REGISTRIES ARE SWAPPED WHOLE**, in every run however its events are interleaved. -/
theorem atomic_of_run (run : Run client files first es s) : Atomic client first es s := by
  constructor
  case current => exact current_of_run run
  case replaced =>
    rintro before source new old after rfl
    obtain ⟨u, v, earlier, step⟩ := exists_step_of_run run
    rw [(publish_step step).2, current_of_run earlier]
  case built =>
    rintro before place call m after rfl
    obtain ⟨u, v, earlier, step⟩ := exists_step_of_run run
    rw [(start_step step).2, current_of_run earlier]
  case entry =>
    rintro before place call m after rfl action arguments n read name
    obtain ⟨u, v, earlier, step⟩ := exists_step_of_run run
    rw [(start_step step).2, current_of_run earlier]
    exact Call.message_of_read read name _
  case sent =>
    rintro before place call m between reply x after rfl
    -- the run is cut in front of the end of the call, so that its start lies before
    have cut : before ++ .start place call m :: (between ++ .finish place reply x :: after)
        = (before ++ .start place call m :: between) ++ .finish place reply x :: after := by simp
    rw [cut] at run
    obtain ⟨u, v, earlier, step⟩ := exists_step_of_run run
    obtain ⟨m', waits, sent⟩ := finish_step step
    have started : .start place call m ∈ before ++ .start place call m :: between := by simp
    -- the call waits with the message that it started with
    rcases stage_of_start earlier started with stage | ⟨_, ended⟩
    · rw [waits, Option.some.injEq] at stage
      rw [sent, Stage.eq_of_start_eq_waiting stage.symm]
    · rw [waits] at ended
      exact absurd ended (by simp)
  case begun =>
    rintro before place reply x after rfl
    obtain ⟨u, v, earlier, step⟩ := exists_step_of_run run
    obtain ⟨m, waits, _⟩ := finish_step step
    obtain ⟨call, started⟩ := start_of_waiting earlier waits
    exact ⟨call, m, started⟩
  case kept => exact fun e t step work => work_step step work
  case held => exact held_of_run run
  case taken =>
    rintro before r after rfl
    obtain ⟨u, v, earlier, step⟩ := exists_step_of_run run
    rw [snapshot_step step, current_of_run earlier]
  case whole =>
    rintro before place call m after rfl
    obtain ⟨u, v, earlier, step⟩ := exists_step_of_run run
    have current : Whole first before u.current := (allWhole_of_run earlier).current
    rwa [current_of_run earlier] at current

end Runs

/-! ## §6. A reload between two calls. -/

/-- A registry with one tool, whose path names a version. -/
def usersRegistry (version : String) : Registry :=
  ⟨[("SHOP_GET_USER",
    { method := "get", path := "/" ++ version ++ "/users/\x7bid\x7d", parameters := []
      baseUrl := .str "https://shop.test" })]⟩

def userCall (name : String) : Call where
  settings := {
    baseUrl := "https://proxy.test", projectId := "p"
    urlHeader := ProxySettings.defaultUrlHeader
    rawResponseHeader := ProxySettings.defaultRawResponseHeader }
  wanted :=
    ⟨.inl ⟨.str name, .str "shop", .null⟩, .inl ⟨.mapping (p := none) [(.str "id", .int 7)], .null⟩⟩
  credential := .str "jwt"

def userReply : Reply := .answered 200 [0x31]

/-- The message that the version of a registry leads to. -/
def userMessage (version : String) : Reported Http.Message :=
  (userCall "SHOP_GET_USER").message .standard (usersRegistry version)

/-- The downstream URLs that the messages of an execution have named. -/
def downstreamUrls (x : Execution) : List String :=
  x.sent.flatMap fun m => m.headers.filterMap fun h =>
    if h.1 = ProxySettings.defaultUrlHeader then some h.2 else none

/-- A load of two files that ends with the failure of one. -/
def brokenLoad : Reported Loaded :=
  Loaded.load ⟨"openapi", 2, true⟩ .standard Loaded.mixedFiles Loaded.mixedIntegrations

/-- A load fails, and a registry is published between two calls, of which the earlier one is over
last; a third call names no tool. -/
def reloadEvents : List Event := [
  .load brokenLoad,
  .start 0 (userCall "SHOP_GET_USER") (userMessage "v1"),
  .publish (.given (usersRegistry "v2")) (usersRegistry "v2") (usersRegistry "v1"),
  .start 1 (userCall "SHOP_GET_USER") (userMessage "v2"),
  .start 2 (userCall "SHOP_GET_ORDER") (Reported.fail (.toolNotFound "SHOP_GET_ORDER")),
  .finish 1 userReply (send .standard (userMessage "v2") userReply),
  .finish 0 userReply (send .standard (userMessage "v1") userReply)]

theorem keepLoaded_brokenLoad (s : Session) : s.keepLoaded brokenLoad = s := by
  have fails : (brokenLoad.outcome.map fun l => l.tools.map (·.name)).toOption = none := by
    rw [brokenLoad, Loaded.load_eq_loadBy,
      Loaded.loadBy_of_found ⟨"openapi", 2, true⟩ Loaded.discover_mixedFiles]
    decide +kernel
  unfold Session.keepLoaded
  cases outcome : brokenLoad.outcome with
  | error f => rfl
  | ok l =>
      rw [outcome, map_ok, toOption_ok] at fails
      exact absurd fails (by simp)

theorem start_userMessage :
    Stage.start (userMessage "v1") = .waiting (userMessage "v1")
      ∧ Stage.start (userMessage "v2") = .waiting (userMessage "v2") := by
  have built : ∀ m : Reported Http.Message, (m.outcome.map (·.method)).toOption = some "GET" →
      Stage.start m = .waiting m := by
    intro m sent
    unfold Stage.start
    cases outcome : m.outcome with
    | ok _ => rfl
    | error f =>
        rw [outcome] at sent
        exact absurd sent (by simp)
  exact ⟨built _ (by decide +kernel), built _ (by decide +kernel)⟩

theorem message_unknown : (userCall "SHOP_GET_ORDER").message .standard (usersRegistry "v2")
    = Reported.fail (.toolNotFound "SHOP_GET_ORDER") := by
  have missing : Table.get? "SHOP_GET_ORDER" (usersRegistry "v2").requests = none := by decide
  rw [Call.message_of_read rfl rfl, missing]

/-- A session that has published a version. -/
def usersState (version : String) (stages : List Stage) (held : List Registry) : State where
  session := { Session.start Files.empty with catalog := ⟨usersRegistry version⟩ }
  stages := stages
  held := held

theorem step_user (stages : List Stage) (held : List Registry) (version : String)
    (waits : Stage.start (userMessage version) = .waiting (userMessage version)) :
    Step .standard (usersState version stages held)
      (.start stages.length (userCall "SHOP_GET_USER") (userMessage version))
      (usersState version (stages ++ [.waiting (userMessage version)]) held) := by
  rw [← waits]
  exact Step.start (userCall "SHOP_GET_USER")

theorem run_reload :
    Run .standard Files.empty (usersRegistry "v1") reloadEvents
      (usersState "v2"
        [.ended (send .standard (userMessage "v1") userReply),
          .ended (send .standard (userMessage "v2") userReply),
          Stage.start (Reported.fail (.toolNotFound "SHOP_GET_ORDER"))]
        [usersRegistry "v1"]) := by
  have loaded : Step .standard (usersState "v1" [] []) (.load brokenLoad) (usersState "v1" [] []) := by
    have step : Step .standard (usersState "v1" [] []) _ _ :=
      .load ⟨"openapi", 2, true⟩ .standard Loaded.mixedFiles Loaded.mixedIntegrations
    rw [← brokenLoad, keepLoaded_brokenLoad] at step
    exact step
  have published : Step .standard (usersState "v1" [.waiting (userMessage "v1")] [])
      (.publish (.given (usersRegistry "v2")) (usersRegistry "v2") (usersRegistry "v1"))
      (usersState "v2" [.waiting (userMessage "v1")] [usersRegistry "v1"]) :=
    Step.publish (.given (usersRegistry "v2"))
  have unknown : Step .standard
      (usersState "v2" [.waiting (userMessage "v1"), .waiting (userMessage "v2")]
        [usersRegistry "v1"])
      (.start 2 (userCall "SHOP_GET_ORDER") (Reported.fail (.toolNotFound "SHOP_GET_ORDER")))
      (usersState "v2"
        [.waiting (userMessage "v1"), .waiting (userMessage "v2"),
          Stage.start (Reported.fail (.toolNotFound "SHOP_GET_ORDER"))]
        [usersRegistry "v1"]) := by
    rw [← message_unknown]
    exact Step.start (userCall "SHOP_GET_ORDER")
  have started := (((((Run.nil.snoc loaded).snoc (step_user [] [] "v1" start_userMessage.1)).snoc
    published).snoc (step_user _ _ "v2" start_userMessage.2)).snoc unknown)
  exact (started.snoc (.finish userReply rfl)).snoc (.finish userReply rfl)

/-- Each call is sent by the registry that was there when it started. -/
theorem atomic_of_run_reload :
    (∃ s, Run .standard Files.empty (usersRegistry "v1") reloadEvents s
        ∧ Atomic .standard (usersRegistry "v1") reloadEvents s)
      ∧ downstreamUrls (send .standard (userMessage "v1") userReply) = ["https://shop.test/v1/users/7"]
      ∧ downstreamUrls (send .standard (userMessage "v2") userReply) = ["https://shop.test/v2/users/7"] :=
  ⟨⟨_, run_reload, atomic_of_run run_reload⟩, by decide +kernel, by decide +kernel⟩

end ApiTools.Publication
