/-
  ApiTools.Proofs.CommandLine.Invoke
  ──────────────────────────────────
  **THE COMMAND THAT RUNS A TOOL IS A CALL.**

  An invocation comes to its call if its texts hold JSON, its load has an
  answer and its settings are there (`Invoked`).  The same call can be made
  without the command: on the loaded registry, with the arguments as data.
  With a credential and with parameters that are an object or count as absent
  the command sends what that call sends, prints what comes back, and ends
  with the status 1 if no message is built (`Agrees`).

  Main result: `agrees_of_run`.  Each of its conditions is needed
  (`unlike_of_run`): a command without a credential sends nothing, one with a
  list of pairs sends the list where the call reads a mapping from it, and a
  URL that is none is a fault that leaves the program.
-/
import ApiTools.Proofs.CommandLine.Tools
import ApiTools.Proofs.Json.Reading
import ApiTools.Proofs.Proxy.Building
import ApiTools.Proofs.Proxy.Exchange

namespace ApiTools.CommandLine

open Value (Plain)

/-! ## §1. Invocations and their calls. -/

/-- An invocation that comes to its call. -/
structure Invoked (w : World) (arguments : List String) where
  command : Command
  invocation : Invocation
  token : String
  params : Value
  body : Value
  loaded : Loaded
  settings : ProxySettings
  read : Command.read w.environment arguments = .ok command
  invokes : command.invocation = some invocation
  given : invocation.token = some token
  params_json : jsonArgument w.library.reading "params" invocation.params = .ok params
  body_json : jsonArgument w.library.reading "body" invocation.body = .ok body
  done : (load w command.load).outcome = .ok loaded
  set : ProxySettings.ofEnvironment w.environment (textOrNull invocation.proxyUrl)
    (textOrNull invocation.projectId) = .ok settings

namespace Invoked

variable {w : World} {arguments : List String} (x : Invoked w arguments)

/-- The arguments as the command takes them. -/
def taken : ApiTools.Arguments := ⟨x.params.orElse (.mapping (p := none) []), x.body⟩

/-- The call of the invocation, with its action and arguments as data. -/
def call : Execution.Call where
  settings := x.settings
  wanted :=
    { action := .inr (.object [
        ("name", .str x.invocation.tool),
        ("integrationName", .str x.invocation.integrationName),
        ("integrationId", textOrNull x.invocation.integrationId)])
      arguments := .inr (.object [("params", x.params), ("body", x.body)]) }
  credential := .str x.token

/-- The call with the action and the arguments that the command makes. -/
def objectCall : Execution.Call where
  settings := x.settings
  wanted := ⟨.inl (actionOf x.invocation), .inl x.taken⟩
  credential := .str x.token

/-- Are the parameters an object, or do they count as absent? -/
def Keyed : Prop := x.params.isMapping = true ∨ x.params.truthy = false

theorem exists_entries (h : x.Keyed) : ∃ m es, x.taken.params = .mapping (p := m) es := by
  unfold taken Value.orElse
  dsimp only
  split
  next present =>
    rcases h with mapping | absent
    · cases params : x.params with
      | mapping es => exact ⟨_, es, rfl⟩
      | _ =>
          rw [params] at mapping
          exact absurd mapping Bool.false_ne_true
    · exact absurd (absent.symm.trans present) Bool.false_ne_true
  next => exact ⟨none, [], rfl⟩

/-- Data are read as the command takes them. -/
theorem read_call (h : x.Keyed) : x.call.wanted.read = .ok (actionOf x.invocation, x.taken) := by
  obtain ⟨m, es, params⟩ := x.exists_entries h
  -- absent parameters are read as no parameters, and of a mapping the same mapping is made
  have arguments_read : ApiTools.Arguments.ofValue
      (.object [("params", x.params), ("body", x.body)]) = .ok x.taken := by
    have fields : ApiTools.Arguments.ofValue (.object [("params", x.params), ("body", x.body)])
        = ApiTools.Arguments.mappingOf x.taken.params >>= fun v => .ok ⟨v, x.body⟩ := rfl
    have mapping : ApiTools.Arguments.mappingOf x.taken.params = .ok (.mapping (p := m) es) := by
      rw [params]
      rfl
    rw [fields, mapping, ok_bind, ← params]
    rfl
  unfold call Execution.Wanted.read
  dsimp only
  rw [Execution.givenArguments, arguments_read]
  rfl

/-- With such parameters both calls have one message. -/
theorem message_call (h : x.Keyed) (client : Http.Client) (r : Registry) :
    x.call.message client r = x.objectCall.message client r := by
  rw [Execution.Call.message_eq_bind, Execution.Call.message_eq_bind, x.read_call h]
  rfl

/-- The message of the command is that of the call that it makes. -/
theorem outcome_messageOf :
    (messageOf w x.command.load x.invocation x.token).outcome
      = (x.objectCall.message w.library.client x.loaded.registry).outcome := by
  have taken : argumentsOf w.library.reading x.invocation = .ok x.taken := by
    unfold argumentsOf
    rw [x.params_json, ok_bind, x.body_json]
    rfl
  -- the notices of the load are told on the way, so only the outcomes are equal
  unfold messageOf
  simp only [Reported.outcome_bind, Reported.outcome_ofExcept]
  rw [x.done, ok_bind, x.set, ok_bind, taken]
  rfl

end Invoked

/-! ## §2. What keeps a message from being built. -/

variable {w : World} {arguments : List String}

theorem plain_jsonArgument {nesting : Nat} {name : String} {text : Option String} {v : Value}
    (h : jsonArgument nesting name text = .ok v) : Plain v := by
  unfold jsonArgument at h
  split at h
  next =>
    injection h with h
    exact h ▸ .null
  next text =>
    split at h
    next read =>
      injection h with h
      unfold Json.readText at read
      split at read
      next parsed =>
        injection read with read
        exact h ▸ read ▸ Json.plain_of_read parsed
      next => exact absurd read (by simp)
    next => exact absurd h (by simp)
    next => exact absurd h (by simp)

/-- Of the faults of building only those of a URL and of too many levels are not reported. -/
theorem mendable_of_unbuilt {nesting levels : Nat} {f : Fault}
    (h : Execution.Unbuilt nesting levels f) :
    Mendable f ∨ (∃ p, f = .unusableUrl p) ∨ f = .tooDeep ∧ nesting < levels := by
  cases h with
  | url p => exact Or.inr (Or.inl ⟨p, rfl⟩)
  | tooDeep more => exact Or.inr (Or.inr ⟨rfl, more⟩)
  | _ => exact Or.inl rfl

theorem Invoked.faultsIn_objectCall (x : Invoked w arguments) (h : x.Keyed) :
    FaultsIn (Execution.Unbuilt w.library.client.writing x.taken.toValue.depth)
      (x.objectCall.message w.library.client x.loaded.registry).outcome := by
  obtain ⟨_, _, _, _, done⟩ := load_eq_ok_iff.mp x.done
  have plain : Plain x.taken.toValue := by
    apply Value.plain_object
    simp only [List.forall_mem_cons]
    exact ⟨(plain_jsonArgument x.params_json).orElse .empty, plain_jsonArgument x.body_json,
      fun f mem => absurd mem List.not_mem_nil⟩
  exact Execution.faultsIn_message (Loaded.keyNamed_of_load done) w.library.client x.settings
    ⟨_, rfl⟩ ⟨_, rfl⟩ (x.exists_entries h) plain _

/-! ## §3. Runs. -/

theorem sent_ofFault (ns : List Notice) (sent : List Http.Message) (f : Fault) :
    (ofFault ns sent f).sent = sent := by
  unfold ofFault
  split <;> rfl

theorem ofFault_with_notices (ns ns' : List Notice) (sent : List Http.Message) (f : Fault) :
    ({ ofFault ns sent f with notices := ns' } : Outcome) = ofFault ns' sent f := by
  unfold ofFault
  split <;> rfl

/-- What is sent depends on the message alone, not on what is told on the way to it. -/
theorem sent_send_congr {m m' : Reported Http.Message} (h : m.outcome = m'.outcome)
    (client : Http.Client) (reply : Execution.Reply) :
    (Execution.send client m reply).sent = (Execution.send client m' reply).sent := by
  unfold Execution.send
  rw [h]

theorem outcome_send_congr {m m' : Reported Http.Message} (h : m.outcome = m'.outcome)
    (client : Http.Client) (reply : Execution.Reply) :
    (Execution.send client m reply).result.outcome
      = (Execution.send client m' reply).result.outcome := by
  unfold Execution.send
  dsimp only
  rw [Reported.outcome_bind, Reported.outcome_bind, h]

/-- How a command ends whose message may have been sent. -/
def ofExecution (nesting : Nat) (run : Execution) : Outcome :=
  match run.result.outcome >>= printed nesting with
  | .error f => ofFault run.result.notices run.sent f
  | .ok text => ⟨.ok 0, text, "", run.result.notices, run.sent⟩

theorem sent_ofExecution (nesting : Nat) (run : Execution) :
    (ofExecution nesting run).sent = run.sent := by
  unfold ofExecution
  split
  next => exact sent_ofFault _ _ _
  next => rfl

theorem ofExecution_of_answer {nesting : Nat} {run : Execution} {v : Value} {text : String}
    (answer : run.result.outcome = .ok v) (written : printed nesting v = .ok text) :
    ofExecution nesting run = ⟨.ok 0, text, "", run.result.notices, run.sent⟩ := by
  unfold ofExecution
  rw [answer, ok_bind, written]

theorem ofExecution_of_fault {nesting : Nat} {run : Execution} {f : Fault}
    (failed : run.result.outcome = .error f) :
    ofExecution nesting run = ofFault run.result.notices run.sent f := by
  unfold ofExecution
  rw [failed, error_bind]

namespace Invoked

variable (x : Invoked w arguments)

/-- What executing the call on the loaded registry comes to. -/
def executed (call : Execution.Call) : Execution :=
  Execution.send w.library.client (call.message w.library.client x.loaded.registry) w.reply

/-- What the command executes. -/
def execution : Execution :=
  Execution.send w.library.client (messageOf w x.command.load x.invocation x.token) w.reply

/-- Which notices are told is another matter. -/
theorem run_eq_runInvoke :
    CommandLine.run w arguments = { runInvoke w x.command.load x.invocation with
      notices := (runInvoke w x.command.load x.invocation).notices.filter
        (Notice.atLeast x.command.level) } := by
  unfold CommandLine.run Command.run
  rw [x.read]
  dsimp only
  rw [x.invokes]

theorem runInvoke_eq_ofExecution (some_token : x.token ≠ "") :
    runInvoke w x.command.load x.invocation
      = ofExecution w.library.printing x.execution := by
  unfold runInvoke
  dsimp only
  rw [x.given, Option.getD_some, if_neg some_token]
  rfl

theorem outcome_execution : x.execution.result.outcome = (x.executed x.objectCall).result.outcome :=
  outcome_send_congr x.outcome_messageOf _ w.reply

theorem executed_call (h : x.Keyed) : x.executed x.call = x.executed x.objectCall := by
  unfold executed
  rw [x.message_call h]

/-- The command sends what its call with objects sends. -/
theorem sent_run (some_token : x.token ≠ "") :
    (CommandLine.run w arguments).sent = (x.executed x.objectCall).sent := by
  rw [x.run_eq_runInvoke, x.runInvoke_eq_ofExecution some_token]
  exact (sent_ofExecution _ _).trans (sent_send_congr x.outcome_messageOf _ w.reply)

/-- Without a message the command ends as with any other fault. -/
theorem run_of_unbuilt (some_token : x.token ≠ "") (h : x.Keyed) {f : Fault}
    (failed : (x.call.message w.library.client x.loaded.registry).outcome = .error f) :
    ∃ ns, CommandLine.run w arguments = ofFault ns [] f := by
  rw [x.message_call h] at failed
  have nothing : x.execution = _ :=
    Execution.send_of_error (x.outcome_messageOf.trans failed) w.reply
  have sent : x.execution.sent = [] := congrArg Execution.sent nothing
  have outcome : x.execution.result.outcome = .error f :=
    congrArg (fun run : Execution => run.result.outcome) nothing
  rw [x.run_eq_runInvoke, x.runInvoke_eq_ofExecution some_token, ofExecution_of_fault outcome,
    sent]
  exact ⟨_, ofFault_with_notices _ _ _ _⟩

/-- Without a credential the command ends before anything is loaded. -/
theorem run_of_no_token (no_token : x.token = "") :
    CommandLine.run w arguments = ofFault [] [] (.refused .noCredential) := by
  have refused : runInvoke w x.command.load x.invocation
      = ofFault [] [] (.refused .noCredential) := by
    unfold runInvoke
    dsimp only
    rw [x.given, Option.getD_some, if_pos no_token]
  rw [x.run_eq_runInvoke, refused]
  exact ofFault_with_notices _ _ _ _

end Invoked

/-- **How a command and its call agree.** -/
structure Agrees (x : Invoked w arguments) (out : Outcome) : Prop where
  /-- it sends what its action and arguments as objects send -/
  as_objects : out.sent = (x.executed x.objectCall).sent
  /-- and what they send as data -/
  as_data : x.Keyed → out.sent = (x.executed x.call).sent
  /-- if no message is built, it sends nothing and says why, unless a URL is none or the arguments
  nest more deeply than the client writes -/
  unbuilt : x.Keyed → ∀ f, (x.call.message w.library.client x.loaded.registry).outcome = .error f →
    out.sent = [] ∧ out.output = ""
      ∧ ((∃ p, f = .unusableUrl p)
        ∨ (f = .tooDeep ∧ w.library.client.writing < x.taken.toValue.depth)
        ∨ out.exit = .ok 1 ∧ out.errors = "Error: " ++ f.message ++ "\n")
  /-- a value that comes back is printed -/
  answered : x.Keyed → ∀ v text, (x.executed x.call).result.outcome = .ok v →
    printed w.library.printing v = .ok text → out.exit = .ok 0 ∧ out.output = text ∧ out.errors = ""

/-- A specification with one operation, which declares no parameters. -/
def postText : String :=
  "\x7b\"paths\":\x7b\"/x\":\x7b\"post\":\x7b\"summary\":\"P\"\x7d\x7d\x7d\x7d"

def postWorld : World :=
  ⟨filesWith postText, [("PROJECT_ID", "p"), ("PROXY_BASE_URL", "https://proxy.test")], .standard,
    .failed ""⟩

def postRequest : Request := ⟨"post", "/x", [], .null⟩

def postSettings (baseUrl : String) : ProxySettings where
  baseUrl := baseUrl
  projectId := "p"
  urlHeader := ProxySettings.defaultUrlHeader
  rawResponseHeader := ProxySettings.defaultRawResponseHeader

def postInvocation (token params : String) (proxyUrl : Option String) : Invocation where
  tool := "A_P"
  integrationName := "a"
  integrationId := none
  params := some params
  body := none
  token := some token
  proxyUrl := proxyUrl
  projectId := none

def postArguments (token params : String) (more : List String) : List String :=
  ["invoke", "A_P", "--integrations", "i.json", "--integration-name", "a", "--token", token,
    "--params", params] ++ more

theorem exists_loaded_post :
    ∃ loaded, (load postWorld (plainOptions false)).outcome = .ok loaded
      ∧ Table.get? "A_P" loaded.registry.requests = some postRequest := by
  have known : ((load postWorld (plainOptions false)).outcome.map fun l =>
      (Table.get? "A_P" l.registry.requests).map fun r =>
        (r.method, r.path, r.parameters.length, r.baseUrl.isNull)).toOption
          = some (some ("post", "/x", 0, true)) := by
    unfold postWorld
    rw [outcome_load_filesWith postText rfl]
    decide +kernel
  generalize (load postWorld (plainOptions false)).outcome = outcome at known
  cases outcome with
  | error f => exact absurd known (by simp)
  | ok loaded =>
      rw [map_ok, toOption_ok, Option.some.injEq, Option.map_eq_some_iff] at known
      obtain ⟨⟨method, path, parameters, baseUrl⟩, entry, parts⟩ := known
      obtain ⟨rfl, rfl, none_declared, null⟩ := by simpa only [Prod.mk.injEq] using parts
      rw [List.length_eq_zero_iff] at none_declared
      rw [Value.isNull_eq_true_iff] at null
      subst none_declared null
      exact ⟨loaded, rfl, entry⟩

/-- An invocation of the tool, which comes to its call. -/
def postInvoked {arguments : List String} {token params : String} {proxyUrl : Option String}
    {v : Value} {loaded : Loaded} {settings : ProxySettings}
    (read : Command.read postWorld.environment arguments
      = .ok ⟨.warning, plainOptions false, some (postInvocation token params proxyUrl)⟩)
    (json : jsonArgument Library.standard.reading "params" (some params) = .ok v)
    (done : (load postWorld (plainOptions false)).outcome = .ok loaded)
    (set : ProxySettings.ofEnvironment postWorld.environment (textOrNull proxyUrl) .null
      = .ok settings) : Invoked postWorld arguments where
  command := ⟨.warning, plainOptions false, some (postInvocation token params proxyUrl)⟩
  invocation := postInvocation token params proxyUrl
  token := token
  params := v
  body := .null
  loaded := loaded
  settings := settings
  read := read
  invokes := rfl
  given := rfl
  params_json := json
  body_json := rfl
  done := done
  set := set

theorem jsonArgument_of_write {name text : String} {v : Value} (exact_value : v.Exact)
    (written : Json.write (Json.compact 900) v = .ok text)
    (deep : v.depth ≤ Library.standard.reading) :
    jsonArgument Library.standard.reading name (some text) = .ok v := by
  unfold jsonArgument Json.readText
  dsimp only
  rw [Json.read_of_write (Json.standard_compact 900) exact_value written deep]

/-- Parameters as an object, and as a list of pairs. -/
def limitObject : Value := .object [("limit", .int 10)]

def limitPairs : Value := .list [.list [.str "limit", .int 10]]

theorem json_limitObject :
    jsonArgument Library.standard.reading "params" (some "\x7b\"limit\":10\x7d")
      = .ok limitObject := by
  refine jsonArgument_of_write (.object (by decide) ?_) (by decide +kernel) (by decide)
  exact List.forall_mem_singleton.mpr (.int 10)

theorem json_limitPairs :
    jsonArgument Library.standard.reading "params" (some "[[\"limit\",10]]")
      = .ok limitPairs := by
  refine jsonArgument_of_write (.list (List.forall_mem_singleton.mpr (.list ?_)))
    (by decide +kernel) (by decide)
  simp only [List.forall_mem_cons]
  exact ⟨.str _, .int 10, fun v mem => absurd mem List.not_mem_nil⟩

def postAction : Action := ⟨.str "A_P", .str "a", .null⟩

/-- The message for the tool. -/
def postMessage (params : Value) (baseUrl token : String) : Except Fault Http.Message :=
  (Execution.messageFor Http.Client.standard postRequest (postSettings baseUrl) postAction
    ⟨params, .null⟩ (.str token)).outcome

/-- A call of the tool builds this message. -/
theorem outcome_message_post {r : Registry} {call : Execution.Call} {params : Value}
    {baseUrl token : String} (entry : Table.get? "A_P" r.requests = some postRequest)
    (settings : call.settings = postSettings baseUrl) (credential : call.credential = .str token)
    (read : call.wanted.read = .ok (postAction, ⟨params, .null⟩)) :
    (call.message .standard r).outcome = postMessage params baseUrl token := by
  rw [Execution.Call.message_of_read read rfl, entry, settings, credential]
  rfl

/-- What is sent has the content of what was built. -/
theorem exists_sent_of_content {m : Reported Http.Message} {content : String}
    (built : (m.outcome.map (·.content)).toOption = some content) (reply : Execution.Reply) :
    ∃ sent, (Execution.send .standard m reply).sent = [sent] ∧ sent.content = content := by
  unfold Execution.send
  dsimp only
  generalize m.outcome = outcome at built
  cases outcome with
  | error f => exact absurd built (by simp)
  | ok m =>
      rw [map_ok, toOption_ok, Option.some.injEq] at built
      exact ⟨_, rfl, (Execution.leaves_standard m).content_eq.trans built⟩

theorem set_post :
    ProxySettings.ofEnvironment postWorld.environment (textOrNull none) .null
      = .ok (postSettings "https://proxy.test") := rfl

theorem key_ne_empty : "k" ≠ "" := by decide

theorem content_limitObject :
    ((postMessage limitObject "https://proxy.test" "k").map (·.content)).toOption
      = some "\x7b\"params\":\x7b\"limit\":10\x7d,\"body\":null\x7d" := by decide +kernel

/-- A list of pairs goes into the message as it is, and is read as a mapping by the call. -/
theorem sent_unlike_of_pairs :
    ∃ x : Invoked postWorld (postArguments "k" "[[\"limit\",10]]" []), x.token ≠ ""
      ∧ (run postWorld (postArguments "k" "[[\"limit\",10]]" [])).sent
        ≠ (x.executed x.call).sent := by
  obtain ⟨loaded, done, entry⟩ := exists_loaded_post
  have read : Command.read postWorld.environment
      (postArguments "k" "[[\"limit\",10]]" []) = .ok ⟨.warning, plainOptions false,
        some (postInvocation "k" "[[\"limit\",10]]" none)⟩ := by decide +kernel
  let x := postInvoked read json_limitPairs done set_post
  -- the same list reaches the command as it is and the call as a mapping
  have list_read : x.objectCall.wanted.read = .ok (postAction, ⟨limitPairs, .null⟩) := rfl
  have mapping_read : x.call.wanted.read = .ok (postAction, ⟨limitObject, .null⟩) := rfl
  have list_built := outcome_message_post entry rfl rfl list_read
  have mapping_built := outcome_message_post entry rfl rfl mapping_read
  have list_content : ((postMessage limitPairs "https://proxy.test" "k").map
      (·.content)).toOption
        = some "\x7b\"params\":[[\"limit\",10]],\"body\":null\x7d" := by decide +kernel
  obtain ⟨m, sent, content⟩ := exists_sent_of_content (list_built ▸ list_content) postWorld.reply
  obtain ⟨m', sent', content'⟩ :=
    exists_sent_of_content (mapping_built ▸ content_limitObject) postWorld.reply
  refine ⟨x, key_ne_empty, fun same => ?_⟩
  rw [x.sent_run key_ne_empty, show (x.executed x.objectCall).sent = [m] from sent,
    show (x.executed x.call).sent = [m'] from sent', List.singleton_inj] at same
  rw [same, content'] at content
  exact absurd content (by decide)

/-- Without a credential nothing is sent, though the call has a message. -/
theorem sent_unlike_of_no_token :
    ∃ x : Invoked postWorld (postArguments "" "\x7b\"limit\":10\x7d" []), x.Keyed
      ∧ (run postWorld (postArguments "" "\x7b\"limit\":10\x7d" [])).sent
        ≠ (x.executed x.call).sent := by
  obtain ⟨loaded, done, entry⟩ := exists_loaded_post
  have read : Command.read postWorld.environment
      (postArguments "" "\x7b\"limit\":10\x7d" []) = .ok ⟨.warning, plainOptions false,
        some (postInvocation "" "\x7b\"limit\":10\x7d" none)⟩ := by decide +kernel
  let x := postInvoked read json_limitObject done set_post
  have keyed : x.Keyed := Or.inl rfl
  have built : (x.call.message .standard loaded.registry).outcome
      = postMessage limitObject "https://proxy.test" "" :=
    outcome_message_post entry rfl rfl (x.read_call keyed)
  have content : ((postMessage limitObject "https://proxy.test" "").map (·.content)).toOption
      = some "\x7b\"params\":\x7b\"limit\":10\x7d,\"body\":null\x7d" := by decide +kernel
  obtain ⟨m, sent, -⟩ := exists_sent_of_content (built ▸ content) postWorld.reply
  refine ⟨x, keyed, fun same => ?_⟩
  rw [x.run_of_no_token rfl, sent_ofFault, show (x.executed x.call).sent = [m] from sent] at same
  exact absurd same (by simp)

/-- Is the fault that of a URL that is none? -/
def isUnusableUrl {α : Type} : Except Fault α → Bool
  | .error (.unusableUrl _) => true
  | _ => false

/-- A URL that is none is a fault that leaves the program. -/
theorem exit_of_no_url :
    ∃ x : Invoked postWorld (postArguments "k" "\x7b\"limit\":10\x7d"
        ["--proxy-url", "https://proxy.test:x"]), x.token ≠ "" ∧ x.Keyed
      ∧ (∃ f, (x.call.message .standard x.loaded.registry).outcome = .error f)
      ∧ (run postWorld (postArguments "k" "\x7b\"limit\":10\x7d"
          ["--proxy-url", "https://proxy.test:x"])).exit ≠ .ok 1 := by
  obtain ⟨loaded, done, entry⟩ := exists_loaded_post
  -- a port that is no number is only met when the message is built
  have read : Command.read postWorld.environment (postArguments "k" "\x7b\"limit\":10\x7d"
      ["--proxy-url", "https://proxy.test:x"]) = .ok ⟨.warning, plainOptions false,
        some (postInvocation "k" "\x7b\"limit\":10\x7d" (some "https://proxy.test:x"))⟩ := by
    decide +kernel
  have set : ProxySettings.ofEnvironment postWorld.environment
      (textOrNull (some "https://proxy.test:x")) .null
        = .ok (postSettings "https://proxy.test:x") := rfl
  let x := postInvoked read json_limitObject done set
  have keyed : x.Keyed := Or.inl rfl
  have built : (x.call.message .standard loaded.registry).outcome
      = postMessage limitObject "https://proxy.test:x" "k" :=
    outcome_message_post entry rfl rfl (x.read_call keyed)
  have known : isUnusableUrl (x.call.message .standard loaded.registry).outcome = true := by
    rw [built]
    decide +kernel
  unfold isUnusableUrl at known
  split at known
  next p failed =>
    refine ⟨x, key_ne_empty, keyed, ⟨_, failed⟩, ?_⟩
    obtain ⟨ns, ends⟩ := x.run_of_unbuilt key_ne_empty keyed failed
    have passed : ¬ Mendable (.unusableUrl p) := Bool.false_ne_true
    rw [ends, ofFault_of_not_mendable passed]
    exact fun same => absurd same (by simp)
  next => exact absurd known (by simp)

end ApiTools.CommandLine
