import StakingGateway.Proofs.CrashFree
import StakingGateway.Proofs.FieldPaths
import StakingGateway.Proofs.RequestHandling
import StakingGateway.Proofs.ToolTargets
import StakingGateway.Rehearsal.Chain

/-!
# Three routes to a tool

A tool is reached under the method for calls, under its own name as a method, and by a post over
HTTP. All three run the same program, the call of the tool with the arguments that are meant, and
only put the envelope into a reply of their own. What is posted must have a body: nothing in the
place of a body is no arguments, and is refused. So is a body of more bytes than are read.
-/

namespace StakingGateway.Service

open Tool Chain

namespace ToolCall

/-- The arguments that are meant: nothing and null stand for the object without fields. -/
def meant : Option Json → Json
  | none => .obj []
  | some .null => .obj []
  | some args => args

def written (name : String) (given : Option Json) : Json :=
  .obj (("name", .string name) :: (given.map fun args => ("arguments", args)).toList)

theorem ofJson_written (name : String) (given : Option Json) :
    ∃ call, ofJson (written name given) = .ok call ∧ call.name = name ∧
      call.argumentsOrEmpty = meant given := by
  cases given with
  | none => exact ⟨⟨name, none⟩, rfl, rfl, rfl⟩
  | some args =>
      -- Fields are kept in the order of their names.
      have horder : "arguments" < "name" := by decide
      have hfields : written name (some args) =
          .object [("arguments", args), ("name", .string name)] := by
        simp [written, Json.obj, Json.sortFields, Json.insertField, horder]
      refine ⟨⟨name, (some args).filter (!·.isNull)⟩, hfields ▸ rfl, rfl, ?_⟩
      cases args <;> rfl

theorem params_eq_written (name : String) (given : Option Json) :
    params name given = written name (some (given.getD (.obj []))) := by
  rfl

theorem meant_getD (given : Option Json) : meant (some (given.getD (.obj []))) = meant given := by
  cases given <;> rfl

end ToolCall

/-- Null is validated like the object without fields. -/
theorem call_meant (registry : Registry) (context : Context) (name : String) (args : Json) :
    registry.call context name (ToolCall.meant (some args)) = registry.call context name args := by
  cases args <;> rfl

namespace Server

variable (server : Server) {name : String} {given : Option Json} {id : Json}

theorem callTool_written :
    server.callTool id (some (ToolCall.written name given)) = do
      let outcome ← server.registry.call server.context name (ToolCall.meant given)
      return outcome.map fun envelope => .result id envelope.toolResult := by
  obtain ⟨call, hcall, rfl, hargs⟩ := ToolCall.ofJson_written name given
  simp only [callTool, hcall, hargs]
  refine congrArg _ (funext fun outcome => ?_)
  cases outcome <;> rfl

theorem handle_of_respond {request : Request} {program : Program (Except String Envelope)}
    (hid : request.id ≠ .null)
    (h : server.respond request = do
      let outcome ← program
      return outcome.map fun envelope => .result request.id envelope.toolResult) :
    server.handle request = do
      let outcome ← program
      return outcome.map fun envelope => some (.result request.id envelope.toolResult) := by
  have hanswered : ¬ request.isNotification = true := fun hnull => hid (Lines.isNull_iff.mp hnull)
  rw [handle, if_neg hanswered, h, bind_assoc]
  refine congrArg _ (funext fun outcome => ?_)
  cases outcome <;> rfl

theorem handle_call (hid : id ≠ .null) (version : String) :
    server.handle ⟨version, id, "tools/call", some (ToolCall.written name given)⟩ = do
      let outcome ← server.registry.call server.context name (ToolCall.meant given)
      return outcome.map fun envelope => some (.result id envelope.toolResult) := by
  refine server.handle_of_respond hid ?_
  rw [← callTool_written]
  rfl

theorem handle_method (hid : id ≠ .null) (hname : server.registry.contains name = true)
    (hfree : name ∉ ["initialize", "ping", "tools/list", "tools/call"]) (version : String) :
    server.handle ⟨version, id, name, given⟩ = do
      let outcome ← server.registry.call server.context name (ToolCall.meant given)
      return outcome.map fun envelope => some (.result id envelope.toolResult) := by
  simp only [List.mem_cons, List.not_mem_nil, or_false, not_or] at hfree
  obtain ⟨hinit, hping, hlist, hcall⟩ := hfree
  refine server.handle_of_respond hid ?_
  rw [respond, if_neg hinit, if_neg hping, if_neg hlist, if_neg hcall, if_pos hname,
    ToolCall.params_eq_written, callTool_written, ToolCall.meant_getD]

end Server

namespace Http

/-- A post of a JSON text to the target of a tool. -/
structure PostsTo (exchange : Exchange) (name : String) : Prop where
  method : exchange.method = "POST"
  target : ∃ segment, resource? exchange.target = some (.tool segment) ∧
    toolName? segment = some name
  declared : isJson exchange = true

variable {server : Server} {exchange : Exchange} {name : String}

def answer (server : Server) (name : String) (args : Json) : Program (Except String Reply) := do
  let outcome ← server.registry.call server.context name args
  return outcome.map fun envelope => ⟨statusOf envelope, .json envelope.toJson⟩

theorem handle_eq_callTool (server : Server) (h : PostsTo exchange name) :
    ∃ segment, toolName? segment = some name ∧
      handle server exchange = callTool server exchange segment := by
  obtain ⟨hmethod, ⟨segment, hresource, hsegment⟩, -⟩ := h
  refine ⟨segment, hsegment, ?_⟩
  rw [handle, hmethod, if_neg (by decide), hresource]
  exact if_pos rfl

theorem handle_of_postsTo (h : PostsTo exchange name)
    (hsize : exchange.body.utf8ByteSize ≤ bodyLimit) :
    handle server exchange =
      match Json.parseFirst exchange.body with
      | .error complaint => return .ok (badBody complaint)
      | .ok args => answer server name args := by
  obtain ⟨segment, hsegment, hcall⟩ := handle_eq_callTool server h
  have hread : refusal? exchange = none := by
    rw [refusal?, h.declared, if_neg (by decide), if_neg (Nat.not_lt.mpr hsize)]
  simp only [hcall, callTool, hsegment, hread]
  cases Json.parseFirst exchange.body with
  | error complaint => rfl
  | ok args =>
      refine congrArg (Dialogue.bind (server.registry.call server.context name args))
        (funext fun outcome => ?_)
      cases outcome <;> rfl

/-- A body of more bytes than are read is refused, whatever it says. -/
theorem handle_of_large (h : PostsTo exchange name)
    (hsize : bodyLimit < exchange.body.utf8ByteSize) :
    handle server exchange = .done (.ok tooLarge) := by
  obtain ⟨segment, hsegment, hcall⟩ := handle_eq_callTool server h
  have hrefused : refusal? exchange = some tooLarge := by
    rw [refusal?, h.declared, if_neg (by decide), if_pos hsize]
  simp only [hcall, callTool, hsegment, hrefused]
  rfl

/-- A post without a body brings no arguments, and is refused. -/
theorem handle_of_empty (h : PostsTo exchange name) (hbody : exchange.body = "") :
    ∃ reply, handle server exchange = .done (.ok reply) ∧ reply.status = 400 := by
  have hsize : exchange.body.utf8ByteSize ≤ bodyLimit := by
    rw [hbody]
    exact Nat.zero_le _
  rw [handle_of_postsTo h hsize, hbody]
  exact ⟨_, rfl, rfl⟩

theorem exists_postsTo (hname : name ≠ "") (body : String) :
    ∃ exchange, PostsTo exchange name ∧ exchange.body = body := by
  have hfound : [("content-type", "application/json")].find?
      (fun header : String × String => header.1.toLower = "content-type") =
        some ("content-type", "application/json") := by decide +kernel
  have hmedia : ((MediaType.ofText? "application/json").map (·.isJson)).getD false = true := by
    decide +kernel
  refine ⟨⟨"POST", targetOf name, [("content-type", "application/json")], body⟩, ⟨rfl, ?_, ?_⟩, rfl⟩
  · exact ⟨segmentOf name, resource?_targetOf hname, toolName?_segmentOf name⟩
  · simp only [isJson, hfound, hmedia]

end Http

/-! ## Agreement -/

section Agreement

variable {σ : Type} (server : Server) (chain : Chain (StateM σ)) (schedule : Schedule) (state : σ)

/-- The routes to a tool end alike: after the same interactions, with one response to both requests,
which holds the envelope of the post. -/
structure RoutesTo (name : String) (given : Option Json) (id : Json) (response : Response)
    (envelope : Envelope) (events : List Event) (after : σ) : Prop where
  call : ∀ version, chain.run schedule
    (server.handle ⟨version, id, "tools/call", some (ToolCall.written name given)⟩) state =
      ((.ok (some response), events), after)
  method : ∀ version, chain.run schedule (server.handle ⟨version, id, name, given⟩) state =
    ((.ok (some response), events), after)
  post : ∀ args, given = some args → chain.run schedule (Http.answer server name args) state =
    ((.ok ⟨Http.statusOf envelope, .json envelope.toJson⟩, events), after)
  content : response.toJson.at? ["result", "structuredContent"] = some envelope.toJson

variable {server chain schedule state} {name : String} {id : Json}

theorem run_bind_done {α β : Type} {program : Program α} {value : α} {events : List Event}
    {after : σ} (h : chain.run schedule program state = ((value, events), after)) (f : α → β) :
    chain.run schedule (do let value ← program; return f value) state =
      ((f value, events), after) := by
  have hbind : chain.run schedule (do let value ← program; return f value) state =
      ((f (chain.run schedule program state).1.1,
        (chain.run schedule program state).1.2 ++ []), (chain.run schedule program state).2) :=
    congrFun (Dialogue.hold_bind (chain.respond schedule) program fun value => .done (f value)) state
  rw [hbind, h, List.append_nil]

theorem content_result (id : Json) (envelope : Envelope) :
    (Response.result id envelope.toolResult).toJson.at? ["result", "structuredContent"] =
      some envelope.toJson := by
  have hresult : (Response.result id envelope.toolResult).toJson.get? "result" =
      some envelope.toolResult := by
    simp [Response.result, Response.toJson, Json.get?, Json.lookup]
  have hcontent : envelope.toolResult.get? "structuredContent" = some envelope.toJson := by
    simp [Envelope.toolResult, Json.lookup]
  simp only [Json.at?, hresult, hcontent, Option.bind_some]

theorem routesTo_of_run {given : Option Json} (hname : server.registry.contains name = true)
    (hfree : name ∉ ["initialize", "ping", "tools/list", "tools/call"]) (hid : id ≠ .null)
    {envelope : Envelope} {events : List Event} {after : σ}
    (hrun : chain.run schedule
      (server.registry.call server.context name (ToolCall.meant given)) state =
        ((.ok envelope, events), after)) :
    RoutesTo server chain schedule state name given id (.result id envelope.toolResult) envelope
      events after where
  call version := by
    rw [server.handle_call hid]
    exact run_bind_done hrun _
  method version := by
    rw [server.handle_method hid hname hfree]
    exact run_bind_done hrun _
  post args hargs := by
    subst hargs
    rw [call_meant] at hrun
    exact run_bind_done hrun _
  content := content_result id envelope

/-- The three routes agree on the arguments that are meant, and on null and nothing as on the object
without fields. Over HTTP there is no call without arguments, and none with more bytes than are
read. -/
theorem routes_agree (server : Server) (hcrash : server.registry.CrashFree) {name : String}
    (hname : server.registry.contains name = true) (hnonempty : name ≠ "")
    (hfree : name ∉ ["initialize", "ping", "tools/list", "tools/call"]) {id : Json}
    (hid : id ≠ .null) {σ : Type} (chain : Chain (StateM σ)) (schedule : Schedule) (state : σ) :
    (∀ given, ∃ response envelope events after,
        RoutesTo server chain schedule state name given id response envelope events after) ∧
      (∃ response envelope events after, ∀ given ∈ [none, some .null, some (.obj [])],
        RoutesTo server chain schedule state name given id response envelope events after) ∧
      (∀ body, ∃ exchange, Http.PostsTo exchange name ∧ exchange.body = body) ∧
      (∀ exchange args, Http.PostsTo exchange name →
        exchange.body.utf8ByteSize ≤ Http.bodyLimit → Json.parseFirst exchange.body = .ok args →
        Http.handle server exchange = Http.answer server name args) ∧
      (∀ exchange, Http.PostsTo exchange name → Http.bodyLimit < exchange.body.utf8ByteSize →
        chain.run schedule (Http.handle server exchange) state =
          ((.ok Http.tooLarge, []), state)) ∧
      ∀ exchange, Http.PostsTo exchange name → exchange.body = "" →
        ∃ reply, chain.run schedule (Http.handle server exchange) state =
          ((.ok reply, []), state) ∧ reply.status = 400 := by
  have hcall : ∀ args, ∃ envelope events after,
      chain.run schedule (server.registry.call server.context name args) state =
        ((.ok envelope, events), after) := by
    intro args
    have hcourse := chain.course_run schedule
      (server.registry.call server.context name args) state
    rcases hcrash.envelope hcourse with ⟨data, hdata⟩ | ⟨cause, hcause⟩
    · exact ⟨.ok data, _, _, Prod.ext (Prod.ext hdata rfl) rfl⟩
    · exact ⟨.failure cause _, _, _, Prod.ext (Prod.ext hcause rfl) rfl⟩
  refine ⟨fun given => ?_, ?_, Http.exists_postsTo hnonempty, fun exchange args h hsize hbody => ?_,
    fun exchange h hsize => ?_, fun exchange h hbody => ?_⟩
  · obtain ⟨envelope, events, after, hrun⟩ := hcall (ToolCall.meant given)
    exact ⟨_, envelope, events, after, routesTo_of_run hname hfree hid hrun⟩
  · obtain ⟨envelope, events, after, hrun⟩ := hcall (.obj [])
    refine ⟨.result id envelope.toolResult, envelope, events, after, fun given hgiven => ?_⟩
    refine routesTo_of_run hname hfree hid ?_
    simp only [List.mem_cons, List.not_mem_nil, or_false] at hgiven
    rcases hgiven with rfl | rfl | rfl <;> exact hrun
  · rw [Http.handle_of_postsTo h hsize, hbody]
  · rw [Http.handle_of_large h hsize]
    rfl
  · obtain ⟨reply, hreply, hstatus⟩ : ∃ reply,
        Http.handle server exchange = .done (.ok reply) ∧ reply.status = 400 :=
      Http.handle_of_empty h hbody
    exact ⟨reply, by rw [hreply]; rfl, hstatus⟩

/-- Without arguments, the directory of the main network comes over all routes. -/
theorem routes_agree_stakingDirectory :
    let server : Server := ⟨Operation.registry, {}⟩
    let name := "get_staking_protocols"
    server.registry.CrashFree ∧ server.registry.contains name = true ∧ name ≠ "" ∧
      name ∉ ["initialize", "ping", "tools/list", "tools/call"] ∧ Json.nat 1 ≠ .null ∧
      ∃ response envelope events after, ∀ given ∈ [none, some .null, some (.obj [])],
        RoutesTo server Rehearsal.chain inOrder {} name given (.nat 1) response envelope events
          after := by
  have hname : Operation.registry.contains "get_staking_protocols" = true := by decide +kernel
  have hid : Json.nat 1 ≠ .null := by simp [Json.nat]
  have hagree := routes_agree ⟨Operation.registry, {}⟩ Operation.crashFree_registry hname
    (by decide) (by decide) hid Rehearsal.chain inOrder {}
  exact ⟨Operation.crashFree_registry, hname, by decide, by decide, hid, hagree.2.1⟩

/-- A post of the object without fields is answered, and a post without a body is refused. -/
theorem empty_body_refused :
    let server : Server := ⟨Operation.registry, {}⟩
    let post (body : String) : Http.Exchange :=
      ⟨"POST", "/api/tools/get_staking_protocols", [("content-type", "application/json")], body⟩
    let status (body : String) : Option Nat :=
      ((Rehearsal.chain.run inOrder (Http.handle server (post body))).run {}).1.1.toOption.map
        (·.status)
    status "\x7b\x7d" = some 200 ∧ status "" = some 400 := by
  decide +kernel

end Agreement

end StakingGateway.Service
