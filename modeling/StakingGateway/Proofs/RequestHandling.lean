import Mathlib.Logic.Basic
import StakingGateway.Proofs.Invocation
import StakingGateway.Service.Lines

/-!
# What a line is owed

`Lines.Answers` lists what can become of one line: the reply, read off the fields that are written
for it, and the interactions with a chain. It does not follow the dispatch. `Server.handler?` names
the tool that a request runs, and only how that tool ends decides between an internal error and any
other reply. That the program of a line keeps to the list is `Lines.answers_of_course`.
-/

namespace StakingGateway.Service

open Tool Chain

/-! ## Responses -/

structure Response.RepliesTo (response : Response) (id : Json) : Prop where
  id : response.toJson.get? "id" = some id
  side : Xor (response.toJson.get? "result").isSome (response.toJson.get? "error").isSome

def Response.code? (response : Response) : Option Json :=
  (response.toJson.get? "error").bind (Json.get? "code")

theorem Response.repliesTo_id (response : Response) : response.RepliesTo response.id := by
  obtain ⟨id, value | ⟨code, message⟩⟩ := response <;>
    exact ⟨by simp [toJson, Json.get?, Json.lookup], by simp [toJson, Json.get?, Json.lookup, Xor]⟩

theorem Response.code?_result (id value : Json) : (Response.result id value).code? = none := by
  simp [Response.result, code?, toJson, Json.get?, Json.lookup]

theorem Response.code?_error (id : Json) (code : ErrorCode) (message : String) :
    (Response.error id code message).code? = some (.int code.number) := by
  simp [Response.error, code?, toJson, Json.get?, Json.lookup]

theorem ErrorCode.int_number_injective {code other : ErrorCode}
    (h : Json.int code.number = Json.int other.number) : code = other := by
  cases code <;> cases other <;> first | rfl | simp [Json.int, number] at h

/-! ## The tool behind a request -/

namespace Server

variable (server : Server)

def toolOf? (call : ToolCall) : Option (Tool × Args) := do
  let tool ← server.registry.get? call.name
  let args ← (validate tool.params call.argumentsOrEmpty).toOption
  return (tool, args)

/-- The call that a request makes, under the method for calls or under the name of a tool. -/
def toolCall? (request : Request) : Option ToolCall :=
  if request.method ∈ ["initialize", "ping", "tools/list"] then none
  else if request.method = "tools/call" then
    request.params.bind fun params => (ToolCall.ofJson params).toOption
  else if server.registry.contains request.method then
    (ToolCall.ofJson (ToolCall.params request.method request.params)).toOption
  else none

def handler? (request : Request) : Option (Tool × Args) :=
  (server.toolCall? request).bind server.toolOf?

inductive Runs : Option (Tool × Args) → Option (Except Fault Json) → List Event → Prop
  | idle : Runs none none []
  | tool {tool : Tool} {args : Args} {result : Except Fault Json} {events : List Event}
      (hcourse : (tool.run server.context args).Course result events) :
      Runs (some (tool, args)) (some result) events

/-- What is made of a handler that ended in this way: a crash stays one, and everything else is a
response whose code, if it has one, is about the method or its parameters. -/
def Concludes (id : Json) (ended : Option (Except Fault Json)) : Except String Response → Prop
  | .error reason => ended = some (.error (.crashed reason))
  | .ok response =>
    (∀ reason, ended ≠ some (.error (.crashed reason))) ∧ response.RepliesTo id ∧
      ∀ code ∉ [.methodNotFound, .invalidParams],
        response.code? ≠ some (.int (ErrorCode.number code))

variable {server}

theorem concludes_result (id value : Json) {ended : Option (Except Fault Json)}
    (h : ∀ reason, ended ≠ some (.error (.crashed reason))) :
    Concludes id ended (.ok (.result id value)) := by
  refine ⟨h, Response.repliesTo_id (.result id value), fun _ _ => ?_⟩
  rw [Response.code?_result]
  exact Option.some_ne_none _ |>.symm

theorem concludes_error (id : Json) {code : ErrorCode} (message : String)
    (hcode : code ∈ [.methodNotFound, .invalidParams]) :
    Concludes id none (.ok (.error id code message)) := by
  have hreplies := Response.repliesTo_id (.error id code message)
  refine ⟨fun _ => Option.some_ne_none _ |>.symm, hreplies, fun other hother hsame => ?_⟩
  rw [Response.code?_error, Option.some.injEq] at hsame
  exact hother (ErrorCode.int_number_injective hsame ▸ hcode)

theorem runs_invoke {call : ToolCall} {result : Except Fault Json} {events : List Event}
    (h : (server.registry.invoke server.context call.name call.argumentsOrEmpty).Course
      result events) :
    (server.toolOf? call = none ∧ events = [] ∧ ∃ cause, result = .error (.refused cause)) ∨
      ∃ tool args, server.toolOf? call = some (tool, args) ∧
        (tool.run server.context args).Course result events := by
  unfold Registry.invoke at h
  cases hget : server.registry.get? call.name with
  | none =>
      rw [hget] at h
      obtain ⟨rfl, rfl⟩ := Action.course_throw.mp h
      exact Or.inl ⟨by simp [toolOf?, hget], rfl, _, rfl⟩
  | some tool =>
      simp only [hget] at h
      cases hvalid : validate tool.params call.argumentsOrEmpty with
      | error issues =>
          rw [hvalid] at h
          obtain ⟨rfl, rfl⟩ := Action.course_throw.mp h
          exact Or.inl ⟨by simp [toolOf?, hget, hvalid, Except.toOption], rfl, _, rfl⟩
      | ok args =>
          rw [hvalid] at h
          exact Or.inr ⟨tool, args, by simp [toolOf?, hget, hvalid, Except.toOption], h⟩

theorem concludes_callTool {id : Json} {params : Option Json} {outcome : Except String Response}
    {events : List Event} (h : (server.callTool id params).Course Recorded outcome events) :
    ∃ ended, server.Runs ((params.bind fun params => (ToolCall.ofJson params).toOption).bind
        server.toolOf?) ended events ∧ Concludes id ended outcome := by
  unfold callTool at h
  cases params with
  | none =>
      obtain ⟨rfl, rfl⟩ := h
      exact ⟨none, .idle, concludes_error id _ (by decide)⟩
  | some params =>
      cases hcall : ToolCall.ofJson params with
      | error fault =>
          simp only [hcall] at h
          obtain ⟨rfl, rfl⟩ := h
          exact ⟨none, by simpa [hcall, Except.toOption] using Runs.idle,
            concludes_error id _ (by decide)⟩
      | ok call =>
          simp only [hcall] at h
          obtain ⟨called, before, after, hrun, hrest, rfl⟩ := Dialogue.course_bind.mp h
          obtain ⟨result, hinvoke, rfl⟩ := Registry.course_call hrun
          simp only [Option.bind_some, hcall, Except.toOption]
          rcases runs_invoke hinvoke with ⟨hnone, rfl, cause, rfl⟩ | ⟨tool, args, hsome, hcourse⟩
          · obtain ⟨rfl, rfl⟩ := hrest
            exact ⟨none, by simpa [hnone] using Runs.idle, concludes_result id _ (by simp)⟩
          · refine ⟨some result, ?_, ?_⟩
            · rw [hsome]
              rcases result with (cause | reason) | data <;> obtain ⟨rfl, rfl⟩ := hrest <;>
                simpa using Runs.tool hcourse
            · rcases result with (cause | reason) | data <;> obtain ⟨rfl, rfl⟩ := hrest
              · exact concludes_result id _ (by simp)
              · rfl
              · exact concludes_result id _ (by simp)

theorem concludes_respond {request : Request} {outcome : Except String Response}
    {events : List Event} (h : (server.respond request).Course Recorded outcome events) :
    ∃ ended, server.Runs (server.handler? request) ended events ∧
      Concludes request.id ended outcome := by
  unfold respond at h
  unfold handler? toolCall?
  by_cases hinit : request.method = "initialize"
  · rw [if_pos hinit] at h
    obtain ⟨rfl, rfl⟩ := h
    exact ⟨none, by simpa [hinit] using Runs.idle, concludes_result _ _ (by simp)⟩
  by_cases hping : request.method = "ping"
  · rw [if_neg hinit, if_pos hping] at h
    obtain ⟨rfl, rfl⟩ := h
    exact ⟨none, by simpa [hping] using Runs.idle, concludes_result _ _ (by simp)⟩
  by_cases hlist : request.method = "tools/list"
  · rw [if_neg hinit, if_neg hping, if_pos hlist] at h
    obtain ⟨rfl, rfl⟩ := h
    exact ⟨none, by simpa [hlist] using Runs.idle, concludes_result _ _ (by simp)⟩
  rw [if_neg hinit, if_neg hping, if_neg hlist] at h
  rw [if_neg (by simp [hinit, hping, hlist])]
  by_cases hcall : request.method = "tools/call"
  · rw [if_pos hcall] at h ⊢
    exact concludes_callTool h
  rw [if_neg hcall] at h ⊢
  by_cases hname : server.registry.contains request.method
  · rw [if_pos hname] at h ⊢
    exact concludes_callTool h
  · rw [if_neg hname] at h ⊢
    obtain ⟨rfl, rfl⟩ := h
    exact ⟨none, .idle, concludes_error _ _ (by decide)⟩

end Server

/-! ## Lines -/

namespace Lines

/-- What can become of a line: the reply to it, if there is one, and the interactions on the way. -/
inductive Answers (server : Server) (line : String) : Option Response → List Event → Prop
  | blank (hblank : Text.trim line = "") : Answers server line none []
  | unreadable {complaint : Json.Complaint} {response : Response}
      (hbody : Text.trim line ≠ "")
      (hparse : Request.record.parse Request.build (Text.trim line) = .error complaint)
      (hreply : response.RepliesTo .null)
      (hcode : response.code? = some (.int (-32700))) :
      Answers server line (some response) []
  | notification {request : Request}
      (hbody : Text.trim line ≠ "")
      (hparse : Request.record.parse Request.build (Text.trim line) = .ok request)
      (hid : request.id = .null) : Answers server line none []
  | answered {request : Request} {response : Response} {ended : Option (Except Fault Json)}
      {events : List Event}
      (hbody : Text.trim line ≠ "")
      (hparse : Request.record.parse Request.build (Text.trim line) = .ok request)
      (hid : request.id ≠ .null)
      (hruns : server.Runs (server.handler? request) ended events)
      (hreply : response.RepliesTo request.id)
      (hcrash : response.code? = some (.int (-32603)) ↔
        ∃ reason, ended = some (.error (.crashed reason))) :
      Answers server line (some response) events

theorem isNull_iff {value : Json} : value.isNull = true ↔ value = .null := by
  cases value <;> simp [Json.isNull]

variable {server : Server} {line : String}

theorem blank_of_arrival?_eq_none (h : arrival? line = none) : Text.trim line = "" := by
  unfold arrival? at h
  by_cases hempty : (Text.trim line).isEmpty = true
  · exact String.isEmpty_iff.mp hempty
  · rw [if_neg hempty] at h
    split at h <;> cases h

theorem arrival?_eq_some {arrival : Arrival} (h : arrival? line = some arrival) :
    Text.trim line ≠ "" ∧
      ((∃ request, arrival = .request request ∧
          Request.record.parse Request.build (Text.trim line) = .ok request) ∨
        ∃ complaint, arrival = .unreadable complaint ∧
          Request.record.parse Request.build (Text.trim line) = .error complaint) := by
  unfold arrival? at h
  by_cases hempty : (Text.trim line).isEmpty = true
  · rw [if_pos hempty] at h
    cases h
  · rw [if_neg hempty] at h
    refine ⟨fun hblank => hempty (String.isEmpty_iff.mpr hblank), ?_⟩
    cases hparse : Request.record.parse Request.build (Text.trim line) with
    | ok request =>
        rw [hparse] at h
        exact Or.inl ⟨request, (Option.some.inj h).symm, rfl⟩
    | error complaint =>
        rw [hparse] at h
        exact Or.inr ⟨complaint, (Option.some.inj h).symm, rfl⟩

/-- How a request is replied to: not at all, with a response, or with the report of a crash. -/
theorem course_reply_request {request : Request} {outcome : Option Response} {events : List Event}
    (h : (reply server (.request request)).Course Recorded outcome events) :
    (request.id = .null ∧ outcome = none ∧ events = []) ∨
      request.id ≠ .null ∧ ∃ ended, server.Runs (server.handler? request) ended events ∧
        ((∃ response, outcome = some response ∧
            Server.Concludes request.id ended (.ok response)) ∨
          ∃ reason message, outcome = some (.error request.id .internalError message) ∧
            Server.Concludes request.id ended (.error reason)) := by
  obtain ⟨handled, before, after, hhandle, hrest, rfl⟩ := Dialogue.course_bind.mp h
  unfold Server.handle at hhandle
  by_cases hnull : request.isNotification = true
  · rw [if_pos hnull] at hhandle
    obtain ⟨rfl, rfl⟩ := hhandle
    obtain ⟨rfl, rfl⟩ := hrest
    exact Or.inl ⟨isNull_iff.mp hnull, rfl, rfl⟩
  · rw [if_neg hnull] at hhandle
    have hid : request.id ≠ .null := fun hid => hnull (isNull_iff.mpr hid)
    obtain ⟨responded, first, second, hrespond, hlast, rfl⟩ := Dialogue.course_bind.mp hhandle
    obtain ⟨ended, hruns, hconcludes⟩ := Server.concludes_respond hrespond
    cases responded with
    | ok response =>
        obtain ⟨rfl, rfl⟩ := hlast
        obtain ⟨rfl, rfl⟩ := hrest
        exact Or.inr ⟨hid, ended, by simpa using hruns, Or.inl ⟨response, rfl, hconcludes⟩⟩
    | error reason =>
        obtain ⟨rfl, rfl⟩ := hlast
        simp only [if_neg hnull] at hrest
        obtain ⟨rfl, rfl⟩ := hrest
        exact Or.inr ⟨hid, ended, by simpa using hruns, Or.inr ⟨reason, _, rfl, hconcludes⟩⟩

theorem answers_of_request {request : Request} {outcome : Option Response} {events : List Event}
    (hbody : Text.trim line ≠ "")
    (hparse : Request.record.parse Request.build (Text.trim line) = .ok request)
    (h : (reply server (.request request)).Course Recorded outcome events) :
    Answers server line outcome events := by
  rcases course_reply_request h with ⟨hid, rfl, rfl⟩ |
    ⟨hid, ended, hruns, ⟨response, rfl, hcalm, hreply, hcode⟩ | ⟨reason, message, rfl, hcrash⟩⟩
  · exact .notification hbody hparse hid
  · refine .answered hbody hparse hid hruns hreply ?_
    exact ⟨fun h => absurd h (hcode .internalError (by decide)),
      fun ⟨reason, h⟩ => absurd h (hcalm reason)⟩
  · refine .answered hbody hparse hid hruns (Response.repliesTo_id _) ?_
    exact ⟨fun _ => ⟨reason, hcrash⟩, fun _ => Response.code?_error ..⟩

theorem answers_of_course {arrival : Arrival} {outcome : Option Response} {events : List Event}
    (harrival : arrival? line = some arrival)
    (h : (reply server arrival).Course Recorded outcome events) :
    Answers server line outcome events := by
  obtain ⟨hbody, ⟨request, rfl, hparse⟩ | ⟨complaint, rfl, hparse⟩⟩ := arrival?_eq_some harrival
  · exact answers_of_request hbody hparse h
  · obtain ⟨rfl, rfl⟩ := h
    exact .unreadable hbody hparse (Response.repliesTo_id _) (Response.code?_error ..)

/-- How the program for a line can end; a blank line has none. -/
inductive Handled (server : Server) (line : String) : Option Response → List Event → Prop
  | blank (hblank : arrival? line = none) : Handled server line none []
  | arrived {arrival : Arrival} {outcome : Option Response} {events : List Event}
      (harrival : arrival? line = some arrival)
      (hcourse : (reply server arrival).Course Recorded outcome events) :
      Handled server line outcome events

theorem Handled.answers {outcome : Option Response} {events : List Event}
    (h : Handled server line outcome events) : Answers server line outcome events := by
  cases h with
  | blank hblank => exact .blank (blank_of_arrival?_eq_none hblank)
  | arrived harrival hcourse => exact answers_of_course harrival hcourse

end Lines

end StakingGateway.Service
