import StakingGateway.Proofs.ReportedErrors
import StakingGateway.Proofs.RouteAgreement

/-!
# What the status of an envelope says

The status over HTTP goes by the code of the error in an envelope, and by nothing else. That it
tells a name without a tool from all failures of tools rests on the codes: a tool reports errors of
few kinds, and none of them has the code of an unknown tool.
-/

namespace StakingGateway

namespace Tool

/-- No tool reports that it is not there. -/
theorem Error.OfTool.kind_ne_unknown {cause : Error} (h : cause.OfTool) :
    cause.kind ≠ "unknown_tool" := by
  cases h with
  | chain cause => cases cause <;> simp [kind, Chain.Error.kind]
  | argument | unavailable | approvalReverted | fallbackExhausted => simp [kind]

end Tool

namespace Operation

open Tool Chain

variable {name : String}

theorem get?_eq_none_iff :
    registry.get? name = none ↔ ∀ tool ∈ registry.tools, tool.name ≠ name := by
  simp [Registry.get?, List.find?_eq_none]

/-- What a call under a name can come to: data or an error of the tool with that name, or the error
that there is none. -/
inductive CallEnds (name : String) : Envelope → Prop
  | done {tool : Tool} (htool : tool ∈ registry.tools) (hname : tool.name = name) (data : Json) :
      CallEnds name (.ok data)
  | failed {tool : Tool} (htool : tool ∈ registry.tools) (hname : tool.name = name)
      {cause : Tool.Error} (hkind : cause.kind ≠ "unknown_tool") :
      CallEnds name (.failure cause tool.operation)
  | unregistered (h : ∀ tool ∈ registry.tools, tool.name ≠ name) :
      CallEnds name (.failure (.unknown name) s!"invoking tool '{name}'")

theorem callEnds_of_course {context : Context} {args : Json} {events : List Event}
    {outcome : Except String Envelope}
    (h : (registry.call context name args).Course Recorded outcome events) :
    ∃ envelope, outcome = .ok envelope ∧ CallEnds name envelope := by
  obtain ⟨result, hinvoke, rfl⟩ := Registry.course_call h
  cases hget : registry.get? name with
  | none =>
      obtain ⟨rfl, -⟩ := Registry.course_invoke_unregistered hget hinvoke
      rw [Registry.operationOf, hget]
      exact ⟨_, rfl, .unregistered (get?_eq_none_iff.mp hget)⟩
  | some tool =>
      have htool : tool ∈ registry.tools := List.mem_of_find?_eq_some hget
      obtain ⟨hmem, hname⟩ := mem_catalogue_of_get? hget
      rw [Registry.operationOf, hget]
      rcases Registry.course_invoke_registered hget hinvoke with
        ⟨issues, -, rfl, -⟩ | ⟨accepted, -, hcourse⟩
      · exact ⟨_, rfl, .failed htool hname (by simp [Tool.Error.kind])⟩
      · cases result with
        | ok data => exact ⟨_, rfl, .done htool hname data⟩
        | error fault =>
            obtain ⟨cause, rfl, hcause⟩ := orderly_of_mem context accepted hmem _ _ hcourse
            exact ⟨_, rfl, .failed htool hname hcause.kind_ne_unknown⟩

end Operation

namespace Service

open Tool Chain Operation

def mistakes : List String := ["validation", "unsupported_network", "invalid_key"]

/-- How the parts of the envelope of a call hang together with each other, with the status and with
the name. -/
structure Described (name : String) (envelope : Envelope) : Prop where
  sides : (envelope.success = true ∧ (∃ data, envelope.data = some data) ∧ envelope.error = none) ∨
    (envelope.success = false ∧ envelope.data = none ∧ ∃ error, envelope.error = some error)
  marked : envelope.toolResult.get? "isError" = some (.bool (!envelope.success))
  status_ok : Http.statusOf envelope = 200 ↔ envelope.success = true
  status_missing : Http.statusOf envelope = 404 ↔ ∀ tool ∈ registry.tools, tool.name ≠ name
  status_mistaken : Http.statusOf envelope = 400 ↔
    ∃ error, envelope.error = some error ∧ error.kind ∈ mistakes
  status_failed : Http.statusOf envelope = 422 ↔
    (∃ tool ∈ registry.tools, tool.name = name) ∧
      ∃ error, envelope.error = some error ∧ error.kind ∉ mistakes
  label : ∀ error, envelope.error = some error →
    (∀ tool ∈ registry.tools, tool.name = name → error.context = tool.operation) ∧
    ((∀ tool ∈ registry.tools, tool.name ≠ name) → error.context = s!"invoking tool '{name}'")

variable {name : String} {envelope : Envelope}

theorem get?_isError (envelope : Envelope) :
    envelope.toolResult.get? "isError" = some (.bool (!envelope.success)) := by
  simp [Envelope.toolResult, Json.lookup]

section Failures

variable (cause : Tool.Error) (label : String)

theorem statusOf_failure : Http.statusOf (.failure cause label) =
    if cause.kind = "unknown_tool" then 404 else if cause.kind ∈ mistakes then 400 else 422 :=
  rfl

theorem statusOf_failure_ne_ok : Http.statusOf (.failure cause label) ≠ 200 := by
  rw [statusOf_failure]
  split_ifs <;> decide

theorem statusOf_failure_missing :
    Http.statusOf (.failure cause label) = 404 ↔ cause.kind = "unknown_tool" := by
  rw [statusOf_failure]
  split_ifs with hunknown <;> simp [hunknown]

theorem statusOf_failure_mistaken :
    Http.statusOf (.failure cause label) = 400 ↔ cause.kind ∈ mistakes := by
  rw [statusOf_failure]
  by_cases hunknown : cause.kind = "unknown_tool"
  · -- The code of an unknown tool is not among the mistakes.
    rw [if_pos hunknown, hunknown]
    decide
  · rw [if_neg hunknown]
    split_ifs with hmistake <;> simp [hmistake]

theorem statusOf_failure_other : Http.statusOf (.failure cause label) = 422 ↔
    cause.kind ≠ "unknown_tool" ∧ cause.kind ∉ mistakes := by
  rw [statusOf_failure]
  split_ifs with hunknown hmistake <;> simp [*]

end Failures

theorem described_ok {tool : Tool} (htool : tool ∈ registry.tools) (hname : tool.name = name)
    (data : Json) : Described name (.ok data) := by
  have hstatus : Http.statusOf (.ok data) = 200 := rfl
  have hfound : ¬ ∀ tool ∈ registry.tools, tool.name ≠ name := fun hnone =>
    hnone tool htool hname
  exact {
    sides := Or.inl ⟨rfl, ⟨data, rfl⟩, rfl⟩
    marked := get?_isError _
    status_ok := iff_of_true hstatus rfl
    status_missing := iff_of_false (by simp [hstatus]) hfound
    status_mistaken := iff_of_false (by simp [hstatus]) (by simp [Envelope.ok])
    status_failed := iff_of_false (by simp [hstatus]) (by simp [Envelope.ok])
    label := by simp [Envelope.ok] }

theorem described_failure {cause : Tool.Error} {label : String}
    (hmissing : cause.kind = "unknown_tool" ↔ ∀ tool ∈ registry.tools, tool.name ≠ name)
    (hregistered : ∀ tool ∈ registry.tools, tool.name = name → label = tool.operation)
    (hunregistered : (∀ tool ∈ registry.tools, tool.name ≠ name) →
      label = s!"invoking tool '{name}'") :
    Described name (.failure cause label) := by
  have herror {P : Failure → Prop} :
      (∃ error, (Envelope.failure cause label).error = some error ∧ P error) ↔
        P ⟨cause.message, label, cause.kind⟩ := by
    simp [Envelope.failure]
  have hfound : cause.kind ≠ "unknown_tool" ↔ ∃ tool ∈ registry.tools, tool.name = name := by
    rw [Ne, hmissing]
    simp
  refine {
    sides := Or.inr ⟨rfl, rfl, _, rfl⟩
    marked := get?_isError _
    status_ok := iff_of_false (statusOf_failure_ne_ok cause label) nofun
    status_missing := (statusOf_failure_missing cause label).trans hmissing
    status_mistaken := ?_
    status_failed := ?_
    label := ?_ }
  · rw [statusOf_failure_mistaken, herror]
  · rw [statusOf_failure_other, hfound, herror]
  · rintro error ⟨⟩
    exact ⟨hregistered, hunregistered⟩

theorem described_of_callEnds (h : CallEnds name envelope) : Described name envelope := by
  cases h with
  | @done tool htool hname data => exact described_ok htool hname data
  | @failed tool htool hname cause hkind =>
      refine described_failure (iff_of_false hkind fun hnone => hnone tool htool hname) ?_ ?_
      · intro other hother hsame
        rw [eq_of_name_eq (mem_catalogue htool) (mem_catalogue hother) (hname.trans hsame.symm)]
      · intro hnone
        exact absurd hname (hnone tool htool)
  | unregistered hnone =>
      refine described_failure (iff_of_true rfl hnone) ?_ fun _ => rfl
      intro tool htool hname
      exact absurd hname (hnone tool htool)

/-- Every call ends in one envelope, and a post over HTTP whose body is read is answered with it under
its status. -/
theorem calls_end_described {σ : Type} (chain : Chain (StateM σ)) (schedule : Schedule) (state : σ)
    (context : Context) (name : String) (args : Json) :
    ∃ envelope, (callOver chain schedule state context name args).1 = .ok envelope ∧
      Described name envelope ∧
      ∀ exchange, Http.PostsTo exchange name → Json.parseFirst exchange.body = .ok args →
        (chain.run schedule (Http.handle ⟨registry, context⟩ exchange) state).1.1 =
          if exchange.body.utf8ByteSize ≤ Http.bodyLimit then
            .ok ⟨Http.statusOf envelope, .json envelope.toJson⟩
          else .ok Http.tooLarge := by
  obtain ⟨envelope, houtcome, hends⟩ := callEnds_of_course
    (chain.course_run schedule (registry.call context name args) state)
  refine ⟨envelope, houtcome, described_of_callEnds hends, fun exchange hposts hbody => ?_⟩
  have hrun : chain.run schedule (registry.call context name args) state =
      ((.ok envelope, (callOver chain schedule state context name args).2),
        (chain.run schedule (registry.call context name args) state).2) :=
    Prod.ext (Prod.ext houtcome rfl) rfl
  split_ifs with hsize
  · rw [Http.handle_of_postsTo hposts hsize, hbody]
    have hanswer := run_bind_done hrun fun outcome => outcome.map fun envelope : Envelope =>
      (⟨Http.statusOf envelope, .json envelope.toJson⟩ : Http.Reply)
    exact congrArg (fun run => run.1.1) hanswer
  · rw [Http.handle_of_large hposts (Nat.lt_of_not_le hsize)]
    rfl

end Service

end StakingGateway
