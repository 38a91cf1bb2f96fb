import StakingGateway.Proofs.Invocation
import StakingGateway.Proofs.OpenedClients
import StakingGateway.Proofs.SigningTools

/-!
# Signing tools over a chain

What a signing tool took from its arguments is brought back to the arguments as they were given, and
its clients to the network and the key that they belong to.
-/

namespace StakingGateway

namespace Operation

open Tool Chain Contract

theorem param_names : ∀ tool ∈ catalogue, (tool.params.map (·.name)).Nodup := by decide +kernel

theorem keyParam_mem {tool : Tool} (htool : tool ∈ catalogue) (hkey : takesKey tool = true) :
    keyParam ∈ tool.params := by
  have hmem := mem_signingTools htool hkey
  simp only [signingTools, List.mem_cons, List.not_mem_nil, or_false] at hmem
  rcases hmem with rfl | rfl | rfl | rfl | rfl | rfl | rfl | rfl <;>
    simp [stakeTokens, unstakeTokens, claimRewards, stakeEther, wrapSteth, unwrapWsteth,
      stakePairTokens, withdrawPairTokens, farmParams]

theorem keyInUse_of_signingKey {tool : Tool} (htool : tool ∈ catalogue)
    (hkey : takesKey tool = true) {context : Context} {args : Json} {accepted : Args}
    (hvalid : validate tool.params args = .ok accepted) {key : String}
    (h : context.signingKey accepted = .ok key) : context.keyInUse args = some key := by
  have htext := text?_of_validate hvalid (param_names tool htool) (keyParam_mem htool hkey)
    ParamKind.isText_string
  have hgiven : accepted.text? Args.keyField = (Args.given args).text? Args.keyField :=
    htext.trans Option.or_none
  rw [Context.keyInUse, ← hgiven]
  exact signingKey_eq_ok h

theorem text_of_mandatory {tool : Tool} (htool : tool ∈ catalogue) {field description : String}
    {kind : ParamKind} (hparam : Param.mandatory field kind description ∈ tool.params) {args : Json}
    {accepted : Args} (hvalid : validate tool.params args = .ok accepted) :
    accepted.text field = (Args.given args).text field := by
  have hget := get?_of_mandatory hvalid (param_names tool htool) hparam
  rw [Args.text, Args.text?, hget]
  rfl

/-- The network that a call names; the default one if it names none. -/
def namedNetwork (args : Json) : Option Network :=
  Network.resolve? (((Args.given args).text? "network").getD defaultNetwork)

theorem namedNetwork_of_text {tool : Tool} (htool : tool ∈ catalogue)
    (hparam : networkParam ∈ tool.params) {args : Json} {accepted : Args}
    (hvalid : validate tool.params args = .ok accepted) {identifier : String}
    (h : accepted.text "network" = .ok identifier) :
    namedNetwork args = Network.resolve? identifier := by
  have htext := text?_of_validate hvalid (param_names tool htool) hparam ParamKind.isText_string
  have hgiven : accepted.text? "network" =
      some (((Args.given args).text? "network").getD defaultNetwork) :=
    htext.trans Option.or_some
  rw [Args.text, hgiven] at h
  rw [namedNetwork, Except.ok.inj h]

variable {σ : Type} {chain : Chain (StateM σ)} {schedule : Schedule} {state : σ}
  {context : Context} {name : String} {args : Json}

/-- The clients of a signing tool are what the identifier and the key stand for. -/
theorem Opened.resolved {accepted : Args} {opening : List Event} {network : Network}
    {account : Account} (h : Opened context accepted opening network account)
    (hgives : ∀ event ∈ opening, chain.Gives event) :
    ∃ identifier key signer, accepted.text "network" = .ok identifier ∧
      context.signingKey accepted = .ok key ∧ Network.resolve? identifier = some network ∧
      Crypto.SigningKey.ofText key = .ok signer ∧ account = ⟨network, signer.address⟩ := by
  obtain ⟨identifier, key, hidentifier, hkey, hreader, haccount⟩ := h
  have hnetwork := openReader_eq_ok (hgives _ hreader).symm
  obtain ⟨signer, hresolve, hsigner, haddress⟩ := openAccount_eq_ok (hgives _ haccount).symm
  rw [hnetwork] at hresolve
  obtain ⟨accountNetwork, address⟩ := account
  obtain rfl : network = accountNetwork := Option.some.inj hresolve
  obtain rfl : address = signer.address := haddress
  exact ⟨identifier, key, signer, hidentifier, hkey, hnetwork, hsigner, rfl⟩

variable (chain schedule state context args) in
/-- What holds of every call that ends before a plan, and of every plan that is followed, holds of
all calls of a signing tool. -/
theorem callOver_of_signs {tool : Tool} (htool : tool ∈ catalogue)
    {plans : Args → List Event → Plan → Prop} {ends : Json → Prop}
    (hsigns : ∀ accepted, Signs (tool.run context accepted) (plans accepted) ends)
    (P : Except String Envelope → List Event → Prop)
    (hended : ∀ outcome events, (∀ event ∈ events, event.isPreparation = true) →
      (∀ data, outcome = .ok (.ok data) → ends data) → P outcome events)
    (hfollowed : ∀ accepted opening plan result events, validate tool.params args = .ok accepted →
      (∀ event ∈ opening ++ events, chain.Gives event) → plans accepted opening plan →
      (∀ event ∈ opening, event.isPreparation = true) → plan.Followed result events →
      P (Envelope.ofResult tool.operation result) (opening ++ events)) :
    P (callOver chain schedule state context tool.name args).1
      (callOver chain schedule state context tool.name args).2 := by
  have hgives := gives_of_mem_callOver chain schedule state context tool.name args
  have hcall := course_callOver chain schedule state context tool.name args
  generalize callOver chain schedule state context tool.name args = run at hgives hcall ⊢
  obtain ⟨outcome, events⟩ := run
  rcases hcall with
    ⟨rfl, cause, label, rfl⟩ | ⟨other, hother, hname, accepted, result, hvalid, hcourse, rfl⟩
  · refine hended _ _ (by simp) fun data hdata => ?_
    cases congrArg Envelope.success (Except.ok.inj hdata)
  · obtain rfl := eq_of_name_eq hother htool hname
    cases hsigns accepted result _ hcourse with
    | ended hevents hresult =>
        exact hended _ _ hevents fun data hdata => hresult data (Envelope.eq_ok_of_ofResult hdata)
    | followed hplan hopening hplanFollowed =>
        exact hfollowed _ _ _ _ _ hvalid hgives hplan hopening hplanFollowed

end Operation

end StakingGateway
