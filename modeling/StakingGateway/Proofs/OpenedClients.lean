import StakingGateway.Chain.Run

/-!
# Opened clients

A reader is opened for the network that an identifier names, when that can be reached, and an
account for the key on top of it. The network is looked at first.
-/

namespace StakingGateway.Chain

variable {m : Type → Type} {chain : Chain m} {identifier key : String}

theorem openReader_of_unresolved (h : Network.resolve? identifier = none) :
    chain.openReader identifier = .error (.unsupportedNetwork identifier) := by
  simp only [openReader, h]

theorem openReader_of_reach {network : Network} (h : Network.resolve? identifier = some network)
    (hreach : chain.reach network = .ok ()) : chain.openReader identifier = .ok network := by
  simp only [openReader, h, hreach, Except.map]

theorem openReader_eq_ok {network : Network} (h : chain.openReader identifier = .ok network) :
    Network.resolve? identifier = some network := by
  unfold openReader at h
  cases hresolve : Network.resolve? identifier with
  | none =>
      rw [hresolve] at h
      cases h
  | some named =>
      simp only [hresolve] at h
      cases hreach : chain.reach named with
      | error e =>
          rw [hreach] at h
          cases h
      | ok reached =>
          rw [hreach] at h
          exact congrArg some (Except.ok.inj h)

theorem openAccount_eq_ok {account : Account} (h : chain.openAccount key identifier = .ok account) :
    ∃ signer, Network.resolve? identifier = some account.network ∧
      Crypto.SigningKey.ofText key = .ok signer ∧ account.address = signer.address := by
  unfold openAccount at h
  cases hreader : chain.openReader identifier with
  | error e =>
      rw [hreader] at h
      cases h
  | ok network =>
      simp only [hreader] at h
      cases hsigner : Crypto.SigningKey.ofText key with
      | error e =>
          rw [hsigner] at h
          cases h
      | ok signer =>
          rw [hsigner] at h
          obtain rfl := Except.ok.inj h
          exact ⟨signer, openReader_eq_ok hreader, rfl, rfl⟩

theorem openAccount_of_signer {network : Network} {signer : Crypto.SigningKey}
    (hreader : chain.openReader identifier = .ok network)
    (h : Crypto.SigningKey.ofText key = .ok signer) :
    chain.openAccount key identifier = .ok ⟨network, signer.address⟩ := by
  simp only [openAccount, hreader, h]

theorem openAccount_eq_error {network : Network} {e : Error}
    (hreader : chain.openReader identifier = .ok network)
    (h : chain.openAccount key identifier = .error e) :
    ∃ cause, Crypto.SigningKey.ofText key = .error cause ∧ e = .invalidKey cause.message := by
  unfold openAccount at h
  simp only [hreader] at h
  cases hsigner : Crypto.SigningKey.ofText key with
  | error cause =>
      rw [hsigner] at h
      exact ⟨cause, rfl, (Except.error.inj h).symm⟩
  | ok signer =>
      rw [hsigner] at h
      cases h

end StakingGateway.Chain
