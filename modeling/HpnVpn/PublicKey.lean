import HpnVpn.Bytes

/-! Key agreement, key encapsulation and signatures: operations with their documented correctness law, coins as
arguments. -/
namespace PublicKey
open Wire

structure KeyAgreement (σ π τ : Type) where
  publicKey : σ → π
  agree : σ → π → τ
  agree_comm : ∀ a b, agree a (publicKey b) = agree b (publicKey a)

structure Kem (seed coin σ π γ τ : Type) where
  keypair : seed → σ × π
  encapsulate : π → coin → τ × γ
  decapsulate : σ → γ → τ
  decapsulate_encapsulate : ∀ s c,
    decapsulate (keypair s).1 (encapsulate (keypair s).2 c).2 = (encapsulate (keypair s).2 c).1

structure Signature (seed coin σ π γ : Type) where
  keypair : seed → σ × π
  sign : σ → Bytes → coin → γ
  verify : π → Bytes → γ → Bool
  verify_sign : ∀ s m c, verify (keypair s).2 m (sign (keypair s).1 m c) = true

variable {seed coin σ π γ τ : Type}

/-! ### Schemes that meet the laws

They hide nothing; the laws above can be met, and a concrete run can be computed. -/

def KeyAgreement.const (π₀ : π) (shared : τ) : KeyAgreement σ π τ where
  publicKey _ := π₀
  agree _ _ := shared
  agree_comm _ _ := rfl

/-- Every ciphertext of the scheme is the secret it carries. -/
def Kem.transparent (sk : σ) (pk : π) (wrap : coin → γ) (unwrap : γ → τ) : Kem seed coin σ π γ τ where
  keypair _ := (sk, pk)
  encapsulate _ coins := (unwrap (wrap coins), wrap coins)
  decapsulate _ c := unwrap c
  decapsulate_encapsulate _ _ := rfl

def Signature.ofDigest [DecidableEq γ] (sk : σ) (pk : π) (digest : Bytes → γ) : Signature seed coin σ π γ where
  keypair _ := (sk, pk)
  sign _ m _ := digest m
  verify _ m s := decide (s = digest m)
  verify_sign _ _ _ := by simp

end PublicKey
