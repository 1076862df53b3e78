import HpnVpn.Bytes

/-! Authenticated encryption with associated data.  A cipher is correct by its type; what an adversary cannot do is
stated for the calls made and the strings that travelled. -/
namespace AuthEnc
open Wire

/-- A cipher with tags of `tag` bytes.  Sealing may refuse an input; what it seals opens again. -/
structure Cipher (κ ν : Type) (tag : Nat) where
  encrypt : κ → ν → Bytes → Bytes → Option Bytes
  decrypt : κ → ν → Bytes → Bytes → Option Bytes
  encrypt_length : ∀ {k n aad p c}, encrypt k n aad p = some c → c.length = p.length + tag
  decrypt_encrypt : ∀ {k n aad p c}, encrypt k n aad p = some c → decrypt k n aad c = some p
  decrypt_length : ∀ {k n aad c p}, decrypt k n aad c = some p → c.length = p.length + tag

structure SealCall (κ ν : Type) where
  key : κ
  nonce : ν
  aad : Bytes
  plaintext : Bytes
deriving DecidableEq

variable {κ ν : Type} {tag : Nat}

variable (A : Cipher κ ν tag)

def SealCall.output (call : SealCall κ ν) : Option Bytes :=
  A.encrypt call.key call.nonce call.aad call.plaintext

/-- Nothing on the wire opens under `key` except what one of the `calls` sealed. -/
def Unforged (key : κ) (calls : List (SealCall κ ν)) (wire : Set Bytes) : Prop :=
  ∀ nonce aad c p, aad ++ c ∈ wire → A.decrypt key nonce aad c = some p →
    ∃ call ∈ calls, call.key = key ∧ call.nonce = nonce ∧ call.aad = aad ∧ call.output A = some c

theorem Unforged.mono {A : Cipher κ ν tag} {key : κ} {calls : List (SealCall κ ν)} {wire wire' : Set Bytes}
    (h : Unforged A key calls wire) (hsub : wire' ⊆ wire) : Unforged A key calls wire' :=
  fun nonce aad c p hmem => h nonce aad c p (hsub hmem)

/-- What was sealed under one nonce does not open under another. -/
def Cipher.RejectsOtherNonces : Prop :=
  ∀ {k n n' aad p c}, A.encrypt k n aad p = some c → n' ≠ n → A.decrypt k n' aad c = none

/-! ### Ciphers that only authenticate -/

/-- The plaintext with a tag appended: correct for every tag function, so the assumptions above can be met. -/
def Cipher.ofTag (tagOf : κ → ν → Bytes → Bytes → Block tag) : Cipher κ ν tag where
  encrypt k n aad p := some (p ++ (tagOf k n aad p).bytes)
  decrypt k n aad c :=
    let p := c.take (c.length - tag)
    if c = p ++ (tagOf k n aad p).bytes then some p else none
  encrypt_length := by
    rintro k n aad p c h
    obtain rfl := Option.some.inj h
    simp
  decrypt_encrypt := by
    rintro k n aad p c h
    obtain rfl := Option.some.inj h
    simp
  decrypt_length := by
    intro k n aad c p h
    dsimp only at h
    split at h
    case isTrue heq =>
        obtain rfl := Option.some.inj h
        have hlen := congrArg List.length heq
        rw [List.length_append, Block.length_bytes] at hlen
        exact hlen
    case isFalse => cases h

theorem Cipher.ofTag_decrypt_eq_some {tagOf : κ → ν → Bytes → Bytes → Block tag} {k : κ} {n : ν} {aad c p : Bytes} :
    (Cipher.ofTag tagOf).decrypt k n aad c = some p ↔ c = p ++ (tagOf k n aad p).bytes := by
  constructor
  · intro h
    simp only [ofTag] at h
    split at h
    case isTrue heq =>
        cases h
        exact heq
    case isFalse => cases h
  · rintro rfl
    exact (Cipher.ofTag tagOf).decrypt_encrypt rfl

/-- The tag names the nonce and the length of the associated data. -/
def Cipher.labelled (κ : Type) (m : Nat) : Cipher κ (Block m) (m + 4) :=
  Cipher.ofTag fun _ n aad _ => n.append (be32 (UInt32.ofNat aad.length))

theorem Cipher.labelled_rejectsOtherNonces (m : Nat) : (Cipher.labelled κ m).RejectsOtherNonces := by
  intro k n n' aad p c hsealed hne
  cases hopen : (Cipher.labelled κ m).decrypt k n' aad c with
  | none => rfl
  | some p' =>
    have hc : c = p' ++ (n'.bytes ++ (be32 (UInt32.ofNat aad.length)).bytes) :=
      Cipher.ofTag_decrypt_eq_some.mp hopen
    have hc' : c = p ++ (n.bytes ++ (be32 (UInt32.ofNat aad.length)).bytes) := (Option.some.inj hsealed).symm
    have htag := (List.append_inj' (hc.symm.trans hc') (by simp)).2
    exact absurd (block_append_inj htag).1 hne

theorem Cipher.labelled_unforged_of_label {m : Nat} {key : κ} {calls : List (SealCall κ (Block m))}
    {rest : Bytes} {label : UInt32} (hlabel : rest.length + 4 < label.toNat) :
    Unforged (Cipher.labelled κ m) key calls {rest ++ (be32 label).bytes} := by
  intro nonce aad c p hmem hopen
  have hc : c = p ++ (nonce.bytes ++ (be32 (UInt32.ofNat aad.length)).bytes) :=
    Cipher.ofTag_decrypt_eq_some.mp hopen
  have heq : aad ++ c = rest ++ (be32 label).bytes := hmem
  have hlen := congrArg List.length heq
  rw [List.length_append, List.length_append, Block.length_bytes] at hlen
  rw [hc, ← List.append_assoc, ← List.append_assoc] at heq
  have hsame := be32_injective (Block.ext (List.append_inj' heq (by simp)).2)
  rw [← hsame, UInt32.toNat_ofNat', Nat.mod_eq_of_lt (by omega)] at hlabel
  omega

theorem Cipher.labelled_unforged {m : Nat} {key : κ} {calls : List (SealCall κ (Block m))}
    {wire : Set Bytes} (hkey : ∀ call ∈ calls, call.key = key)
    (hwire : ∀ w ∈ wire, w.length < 2 ^ 32 ∧
      (w.length < m + 4 ∨ ∃ call ∈ calls, ∃ c, call.output (Cipher.labelled κ m) = some c ∧ w = call.aad ++ c)) :
    Unforged (Cipher.labelled κ m) key calls wire := by
  intro nonce aad c p hmem hopen
  have hc : c = p ++ (nonce.bytes ++ (be32 (UInt32.ofNat aad.length)).bytes) :=
    Cipher.ofTag_decrypt_eq_some.mp hopen
  obtain ⟨hlong, hshort | ⟨call, hcall, c', hout, heq⟩⟩ := hwire _ hmem
  · rw [hc] at hshort
    simp only [List.length_append, Block.length_bytes] at hshort
    omega
  · have hc' : c' = call.plaintext ++ (call.nonce.bytes ++ (be32 (UInt32.ofNat call.aad.length)).bytes) :=
      (Option.some.inj hout).symm
    have hlen := congrArg List.length heq
    rw [hc, hc', ← List.append_assoc, ← List.append_assoc, ← List.append_assoc, ← List.append_assoc] at heq
    rw [List.length_append] at hlong
    rw [List.length_append, List.length_append] at hlen
    -- peel the label off the end: it fixes where the associated data stops
    obtain ⟨hrest, hlabel⟩ := List.append_inj' heq (by simp)
    obtain ⟨hrest, hnonce⟩ := List.append_inj' hrest (by simp)
    have haad : aad.length = call.aad.length := by
      have h := congrArg UInt32.toNat (be32_injective (Block.ext hlabel))
      rw [UInt32.toNat_ofNat', UInt32.toNat_ofNat', Nat.mod_eq_of_lt (by omega), Nat.mod_eq_of_lt (by omega)] at h
      exact h
    obtain ⟨rfl, rfl⟩ := List.append_inj hrest haad
    obtain rfl := Block.ext hnonce
    exact ⟨call, hcall, hkey call hcall, rfl, rfl, hout.trans (congrArg some (hc'.trans hc.symm))⟩

end AuthEnc
