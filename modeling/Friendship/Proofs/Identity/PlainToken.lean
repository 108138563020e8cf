import Friendship.Identity.PlainToken
import Friendship.Proofs.Account.Spelling

/-!
# Plain tokens and their accounts

A plain token is the fixed text followed by an id in any of its spellings, and stands for that id:
`verify_eq_ok_iff`. The token that is written for an account is one of its tokens, and the only one
that is written; whoever replaces a token by it does not change whom it stands for, which
`tokens_round_trip` says together with what else is accepted.
-/
namespace Friendship

namespace PlainToken

variable {token : String} {id : AccountId}

theorem after?_eq_some_iff {front cs rest : List Char} :
    after? front cs = some rest ↔ cs = front ++ rest := by
  fun_induction after? front cs with
  | case1 => simp
  | case2 => simp
  | case3 front c cs ih => simp [ih]
  | case4 p front c cs hne => simp [Ne.symm hne]

/-- A token is accepted for an account if an id follows the fixed text that is read as the
account's. -/
theorem verify_eq_ok_iff :
    verify token = .ok id ↔
      ∃ spelling : String, token = lead ++ spelling ∧ AccountId.read spelling = .ok id := by
  unfold verify
  constructor
  · intro h
    split at h
    case h_1 => cases h
    case h_2 rest hrest =>
      split at h <;> cases h
      rename_i hread
      refine ⟨String.ofList rest, ?_, ?_⟩
      · rw [← String.toList_inj, String.toList_append, String.toList_ofList]
        exact after?_eq_some_iff.1 hrest
      · rw [AccountId.read, String.toList_ofList]
        exact hread
  · rintro ⟨spelling, rfl, hread⟩
    have hrest : after? lead.toList (lead ++ spelling).toList = some spelling.toList :=
      after?_eq_some_iff.2 String.toList_append
    have hchars : AccountId.readChars spelling.toList = .ok id := hread
    rw [hrest]
    simp only [hchars]

theorem eq_tokenInvalid_of_verify {e : AuthError} (h : verify token = .error e) :
    e = .tokenInvalid := by
  unfold verify at h
  split at h
  · cases h
    rfl
  · split at h <;> cases h
    rfl

theorem verify_ofId (id : AccountId) : verify (ofId id) = .ok id := by
  refine verify_eq_ok_iff.2 ⟨id.text, rfl, ?_⟩
  rw [AccountId.read, AccountId.text, String.toList_ofList]
  exact AccountId.readChars_chars id

/-- The token written for an account is accepted as that account's, so no two accounts share it.
Exactly those texts are accepted that consist of the fixed text and a spelling of an id, and each
stands for the account whose written token could be put in its place; all others are invalid. -/
theorem tokens_round_trip :
    (∀ id, verify (ofId id) = .ok id) ∧
    (∀ a b, ofId a = ofId b → a = b) ∧
    (∀ token id, verify token = .ok id ↔
      ∃ spelling : String, token = lead ++ spelling ∧ AccountId.read spelling = .ok id) ∧
    (∀ spelling id, AccountId.read spelling = .ok id ↔ id.Spells spelling.toList) ∧
    (∀ token id, verify token = .ok id → verify (ofId id) = verify token) ∧
    ∀ token, (∀ id, verify token ≠ .ok id) → verify token = .error .tokenInvalid := by
  refine ⟨verify_ofId, fun a b h => ?_, fun token id => verify_eq_ok_iff,
    fun spelling id => AccountId.read_eq_ok_iff, fun token id h => ?_, fun token h => ?_⟩
  · have ha := verify_ofId a
    rw [h, verify_ofId] at ha
    exact (Except.ok.inj ha).symm
  · rw [h, verify_ofId]
  · cases hverify : verify token with
    | ok id => exact absurd hverify (h id)
    | error e => rw [eq_tokenInvalid_of_verify hverify]

/-- An id in capitals and braces is no written token, but stands for the same account as one. -/
theorem tokens_round_trip_braced :
    verify "fake-access-token:\x7b6F1C2A47-7A38-4D0E-9D3B-2F0A1C9E5B11\x7d" =
      .ok ⟨[0x6f, 0x1c, 0x2a, 0x47, 0x7a, 0x38, 0x4d, 0x0e,
        0x9d, 0x3b, 0x2f, 0x0a, 0x1c, 0x9e, 0x5b, 0x11], rfl⟩ ∧
    verify (ofId ⟨[0x6f, 0x1c, 0x2a, 0x47, 0x7a, 0x38, 0x4d, 0x0e,
        0x9d, 0x3b, 0x2f, 0x0a, 0x1c, 0x9e, 0x5b, 0x11], rfl⟩) =
      verify "fake-access-token:\x7b6F1C2A47-7A38-4D0E-9D3B-2F0A1C9E5B11\x7d" := by
  have hverify : verify "fake-access-token:\x7b6F1C2A47-7A38-4D0E-9D3B-2F0A1C9E5B11\x7d" =
      .ok ⟨[0x6f, 0x1c, 0x2a, 0x47, 0x7a, 0x38, 0x4d, 0x0e,
        0x9d, 0x3b, 0x2f, 0x0a, 0x1c, 0x9e, 0x5b, 0x11], rfl⟩ := by
    rfl
  exact ⟨hverify, tokens_round_trip.2.2.2.2.1 _ _ hverify⟩

end PlainToken
end Friendship
