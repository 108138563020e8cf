import Friendship.Proofs.Account.Spelling
import Friendship.Proofs.Identity.Readings
import Mathlib.Data.List.TakeDrop

/-!
# Signed tokens and their accounts

A token is in order if it has its three parts (`ofChars?_eq_some_iff`), the signature is that of the
first two, and its claims can be read twice (`claims?_eq_some_iff`). What becomes of it then depends
on the claims alone (`InOrder.verify_eq`); all other tokens are invalid (`verify_of_not_inOrder`).
`tokens_accepted_exactly` says which tokens are accepted, and for whom.
-/
namespace Friendship

namespace SignedToken

open Json.Reader

variable {policy : TokenPolicy} {token : String} {payload : List UInt8} {claims : Claims}

/-! ### The parts of a token -/

theorem splitLast?_eq_some_iff {cs before after : List Char} :
    splitLast? cs = some (before, after) ↔ cs = before ++ '.' :: after ∧ '.' ∉ after := by
  unfold splitLast?
  rw [List.span_eq_takeWhile_dropWhile]
  constructor
  · intro h
    split at h
    · rename_i after' before' hspan
      obtain ⟨hafter, hbefore⟩ := Prod.mk.inj hspan
      obtain ⟨rfl, rfl⟩ := Prod.mk.inj (Option.some.inj h)
      constructor
      · have hsplit := List.takeWhile_append_dropWhile (p := fun c => decide (c ≠ '.'))
          (l := cs.reverse)
        rw [hafter, hbefore] at hsplit
        rw [← List.reverse_reverse cs, ← hsplit]
        simp
      · intro hdot
        rw [← hafter, List.mem_reverse] at hdot
        simpa using List.all_eq_true.1 List.all_takeWhile _ hdot
    · cases h
  · rintro ⟨rfl, hdot⟩
    have hreverse : (before ++ '.' :: after).reverse = after.reverse ++ '.' :: before.reverse := by
      simp
    have hall : ∀ c ∈ after.reverse, decide (c ≠ '.') = true := by
      intro c hc
      rw [List.mem_reverse] at hc
      simpa using fun heq : c = '.' => hdot (heq ▸ hc)
    rw [hreverse, List.takeWhile_append_of_pos hall, List.dropWhile_append_of_pos hall]
    simp

/-- A token is split at its last two dots. -/
theorem ofChars?_eq_some_iff {cs : List Char} {p : Parts} :
    Parts.ofChars? cs = some p ↔
      cs = p.message ++ '.' :: p.signature ∧ '.' ∉ p.payload ∧ '.' ∉ p.signature := by
  obtain ⟨header, payload, signature⟩ := p
  simp only [Parts.ofChars?, Parts.message, Option.bind_eq_bind, Option.bind_eq_some_iff,
    Option.pure_def, Option.some.injEq, Parts.mk.injEq, Prod.exists, splitLast?_eq_some_iff]
  constructor
  · rintro ⟨_, _, ⟨rfl, hsignature⟩, _, _, ⟨rfl, hpayload⟩, rfl, rfl, rfl⟩
    exact ⟨rfl, hpayload, hsignature⟩
  · rintro ⟨rfl, hpayload, hsignature⟩
    exact ⟨_, _, ⟨rfl, hsignature⟩, _, _, ⟨rfl, hpayload⟩, rfl, rfl, rfl⟩

/-- A token carries a payload between its last two dots, its header names the algorithm, and it ends
with the signature of both. -/
def Signed (policy : TokenPolicy) (token : String) (payload : List UInt8) : Prop :=
  ∃ header body signature : List Char,
    token.toList = header ++ '.' :: body ++ '.' :: signature ∧ '.' ∉ body ∧ '.' ∉ signature ∧
    (∃ bytes, Text.Base64Url.decode? header = some bytes ∧
      TokenHeader.algorithm? bytes = some .hs256) ∧
    signature = Text.Base64Url.encode (Digest.hmac policy.key (bytesOf (header ++ '.' :: body))) ∧
    Text.Base64Url.decode? body = some payload

/-- A token carries one payload, whatever is wanted of it. -/
theorem Signed.unique {policy' : TokenPolicy} {payload' : List UInt8}
    (h : Signed policy token payload) (h' : Signed policy' token payload') :
    payload = payload' := by
  obtain ⟨header, body, signature, htoken, hbody, hsignature, -, -, hpayload⟩ := h
  obtain ⟨header', body', signature', htoken', hbody', hsignature', -, -, hpayload'⟩ := h'
  have hparts := (ofChars?_eq_some_iff (p := ⟨header, body, signature⟩)).2
    ⟨htoken, hbody, hsignature⟩
  have hparts' := (ofChars?_eq_some_iff (p := ⟨header', body', signature'⟩)).2
    ⟨htoken', hbody', hsignature'⟩
  obtain ⟨-, rfl, -⟩ := Parts.mk.inj (Option.some.inj (hparts.symm.trans hparts'))
  exact Option.some.inj (hpayload.symm.trans hpayload')

/-! ### The claims of a token -/

/-- Claims are read twice: in full, and for the time at which they expire. -/
def ReadTwice (payload : List UInt8) (claims : Claims) : Prop :=
  document Claims.decode payload = .ok claims ∧
    ∃ v, document (Validity.shape.decode {}) payload = .ok v

theorem claims?_eq_some_iff {expires : Nat} :
    claims? payload = some (claims, expires) ↔
      ReadTwice payload claims ∧ claims.expires = expires := by
  unfold claims? expiry? ReadTwice
  constructor
  · intro h
    split at h
    · rename_i claims' hclaims
      obtain ⟨e, he, heq⟩ := Option.map_eq_some_iff.1 h
      obtain ⟨rfl, rfl⟩ := Prod.mk.inj heq
      split at he
      · rename_i v hv
        refine ⟨⟨hclaims, v, hv⟩, ?_⟩
        rw [expires_of_document hclaims hv] at he
        split at he
        · have := Option.some.inj he
          omega
        · cases he
      · cases he
    · cases h
  · rintro ⟨⟨hclaims, v, hv⟩, hexpires⟩
    rw [hclaims, hv]
    simp only
    rw [expires_of_document hclaims hv, if_pos (by omega), hexpires]
    simp

/-- A token whose form, signature and claims are in order. -/
def InOrder (policy : TokenPolicy) (token : String) (claims : Claims) : Prop :=
  ∃ payload, Signed policy token payload ∧ ReadTwice payload claims ∧ 0 ≤ claims.expires

theorem signedClaims?_eq_some_iff {expires : Nat} :
    signedClaims? policy token = some (claims, expires) ↔
      InOrder policy token claims ∧ claims.expires = expires := by
  constructor
  · intro h
    simp only [signedClaims?, Option.bind_eq_bind, Option.bind_eq_some_iff] at h
    obtain ⟨⟨header, body, signature⟩, hparts, bytes, hheader, h⟩ := h
    obtain ⟨htoken, hbody, hsignature⟩ := ofChars?_eq_some_iff.1 hparts
    split at h
    · simp at h
    · rename_i halgorithm
      split at h
      · simp at h
      · rename_i hsign
        obtain ⟨payload, hpayload, hclaims⟩ := Option.bind_eq_some_iff.1 h
        obtain ⟨hread, hexpires⟩ := claims?_eq_some_iff.1 hclaims
        refine ⟨⟨payload, ⟨header, body, signature, htoken, hbody, hsignature,
          ⟨bytes, hheader, Classical.not_not.1 halgorithm⟩, (Classical.not_not.1 hsign).symm,
          hpayload⟩, hread, by omega⟩, hexpires⟩
  · rintro ⟨⟨payload, ⟨header, body, signature, htoken, hbody, hsignature,
      ⟨bytes, hheader, halgorithm⟩, hsign, hpayload⟩, hread, -⟩, hexpires⟩
    have hparts := (ofChars?_eq_some_iff (p := ⟨header, body, signature⟩)).2
      ⟨htoken, hbody, hsignature⟩
    have hclaims := claims?_eq_some_iff.2 ⟨hread, hexpires⟩
    have hsigned : sign policy.key (Parts.message ⟨header, body, signature⟩) = signature :=
      hsign.symm
    simp [signedClaims?, hparts, hheader, halgorithm, hsigned, hpayload, hclaims]

/-! ### What becomes of a token -/

variable {now : Int} {id : AccountId}

/-- Of a token in order it is told first that it has expired, and then that it is not acceptable. -/
theorem InOrder.verify_eq (h : InOrder policy token claims) :
    verify policy now token =
      if claims.expires < now - 60 then .error .tokenExpired
      else if claims.issuer ≠ policy.issuer ∨ claims.audience ≠ policy.audience then
        .error .tokenInvalid
      else (AccountId.read claims.subject).mapError fun _ => .tokenInvalid := by
  have hexpires : ((claims.expires.toNat : Nat) : Int) = claims.expires := by
    obtain ⟨-, -, -, hexpires⟩ := h
    omega
  have hclaims := signedClaims?_eq_some_iff.2 ⟨h, hexpires.symm⟩
  unfold verify
  rw [hclaims]
  simp only [hexpires, leeway]
  cases AccountId.read claims.subject <;> rfl

theorem verify_of_not_inOrder (h : ∀ claims, ¬ InOrder policy token claims) :
    verify policy now token = .error .tokenInvalid := by
  have hnone : signedClaims? policy token = none := by
    cases hclaims : signedClaims? policy token with
    | none => rfl
    | some found => exact absurd (signedClaims?_eq_some_iff.1 hclaims).1 (h found.1)
  unfold verify
  rw [hnone]

theorem verify_eq_ok_iff :
    verify policy now token = .ok id ↔ ∃ claims, InOrder policy token claims ∧
      now - 60 ≤ claims.expires ∧ claims.issuer = policy.issuer ∧
      claims.audience = policy.audience ∧ id.Spells claims.subject.toList := by
  constructor
  · intro h
    by_cases horder : ∃ claims, InOrder policy token claims
    · obtain ⟨claims, horder⟩ := horder
      rw [horder.verify_eq] at h
      split at h
      · cases h
      · rename_i hlate
        split at h
        · cases h
        · rename_i hpolicy
          rw [not_or, not_not, not_not] at hpolicy
          refine ⟨claims, horder, by omega, hpolicy.1, hpolicy.2, AccountId.read_eq_ok_iff.1 ?_⟩
          cases hread : AccountId.read claims.subject with
          | ok id' =>
            rw [hread] at h
            cases h
            rfl
          | error e =>
            rw [hread] at h
            cases h
    · rw [verify_of_not_inOrder (not_exists.1 horder)] at h
      cases h
  · rintro ⟨claims, horder, hlate, hissuer, haudience, hspells⟩
    rw [horder.verify_eq, if_neg (by omega), if_neg (by simp [hissuer, haudience]),
      AccountId.read_eq_ok_iff.2 hspells]
    rfl

theorem verify_eq_tokenExpired_iff :
    verify policy now token = .error .tokenExpired ↔
      ∃ claims, InOrder policy token claims ∧ claims.expires < now - 60 := by
  constructor
  · intro h
    by_cases horder : ∃ claims, InOrder policy token claims
    · obtain ⟨claims, horder⟩ := horder
      refine ⟨claims, horder, ?_⟩
      rw [horder.verify_eq] at h
      split at h
      · assumption
      · split at h
        · cases h
        · cases hread : AccountId.read claims.subject with
          | ok id =>
            rw [hread] at h
            cases h
          | error e =>
            rw [hread] at h
            cases h
    · rw [verify_of_not_inOrder (not_exists.1 horder)] at h
      cases h
  · rintro ⟨claims, horder, hlate⟩
    rw [horder.verify_eq, if_pos hlate]

/-- Nothing but these two faults is told of a token. -/
theorem verify_cases (policy : TokenPolicy) (now : Int) (token : String) :
    (∃ id, verify policy now token = .ok id) ∨
      verify policy now token = .error .tokenExpired ∨
      verify policy now token = .error .tokenInvalid := by
  by_cases horder : ∃ claims, InOrder policy token claims
  · obtain ⟨claims, horder⟩ := horder
    rw [horder.verify_eq]
    split
    · exact Or.inr (Or.inl rfl)
    · split
      · exact Or.inr (Or.inr rfl)
      · cases AccountId.read claims.subject with
        | ok id => exact Or.inl ⟨id, rfl⟩
        | error e => exact Or.inr (Or.inr rfl)
  · exact Or.inr (Or.inr (verify_of_not_inOrder (not_exists.1 horder)))

theorem InOrder.unique {policy' : TokenPolicy} {claims' : Claims} (h : InOrder policy token claims)
    (h' : InOrder policy' token claims') : claims = claims' := by
  obtain ⟨payload, hsigned, ⟨hread, -⟩, -⟩ := h
  obtain ⟨payload', hsigned', ⟨hread', -⟩, -⟩ := h'
  obtain rfl := hsigned.unique hsigned'
  exact Except.ok.inj (hread.symm.trans hread')

/-- A token is accepted for an id exactly if it is in order up to its claims, these have not expired
for more than a minute, issuer and audience are those wanted, and the subject is spelled like the
id. It is told to have expired exactly if it is in order and has expired for longer, and is invalid
in all other cases. So a token stands for one id, one issuer and one audience. An object that does
not tell when the token becomes valid can be read twice if it can be read once. -/
theorem tokens_accepted_exactly :
    (∀ (policy : TokenPolicy) (now : Int) (token : String) (id : AccountId),
      verify policy now token = .ok id ↔
        ∃ claims, InOrder policy token claims ∧ now - 60 ≤ claims.expires ∧
          claims.issuer = policy.issuer ∧ claims.audience = policy.audience ∧
          id.Spells claims.subject.toList) ∧
    (∀ (policy : TokenPolicy) (now : Int) (token : String),
      verify policy now token = .error .tokenExpired ↔
        ∃ claims, InOrder policy token claims ∧ claims.expires < now - 60) ∧
    (∀ (policy : TokenPolicy) (now : Int) (token : String),
      (∃ id, verify policy now token = .ok id) ∨
        verify policy now token = .error .tokenExpired ∨
        verify policy now token = .error .tokenInvalid) ∧
    (∀ (policy policy' : TokenPolicy) (now now' : Int) (token : String) (id id' : AccountId),
      verify policy now token = .ok id → verify policy' now' token = .ok id' →
        id = id' ∧ policy.issuer = policy'.issuer ∧ policy.audience = policy'.audience) ∧
    ∀ (payload : List UInt8) (claims : Claims) (start : Option Int),
      document Claims.decode payload = .ok claims →
      document (wholeStart.decode none) payload = .ok start → ReadTwice payload claims := by
  refine ⟨fun policy now token id => verify_eq_ok_iff,
    fun policy now token => verify_eq_tokenExpired_iff, verify_cases, ?_,
    fun payload claims start hread hstart =>
      ⟨hread, exists_document_of_wholeStart hread hstart⟩⟩
  intro policy policy' now now' token id id' h h'
  obtain ⟨claims, horder, -, hissuer, haudience, hspells⟩ := verify_eq_ok_iff.1 h
  obtain ⟨claims', horder', -, hissuer', haudience', hspells'⟩ := verify_eq_ok_iff.1 h'
  obtain rfl := horder.unique horder'
  refine ⟨?_, hissuer.symm.trans hissuer', haudience.symm.trans haudience'⟩
  have hread := AccountId.read_eq_ok_iff.2 hspells
  have hread' := AccountId.read_eq_ok_iff.2 hspells'
  exact Except.ok.inj (hread.symm.trans hread')

end SignedToken

namespace Sample

/-- The account that the tokens stand for. -/
def bearer : AccountId :=
  ⟨[0x6f, 0x1c, 0x2a, 0x47, 0x7a, 0x38, 0x4d, 0x0e,
    0x9d, 0x3b, 0x2f, 0x0a, 0x1c, 0x9e, 0x5b, 0x11], rfl⟩

def wanted : TokenPolicy := ⟨"i", "a", [107]⟩

def bearerClaims : Claims :=
  ⟨"6f1c2a47-7a38-4d0e-9d3b-2f0a1c9e5b11", 4102444800, 1, "i", "a", "j"⟩

/-- The claims in an object. -/
def plainClaims : List UInt8 :=
  SignedToken.bytesOf ("\x7b\"sub\":\"6f1c2a47-7a38-4d0e-9d3b-2f0a1c9e5b11\",\"exp\":4102444800," ++
    "\"iat\":1,\"iss\":\"i\",\"aud\":\"a\",\"jti\":\"j\"\x7d").toList

/-- The claims, and twice when the token becomes valid. -/
def repetitiveClaims : List UInt8 :=
  SignedToken.bytesOf ("\x7b\"sub\":\"6f1c2a47-7a38-4d0e-9d3b-2f0a1c9e5b11\",\"exp\":4102444800," ++
    "\"iat\":1,\"iss\":\"i\",\"aud\":\"a\",\"jti\":\"j\",\"nbf\":1,\"nbf\":2\x7d").toList

/-- A header that names the algorithm. -/
def header : String := "eyJhbGciOiJIUzI1NiJ9"

def plainBody : String :=
  "eyJzdWIiOiI2ZjFjMmE0Ny03YTM4LTRkMGUtOWQzYi0yZjBhMWM5ZTViMTEiLCJleHAiOjQxMDI0NDQ4MDAsImlhdCI6M" ++
  "SwiaXNzIjoiaSIsImF1ZCI6ImEiLCJqdGkiOiJqIn0"

def repetitiveBody : String :=
  "eyJzdWIiOiI2ZjFjMmE0Ny03YTM4LTRkMGUtOWQzYi0yZjBhMWM5ZTViMTEiLCJleHAiOjQxMDI0NDQ4MDAsImlhdCI6M" ++
  "SwiaXNzIjoiaSIsImF1ZCI6ImEiLCJqdGkiOiJqIiwibmJmIjoxLCJuYmYiOjJ9"

def plainToken : String :=
  header ++ "." ++ plainBody ++ ".FN3zEaMTl88ysMkJN9vVCCSJm9Zz2QTPZA2WnDGaGmI"

def repetitiveToken : String :=
  header ++ "." ++ repetitiveBody ++ ".zLo8PSHe3cZY5HEoLMxTAJh0fGMyS5HPqhh6UDHpEoo"

theorem spells_bearer : bearer.Spells bearerClaims.subject.toList := by
  have htext : bearerClaims.subject.toList = bearer.chars := by decide +kernel
  exact htext ▸ AccountId.spells_chars bearer

end Sample

namespace SignedToken

open Json.Reader

theorem algorithm_header : ∃ bytes, Text.Base64Url.decode? Sample.header.toList = some bytes ∧
    TokenHeader.algorithm? bytes = some .hs256 :=
  ⟨bytesOf "\x7b\"alg\":\"HS256\"\x7d".toList, by decide +kernel, by decide +kernel⟩

theorem signed_plainToken : Signed Sample.wanted Sample.plainToken Sample.plainClaims := by
  refine ⟨Sample.header.toList, Sample.plainBody.toList,
    "FN3zEaMTl88ysMkJN9vVCCSJm9Zz2QTPZA2WnDGaGmI".toList, ?_, ?_, ?_, algorithm_header, ?_, ?_⟩ <;>
    decide +kernel

theorem signed_repetitiveToken :
    Signed Sample.wanted Sample.repetitiveToken Sample.repetitiveClaims := by
  refine ⟨Sample.header.toList, Sample.repetitiveBody.toList,
    "zLo8PSHe3cZY5HEoLMxTAJh0fGMyS5HPqhh6UDHpEoo".toList, ?_, ?_, ?_, algorithm_header, ?_, ?_⟩ <;>
    decide +kernel

/-- The token tells nothing of when it becomes valid, is accepted until a minute after its time, and
under no other issuer. -/
theorem tokens_accepted_exactly_plain :
    document Claims.decode Sample.plainClaims = .ok Sample.bearerClaims ∧
    document (wholeStart.decode none) Sample.plainClaims = .ok none ∧
    verify Sample.wanted 4102444860 Sample.plainToken = .ok Sample.bearer ∧
    verify Sample.wanted 4102444861 Sample.plainToken = .error .tokenExpired ∧
    ∀ now id, verify ⟨"j", "a", [107]⟩ now Sample.plainToken ≠ .ok id := by
  have hclaims : document Claims.decode Sample.plainClaims = .ok Sample.bearerClaims := by
    decide +kernel
  have hstart : document (wholeStart.decode none) Sample.plainClaims = .ok none := by
    decide +kernel
  obtain ⟨haccepted, hexpired, -, hone, htwice⟩ := tokens_accepted_exactly
  have horder : InOrder Sample.wanted Sample.plainToken Sample.bearerClaims :=
    ⟨_, signed_plainToken, htwice _ _ _ hclaims hstart, by decide⟩
  have hok : verify Sample.wanted 4102444860 Sample.plainToken = .ok Sample.bearer :=
    (haccepted _ _ _ _).2 ⟨_, horder, by decide, rfl, rfl, Sample.spells_bearer⟩
  refine ⟨hclaims, hstart, hok, (hexpired _ _ _).2 ⟨_, horder, by decide⟩, fun now id h => ?_⟩
  have hissuer : "i" = "j" := (hone _ _ _ _ _ _ _ hok h).2.1
  exact absurd hissuer (by decide)

/-- A token that tells twice when it becomes valid is refused, though the rest of it is in order:
its claims are not read a second time. -/
theorem repetitive_token_refused :
    Signed Sample.wanted Sample.repetitiveToken Sample.repetitiveClaims ∧
    document Claims.decode Sample.repetitiveClaims = .ok Sample.bearerClaims ∧
    0 ≤ Sample.bearerClaims.expires ∧ 1700000000 - 60 ≤ Sample.bearerClaims.expires ∧
    Sample.bearerClaims.issuer = Sample.wanted.issuer ∧
    Sample.bearerClaims.audience = Sample.wanted.audience ∧
    Sample.bearer.Spells Sample.bearerClaims.subject.toList ∧
    verify Sample.wanted 1700000000 Sample.repetitiveToken = .error .tokenInvalid := by
  refine ⟨signed_repetitiveToken, by decide +kernel, by decide, by decide, rfl, rfl,
    Sample.spells_bearer, verify_of_not_inOrder ?_⟩
  rintro claims ⟨payload, hsigned, ⟨-, v, hv⟩, -⟩
  have hpayload : payload = Sample.repetitiveClaims := hsigned.unique signed_repetitiveToken
  have hfails : (document (Validity.shape.decode {}) Sample.repetitiveClaims).isOk = false := by
    decide +kernel
  rw [← hpayload, hv] at hfails
  cases hfails

end SignedToken
end Friendship
